import ServiceSpec.Proofs.BaseExpansion
import ServiceSpec.Proofs.FilterGroups

/-!
# Resolution before expansion

A service is validated and resolved when it is read, and base expansion does both again on whatever
it is given.  The two must not disagree: what was read without an error may only fail to expand
because an object stands in the place of a filter, which reading does not look at, and what reading
refuses expansion refuses for the same reasons.

The second resolution finds every type settled, as the names that types are resolved against do not
depend on types.  So it makes no difference to expansion whether a service was resolved before.

## Main results

* `expandBase_resolve`: a service and its resolution have the same base expansion
* `validateAndResolve_agrees`: reading and base expansion accept and refuse alike
-/

namespace ServiceSpec.Service

variable {s : Service}

/-- Nothing but names of filters is reported where the place of a filter is taken. -/
theorem eq_filterNameClash_of_mem {x : ValidationError} (h : x ∈ s.filterNameViolations) :
    ∃ name owner, x = .filterNameClash name owner := by
  obtain ⟨owner, -, derived, -, -, -, -, hx⟩ := mem_filterNameViolations_iff.mp h
  exact ⟨derived.name, owner.name, hx⟩

/-- A service that was resolved is its own resolution. -/
theorem resolve_resolve (h : s.resolve.2 = []) : s.resolve.1.resolve = (s.resolve.1, []) := by
  have hexpected : TypeIndex.expected s.resolve.1 = TypeIndex.expected s := expected_mapTypes _ s
  rw [resolve, hexpected]
  exact resolveWith_of_settled (settled_resolveWith h)

/-- **A service and its resolution have the same base expansion.** -/
theorem expandBase_resolve (h : s.resolve.2 = []) : s.resolve.1.expandBase = s.expandBase := by
  have hviolations : s.resolve.1.violations = s.violations := violations_mapTypes _ s
  by_cases hv : s.violations = []
  · have hagain := resolve_resolve h
    have hentities : s.resolve.1.entities = s.entities := by
      rw [entities, hagain]
      rfl
    rw [expandBase_of_valid (hviolations.trans hv), expandBase_of_valid hv, hagain, h, base, base,
      hentities]
  · rw [expandBase_of_violations (hviolations ▸ hv), expandBase_of_violations hv, hviolations]

/-- **Reading and base expansion accept and refuse alike.**  A service that validation with
resolution accepts has no open type left, it expands like the one before resolution, and only a
clash with the name of a filter can keep it from that.  What validation reports is what expansion
reports as well, and so are the unknown types, at the same places and in the same order. -/
theorem validateAndResolve_agrees (s : Service) :
    (∀ r, s.validateAndResolve = .ok r →
      (∀ p ∈ r.locatedFields, p.2.type.isResolved) ∧ s.expandBase = r.expandBase ∧
        ((∃ b, s.expandBase = .ok b) ∨
          ∃ clashes, s.expandBase = .error (.invalid clashes) ∧
            ∀ x ∈ clashes, ∃ name owner, x = .filterNameClash name owner)) ∧
    (∀ errors, s.validate = .error errors →
      s.validateAndResolve = .error errors ∧ s.expandBase = .error (.invalid errors)) ∧
    ∀ errors, s.validate = .ok () → s.validateAndResolve = .error errors →
      ∃ unresolved, errors = unresolved.map .unknownType ∧
        s.expandBase = .error (.reference unresolved) := by
  by_cases hv : s.violations = []
  · have hread := validateAndResolve_of_valid hv
    refine ⟨fun r hr => ?_, fun errors he => ?_, fun errors _ he => ?_⟩
    · rw [hread] at hr
      split at hr
      · rename_i hknown
        obtain rfl := Except.ok.inj hr
        refine ⟨fun p hp => ?_, (expandBase_resolve hknown).symm, ?_⟩
        · have hsettled := settled_iff.mp (settled_resolveWith hknown) p hp
          exact (Bool.and_eq_true_iff.mp (TypeIndex.settles_iff.mp hsettled)).1
        · by_cases hc : s.entities.filterNameViolations = []
          · exact .inl ⟨s.base, expandBase_eq_ok_iff.mpr ⟨⟨hv, hknown, hc⟩, rfl⟩⟩
          · exact .inr ⟨_, expandBase_of_clash hv hknown hc, fun _ => eq_filterNameClash_of_mem⟩
      · cases hr
    · rw [validate_of_nil hv] at he
      cases he
    · rw [hread] at he
      split at he
      · cases he
      · rename_i hunknown
        refine ⟨s.resolve.2, (Except.error.inj he).symm, ?_⟩
        rw [expandBase_of_valid hv, if_neg (by simpa using hunknown)]
  · have hread := validateAndResolve_of_violations hv
    refine ⟨fun r hr => ?_, fun errors he => ?_, fun errors hok _ => ?_⟩
    · rw [hread] at hr
      cases hr
    · rw [validate_of_ne_nil hv] at he
      obtain rfl := Except.error.inj he
      exact ⟨hread, expandBase_of_violations hv⟩
    · exact absurd (validate_eq_ok_iff.mp hok) hv

/-- A service whose types are open: one stands for an enum, and one for nothing that is known
without the enum. -/
def clinic : Service where
  name := "Clinic"
  enums := [{ name := "Ward", values := [{ name := "North" }, { name := "South" }] }]
  resources :=
    [{ name := "Patient"
       operations := [.create, .read]
       fields :=
         [{ field := { name := "ward", type := .named "Ward" }
            operations := [.create, .read] }] }]

/-- The service is accepted, refused without its enum, and refused with its enum declared twice. -/
theorem validateAndResolve_agrees_clinic :
    (clinic.validateAndResolve = .ok clinic.resolve.1 ∧
      clinic.expandBase = clinic.resolve.1.expandBase) ∧
    (∃ unresolved, [ValidationError.unknownType ⟨.resourceField "Patient" "ward", "Ward"⟩] =
        unresolved.map .unknownType ∧
      { clinic with enums := [] }.expandBase = .error (.reference unresolved)) ∧
    { clinic with enums := clinic.enums ++ clinic.enums }.expandBase =
      .error (.invalid [.duplicateName .enum "Ward"]) := by
  have haccepted : clinic.validateAndResolve = .ok clinic.resolve.1 :=
    (validateAndResolve_of_valid (by decide +kernel)).trans (if_pos (by decide +kernel))
  have hunknown : { clinic with enums := [] }.validateAndResolve =
      .error [.unknownType ⟨.resourceField "Patient" "ward", "Ward"⟩] := by
    decide +kernel
  have hrepeated : { clinic with enums := clinic.enums ++ clinic.enums }.validate =
      .error [.duplicateName .enum "Ward"] := by
    decide +kernel
  exact ⟨⟨haccepted, ((validateAndResolve_agrees clinic).1 _ haccepted).2.1⟩,
    (validateAndResolve_agrees _).2.2 _ (by decide +kernel) hunknown,
    ((validateAndResolve_agrees _).2.1 _ hrepeated).2⟩

end ServiceSpec.Service
