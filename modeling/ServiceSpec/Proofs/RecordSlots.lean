import ServiceSpec.Form.Schema
import ServiceSpec.Proofs.FormRoundTrip
import ServiceSpec.Proofs.Outcomes

/-!
# Filling the slots of records

A record is read entry by entry, and each entry fills the slot of the member that has its key.  The
order of the entries does not matter for whether this succeeds: it does if every value under a known
key can be read, no such key stands twice, and a strict record knows all keys.  What is left of a
record then are the slots that no entry fills, and it can be made up if none of them belongs to a
member that must be given.

## Main definitions

* `RecordReader.Lawful`: reading a value fills its slot and no other one

## Main results

* `RecordReader.Lawful.fillNamed_ok_iff`: when entries can be read into their slots
* `RecordReader.Lawful.isFilled_of_fillNamed`: the slots that entries fill
* `Members.lawful_inMemory`: members with distinct keys make up such a record
* `Members.fillAll_keyed`: the entries that are left over
* `Members.exists_finish_of_fillNamed`: the members can be made up from what has been read
-/

namespace ServiceSpec

open ValueReader

section Reader

variable {σ τ : Type} {r : RecordReader (ValueReader Document) σ τ}
  {entries : List (String × Document)} {s s' : σ} {x : Slot (ValueReader Document) σ}

theorem RecordReader.slot?_eq_some {key : String} (h : r.slot? key = some x) :
    x ∈ r.slots ∧ x.key = key :=
  ⟨List.mem_of_find?_eq_some h, by simpa using List.find?_some h⟩

theorem RecordReader.isSome_slot?_iff {key : String} : (r.slot? key).isSome ↔ key ∈ r.keys := by
  simp [slot?, keys, List.find?_isSome]

/-- An entry is passed over if no slot takes it, and otherwise read into an empty slot. -/
theorem fillNamed_cons_eq_ok_iff {e : String × Document} :
    fillNamed r (e :: entries) s = .ok s' ↔
      (r.slot? e.1 = none ∧ r.strict = false ∧ fillNamed r entries s = .ok s') ∨
      ∃ x f, r.slot? e.1 = some x ∧ x.isFilled s = false ∧ x.read e.2 = .ok f ∧
        fillNamed r entries (f s) = .ok s' := by
  simp only [fillNamed, fill]
  cases hslot : r.slot? e.1 with
  | none =>
    cases hstrict : r.strict <;>
      simp [RecordReader.refusal?, hstrict, bind, Except.bind]
  | some x =>
    cases hfilled : x.isFilled s with
    | true => simp [hfilled, bind, Except.bind]
    | false =>
      cases hread : x.read e.2 with
      | error p => simp [hfilled, hread, bind, Except.bind]
      | ok f => simp [hfilled, hread, bind, Except.bind, pure, Except.pure]

/-- What is expected of the slots of a record: their keys are distinct, and reading a value fills
its slot and no other one. -/
structure RecordReader.Lawful (r : RecordReader (ValueReader Document) σ τ) : Prop where
  nodup_keys : r.keys.Nodup
  isFilled_start : ∀ x ∈ r.slots, x.isFilled r.start = false
  isFilled_read : ∀ x ∈ r.slots, ∀ d f, x.read d = .ok f → ∀ y ∈ r.slots, ∀ s,
    (y.isFilled (f s) ↔ y.key = x.key ∨ y.isFilled s)

namespace RecordReader.Lawful

variable {y : Slot (ValueReader Document) σ} {d : Document} {f : σ → σ}

theorem isFilled_read_eq_false_iff (hr : r.Lawful) (hy : y ∈ r.slots) (hread : y.read d = .ok f)
    (hx : x ∈ r.slots) : x.isFilled (f s) = false ↔ x.key ≠ y.key ∧ x.isFilled s = false := by
  rw [← Bool.not_eq_true, hr.isFilled_read y hy d f hread x hx s, not_or, Bool.not_eq_true]

/-- The slots that entries fill. -/
theorem isFilled_of_fillNamed (hr : r.Lawful) (h : fillNamed r entries s = .ok s')
    (hx : x ∈ r.slots) : x.isFilled s' ↔ x.isFilled s ∨ x.key ∈ entries.map (·.1) := by
  induction entries generalizing s with
  | nil =>
    cases h
    simp
  | cons e rest ih =>
    rw [List.map_cons, List.mem_cons]
    rcases fillNamed_cons_eq_ok_iff.mp h with ⟨hslot, -, hrest⟩ | ⟨y, f, hslot, -, hread, hrest⟩
    · have hne : x.key ≠ e.1 := by
        intro heq
        have hmem : x.key ∈ r.keys := List.mem_map_of_mem hx
        rw [heq, ← isSome_slot?_iff, hslot] at hmem
        cases hmem
      rw [ih hrest, or_iff_right hne]
    · obtain ⟨hy, hkey⟩ := slot?_eq_some hslot
      rw [ih hrest, hr.isFilled_read y hy _ f hread x hx, hkey, or_assoc, or_left_comm]

/-- **When entries can be read into their slots**: those under a known key stand there only once,
the slot is empty, and what they hold can be read; and a strict record knows all keys. -/
theorem fillNamed_ok_iff (hr : r.Lawful) :
    (∃ s', fillNamed r entries s = .ok s') ↔
      (∀ e ∈ entries, ∀ x, r.slot? e.1 = some x →
        x.isFilled s = false ∧ ∃ f, x.read e.2 = .ok f) ∧
      ((entries.map (·.1)).filter (· ∈ r.keys)).Nodup ∧
      (r.strict → ∀ e ∈ entries, e.1 ∈ r.keys) := by
  induction entries generalizing s with
  | nil => simp [fillNamed]
  | cons e rest ih =>
    simp only [fillNamed_cons_eq_ok_iff, List.forall_mem_cons, List.map_cons]
    cases hslot : r.slot? e.1 with
    | none =>
      have hkey : e.1 ∉ r.keys := by
        rw [← isSome_slot?_iff, hslot]
        simp
      rw [List.filter_cons_of_neg (by simpa using hkey)]
      cases hstrict : r.strict with
      | true => simp [hkey]
      | false => simpa [hstrict] using ih
    | some y =>
      obtain ⟨hy, hyk⟩ := slot?_eq_some hslot
      have hkey : e.1 ∈ r.keys := hyk ▸ List.mem_map_of_mem hy
      rw [List.filter_cons_of_pos (by simpa using hkey), List.nodup_cons]
      constructor
      · rintro ⟨s', ⟨hnone, -⟩ | ⟨x, f, hx, hempty, hread, hrest⟩⟩
        · cases hnone
        cases hx
        obtain ⟨heach, hnodup, hstrict⟩ := ih.mp ⟨s', hrest⟩
        refine ⟨⟨fun x hx => ?_, fun e' he' x hx => ?_⟩, ⟨fun hmem => ?_, hnodup⟩,
          fun h => ⟨hkey, hstrict h⟩⟩
        · cases hx
          exact ⟨hempty, f, hread⟩
        · obtain ⟨hfree, hread'⟩ := heach e' he' x hx
          have hx := (slot?_eq_some hx).1
          exact ⟨((hr.isFilled_read_eq_false_iff hy hread hx).mp hfree).2, hread'⟩
        · obtain ⟨e', he', heq⟩ := List.mem_map.mp (List.mem_of_mem_filter hmem)
          have hfree := (heach e' he' y (by rw [heq, hslot])).1
          exact ((hr.isFilled_read_eq_false_iff hy hread hy).mp hfree).1 rfl
      · rintro ⟨⟨hhead, heach⟩, ⟨hnot, hnodup⟩, hstrict⟩
        obtain ⟨hempty, f, hread⟩ := hhead y rfl
        -- the slots that later entries need are still empty, for their keys are other ones
        have hrest : ∃ s', fillNamed r rest (f s) = .ok s' := by
          refine ih.mpr ⟨fun e' he' x hx => ?_, hnodup, fun h => (hstrict h).2⟩
          obtain ⟨hfree, hread'⟩ := heach e' he' x hx
          obtain ⟨hx, hxk⟩ := slot?_eq_some hx
          refine ⟨(hr.isFilled_read_eq_false_iff hy hread hx).mpr ⟨fun heq => ?_, hfree⟩, hread'⟩
          have hmem : e.1 ∈ rest.map (·.1) :=
            List.mem_map.mpr ⟨e', he', by rw [← hxk, heq, hyk]⟩
          exact hnot (List.mem_filter.mpr ⟨hmem, by simpa using hkey⟩)
        obtain ⟨s', hs'⟩ := hrest
        exact ⟨s', .inr ⟨y, f, rfl, hempty, hread, hs'⟩⟩

end RecordReader.Lawful

end Reader

namespace Members

variable {title : Title} {strict buffered : Bool}

@[simp] theorem keys_inMemory : {σ τ : Type} → (members : Members σ τ) →
    (members.inMemory title strict buffered).keys = members.keys
  | _, _, .nil => rfl
  | _, _, .cons member form rest => by
    have ih := keys_inMemory rest
    simp only [RecordReader.keys, inMemory, reader, slots, keys, List.map_cons, List.map_map]
      at ih ⊢
    rw [← ih]
    rfl

/-- **Members with distinct keys** make up a record whose slots do not disturb each other. -/
theorem lawful_inMemory : {σ τ : Type} → (members : Members σ τ) → members.keys.Nodup →
    (members.inMemory title strict buffered).Lawful
  | _, _, .nil, _ => by
    refine ⟨List.nodup_nil, ?_, ?_⟩ <;> intro x hx <;> cases hx
  | _, _, .cons member form rest, hkeys => by
    obtain ⟨hnot, hrest⟩ := List.nodup_cons.mp hkeys
    have ih := lawful_inMemory rest hrest
    have hne : ∀ x ∈ (rest.inMemory title strict buffered).slots, x.key ≠ member.key := by
      rintro x hx heq
      have hmem : x.key ∈ (rest.inMemory title strict buffered).keys := List.mem_map_of_mem hx
      rw [keys_inMemory, heq] at hmem
      exact hnot hmem
    refine ⟨by rw [keys_inMemory]; exact hkeys, ?_, ?_⟩
    · intro x hx
      rcases List.mem_cons.mp hx with rfl | hx
      · rfl
      · obtain ⟨y, hy, rfl⟩ := List.mem_map.mp hx
        exact ih.isFilled_start y hy
    · -- whether the first slot is filled does not depend on the others, nor they on it
      intro x hx d f hread y hy p
      rcases List.mem_cons.mp hx with rfl | hx
      · obtain ⟨a, -, rfl⟩ := exists_of_map_eq_ok hread
        rcases List.mem_cons.mp hy with rfl | hy
        · simp
        · obtain ⟨z, hz, rfl⟩ := List.mem_map.mp hy
          exact (or_iff_right (hne z hz)).symm
      · obtain ⟨w, hw, rfl⟩ := List.mem_map.mp hx
        obtain ⟨g, hg, rfl⟩ := exists_of_map_eq_ok hread
        rcases List.mem_cons.mp hy with rfl | hy
        · exact (or_iff_right (hne w hw).symm).symm
        · obtain ⟨z, hz, rfl⟩ := List.mem_map.mp hy
          exact ih.isFilled_read w hw d g hg z hz p.2

/-- Entries that no slot takes are left over. -/
theorem fillAll_keyed {σ τ : Type} (r : RecordReader (ValueReader Document) σ τ)
    (entries : List (String × Document)) (s : σ) :
    fillAll Document.shape r (keyed entries) s = (fillNamed r entries s).map fun s' =>
      (s', entries.filter (·.1 ∉ r.keys)) := by
  induction entries generalizing s with
  | nil => rfl
  | cons e rest ih =>
    change (fill r s e.1 e.2).bind _ = Except.map _ ((fill r s e.1 e.2).bind _)
    cases hslot : r.slot? e.1 with
    | none =>
      have hkey : e.1 ∉ r.keys := by
        rw [← RecordReader.isSome_slot?_iff, hslot]
        simp
      rw [List.filter_cons_of_pos (by simpa using hkey)]
      simp only [fill, hslot, RecordReader.refusal?]
      cases r.strict with
      | true => rfl
      | false =>
        change Except.map _ (fillAll Document.shape r (keyed rest) s) = _
        rw [ih]
        cases fillNamed r rest s <;> rfl
    | some x =>
      have hkey : e.1 ∈ r.keys := by
        rw [← RecordReader.isSome_slot?_iff, hslot]
        rfl
      rw [List.filter_cons_of_neg (by simpa using hkey)]
      rcases fill_of_slot r hslot s e.2 with ⟨p, hp⟩ | ⟨s', hs⟩
      · rw [hp]
        rfl
      · rw [hs]
        exact ih s'

theorem required_subset_keys : {σ τ : Type} → (members : Members σ τ) →
    members.required ⊆ members.keys
  | _, _, .nil => List.nil_subset _
  | _, _, .cons member form rest => by
    have ih := required_subset_keys rest
    unfold required keys
    split
    · exact List.cons_subset_cons _ ih
    · exact List.subset_cons_of_subset _ ih

/-- The members can be made up once the slots of those that must be given are filled. -/
theorem exists_finish_eq_ok : {σ τ : Type} →
    (members : Members σ τ) → (missing : Nat → String → Problem) → (i : Nat) → (s : σ) →
    (∀ x ∈ (members.inMemory title strict buffered).slots, x.key ∈ members.required →
      x.isFilled s) → ∃ t, members.finish missing i s = .ok t
  | _, _, .nil, _, _, _, _ => ⟨(), rfl⟩
  | _, _, .cons member form rest, missing, i, (slot, s), h => by
    obtain ⟨hhead, htail⟩ := List.forall_mem_cons.mp h
    have hrest : ∀ x ∈ (rest.inMemory title strict buffered).slots, x.key ∈ rest.required →
        x.isFilled s := by
      intro x hx hreq
      refine htail _ (List.mem_map_of_mem hx) ?_
      unfold required
      split
      · exact List.mem_cons_of_mem _ hreq
      · exact hreq
    obtain ⟨t, ht⟩ := exists_finish_eq_ok rest missing (i + 1) s hrest
    have hvalue : ∃ a, slot.or member.absent = some a := by
      cases habsent : member.absent with
      | some a => cases slot <;> simp
      | none =>
        have hreq : member.key ∈ (cons member form rest).required := by simp [required, habsent]
        obtain ⟨a, rfl⟩ := Option.isSome_iff_exists.mp (hhead hreq)
        exact ⟨a, rfl⟩
    obtain ⟨a, ha⟩ := hvalue
    refine ⟨(a, t), ?_⟩
    simp only [finish, ha, ht]
    rfl

section

variable {σ τ : Type} {members : Members σ τ} {entries : List (String × Document)}

/-- Once the entries are read, the members that must be given are there. -/
theorem exists_finish_of_fillNamed {s : σ} (hkeys : members.keys.Nodup)
    (hfill : fillNamed (members.inMemory title strict buffered) entries members.start = .ok s)
    (hrequired : ∀ name ∈ members.required, ∃ e ∈ entries, e.1 = name)
    (missing : Nat → String → Problem) (i : Nat) : ∃ t, members.finish missing i s = .ok t := by
  have hlawful : (members.inMemory title strict buffered).Lawful := lawful_inMemory members hkeys
  have hfilled : ∀ x ∈ (members.inMemory title strict buffered).slots,
      x.key ∈ members.required → x.isFilled s := by
    intro x hx hreq
    obtain ⟨e, he, hkey⟩ := hrequired _ hreq
    exact (hlawful.isFilled_of_fillNamed hfill hx).mpr (.inr (List.mem_map.mpr ⟨e, he, hkey⟩))
  exact exists_finish_eq_ok members missing i s hfilled

end

end Members

end ServiceSpec
