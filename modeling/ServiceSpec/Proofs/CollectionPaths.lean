import ServiceSpec.Model.Service
import ServiceSpec.Proofs.Plurals

/-!
# Paths of collections

The path of a collection is the plural of the name of its resource, cut into words again and joined
by hyphens.  One would like to read it as the words of the name with the plural of the last one.
That is right for the names whose plural fits, and for no other.  `HTTPCompany` becomes
`/http-companies`, but `UserID` becomes `/user-i-ds`, since `UserIDs` has a word more when it is cut
again.

Nor can the path be the expected one by chance, as a hyphen more or less changes its length.

## Main definitions

* `Naming.PluralFits`: the plural of the last word of a name can stand in its place

## Main results

* `kebabCase_plural_iff`: when the kebab case of a plural has the plural of the last word
* `collectionPath_eq_iff`: when the path of a collection is made of the words of the name
-/

namespace ServiceSpec

namespace Naming.Chars

open ServiceSpec.Text

variable {cs w : List Char} {ws : List (List Char)}

/-! ## Kebab case -/

section Join

variable {sep a b : List Char} {front : List (List Char)}

theorem intercalate_concat (sep a : List Char) (front : List (List Char)) :
    sep.intercalate (front ++ [a]) = front.flatMap (· ++ sep) ++ a := by
  induction front with
  | nil => simp
  | cons x front ih =>
    rw [List.cons_append, List.intercalate_cons_of_ne_nil (by simp), ih, List.flatMap_cons,
      List.append_assoc (x ++ sep)]

/-- Two words at the end are not joined like one: that would be shorter. -/
theorem intercalate_ne (hsep : sep ≠ []) :
    sep.intercalate (front ++ [a, b]) ≠ sep.intercalate (front ++ [a ++ b]) := by
  have htwo : front ++ [a, b] = front ++ [a] ++ [b] := by simp
  rw [htwo, intercalate_concat, intercalate_concat, List.flatMap_append]
  intro h
  have hlength := congrArg List.length h
  have hpos := List.length_pos_of_ne_nil hsep
  simp only [List.length_append, List.flatMap_singleton] at hlength
  omega

end Join

/-- A word stays one in lower case. -/
theorem isWord_lowerWord (ha : IsAscii w) (hw : IsWord w) : IsWord (lowerWord w) := by
  have hcapital := isUppercase_of_mem_lowerWord ha
  rw [lowerWord_of_isAscii ha] at hcapital ⊢
  refine isWord_of_isUppercase_eq_false (by simpa using hw.ne_nil) fun d hd => ⟨?_, hcapital d hd⟩
  obtain ⟨c, hc, rfl⟩ := List.mem_map.mp hd
  exact forall_ascii (P := fun c => ¬ isSeparator c → ¬ isSeparator c.toLower) (by decide) (ha c hc)
    (hw.not_isSeparator c hc)

/-- **The kebab case of a plural has the plural in the place of the last word if and only if the
plural fits.** -/
theorem kebabCase_plural_iff (ha : IsAscii cs) (h : words cs = ws ++ [w]) :
    kebabCase (plural cs) = ['-'].intercalate (ws.map lowerWord ++ [plural (lowerWord w)]) ↔
      PluralFits cs := by
  obtain ⟨-, haw, hw, -⟩ := parted_beforeLast ha h
  have hlast : ws.map lowerWord ++ [plural (lowerWord w)] =
      (ws ++ [pluralWord w]).map lowerWord := by
    rw [plural_of_isWord (isWord_lowerWord haw hw), pluralWord_lowerWord haw, List.map_append]
    rfl
  rw [kebabCase, hlast]
  constructor
  · intro hjoin
    by_contra hf
    obtain ⟨front, a, b, haa, hab, ⟨hplural, hfit⟩ | ⟨hplural, hfit⟩⟩ :=
      exists_words_plural ha h hf
    all_goals
      simp only [hplural, hfit, List.map_append, List.map_cons, List.map_nil,
        lowerWord_append haa hab] at hjoin
    · exact intercalate_ne (by simp) hjoin
    · exact intercalate_ne (by simp) hjoin.symm
  · intro hf
    rw [words_plural ha h hf]

end Naming.Chars

/-! ## Collections -/

namespace Naming

/-- The text in lower case. -/
def lowercase (s : String) : String :=
  String.ofList (Text.lowerWord s.toList)

/-- The plural of the last word of a name can stand in its place. -/
def PluralFits (s : String) : Prop :=
  Chars.PluralFits s.toList

instance (s : String) : Decidable (PluralFits s) :=
  inferInstanceAs (Decidable (Chars.PluralFits s.toList))

end Naming

namespace Resource

variable {r : Resource} {front : List String} {last : String}

/-- **The path of a collection is made of the words of the name, with the plural of the last one in
its place, if and only if the plural fits.** -/
theorem collectionPath_eq_iff (ha : Text.IsAscii r.name.toList)
    (h : Naming.words r.name = front ++ [last]) :
    r.collectionPath = "/" ++ "-".intercalate
        (front.map Naming.lowercase ++ [Naming.plural (Naming.lowercase last)]) ↔
      Naming.PluralFits r.name := by
  rw [Naming.words_eq_iff, List.map_append] at h
  have hjoin : ("-".intercalate
      (front.map Naming.lowercase ++ [Naming.plural (Naming.lowercase last)])).toList =
        ['-'].intercalate ((front.map String.toList).map Text.lowerWord ++
          [Naming.Chars.plural (Text.lowerWord last.toList)]) := by
    simp [String.toList_intercalate, Naming.lowercase, Naming.plural, Function.comp_def]
  rw [Naming.PluralFits, ← Naming.Chars.kebabCase_plural_iff ha h, collectionPath,
    String.append_right_inj, ← String.toList_inj, hjoin, Naming.kebabCase, Naming.plural,
    String.toList_ofList, String.toList_ofList]

/-- The words of an acronym and of what follows it keep their places. -/
theorem collectionPath_httpCompany :
    Naming.words "HTTPCompany" = ["HTTP"] ++ ["Company"] ∧
      ({ name := "HTTPCompany" } : Resource).collectionPath = "/http-companies" := by
  have hwords : Naming.words "HTTPCompany" = ["HTTP"] ++ ["Company"] := by decide +kernel
  have hpath := (collectionPath_eq_iff (r := { name := "HTTPCompany" }) (by decide) hwords).mpr
    (by decide +kernel)
  exact ⟨hwords, hpath.trans (by decide +kernel)⟩

/-- The ending of a plural takes the last capital of an acronym for the start of a word. -/
theorem collectionPath_userID :
    Text.IsAscii "UserID".toList ∧ Naming.words "UserID" = ["User"] ++ ["ID"] ∧
      ({ name := "UserID" } : Resource).collectionPath = "/user-i-ds" ∧
      ({ name := "UserID" } : Resource).collectionPath ≠ "/" ++ "-".intercalate
        (["User"].map Naming.lowercase ++ [Naming.plural (Naming.lowercase "ID")]) := by
  decide +kernel

end Resource

end ServiceSpec
