import ServiceSpec.Proofs.Plurals

/-!
# Plurals of plurals

A name can be given in the plural where it ends in a single `s`: such a word is taken for a plural
and left as it is.  The endings of plurals see to that.  Whatever the word and its case, they leave
a text that ends in a single small `s`, and so does the last word of that text, however the text is
cut.

Irregular plurals end otherwise, and they are not known as plurals: the table is searched for what
is to be put into the plural.  So `Person` becomes `People`, and `People` becomes `Peoples`.

## Main definitions

* `EndsInSingleS`: a text that ends in a small `s`, with another letter before it
* `hasIrregularPlural`: the last word of an identifier has an irregular plural

## Main results

* `plural_of_endsInSingleS`: what ends in a single `s` is its own plural
* `plural_plural`: the plural of a plural
* `plural_plural_iff`: which names are the same in the plural of the plural
-/

namespace ServiceSpec.Naming

namespace Chars

open ServiceSpec.Text

variable {cs v w : List Char} {ws : List (List Char)}

/-! ## Words in the plural -/

/-- The text ends in a small `s`, and not in two of them. -/
def EndsInSingleS (cs : List Char) : Prop :=
  ∃ front c, cs = front ++ [c, 's'] ∧ c.toLower ≠ 's'

theorem EndsInSingleS.append (h : EndsInSingleS cs) (stem : List Char) :
    EndsInSingleS (stem ++ cs) := by
  obtain ⟨front, c, rfl, hc⟩ := h
  exact ⟨stem ++ front, c, (List.append_assoc ..).symm, hc⟩

theorem lookup_irregular_of_endsIn {low : List Char} (h : endsIn "s" low) :
    irregular.lookup (String.ofList low) = none := by
  have htable : ∀ p ∈ irregular, ¬ endsIn "s" p.1.toList := by decide
  cases hl : irregular.lookup (String.ofList low) with
  | none => rfl
  | some many =>
    obtain ⟨before, after, htab, -⟩ := List.lookup_eq_some_iff.mp hl
    have hrow := htable (String.ofList low, many) (htab ▸ by simp)
    rw [String.toList_ofList] at hrow
    exact absurd h hrow

theorem getLast?_of_endsIn {e : String} (he : e.toList ≠ []) (h : endsIn e cs) :
    cs.getLast? = e.toList.getLast? := by
  obtain ⟨k, rfl⟩ := List.isSuffixOf_iff_suffix.mp h
  exact List.getLast?_append_of_ne_nil k he

/-- A word that ends in a single `s` is taken for a plural. -/
theorem pluralWord_eq_self (hs : endsIn "s" (lowerWord w)) (hss : ¬ endsIn "ss" (lowerWord w)) :
    pluralWord w = w := by
  have hother : ∀ e ∈ ["ss", "x", "z", "ch", "sh"], ¬ endsIn e (lowerWord w) := by
    rw [List.forall_mem_cons]
    refine ⟨hss, fun e he hends => ?_⟩
    have hlast : ∀ e ∈ ["x", "z", "ch", "sh"], e.toList ≠ [] ∧
        e.toList.getLast? ≠ "s".toList.getLast? := by decide
    obtain ⟨hne, hdiffers⟩ := hlast e he
    exact hdiffers ((getLast?_of_endsIn hne hends).symm.trans (getLast?_of_endsIn (by decide) hs))
  have hany : ["ss", "x", "z", "ch", "sh"].any (endsIn · (lowerWord w)) = false := by
    simpa only [List.any_eq_false] using hother
  simp only [pluralWord, lookup_irregular_of_endsIn hs, hany, hs, Bool.false_eq_true, if_false,
    if_true]

/-- The last word of a text that ends in a single `s` ends in it too, and is taken for a plural. -/
theorem pluralWord_of_suffix {stem : List Char} (ha : IsAscii v) (hne : v ≠ [])
    (h : EndsInSingleS (stem ++ v)) : pluralWord v = v := by
  obtain ⟨front, c, hcut, hc⟩ := h
  obtain ⟨k, x, rfl⟩ := (List.eq_nil_or_concat v).resolve_left hne
  rw [List.concat_eq_append] at hcut ha ⊢
  rw [← List.append_assoc, List.append_cons front] at hcut
  obtain ⟨hfront, hx⟩ := List.append_inj' hcut rfl
  obtain rfl : x = 's' := by simpa using hx
  have hlow : lowerWord (k ++ ['s']) = lowerWord k ++ ['s'] :=
    lowerWord_append_of_isSmall (isAscii_append.mp ha).1 (by decide)
  refine pluralWord_eq_self ?_ fun hss => hc ?_
  · rw [hlow]
    exact List.isSuffixOf_iff_suffix.mpr (List.suffix_append ..)
  · -- another `s` before the last one would stand at the end of the text as well
    obtain ⟨j, hj⟩ := List.isSuffixOf_iff_suffix.mp hss
    rw [hlow, lowerWord_of_isAscii (isAscii_append.mp ha).1,
      show "ss".toList = ['s'] ++ ['s'] by decide, ← List.append_assoc] at hj
    have hk : (k.map Char.toLower).getLast? = some 's' := by
      rw [← List.append_inj_left' hj rfl, List.getLast?_concat]
    rw [List.getLast?_map] at hk
    obtain ⟨d, hd, hds⟩ := Option.map_eq_some_iff.mp hk
    have hlast := congrArg List.getLast? hfront
    rw [List.getLast?_concat, List.getLast?_append, hd] at hlast
    obtain rfl : d = c := by simpa using hlast
    exact hds

/-- **What ends in a single `s` is its own plural.** -/
theorem plural_of_endsInSingleS (ha : IsAscii cs) (h : EndsInSingleS cs) : plural cs = cs := by
  obtain ⟨front, c, hcs, -⟩ := id h
  obtain ⟨ws, v, hwords⟩ := (List.eq_nil_or_concat (words cs)).resolve_left
    fun hnil => absurd (words_eq_nil_iff.mp hnil 's' (by simp [hcs])) (by decide)
  rw [List.concat_eq_append] at hwords
  obtain ⟨stem, seps, rfl, hseps, hv, -, -⟩ := exists_of_words_eq_concat ha hwords
  obtain rfl : seps = [] := by
    by_contra hne
    have hlast := congrArg List.getLast? hcs
    rw [← List.append_assoc, List.getLast?_append_of_ne_nil _ hne] at hlast
    exact absurd (hseps 's' (List.mem_of_getLast? (hlast.trans (by simp)))) (by decide)
  rw [List.append_nil] at ha h
  rw [plural_eq hwords, beforeLast_eq hv hseps, List.append_nil,
    pluralWord_of_suffix (isAscii_append.mp ha).2 hv.ne_nil h]

/-- A regular plural ends in a single `s`, or the word was taken for one. -/
theorem pluralWord_eq_self_or (ha : IsAscii w) (hne : w ≠ [])
    (h : irregular.lookup (String.ofList (lowerWord w)) = none) :
    pluralWord w = w ∨ EndsInSingleS (pluralWord w) := by
  rw [pluralWord, h]
  simp only
  split
  · exact .inr ⟨w, 'e', rfl, by decide⟩
  split
  · exact .inl rfl
  rename_i hs
  split
  · exact .inr ⟨w.dropLast ++ ['i'], 'e', by simp, by decide⟩
  · obtain ⟨front, c, rfl⟩ := (List.eq_nil_or_concat w).resolve_left hne
    rw [List.concat_eq_append] at ha hs ⊢
    refine .inr ⟨front, c, by simp, fun hc => hs ?_⟩
    rw [lowerWord_of_isAscii ha, List.map_append, List.map_singleton, hc]
    exact List.isSuffixOf_iff_suffix.mpr (List.suffix_append ..)

/-- An irregular plural gets an `s` like a word that has no plural yet. -/
theorem pluralWord_of_irregular (ha : IsAscii w) {many : String}
    (h : irregular.lookup (String.ofList (lowerWord w)) = some many) :
    pluralWord (pluralWord w) = pluralWord w ++ ['s'] := by
  have htable : ∀ p ∈ irregular, irregular.lookup p.2 = none ∧
      ["ss", "x", "z", "ch", "sh"].any (endsIn · p.2.toList) = false ∧
      endsIn "s" p.2.toList = false ∧ endsIn "y" p.2.toList = false := by decide
  obtain ⟨before, after, htab, -⟩ := List.lookup_eq_some_iff.mp h
  obtain ⟨hnone, hes, hs, hy⟩ := htable (String.ofList (lowerWord w), many) (htab ▸ by simp)
  obtain ⟨hsmall, -, hmatched⟩ := caseMatched_irregular ha h
  have hplural : pluralWord w = matchCase w many.toList := by
    rw [pluralWord, h]
  rw [hplural, pluralWord, lowerWord_of_caseMatched hsmall hmatched, String.ofList_toList, hnone]
  simp only [hes, hs, hy, Bool.false_eq_true, Bool.false_and, if_false]

/-! ## Identifiers in the plural -/

/-- Whether the last word of an identifier has an irregular plural. -/
def hasIrregularPlural (cs : List Char) : Bool :=
  (words cs).getLast?.any fun w => (irregular.lookup (String.ofList (lowerWord w))).isSome

/-- The plural of a text that ends in a word of its own. -/
theorem plural_append {stem : List Char} (ha : IsAscii v) (hv : IsWord v) (h : Parted stem v) :
    plural (stem ++ v) = stem ++ pluralWord v := by
  have hwords : words (stem ++ v) = words stem ++ [v] := by rw [words_append ha h, hv]
  have hstem : beforeLast (stem ++ (v ++ [])) v.length = stem := beforeLast_eq hv (by simp)
  rw [List.append_nil] at hstem
  rw [plural_eq hwords, hstem]

/-- **The plural of a plural** is that plural, unless it is an irregular one. -/
theorem plural_plural (ha : IsAscii cs) :
    plural (plural cs) = if hasIrregularPlural cs then plural cs ++ ['s'] else plural cs := by
  rcases List.eq_nil_or_concat (words cs) with hnil | ⟨ws, w, hwords⟩
  · have hself : plural cs = cs := by rw [plural, hnil]; rfl
    rw [hself, hself, hasIrregularPlural, hnil]
    rfl
  rw [List.concat_eq_append] at hwords
  obtain ⟨hastem, haw, hw, hparted, -⟩ := parted_beforeLast ha hwords
  have hmany := isAscii_pluralWord haw
  rw [hasIrregularPlural, hwords, List.getLast?_concat, Option.any_some, plural_eq hwords]
  cases h : irregular.lookup (String.ofList (lowerWord w)) with
  | some many =>
    obtain ⟨hword, hplace⟩ := isWord_pluralWord haw hw hparted (by simp [pluralStem?, h])
    rw [plural_append hmany hword hplace, pluralWord_of_irregular haw h]
    simp
  | none =>
    rw [Option.isSome_none, if_neg (by simp)]
    rcases pluralWord_eq_self_or haw hw.ne_nil h with hself | hs
    · rw [hself, plural_append haw hw hparted, hself]
    · exact plural_of_endsInSingleS (isAscii_append.mpr ⟨hastem, hmany⟩) (hs.append _)

end Chars

/-- Whether the last word of a name has an irregular plural. -/
def hasIrregularPlural (s : String) : Bool :=
  Chars.hasIrregularPlural s.toList

/-- **A name is the same in the plural and in the plural of it if and only if its plural is no
irregular one.**  An irregular plural gets another ending. -/
theorem plural_plural_iff {s : String} (ha : Text.IsAscii s.toList) :
    (plural (plural s) = plural s ↔ hasIrregularPlural s = false) ∧
      (hasIrregularPlural s → plural (plural s) = plural s ++ "s") := by
  have hplural : plural (plural s) =
      if hasIrregularPlural s then plural s ++ "s" else plural s := by
    rw [← String.toList_inj, plural, plural, String.toList_ofList, String.toList_ofList,
      Chars.plural_plural ha, hasIrregularPlural]
    split <;> simp
  rw [hplural]
  cases hasIrregularPlural s <;> simp

/-- An acronym at the end of a name is cut by the ending, and its plural is left as it is. -/
theorem plural_plural_classID :
    Text.IsAscii "ClassID".toList ∧ hasIrregularPlural "ClassID" = false ∧
      plural (plural "ClassID") = plural "ClassID" := by
  have hnone : hasIrregularPlural "ClassID" = false := by decide +kernel
  exact ⟨by decide, hnone, (plural_plural_iff (by decide)).1.mpr hnone⟩

/-- The plural of a person is not known as a plural. -/
theorem person_plural_repeated :
    Text.IsAscii "Person".toList ∧ plural "Person" = "People" ∧ plural "People" = "Peoples" ∧
      plural (plural "Person") ≠ plural "Person" := by
  decide +kernel

end ServiceSpec.Naming
