import ServiceSpec.Proofs.WordCase

/-!
# Plurals

The plural of an identifier is made from its last word.  That can be an irregular plural in the case
of the word, or the word as it is.  In all other cases an ending of small letters is put at its end,
whatever the case of the word.

Such an ending has to go on with the word, so that the plural of the word stands where the word
stood.  It does not if the part of the word that is kept ends in two capitals, since the small
letters take the last one for a word of their own.  And it does not if nothing of the word is kept,
as in the plural of a single `Y`: a capital has set the word apart that is not there any more.

## Main definitions

* `CaseMatched`: what takes the place of a word, by the case of the word
* `pluralStem?`: the part of a word that its plural keeps
* `PluralForm`: the plural of a word, by the part that it keeps
* `PluralFits`: the plural of the last word can stand in its place

## Main results

* `pluralWord_lowerWord`: plurals and lower case can be exchanged
* `isWord_pluralWord`: the plural of a word is a word in the same place
* `words_plural`: a plural that fits changes the last word only
* `exists_words_plural`: what becomes of a plural that does not fit
-/

namespace ServiceSpec.Naming.Chars

open ServiceSpec.Text

variable {cs seps stem w xs ys : List Char} {ws : List (List Char)}

/-! ## Irregular plurals -/

/-- Irregular words and their plurals have small letters, and more than one. -/
theorem isSmall_of_irregular {low : List Char} {many : String}
    (h : irregular.lookup (String.ofList low) = some many) :
    (IsSmall low ∧ low ≠ []) ∧ IsSmall many.toList ∧ many.toList.tail ≠ [] := by
  have htable : ∀ p ∈ irregular, (IsSmall p.1.toList ∧ p.1.toList ≠ []) ∧
      IsSmall p.2.toList ∧ p.2.toList.tail ≠ [] := by decide
  obtain ⟨before, after, htab, -⟩ := List.lookup_eq_some_iff.mp h
  have hrow := htable (String.ofList low, many) (htab ▸ by simp)
  rwa [String.toList_ofList] at hrow

/-- What takes the place of a word, by the case of the word. -/
inductive CaseMatched (w many : List Char) : List Char → Prop
  /-- The word has capitals only. -/
  | capitals (h : ∀ c ∈ w, isUppercase c) : CaseMatched w many (many.map Char.toUpper)
  /-- The word starts with a capital. -/
  | capitalized {c m : Char} {rest ms : List Char} (hw : w = c :: rest) (hc : isUppercase c)
      (hm : many = m :: ms) : CaseMatched w many (m.toUpper :: ms)
  /-- The word does not start with a capital. -/
  | small {c : Char} {rest : List Char} (hw : w = c :: rest) (hc : isUppercase c = false) :
      CaseMatched w many many

theorem caseMatched (ha : IsAscii w) (hw : IsSmall (lowerWord w)) (hne : w ≠ [])
    (hs : IsSmall ys) (hys : ys ≠ []) : CaseMatched w ys (matchCase w ys) := by
  rw [lowerWord_of_isAscii ha, IsSmall, List.forall_mem_map] at hw
  obtain ⟨c, rest, rfl⟩ := List.exists_cons_of_ne_nil hne
  rw [matchCase]
  split
  · rename_i hall
    rw [flatMap_upper_of_isAscii hs.isAscii]
    refine .capitals fun c hc => isUppercase_of_isLower_toLower (ha c hc) (hw c hc) ?_
    simpa using List.all_eq_true.mp hall c hc
  split
  · rename_i hc
    obtain ⟨m, ms, rfl⟩ := List.exists_cons_of_ne_nil hys
    obtain ⟨hm, hms⟩ := List.forall_mem_cons.mp hs
    rw [capitalize, upper_of_isAscii (toNat_lt_of_isLower hm),
      flatMap_lower_of_isAscii (IsSmall.isAscii hms), IsSmall.map_toLower hms]
    exact .capitalized rfl hc rfl
  · rename_i hc
    exact .small rfl (by simpa using hc)

theorem isAscii_of_caseMatched (hs : IsSmall ys) (h : CaseMatched w ys xs) : IsAscii xs := by
  cases h with
  | capitals => exact hs.isAscii_map_toUpper
  | capitalized _ _ hm =>
    subst hm
    obtain ⟨hm, hms⟩ := List.forall_mem_cons.mp hs
    exact List.forall_mem_cons.mpr ⟨toNat_toUpper_lt_of_isLower hm, IsSmall.isAscii hms⟩
  | small => exact hs.isAscii

theorem lowerWord_of_caseMatched (hs : IsSmall ys) (h : CaseMatched w ys xs) :
    lowerWord xs = ys := by
  have ha := isAscii_of_caseMatched hs h
  cases h with
  | capitals => exact hs.lowerWord_map_toUpper
  | capitalized _ _ hm =>
    subst hm
    obtain ⟨hm, hms⟩ := List.forall_mem_cons.mp hs
    rw [lowerWord_of_isAscii ha, List.map_cons, IsSmall.map_toLower hms,
      toLower_toUpper_of_isLower hm]
  | small => exact hs.lowerWord_eq

theorem isWord_of_caseMatched (hs : IsSmall ys) (hys : ys ≠ []) (h : CaseMatched w ys xs) :
    IsWord xs := by
  cases h with
  | capitals =>
    refine isWord_of_isUppercase hs.isAscii_map_toUpper (by simpa using hys) ?_
    exact List.forall_mem_map.mpr fun c hc => isUppercase_toUpper_of_isLower (hs c hc)
  | capitalized _ _ hm =>
    subst hm
    obtain ⟨hm, hms⟩ := List.forall_mem_cons.mp hs
    exact isWord_cons_of_isSmall
      (not_isSeparator_of_isUppercase (isUppercase_toUpper_of_isLower hm)) hms
  | small => exact isWord_of_isSmall hys hs

/-- A replacement keeps its small letters for a word of small letters. -/
theorem matchCase_of_isSmall (hs : IsSmall w) (hne : w ≠ []) : matchCase w ys = ys := by
  obtain ⟨c, rest, rfl⟩ := List.exists_cons_of_ne_nil hne
  have hc : c.isLower := hs c (List.mem_cons_self ..)
  have hall : ¬ (c :: rest).all (!isLowercase ·) := by
    simp [isLowercase_of_isLower hc]
  have hhead : ¬ (c :: rest).head?.any isUppercase := by
    simp [isUppercase_of_isLower hc]
  rw [matchCase, if_neg hall, if_neg hhead]

theorem Parted.caseMatched (h : Parted stem w) (ha : IsAscii w) (hw : IsWord w) (hs : IsSmall ys)
    (hne : ys.tail ≠ []) (hm : CaseMatched w ys xs) : Parted stem xs := by
  cases hm with
  | capitals hall =>
    refine h.capitals ha hw.ne_nil hall ?_
    exact List.forall_mem_map.mpr fun c hc => isUppercase_toUpper_of_isLower (hs c hc)
  | capitalized heq hc hm =>
    subst heq hm
    obtain ⟨hm, hms⟩ := List.forall_mem_cons.mp hs
    exact h.cons_small (not_isSeparator_of_isUppercase hc)
      (fun _ => isUppercase_toUpper_of_isLower hm) hms hne
  | small heq hc =>
    subst heq
    exact parted_of_setsApart (h.setsApart (hw.not_isSeparator _ (List.mem_cons_self ..)) hc)

theorem ne_nil_of_tail (h : ys.tail ≠ []) : ys ≠ [] := by
  rintro rfl
  exact h rfl

theorem caseMatched_irregular (ha : IsAscii w) {many : String}
    (h : irregular.lookup (String.ofList (lowerWord w)) = some many) :
    IsSmall many.toList ∧ many.toList.tail ≠ [] ∧
      CaseMatched w many.toList (matchCase w many.toList) := by
  obtain ⟨⟨hlow, hlne⟩, hs, hne⟩ := isSmall_of_irregular h
  have hwne : w ≠ [] := by
    rintro rfl
    exact hlne rfl
  exact ⟨hs, hne, caseMatched ha hlow hwne hs (ne_nil_of_tail hne)⟩

/-! ## Plurals of words -/

/-- The part of a word that its plural keeps, if the plural is made by an ending. -/
def pluralStem? (word : List Char) : Option (List Char) :=
  let low := lowerWord word
  if (irregular.lookup (String.ofList low)).isSome then none
  else if ["ss", "x", "z", "ch", "sh"].any (endsIn · low) then some word
  else if endsIn "s" low then none
  else if endsIn "y" low && !(["ay", "ey", "oy", "uy"].any (endsIn · low)) then
    some word.dropLast
  else some word

/-- The plural of a word, by the part of the word that it keeps. -/
inductive PluralForm (w : List Char) : Option (List Char) → List Char → Prop
  /-- Another word takes its place, in the same case. -/
  | irregular {many matched : List Char} (hs : IsSmall many) (hne : many.tail ≠ [])
      (h : CaseMatched w many matched) : PluralForm w none matched
  /-- It is taken for a plural already. -/
  | same : PluralForm w none w
  /-- It gets an ending, which may take the place of its last character. -/
  | ending {kept dropped ending : List Char} (hw : w = kept ++ dropped) (hd : dropped.length ≤ 1)
      (hs : IsSmall ending) (hne : ending ≠ []) : PluralForm w (some kept) (kept ++ ending)

theorem exists_eq_concat_of_endsIn {e : String} (he : e.toList ≠ [])
    (h : endsIn e (lowerWord w)) : ∃ kept c, w = kept ++ [c] := by
  rcases List.eq_nil_or_concat w with rfl | ⟨kept, c, rfl⟩
  · rw [endsIn, List.isSuffixOf_iff_suffix] at h
    exact absurd (List.suffix_nil.mp h) he
  · exact ⟨kept, c, List.concat_eq_append⟩

theorem pluralForm (ha : IsAscii w) : PluralForm w (pluralStem? w) (pluralWord w) := by
  rw [pluralStem?, pluralWord]
  cases h : irregular.lookup (String.ofList (lowerWord w)) with
  | some many =>
    obtain ⟨hs, hne, hm⟩ := caseMatched_irregular ha h
    exact .irregular hs hne hm
  | none =>
    simp only [Option.isSome_none, Bool.false_eq_true, if_false]
    split
    · exact .ending (w.append_nil).symm (by simp) (by decide) (by simp)
    split
    · exact .same
    split
    · rename_i hy
      obtain ⟨kept, c, rfl⟩ := exists_eq_concat_of_endsIn (by decide)
        (Bool.and_eq_true_iff.mp hy).1
      rw [List.dropLast_concat]
      exact .ending rfl (by simp) (by decide) (by simp)
    · exact .ending (w.append_nil).symm (by simp) (by decide) (by simp)

/-- **The plural of a word in lower case is the plural in lower case.** -/
theorem pluralWord_lowerWord (ha : IsAscii w) :
    pluralWord (lowerWord w) = lowerWord (pluralWord w) := by
  rw [pluralWord, pluralWord, lowerWord_lowerWord ha]
  cases h : irregular.lookup (String.ofList (lowerWord w)) with
  | some many =>
    obtain ⟨⟨hlow, hlne⟩, -⟩ := isSmall_of_irregular h
    obtain ⟨hs, -, hm⟩ := caseMatched_irregular ha h
    change matchCase (lowerWord w) many.toList = lowerWord (matchCase w many.toList)
    rw [matchCase_of_isSmall hlow hlne, lowerWord_of_caseMatched hs hm]
  | none =>
    simp only
    split
    · exact (lowerWord_append_of_isSmall ha (by decide)).symm
    split
    · rfl
    split
    · rw [lowerWord_append_of_isSmall ha.dropLast (by decide), lowerWord_dropLast ha]
    · exact (lowerWord_append_of_isSmall ha (by decide)).symm

/-- The plural of a word is a word that can stand in its place, if it keeps no part that ends in two
capitals, and keeps some part of the word unless that is set apart anyway. -/
theorem isWord_pluralWord (ha : IsAscii w) (hw : IsWord w) (h : Parted stem w)
    (hfits : ∀ kept ∈ pluralStem? w,
      endsInCapitals kept = false ∧ (kept = [] → setsApart stem)) :
    IsWord (pluralWord w) ∧ Parted stem (pluralWord w) := by
  have hform := pluralForm ha
  generalize pluralStem? w = kept?, pluralWord w = many at hform hfits ⊢
  cases hform with
  | irregular hs hne hm =>
    exact ⟨isWord_of_caseMatched hs (ne_nil_of_tail hne) hm, h.caseMatched ha hw hs hne hm⟩
  | same => exact ⟨hw, h⟩
  | @ending kept dropped ending heq hd hs hne =>
    obtain ⟨hcapitals, hbehind⟩ := hfits kept rfl
    subst heq
    by_cases hk : kept = []
    · exact ⟨by simpa [hk] using isWord_of_isSmall hne hs, parted_of_setsApart (hbehind hk)⟩
    · have hkept := hw.of_append hk
      exact ⟨hkept.append_small hcapitals hs,
        h.append_small hk hkept.not_isSeparator hs hne⟩

theorem isAscii_pluralWord (ha : IsAscii w) : IsAscii (pluralWord w) := by
  have hform := pluralForm ha
  generalize pluralStem? w = kept?, pluralWord w = many at hform
  cases hform with
  | irregular hs _ hm => exact isAscii_of_caseMatched hs hm
  | same => exact ha
  | ending heq hd hs hne =>
    subst heq
    exact isAscii_append.mpr ⟨(isAscii_append.mp ha).1, hs.isAscii⟩

/-! ## Plurals of identifiers -/

theorem beforeLast_eq (hw : IsWord w) (hseps : ∀ c ∈ seps, isSeparator c) :
    beforeLast (stem ++ (w ++ seps)) w.length = stem := by
  have hall : ∀ c ∈ seps.reverse, isSeparator c := fun c hc => hseps c (List.mem_reverse.mp hc)
  -- the last character of the word stops the search for separators
  have hstop : (w.reverse ++ stem.reverse).dropWhile isSeparator = w.reverse ++ stem.reverse := by
    obtain ⟨k, c, rfl⟩ := (List.eq_nil_or_concat w).resolve_left hw.ne_nil
    simp [hw.not_isSeparator c (by simp)]
  rw [beforeLast, List.reverse_append, List.reverse_append, List.append_assoc,
    List.dropWhile_append_of_pos hall, hstop, ← List.length_reverse, List.drop_left,
    List.reverse_reverse]

theorem plural_eq (h : words cs = ws ++ [w]) :
    plural cs = beforeLast cs w.length ++ pluralWord w := by
  rw [plural, h, List.getLast?_concat]

theorem plural_of_isWord (hw : IsWord w) : plural w = pluralWord w := by
  have hnone : beforeLast ([] ++ (w ++ [])) w.length = [] := beforeLast_eq hw (by simp)
  rw [List.nil_append, List.append_nil] at hnone
  have hwords : words w = [] ++ [w] := hw
  rw [plural_eq hwords, hnone, List.nil_append]

/-- The last word of an identifier, with what stands before it. -/
theorem parted_beforeLast (ha : IsAscii cs) (h : words cs = ws ++ [w]) :
    IsAscii (beforeLast cs w.length) ∧ IsAscii w ∧ IsWord w ∧ Parted (beforeLast cs w.length) w ∧
      words (beforeLast cs w.length) = ws := by
  obtain ⟨stem, seps, rfl, hseps, hw, hparted, hwords⟩ := exists_of_words_eq_concat ha h
  rw [beforeLast_eq hw hseps]
  simp only [isAscii_append] at ha
  exact ⟨ha.1, ha.2.1, hw, hparted, hwords⟩

/-- The plural of the last word can stand in its place: it keeps no part of the word that ends in
two capitals, and it keeps some part of the word unless that is set apart anyway. -/
def PluralFits (cs : List Char) : Prop :=
  ∀ w ∈ (words cs).getLast?, ∀ kept ∈ pluralStem? w,
    endsInCapitals kept = false ∧ (kept = [] → setsApart (beforeLast cs w.length))

instance (cs : List Char) : Decidable (PluralFits cs) :=
  inferInstanceAs (Decidable (∀ w ∈ (words cs).getLast?, ∀ kept ∈ pluralStem? w,
    endsInCapitals kept = false ∧ (kept = [] → setsApart (beforeLast cs w.length))))

theorem pluralFits_iff (h : words cs = ws ++ [w]) :
    PluralFits cs ↔ ∀ kept ∈ pluralStem? w,
      endsInCapitals kept = false ∧ (kept = [] → setsApart (beforeLast cs w.length)) := by
  simp [PluralFits, h]

/-- **A plural that fits changes the last word only.** -/
theorem words_plural (ha : IsAscii cs) (h : words cs = ws ++ [w]) (hf : PluralFits cs) :
    words (plural cs) = ws ++ [pluralWord w] := by
  obtain ⟨-, haw, hw, hparted, hwords⟩ := parted_beforeLast ha h
  obtain ⟨hmany, hplace⟩ := isWord_pluralWord haw hw hparted ((pluralFits_iff h).mp hf)
  rw [plural_eq h, words_append (isAscii_pluralWord haw) hplace, hwords, hmany]

/-- A plural that does not fit has one word more, as the last capital starts another one, or one
word less, as nothing sets the plural apart from the word before. -/
theorem exists_words_plural (ha : IsAscii cs) (h : words cs = ws ++ [w]) (hf : ¬ PluralFits cs) :
    ∃ front a b, IsAscii a ∧ IsAscii b ∧
      (words (plural cs) = front ++ [a, b] ∧ ws ++ [pluralWord w] = front ++ [a ++ b] ∨
        words (plural cs) = front ++ [a ++ b] ∧ ws ++ [pluralWord w] = front ++ [a, b]) := by
  obtain ⟨hastem, haw, hw, hparted, rfl⟩ := parted_beforeLast ha h
  rw [pluralFits_iff h] at hf
  rw [plural_eq h]
  have hform := pluralForm haw
  generalize pluralStem? w = kept?, pluralWord w = many, beforeLast cs w.length = stem
    at hform hf hastem hparted ⊢
  cases hform with
  | irregular | same => exact absurd (by simp) hf
  | @ending kept dropped ending heq hd hs hne =>
    simp only [Option.mem_some_iff, forall_eq', not_and_or] at hf
    rcases hf with hcap | hglued
    · obtain ⟨k, x, y, rfl, hx, hy⟩ := exists_of_endsInCapitals (by simpa using hcap)
      obtain rfl : w = k ++ x :: y :: dropped := by simpa using heq
      have hsplit := words_append_of_capitals haw hw hparted hx hy hs hne
      obtain ⟨hk, hxy⟩ := isAscii_append.mp haw
      obtain ⟨hax, hay⟩ := List.forall_mem_cons.mp hxy
      refine ⟨_, k ++ [x], y :: ending, ?_, ?_, .inl ⟨by simpa using hsplit, by simp⟩⟩
      · exact isAscii_append.mpr ⟨hk, List.forall_mem_singleton.mpr hax⟩
      · exact List.forall_mem_cons.mpr ⟨hay y (List.mem_cons_self ..), hs.isAscii⟩
    · push Not at hglued
      obtain ⟨rfl, hlast⟩ := hglued
      -- the word was a single character, and all of it is replaced
      have hlength : w.length ≤ 1 := heq ▸ hd
      obtain ⟨c, rfl⟩ := List.length_eq_one_iff.mp
        (Nat.le_antisymm hlength (List.length_pos_of_ne_nil hw.ne_nil))
      obtain ⟨front, v, hav, hfront, hglue⟩ := words_append_of_parted hastem hparted
        (hw.not_isSeparator c (List.mem_singleton_self c)) hlast hs hne
      exact ⟨front, v, ending, hav, hs.isAscii, .inr ⟨hglue, by rw [hfront]; simp⟩⟩

end ServiceSpec.Naming.Chars
