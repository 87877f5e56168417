import ServiceSpec.Proofs.WordCuts
import Mathlib.Data.List.Chain

/-!
# Kebab case

The segment of a path is the kebab case of a name, and the segments that come out can be told by
their looks: no capitals, hyphens as the only separators, and each hyphen alone between other
characters.  A text that looks like this is its own kebab case.  So nothing is left to do the second
time, and a name that is written like a segment is used as it stands.

What makes this work is that a text without capitals is cut at its separators and nowhere else.  Cut
at single hyphens, it is put together again by single hyphens.

## Main definitions

* `IsKebabCase`: a text in kebab case

## Main results

* `isKebabCase_hyphen`: what follows a word and a hyphen
* `intercalate_words`: a text in kebab case is its words, joined by hyphens
* `kebabCase_normalizes`: the kebab case of a text is in kebab case, and only such texts are their
  own kebab case
-/

namespace ServiceSpec.Naming

namespace Chars

open ServiceSpec.Text

variable {c : Char} {cs w : List Char} {ws : List (List Char)}

/-- The text is in kebab case: without capitals and without separators but hyphens, which stand
neither at an end nor side by side. -/
structure IsKebabCase (cs : List Char) : Prop where
  small : ∀ c ∈ cs, isUppercase c = false
  hyphenated : ∀ c ∈ cs, c ≠ '_' ∧ c ≠ ' '
  start : cs.head? ≠ some '-'
  finish : cs.getLast? ≠ some '-'
  single : ¬ ['-', '-'] <:+: cs

/-- The text can stand between hyphens: it has characters, none of them a separator or a capital. -/
def IsPlain (w : List Char) : Prop :=
  w ≠ [] ∧ ∀ c ∈ w, ¬ isSeparator c ∧ isUppercase c = false

theorem not_isSeparator_iff : ¬ isSeparator c ↔ c ≠ '_' ∧ c ≠ '-' ∧ c ≠ ' ' := by
  simp [isSeparator_iff]

/-! ## Hyphens between words -/

theorem not_infix_iff_isChain :
    ¬ ['-', '-'] <:+: cs ↔ cs.IsChain fun a b => ¬ (a = '-' ∧ b = '-') := by
  rw [List.isChain_iff_forall_rel_of_append_cons_cons]
  constructor
  · rintro h a b xs ys rfl ⟨rfl, rfl⟩
    exact h ⟨xs, ys, by simp⟩
  · rintro h ⟨xs, ys, hcs⟩
    have hsplit : cs = xs ++ '-' :: '-' :: ys := by
      rw [← hcs, List.append_assoc]
      rfl
    exact h hsplit ⟨rfl, rfl⟩

theorem IsPlain.ne_hyphen (hw : IsPlain w) (hc : c ∈ w) : c ≠ '-' :=
  (not_isSeparator_iff.mp (hw.2 c hc).1).2.1

theorem IsPlain.isKebabCase (hw : IsPlain w) : IsKebabCase w where
  small c hc := (hw.2 c hc).2
  hyphenated c hc := by
    obtain ⟨hunderscore, -, hspace⟩ := not_isSeparator_iff.mp (hw.2 c hc).1
    exact ⟨hunderscore, hspace⟩
  start h := hw.ne_hyphen (List.mem_of_head? h) rfl
  finish h := hw.ne_hyphen (List.mem_of_getLast? h) rfl
  single h := hw.ne_hyphen (h.subset (List.mem_cons_self ..)) rfl

/-- Hyphens can meet in what follows a word and a hyphen, or where that starts. -/
theorem IsPlain.not_infix_iff (hw : IsPlain w) :
    ¬ ['-', '-'] <:+: w ++ '-' :: cs ↔ cs.head? ≠ some '-' ∧ ¬ ['-', '-'] <:+: cs := by
  have hbefore : ∀ x ∈ w.getLast?, ∀ y ∈ ('-' :: cs).head?, ¬ (x = '-' ∧ y = '-') := by
    rintro x hx y - ⟨rfl, -⟩
    exact hw.ne_hyphen (List.mem_of_getLast? hx) rfl
  have hafter : (∀ y ∈ cs.head?, ¬ ('-' = '-' ∧ y = '-')) ↔ cs.head? ≠ some '-' := by
    constructor
    · intro h hstart
      exact h '-' hstart ⟨rfl, rfl⟩
    · rintro h y hy ⟨-, rfl⟩
      exact h hy
  rw [not_infix_iff_isChain, not_infix_iff_isChain, List.isChain_append, List.isChain_cons, hafter,
    and_iff_right (not_infix_iff_isChain.mp hw.isKebabCase.single), and_iff_left hbefore]

theorem getLast?_hyphen_iff :
    (w ++ '-' :: cs).getLast? ≠ some '-' ↔ cs ≠ [] ∧ cs.getLast? ≠ some '-' := by
  rw [List.getLast?_append_of_ne_nil _ (by simp)]
  cases cs with
  | nil => simp
  | cons c cs => simp [List.getLast?_cons_cons]

/-- **What follows a word and a hyphen** in a text in kebab case is another such text, and there has
to be one. -/
theorem isKebabCase_hyphen (hw : IsPlain w) :
    IsKebabCase (w ++ '-' :: cs) ↔ cs ≠ [] ∧ IsKebabCase cs := by
  constructor
  · rintro ⟨hsmall, hhyphenated, -, hfinish, hsingle⟩
    rw [List.forall_mem_append, List.forall_mem_cons] at hsmall hhyphenated
    obtain ⟨hne, hfinish⟩ := getLast?_hyphen_iff.mp hfinish
    obtain ⟨hstart, hsingle⟩ := hw.not_infix_iff.mp hsingle
    exact ⟨hne, hsmall.2.2, hhyphenated.2.2, hstart, hfinish, hsingle⟩
  · rintro ⟨hne, hcs⟩
    have hword := hw.isKebabCase
    refine ⟨?_, ?_, ?_, ?_, ?_⟩
    · rw [List.forall_mem_append, List.forall_mem_cons]
      exact ⟨hword.small, by decide, hcs.small⟩
    · rw [List.forall_mem_append, List.forall_mem_cons]
      exact ⟨hword.hyphenated, by decide, hcs.hyphenated⟩
    · rw [List.head?_append_of_ne_nil _ hw.1]
      exact hword.start
    · exact getLast?_hyphen_iff.mpr ⟨hne, hcs.finish⟩
    · exact hw.not_infix_iff.mpr ⟨hcs.start, hcs.single⟩

theorem intercalate_ne_nil (hw : w ≠ []) (ws : List (List Char)) :
    ['-'].intercalate (w :: ws) ≠ [] := by
  cases ws with
  | nil => simpa using hw
  | cons v ws => simp

/-- Words joined by hyphens are in kebab case. -/
theorem isKebabCase_intercalate (h : ∀ w ∈ ws, IsPlain w) :
    IsKebabCase (['-'].intercalate ws) := by
  induction ws with
  | nil => exact ⟨by simp, by simp, by simp, by simp, by simp⟩
  | cons w ws ih =>
    obtain ⟨hw, hws⟩ := List.forall_mem_cons.mp h
    cases ws with
    | nil => simpa using hw.isKebabCase
    | cons v ws =>
      rw [List.intercalate_cons_of_ne_nil (by simp), List.append_assoc]
      apply (isKebabCase_hyphen hw).mpr
      exact ⟨intercalate_ne_nil (hws v (List.mem_cons_self ..)).1 ws, ih hws⟩

theorem isAscii_intercalate (h : ∀ w ∈ ws, IsAscii w) : IsAscii (['-'].intercalate ws) := by
  induction ws with
  | nil => simp [IsAscii]
  | cons w ws ih =>
    obtain ⟨hw, hws⟩ := List.forall_mem_cons.mp h
    cases ws with
    | nil => simpa using hw
    | cons v ws =>
      rw [List.intercalate_cons_of_ne_nil (by simp), isAscii_append, isAscii_append]
      exact ⟨⟨hw, by decide⟩, ih hws⟩

/-! ## Words between hyphens -/

/-- A text in kebab case does not start with a separator. -/
theorem IsKebabCase.not_isSeparator (h : IsKebabCase (c :: cs)) : ¬ isSeparator c := by
  obtain ⟨hunderscore, hspace⟩ := h.hyphenated c (List.mem_cons_self ..)
  refine not_isSeparator_iff.mpr ⟨hunderscore, ?_, hspace⟩
  rintro rfl
  exact h.start rfl

/-- A text in kebab case starts with its first word, and goes on with a hyphen if it goes on. -/
theorem IsKebabCase.exists_of_words_eq_cons (h : IsKebabCase cs) (hw : words cs = w :: ws) :
    IsPlain w ∧ (cs = w ∧ ws = [] ∨ ∃ rest, cs = w ++ '-' :: rest ∧ words rest = ws) := by
  obtain ⟨seps, rest, rfl, hseps, hword, hparted, hrest⟩ := Chars.exists_of_words_eq_cons hw
  obtain rfl : seps = [] := by
    cases seps with
    | nil => rfl
    | cons x seps => exact absurd (hseps x (List.mem_cons_self ..)) h.not_isSeparator
  rw [List.nil_append] at h ⊢
  have hplain : IsPlain w := ⟨hword.ne_nil, fun c hc =>
    ⟨hword.not_isSeparator c hc, h.small c (List.mem_append_left _ hc)⟩⟩
  refine ⟨hplain, ?_⟩
  cases rest with
  | nil => exact .inl ⟨List.append_nil w, hrest.symm⟩
  | cons d rest =>
    have hmem : d ∈ w ++ d :: rest := by simp
    have hd : isSeparator d := by
      obtain ⟨x, hlast, hx⟩ := hword.exists_last
      have hend := (hparted x hlast).resolve_left hx
      by_contra hd
      exact not_endsBefore_of_isUppercase_eq_false hd (h.small d hmem) hend
    obtain ⟨hunderscore, hspace⟩ := h.hyphenated d hmem
    obtain rfl : d = '-' := by
      by_contra hne
      exact not_isSeparator_iff.mpr ⟨hunderscore, hne, hspace⟩ hd
    rw [words_cons_separator hd] at hrest
    exact .inr ⟨rest, rfl, hrest⟩

/-- **A text in kebab case is its words, joined by hyphens.** -/
theorem intercalate_words (h : IsKebabCase cs) : ['-'].intercalate (words cs) = cs := by
  -- word by word, where what follows the hyphen is in kebab case again
  induction hws : words cs generalizing cs with
  | nil =>
    cases cs with
    | nil => rfl
    | cons c cs =>
      exact absurd (words_eq_nil_iff.mp hws c (List.mem_cons_self ..)) h.not_isSeparator
  | cons w ws ih =>
    obtain ⟨hw, ⟨rfl, rfl⟩ | ⟨rest, rfl, hrest⟩⟩ := h.exists_of_words_eq_cons hws
    · simp
    · obtain ⟨hne, hkebab⟩ := (isKebabCase_hyphen hw).mp h
      have hjoin := ih hkebab hrest
      have hmore : ws ≠ [] := by
        rintro rfl
        exact hne hjoin.symm
      rw [List.intercalate_cons_of_ne_nil hmore, hjoin, List.append_assoc]
      rfl

/-! ## The kebab case of a text -/

theorem isPlain_lowerWord (ha : IsAscii cs) (hw : w ∈ words cs) : IsPlain (lowerWord w) := by
  have haw := isAscii_of_mem_words ha hw
  have hsep := not_isSeparator_of_mem_lowerWord haw (not_isSeparator_of_mem_words hw)
  refine ⟨?_, fun c hc => ⟨hsep c hc, isUppercase_of_mem_lowerWord haw c hc⟩⟩
  rw [lowerWord_of_isAscii haw, Ne, List.map_eq_nil_iff]
  exact (isWord_of_mem_words hw).ne_nil

theorem isAscii_kebabCase (ha : IsAscii cs) : IsAscii (kebabCase cs) := by
  apply isAscii_intercalate
  intro v hv
  obtain ⟨w, hw, rfl⟩ := List.mem_map.mp hv
  exact isAscii_lowerWord (isAscii_of_mem_words ha hw)

theorem isKebabCase_kebabCase (ha : IsAscii cs) : IsKebabCase (kebabCase cs) := by
  apply isKebabCase_intercalate
  intro v hv
  obtain ⟨w, hw, rfl⟩ := List.mem_map.mp hv
  exact isPlain_lowerWord ha hw

/-- **A text is its own kebab case if and only if it is in kebab case.** -/
theorem kebabCase_eq_self_iff (ha : IsAscii cs) : kebabCase cs = cs ↔ IsKebabCase cs := by
  constructor
  · intro h
    rw [← h]
    exact isKebabCase_kebabCase ha
  · intro h
    have hlower : (words cs).map lowerWord = words cs := by
      refine (List.map_congr_left fun w hw => ?_).trans (List.map_id _)
      apply (lowerWord_eq_self_iff (isAscii_of_mem_words ha hw)).mpr
      exact fun c hc => h.small c (mem_of_mem_words hw hc)
    rw [kebabCase, hlower, intercalate_words h]

end Chars

variable {s : String}

/-- **The kebab case of an ASCII text is in kebab case**, and taking it again changes nothing: the
texts in kebab case, and no others, are their own kebab case. -/
theorem kebabCase_normalizes (ha : Text.IsAscii s.toList) :
    Chars.IsKebabCase (kebabCase s).toList ∧ kebabCase (kebabCase s) = kebabCase s ∧
      (kebabCase s = s ↔ Chars.IsKebabCase s.toList) := by
  have hkebab : Chars.IsKebabCase (kebabCase s).toList := by
    rw [kebabCase, String.toList_ofList]
    exact Chars.isKebabCase_kebabCase ha
  have hself : ∀ {t : String}, Text.IsAscii t.toList →
      (kebabCase t = t ↔ Chars.IsKebabCase t.toList) := by
    intro t ht
    rw [← Chars.kebabCase_eq_self_iff ht, ← String.toList_inj, kebabCase, String.toList_ofList]
  have hascii : Text.IsAscii (kebabCase s).toList := by
    rw [kebabCase, String.toList_ofList]
    exact Chars.isAscii_kebabCase ha
  exact ⟨hkebab, (hself hascii).mpr hkebab, hself ha⟩

theorem kebabCase_normalizes_client :
    Text.IsAscii "_HTTP  ClientV2-".toList ∧
      kebabCase "_HTTP  ClientV2-" = "http-client-v2" ∧
      kebabCase "http-client-v2" = "http-client-v2" := by
  have ha : Text.IsAscii "_HTTP  ClientV2-".toList := by decide
  have hkebab : kebabCase "_HTTP  ClientV2-" = "http-client-v2" := by decide +kernel
  obtain ⟨-, hagain, -⟩ := kebabCase_normalizes ha
  rw [hkebab] at hagain
  exact ⟨ha, hkebab, hagain⟩

end ServiceSpec.Naming
