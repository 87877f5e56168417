import ServiceSpec.Naming
import ServiceSpec.Proofs.AsciiCase

/-!
# Words of identifiers

An identifier is cut into words without an index: whether a word ends after a character is decided
from that character and the two that follow.  So a text can be cut where a word ends anyway, and the
words of the parts are those of the whole.  One thing has to be looked after.  The second of the
two characters is missing at the end of the first part, and it matters if it is a small letter; but
where a word starts there is a separator or a capital.

Conversely an identifier consists of its words with separators between them, and every word is
still one word when it is taken out.

## Main definitions

* `IsWord`: a text that is one word
* `Parted`: a text after which a word ends where another text follows

## Main results

* `exists_of_words_eq_cons`: an identifier starts with its first word, behind separators
* `words_append`: the words of parted texts
* `exists_of_words_eq_concat`: an identifier ends in its last word, before separators
-/

namespace ServiceSpec.Naming.Chars

open ServiceSpec.Text

variable {c d x : Char} {next : Option Char} {cs rest xs ys w : List Char} {ws : List (List Char)}

/-! ## Ends of words -/

theorem isLowercase_of_isSeparator (h : isSeparator c) : isLowercase c = false := by
  simp only [isSeparator, Bool.or_eq_true, decide_eq_true_eq] at h
  rcases h with (rfl | rfl) | rfl <;> decide

theorem isUppercase_of_startsWord (h : startsWord c d next) : isUppercase d :=
  (Bool.and_eq_true_iff.mp h).1

/-- A capital that starts a word if nothing follows can be any capital, whatever follows. -/
theorem startsWord_of_none (h : startsWord c d none) (hx : isUppercase x) :
    startsWord c x next := by
  simp only [startsWord, Option.any_none, Bool.and_false, Bool.or_false, Bool.and_eq_true] at h
  simp [startsWord, hx, h.2]

/-- What follows makes no difference unless it is a small letter. -/
theorem startsWord_eq_none (h : ∀ x ∈ next, isLowercase x = false) :
    startsWord c d next = startsWord c d none := by
  cases next with
  | none => rfl
  | some x => simp [startsWord, h x rfl]

/-- No small letter stands where a word has ended. -/
theorem isLowercase_of_endsBefore (hd : d.toNat < 0x80) (h : endsBefore c (d :: rest)) :
    isLowercase d = false := by
  rcases Bool.or_eq_true_iff.mp h with hs | hs
  · exact isLowercase_of_isSeparator hs
  · exact isLowercase_of_isUppercase hd (isUppercase_of_startsWord hs)

/-- A word that ends before a text ends before any longer one. -/
theorem endsBefore_append_of_endsBefore (hne : xs ≠ []) (h : endsBefore c xs) (ys : List Char) :
    endsBefore c (xs ++ ys) := by
  match xs, hne with
  | d :: [], _ =>
    simp only [endsBefore, List.head?_nil, Bool.or_eq_true] at h
    simp only [List.cons_append, List.nil_append, endsBefore, Bool.or_eq_true]
    exact h.imp_right fun hs => startsWord_of_none hs (isUppercase_of_startsWord hs)
  | d :: e :: tail, _ => exact h

/-- Where `ys` follows on `xs`, a word ends, if one is there to end. -/
def Parted (xs ys : List Char) : Prop :=
  ∀ c ∈ xs.getLast?, isSeparator c ∨ endsBefore c ys

theorem parted_nil_left (ys : List Char) : Parted [] ys := by
  intro c hc
  cases hc

theorem parted_singleton : Parted [c] ys ↔ isSeparator c ∨ endsBefore c ys := by
  simp [Parted]

theorem parted_cons_cons : Parted (c :: d :: xs) ys ↔ Parted (d :: xs) ys := by
  rw [Parted, Parted, List.getLast?_cons_cons]

theorem parted_append_left (hne : xs ≠ []) (zs : List Char) :
    Parted (zs ++ xs) ys ↔ Parted xs ys := by
  rw [Parted, Parted, List.getLast?_append_of_ne_nil _ hne]

theorem parted_of_isSeparator (h : ∀ c ∈ xs, isSeparator c) (ys : List Char) : Parted xs ys :=
  fun c hc => .inl (h c (List.mem_of_getLast? hc))

theorem parted_separators (h : ∀ c ∈ ys, isSeparator c) (xs : List Char) : Parted xs ys := by
  intro c _
  cases ys with
  | nil => exact .inr rfl
  | cons d rest => exact .inr (by simp [endsBefore, h d])

/-- Whether a word ends before a text does not depend on what comes after a part of it, if the text
is parted there. -/
theorem endsBefore_append (hne : xs ≠ []) (ha : IsAscii ys) (h : Parted xs ys) :
    endsBefore c (xs ++ ys) = endsBefore c xs := by
  match xs, hne with
  | d :: e :: tail, _ => rfl
  | [d], _ =>
    rcases parted_singleton.mp h with hs | he
    · simp [endsBefore, hs]
    · have hnext : ∀ x ∈ ys.head?, isLowercase x = false := by
        intro x hx
        obtain ⟨rest, rfl⟩ := List.head?_eq_some_iff.mp hx
        exact isLowercase_of_endsBefore (ha x (List.mem_cons_self ..)) he
      simp only [List.cons_append, List.nil_append, endsBefore, startsWord_eq_none hnext,
        List.head?_nil]

theorem Parted.of_append {zs : List Char} (ha : IsAscii zs) (h : Parted xs (ys ++ zs))
    (hz : Parted ys zs) : Parted xs ys := by
  intro c hc
  by_cases hne : ys = []
  · exact .inr (by rw [hne]; rfl)
  · rw [← endsBefore_append hne ha hz]
    exact h c hc

/-! ## Cutting texts -/

theorem words_cons_separator (h : isSeparator c) (rest : List Char) :
    words (c :: rest) = words rest := by
  rw [words, if_pos h]

theorem words_cons_end (hc : ¬ isSeparator c) (h : endsBefore c rest) :
    words (c :: rest) = [c] :: words rest := by
  rw [words, if_neg hc, if_pos h]

theorem words_cons_inside (hc : ¬ isSeparator c) (h : ¬ endsBefore c rest) :
    words (c :: rest) = (words rest).modifyHead (c :: ·) := by
  rw [words, if_neg hc, if_neg h]

theorem exists_of_not_endsBefore (h : ¬ endsBefore c rest) :
    ∃ d tail, rest = d :: tail ∧ ¬ isSeparator d := by
  cases rest with
  | nil => exact absurd rfl h
  | cons d tail => exact ⟨d, tail, rfl, fun hd => h (by simp [endsBefore, hd])⟩

/-- Only separators have no words. -/
theorem words_eq_nil_iff : words cs = [] ↔ ∀ c ∈ cs, isSeparator c := by
  induction cs with
  | nil => simp [words]
  | cons c rest ih =>
    rw [List.forall_mem_cons]
    by_cases hc : isSeparator c
    · rw [words_cons_separator hc, ih, and_iff_right hc]
    refine iff_of_false (fun h => ?_) fun h => hc h.1
    by_cases he : endsBefore c rest
    · rw [words_cons_end hc he] at h
      cases h
    · rw [words_cons_inside hc he, List.modifyHead_eq_nil_iff, ih] at h
      obtain ⟨d, tail, rfl, hd⟩ := exists_of_not_endsBefore he
      exact hd (h d (List.mem_cons_self ..))

theorem exists_words_eq_cons (hc : c ∈ cs) (hs : ¬ isSeparator c) :
    ∃ v vs, words cs = v :: vs :=
  List.exists_cons_of_ne_nil fun h => hs (words_eq_nil_iff.mp h c hc)

/-- **The words of parted texts** are the words of the one and those of the other. -/
theorem words_append (ha : IsAscii ys) (h : Parted xs ys) :
    words (xs ++ ys) = words xs ++ words ys := by
  induction xs with
  | nil => rfl
  | cons c xs ih =>
    rw [List.cons_append]
    by_cases hc : isSeparator c
    · have hrest : Parted xs ys := by
        cases xs with
        | nil => exact parted_nil_left ys
        | cons d xs => exact parted_cons_cons.mp h
      rw [words_cons_separator hc, words_cons_separator hc, ih hrest]
    cases xs with
    | nil =>
      have he : endsBefore c ys := (parted_singleton.mp h).resolve_left hc
      rw [List.nil_append, words_cons_end hc he, words_cons_end hc rfl]
      rfl
    | cons d xs =>
      have hrest := parted_cons_cons.mp h
      have hsame : endsBefore c (d :: xs ++ ys) = endsBefore c (d :: xs) :=
        endsBefore_append (by simp) ha hrest
      by_cases he : endsBefore c (d :: xs)
      · rw [words_cons_end hc (hsame.trans he), words_cons_end hc he, ih hrest]
        rfl
      · rw [words_cons_inside hc (by rwa [hsame]), words_cons_inside hc he, ih hrest]
        obtain ⟨_, _, hcons, hd⟩ := exists_of_not_endsBefore he
        obtain ⟨rfl, rfl⟩ := List.cons.inj hcons
        obtain ⟨v, vs, hv⟩ := exists_words_eq_cons (List.mem_cons_self ..) hd
        rw [hv]
        rfl

/-- Words have no separators. -/
theorem not_isSeparator_of_mem_words (hw : w ∈ words cs) : ∀ x ∈ w, ¬ isSeparator x := by
  induction cs generalizing w with
  | nil => cases hw
  | cons c rest ih =>
    by_cases hc : isSeparator c
    · rw [words_cons_separator hc] at hw
      exact ih hw
    by_cases he : endsBefore c rest
    · rw [words_cons_end hc he] at hw
      rcases List.mem_cons.mp hw with rfl | hw
      · simpa using hc
      · exact ih hw
    · obtain ⟨d, tail, rfl, hd⟩ := exists_of_not_endsBefore he
      obtain ⟨v, vs, hv⟩ := exists_words_eq_cons (List.mem_cons_self ..) hd
      rw [words_cons_inside hc he, hv] at hw
      rw [hv] at ih
      rcases List.mem_cons.mp hw with rfl | hw
      · exact List.forall_mem_cons.mpr ⟨hc, ih (List.mem_cons_self ..)⟩
      · exact ih (List.mem_cons_of_mem _ hw)

/-! ## Single words -/

/-- The text is one word. -/
def IsWord (w : List Char) : Prop :=
  words w = [w]

theorem IsWord.ne_nil (h : IsWord w) : w ≠ [] := by
  rintro rfl
  cases h

theorem IsWord.not_isSeparator (h : IsWord w) : ∀ x ∈ w, ¬ isSeparator x :=
  not_isSeparator_of_mem_words (h ▸ List.mem_singleton_self w)

theorem isWord_singleton (h : ¬ isSeparator c) : IsWord [c] :=
  words_cons_end h rfl

theorem isWord_cons_cons :
    IsWord (c :: d :: rest) ↔
      ¬ isSeparator c ∧ ¬ endsBefore c (d :: rest) ∧ IsWord (d :: rest) := by
  constructor
  · intro h
    have hc : ¬ isSeparator c := h.not_isSeparator c (List.mem_cons_self ..)
    have hd : ¬ isSeparator d := h.not_isSeparator d (by simp)
    have he : ¬ endsBefore c (d :: rest) := fun he => by
      rw [IsWord, words_cons_end hc he] at h
      cases h
    obtain ⟨v, vs, hv⟩ := exists_words_eq_cons (List.mem_cons_self ..) hd
    rw [IsWord, words_cons_inside hc he, hv] at h
    refine ⟨hc, he, ?_⟩
    rw [IsWord, hv]
    simpa using h
  · rintro ⟨hc, he, h⟩
    rw [IsWord, words_cons_inside hc he, h]
    rfl

/-- A part of a word at its start is a word. -/
theorem IsWord.of_append (hne : xs ≠ []) (h : IsWord (xs ++ ys)) : IsWord xs := by
  induction xs with
  | nil => exact absurd rfl hne
  | cons c xs ih =>
    cases xs with
    | nil => exact isWord_singleton (h.not_isSeparator c (by simp))
    | cons d xs =>
      obtain ⟨hc, he, hrest⟩ := isWord_cons_cons.mp h
      refine isWord_cons_cons.mpr ⟨hc, fun hd => he ?_, ih (by simp) hrest⟩
      exact endsBefore_append_of_endsBefore (by simp) hd ys

/-- **An identifier starts with its first word, behind separators.**  The word ends where it does
because of what follows, and what follows has the other words. -/
theorem exists_of_words_eq_cons (h : words cs = w :: ws) :
    ∃ seps rest, cs = seps ++ (w ++ rest) ∧ (∀ c ∈ seps, isSeparator c) ∧ IsWord w ∧
      Parted w rest ∧ words rest = ws := by
  induction cs generalizing w with
  | nil => cases h
  | cons c rest ih =>
    by_cases hc : isSeparator c
    · rw [words_cons_separator hc] at h
      obtain ⟨seps, tail, rfl, hseps, hrest⟩ := ih h
      exact ⟨c :: seps, tail, rfl, List.forall_mem_cons.mpr ⟨hc, hseps⟩, hrest⟩
    by_cases he : endsBefore c rest
    · rw [words_cons_end hc he] at h
      obtain ⟨rfl, rfl⟩ := List.cons.inj h
      exact ⟨[], rest, rfl, by simp, isWord_singleton hc, parted_singleton.mpr (.inr he), rfl⟩
    · obtain ⟨d, tail, rfl, hd⟩ := exists_of_not_endsBefore he
      obtain ⟨v, vs, hv⟩ := exists_words_eq_cons (List.mem_cons_self ..) hd
      rw [words_cons_inside hc he, hv] at h
      obtain ⟨rfl, rfl⟩ := List.cons.inj h
      obtain ⟨seps, tail', hcut, hseps, hword, hparted, htail⟩ := ih hv
      obtain rfl : seps = [] := by
        cases seps with
        | nil => rfl
        | cons x seps =>
          obtain ⟨rfl, -⟩ := List.cons.inj hcut
          exact absurd (hseps d (List.mem_cons_self ..)) hd
      obtain ⟨x, v, rfl⟩ := List.exists_cons_of_ne_nil hword.ne_nil
      refine ⟨[], tail', by rw [hcut]; rfl, by simp, ?_, parted_cons_cons.mpr hparted, htail⟩
      refine isWord_cons_cons.mpr ⟨hc, fun hx => he ?_, hword⟩
      rw [hcut]
      exact endsBefore_append_of_endsBefore (by simp) hx tail'

/-- **An identifier ends in its last word, before separators.**  What stands before the word has the
other words, and they end there. -/
theorem exists_of_words_eq_concat (ha : IsAscii cs) (h : words cs = ws ++ [w]) :
    ∃ stem seps, cs = stem ++ (w ++ seps) ∧ (∀ c ∈ seps, isSeparator c) ∧ IsWord w ∧
      Parted stem w ∧ words stem = ws := by
  induction ws generalizing cs with
  | nil =>
    obtain ⟨seps, rest, rfl, hseps, hword, -, hrest⟩ := exists_of_words_eq_cons h
    exact ⟨seps, rest, rfl, words_eq_nil_iff.mp hrest, hword, parted_of_isSeparator hseps w,
      words_eq_nil_iff.mpr hseps⟩
  | cons v vs ih =>
    obtain ⟨seps, rest, rfl, hseps, hv, hparted, hrest⟩ := exists_of_words_eq_cons h
    simp only [isAscii_append] at ha
    obtain ⟨-, hav, harest⟩ := ha
    obtain ⟨stem, seps', rfl, hseps', hword, hstem, hwords⟩ := ih harest hrest
    simp only [isAscii_append] at harest
    obtain ⟨hastem, haw, haseps'⟩ := harest
    have hend : Parted v (stem ++ w) := by
      rw [← List.append_assoc] at hparted
      exact hparted.of_append haseps' (parted_separators hseps' _)
    refine ⟨seps ++ (v ++ stem), seps', by simp, hseps', hword, ?_, ?_⟩
    · by_cases hne : stem = []
      · subst hne
        rw [List.append_nil, parted_append_left hv.ne_nil]
        exact hend
      · rw [← List.append_assoc, parted_append_left hne]
        exact hstem
    · rw [words_append (isAscii_append.mpr ⟨hav, hastem⟩) (parted_of_isSeparator hseps _),
        words_append hastem (hend.of_append haw hstem), words_eq_nil_iff.mpr hseps, hv, hwords]
      rfl

end ServiceSpec.Naming.Chars

namespace ServiceSpec.Naming

theorem words_eq_iff {s : String} {ws : List String} :
    words s = ws ↔ Chars.words s.toList = ws.map String.toList := by
  rw [words]
  constructor
  · rintro rfl
    simp [Function.comp_def]
  · intro h
    simp [h, Function.comp_def]

end ServiceSpec.Naming
