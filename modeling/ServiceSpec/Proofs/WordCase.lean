import ServiceSpec.Proofs.Words

/-!
# Small letters and capitals in words

Words are told apart by the case of their letters.  This module says what that means for the text
that is put at the end of a word or in its place.  Small letters go on with the word before them,
except after two capitals: what was an acronym gives its last capital to the small letters, which
then start a word of their own.

## Main definitions

* `endsInCapitals`: whether a text ends in two capitals
* `setsApart`: whether what comes next is set apart without a capital

## Main results

* `IsWord.append_small`: a word goes on with small letters
* `Parted.cons_small`, `Parted.capitals`: what can stand in the place of a word
* `words_append_of_capitals`: the words of a text when small letters follow on two capitals
* `words_append_of_parted`: the words of a text when small letters follow without a capital
-/

namespace ServiceSpec.Naming.Chars

open ServiceSpec.Text

variable {c d x : Char} {next : Option Char} {rest stem xs ys w : List Char}

/-! ## Single words -/

theorem not_isSeparator_of_isUppercase (h : isUppercase c) : ¬ isSeparator c := by
  intro hs
  simp only [isSeparator, Bool.or_eq_true, decide_eq_true_eq] at hs
  rcases hs with (rfl | rfl) | rfl <;> exact absurd h (by decide)

theorem not_isSeparator_of_isLower (h : c.isLower) : ¬ isSeparator c := by
  intro hs
  have hl := isLowercase_of_isLower h
  rw [isLowercase_of_isSeparator hs] at hl
  cases hl

/-- No word starts at a character that is no capital. -/
theorem not_endsBefore_of_isUppercase_eq_false (hs : ¬ isSeparator d) (hu : isUppercase d = false) :
    ¬ endsBefore c (d :: rest) := by
  simp [endsBefore, hs, startsWord, hu]

theorem isWord_of_isUppercase_eq_false (hne : w ≠ [])
    (h : ∀ c ∈ w, ¬ isSeparator c ∧ isUppercase c = false) : IsWord w := by
  induction w with
  | nil => exact absurd rfl hne
  | cons c w ih =>
    obtain ⟨⟨hc, -⟩, hw⟩ := List.forall_mem_cons.mp h
    cases w with
    | nil => exact isWord_singleton hc
    | cons d w =>
      obtain ⟨hd, hu⟩ := hw d (List.mem_cons_self ..)
      exact isWord_cons_cons.mpr
        ⟨hc, not_endsBefore_of_isUppercase_eq_false hd hu, ih (by simp) hw⟩

theorem isWord_of_isSmall (hne : w ≠ []) (h : IsSmall w) : IsWord w :=
  isWord_of_isUppercase_eq_false hne fun c hc =>
    ⟨not_isSeparator_of_isLower (h c hc), isUppercase_of_isLower (h c hc)⟩

theorem isLowercase_of_mem_head? (ha : IsAscii w) (h : ∀ c ∈ w, isUppercase c) :
    ∀ x ∈ w.head?, isLowercase x = false := fun x hx =>
  have hmem : x ∈ w := List.mem_of_head? hx
  isLowercase_of_isUppercase (ha x hmem) (h x hmem)

/-- Capitals are one word. -/
theorem isWord_of_isUppercase (ha : IsAscii w) (hne : w ≠ []) (h : ∀ c ∈ w, isUppercase c) :
    IsWord w := by
  induction w with
  | nil => exact absurd rfl hne
  | cons c w ih =>
    obtain ⟨hc, hw⟩ := List.forall_mem_cons.mp h
    obtain ⟨hac, haw⟩ := List.forall_mem_cons.mp ha
    cases w with
    | nil => exact isWord_singleton (not_isSeparator_of_isUppercase hc)
    | cons d w =>
      obtain ⟨hd, hrest⟩ := List.forall_mem_cons.mp hw
      have hnext := isLowercase_of_mem_head? (List.forall_mem_cons.mp haw).2 hrest
      refine isWord_cons_cons.mpr ⟨not_isSeparator_of_isUppercase hc, ?_, ih haw (by simp) hw⟩
      rw [endsBefore, startsWord_eq_none hnext]
      simp [startsWord, not_isSeparator_of_isUppercase hd, isLowercase_of_isUppercase hac hc,
        isDigit_of_isUppercase hac hc]

/-- Whether the last two characters are capitals. -/
def endsInCapitals : List Char → Bool
  | [] => false
  | [_] => false
  | [c, d] => isUppercase c && isUppercase d
  | _ :: d :: e :: rest => endsInCapitals (d :: e :: rest)

theorem isWord_cons_of_isSmall (hc : ¬ isSeparator c) (hs : IsSmall ys) : IsWord (c :: ys) := by
  cases ys with
  | nil => exact isWord_singleton hc
  | cons d ys =>
    have hd : d.isLower := hs d (List.mem_cons_self ..)
    refine isWord_cons_cons.mpr ⟨hc, ?_, isWord_of_isSmall (by simp) hs⟩
    exact not_endsBefore_of_isUppercase_eq_false (not_isSeparator_of_isLower hd)
      (isUppercase_of_isLower hd)

/-- **A word goes on with small letters**, unless it ends in two capitals: then the last one would
start a word of its own. -/
theorem IsWord.append_small (h : IsWord w) (hc : endsInCapitals w = false) (hs : IsSmall ys) :
    IsWord (w ++ ys) := by
  induction w with
  | nil => cases h
  | cons c w ih =>
    cases w with
    | nil => exact isWord_cons_of_isSmall (h.not_isSeparator c (List.mem_singleton_self c)) hs
    | cons d w =>
      obtain ⟨hc', he, hw⟩ := isWord_cons_cons.mp h
      cases w with
      | cons e w => exact isWord_cons_cons.mpr ⟨hc', he, ih hw hc⟩
      | nil =>
        have hd : ¬ isSeparator d := hw.not_isSeparator d (List.mem_singleton_self d)
        refine isWord_cons_cons.mpr ⟨hc', ?_, isWord_cons_of_isSmall hd hs⟩
        -- the second character is seen with what follows it now, which would matter to a capital
        cases hu : isUppercase d with
        | false => exact not_endsBefore_of_isUppercase_eq_false hd hu
        | true =>
          simp only [endsInCapitals, hu, Bool.and_true] at hc
          simp only [endsBefore, startsWord, hu, hc] at he ⊢
          simpa using he

theorem exists_of_endsInCapitals (h : endsInCapitals w) :
    ∃ k x y, w = k ++ [x, y] ∧ isUppercase x ∧ isUppercase y := by
  induction w with
  | nil => cases h
  | cons c w ih =>
    match w, h with
    | [d], h => exact ⟨[], c, d, rfl, Bool.and_eq_true_iff.mp h⟩
    | d :: e :: w, h =>
      obtain ⟨k, x, y, hk, hxy⟩ := ih h
      exact ⟨c :: k, x, y, by rw [hk]; rfl, hxy⟩

/-! ## The place of a word -/

/-- A capital starts a word more easily before a small letter. -/
theorem startsWord_before_small {next' : Option Char} (h : startsWord x c next)
    (hd : isUppercase d) (hnext : next'.any isLowercase) : startsWord x d next' := by
  simp only [startsWord, Bool.and_eq_true, Bool.or_eq_true] at h ⊢
  exact ⟨hd, h.2.imp_right fun hx => ⟨hx.1, hnext⟩⟩

/-- Whether a text sets apart whatever comes next: it is empty or ends in a separator. -/
def setsApart (xs : List Char) : Bool :=
  xs.getLast?.all isSeparator

theorem setsApart_iff : setsApart xs ↔ ∀ x ∈ xs.getLast?, isSeparator x :=
  Option.all_eq_true isSeparator xs.getLast?

theorem parted_of_setsApart (h : setsApart xs) : Parted xs ys :=
  fun c hc => .inl (setsApart_iff.mp h c hc)

/-- A word that does not start with a capital is set apart. -/
theorem Parted.setsApart (h : Parted stem (c :: rest)) (hs : ¬ isSeparator c)
    (hc : isUppercase c = false) : setsApart stem :=
  setsApart_iff.mpr fun x hx =>
    (h x hx).resolve_right (not_endsBefore_of_isUppercase_eq_false hs hc)

theorem endsBefore_of_startsWord (h : startsWord c d rest.head?) : endsBefore c (d :: rest) := by
  rw [endsBefore, h, Bool.or_true]

/-- Behind the same text a word can be put in the place of another one if it goes on with small
letters and starts as the other does: with a capital, or without. -/
theorem Parted.cons_small (h : Parted stem (c :: rest)) (hc : ¬ isSeparator c)
    (hd : isUppercase c → isUppercase d) (hs : IsSmall ys) (hne : ys ≠ []) :
    Parted stem (d :: ys) := by
  cases hu : isUppercase c with
  | false => exact parted_of_setsApart (h.setsApart hc hu)
  | true =>
    intro x hx
    refine (h x hx).imp_right fun he => ?_
    obtain ⟨y, ys, rfl⟩ := List.exists_cons_of_ne_nil hne
    have hstart := (Bool.or_eq_true_iff.mp he).resolve_left hc
    exact endsBefore_of_startsWord (startsWord_before_small hstart (hd hu)
      (isLowercase_of_isLower (hs y (List.mem_cons_self ..))))

theorem Parted.capitals (h : Parted stem w) (ha : IsAscii w) (hne : w ≠ [])
    (hw : ∀ c ∈ w, isUppercase c) (hx : ∀ c ∈ xs, isUppercase c) : Parted stem xs := by
  intro x hlast
  refine (h x hlast).imp_right fun he => ?_
  obtain ⟨c, rest, rfl⟩ := List.exists_cons_of_ne_nil hne
  obtain ⟨hc, hrest⟩ := List.forall_mem_cons.mp hw
  have hnext := isLowercase_of_mem_head? (List.forall_mem_cons.mp ha).2 hrest
  have hstart := (Bool.or_eq_true_iff.mp he).resolve_left (not_isSeparator_of_isUppercase hc)
  rw [startsWord_eq_none hnext] at hstart
  cases xs with
  | nil => rfl
  | cons d xs =>
    exact endsBefore_of_startsWord (startsWord_of_none hstart (hx d (List.mem_cons_self ..)))

/-- Behind the same text the part of a word that is kept can go on with small letters. -/
theorem Parted.append_small {ds : List Char} (h : Parted stem (xs ++ ds)) (hne : xs ≠ [])
    (hx : ∀ c ∈ xs, ¬ isSeparator c) (hs : IsSmall ys) (hys : ys ≠ []) :
    Parted stem (xs ++ ys) := by
  match xs, hne with
  | [c], _ => exact h.cons_small (hx c (List.mem_singleton_self c)) id hs hys
  | c :: d :: rest, _ => exact h

/-- Behind two characters, a text is parted from another whatever comes after them. -/
theorem Parted.of_two {ds : List Char} (h : Parted stem (xs ++ c :: d :: ds)) :
    Parted stem (xs ++ c :: d :: ys) := by
  match xs with
  | [] => exact h
  | [a] => exact h
  | a :: b :: rest => exact h

/-! ## Small letters at the end -/

/-- **After two capitals, small letters belong to a word that starts at the second one.** -/
theorem words_append_of_capitals {k ds : List Char} (ha : IsAscii (k ++ c :: d :: ds))
    (hw : IsWord (k ++ c :: d :: ds)) (h : Parted stem (k ++ c :: d :: ds)) (hc : isUppercase c)
    (hd : isUppercase d) (hs : IsSmall ys) (hne : ys ≠ []) :
    words (stem ++ (k ++ c :: d :: ys)) = words stem ++ [k ++ [c], d :: ys] := by
  have hsame : IsWord (k ++ [c] ++ d :: ds) := by simpa using hw
  have hfirst : IsWord (k ++ [c]) := hsame.of_append (by simp)
  have hcut : Parted (k ++ [c]) (d :: ys) := by
    rw [parted_append_left (by simp), parted_singleton]
    obtain ⟨y, ys, rfl⟩ := List.exists_cons_of_ne_nil hne
    have hy : isLowercase y := isLowercase_of_isLower (hs y (List.mem_cons_self ..))
    exact .inr (endsBefore_of_startsWord (by simp [startsWord, hc, hd, hy]))
  have hwhole : k ++ c :: d :: ys = k ++ [c] ++ d :: ys := by simp
  have hstem : Parted stem (k ++ [c] ++ d :: ys) := hwhole ▸ h.of_two
  obtain ⟨hk, hcd⟩ := isAscii_append.mp ha
  obtain ⟨hac, had⟩ := List.forall_mem_cons.mp hcd
  have hsecond : IsAscii (d :: ys) :=
    List.forall_mem_cons.mpr ⟨had d (List.mem_cons_self ..), hs.isAscii⟩
  have hall : IsAscii (k ++ [c] ++ d :: ys) :=
    isAscii_append.mpr ⟨isAscii_append.mpr ⟨hk, List.forall_mem_singleton.mpr hac⟩, hsecond⟩
  rw [hwhole, words_append hall hstem, words_append hsecond hcut, hfirst,
    isWord_cons_of_isSmall (not_isSeparator_of_isUppercase hd) hs]
  rfl

/-- A text that a capital would end, whatever follows, does not end in one. -/
theorem isUppercase_of_parted_singleton (ha : IsAscii stem) (h : Parted stem [c])
    (hc : ¬ isSeparator c) (hx : x ∈ stem.getLast?) (hxs : ¬ isSeparator x) :
    isUppercase x = false := by
  have hax : x.toNat < 0x80 := ha x (List.mem_of_getLast? hx)
  have hstart : startsWord x c none :=
    (Bool.or_eq_true_iff.mp ((h x hx).resolve_left hxs)).resolve_left hc
  cases hu : isUppercase x with
  | false => rfl
  | true =>
    simp [startsWord, isLowercase_of_isUppercase hax hu, isDigit_of_isUppercase hax hu] at hstart

/-- **After a text that a capital would end, small letters belong to its last word.** -/
theorem words_append_of_parted (ha : IsAscii stem) (h : Parted stem [c]) (hc : ¬ isSeparator c)
    (hlast : ¬ setsApart stem) (hs : IsSmall ys) (hne : ys ≠ []) :
    ∃ front v, IsAscii v ∧ words stem = front ++ [v] ∧ words (stem ++ ys) = front ++ [v ++ ys] := by
  rw [setsApart_iff] at hlast
  push Not at hlast
  obtain ⟨x, hx, hxs⟩ := hlast
  have hxu := isUppercase_of_parted_singleton ha h hc hx hxs
  obtain ⟨front, v, hwords⟩ := (List.eq_nil_or_concat (words stem)).resolve_left fun hnil =>
    hxs (words_eq_nil_iff.mp hnil x (List.mem_of_getLast? hx))
  rw [List.concat_eq_append] at hwords
  obtain ⟨start, seps, rfl, hseps, hv, hparted, hfront⟩ := exists_of_words_eq_concat ha hwords
  obtain rfl : seps = [] := by
    by_contra hsne
    rw [← List.append_assoc, List.getLast?_append_of_ne_nil _ hsne] at hx
    exact hxs (hseps x (List.mem_of_getLast? hx))
  rw [List.append_nil] at ha hx hwords ⊢
  rw [List.getLast?_append_of_ne_nil _ hv.ne_nil] at hx
  obtain ⟨hastart, hav⟩ := isAscii_append.mp ha
  have hcap : endsInCapitals v = false := by
    rw [← Bool.not_eq_true]
    intro hcap
    obtain ⟨k, a, b, rfl, -, hb⟩ := exists_of_endsInCapitals hcap
    obtain rfl : b = x := by simpa using hx
    rw [hxu] at hb
    cases hb
  refine ⟨front, v, hav, hwords, ?_⟩
  rw [← List.append_nil v] at hparted
  have hplace : Parted start (v ++ ys) :=
    hparted.append_small hv.ne_nil hv.not_isSeparator hs hne
  rw [List.append_assoc, words_append (isAscii_append.mpr ⟨hav, hs.isAscii⟩) hplace, hfront,
    hv.append_small hcap hs]

end ServiceSpec.Naming.Chars
