import ServiceSpec.Text.Case
import Mathlib.Data.List.Basic

/-!
# Letter case of ASCII text

Case mappings of Unicode are not as simple as they look: a character may become several, and what a
sigma becomes depends on where it stands.  For ASCII text the lower case is taken character by
character, so that it distributes over parts of a text, and a second time it changes nothing.

The facts about single characters are facts about the first 128 of them.

## Main definitions

* `IsAscii`: a text of ASCII characters
* `IsSmall`: a text of small ASCII letters

## Main results

* `lowerWord_of_isAscii`: the lower case of ASCII text, character by character
* `isUppercase_of_isLower_toLower`: what becomes a small letter is a letter
-/

namespace ServiceSpec.Text

variable {c : Char} {cs ds : List Char}

/-- The text has ASCII characters only. -/
def IsAscii (cs : List Char) : Prop :=
  ∀ c ∈ cs, c.toNat < 0x80

instance (cs : List Char) : Decidable (IsAscii cs) :=
  decidable_of_iff (cs.all (·.toNat < 0x80)) (by simp [IsAscii])

theorem isAscii_append : IsAscii (cs ++ ds) ↔ IsAscii cs ∧ IsAscii ds :=
  List.forall_mem_append

/-- What holds of the first 128 characters holds of each ASCII character. -/
theorem forall_ascii {P : Char → Prop} (h : ∀ n < 0x80, P (Char.ofNat n)) (hc : c.toNat < 0x80) :
    P c := by
  rw [← Char.ofNat_toNat c]
  exact h c.toNat hc

theorem isLowercase_of_isUppercase (hc : c.toNat < 0x80) :
    isUppercase c → isLowercase c = false :=
  forall_ascii (P := fun c => isUppercase c → isLowercase c = false) (by decide) hc

theorem isDigit_of_isUppercase (hc : c.toNat < 0x80) : isUppercase c → c.isDigit = false :=
  forall_ascii (P := fun c => isUppercase c → c.isDigit = false) (by decide) hc

/-! ## Lower case -/

theorem lower_of_isAscii (hc : c.toNat < 0x80) : lower c = [c.toLower] := by
  rw [lower, if_pos hc]

theorem upper_of_isAscii (hc : c.toNat < 0x80) : upper c = [c.toUpper] := by
  rw [upper, if_pos hc]

theorem flatMap_upper_of_isAscii (h : IsAscii cs) : cs.flatMap upper = cs.map Char.toUpper := by
  induction cs with
  | nil => rfl
  | cons c rest ih =>
    obtain ⟨hc, hrest⟩ := List.forall_mem_cons.mp h
    rw [List.flatMap_cons, upper_of_isAscii hc, ih hrest]
    rfl

theorem flatMap_lower_of_isAscii (h : IsAscii cs) : cs.flatMap lower = cs.map Char.toLower := by
  induction cs with
  | nil => rfl
  | cons c rest ih =>
    obtain ⟨hc, hrest⟩ := List.forall_mem_cons.mp h
    rw [List.flatMap_cons, lower_of_isAscii hc, ih hrest]
    rfl

theorem lowerAfter_of_isAscii (h : IsAscii cs) (before : List Char) :
    lowerAfter before cs = cs.map Char.toLower := by
  induction cs generalizing before with
  | nil => rfl
  | cons c rest ih =>
    obtain ⟨hc, hrest⟩ := List.forall_mem_cons.mp h
    have hsigma : c ≠ '\u03a3' := by
      rintro rfl
      exact absurd hc (by decide)
    rw [lowerAfter, if_neg hsigma, lower_of_isAscii hc, ih hrest]
    rfl

/-- **The lower case of ASCII text is taken character by character.** -/
theorem lowerWord_of_isAscii (h : IsAscii cs) : lowerWord cs = cs.map Char.toLower :=
  lowerAfter_of_isAscii h []

theorem isAscii_lowerWord (h : IsAscii cs) : IsAscii (lowerWord cs) := by
  rw [lowerWord_of_isAscii h, IsAscii, List.forall_mem_map]
  exact fun c hc => forall_ascii (P := fun c => c.toLower.toNat < 0x80) (by decide) (h c hc)

theorem lowerWord_append (h : IsAscii cs) (h' : IsAscii ds) :
    lowerWord (cs ++ ds) = lowerWord cs ++ lowerWord ds := by
  rw [lowerWord_of_isAscii (isAscii_append.mpr ⟨h, h'⟩), lowerWord_of_isAscii h,
    lowerWord_of_isAscii h', List.map_append]

theorem IsAscii.dropLast (h : IsAscii cs) : IsAscii cs.dropLast :=
  fun c hc => h c (cs.dropLast_subset hc)

theorem lowerWord_dropLast (h : IsAscii cs) : lowerWord cs.dropLast = (lowerWord cs).dropLast := by
  rw [lowerWord_of_isAscii h.dropLast, lowerWord_of_isAscii h, List.map_dropLast]

theorem lowerWord_lowerWord (h : IsAscii cs) : lowerWord (lowerWord cs) = lowerWord cs := by
  rw [lowerWord_of_isAscii (isAscii_lowerWord h), lowerWord_of_isAscii h, List.map_map]
  exact List.map_congr_left fun c hc =>
    forall_ascii (P := fun c => c.toLower.toLower = c.toLower) (by decide) (h c hc)

/-- Lower case leaves no capital. -/
theorem isUppercase_of_mem_lowerWord (h : IsAscii cs) :
    ∀ c ∈ lowerWord cs, isUppercase c = false := by
  rw [lowerWord_of_isAscii h, List.forall_mem_map]
  exact fun c hc => forall_ascii (P := fun c => isUppercase c.toLower = false) (by decide) (h c hc)

/-! ## Small letters -/

/-- The text has small ASCII letters only. -/
def IsSmall (cs : List Char) : Prop :=
  ∀ c ∈ cs, c.isLower

instance (cs : List Char) : Decidable (IsSmall cs) :=
  decidable_of_iff (cs.all Char.isLower) (by simp [IsSmall])

theorem toNat_lt_of_isLower (h : c.isLower) : c.toNat < 0x80 := by
  have hle : c.val ≤ 'z'.val := of_decide_eq_true (Bool.and_eq_true_iff.mp h).2
  have hz : c.val.toNat ≤ 'z'.val.toNat := UInt32.le_iff_toNat_le.mp hle
  exact Nat.lt_of_le_of_lt hz (by decide)

/-- What holds of the small letters among the first 128 characters holds of each small letter. -/
theorem forall_isLower {P : Char → Prop}
    (h : ∀ n < 0x80, (Char.ofNat n).isLower → P (Char.ofNat n)) (hc : c.isLower) : P c :=
  forall_ascii (P := fun c => c.isLower → P c) h (toNat_lt_of_isLower hc) hc

theorem IsSmall.isAscii (h : IsSmall cs) : IsAscii cs :=
  fun c hc => toNat_lt_of_isLower (h c hc)

theorem IsSmall.map_toLower (h : IsSmall cs) : cs.map Char.toLower = cs := by
  refine (List.map_congr_left fun c hc => ?_).trans (List.map_id cs)
  exact forall_isLower (P := fun c => c.toLower = c) (by decide) (h c hc)

theorem IsSmall.lowerWord_eq (h : IsSmall cs) : lowerWord cs = cs := by
  rw [lowerWord_of_isAscii h.isAscii, h.map_toLower]

theorem lowerWord_append_of_isSmall (h : IsAscii cs) (hs : IsSmall ds) :
    lowerWord (cs ++ ds) = lowerWord cs ++ ds := by
  rw [lowerWord_append h hs.isAscii, hs.lowerWord_eq]

theorem isLowercase_of_isLower (h : c.isLower) : isLowercase c :=
  forall_isLower (P := fun c => isLowercase c) (by decide) h

theorem isUppercase_of_isLower (h : c.isLower) : isUppercase c = false :=
  forall_isLower (P := fun c => isUppercase c = false) (by decide) h

theorem isUppercase_toUpper_of_isLower (h : c.isLower) : isUppercase c.toUpper :=
  forall_isLower (P := fun c => isUppercase c.toUpper) (by decide) h

theorem toLower_toUpper_of_isLower (h : c.isLower) : c.toUpper.toLower = c :=
  forall_isLower (P := fun c => c.toUpper.toLower = c) (by decide) h

theorem toNat_toUpper_lt_of_isLower (h : c.isLower) : c.toUpper.toNat < 0x80 :=
  forall_isLower (P := fun c => c.toUpper.toNat < 0x80) (by decide) h

theorem IsSmall.isAscii_map_toUpper (h : IsSmall cs) : IsAscii (cs.map Char.toUpper) :=
  List.forall_mem_map.mpr fun c hc => toNat_toUpper_lt_of_isLower (h c hc)

/-- Upper case is undone by lower case. -/
theorem IsSmall.lowerWord_map_toUpper (h : IsSmall cs) : lowerWord (cs.map Char.toUpper) = cs := by
  rw [lowerWord_of_isAscii h.isAscii_map_toUpper, List.map_map]
  refine (List.map_congr_left fun c hc => ?_).trans (List.map_id cs)
  exact toLower_toUpper_of_isLower (h c hc)

/-- What becomes a small letter in lower case is one already, or it is a capital. -/
theorem isUppercase_of_isLower_toLower (hc : c.toNat < 0x80) (h : c.toLower.isLower)
    (hl : isLowercase c = false) : isUppercase c :=
  forall_ascii (P := fun c => c.toLower.isLower → isLowercase c = false → isUppercase c)
    (by decide) hc h hl

end ServiceSpec.Text
