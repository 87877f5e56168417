import ServiceSpec.Proofs.WordCase

/-!
# Camel case

A key is the camel case of a name, so that a name which is a key already must be in camel case: it
has no separators, its first word has no capital, and every other word has one at its start only.
Where there are no separators the words make up the text, and every word but the first starts with a
capital anyway, since nothing else could set it apart.

## Main definitions

* `IsCamelCase`: a text in camel case

## Main results

* `flatten_words`: the words of a text are the text without its separators
* `camelCase_eq_self_iff`: a text is its own camel case if and only if it is in camel case
-/

namespace ServiceSpec.Naming

namespace Chars

open ServiceSpec.Text

variable {c d : Char} {cs rest v w : List Char} {vs ws : List (List Char)}

/-! ## Words without separators -/

/-- **The words of a text are the text without its separators.** -/
theorem flatten_words (cs : List Char) :
    (words cs).flatten = cs.filter fun c => !isSeparator c := by
  induction cs with
  | nil => rfl
  | cons c rest ih =>
    by_cases hc : isSeparator c
    · rw [words_cons_separator hc, ih, List.filter_cons_of_neg (by simp [hc])]
    rw [List.filter_cons_of_pos (by simp [hc]), ← ih]
    by_cases he : endsBefore c rest
    · rw [words_cons_end hc he]
      rfl
    · obtain ⟨d, tail, rfl, hd⟩ := exists_of_not_endsBefore he
      obtain ⟨v, vs, hv⟩ := exists_words_eq_cons (List.mem_cons_self ..) hd
      rw [words_cons_inside hc he, hv]
      rfl

theorem flatten_words_of_notSeparated (h : ∀ c ∈ cs, ¬ isSeparator c) :
    (words cs).flatten = cs := by
  rw [flatten_words, List.filter_eq_self]
  simpa using h

/-- The first word starts where the text starts, if that is no separator. -/
theorem head?_of_words_eq_cons (hc : ¬ isSeparator c) (h : words (c :: rest) = v :: vs) :
    v.head? = some c := by
  by_cases he : endsBefore c rest
  · rw [words_cons_end hc he] at h
    obtain ⟨rfl, -⟩ := List.cons.inj h
    rfl
  · obtain ⟨d, tail, rfl, hd⟩ := exists_of_not_endsBefore he
    obtain ⟨u, us, hu⟩ := exists_words_eq_cons (List.mem_cons_self ..) hd
    rw [words_cons_inside hc he, hu] at h
    obtain ⟨rfl, -⟩ := List.cons.inj h
    rfl

/-- Without separators every word but the first starts with a capital. -/
theorem isUppercase_head_of_mem_tail (h : ∀ c ∈ cs, ¬ isSeparator c) :
    ∀ v ∈ (words cs).tail, ∃ c ∈ v.head?, isUppercase c := by
  induction cs with
  | nil => simp [words]
  | cons c rest ih =>
    obtain ⟨hc, hrest⟩ := List.forall_mem_cons.mp h
    by_cases he : endsBefore c rest
    · rw [words_cons_end hc he, List.tail_cons]
      cases rest with
      | nil => simp [words]
      | cons d tail =>
        obtain ⟨hd, -⟩ := List.forall_mem_cons.mp hrest
        have hmem : d ∈ d :: tail := List.mem_cons_self ..
        obtain ⟨v, vs, hv⟩ := exists_words_eq_cons hmem hd
        have hstart := (Bool.or_eq_true_iff.mp he).resolve_left hd
        rw [hv, List.forall_mem_cons]
        refine ⟨⟨d, head?_of_words_eq_cons hd hv, isUppercase_of_startsWord hstart⟩, ?_⟩
        have htail := ih hrest
        rwa [hv, List.tail_cons] at htail
    · rw [words_cons_inside hc he, List.tail_modifyHead]
      exact ih hrest

/-! ## Letters that stay -/

theorem lowerWord_eq_self_iff (ha : IsAscii w) :
    lowerWord w = w ↔ ∀ c ∈ w, isUppercase c = false := by
  constructor
  · intro h
    rw [← h]
    exact isUppercase_of_mem_lowerWord ha
  · intro h
    rw [lowerWord_of_isAscii ha]
    refine (List.map_congr_left fun c hc => ?_).trans (List.map_id w)
    exact forall_ascii (P := fun c => isUppercase c = false → c.toLower = c) (by decide) (ha c hc)
      (h c hc)

theorem capitalize_cons (ha : IsAscii (c :: rest)) :
    capitalize (c :: rest) = c.toUpper :: lowerWord rest := by
  obtain ⟨hc, hrest⟩ := List.forall_mem_cons.mp ha
  rw [capitalize, upper_of_isAscii hc, flatMap_lower_of_isAscii hrest, lowerWord_of_isAscii hrest]
  rfl

theorem length_capitalize (ha : IsAscii w) : (capitalize w).length = w.length := by
  cases w with
  | nil => rfl
  | cons c rest =>
    rw [capitalize_cons ha, lowerWord_of_isAscii (List.forall_mem_cons.mp ha).2]
    simp

/-- A word with a capital at its start is capitalized if it has no other one. -/
theorem capitalize_eq_self_iff (ha : IsAscii w) (h : ∃ c ∈ w.head?, isUppercase c) :
    capitalize w = w ↔ ∀ c ∈ w.tail, isUppercase c = false := by
  obtain ⟨c, hc, hu⟩ := h
  obtain ⟨rest, rfl⟩ := List.head?_eq_some_iff.mp hc
  obtain ⟨hac, harest⟩ := List.forall_mem_cons.mp ha
  have hupper : c.toUpper = c :=
    forall_ascii (P := fun c => isUppercase c → c.toUpper = c) (by decide) hac hu
  rw [capitalize_cons ha, hupper, List.cons_inj_right, lowerWord_eq_self_iff harest]
  rfl

/-! ## Texts in camel case -/

/-- The text is in camel case: without separators, without capitals in its first word, and with one
at the start of every other word only. -/
structure IsCamelCase (cs : List Char) : Prop where
  unseparated : ∀ c ∈ cs, ¬ isSeparator c
  first : ∀ w ∈ (words cs).head?, ∀ c ∈ w, isUppercase c = false
  others : ∀ w ∈ (words cs).tail, ∀ c ∈ w.tail, isUppercase c = false

theorem mem_of_mem_words (hw : w ∈ words cs) (hc : c ∈ w) : c ∈ cs := by
  have hmem : c ∈ (words cs).flatten := List.mem_flatten.mpr ⟨w, hw, hc⟩
  rw [flatten_words] at hmem
  exact List.mem_of_mem_filter hmem

theorem isAscii_of_mem_words (ha : IsAscii cs) (hw : w ∈ words cs) : IsAscii w :=
  fun c hc => ha c (mem_of_mem_words hw hc)

theorem camelCase_of_words (h : words cs = w :: ws) :
    camelCase cs = lowerWord w ++ (ws.map capitalize).flatten := by
  simp only [camelCase, h, List.flatMap_def]

theorem not_isSeparator_of_mem_lowerWord (ha : IsAscii w) (hw : ∀ c ∈ w, ¬ isSeparator c) :
    ∀ c ∈ lowerWord w, ¬ isSeparator c := by
  rw [lowerWord_of_isAscii ha, List.forall_mem_map]
  exact fun c hc => forall_ascii (P := fun c => ¬ isSeparator c → ¬ isSeparator c.toLower)
    (by decide) (ha c hc) (hw c hc)

theorem not_isSeparator_of_mem_capitalize (ha : IsAscii w) (hw : ∀ c ∈ w, ¬ isSeparator c) :
    ∀ c ∈ capitalize w, ¬ isSeparator c := by
  cases w with
  | nil => simp [capitalize]
  | cons c rest =>
    obtain ⟨hc, hrest⟩ := List.forall_mem_cons.mp hw
    obtain ⟨hac, harest⟩ := List.forall_mem_cons.mp ha
    rw [capitalize_cons ha]
    exact List.forall_mem_cons.mpr
      ⟨forall_ascii (P := fun c => ¬ isSeparator c → ¬ isSeparator c.toUpper) (by decide) hac hc,
        not_isSeparator_of_mem_lowerWord harest hrest⟩

/-- Camel case has no separators. -/
theorem not_isSeparator_of_mem_camelCase (ha : IsAscii cs) :
    ∀ c ∈ camelCase cs, ¬ isSeparator c := by
  cases h : words cs with
  | nil => simp [camelCase, h]
  | cons w ws =>
    have hword : ∀ v ∈ w :: ws, IsAscii v ∧ ∀ c ∈ v, ¬ isSeparator c := fun v hv =>
      ⟨isAscii_of_mem_words ha (h ▸ hv), not_isSeparator_of_mem_words (h ▸ hv)⟩
    obtain ⟨⟨haw, hw⟩, hws⟩ := List.forall_mem_cons.mp hword
    rw [camelCase_of_words h]
    intro c hc
    rcases List.mem_append.mp hc with hc | hc
    · exact not_isSeparator_of_mem_lowerWord haw hw c hc
    · obtain ⟨u, hu, hc⟩ := List.mem_flatten.mp hc
      obtain ⟨v, hv, rfl⟩ := List.mem_map.mp hu
      exact not_isSeparator_of_mem_capitalize (hws v hv).1 (hws v hv).2 c hc

/-- Words that are as long as others make up the same text only if they are the same. -/
theorem map_eq_self_of_flatten_map_eq {f : List Char → List Char}
    (hlength : ∀ w ∈ ws, (f w).length = w.length) (h : (ws.map f).flatten = ws.flatten) :
    ∀ w ∈ ws, f w = w := by
  induction ws with
  | nil => simp
  | cons v vs ih =>
    obtain ⟨hv, hvs⟩ := List.forall_mem_cons.mp hlength
    obtain ⟨hself, hrest⟩ := List.append_inj h hv
    exact List.forall_mem_cons.mpr ⟨hself, ih hvs hrest⟩

/-- **A text is its own camel case if and only if it is in camel case.** -/
theorem camelCase_eq_self_iff (ha : IsAscii cs) : camelCase cs = cs ↔ IsCamelCase cs := by
  have hascii : ∀ w ∈ words cs, IsAscii w := fun w hw => isAscii_of_mem_words ha hw
  constructor
  · intro h
    have hsep : ∀ c ∈ cs, ¬ isSeparator c := by
      rw [← h]
      exact not_isSeparator_of_mem_camelCase ha
    have hflat := flatten_words_of_notSeparated hsep
    have hstart := isUppercase_head_of_mem_tail hsep
    cases hw : words cs with
    | nil => exact ⟨hsep, by simp [hw], by simp [hw]⟩
    | cons w ws =>
      rw [hw] at hascii hflat hstart
      obtain ⟨haw, haws⟩ := List.forall_mem_cons.mp hascii
      rw [camelCase_of_words hw, ← hflat] at h
      -- the words are as long as before, so that each has to be the same
      have hlength : (lowerWord w).length = w.length := by
        rw [lowerWord_of_isAscii haw, List.length_map]
      obtain ⟨hself, hrest⟩ := List.append_inj h hlength
      have hcapitalized := map_eq_self_of_flatten_map_eq
        (fun v hv => length_capitalize (haws v hv)) hrest
      refine ⟨hsep, ?_, fun v hv => ?_⟩
      · rw [hw]
        simpa using (lowerWord_eq_self_iff haw).mp hself
      · rw [hw, List.tail_cons] at hv
        exact (capitalize_eq_self_iff (haws v hv) (hstart v hv)).mp (hcapitalized v hv)
  · rintro ⟨hsep, hfirst, hothers⟩
    have hflat := flatten_words_of_notSeparated hsep
    have hstart := isUppercase_head_of_mem_tail hsep
    cases hw : words cs with
    | nil =>
      rw [hw] at hflat
      rw [camelCase, hw, ← hflat]
      rfl
    | cons w ws =>
      rw [hw] at hascii hflat hstart hfirst hothers
      obtain ⟨haw, haws⟩ := List.forall_mem_cons.mp hascii
      have hcapitalized : ws.map capitalize = ws :=
        (List.map_congr_left fun v hv =>
          (capitalize_eq_self_iff (haws v hv) (hstart v hv)).mpr (hothers v hv)).trans
        (List.map_id ws)
      rw [camelCase_of_words hw, (lowerWord_eq_self_iff haw).mpr (hfirst w rfl), hcapitalized,
        ← List.flatten_cons, hflat]

end Chars

end ServiceSpec.Naming
