import ServiceSpec.Proofs.CamelCase

/-!
# Cuts between words

Cutting an identifier into words loses its separators and nothing else, and a word that is taken out
is not cut again.  The second point is not obvious.  Whether a word starts at a character depends on
the character after it, and at the end of a word that is taken out this one is missing.  But a
character that is missing can only make a cut less likely, since all that is ever asked of it is to
be a small letter.  For this reason there is no need to know anything about the letters of other
alphabets.

What the words are is settled by two more facts: where two words meet there is a reason for it, and
inside a word there is none.

## Main results

* `isWord_of_mem_words`: every word is one word when it is taken out
* `exists_meeting`: where two words meet
* `words_recover`: the words of a text are its parts between separators and starts of words
-/

namespace ServiceSpec.Naming

namespace Chars

open ServiceSpec.Text

variable {c d : Char} {cs rest v w : List Char} {front back : List (List Char)}

/-- **Every word is one word when it is taken out.** -/
theorem isWord_of_mem_words (hw : w ∈ words cs) : IsWord w := by
  -- the first word is, and what follows it has the others
  induction hws : words cs generalizing cs with
  | nil =>
    rw [hws] at hw
    cases hw
  | cons v ws ih =>
    obtain ⟨seps, rest, rfl, -, hv, -, hrest⟩ := exists_of_words_eq_cons hws
    rw [hws] at hw
    rcases List.mem_cons.mp hw with rfl | hw
    · exact hv
    · exact ih (hrest ▸ hw) hrest

/-- No word starts inside a word. -/
theorem IsWord.not_startsWord {before after : List Char} (h : IsWord w)
    (hw : w = before ++ c :: d :: after) : ¬ startsWord c d after.head? := by
  induction before generalizing w with
  | nil =>
    subst hw
    obtain ⟨-, hend, -⟩ := isWord_cons_cons.mp h
    exact fun hs => hend (endsBefore_of_startsWord hs)
  | cons x before ih =>
    subst hw
    cases before with
    | nil => exact ih (isWord_cons_cons.mp h).2.2 rfl
    | cons y before => exact ih (isWord_cons_cons.mp h).2.2 rfl

theorem IsWord.exists_last (h : IsWord w) : ∃ c, w.getLast? = some c ∧ ¬ isSeparator c := by
  have hsome : w.getLast? ≠ none := mt List.getLast?_eq_none_iff.mp h.ne_nil
  obtain ⟨c, hc⟩ := Option.ne_none_iff_exists'.mp hsome
  exact ⟨c, hc, h.not_isSeparator c (List.mem_of_getLast? hc)⟩

/-- **Where two words meet** there are separators, or the second one starts after the first. -/
theorem exists_meeting (h : words cs = front ++ v :: w :: back) :
    ∃ xs seps ys, cs = xs ++ v ++ seps ++ w ++ ys ∧ (∀ c ∈ seps, isSeparator c) ∧
      (seps = [] → ∃ c d after, v.getLast? = some c ∧ w ++ ys = d :: after ∧
        startsWord c d after.head?) := by
  induction front generalizing cs with
  | nil =>
    obtain ⟨xs, rest, rfl, -, hv, hparted, hrest⟩ := exists_of_words_eq_cons h
    obtain ⟨seps, ys, rfl, hseps, hw, -⟩ := exists_of_words_eq_cons hrest
    refine ⟨xs, seps, ys, by simp, hseps, ?_⟩
    rintro rfl
    obtain ⟨c, hlast, hc⟩ := hv.exists_last
    obtain ⟨d, tail, rfl⟩ := List.exists_cons_of_ne_nil hw.ne_nil
    have hd : ¬ isSeparator d := hw.not_isSeparator d (List.mem_cons_self ..)
    have hend : endsBefore c (d :: (tail ++ ys)) := (hparted c hlast).resolve_left hc
    exact ⟨c, d, tail ++ ys, hlast, rfl, (Bool.or_eq_true_iff.mp hend).resolve_left hd⟩
  | cons u front ih =>
    obtain ⟨start, rest, rfl, -, -, -, hrest⟩ := exists_of_words_eq_cons h
    obtain ⟨xs, seps, ys, rfl, hmeet⟩ := ih hrest
    exact ⟨start ++ (u ++ xs), seps, ys, by simp, hmeet⟩

theorem isSeparator_iff : isSeparator c ↔ c ∈ ['_', '-', ' '] := by
  simp [isSeparator, or_assoc]

end Chars

/-- **The words of a text are its parts between separators and starts of words.**  They have
characters and no separators, each is one word by itself, and together they are the text without its
separators.  No word starts inside a word, and where two words meet there are separators or a word
starts. -/
theorem words_recover (s : String) :
    (∀ w ∈ words s, w ≠ "" ∧ (∀ c ∈ w.toList, c ∉ ['_', '-', ' ']) ∧ words w = [w] ∧
      ∀ before c d after, w.toList = before ++ c :: d :: after →
        ¬ Chars.startsWord c d after.head?) ∧
    String.join (words s) = String.ofList (s.toList.filter (· ∉ ['_', '-', ' '])) ∧
    ∀ front v w back, words s = front ++ v :: w :: back →
      ∃ xs seps ys, s = xs ++ v ++ seps ++ w ++ ys ∧ (∀ c ∈ seps.toList, c ∈ ['_', '-', ' ']) ∧
        (seps = "" → ∃ c d after, v.toList.getLast? = some c ∧ (w ++ ys).toList = d :: after ∧
          Chars.startsWord c d after.head?) := by
  simp only [← Chars.isSeparator_iff]
  refine ⟨?_, ?_, ?_⟩
  · intro w hw
    obtain ⟨v, hv, rfl⟩ := List.mem_map.mp hw
    have hword := Chars.isWord_of_mem_words hv
    refine ⟨?_, ?_, ?_, ?_⟩
    · simpa using hword.ne_nil
    · simpa using hword.not_isSeparator
    · rw [words_eq_iff, List.map_singleton, String.toList_ofList]
      exact hword
    · intro before c d after hsplit
      apply hword.not_startsWord
      simpa using hsplit
  · rw [← String.toList_inj, String.toList_join, String.toList_ofList]
    simp [words, List.flatMap_def, Function.comp_def, Chars.flatten_words]
  · intro front v w back h
    rw [words_eq_iff, List.map_append, List.map_cons, List.map_cons] at h
    obtain ⟨xs, seps, ys, hs, hseps, hmeet⟩ := Chars.exists_meeting h
    refine ⟨String.ofList xs, String.ofList seps, String.ofList ys, ?_, ?_, ?_⟩
    · rw [← String.toList_inj, hs]
      simp
    · simpa using hseps
    · simpa using hmeet

/-- An acronym ends at a capital, and the word after it at a separator. -/
theorem words_recover_httpClient :
    words "HTTPClient_userID" = ["HTTP", "Client", "user", "ID"] ∧ words "HTTP" = ["HTTP"] ∧
      ∃ xs seps ys, "HTTPClient_userID" = xs ++ "Client" ++ seps ++ "user" ++ ys ∧
        ∀ c ∈ seps.toList, c ∈ ['_', '-', ' '] := by
  have hwords : words "HTTPClient_userID" = ["HTTP", "Client", "user", "ID"] := by decide +kernel
  obtain ⟨hword, -, hmeet⟩ := words_recover "HTTPClient_userID"
  obtain ⟨-, -, hHTTP, -⟩ := hword "HTTP" (by rw [hwords]; exact List.mem_cons_self ..)
  obtain ⟨xs, seps, ys, hs, hseps, -⟩ := hmeet ["HTTP"] "Client" "user" ["ID"] hwords
  exact ⟨hwords, hHTTP, xs, seps, ys, hs, hseps⟩

end ServiceSpec.Naming
