import ServiceSpec.Json.Reader
import Mathlib.Data.List.Basic

/-!
# Tokens of JSON text

A reader stands somewhere in a text, and what it does depends on what is left of it.  A reader reads
a part of a text if, in front of some rest, it takes the characters of that part and stops at the
rest, wherever in the text that is.  Readers that follow each other then read parts that follow each
other, and what is known of a written document part by part is enough to know how it is read.

Texts are written with escapes and read without them, character by character.  A number goes on for
as long as it can, so that only something that cannot belong to it may stand behind it; in a written
document that is a comma or the end of a line.

## Main definitions

* `Json.Reads`: what a reader makes of a part of a text in front of some rest
* `Json.escaped`: the characters that a text is written with between its quotes
* `Json.Ends`: what can stand behind a value

## Main results

* `Json.Reads.bind`: readers that follow each other
* `Json.escapeChar_cases`: a character is written as an escape that stands for it, or as itself
* `Json.reads_textBody`, `Json.reads_skipText`: a text is read, and passed over
* `Json.reads_number`, `Json.reads_skipNumber`: the same for the digits of a number
-/

namespace ServiceSpec.Json

variable {α β : Type} {r : Reader α} {f : α → Reader β} {room : Nat}
  {cs ds rest blanks : List Char} {a : α} {b : β} {c : Char}

/-- In front of the rest of a text, the reader takes the characters and gives the value, wherever
in the text it stands. -/
def Reads (r : Reader α) (room : Nat) (cs rest : List Char) (a : α) : Prop :=
  ∀ p, ∃ p', r ⟨cs ++ rest, p, room⟩ = .ok a ⟨rest, p', room⟩

/-- Characters that are passed between tokens. -/
def Blank (cs : List Char) : Prop :=
  ∀ c ∈ cs, isBlankChar c

theorem blank_nil : Blank [] := by simp [Blank]

namespace Reads

theorem pure (a : α) : Reads (pure a) room [] rest a :=
  fun p => ⟨p, rfl⟩

theorem bind (h : Reads r room cs (ds ++ rest) a) (h' : Reads (f a) room ds rest b) :
    Reads (r >>= f) room (cs ++ ds) rest b := by
  intro p
  obtain ⟨p', hr⟩ := h p
  obtain ⟨p'', hf⟩ := h' p'
  refine ⟨p'', ?_⟩
  change EStateM.bind r f _ = _
  rw [EStateM.bind, List.append_assoc, hr]
  exact hf

theorem bind_pure (g : α → β) (h : Reads r room cs rest a) :
    Reads (r >>= fun x => Pure.pure (g x)) room cs rest (g a) := by
  rw [← List.append_nil cs]
  exact h.bind (pure (g a))

theorem map (g : α → β) (h : Reads r room cs rest a) : Reads (g <$> r) room cs rest (g a) := by
  intro p
  obtain ⟨p', hr⟩ := h p
  refine ⟨p', ?_⟩
  change EStateM.map g r _ = _
  rw [EStateM.map, hr]

theorem peek_bind {f : Option Char → Reader β}
    (h : Reads (f (cs ++ rest).head?) room cs rest b) :
    Reads (peek >>= f) room cs rest b :=
  h

theorem advance_bind {f : Unit → Reader β} (h : Reads (f ()) room cs rest b) :
    Reads (advance >>= f) room (c :: cs) rest b := by
  intro p
  exact h (p.past c)

theorem advance : Reads advance room [c] rest () :=
  fun p => ⟨p.past c, rfl⟩

end Reads

/-- Blanks are dropped up to a character that is not blank, or to the end. -/
theorem exists_dropBlank_eq (hb : Blank blanks) (hcs : ∀ c ∈ cs.head?, ¬ isBlankChar c)
    (p : Position) : ∃ p', dropBlank (blanks ++ cs) p = (cs, p') := by
  induction blanks generalizing p with
  | nil =>
    cases cs with
    | nil => exact ⟨p, rfl⟩
    | cons c cs => exact ⟨p, by rw [List.nil_append, dropBlank, if_neg (hcs c rfl)]⟩
  | cons x blanks ih =>
    obtain ⟨hx, hb⟩ := List.forall_mem_cons.mp hb
    obtain ⟨p', h⟩ := ih hb (p.past x)
    exact ⟨p', by rw [List.cons_append, dropBlank, if_pos hx, h]⟩

namespace Reads

theorem peekToken_bind_of_head {f : Option Char → Reader β} (hb : Blank blanks)
    (hhead : ∀ c ∈ (cs ++ rest).head?, ¬ isBlankChar c)
    (h : Reads (f (cs ++ rest).head?) room cs rest b) :
    Reads (peekToken >>= f) room (blanks ++ cs) rest b := by
  intro p
  obtain ⟨p', hdrop⟩ := exists_dropBlank_eq hb hhead p
  obtain ⟨p'', hf⟩ := h p'
  refine ⟨p'', ?_⟩
  change EStateM.bind peekToken f _ = _
  rw [EStateM.bind, peekToken, List.append_assoc]
  simp only [hdrop]
  exact hf

/-- The token is passed by the reader itself. -/
theorem peekToken_bind {f : Option Char → Reader β} (hb : Blank blanks) (hc : ¬ isBlankChar c)
    (h : Reads (f (some c)) room (c :: cs) rest b) :
    Reads (peekToken >>= f) room (blanks ++ c :: cs) rest b := by
  apply peekToken_bind_of_head hb _ h
  rintro x ⟨⟩
  exact hc

/-- The token is left where it is. -/
theorem peekToken_bind_rest {f : Option Char → Reader β} (hb : Blank blanks)
    (hc : ¬ isBlankChar c) (h : Reads (f (some c)) room [] (c :: rest) b) :
    Reads (peekToken >>= f) room blanks (c :: rest) b := by
  rw [← List.append_nil blanks]
  apply peekToken_bind_of_head hb _ h
  rintro x ⟨⟩
  exact hc

theorem peekValue_bind {f : Char → Reader β} (hb : Blank blanks) (hc : ¬ isBlankChar c)
    (h : Reads (f c) room (c :: cs) rest b) :
    Reads (peekValue >>= f) room (blanks ++ c :: cs) rest b := by
  rw [peekValue, bind_assoc]
  apply peekToken_bind hb hc
  exact h

theorem located (h : Reads r room cs rest a) : Reads (located r) room cs rest a := by
  intro p
  obtain ⟨p', hr⟩ := h p
  exact ⟨p', by rw [Json.located, hr]⟩

theorem closing {close : Reader Unit} (h : Reads r room cs (ds ++ rest) a)
    (h' : Reads close room ds rest ()) : Reads (closing r close) room (cs ++ ds) rest a := by
  intro p
  obtain ⟨p', hr⟩ := h p
  obtain ⟨p'', hclose⟩ := h' p'
  exact ⟨p'', by simp only [Json.closing, List.append_assoc, hr, hclose]⟩

theorem nested (h : Reads r (room + 1) cs rest a) : Reads (nested r) (room + 2) cs rest a := by
  intro p
  obtain ⟨p', hr⟩ := h p
  exact ⟨p', by simp only [Json.nested, hr]⟩

theorem of_fuel {r : Nat → Reader α}
    (h : ∀ fuel, cs.length < fuel → Reads (r fuel) room cs rest a) :
    Reads (fun c => r (c.rest.length + 1) c) room cs rest a := by
  intro p
  apply h
  rw [List.length_append]
  omega

end Reads

/-! ## Texts -/

theorem reads_word (s : String) : Reads (word s) room s.toList rest () := by
  rw [word]
  induction s.toList with
  | nil => exact Reads.pure ()
  | cons c cs ih =>
    change Reads (_ >>= fun _ => _) room ([c] ++ cs) rest ()
    refine Reads.bind (a := ()) ?_ ih
    apply Reads.peek_bind
    simp only [List.singleton_append, List.head?_cons, if_true]
    exact Reads.advance

namespace Reads

theorem peekText_bind {f : Char → Reader β} (h : Reads (f c) room (c :: cs) rest b) :
    Reads (peekText >>= f) room (c :: cs) rest b :=
  h

end Reads

/-- A character that is escaped by a letter. -/
theorem reads_escape_letter {x : Char} (h : letterEscape? x = some c) :
    Reads escape room [x] rest c := by
  rw [escape]
  apply Reads.peekText_bind
  simp only [h]
  exact Reads.advance_bind (Reads.pure c)

theorem reads_skipEscape_letter {x : Char} (h : letterEscape? x = some c) :
    Reads skipEscape room [x] rest () := by
  rw [skipEscape]
  apply Reads.peekText_bind
  simp only [h, Option.isSome_some, if_true]
  exact Reads.advance

theorem reads_hexCode {n : Nat} {a b : Char} (hbytes : byteLength ['0', '0', a, b] = 4)
    (hdigits : ['0', '0', a, b].mapM hexValue? = some [0, 0, n / 16, n % 16]) :
    Reads hexCode room ['0', '0', a, b] rest n := by
  intro p
  refine ⟨p.pastBytes 4 (['0', '0', a, b] ++ rest), ?_⟩
  have hn : [0, 0, n / 16, n % 16].foldl (fun n d => 16 * n + d) 0 = n := by
    simp only [List.foldl_cons, List.foldl_nil]
    omega
  simp only [hexCode, List.cons_append, List.nil_append, List.take_succ_cons, List.take_zero,
    hbytes, hdigits, hn, List.drop_succ_cons, List.drop_zero]
  rfl

theorem control_cases {c : Char} (h : c.toNat < 0x20) :
    byteLength ['0', '0', hexDigit (c.toNat / 16), hexDigit c.toNat] = 4 ∧
    ['0', '0', hexDigit (c.toNat / 16), hexDigit c.toNat].mapM hexValue? =
      some [0, 0, c.toNat / 16, c.toNat % 16] := by
  have hall : ∀ n < 0x20, byteLength ['0', '0', hexDigit (n / 16), hexDigit n] = 4 ∧
    ['0', '0', hexDigit (n / 16), hexDigit n].mapM hexValue? = some [0, 0, n / 16, n % 16] := by
    decide +kernel
  exact hall c.toNat h

/-- A control character that is escaped by its number. -/
theorem reads_escape_control (h : c.toNat < 0x20) :
    Reads escape room ['u', '0', '0', hexDigit (c.toNat / 16), hexDigit c.toNat] rest c := by
  obtain ⟨hbytes, hdigits⟩ := control_cases h
  have hcode : Reads codeEscape room ['0', '0', hexDigit (c.toNat / 16), hexDigit c.toNat] rest
      c := by
    rw [codeEscape]
    apply (reads_hexCode hbytes hdigits).bind
    have hlow : ¬ (0xDC00 ≤ c.toNat ∧ c.toNat ≤ 0xDFFF) := by omega
    have hplain : c.toNat < 0xD800 ∨ 0xDBFF < c.toNat := by omega
    rw [if_neg hlow, if_pos hplain, Char.ofNat_toNat]
    exact Reads.pure c
  rw [escape]
  apply Reads.peekText_bind
  rw [show letterEscape? 'u' = none by decide]
  simp only [if_true]
  exact Reads.advance_bind hcode

theorem reads_skipEscape_control (h : c.toNat < 0x20) :
    Reads skipEscape room ['u', '0', '0', hexDigit (c.toNat / 16), hexDigit c.toNat] rest () := by
  obtain ⟨hbytes, hdigits⟩ := control_cases h
  rw [skipEscape]
  apply Reads.peekText_bind
  rw [if_neg (by decide), if_pos rfl]
  apply Reads.advance_bind
  exact (reads_hexCode hbytes hdigits).bind_pure fun _ => ()

/-- **A character as it stands between quotes**: behind a backslash stands what is read as an escape
for it, and otherwise it stands for itself. -/
theorem escapeChar_cases (c : Char) :
    (∃ tail, (escapeChar c).toList = '\\' :: tail ∧
      ∀ room rest, Reads escape room tail rest c ∧ Reads skipEscape room tail rest ()) ∨
    ((escapeChar c).toList = [c] ∧ c ≠ '"' ∧ c ≠ '\\' ∧ ¬ c.toNat < 0x20) := by
  have hletter : ∀ x, letterEscape? x = some c → ∃ tail, ['\\', x] = '\\' :: tail ∧
      ∀ room rest, Reads escape room tail rest c ∧ Reads skipEscape room tail rest () :=
    fun x hx => ⟨[x], rfl, fun _ _ => ⟨reads_escape_letter hx, reads_skipEscape_letter hx⟩⟩
  rw [escapeChar]
  split_ifs with hquote hback hn hr ht hb hf hlow
  · exact .inl (hletter '"' (by rw [hquote]; rfl))
  · exact .inl (hletter '\\' (by rw [hback]; rfl))
  · exact .inl (hletter 'n' (hn ▸ rfl))
  · exact .inl (hletter 'r' (hr ▸ rfl))
  · exact .inl (hletter 't' (ht ▸ rfl))
  · exact .inl (hletter 'b' (hb ▸ rfl))
  · exact .inl (hletter 'f' (hf ▸ rfl))
  · refine .inl ⟨['u', '0', '0', hexDigit (c.toNat / 16), hexDigit c.toNat], ?_, ?_⟩
    · simp only [String.toList_append, String.toList_ofList]
      rfl
    · exact fun _ _ => ⟨reads_escape_control hlow, reads_skipEscape_control hlow⟩
  · exact .inr ⟨String.toList_singleton c, hquote, hback, hlow⟩

/-- The characters that a text is written with between its quotes. -/
def escaped (s : List Char) : List Char :=
  s.flatMap fun c => (escapeChar c).toList

/-- **A text between its quotes is read behind the opening one.** -/
theorem reads_textFrom (s done : List Char) {fuel : Nat} (hfuel : (escaped s).length < fuel) :
    Reads (textFrom fuel done) room (escaped s ++ ['"']) rest
      (String.ofList (done.reverse ++ s)) := by
  induction s generalizing done fuel with
  | nil =>
    obtain ⟨fuel, rfl⟩ := Nat.exists_eq_add_one_of_ne_zero (Nat.ne_of_gt hfuel)
    rw [textFrom]
    apply Reads.peekText_bind
    rw [if_pos rfl, List.append_nil]
    exact Reads.advance_bind (Reads.pure _)
  | cons c s ih =>
    have hcons : escaped (c :: s) = (escapeChar c).toList ++ escaped s := rfl
    rw [hcons, List.length_append] at hfuel
    rw [hcons, List.append_assoc]
    obtain ⟨fuel, rfl⟩ : ∃ n, fuel = n + 1 := ⟨fuel - 1, by omega⟩
    have hrest : (escaped s).length < fuel → Reads (textFrom fuel (c :: done)) room
        (escaped s ++ ['"']) rest (String.ofList (done.reverse ++ c :: s)) := by
      intro hfuel
      have h := ih (c :: done) hfuel
      rwa [List.reverse_cons, List.append_assoc] at h
    rw [textFrom]
    rcases escapeChar_cases c with ⟨tail, htext, hescape⟩ | ⟨htext, hquote, hback, hlow⟩
    · rw [htext] at hfuel ⊢
      rw [List.length_cons] at hfuel
      apply Reads.peekText_bind
      rw [if_neg (by decide), if_pos rfl]
      apply Reads.advance_bind
      exact (hescape room _).1.bind (hrest (by omega))
    · rw [htext] at hfuel ⊢
      rw [List.length_singleton] at hfuel
      apply Reads.peekText_bind
      rw [if_neg hquote, if_neg hback, if_neg hlow]
      exact Reads.advance_bind (hrest (by omega))

theorem reads_textBody (s : String) :
    Reads textBody room (escaped s.toList ++ ['"']) rest s := by
  refine Reads.of_fuel (r := fun fuel => textFrom fuel []) fun fuel hfuel => ?_
  have hbody : (escaped s.toList).length < fuel := by
    rw [List.length_append] at hfuel
    omega
  have h : Reads (textFrom fuel []) room (escaped s.toList ++ ['"']) rest
      (String.ofList ([].reverse ++ s.toList)) := reads_textFrom s.toList [] hbody
  rwa [List.reverse_nil, List.nil_append, String.ofList_toList] at h

theorem reads_skipTextFrom (s : List Char) {fuel : Nat} (hfuel : (escaped s).length < fuel) :
    Reads (skipTextFrom fuel) room (escaped s ++ ['"']) rest () := by
  induction s generalizing fuel with
  | nil =>
    obtain ⟨fuel, rfl⟩ := Nat.exists_eq_add_one_of_ne_zero (Nat.ne_of_gt hfuel)
    rw [skipTextFrom]
    apply Reads.peekText_bind
    rw [if_pos rfl]
    exact Reads.advance
  | cons c s ih =>
    have hcons : escaped (c :: s) = (escapeChar c).toList ++ escaped s := rfl
    rw [hcons, List.length_append] at hfuel
    rw [hcons, List.append_assoc]
    obtain ⟨fuel, rfl⟩ : ∃ n, fuel = n + 1 := ⟨fuel - 1, by omega⟩
    rw [skipTextFrom]
    rcases escapeChar_cases c with ⟨tail, htext, hescape⟩ | ⟨htext, hquote, hback, hlow⟩
    · rw [htext] at hfuel ⊢
      rw [List.length_cons] at hfuel
      apply Reads.peekText_bind
      rw [if_neg (by decide), if_pos rfl]
      apply Reads.advance_bind
      exact (hescape room _).2.bind (ih (by omega))
    · rw [htext] at hfuel ⊢
      rw [List.length_singleton] at hfuel
      apply Reads.peekText_bind
      rw [if_neg hquote, if_neg hback, if_neg hlow]
      exact Reads.advance_bind (ih (by omega))

theorem reads_skipText (s : String) :
    Reads skipText room (escaped s.toList ++ ['"']) rest () := by
  refine Reads.of_fuel fun fuel hfuel => reads_skipTextFrom s.toList ?_
  rw [List.length_append] at hfuel
  omega

theorem toList_quote (s : String) : (quote s).toList = '"' :: (escaped s.toList ++ ['"']) := by
  simp [quote, escaped, String.toList_join, List.flatMap_map]

/-! ## Numbers -/

/-- What can stand behind a value: it goes on with nothing that a number could go on with. -/
def Ends (rest : List Char) : Prop :=
  ∀ c ∈ rest.head?, c = ',' ∨ c = '\n'

theorem le_ofDigitChars (n : Nat) (cs : List Char) : n ≤ Nat.ofDigitChars 10 cs n := by
  induction cs generalizing n with
  | nil => exact Nat.le_refl n
  | cons c cs ih =>
    rw [Nat.ofDigitChars_cons]
    have h := ih (10 * n + (c.toNat - '0'.toNat))
    omega

/-- Digits are appended as long as the number that they make fits. -/
theorem appendDigits_eq {n : Nat} {cs : List Char} (h : Nat.ofDigitChars 10 cs n < Nat.pow 2 64) :
    appendDigits n (cs.map fun d => d.toNat - '0'.toNat) = (Nat.ofDigitChars 10 cs n, []) := by
  induction cs generalizing n with
  | nil => rfl
  | cons c cs ih =>
    rw [Nat.ofDigitChars_cons] at h ⊢
    rw [List.map_cons, appendDigits, if_pos (Nat.lt_of_le_of_lt (le_ofDigitChars _ cs) h), ih h]

/-- The digits of a number start with a zero for zero only. -/
theorem exists_toDigits_eq_cons (n : Nat) :
    ∃ c cs, Nat.toDigits 10 n = c :: cs ∧ (c = '0' → n = 0) := by
  induction n using Nat.strongRecOn with
  | ind n ih =>
    by_cases hn : n < 10
    · refine ⟨_, [], Nat.toDigits_of_lt_base hn, ?_⟩
      have hdigit : ∀ n < 10, Nat.digitChar n = '0' → n = 0 := by decide
      exact hdigit n hn
    · obtain ⟨c, cs, hdigits, hzero⟩ := ih (n / 10) (by omega)
      refine ⟨c, cs ++ [(n % 10).digitChar], ?_, fun hc => ?_⟩
      · rw [Nat.toDigits_of_base_le (by decide) (by omega), hdigits, List.cons_append]
      · have hsmall := hzero hc
        omega

theorem reads_digits (hcs : ∀ c ∈ cs, c.isDigit)
    (hrest : ∀ c ∈ rest.head?, c.isDigit = false) :
    Reads digits room cs rest (cs.map fun d => d.toNat - '0'.toNat) := by
  intro p
  have htake : (cs ++ rest).takeWhile Char.isDigit = cs := by
    rw [List.takeWhile_append_of_pos hcs]
    cases rest with
    | nil => simp
    | cons c rest => simp [hrest c rfl]
  refine ⟨{ p with column := p.column + cs.length }, ?_⟩
  simp only [digits, htake, List.drop_left]

theorem isDigit_of_mem_toDigits {n : Nat} (hc : c ∈ Nat.toDigits 10 n) : c.isDigit :=
  Nat.isDigit_of_mem_toDigits (by decide) (by decide) hc

theorem Ends.not_isDigit (h : Ends rest) : ∀ c ∈ rest.head?, c.isDigit = false := by
  intro c hc
  rcases h c hc with rfl | rfl
  · rfl
  · rfl

theorem reads_digits_toDigits (room n : Nat) (hrest : Ends rest) :
    Reads digits room (Nat.toDigits 10 n) rest
      ((Nat.toDigits 10 n).map fun d => d.toNat - '0'.toNat) :=
  reads_digits (fun _ => isDigit_of_mem_toDigits) hrest.not_isDigit

/-- Behind the digits of a number nothing more of it stands. -/
theorem reads_numberTail (n : Nat) (hrest : Ends rest) :
    Reads (numberTail true n 0) room [] rest (.integer n) := by
  rw [numberTail]
  apply Reads.peek_bind
  rw [List.nil_append]
  cases h : rest.head? with
  | none => exact Reads.pure _
  | some c =>
    rcases hrest c h with rfl | rfl
    · exact Reads.pure _
    · exact Reads.pure _

/-- **The digits of a number that fits into 64 bits are read as that number.** -/
theorem reads_number {n : Nat} (hn : n < Nat.pow 2 64) (hrest : Ends rest) :
    Reads (number true) room (Nat.toDigits 10 n) rest (.integer n) := by
  obtain ⟨c, cs, hdigits, hzero⟩ := exists_toDigits_eq_cons n
  have hvalue : Nat.ofDigitChars 10 (Nat.toDigits 10 n) 0 = n :=
    Nat.ofDigitChars_toDigits (by decide) (by decide)
  have happend := appendDigits_eq (n := 0) (hvalue ▸ hn)
  rw [hvalue] at happend
  have hread := reads_digits_toDigits room n hrest
  have hdigit : c.isDigit := isDigit_of_mem_toDigits (hdigits ▸ List.mem_cons_self ..)
  rw [number]
  rw [hdigits] at hread happend ⊢
  apply Reads.peek_bind
  rw [List.cons_append, List.head?_cons]
  by_cases hc : c = '0'
  · obtain rfl := hzero hc
    obtain ⟨rfl, rfl⟩ : '0' = c ∧ [] = cs := List.cons.inj hdigits
    simp only [if_true]
    apply Reads.advance_bind
    apply Reads.peek_bind
    rw [List.nil_append]
    have htail : Reads (numberTail true 0 0) room [] rest (.integer 0) := reads_numberTail 0 hrest
    cases hhead : rest.head? with
    | none => exact htail
    | some d =>
      simp only [hrest.not_isDigit d hhead, Bool.false_eq_true, if_false]
      exact htail
  · simp only [if_neg hc, if_pos hdigit]
    have htail : Reads (numberTail true n 0) room [] rest (.integer n) := reads_numberTail n hrest
    rw [← List.append_nil (c :: cs)]
    apply hread.bind
    rw [happend]
    exact htail

theorem reads_skipNumberTail (hrest : Ends rest) : Reads skipNumberTail room [] rest () := by
  rw [skipNumberTail]
  apply Reads.peek_bind
  rw [List.nil_append]
  cases h : rest.head? with
  | none => exact Reads.pure ()
  | some c =>
    rcases hrest c h with rfl | rfl
    · exact Reads.pure ()
    · exact Reads.pure ()

theorem reads_skipNumber (n : Nat) (hrest : Ends rest) :
    Reads skipNumber room (Nat.toDigits 10 n) rest () := by
  obtain ⟨c, cs, hdigits, hzero⟩ := exists_toDigits_eq_cons n
  have hread := reads_digits_toDigits room n hrest
  have htail : Reads skipNumberTail room [] rest () := reads_skipNumberTail hrest
  rw [skipNumber]
  rw [hdigits] at hread ⊢
  apply Reads.peek_bind
  rw [List.cons_append, List.head?_cons]
  by_cases hc : c = '0'
  · subst hc
    obtain rfl := hzero rfl
    obtain ⟨-, rfl⟩ : '0' = '0' ∧ [] = cs := List.cons.inj hdigits
    apply Reads.advance_bind
    apply Reads.peek_bind
    rw [List.nil_append]
    cases hhead : rest.head? with
    | none => exact Reads.pure ()
    | some d =>
      simp only [hrest.not_isDigit d hhead, Bool.false_eq_true, if_false]
      exact htail
  · split
    · rename_i heq
      exact absurd (Option.some.inj heq) hc
    · rw [← List.append_nil (c :: cs)]
      apply hread.bind
      exact htail

end ServiceSpec.Json
