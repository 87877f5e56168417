import ServiceSpec.Proofs.JsonDocuments

/-!
# Passing over JSON text

An entry that no member of a record takes is passed over.  No reader calls itself for that: the
lists and objects that are open are kept in a list, the innermost first, and fuel bounds the tokens.
What is shown of a part is therefore that it is passed whatever is open around it, with fuel to
spare for what follows.

## Main definitions

* `Json.Passed`: a text that is passed as a value
* `Json.Skipped`: a text that is passed as a part of a list or object

## Main results

* `Json.passed_write`: a document that is written is passed
* `Json.Passed.reads_skipValue`: what is passed ends where it ends
-/

namespace ServiceSpec

namespace Json

variable {room depth : Nat} {cs rest blanks : List Char} {first : Bool}

/-! ## Lists and objects that are open -/

theorem reads_skipKey (hb : Blank blanks) (k : String) :
    Reads skipKey room (blanks ++ ((quote k).toList ++ [':'])) rest () := by
  rw [skipKey, toList_quote]
  apply Reads.peekToken_bind hb (by decide)
  apply Reads.advance_bind
  exact (reads_skipText k).bind reads_colon

/-- Passes a value that starts with a character, and then what is left of the values around it. -/
def skipFrom (fuel : Nat) (outer : List Bool) (c : Char) : Reader Unit :=
  if c = '[' ∨ c = '\x7b' then do
    advance
    skipOpen fuel false ((c = '\x7b') :: outer)
  else do
    skipScalar c
    skipOpen fuel true outer

/-- Passes an item or entry, and then what is left of the values around it. -/
def skipPart (fuel : Nat) (isObject : Bool) (outer : List Bool) : Reader Unit := do
  if isObject then skipKey
  let c ← peekValue
  skipFrom fuel (isObject :: outer) c

/-- The end of a list or object. -/
def closer (isObject : Bool) : Char :=
  if isObject then '\x7d' else ']'

theorem not_isBlankChar_closer (isObject : Bool) : ¬ isBlankChar (closer isObject) := by
  cases isObject <;> decide

theorem reads_skipOpen_end {isObject hasValue : Bool} {outer : List Bool} {fuel : Nat}
    (hb : Blank blanks) (h : Reads (skipOpen fuel true outer) room cs rest ()) :
    Reads (skipOpen (fuel + 1) hasValue (isObject :: outer)) room
      (blanks ++ closer isObject :: cs) rest () := by
  rw [skipOpen]
  apply Reads.peekToken_bind hb (not_isBlankChar_closer isObject)
  simp only [closer, if_true]
  exact Reads.advance_bind h

theorem reads_skipOpen_part {isObject : Bool} {outer : List Bool} {fuel : Nat} {c : Char}
    (hc : ¬ isBlankChar c) (hend : c ≠ closer isObject)
    (h : ∀ blanks, Blank blanks →
      Reads (skipPart fuel isObject outer) room (blanks ++ c :: cs) rest ()) :
    Reads (skipOpen (fuel + 1) (!first) (isObject :: outer)) room
      ((if first then [] else [',']) ++ (lead depth ++ c :: cs)) rest () := by
  rw [skipOpen]
  cases first with
  | true =>
    apply Reads.peekToken_bind (blank_lead depth) hc
    simp only [closer] at hend
    simp only [if_neg hend]
    exact h [] blank_nil
  | false =>
    have hcomma : ',' ≠ closer isObject := by cases isObject <;> decide
    apply Reads.peekToken_bind blank_nil (by decide)
    simp only [closer] at hcomma
    simp only [if_neg hcomma]
    apply Reads.advance_bind
    exact h (lead depth) (blank_lead depth)

/-- A part of a list or object that is passed as a part of it. -/
structure Skipped (isObject : Bool) (outer : List Bool) (room : Nat) (part : List Char) :
    Prop where
  starts : ∃ c cs, part = c :: cs ∧ ¬ isBlankChar c ∧ c ≠ closer isObject
  reads : ∀ {fuel k tail rest blanks}, Blank blanks → Ends (tail ++ rest) →
    part.length + k ≤ fuel →
    (∀ m, k ≤ m → Reads (skipOpen m true (isObject :: outer)) room tail rest ()) →
    Reads (skipPart fuel isObject outer) room (blanks ++ (part ++ tail)) rest ()

theorem reads_skipOpen_separated {isObject : Bool} {outer : List Bool} {parts : List (List Char)}
    {tail : List Char} {k fuel : Nat} (j : Nat)
    (hparts : ∀ part ∈ parts, Skipped isObject outer room part)
    (hfuel : (separated depth first parts).length + k + 1 ≤ fuel)
    (hmore : ∀ m, k ≤ m → Reads (skipOpen m true outer) room tail rest ()) :
    Reads (skipOpen fuel (!first) (isObject :: outer)) room
      (separated depth first parts ++ (lead j ++ closer isObject :: tail)) rest () := by
  induction parts generalizing first fuel with
  | nil =>
    obtain ⟨fuel, rfl⟩ : ∃ n, fuel = n + 1 := ⟨fuel - 1, by omega⟩
    apply reads_skipOpen_end (blank_lead j)
    exact hmore fuel (by simp only [separated, List.length_nil] at hfuel; omega)
  | cons part parts ih =>
    obtain ⟨hpart, hrest⟩ := List.forall_mem_cons.mp hparts
    obtain ⟨c, cs, rfl, hblank, hend⟩ := hpart.starts
    obtain ⟨fuel, rfl⟩ : ∃ n, fuel = n + 1 := ⟨fuel - 1, by omega⟩
    simp only [separated, lead, List.length_append, List.length_cons] at hfuel
    have hsplit : separated depth first ((c :: cs) :: parts) ++
        (lead j ++ closer isObject :: tail) = (if first then [] else [',']) ++ (lead depth ++
          c :: (cs ++ (separated depth false parts ++ (lead j ++ closer isObject :: tail)))) := by
      simp [separated]
    rw [hsplit]
    apply reads_skipOpen_part hblank hend
    intro blanks hb
    have hfollows : Ends (separated depth false parts ++ (lead j ++ closer isObject :: tail) ++
        rest) := by
      rw [← List.append_assoc, List.append_assoc]
      exact ends_separated_lead depth j parts
    refine hpart.reads (k := (separated depth false parts).length + k + 1) hb hfollows ?_ ?_
    · simp only [List.length_cons]
      omega
    · intro m hm
      exact ih hrest hm

theorem reads_skipOpen_contents {isObject : Bool} {outer : List Bool} {parts : List (List Char)}
    {tail : List Char} {k fuel : Nat}
    (hparts : ∀ part ∈ parts, Skipped isObject outer room part)
    (hfuel : (contents depth parts).length + k + 1 ≤ fuel)
    (hmore : ∀ m, k ≤ m → Reads (skipOpen m true outer) room tail rest ()) :
    Reads (skipOpen fuel false (isObject :: outer)) room
      (contents depth parts ++ closer isObject :: tail) rest () := by
  obtain ⟨fuel, rfl⟩ : ∃ n, fuel = n + 1 := ⟨fuel - 1, by omega⟩
  cases parts with
  | nil => exact reads_skipOpen_end blank_nil (hmore fuel (by omega))
  | cons part parts =>
    rw [contents_of_ne_nil (by simp)] at hfuel ⊢
    rw [List.append_assoc]
    have hlength : (separated (depth + 1) true (part :: parts)).length + k + 1 ≤ fuel + 1 := by
      rw [List.length_append] at hfuel
      omega
    exact reads_skipOpen_separated depth hparts hlength hmore

/-! ## Values -/

/-- A text that is passed as a value: a scalar, or the contents of a list or object. -/
inductive Passed (room : Nat) : List Char → Prop
  | scalar {c : Char} {cs : List Char} (hc : ¬ isBlankChar c) (hopen : ¬ (c = '[' ∨ c = '\x7b'))
    (h : ∀ rest, Ends rest → Reads (skipScalar c) room (c :: cs) rest ()) :
    Passed room (c :: cs)
  | enclosed {c : Char} {cs : List Char} (hc : c = '[' ∨ c = '\x7b')
    (h : ∀ {fuel k outer tail rest}, cs.length + k ≤ fuel →
      (∀ m, k ≤ m → Reads (skipOpen m true outer) room tail rest ()) →
      Reads (skipOpen fuel false ((c = '\x7b') :: outer)) room (cs ++ tail) rest ()) :
    Passed room (c :: cs)

namespace Passed

variable {part : List Char}

theorem reads_skipFrom (h : Passed room part) {fuel k : Nat} {outer : List Bool} {tail : List Char}
    (hb : Blank blanks) (hends : Ends (tail ++ rest)) (hfuel : part.length + k ≤ fuel)
    (hmore : ∀ m, k ≤ m → Reads (skipOpen m true outer) room tail rest ()) :
    Reads (peekValue >>= skipFrom fuel outer) room (blanks ++ (part ++ tail)) rest () := by
  cases h with
  | scalar hc hopen h =>
    apply Reads.peekValue_bind hb hc
    rw [skipFrom, if_neg hopen]
    exact (h _ hends).bind (hmore fuel (by omega))
  | @enclosed c cs hc h =>
    rw [List.length_cons] at hfuel
    have hblank : ¬ isBlankChar c := by rcases hc with rfl | rfl <;> decide
    apply Reads.peekValue_bind hb hblank
    rw [skipFrom, if_pos hc]
    apply Reads.advance_bind
    exact h (by omega) hmore

theorem reads_skipValue (h : Passed room part) (hb : Blank blanks) (hrest : Ends rest) :
    Reads skipValue room (blanks ++ part) rest () := by
  cases h with
  | scalar hc hopen h =>
    rw [skipValue]
    apply Reads.peekValue_bind hb hc
    rw [if_neg hopen]
    exact h rest hrest
  | @enclosed c cs hc h =>
    have hblank : ¬ isBlankChar c := by rcases hc with rfl | rfl <;> decide
    have hdone : ∀ m, 0 ≤ m → Reads (skipOpen m true []) room [] rest () := by
      intro m _
      cases m with
      | zero => exact Reads.pure ()
      | succ m => exact Reads.pure ()
    rw [skipValue]
    apply Reads.peekValue_bind hb hblank
    rw [if_pos hc]
    apply Reads.advance_bind
    refine Reads.of_fuel (r := fun fuel => skipOpen fuel false [decide (c = '\x7b')]) ?_
    intro fuel hfuel
    rw [← List.append_nil cs]
    exact h (Nat.le_of_lt hfuel) hdone

end Passed

/-- **Any value that is written is passed over.** -/
theorem passed_write {d : Document} {n : Nat} (hd : d.Plain n) (depth : Nat) :
    Passed room (write depth d).toList := by
  induction hd generalizing depth with
  | null n =>
    rw [toList_write_null]
    exact .scalar (by decide) (by decide) fun _ _ => Reads.advance_bind (reads_word "ull")
  | bool n b =>
    cases b with
    | true =>
      rw [toList_write_true]
      exact .scalar (by decide) (by decide) fun _ _ => Reads.advance_bind (reads_word "rue")
    | false =>
      rw [toList_write_false]
      exact .scalar (by decide) (by decide) fun _ _ => Reads.advance_bind (reads_word "alse")
  | @integer n i hi =>
    obtain ⟨c, cs, hcs, hc⟩ := exists_write_integer depth i
    have hopen : ¬ (c = '[' ∨ c = '\x7b') := by
      rw [not_or]
      exact ⟨ne_of_isDigit hc rfl, ne_of_isDigit hc rfl⟩
    have hdigits := hcs
    rw [toList_write_integer] at hdigits
    rw [hcs]
    refine .scalar (not_isBlankChar_of_isDigit hc) hopen fun rest hrest => ?_
    rw [skipScalar, if_neg (ne_of_isDigit hc rfl), if_neg (ne_of_isDigit hc rfl),
      if_neg (ne_of_isDigit hc rfl), if_neg (ne_of_isDigit hc rfl), if_pos hc, ← hdigits]
    exact reads_skipNumber i hrest
  | text n s =>
    rw [toList_write_text]
    exact .scalar (by decide) (by decide) fun _ _ => Reads.advance_bind (reads_skipText s)
  | @list n items hitems ih =>
    have hparts : ∀ outer, ∀ part ∈ items.map fun d => (write (depth + 1) d).toList,
        Skipped false outer room part := by
      intro outer part hpart
      obtain ⟨d, hd, rfl⟩ := List.mem_map.mp hpart
      obtain ⟨c, cs, hcs, hc, hend, -⟩ := exists_write_eq_cons (hitems d hd) (depth + 1)
      exact ⟨⟨c, cs, hcs, hc, hend⟩, (ih d hd (depth + 1)).reads_skipFrom⟩
    rw [toList_write_list]
    refine .enclosed (.inl rfl) fun {fuel k outer tail rest} hfuel hmore => ?_
    rw [List.append_assoc]
    refine reads_skipOpen_contents (hparts outer) ?_ hmore
    simp only [List.length_append, List.length_singleton] at hfuel
    omega
  | @object n entries hentries ih =>
    have hparts : ∀ outer, ∀ part ∈ entries.map (entryText (depth + 1)),
        Skipped true outer room part := by
      intro outer part hpart
      obtain ⟨e, he, rfl⟩ := List.mem_map.mp hpart
      constructor
      · rw [entryText, toList_quote]
        exact ⟨_, _, rfl, by decide, by decide⟩
      · intro fuel k tail rest blanks hb hends hfuel hmore
        have hsplit : blanks ++ (entryText (depth + 1) e ++ tail) =
            blanks ++ ((quote e.1).toList ++ [':']) ++
              ([' '] ++ ((write (depth + 1) e.2).toList ++ tail)) := by
          simp [entryText]
        have hvalue : Reads (peekValue >>= skipFrom fuel (true :: outer)) room
            ([' '] ++ ((write (depth + 1) e.2).toList ++ tail)) rest () := by
          refine (ih e he (depth + 1)).reads_skipFrom blank_space hends ?_ hmore
          simp only [entryText, List.length_append, List.length_cons] at hfuel
          omega
        rw [hsplit]
        exact Reads.bind (f := fun _ => peekValue >>= skipFrom fuel (true :: outer))
          (reads_skipKey hb e.1) hvalue
    rw [toList_write_object]
    refine .enclosed (.inr rfl) fun {fuel k outer tail rest} hfuel hmore => ?_
    rw [List.append_assoc]
    refine reads_skipOpen_contents (hparts outer) ?_ hmore
    simp only [List.length_append, List.length_singleton] at hfuel
    omega

end Json

end ServiceSpec
