import ServiceSpec.Proofs.JsonTokens
import Mathlib.Data.List.Forall2

/-!
# Documents as JSON text

A document is written with a line for each item or entry, and the blanks of a line stand before what
it holds.  So the text of a list is made of its parts, each behind blanks and all but the first
behind a comma, and a reader that reads each part reads the list.  An object is read in the same
way, with a state that each entry changes.

Documents are plain here: without floating point numbers, whose digits round, and nested no deeper
than a reader goes.

## Main definitions

* `Document.Plain`: a document without floating point numbers that nests at most that deep
* `Json.contents`: what stands between the brackets of a list or object
* `Json.Entries`: entries that are read one after the other

## Main results

* `Json.reads_listOf`: a written list is read item by item
* `Json.reads_objectOf`: a written object is read entry by entry
* `Json.reads_anyValue`: what is written is read as the document that it is
-/

namespace ServiceSpec

/-- A document without floating point numbers, whose integers are natural numbers of 64 bits, and
whose lists and objects nest at most that deep. -/
inductive Document.Plain : Nat → Document → Prop
  | null (n : Nat) : Plain n .null
  | bool (n : Nat) (b : Bool) : Plain n (.bool b)
  | integer (n : Nat) {i : Nat} (h : i < Nat.pow 2 64) : Plain n (.integer i)
  | text (n : Nat) (s : String) : Plain n (.text s)
  | list {n : Nat} {items : List Document} (h : ∀ d ∈ items, Plain n d) :
    Plain (n + 1) (.list items)
  | object {n : Nat} {entries : List (String × Document)} (h : ∀ e ∈ entries, Plain n e.2) :
    Plain (n + 1) (.object entries)

namespace Json

variable {α β σ : Type} {room depth : Nat} {cs rest blanks : List Char} {first : Bool}

/-! ## Parts of a list or object -/

/-- The characters before an item or entry, or before the end. -/
def lead (depth : Nat) : List Char :=
  '\n' :: List.replicate (2 * depth) ' '

theorem toList_newline (depth : Nat) : (newline depth).toList = lead depth := by
  simp [newline, lead]

theorem blank_lead (depth : Nat) : Blank (lead depth) := by
  intro c hc
  rcases List.mem_cons.mp hc with rfl | hc
  · rfl
  · rw [List.eq_of_mem_replicate hc]
    rfl

theorem ends_lead (depth : Nat) : Ends (lead depth ++ rest) := by
  rintro c ⟨⟩
  exact .inr rfl

/-- Parts on lines of their own, with commas between them. -/
def separated (depth : Nat) : Bool → List (List Char) → List Char
  | _, [] => []
  | first, part :: parts =>
    (if first then [] else [',']) ++ (lead depth ++ (part ++ separated depth false parts))

/-- What stands between the brackets of a list or object. -/
def contents (depth : Nat) (parts : List (List Char)) : List Char :=
  if parts = [] then [] else separated (depth + 1) true parts ++ lead depth

theorem contents_of_ne_nil {parts : List (List Char)} (h : parts ≠ []) :
    contents depth parts = separated (depth + 1) true parts ++ lead depth :=
  if_neg h

theorem length_le_separated (depth : Nat) (first : Bool) (parts : List (List Char)) :
    parts.length ≤ (separated depth first parts).length := by
  induction parts generalizing first with
  | nil => exact Nat.zero_le _
  | cons part parts ih =>
    have h := ih false
    simp only [separated, lead, List.length_append, List.length_cons]
    omega

/-- An entry of an object. -/
def entryText (depth : Nat) (e : String × Document) : List Char :=
  (quote e.1).toList ++ (':' :: ' ' :: (write depth e.2).toList)

theorem toList_writeItems (depth : Nat) (ds : List Document) :
    (writeItems depth ds).toList =
      separated depth false (ds.map fun d => (write depth d).toList) := by
  induction ds with
  | nil => simp [writeItems, separated]
  | cons d ds ih =>
    simp only [writeItems, String.toList_append, ih, toList_newline, List.map_cons, separated]
    simp

theorem toList_writeEntries (depth : Nat) (entries : List (String × Document)) :
    (writeEntries depth entries).toList =
      separated depth false (entries.map (entryText depth)) := by
  induction entries with
  | nil => simp [writeEntries, separated]
  | cons e entries ih =>
    obtain ⟨k, d⟩ := e
    simp only [writeEntries, String.toList_append, ih, toList_newline, List.map_cons, separated,
      entryText]
    simp

theorem toList_write_list (depth : Nat) (ds : List Document) :
    (write depth (.list ds)).toList =
      '[' :: (contents depth (ds.map fun d => (write (depth + 1) d).toList) ++ [']']) := by
  cases ds with
  | nil => simp [write, contents]
  | cons d ds =>
    rw [contents_of_ne_nil (by simp)]
    simp only [write, String.toList_append, toList_newline, toList_writeItems, List.map_cons,
      separated]
    simp

theorem toList_write_object (depth : Nat) (entries : List (String × Document)) :
    (write depth (.object entries)).toList =
      '\x7b' :: (contents depth (entries.map (entryText (depth + 1))) ++ ['\x7d']) := by
  cases entries with
  | nil => simp [write, contents]
  | cons e entries =>
    obtain ⟨k, d⟩ := e
    rw [contents_of_ne_nil (by simp)]
    simp only [write, String.toList_append, toList_newline, toList_writeEntries, List.map_cons,
      separated, entryText]
    simp

/-! ## Lists -/

/-- Before the end of a list there is no further item. -/
theorem reads_hasItem_end (hb : Blank blanks) :
    Reads (hasItem first) room blanks (']' :: rest) false := by
  rw [hasItem]
  apply Reads.peekToken_bind_rest hb (by decide)
  exact Reads.pure false

/-- Before an item there is one, with a comma before it if it is not the first. -/
theorem reads_hasItem (hc : ¬ isBlankChar c) (hend : c ≠ ']') :
    Reads (hasItem first) room ((if first then [] else [',']) ++ lead depth) (c :: rest) true := by
  rw [hasItem]
  cases first with
  | true =>
    rw [if_pos rfl, List.nil_append]
    apply Reads.peekToken_bind_rest (blank_lead depth) hc
    split
    · contradiction
    · rename_i heq
      exact absurd (Option.some.inj heq) hend
    · exact Reads.pure true
  | false =>
    apply Reads.peekToken_bind blank_nil (by decide)
    apply Reads.advance_bind
    apply Reads.peekToken_bind_rest (blank_lead depth) hc
    split
    · rename_i heq
      exact absurd (Option.some.inj heq) hend
    · exact Reads.pure true
    · contradiction

/-- A part of a list: it is read as the value, and does not begin as the end of a list. -/
structure Item (item : Reader α) (room : Nat) (part : List Char) (a : α) : Prop where
  starts : ∃ c cs, part = c :: cs ∧ ¬ isBlankChar c ∧ c ≠ ']'
  reads : ∀ rest, Ends rest → Reads item room part rest a

theorem ends_separated_lead (depth k : Nat) (parts : List (List Char)) :
    Ends (separated depth false parts ++ lead k ++ rest) := by
  cases parts with
  | nil => exact ends_lead k
  | cons part parts =>
    rintro c ⟨⟩
    exact .inl rfl

/-- Where nothing follows, there are no items. -/
theorem reads_itemsFrom_nil {item : Reader α} (hb : Blank blanks) (fuel : Nat) :
    Reads (itemsFrom item (fuel + 1) first) room blanks (']' :: rest) [] := by
  rw [itemsFrom, ← List.append_nil blanks]
  apply (reads_hasItem_end hb).bind
  exact Reads.pure []

/-- **Items are read one after the other.** -/
theorem reads_itemsFrom {item : Reader α} {parts : List (List Char)} {as : List α}
    (h : List.Forall₂ (Item item room) parts as) (k : Nat) {fuel : Nat}
    (hfuel : parts.length < fuel) :
    Reads (itemsFrom item fuel first) room (separated depth first parts ++ lead k) (']' :: rest)
      as := by
  obtain ⟨fuel, rfl⟩ := Nat.exists_eq_add_one_of_ne_zero (Nat.ne_zero_of_lt hfuel)
  induction h generalizing first fuel with
  | nil => exact reads_itemsFrom_nil (blank_lead k) fuel
  | @cons part a parts as hitem _ ih =>
    rw [List.length_cons] at hfuel
    obtain ⟨fuel, rfl⟩ : ∃ n, fuel = n + 1 := ⟨fuel - 1, by omega⟩
    obtain ⟨c, cs, rfl, hblank, hend⟩ := hitem.starts
    have hmore : Reads (itemsFrom item (fuel + 1) false) room
        (separated depth false parts ++ lead k) (']' :: rest) as := ih fuel (by omega)
    have hsplit : separated depth first ((c :: cs) :: parts) ++ lead k =
        (if first then [] else [',']) ++ lead depth ++
          ((c :: cs) ++ (separated depth false parts ++ lead k)) := by
      simp [separated]
    rw [itemsFrom, hsplit]
    apply (reads_hasItem hblank hend).bind
    rw [if_pos rfl]
    apply (hitem.reads _ (ends_separated_lead depth k parts)).bind
    exact hmore.bind_pure (a :: ·)

/-- What stands between brackets is read one level deeper. -/
theorem reads_enclosed {r : Reader α} {close : Reader Unit} {a : α} {start : Char}
    {ds : List Char} (h : Reads r (room + 1) cs (ds ++ rest) a)
    (hclose : Reads close (room + 1) ds rest ()) :
    Reads (nested do advance; closing r close) (room + 2) (start :: (cs ++ ds)) rest a := by
  apply Reads.nested
  apply Reads.advance_bind
  exact h.closing hclose

theorem reads_endList (hb : Blank blanks) : Reads endList room (blanks ++ [']']) rest () := by
  rw [endList]
  apply Reads.peekToken_bind hb (by decide)
  exact Reads.advance

/-- **A written list is read item by item.** -/
theorem reads_listOf {item : Reader α} {parts : List (List Char)} {as : List α}
    (h : List.Forall₂ (Item item (room + 1)) parts as) (depth : Nat) :
    Reads (listOf item) (room + 2) ('[' :: (contents depth parts ++ [']'])) rest as := by
  have hitems : Reads (fun c => itemsFrom item (c.rest.length + 1) true c) (room + 1)
      (contents depth parts) (']' :: rest) as := by
    refine Reads.of_fuel (r := fun fuel => itemsFrom item fuel true) fun fuel hfuel => ?_
    cases h with
    | nil =>
      obtain ⟨fuel, rfl⟩ := Nat.exists_eq_add_one_of_ne_zero (Nat.ne_zero_of_lt hfuel)
      exact reads_itemsFrom_nil blank_nil fuel
    | cons ha has =>
      rw [contents_of_ne_nil (by simp)] at hfuel ⊢
      apply reads_itemsFrom (.cons ha has)
      refine Nat.lt_of_le_of_lt (length_le_separated (depth + 1) true _) ?_
      rw [List.length_append] at hfuel
      omega
  exact reads_enclosed hitems (reads_endList blank_nil)

/-! ## Objects -/

theorem reads_hasKey_end (hb : Blank blanks) :
    Reads (hasKey first) room blanks ('\x7d' :: rest) false := by
  rw [hasKey]
  apply Reads.peekToken_bind_rest hb (by decide)
  exact Reads.pure false

theorem reads_hasKey :
    Reads (hasKey first) room ((if first then [] else [',']) ++ lead depth) ('"' :: rest) true := by
  rw [hasKey]
  cases first with
  | true =>
    rw [if_pos rfl, List.nil_append]
    apply Reads.peekToken_bind_rest (blank_lead depth) (by decide)
    exact Reads.pure true
  | false =>
    apply Reads.peekToken_bind blank_nil (by decide)
    apply Reads.advance_bind
    apply Reads.peekToken_bind_rest (blank_lead depth) (by decide)
    exact Reads.pure true

/-- Entries are read one after the other, each from the state that the one before it left. -/
inductive Entries (entry : σ → Reader σ) (room : Nat) : σ → List (List Char) → σ → Prop
  | nil (s : σ) : Entries entry room s [] s
  | cons {s s' s'' : σ} {cs : List Char} {parts : List (List Char)}
    (h : ∀ rest, Ends rest → Reads (entry s) room ('"' :: cs) rest s')
    (hmore : Entries entry room s' parts s'') : Entries entry room s (('"' :: cs) :: parts) s''

theorem foldl_append_singleton (done more : List α) :
    more.foldl (fun done a => done ++ [a]) done = done ++ more := by
  induction more generalizing done with
  | nil => simp
  | cons a more ih => rw [List.foldl_cons, ih, List.append_assoc, List.singleton_append]

theorem Entries.cons_entryText {entry : σ → Reader σ} {e : String × Document} {s s' t : σ}
    {parts : List (List Char)}
    (h : ∀ rest, Ends rest → Reads (entry s) room (entryText depth e) rest s')
    (hmore : Entries entry room s' parts t) :
    Entries entry room s (entryText depth e :: parts) t := by
  simp only [entryText, toList_quote, List.cons_append] at h ⊢
  exact .cons h hmore

/-- Entries of a document, each of which changes the state in its way. -/
theorem Entries.of_foldl {entry : σ → Reader σ} {entries : List (String × Document)}
    {step : σ → String × Document → σ}
    (h : ∀ s, ∀ e ∈ entries, ∀ rest, Ends rest →
      Reads (entry s) room (entryText depth e) rest (step s e)) (s : σ) :
    Entries entry room s (entries.map (entryText depth)) (entries.foldl step s) := by
  induction entries generalizing s with
  | nil => exact .nil s
  | cons e entries ih =>
    have htail := ih (fun s e he => h s e (List.mem_cons_of_mem _ he)) (step s e)
    exact .cons_entryText (h s e (List.mem_cons_self ..)) htail

theorem reads_entriesFrom_nil {entry : σ → Reader σ} (hb : Blank blanks) (fuel : Nat) (s : σ) :
    Reads (entriesFrom entry (fuel + 1) first s) room blanks ('\x7d' :: rest) s := by
  rw [entriesFrom, ← List.append_nil blanks]
  apply (reads_hasKey_end hb).bind
  exact Reads.pure s

theorem reads_entriesFrom {entry : σ → Reader σ} {parts : List (List Char)} {s t : σ}
    (h : Entries entry room s parts t) (k : Nat) {fuel : Nat} (hfuel : parts.length < fuel) :
    Reads (entriesFrom entry fuel first s) room (separated depth first parts ++ lead k)
      ('\x7d' :: rest) t := by
  obtain ⟨fuel, rfl⟩ := Nat.exists_eq_add_one_of_ne_zero (Nat.ne_zero_of_lt hfuel)
  induction h generalizing first fuel with
  | nil s => exact reads_entriesFrom_nil (blank_lead k) fuel s
  | @cons s s' t cs parts hentry _ ih =>
    rw [List.length_cons] at hfuel
    obtain ⟨fuel, rfl⟩ : ∃ n, fuel = n + 1 := ⟨fuel - 1, by omega⟩
    have hsplit : separated depth first (('"' :: cs) :: parts) ++ lead k =
        (if first then [] else [',']) ++ lead depth ++
          (('"' :: cs) ++ (separated depth false parts ++ lead k)) := by
      simp [separated]
    rw [entriesFrom, hsplit]
    apply reads_hasKey.bind
    rw [if_pos rfl]
    apply (hentry _ (ends_separated_lead depth k parts)).bind
    exact ih fuel (by omega)

theorem reads_endObject : Reads endObject room ['\x7d'] rest () := by
  rw [endObject]
  apply Reads.peekToken_bind blank_nil (by decide)
  exact Reads.advance

/-- **A written object is read entry by entry.** -/
theorem reads_objectOf {entry : σ → Reader σ} {finish : σ → Reader α}
    {parts : List (List Char)} {s t : σ} {a : α} (h : Entries entry (room + 1) s parts t)
    (hfinish : ∀ rest, Reads (finish t) (room + 1) [] rest a) (depth : Nat) :
    Reads (objectOf entry s finish) (room + 2) ('\x7b' :: (contents depth parts ++ ['\x7d'])) rest
      a := by
  have hentries : Reads (fun c => entriesFrom entry (c.rest.length + 1) true s c) (room + 1)
      (contents depth parts) ('\x7d' :: rest) t := by
    refine Reads.of_fuel (r := fun fuel => entriesFrom entry fuel true s) fun fuel hfuel => ?_
    cases h with
    | nil =>
      obtain ⟨fuel, rfl⟩ := Nat.exists_eq_add_one_of_ne_zero (Nat.ne_zero_of_lt hfuel)
      exact reads_entriesFrom_nil blank_nil fuel s
    | cons hentry hmore =>
      rw [contents_of_ne_nil (by simp)] at hfuel ⊢
      apply reads_entriesFrom (.cons hentry hmore)
      refine Nat.lt_of_le_of_lt (length_le_separated (depth + 1) true _) ?_
      rw [List.length_append] at hfuel
      omega
  have hall := hentries.bind (hfinish ('\x7d' :: rest))
  rw [List.append_nil] at hall
  exact reads_enclosed hall reads_endObject

/-! ## Any value -/

theorem ne_of_isDigit {c x : Char} (hc : c.isDigit) (hx : x.isDigit = false) : c ≠ x := by
  rintro rfl
  rw [hx] at hc
  cases hc

theorem not_isBlankChar_of_isDigit {c : Char} (hc : c.isDigit) : ¬ isBlankChar c := by
  simp [isBlankChar, ne_of_isDigit hc]

theorem toList_write_null (depth : Nat) : (write depth .null).toList = 'n' :: "ull".toList := by
  rw [write]
  rfl

theorem toList_write_true (depth : Nat) :
    (write depth (.bool true)).toList = 't' :: "rue".toList := by
  rw [write]
  rfl

theorem toList_write_false (depth : Nat) :
    (write depth (.bool false)).toList = 'f' :: "alse".toList := by
  rw [write]
  rfl

theorem toList_write_text (depth : Nat) (s : String) :
    (write depth (.text s)).toList = '"' :: (escaped s.toList ++ ['"']) := by
  rw [write, toList_quote]

theorem toList_write_integer (depth i : Nat) :
    (write depth (.integer i)).toList = Nat.toDigits 10 i := by
  rw [write]
  change (Nat.repr i).toList = _
  exact Nat.toList_repr

/-- A natural number is written as digits. -/
theorem exists_write_integer (depth i : Nat) :
    ∃ c cs, (write depth (.integer i)).toList = c :: cs ∧ c.isDigit := by
  obtain ⟨c, cs, hdigits, -⟩ := exists_toDigits_eq_cons i
  rw [toList_write_integer]
  refine ⟨c, cs, hdigits, ?_⟩
  apply isDigit_of_mem_toDigits
  rw [hdigits]
  exact List.mem_cons_self ..

/-- What is written begins with no blank, not as the end of a list, and as null only for null. -/
theorem exists_write_eq_cons {d : Document} {n : Nat} (hd : d.Plain n) (depth : Nat) :
    ∃ c cs, (write depth d).toList = c :: cs ∧ ¬ isBlankChar c ∧ c ≠ ']' ∧
      (d ≠ .null → c ≠ 'n') := by
  cases hd with
  | null => exact ⟨_, _, toList_write_null depth, by decide, by decide, fun h => absurd rfl h⟩
  | bool _ b =>
    cases b with
    | true => exact ⟨_, _, toList_write_true depth, by decide, by decide, fun _ => by decide⟩
    | false => exact ⟨_, _, toList_write_false depth, by decide, by decide, fun _ => by decide⟩
  | @integer _ i _ =>
    obtain ⟨c, cs, hcs, hc⟩ := exists_write_integer depth i
    exact ⟨c, cs, hcs, not_isBlankChar_of_isDigit hc, ne_of_isDigit hc rfl, fun _ =>
      ne_of_isDigit hc rfl⟩
  | text _ s => exact ⟨_, _, toList_write_text depth s, by decide, by decide, fun _ => by decide⟩
  | list _ => exact ⟨_, _, toList_write_list depth _, by decide, by decide, fun _ => by decide⟩
  | object _ => exact ⟨_, _, toList_write_object depth _, by decide, by decide, fun _ => by decide⟩

theorem item_write {item : Reader α} {a : α} {d : Document} {n : Nat} (hd : d.Plain n)
    (h : ∀ rest, Ends rest → Reads item room (write depth d).toList rest a) :
    Item item room (write depth d).toList a := by
  obtain ⟨c, cs, hcs, hc, hend, -⟩ := exists_write_eq_cons hd depth
  exact ⟨⟨c, cs, hcs, hc, hend⟩, h⟩

theorem reads_key (k : String) : Reads key room (quote k).toList rest k := by
  rw [key, toList_quote]
  apply Reads.advance_bind
  exact reads_textBody k

theorem reads_colon : Reads colon room [':'] rest () := by
  rw [colon]
  apply Reads.peekToken_bind blank_nil (by decide)
  exact Reads.advance

theorem blank_space : Blank [' '] := by simp [Blank, isBlankChar]

/-- An integer in front of what can stand behind it. -/
theorem reads_integer {i : Nat} (hi : i < Nat.pow 2 64) (depth : Nat) (hrest : Ends rest) :
    Reads (number true) room (write depth (.integer i)).toList rest (.integer i) := by
  rw [toList_write_integer]
  exact reads_number hi hrest

/-- An entry whose value is read behind the blank that follows the colon. -/
theorem reads_entry {f : String → Reader σ} {e : String × Document} {t : σ} (depth : Nat)
    (h : Reads (f e.1) room (' ' :: (write depth e.2).toList) rest t) :
    Reads (do let k ← key; colon; f k) room (entryText depth e) rest t := by
  rw [entryText]
  apply (reads_key e.1).bind
  exact reads_colon.bind h

/-- **Any value that is written is read as the document that it is.** -/
theorem reads_anyValueWith {d : Document} {n : Nat} (hd : d.Plain n) {fuel : Nat}
    (hfuel : n ≤ fuel) (hb : Blank blanks) (depth : Nat) (hrest : Ends rest) :
    Reads (anyValueWith (fuel + 1)) (n + 1) (blanks ++ (write depth d).toList) rest d := by
  induction hd generalizing fuel blanks depth rest with
  | null n =>
    rw [anyValueWith, toList_write_null]
    apply Reads.located
    apply Reads.peekValue_bind hb (by decide)
    apply Reads.advance_bind
    exact (reads_word "ull").bind_pure _
  | bool n b =>
    cases b with
    | true =>
      rw [anyValueWith, toList_write_true]
      apply Reads.located
      apply Reads.peekValue_bind hb (by decide)
      apply Reads.advance_bind
      exact (reads_word "rue").bind_pure _
    | false =>
      rw [anyValueWith, toList_write_false]
      apply Reads.located
      apply Reads.peekValue_bind hb (by decide)
      apply Reads.advance_bind
      exact (reads_word "alse").bind_pure _
  | @integer n i hi =>
    obtain ⟨c, cs, hcs, hc⟩ := exists_write_integer depth i
    have hnumber : Reads (number true) (n + 1) (write depth (.integer i)).toList rest
        (.integer i) := reads_integer hi depth hrest
    rw [hcs] at hnumber ⊢
    rw [anyValueWith]
    apply Reads.located
    apply Reads.peekValue_bind hb (not_isBlankChar_of_isDigit hc)
    rw [if_neg (ne_of_isDigit hc rfl), if_neg (ne_of_isDigit hc rfl), if_neg (ne_of_isDigit hc rfl),
      if_neg (ne_of_isDigit hc rfl), if_pos hc]
    exact hnumber.bind_pure _
  | text n s =>
    rw [anyValueWith, toList_write_text]
    apply Reads.located
    apply Reads.peekValue_bind hb (by decide)
    apply Reads.advance_bind
    exact (reads_textBody s).bind_pure _
  | @list n items hitems ih =>
    obtain ⟨fuel, rfl⟩ := Nat.exists_eq_add_one_of_ne_zero (Nat.ne_zero_of_lt hfuel)
    have hparts : List.Forall₂ (Item (anyValueWith (fuel + 1)) (n + 1))
        (items.map fun d => (write (depth + 1) d).toList) items := by
      rw [List.forall₂_map_left_iff, List.forall₂_same]
      intro d hd
      refine item_write (hitems d hd) fun rest hrest => ?_
      exact ih d hd (by omega) blank_nil (depth + 1) hrest
    rw [anyValueWith, toList_write_list]
    apply Reads.located
    apply Reads.peekValue_bind hb (by decide)
    exact (reads_listOf hparts depth).bind_pure _
  | @object n entries hentries ih =>
    obtain ⟨fuel, rfl⟩ := Nat.exists_eq_add_one_of_ne_zero (Nat.ne_zero_of_lt hfuel)
    rw [anyValueWith, toList_write_object]
    apply Reads.located
    apply Reads.peekValue_bind hb (by decide)
    have hentry : ∀ done, ∀ e ∈ entries, ∀ rest, Ends rest →
        Reads (do let k ← key; colon; return done ++ [(k, ← anyValueWith (fuel + 1))]) (n + 1)
          (entryText (depth + 1) e) rest (done ++ [e]) := by
      intro done e he rest hrest
      have hdepth : n ≤ fuel := Nat.le_of_succ_le_succ hfuel
      have hvalue := ih e he hdepth blank_space (depth + 1) hrest
      apply reads_entry (depth + 1)
      exact hvalue.bind_pure fun d => done ++ [(e.1, d)]
    have hall := Entries.of_foldl hentry []
    rw [foldl_append_singleton] at hall
    refine reads_objectOf hall ?_ depth
    intro rest
    exact Reads.pure _

theorem reads_anyValue {d : Document} {n : Nat} (hd : d.Plain n) (hb : Blank blanks) (depth : Nat)
    (hrest : Ends rest) : Reads anyValue (n + 1) (blanks ++ (write depth d).toList) rest d := by
  intro p
  rw [anyValue]
  exact reads_anyValueWith hd (Nat.le_add_right n 1) hb depth hrest p

end Json

end ServiceSpec
