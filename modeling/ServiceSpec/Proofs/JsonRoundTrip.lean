import ServiceSpec.Proofs.JsonSkipping
import ServiceSpec.Proofs.RecordSlots
import ServiceSpec.Specification

/-!
# Reading JSON that was written

A form is read from documents that are in memory and from JSON text, by readers that are written
apart.  They agree where the text was written from the document: what the form makes of the document
is what it makes of the text.  This holds of any document that is plain, so it does not matter which
form wrote it, whether a record is laid out by names or in order, or what entries it has that nobody
knows.

The documents that a form writes are plain.  How deep they nest is known from the form alone, since
no form contains itself, and for services it is less than a reader can go.

## Main definitions

* `Json.Agrees`: a reader makes of texts what another makes of documents
* `Form.nesting`: how deep the documents of a form nest

## Main results

* `Json.agrees`: every form is read from a text as it is from the document
* `Json.readDocument_render`, `Json.read_render`: the same for the text of a whole document
* `Form.plain_encode`: what a form writes is plain
* `Service.read_render_json`: a service that was written as JSON is read as its document is
-/

namespace ServiceSpec

open ValueReader

namespace Json

variable {α β σ τ ρ : Type} {room n : Nat} {rest blanks : List Char} {first : Bool}

/-- What the first reader makes of a plain document, the second reads from the text of it: behind
blanks, and in front of what can stand behind a value. -/
def Agrees (doc : ValueReader Document α) (r : Reader α) : Prop :=
  ∀ ⦃n d a⦄, d.Plain n → doc d = .ok a → ∀ ⦃blanks rest⦄ depth, Blank blanks → Ends rest →
    Reads r (n + 1) (blanks ++ (write depth d).toList) rest a

theorem Agrees.map {doc : ValueReader Document α} {r : Reader α} (h : Agrees doc r) (f : α → β) :
    Agrees (f <$> doc) (f <$> r) := by
  intro n d b hd hb blanks rest depth hblanks hrest
  obtain ⟨a, ha, rfl⟩ := exists_of_map_eq_ok hb
  exact (h hd ha depth hblanks hrest).map f

theorem Reads.ofExcept {e : Except Problem α} {a : α} (h : e = .ok a) :
    Reads (ofExcept e) room [] rest a := by
  subst h
  exact Reads.pure a

theorem Reads.bind_ofExcept {r : Reader β} {b : β} {cs : List Char} {f : β → Except Problem α}
    {a : α} (h : Reads r room cs rest b) (ha : f b = .ok a) :
    Reads (do Json.ofExcept (f (← r))) room cs rest a := by
  rw [← List.append_nil cs]
  exact h.bind (Reads.ofExcept ha)

/-! ## Single values -/

theorem reads_textOf (noun : String) (depth : Nat) (s : String) (hb : Blank blanks) :
    Reads (textOf noun) room (blanks ++ (write depth (.text s)).toList) rest s := by
  rw [textOf, toList_write_text]
  apply Reads.located
  apply Reads.peekValue_bind hb (by decide)
  rw [if_pos rfl]
  apply Reads.advance_bind
  exact reads_textBody s

theorem agrees_text (noun : String) :
    Agrees ((ValueReader.format Document.shape false).text noun) (format.text noun) := by
  intro n d s hd h blanks rest depth hb hrest
  cases d with
  | text s' =>
    obtain rfl : s' = s := Except.ok.inj h
    exact reads_textOf noun depth s' hb
  | _ => cases h

theorem agrees_word (title : Title) (read : String → Except Problem α) (name : α → String) :
    Agrees ((Form.word title read name).read (ValueReader.format Document.shape false))
      ((Form.word title read name).read format) := by
  intro n d a hd h blanks rest depth hb hrest
  obtain ⟨s, hs, h⟩ := exists_of_bind_eq_ok h
  have htext := agrees_text "a string" hd hs depth hb hrest
  rw [← List.append_nil (write depth d).toList, ← List.append_assoc]
  apply htext.bind
  cases hread : read s with
  | error p =>
    simp only [hread] at h
    cases h
  | ok a' =>
    simp only [hread] at h
    obtain rfl := Except.ok.inj h
    exact Reads.pure a'

theorem agrees_flag :
    Agrees (ValueReader.format Document.shape false).flag format.flag := by
  intro n d b hd h blanks rest depth hb hrest
  cases d with
  | bool b' =>
    obtain rfl : b' = b := Except.ok.inj h
    apply Reads.located
    cases b' with
    | true =>
      rw [toList_write_true]
      apply Reads.peekValue_bind hb (by decide)
      apply Reads.advance_bind
      exact (reads_word "rue").bind_pure fun _ => true
    | false =>
      rw [toList_write_false]
      apply Reads.peekValue_bind hb (by decide)
      apply Reads.advance_bind
      exact (reads_word "alse").bind_pure fun _ => false
  | _ => cases h

theorem agrees_code :
    Agrees (ValueReader.format Document.shape false).code format.code := by
  intro n d a hd h blanks rest depth hb hrest
  cases hd with
  | @integer _ i hi =>
    obtain ⟨c, cs, hcs, hc⟩ := exists_write_integer depth i
    have hnumber : Reads (number true) (n + 1) (write depth (.integer i)).toList rest
        (.integer i) := reads_integer hi depth hrest
    rw [hcs] at hnumber ⊢
    apply Reads.located
    apply Reads.peekValue_bind hb (not_isBlankChar_of_isDigit hc)
    simp only [if_neg (ne_of_isDigit hc rfl : c ≠ '-'), if_pos hc]
    simp only [ValueReader.format, Document.shape] at h
    rw [← List.append_nil (c :: cs)]
    apply hnumber.bind
    exact Reads.ofExcept h
  | _ => cases h

/-! ## Choices -/

theorem reads_pick {values : List α} {name : α → String} {s : String} {a : α}
    (h : pickByName values name s = .ok a) (hb : Blank blanks) :
    Reads (pick values name) room (blanks ++ (quote s).toList) rest a := by
  rw [pick, toList_quote]
  apply Reads.located
  apply Reads.peekValue_bind hb (by decide)
  rw [if_pos rfl]
  apply Reads.advance_bind
  exact (reads_textBody s).bind_ofExcept h

theorem reads_nothing (depth : Nat) (hb : Blank blanks) :
    Reads nothing room (blanks ++ (write depth .null).toList) rest () := by
  rw [nothing, toList_write_null]
  apply Reads.located
  apply Reads.peekValue_bind hb (by decide)
  rw [if_pos rfl]
  exact Reads.advance_bind (reads_word "ull")

theorem eq_null_of_isNothing {d : Document} (h : isNothing false d.shape) : d = .null := by
  cases d with
  | null => rfl
  | object entries => cases entries <;> cases h
  | _ => cases h

/-- A name that is the only key of an object, above null. -/
theorem exists_of_choice_object {title : Title} {values : List α} {name : α → String} {a : α}
    {entries : List (String × Document)}
    (h : (ValueReader.format Document.shape false).choice title values name (.object entries) =
      .ok a) : ∃ k, entries = [(k, .null)] ∧ pickByName values name k = .ok a := by
  match entries, h with
  | [(k, d)], h =>
    obtain ⟨a', ha, h⟩ := exists_of_bind_eq_ok h
    have hnothing : isNothing false d.shape := by
      by_contra hn
      rw [if_neg hn] at h
      cases h
    rw [if_pos hnothing] at h
    obtain rfl := Except.ok.inj h
    exact ⟨k, by rw [eq_null_of_isNothing hnothing], ha⟩

theorem reads_choiceOf_text {values : List α} {name : α → String} {s : String} {a : α}
    (h : pickByName values name s = .ok a) (depth : Nat) (hb : Blank blanks) :
    Reads (choiceOf values name) room (blanks ++ (write depth (.text s)).toList) rest a := by
  have hpick : Reads (pick values name) room ([] ++ (quote s).toList) rest a :=
    reads_pick h blank_nil
  rw [List.nil_append, toList_quote] at hpick
  rw [choiceOf, toList_write_text]
  apply Reads.peekToken_bind hb (by decide)
  exact hpick

theorem reads_choiceOf_object {values : List α} {name : α → String} {k : String} {a : α}
    (h : pickByName values name k = .ok a) (depth : Nat) (hb : Blank blanks) :
    Reads (choiceOf values name) (n + 1 + 1)
      (blanks ++ (write depth (.object [(k, .null)])).toList) rest a := by
  have hentry : ∀ rest, Reads (do let a ← pick values name; colon; nothing; return a) (n + 1)
      (lead (depth + 1) ++ (quote k).toList ++ (':' :: ' ' :: (write (depth + 1) .null).toList))
      rest a := by
    intro rest
    apply (reads_pick h (blank_lead _)).bind
    apply reads_colon.bind
    exact (reads_nothing (depth + 1) blank_space).bind_pure fun _ => a
  have hsplit : (write depth (.object [(k, .null)])).toList =
      '\x7b' :: (lead (depth + 1) ++ (quote k).toList ++
        (':' :: ' ' :: (write (depth + 1) .null).toList)) ++ (lead depth ++ ['\x7d']) := by
    rw [toList_write_object, contents_of_ne_nil (by simp)]
    simp [separated, entryText]
  rw [choiceOf, hsplit]
  apply Reads.peekToken_bind hb (by decide)
  apply (Reads.advance_bind (hentry _)).nested.bind
  apply Reads.peekToken_bind (blank_lead depth) (by decide)
  exact Reads.advance_bind (Reads.pure a)

theorem agrees_choice (title : Title) (values : List α) (name : α → String) :
    Agrees ((ValueReader.format Document.shape false).choice title values name)
      (format.choice title values name) := by
  intro n d a hd h blanks rest depth hb hrest
  cases hd with
  | text _ s => exact reads_choiceOf_text h depth hb
  | @object n entries hentries =>
    obtain ⟨k, rfl, hk⟩ := exists_of_choice_object h
    exact reads_choiceOf_object hk depth hb
  | _ => cases h

theorem agrees_optional {doc : ValueReader Document α} {r : Reader α} (hr : Agrees doc r) :
    Agrees ((ValueReader.format Document.shape false).optional doc) (format.optional r) := by
  intro n d a? hd h blanks rest depth hb hrest
  by_cases hnull : d = .null
  · subst hnull
    obtain rfl := Except.ok.inj h
    rw [toList_write_null]
    apply Reads.peekToken_bind hb (by decide)
    apply Reads.advance_bind
    exact (reads_word "ull").bind_pure fun _ => none
  · obtain ⟨c, cs, hcs, hc, -, hn⟩ := exists_write_eq_cons hd depth
    have hshape : d.shape ≠ .null := by
      cases d <;> simp_all [Document.shape]
    rw [format_optional_of_ne_null hshape] at h
    obtain ⟨a, ha, rfl⟩ := exists_of_map_eq_ok h
    have hitem := hr hd ha depth blank_nil hrest
    rw [List.nil_append, hcs] at hitem
    rw [hcs]
    apply Reads.peekToken_bind hb hc
    split
    · rename_i heq
      exact absurd (Option.some.inj heq) (hn hnull)
    · exact hitem.bind_pure some

/-! ## Lists -/

theorem agrees_list {doc : ValueReader Document α} {r : Reader α} (hr : Agrees doc r) :
    Agrees ((ValueReader.format Document.shape false).list doc) (format.list r) := by
  intro n d as hd h blanks rest depth hb hrest
  cases hd with
  | @list n items hitems =>
    have hparts : List.Forall₂ (Item r (n + 1))
        (items.map fun d => (write (depth + 1) d).toList) as := by
      rw [List.forall₂_map_left_iff]
      refine forall₂_of_mapM_eq_ok (fun d hd a ha => ?_) h
      exact item_write (hitems d hd) fun rest hrest => hr (hitems d hd) ha _ blank_nil hrest
    rw [toList_write_list]
    apply Reads.located
    apply Reads.peekValue_bind hb (by decide)
    exact reads_listOf hparts depth
  | _ => cases h

/-! ## Records -/

/-- Two slots for one member. -/
structure SlotAgrees (x : Slot (ValueReader Document) σ) (y : Slot Reader σ) : Prop where
  key : x.key = y.key
  isFilled : ∀ s, x.isFilled s = y.isFilled s
  read : Agrees x.read y.read

section Record

variable {r : RecordReader (ValueReader Document) σ τ} {r' : RecordReader Reader σ τ}
  {other : String → ρ → Reader ρ} {e : String × Document} {s : σ} {t : ρ} {depth : Nat}

/-- A name has slots in both records, or in none. -/
theorem slot?_cases (hslots : List.Forall₂ SlotAgrees r.slots r'.slots) (k : String) :
    (r.slot? k = none ∧ r'.slot? k = none) ∨
      ∃ x y, r.slot? k = some x ∧ r'.slot? k = some y ∧ SlotAgrees x y := by
  rw [RecordReader.slot?, RecordReader.slot?]
  generalize r.slots = xs, r'.slots = ys at hslots
  induction hslots with
  | nil => exact .inl ⟨rfl, rfl⟩
  | @cons x y xs ys hxy _ ih =>
    rw [List.find?_cons, List.find?_cons, ← hxy.key]
    by_cases hk : x.key = k
    · simp only [hk, decide_true]
      exact .inr ⟨x, y, rfl, rfl, hxy⟩
    · simp only [hk, decide_false]
      exact ih

/-- An entry that a slot takes is read into it. -/
theorem reads_fillEntry_slot {f : σ → σ} {y : Slot Reader σ} (hslot : r'.slot? e.1 = some y)
    (hempty : y.isFilled s = false)
    (h : Reads y.read room (' ' :: (write depth e.2).toList) rest f) :
    Reads (fillEntry r' other (s, t)) room (entryText depth e) rest (f s, t) := by
  rw [fillEntry, entryText]
  apply (reads_key e.1).bind
  simp only [hslot, hempty, Bool.false_eq_true, if_false]
  exact reads_colon.bind (h.bind_pure fun f => (f s, t))

/-- An entry that no slot takes is left to the other reader. -/
theorem reads_fillEntry_other {t' : ρ} (hslot : r'.slot? e.1 = none) (hstrict : r'.strict = false)
    (h : Reads (other e.1 t) room (' ' :: (write depth e.2).toList) rest t') :
    Reads (fillEntry r' other (s, t)) room (entryText depth e) rest (s, t') := by
  rw [fillEntry, entryText]
  apply (reads_key e.1).bind
  simp only [hslot, RecordReader.refusal?, hstrict, Bool.false_eq_true, if_false]
  exact reads_colon.bind (h.bind_pure fun t' => (s, t'))

theorem fillNamed_of_fillAll {entries : List (String × Document)}
    {others : List (String × Document)} {s' : σ}
    (h : fillAll Document.shape r (Members.keyed entries) s = .ok (s', others)) :
    fillNamed r entries s = .ok s' ∧ others = entries.filter (·.1 ∉ r.keys) := by
  rw [Members.fillAll_keyed] at h
  obtain ⟨s'', hnamed, hs⟩ := exists_of_map_eq_ok (x := fillNamed r entries s) h
  obtain ⟨rfl, rfl⟩ := Prod.mk.inj hs
  exact ⟨hnamed, rfl⟩

/-- **Entries fill the slots that they fill in documents**, and those that no slot takes change
what the other reader keeps. -/
theorem entries_of_fillNamed (hslots : List.Forall₂ SlotAgrees r.slots r'.slots)
    (hstrict : r'.strict = r.strict) (other : String → ρ → Reader ρ)
    (keep : ρ → String × Document → ρ)
    (hother : ∀ e : String × Document, e.2.Plain n → ∀ t rest, Ends rest →
      Reads (other e.1 t) (n + 1) (' ' :: (write depth e.2).toList) rest (keep t e))
    {entries : List (String × Document)} (hplain : ∀ e ∈ entries, e.2.Plain n) {s' : σ}
    (h : fillNamed r entries s = .ok s') (t : ρ) :
    Entries (fillEntry r' other) (n + 1) (s, t) (entries.map (entryText depth))
      (s', (entries.filter (·.1 ∉ r.keys)).foldl keep t) := by
  induction entries generalizing s t with
  | nil =>
    obtain rfl := Except.ok.inj h
    exact .nil _
  | cons e entries ih =>
    obtain ⟨he, hentries⟩ := List.forall_mem_cons.mp hplain
    have hkey : (r.slot? e.1).isSome ↔ e.1 ∈ r.keys := RecordReader.isSome_slot?_iff
    rcases slot?_cases hslots e.1 with ⟨hslot, hslot'⟩ | ⟨x, y, hslot, hslot', hxy⟩
    · rw [hslot] at hkey
      have hnot : e.1 ∉ r.keys := by simpa using hkey
      rcases fillNamed_cons_eq_ok_iff.mp h with ⟨-, hlax, hrest⟩ | ⟨x, f, hsome, -⟩
      · rw [List.filter_cons_of_pos (by simpa using hnot)]
        refine .cons_entryText (fun rest hends => ?_) (ih hentries hrest (keep t e))
        exact reads_fillEntry_other hslot' (hstrict.trans hlax) (hother e he t rest hends)
      · rw [hslot] at hsome
        cases hsome
    · rw [hslot] at hkey
      have hmem : e.1 ∈ r.keys := by simpa using hkey
      rcases fillNamed_cons_eq_ok_iff.mp h with ⟨hnone, -⟩ | ⟨x', f, hsome, hempty, hf, hrest⟩
      · rw [hslot] at hnone
        cases hnone
      · obtain rfl := Option.some.inj (hslot.symm.trans hsome)
        rw [List.filter_cons_of_neg (by simpa using hmem)]
        refine .cons_entryText (fun rest hends => ?_) (ih hentries hrest t)
        rw [hxy.isFilled] at hempty
        exact reads_fillEntry_slot hslot' hempty (hxy.read he hf depth blank_space hends)

theorem fillInOrder_nil (slots : List (Slot (ValueReader Document) σ)) (s : σ) :
    ValueReader.fillInOrder slots [] s = .ok s := by
  cases slots <;> rfl

/-- Where no items are left, the slots stay as they are. -/
theorem exists_reads_fillInOrder_nil (slots : List (Slot Reader σ)) (hb : Blank blanks) (s : σ) :
    ∃ used left, used ++ left = blanks ∧ Blank left ∧
      Reads (fillInOrder slots first s) room used (left ++ ']' :: rest) s := by
  cases slots with
  | nil => exact ⟨[], blanks, rfl, hb, Reads.pure s⟩
  | cons x slots =>
    refine ⟨blanks, [], List.append_nil _, blank_nil, ?_⟩
    have hend : Reads (hasItem first) room blanks ([] ++ ']' :: rest) false := reads_hasItem_end hb
    rw [fillInOrder, ← List.append_nil blanks]
    apply hend.bind
    exact Reads.pure s

/-- Items fill the slots in order; the blanks behind the last item may be left. -/
theorem exists_reads_fillInOrder (first : Bool) {xs : List (Slot (ValueReader Document) σ)}
    {ys : List (Slot Reader σ)} (hslots : List.Forall₂ SlotAgrees xs ys) {items : List Document}
    (hplain : ∀ d ∈ items, d.Plain n) (hlength : items.length ≤ xs.length) {s s' : σ}
    (h : ValueReader.fillInOrder xs items s = .ok s') (k : Nat) :
    ∃ used left,
      used ++ left = separated depth first (items.map fun d => (write depth d).toList) ++ lead k ∧
        Blank left ∧ Reads (fillInOrder ys first s) (n + 1) used (left ++ ']' :: rest) s' := by
  induction items generalizing xs ys first s with
  | nil =>
    obtain rfl := Except.ok.inj ((fillInOrder_nil xs s).symm.trans h)
    exact exists_reads_fillInOrder_nil ys (blank_lead k) s
  | cons d items ih =>
    obtain ⟨hd, hitems⟩ := List.forall_mem_cons.mp hplain
    cases hslots with
    | nil => cases hlength
    | @cons x y xs ys hxy hslots =>
      obtain ⟨f, hf, h⟩ := exists_of_bind_eq_ok h
      obtain ⟨used, left, hsplit, hleft, hmore⟩ :=
        ih false hslots hitems (Nat.le_of_succ_le_succ hlength) h
      obtain ⟨c, cs, hcs, hc, hend, -⟩ := exists_write_eq_cons hd depth
      have hends : Ends (used ++ (left ++ ']' :: rest)) := by
        rw [← List.append_assoc, hsplit]
        exact ends_separated_lead depth k _
      have hitem := hxy.read hd hf depth blank_nil hends
      rw [List.nil_append, hcs] at hitem
      refine ⟨(if first then [] else [',']) ++ lead depth ++ (c :: cs ++ used), left, ?_, hleft, ?_⟩
      · simp [separated, hcs, hsplit]
      · rw [fillInOrder]
        apply (reads_hasItem hc hend).bind
        rw [if_pos rfl]
        exact hitem.bind hmore

theorem exists_reads_fillInOrder_contents (rest : List Char)
    {xs : List (Slot (ValueReader Document) σ)}
    {ys : List (Slot Reader σ)} (hslots : List.Forall₂ SlotAgrees xs ys) {items : List Document}
    (hplain : ∀ d ∈ items, d.Plain n) (hlength : items.length ≤ xs.length) {s s' : σ}
    (h : ValueReader.fillInOrder xs items s = .ok s') (depth : Nat) :
    ∃ used left,
      used ++ left = contents depth (items.map fun d => (write (depth + 1) d).toList) ∧
        Blank left ∧ Reads (fillInOrder ys true s) (n + 1) used (left ++ ']' :: rest) s' := by
  cases items with
  | nil =>
    obtain rfl := Except.ok.inj ((fillInOrder_nil xs s).symm.trans h)
    exact exists_reads_fillInOrder_nil ys blank_nil s
  | cons d items =>
    rw [contents_of_ne_nil (by simp)]
    exact exists_reads_fillInOrder true hslots hplain hlength h depth

/-- **A record is read by the text as it is by the document.** -/
theorem agrees_record (hslots : List.Forall₂ SlotAgrees r.slots r'.slots)
    (hstrict : r'.strict = r.strict) (hstart : r'.start = r.start)
    (hfinish : r'.finish = r.finish) :
    Agrees ((ValueReader.format Document.shape false).record r) (format.record r') := by
  intro n d a hd h blanks rest depth hb hrest
  apply Reads.located
  cases hd with
  | @object n entries hentries =>
    obtain ⟨⟨s, others⟩, hfill, hfin⟩ := exists_of_bind_eq_ok h
    obtain ⟨hnamed, -⟩ := fillNamed_of_fillAll hfill
    have hother : ∀ e : String × Document, e.2.Plain n → ∀ (t : Unit) (rest : List Char),
        Ends rest → Reads skipValue (n + 1) (' ' :: (write (depth + 1) e.2).toList) rest t :=
      fun e he _ _ hends => (passed_write he _).reads_skipValue blank_space hends
    have hall := entries_of_fillNamed hslots hstrict (fun _ _ => skipValue) (fun t _ => t) hother
      hentries hnamed ()
    rw [← hstart] at hall
    rw [← hfinish] at hfin
    rw [toList_write_object]
    apply Reads.peekValue_bind hb (by decide)
    rw [if_neg (by decide), if_pos rfl]
    refine reads_objectOf hall ?_ depth
    intro rest
    exact Reads.ofExcept hfin
  | @list n items hitems =>
    obtain ⟨s, hfill, h⟩ := exists_of_bind_eq_ok h
    obtain ⟨a', hfin, h⟩ := exists_of_bind_eq_ok h
    have hlength : items.length ≤ r.slots.length := by
      by_contra hn
      rw [if_neg hn] at h
      cases h
    rw [if_pos hlength] at h
    obtain rfl := Except.ok.inj h
    obtain ⟨used, left, hsplit, hleft, hreads⟩ :=
      exists_reads_fillInOrder_contents rest hslots hitems hlength hfill depth
    rw [← hstart] at hreads
    rw [← hfinish] at hfin
    rw [toList_write_list, ← hsplit, List.append_assoc]
    apply Reads.peekValue_bind hb (by decide)
    rw [if_pos rfl]
    apply reads_enclosed _ (reads_endList hleft)
    rw [List.append_assoc]
    exact hreads.bind_ofExcept hfin
  | _ => cases h

/-- **A record that extends another is read in the same way**, with the entries that it leaves to
its base. -/
theorem agrees_extended (hslots : List.Forall₂ SlotAgrees r.slots r'.slots)
    (hstrict : r'.strict = r.strict) (hstart : r'.start = r.start)
    (hfinish : r'.finish = r.finish) (base : List (String × Document) → Except Problem ρ) :
    Agrees ((ValueReader.format Document.shape false).extended r base)
      (format.extended r' base) := by
  intro n d a hd h blanks rest depth hb hrest
  apply Reads.located
  cases hd with
  | @object n entries hentries =>
    obtain ⟨⟨s, others⟩, hfill, h⟩ := exists_of_bind_eq_ok h
    obtain ⟨t, hfin, h⟩ := exists_of_bind_eq_ok h
    obtain ⟨b, hbase, h⟩ := exists_of_bind_eq_ok h
    obtain rfl := Except.ok.inj h
    obtain ⟨hnamed, rfl⟩ := fillNamed_of_fillAll hfill
    have hother : ∀ e : String × Document, e.2.Plain n → ∀ (done : List (String × Document)) rest,
        Ends rest → Reads (do return done ++ [(e.1, ← anyValue)]) (n + 1)
          (' ' :: (write (depth + 1) e.2).toList) rest (done ++ [e]) :=
      fun e he done _ hends =>
        (reads_anyValue he blank_space _ hends).bind_pure fun d => done ++ [(e.1, d)]
    have hall := entries_of_fillNamed hslots hstrict
      (fun k done => do return done ++ [(k, ← anyValue)]) (fun done e => done ++ [e]) hother
      hentries hnamed []
    rw [foldl_append_singleton, List.nil_append, ← hstart] at hall
    rw [← hfinish] at hfin
    rw [toList_write_object]
    apply Reads.peekValue_bind hb (by decide)
    rw [if_pos rfl]
    refine reads_objectOf hall ?_ depth
    intro rest
    exact (Reads.ofExcept hfin).bind ((Reads.ofExcept hbase).bind_pure fun b => (b, t))
  | _ => cases h

end Record

/-! ## Forms -/

mutual

/-- **Every form is read from a text as it is from the document that was written.** -/
theorem agrees : {α : Type} → (form : Form α) →
    Agrees (form.read (ValueReader.format Document.shape false)) (form.read format)
  | _, .text noun => agrees_text noun
  | _, .word title read name => agrees_word title read name
  | _, .flag => agrees_flag
  | _, .code => agrees_code
  | _, .choice title values name _ => agrees_choice title values name
  | _, .optional item => agrees_optional (agrees item)
  | _, .list item => agrees_list (agrees item)
  | _, .record _ _ members build _ =>
    (agrees_record (slots_agree members) rfl rfl rfl).map build
  | _, .extended _ _ members build _ =>
    (agrees_extended (slots_agree members) rfl rfl rfl _).map build

/-- The slots of members are filled from a text as they are from a document. -/
theorem slots_agree : {σ τ : Type} → (members : Members σ τ) →
    List.Forall₂ SlotAgrees (members.slots (ValueReader.format Document.shape false))
      (members.slots format)
  | _, _, .nil => .nil
  | _, _, @Members.cons α _ _ member form rest => by
    refine .cons ⟨rfl, fun _ => rfl, (agrees form).map _⟩ ?_
    rw [List.forall₂_map_left_iff, List.forall₂_map_right_iff]
    exact (slots_agree rest).imp fun x y hxy => ⟨hxy.key, fun s => hxy.isFilled s.2, hxy.read.map _⟩

end

/-- A text that ends with the end of a line is read as a whole. -/
theorem whole_eq_ok {r : Reader α} {s : String} {cs : List Char} {a : α}
    (hs : s.toList = cs ++ ['\n']) (h : Reads r 128 cs ['\n'] a) : whole r s = .ok a := by
  obtain ⟨p, hp⟩ := h ⟨1, 0⟩
  rw [← hs] at hp
  simp only [whole, Cursor.ofString, bind, EStateM.bind, hp]
  rfl

/-- A document that was written is read as that document. -/
theorem readDocument_render {d : Document} (hd : d.Plain 127) : readDocument (render d) = .ok d :=
  whole_eq_ok (by simp [render]) (reads_anyValue hd blank_nil 0 (ends_lead 0))

/-- **What a form makes of a document it makes of the text of the document.** -/
theorem read_render {form : Form α} {d : Document} {a : α} (hd : d.Plain 127)
    (h : form.decode d = .ok a) : read form (render d) = .ok a :=
  whole_eq_ok (by simp [render]) (agrees form hd h 0 blank_nil (ends_lead 0))

end Json

/-! ## Written values -/

mutual

/-- How deep the documents of a form nest. -/
def Form.nesting : {α : Type} → Form α → Nat
  | _, .optional item => item.nesting
  | _, .list item => item.nesting + 1
  | _, .record _ _ members _ _ => members.nesting + 1
  | _, .extended _ base members _ _ => max base.nesting members.nesting + 1
  | _, _ => 0

/-- How deep the documents of members nest. -/
def Members.nesting : {σ τ : Type} → Members σ τ → Nat
  | _, _, .nil => 0
  | _, _, .cons _ form rest => max form.nesting rest.nesting

end

theorem Document.Plain.mono {d : Document} {n m : Nat} (h : d.Plain n) (hnm : n ≤ m) :
    d.Plain m := by
  induction h generalizing m with
  | null => exact .null m
  | bool _ b => exact .bool m b
  | integer _ hi => exact .integer m hi
  | text _ s => exact .text m s
  | list _ ih =>
    obtain ⟨m, rfl⟩ : ∃ k, m = k + 1 := ⟨m - 1, by omega⟩
    exact .list fun d hd => ih d hd (by omega)
  | object _ ih =>
    obtain ⟨m, rfl⟩ : ∃ k, m = k + 1 := ⟨m - 1, by omega⟩
    exact .object fun e he => ih e he (by omega)

mutual

/-- **The document of a value is plain**, and nests no deeper than its form. -/
theorem Form.plain_encode : {α : Type} → (form : Form α) → (a : α) →
    (form.encode a).Plain form.nesting
  | _, .text _, s => .text 0 s
  | _, .word _ _ name, a => .text 0 (name a)
  | _, .flag, b => .bool 0 b
  | _, .code, n => .integer 0 (Nat.lt_trans n.toNat_lt (by decide))
  | _, .choice _ _ name _, a => .text 0 (name a)
  | _, .optional item, none => .null item.nesting
  | _, .optional item, some a => item.plain_encode a
  | _, .list item, as => by
    refine .list fun d hd => ?_
    obtain ⟨a, -, rfl⟩ := List.mem_map.mp hd
    exact item.plain_encode a
  | _, .record _ _ members _ parts, a => .object (members.plain_encode (parts a))
  | _, .extended _ base members _ parts, a => by
    refine .object fun e he => ?_
    rcases List.mem_append.mp he with he | he
    · exact (base.plain_encode (parts a).1 e he).mono (Nat.le_max_left ..)
    · exact (members.plain_encode (parts a).2 e he).mono (Nat.le_max_right ..)

/-- The entries of members are plain. -/
theorem Members.plain_encode : {σ τ : Type} → (members : Members σ τ) → (t : τ) →
    ∀ e ∈ members.encode t, e.2.Plain members.nesting
  | _, _, .nil, _, _, he => nomatch he
  | _, _, .cons member form rest, (a, t), e, he => by
    have hrest : ∀ e ∈ rest.encode t, e.2.Plain (Members.cons member form rest).nesting :=
      fun e he => (rest.plain_encode t e he).mono (Nat.le_max_right ..)
    rw [Members.encode] at he
    split at he
    · exact hrest e he
    · rcases List.mem_cons.mp he with rfl | he
      · exact (form.plain_encode a).mono (Nat.le_max_left ..)
      · exact hrest e he

end

/-- **A service that was written as JSON is read as its document is.** -/
theorem Service.read_render_json {s u : Service} (h : form.decode (form.encode s) = .ok u) :
    read .json (s.render .json) = .ok u := by
  have hplain : (form.encode s).Plain 127 := (form.plain_encode s).mono (by decide)
  have hread : Json.read form (Json.render (form.encode s)) = .ok u := Json.read_render hplain h
  rw [read, render, Document.render, hread]
  rfl

end ServiceSpec
