import ServiceSpec.Form.Encoding
import Mathlib.Data.List.Basic
import Mathlib.Data.List.Nodup

/-!
# Reading what a form wrote

A form writes a value as a document and reads a document as a value.  What comes back need not be
the value itself: a type is written as its name, and a name does not say what kind of type it is of.
So the theory is about pairs.  A form restores `b` from `a` if the document of `a` is read as `b`.

A record has two ways to lose a member.  Writing may leave it out, and then reading must take the
value that stands for an absent member; or an entry may be read into the slot of another member, and
this cannot happen as long as no two members have the same key.  A record that extends another reads
its own members first and hands over the entries that are left, in their order, to the base, which
reads them as buffered values.  The two sets of keys must be disjoint as well.

## Main definitions

* `Form.Restores`: the document of one value is read as another
* `Member.Restores`, `Members.Restores`: the same for the members of a record, written or left out
* `Members.filled`: the slots of a record once every written member is read

## Main results

* `Members.Restores.fillNamed_encode`: reading the written members fills their slots
* `Form.restores_record`, `Form.restores_extended`: records restore what their members restore
-/

namespace ServiceSpec

open ValueReader

variable {α : Type}

/-- The document of one value is read as the other, as it stands and as a buffered value. -/
def Form.Restores (form : Form α) (a b : α) : Prop :=
  ∀ buffered, form.read (ValueReader.format Document.shape buffered) (form.encode a) = .ok b

/-- A member of a record restores one value from another: through the document if it is written,
and as the value of an absent member if it is left out. -/
def Member.Restores (member : Member α) (form : Form α) (a b : α) : Prop :=
  if member.omits a then member.absent = some b else form.Restores a b

/-- The members of a record restore values one by one. -/
inductive Members.Restores : {σ τ : Type} → Members σ τ → τ → τ → Prop
  | nil : Restores .nil () ()
  | cons {α σ τ : Type} {member : Member α} {form : Form α} {rest : Members σ τ} {a b : α}
    {t u : τ} (head : member.Restores form a b) (tail : rest.Restores t u) :
    Restores (.cons member form rest) (a, t) (b, u)

/-! ## Single values -/

/-- Every shape but null is read as a value. -/
theorem ValueReader.format_optional_of_ne_null {d : Document} (hnull : d.shape ≠ .null)
    (buffered : Bool) (item : ValueReader Document α) :
    (ValueReader.format Document.shape buffered).optional item d = some <$> item d := by
  unfold ValueReader.format
  dsimp only
  split
  · contradiction
  · rfl

namespace Form

theorem decode_encode {form : Form α} {a b : α} (h : form.Restores a b) :
    form.decode (form.encode a) = .ok b :=
  h false

@[simp] theorem restores_text (noun s : String) : (text noun).Restores s s := by
  intro buffered
  rfl

theorem restores_word {title : Title} {read : String → Except Problem α} {write : α → String}
    {a b : α} (h : read (write a) = .ok b) : (word title read write).Restores a b := by
  intro buffered
  simp only [Form.read, Form.encode, ValueReader.format, bind, ReaderT.bind, Except.bind,
    Document.shape, h]
  rfl

@[simp] theorem restores_flag (b : Bool) : flag.Restores b b := by
  intro buffered
  rfl

@[simp] theorem restores_code (n : UInt16) : code.Restores n n := by
  intro buffered
  have hbound := n.toNat_lt
  have hlt : (n.toNat : Int) < 65536 := by omega
  simp only [Form.read, Form.encode, ValueReader.format, Document.shape, codeOfInt]
  rw [if_pos ⟨Int.natCast_nonneg _, hlt⟩]
  simp

/-- A choice between differently named values restores each of them. -/
theorem restores_choice {title : Title} {values : List α} {name note : α → String} {a : α}
    (hnames : (values.map name).Nodup) (ha : a ∈ values) :
    (choice title values name note).Restores a a := by
  intro buffered
  have hfind : values.find? (name · = name a) = some a := by
    cases h : values.find? (name · = name a) with
    | none => simpa using List.find?_eq_none.mp h a ha
    | some b =>
      have hname : name b = name a := by simpa using List.find?_some h
      rw [List.inj_on_of_nodup_map hnames (List.mem_of_find?_eq_some h) ha hname]
  simp only [Form.read, Form.encode, ValueReader.format, Document.shape, pickByName, hfind]

@[simp] theorem restores_none (item : Form α) : (optional item).Restores none none := by
  intro buffered
  rfl

/-- A value that is not written as null is told from no value. -/
theorem restores_some {item : Form α} {a b : α} (hnull : (item.encode a).shape ≠ .null)
    (h : item.Restores a b) : (optional item).Restores (some a) (some b) := by
  intro buffered
  have hencode : (optional item).encode (some a) = item.encode a := by simp only [encode]
  rw [hencode]
  change (ValueReader.format Document.shape buffered).optional
    (item.read (ValueReader.format Document.shape buffered)) (item.encode a) = _
  rw [format_optional_of_ne_null hnull, h buffered]
  rfl

theorem restores_list {item : Form α} {g : α → α} {as : List α}
    (h : ∀ a ∈ as, item.Restores a (g a)) : (list item).Restores as (as.map g) := by
  intro buffered
  change (as.map item.encode).mapM (m := Except Problem)
    (item.read (ValueReader.format Document.shape buffered)) = _
  induction as with
  | nil => rfl
  | cons a rest ih =>
    obtain ⟨ha, hrest⟩ := List.forall_mem_cons.mp h
    rw [List.map_cons, List.mapM_cons, ha buffered, ih hrest]
    rfl

theorem restores_list_self {item : Form α} {as : List α} (h : ∀ a ∈ as, item.Restores a a) :
    (list item).Restores as as := by
  have hmap := restores_list (g := id) h
  rwa [List.map_id] at hmap

end Form

/-! ## Members that are left out -/

namespace Member

variable {form : Form α} {a b : α}

theorem restores_of {member : Member α} (h : form.Restores a b)
    (ho : member.omits a → member.absent = some b) : member.Restores form a b := by
  unfold Restores
  split
  · exact ho ‹_›
  · exact h

/-- A member that is always written. -/
theorem restores_written {key description : String} {absent : Option α} (h : form.Restores a b) :
    Member.Restores ⟨key, absent, fun _ => false, description⟩ form a b :=
  restores_of h fun ho => nomatch ho

end Member

/-! ## Slots of records -/

namespace Members

variable {σ τ : Type} {members : Members σ τ} {t u : τ} {title : Title} {strict buffered : Bool}
  {key : String} {entries : List (String × Document)}

/-- The slots once every written member is read. -/
def filled : {σ τ : Type} → Members σ τ → τ → τ → σ
  | _, _, .nil, _, _ => ()
  | _, _, .cons member _ rest, (a, t), (b, u) =>
    (if member.omits a then none else some b, rest.filled t u)

/-- The slots that are left empty stand for absent members. -/
theorem Restores.finish_filled (h : members.Restores t u) (missing : Nat → String → Problem)
    (i : Nat) : members.finish missing i (members.filled t u) = .ok u := by
  induction h generalizing i with
  | nil => rfl
  | @cons _ _ _ member _ _ a b _ _ head tail ih =>
    have hslot : (if member.omits a then none else some b).or member.absent = some b := by
      unfold Member.Restores at head
      split
      · rw [if_pos ‹_›] at head
        rw [head]
        rfl
      · rfl
    simp only [finish, filled, hslot, ih]
    rfl

/-- The members as a reader of values in memory sees them. -/
def inMemory {σ τ : Type} (members : Members σ τ) (title : Title) (strict buffered : Bool) :
    RecordReader (ValueReader Document) σ τ :=
  members.reader title strict (members.slots (ValueReader.format Document.shape buffered))

section Cons

variable (member : Member α) (form : Form α) (rest : Members σ τ)

/-- The slots of further members stand behind the first one. -/
theorem slot?_cons_of_ne (hne : key ≠ member.key) :
    ((cons member form rest).inMemory title strict buffered).slot? key =
      ((rest.inMemory title strict buffered).slot? key).map (Slot.after (Option α)) := by
  simp only [RecordReader.slot?, inMemory, reader, slots, List.find?_cons, List.find?_map,
    hne.symm, decide_false]
  rfl

/-- There is a slot for every key. -/
theorem isSome_slot?_iff : {σ τ : Type} → (members : Members σ τ) →
    (((members.inMemory title strict buffered).slot? key).isSome ↔ key ∈ members.keys)
  | _, _, .nil => by simp [keys, inMemory, reader, slots, RecordReader.slot?]
  | _, _, .cons member form rest => by
    by_cases hk : key = member.key
    · simp [hk, keys, inMemory, reader, slots, RecordReader.slot?]
    · rw [slot?_cons_of_ne member form rest hk, Option.isSome_map, isSome_slot?_iff rest, keys,
        List.mem_cons]
      simp [hk]

/-- An entry under the key of the first member fills its slot. -/
theorem fill_cons_self {a b : α} (h : form.Restores a b) (s : σ) :
    fill ((cons member form rest).inMemory title strict buffered) (none, s) member.key
      (form.encode a) = .ok (some (some b, s)) := by
  simp only [fill, RecordReader.slot?, inMemory, reader, slots, List.find?_cons, decide_true,
    Option.isSome_none, Bool.false_eq_true, if_false]
  change ((fun x (p : Option α × σ) => (some x, p.2)) <$>
    form.read (ValueReader.format Document.shape buffered) (form.encode a)) >>= _ = _
  rw [h buffered]
  rfl

/-- An entry under the key of a further member leaves the slot of the first one alone. -/
theorem fill_cons_of_mem (hne : key ≠ member.key) (hk : key ∈ rest.keys) (slot : Option α) (s : σ)
    (d : Document) :
    fill ((cons member form rest).inMemory title strict buffered) (slot, s) key d =
      (fill (rest.inMemory title strict buffered) s key d).map (Option.map (Prod.mk slot)) := by
  obtain ⟨x, hx⟩ := Option.isSome_iff_exists.mp ((isSome_slot?_iff rest).mpr hk)
  have hslot : ((cons member form rest).inMemory title strict buffered).slot? key =
      some (x.after (Option α)) := by
    rw [slot?_cons_of_ne member form rest hne, hx, Option.map_some]
  simp only [fill, hx, hslot, Slot.after]
  split
  · rfl
  · change ((fun f (p : Option α × σ) => (p.1, f p.2)) <$> x.read d) >>= _ =
      Except.map _ (x.read d >>= _)
    cases x.read d <;> rfl

theorem fillNamed_cons (hk : ∀ e ∈ entries, e.1 ≠ member.key ∧ e.1 ∈ rest.keys)
    (slot : Option α) (s : σ) :
    fillNamed ((cons member form rest).inMemory title strict buffered) entries (slot, s) =
      (fillNamed (rest.inMemory title strict buffered) entries s).map (Prod.mk slot) := by
  induction entries generalizing s with
  | nil => rfl
  | cons e entries ih =>
    obtain ⟨⟨hne, hmem⟩, hentries⟩ := List.forall_mem_cons.mp hk
    simp only [fillNamed, fill_cons_of_mem member form rest hne hmem]
    cases fill (rest.inMemory title strict buffered) s e.1 e.2 with
    | error p => rfl
    | ok filled? =>
      cases filled? with
      | none => exact ih hentries s
      | some s' => exact ih hentries s'

end Cons

/-- The entries of a record stand under keys of its members. -/
theorem key_mem_of_mem_encode : {σ τ : Type} → (members : Members σ τ) → (t : τ) →
    ∀ e ∈ members.encode t, e.1 ∈ members.keys
  | _, _, .nil, _ => by simp [encode]
  | _, _, .cons member form rest, (a, t) => by
    intro e he
    have ih := key_mem_of_mem_encode rest t
    simp only [encode] at he
    split at he
    · exact List.mem_cons_of_mem _ (ih e he)
    · rcases List.mem_cons.mp he with rfl | he
      · exact List.mem_cons_self ..
      · exact List.mem_cons_of_mem _ (ih e he)

/-- **Reading the written members fills their slots**, as long as no two members share a key. -/
theorem Restores.fillNamed_encode (h : members.Restores t u) (hkeys : members.keys.Nodup) :
    fillNamed (members.inMemory title strict buffered) (members.encode t) members.start =
      .ok (members.filled t u) := by
  induction h with
  | nil => rfl
  | @cons _ _ _ member form rest a b t u head tail ih =>
    obtain ⟨hnot, hrest⟩ := List.nodup_cons.mp hkeys
    -- the entries of further members have other keys, so they pass the first slot by
    have hk : ∀ e ∈ rest.encode t, e.1 ≠ member.key ∧ e.1 ∈ rest.keys := by
      intro e he
      have hmem := key_mem_of_mem_encode rest t e he
      exact ⟨fun heq => hnot (heq ▸ hmem), hmem⟩
    simp only [encode, start, filled]
    by_cases ho : member.omits a
    · rw [if_pos ho, if_pos ho, fillNamed_cons member form rest hk, ih hrest]
      rfl
    · rw [Member.Restores, if_neg ho] at head
      rw [if_neg ho, if_neg ho]
      simp only [fillNamed, fill_cons_self member form rest head, bind, Except.bind]
      rw [fillNamed_cons member form rest hk, ih hrest]
      rfl

/-! ## Entries of a document -/

/-- Entries under texts, as a document shows them. -/
def keyed (entries : List (String × Document)) : List (Document × Document) :=
  entries.map fun e => (.text e.1, e.2)

section Reader

variable (r : RecordReader (ValueReader Document) σ τ)

theorem fill_of_slot {slot : Slot (ValueReader Document) σ} (h : r.slot? key = some slot) (s : σ)
    (d : Document) : (∃ p, fill r s key d = .error p) ∨ ∃ s', fill r s key d = .ok (some s') := by
  simp only [fill, h]
  split
  · exact .inl ⟨_, rfl⟩
  · cases hv : slot.read d with
    | error p => exact .inl ⟨p, rfl⟩
    | ok f => exact .inr ⟨f s, rfl⟩

/-- Where every key is known, nothing is left over. -/
theorem fillAll_of_known (hk : ∀ e ∈ entries, (r.slot? e.1).isSome) (s : σ) :
    fillAll Document.shape r (keyed entries) s =
      (fillNamed r entries s).map fun s' => (s', []) := by
  induction entries generalizing s with
  | nil => rfl
  | cons e entries ih =>
    obtain ⟨he, hentries⟩ := List.forall_mem_cons.mp hk
    obtain ⟨slot, hslot⟩ := Option.isSome_iff_exists.mp he
    change (fill r s e.1 e.2).bind _ = Except.map _ ((fill r s e.1 e.2).bind _)
    rcases fill_of_slot r hslot s e.2 with ⟨p, hp⟩ | ⟨s', hs⟩
    · rw [hp]
      rfl
    · rw [hs]
      exact ih hentries s'

/-- Entries under unknown keys are left over, in their order, unless the record refuses them. -/
theorem fillAll_of_unknown (hr : r.strict = false) (hk : ∀ e ∈ entries, r.slot? e.1 = none)
    (more : List (Document × Document)) (s : σ) :
    fillAll Document.shape r (keyed entries ++ more) s =
      (fillAll Document.shape r more s).map fun p => (p.1, entries ++ p.2) := by
  induction entries with
  | nil =>
    change fillAll Document.shape r more s = Except.map id _
    cases fillAll Document.shape r more s <;> rfl
  | cons e entries ih =>
    obtain ⟨he, hentries⟩ := List.forall_mem_cons.mp hk
    have hfill : fill r s e.1 e.2 = .ok none := by simp [fill, he, RecordReader.refusal?, hr]
    change (fill r s e.1 e.2).bind _ = _
    rw [hfill]
    change Except.map _ (fillAll Document.shape r (keyed entries ++ more) s) = _
    rw [ih hentries]
    cases fillAll Document.shape r more s <;> rfl

end Reader

/-- The entries that a record writes are read into its slots, and none is left over. -/
theorem Restores.fillAll_encode (h : members.Restores t u) (hkeys : members.keys.Nodup) :
    fillAll Document.shape (members.inMemory title strict buffered) (keyed (members.encode t))
      members.start = .ok (members.filled t u, []) := by
  rw [fillAll_of_known, h.fillNamed_encode hkeys]
  · rfl
  · intro e he
    exact (isSome_slot?_iff members).mpr (key_mem_of_mem_encode members t e he)

end Members

/-! ## Records -/

namespace Form

variable {σ τ σ' τ' : Type}

/-- A record is read from its entries: they fill the slots, and the slots make up the members. -/
theorem read_record (title : Title) (strict : Bool) (members : Members σ τ) (build : τ → α)
    (parts : α → τ) (buffered : Bool) (entries : List (String × Document)) :
    (record title strict members build parts).read (ValueReader.format Document.shape buffered)
        (.object entries) =
      build <$> (fillAll Document.shape (members.inMemory title strict buffered)
        (Members.keyed entries) members.start).bind fun p =>
          members.finish (missingMember title members.keys.length .keyed) 0 p.1 := by
  rfl

/-- A record that extends another is read from its entries, and the base from those left over. -/
theorem read_extended (title : Title) (base : Members σ' τ') (members : Members σ τ)
    (build : τ' × τ → α) (parts : α → τ' × τ) (buffered : Bool)
    (entries : List (String × Document)) :
    (extended title base members build parts).read (ValueReader.format Document.shape buffered)
        (.object entries) =
      build <$> (fillAll Document.shape (members.inMemory title false buffered)
        (Members.keyed entries) members.start).bind fun p =>
          (members.finish (missingMember title members.keys.length .keyed) 0 p.1).bind fun t =>
            ((fillNamed (base.inMemory title false true) p.2 base.start).bind
              (base.finish (missingMember title base.keys.length .keyed) 0)).bind fun t' =>
                .ok (t', t) := by
  rfl

/-- **A record restores what its members restore.** -/
theorem restores_record {title : Title} {strict : Bool} {members : Members σ τ} {build : τ → α}
    {parts : α → τ} {a b : α} (hkeys : members.keys.Nodup) (hbuild : build (parts b) = b)
    (h : members.Restores (parts a) (parts b)) :
    (record title strict members build parts).Restores a b := by
  intro buffered
  rw [encode, read_record, h.fillAll_encode hkeys]
  change build <$> members.finish _ 0 (members.filled (parts a) (parts b)) = _
  rw [h.finish_filled]
  exact congrArg Except.ok hbuild

/-- **A record that extends another restores what both restore**, if no key is a key of both. -/
theorem restores_extended {title : Title} {base : Members σ' τ'} {members : Members σ τ}
    {build : τ' × τ → α} {parts : α → τ' × τ} {a b : α}
    (hkeys : (base.keys ++ members.keys).Nodup) (hbuild : build (parts b) = b)
    (hb : base.Restores (parts a).1 (parts b).1) (h : members.Restores (parts a).2 (parts b).2) :
    (extended title base members build parts).Restores a b := by
  intro buffered
  obtain ⟨hbase, hmembers, hapart⟩ := List.nodup_append.mp hkeys
  have hunknown : ∀ e ∈ base.encode (parts a).1,
      (members.inMemory title false buffered).slot? e.1 = none := by
    intro e he
    have hmem := Members.key_mem_of_mem_encode base _ e he
    rw [← Option.not_isSome_iff_eq_none, Members.isSome_slot?_iff]
    exact fun hk => hapart _ hmem _ hk rfl
  have hkeyed : Members.keyed (base.encode (parts a).1 ++ members.encode (parts a).2) =
      Members.keyed (base.encode (parts a).1) ++ Members.keyed (members.encode (parts a).2) :=
    List.map_append
  rw [encode, read_extended, hkeyed, Members.fillAll_of_unknown _ rfl hunknown,
    h.fillAll_encode hmembers]
  -- the slots of the extension first, and then those of the base from what is left over
  change build <$> (members.finish _ 0 (members.filled (parts a).2 (parts b).2)).bind (fun t =>
    ((fillNamed (base.inMemory title false true) (base.encode (parts a).1 ++ []) base.start).bind
      (base.finish _ 0)).bind fun t' => .ok (t', t)) = _
  rw [h.finish_filled, List.append_nil, hb.fillNamed_encode hbase]
  change build <$> (base.finish _ 0 (base.filled (parts a).1 (parts b).1)).bind
    (fun t' => .ok (t', (parts b).2)) = _
  rw [hb.finish_filled]
  exact congrArg Except.ok hbuild

end Form

end ServiceSpec
