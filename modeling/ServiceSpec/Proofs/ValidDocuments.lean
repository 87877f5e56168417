import ServiceSpec.Model.Forms
import ServiceSpec.Proofs.RecordSlots
import ServiceSpec.Proofs.SchemaValidity

/-!
# Reading valid documents

A form is read and published by the same description, and yet a document that is valid under the
published schema need not be readable.  The schema says of a word that it is not empty, and the
reader that it is not blank, and stands for a value; a number without a fraction is an integer for
the schema even if it is written with a point, and not for the reader; and the schema says nothing
of a member that is written twice, nor of names that a strict record refuses.  Nothing else is
missing: these are all the ways in which a valid document fails to be read.

The proof follows the form.  What reading does below a record is known of the slots of its members,
so the theorem about forms is proved together with one about members.  Schemas of forms with a title
are references, and the definitions behind them are those of the root.

## Main definitions

* `Form.Readable`, `Members.Readable`: what is asked of a valid document beside its schema
* `Form.DefinedIn`, `Members.DefinedIn`: the definitions that the schema refers to are there
* `Form.Agrees`, `Members.Agree`: valid documents can be read if and only if they are readable

## Main results

* `Form.record_ok_iff`, `Form.extended_ok_iff`: records agree if their members do
* `Form.agrees`: every form agrees that is among the definitions
* `Service.decode_ok_iff_of_isValid`: when a valid specification can be read
-/

namespace ServiceSpec

open ValueReader

/-! ## What the schema does not say -/

/-- No key of a member stands twice. -/
def Members.OnceIn {σ τ : Type} (members : Members σ τ) (entries : List (String × Document)) :
    Prop :=
  ((entries.map (·.1)).filter (· ∈ members.keys)).Nodup

mutual

/-- What is asked of a valid document beside its schema. -/
def Form.Readable : {α : Type} → Form α → Document → Prop
  | _, .text _, _ => True
  | _, .word _ read _, d => ∀ s, d = .text s → ∃ a, read s = .ok a
  | _, .flag, _ => True
  | _, .code, d => ∀ x, d ≠ .float x
  | _, .choice _ _ _ _, _ => True
  | _, .optional item, d => d ≠ .null → item.Readable d
  | _, .list item, d => ∀ items, d = .list items → ∀ x ∈ items, item.Readable x
  | _, .record _ strict members _ _, d => ∀ entries, d = .object entries →
    (∀ e ∈ entries, members.Readable e.1 e.2) ∧ members.OnceIn entries ∧
      (strict → ∀ e ∈ entries, e.1 ∈ members.keys)
  | _, .extended _ base members _ _, d => ∀ entries, d = .object entries →
    (∀ e ∈ entries, base.Readable e.1 e.2 ∧ members.Readable e.1 e.2) ∧
      base.OnceIn entries ∧ members.OnceIn entries

/-- What is asked of a value under a key, where a member has it. -/
def Members.Readable : {σ τ : Type} → Members σ τ → String → Document → Prop
  | _, _, .nil, _, _ => True
  | _, _, .cons member form rest, key, d =>
    if key = member.key then form.Readable d else rest.Readable key d

end

/-! ## Definitions -/

mutual

/-- The definitions that the schema of a form refers to are among these, and no two members of a
record have the same key. -/
def Form.DefinedIn (definitions : List (String × Document)) : {α : Type} → Form α → Prop
  | _, .word title read write =>
    definitions.lookup title.name = (Form.word title read write).definition?.map (.object ·.2)
  | _, .choice title values name note =>
    definitions.lookup title.name =
      (Form.choice title values name note).definition?.map (.object ·.2)
  | _, .optional item => item.DefinedIn definitions
  | _, .list item => item.DefinedIn definitions
  | _, .record title strict members build parts =>
    definitions.lookup title.name =
      (Form.record title strict members build parts).definition?.map (.object ·.2) ∧
    members.keys.Nodup ∧ members.DefinedIn definitions
  | _, .extended title base members build parts =>
    definitions.lookup title.name =
      (Form.extended title base members build parts).definition?.map (.object ·.2) ∧
    (base.keys ++ members.keys).Nodup ∧ base.DefinedIn definitions ∧ members.DefinedIn definitions
  | _, _ => True

/-- The same for the forms of members. -/
def Members.DefinedIn (definitions : List (String × Document)) : {σ τ : Type} → Members σ τ → Prop
  | _, _, .nil => True
  | _, _, .cons _ form rest => form.DefinedIn definitions ∧ rest.DefinedIn definitions

end

/-! ## Agreement -/

/-- Valid documents of a form can be read if and only if they are readable. -/
def Form.Agrees (root : Document) {α : Type} (form : Form α) : Prop :=
  ∀ d, Schema.Admits root form.schema d → ∀ buffered,
    ((∃ a, form.read (ValueReader.format Document.shape buffered) d = .ok a) ↔ form.Readable d)

/-- Valid values of members can be read if and only if they are readable. -/
def Members.Agree (root : Document) {σ τ : Type} (members : Members σ τ) : Prop :=
  ∀ title strict buffered key d x, (members.inMemory title strict buffered).slot? key = some x →
    (∀ p ∈ members.properties, key = p.1 → Schema.Admits root p.2 d) →
    ((∃ f, x.read d = .ok f) ↔ members.Readable key d)

namespace Members

variable {σ τ : Type} {root : Document} {members : Members σ τ}
  {entries : List (String × Document)} {title : Title} {strict buffered : Bool}

/-- Nothing is asked of what no member takes. -/
theorem readable_of_notMem {key : String} {d : Document} : {σ τ : Type} →
    (members : Members σ τ) → key ∉ members.keys → members.Readable key d
  | _, _, .nil, _ => by simp [Readable]
  | _, _, .cons member form rest, h => by
    rw [keys, List.mem_cons, not_or] at h
    rw [Readable, if_neg h.1]
    exact readable_of_notMem rest h.2

theorem agree_nil (root : Document) : Members.nil.Agree root := by
  intro title strict buffered key d x hx
  cases hx

theorem agree_cons {α : Type} {member : Member α} {form : Form α} {rest : Members σ τ}
    (hform : form.Agrees root) (hrest : rest.Agree root) :
    (cons member form rest).Agree root := by
  intro title strict buffered key d x hx hvalid
  rw [Readable]
  split
  · rename_i hkey
    have hfirst : x = { key := member.key, isFilled := fun p => p.1.isSome
                        read := (fun a p => (some a, p.2)) <$>
                          form.read (ValueReader.format Document.shape buffered) } := by
      simpa [RecordReader.slot?, inMemory, reader, slots, hkey] using hx.symm
    have hd : Schema.Admits root form.schema d :=
      (hvalid _ (List.mem_cons_self ..) hkey).ofMember
    rw [hfirst, ← hform d hd buffered]
    exact exists_map_eq_ok_iff
  · rename_i hkey
    rw [slot?_cons_of_ne member form rest hkey] at hx
    obtain ⟨y, hy, rfl⟩ := Option.map_eq_some_iff.mp hx
    rw [← hrest title strict buffered key d y hy fun p hp => hvalid p (List.mem_cons_of_mem _ hp)]
    exact exists_map_eq_ok_iff

/-- Valid entries can be read into the slots of a record if and only if they are readable. -/
theorem Agree.fillNamed_ok_iff (h : members.Agree root) (hkeys : members.keys.Nodup)
    (hvalid : ∀ p ∈ members.properties, ∀ e ∈ entries, e.1 = p.1 → Schema.Admits root p.2 e.2) :
    (∃ s, fillNamed (members.inMemory title strict buffered) entries members.start = .ok s) ↔
      (∀ e ∈ entries, members.Readable e.1 e.2) ∧ members.OnceIn entries ∧
        (strict → ∀ e ∈ entries, e.1 ∈ members.keys) := by
  have hlawful : (members.inMemory title strict buffered).Lawful := lawful_inMemory members hkeys
  rw [hlawful.fillNamed_ok_iff, keys_inMemory]
  refine and_congr (forall₂_congr fun e he => ?_) Iff.rfl
  cases hslot : (members.inMemory title strict buffered).slot? e.1 with
  | none =>
    have hkey : e.1 ∉ members.keys := by
      rw [← isSome_slot?_iff, hslot]
      simp
    exact iff_of_true (fun x hx => nomatch hx) (readable_of_notMem members hkey)
  | some x =>
    rw [← h title strict buffered e.1 e.2 x hslot fun p hp => hvalid p hp e he]
    have hempty := hlawful.isFilled_start x (RecordReader.slot?_eq_some hslot).1
    constructor
    · intro hread
      exact (hread x rfl).2
    · rintro hread y hy
      cases hy
      exact ⟨hempty, hread⟩

end Members

/-! ## Forms without a definition -/

namespace Form

variable {α σ τ σ' τ' : Type} {root d : Document} {definitions : List (String × Document)}

theorem agrees_text (noun : String) : (text noun).Agrees root := by
  intro d hd buffered
  obtain ⟨s, rfl⟩ := Document.eq_text_of_mem_types (hd.type (List.mem_cons_self ..))
  simp only [Readable, iff_true]
  exact ⟨s, rfl⟩

theorem agrees_flag : flag.Agrees root := by
  intro d hd buffered
  obtain ⟨b, rfl⟩ := Document.eq_bool_of_mem_types (hd.type (List.mem_cons_self ..))
  simp only [Readable, iff_true]
  exact ⟨b, rfl⟩

theorem agrees_code : code.Agrees root := by
  intro d hd buffered
  rcases Document.eq_number_of_mem_types (hd.type (List.mem_cons_self ..)) with ⟨n, rfl⟩ | ⟨x, rfl⟩
  · refine iff_of_true ?_ fun x hx => nomatch hx
    have hleast : 0 ≤ n := hd.minimum (by simp)
    have hmost : n ≤ 65535 := hd.maximum (by simp)
    refine ⟨n.toNat.toUInt16, ?_⟩
    simp only [Form.read, ValueReader.format, Document.shape, codeOfInt]
    rw [if_pos ⟨hleast, by omega⟩]
  · -- a number without a fraction that is written with one is no number for the reader
    refine iff_of_false ?_ fun h => h x rfl
    rintro ⟨n, hn⟩
    cases hn

theorem agrees_list {item : Form α} (h : item.Agrees root) : (list item).Agrees root := by
  intro d hd buffered
  obtain ⟨items, rfl⟩ := Document.eq_list_of_mem_types (hd.type (List.mem_cons_self ..))
  have hvalid : ∀ x ∈ items, Schema.Admits root item.schema x := hd.items (by simp)
  have hread : (list item).read (ValueReader.format Document.shape buffered) (.list items) =
      items.mapM (item.read (ValueReader.format Document.shape buffered)) := rfl
  rw [hread, exists_mapM_eq_ok_iff]
  constructor
  · rintro hall items' heq x hx
    cases heq
    exact (h x (hvalid x hx) buffered).mp (hall x hx)
  · intro hall x hx
    exact (h x (hvalid x hx) buffered).mpr (hall items rfl x hx)

theorem agrees_optional {item : Form α} (h : item.Agrees root) : (optional item).Agrees root := by
  intro d hd buffered
  by_cases hnull : d = .null
  · subst hnull
    exact iff_of_true ⟨none, rfl⟩ fun hne => absurd rfl hne
  have hvalid : Schema.Admits root item.schema d := hd.orNull.resolve_left hnull
  have hshape : d.shape ≠ .null := by
    cases d <;> simp_all [Document.shape]
  have hread : (optional item).read (ValueReader.format Document.shape buffered) d =
      some <$> item.read (ValueReader.format Document.shape buffered) d :=
    ValueReader.format_optional_of_ne_null hshape buffered _
  rw [hread, exists_map_eq_ok_iff, h d hvalid buffered, Readable]
  exact ⟨fun hd _ => hd, fun hd => hd hnull⟩

/-! ## Forms with a definition -/

/-- A valid choice is the name of one of the values. -/
theorem exists_eq_name_of_ofChoice {values : List α} {name note : α → String}
    {description : String}
    (h : Schema.Admits root
      (.object (Schema.ofChoice (values.map fun a => (name a, note a)) description)) d) :
    ∃ a ∈ values, d = .text (name a) := by
  unfold Schema.ofChoice at h
  split at h
  · obtain ⟨s, hs, rfl⟩ :=
      h.enum (List.mem_append_left _ (List.mem_cons_of_mem _ (List.mem_singleton_self _)))
    rw [List.map_map] at hs
    obtain ⟨a, ha, rfl⟩ := List.mem_map.mp hs
    exact ⟨a, ha, rfl⟩
  · obtain ⟨schema, hschema, hd⟩ := h.oneOf (List.mem_append_left _ (List.mem_singleton_self _))
    rw [List.map_map] at hschema
    obtain ⟨a, ha, rfl⟩ := List.mem_map.mp hschema
    exact ⟨a, ha, hd.const (by simp)⟩

section Definition

variable (hroot : root.find? "$defs" = some (.object definitions))
include hroot

theorem agrees_word {title : Title} {read : String → Except Problem α} {write : α → String}
    (hdef : (word title read write).DefinedIn definitions) :
    (word title read write).Agrees root := by
  intro d hd buffered
  rw [DefinedIn] at hdef
  have hvalid := hd.reference hroot hdef
  obtain ⟨s, rfl⟩ := Document.eq_text_of_mem_types (hvalid.type (List.mem_cons_self ..))
  have hread : (∃ a, (word title read write).read (ValueReader.format Document.shape buffered)
      (.text s) = .ok a) ↔ ∃ a, read s = .ok a := by
    simp only [Form.read, ValueReader.format, Document.shape, bind, ReaderT.bind, Except.bind]
    cases read s with
    | error p => simp [throw, throwThe, MonadExceptOf.throw]
    | ok a => simp [pure, ReaderT.pure, Except.pure]
  rw [hread, Readable]
  constructor
  · rintro ha s' heq
    cases heq
    exact ha
  · intro ha
    exact ha s rfl

theorem agrees_choice {title : Title} {values : List α} {name note : α → String}
    (hdef : (choice title values name note).DefinedIn definitions) :
    (choice title values name note).Agrees root := by
  intro d hd buffered
  rw [DefinedIn] at hdef
  have hvalid := hd.reference hroot hdef
  obtain ⟨a, ha, rfl⟩ := exists_eq_name_of_ofChoice hvalid
  refine iff_of_true ?_ trivial
  have hfound : (values.find? (name · = name a)).isSome := by
    rw [List.find?_isSome]
    exact ⟨a, ha, by simp⟩
  obtain ⟨b, hb⟩ := Option.isSome_iff_exists.mp hfound
  exact ⟨b, by simp only [Form.read, ValueReader.format, Document.shape, pickByName, hb]⟩

end Definition

/-! ## Records -/

/-- What a valid record is: an object whose members are valid, with those that must be given. -/
theorem exists_eq_object_of_ofRecord {properties : List (String × Document)}
    {required : List String} {description : String}
    (h : Schema.Admits root (.object (Schema.ofRecord properties required description)) d) :
    ∃ entries, d = .object entries ∧
      (∀ p ∈ properties, ∀ e ∈ entries, e.1 = p.1 → Schema.Admits root p.2 e.2) ∧
      ∀ name ∈ required, ∃ e ∈ entries, e.1 = name := by
  obtain ⟨entries, rfl⟩ := Document.eq_object_of_mem_types (h.type (List.mem_cons_self ..))
  refine ⟨entries, rfl, h.properties (by simp [Schema.ofRecord]), fun name hname => ?_⟩
  have hne : required.isEmpty = false := by
    cases required with
    | nil => cases hname
    | cons _ _ => rfl
  exact h.required (by simp [Schema.ofRecord, hne]) name hname

/-- **A valid record** can be read if and only if it is readable. -/
theorem record_ok_iff {title : Title} {strict : Bool} {members : Members σ τ} {build : τ → α}
    {parts : α → τ} (hkeys : members.keys.Nodup) (hmembers : members.Agree root)
    (h : Schema.Admits root (.object (Schema.ofRecord members.properties members.required
      title.description)) d) (buffered : Bool) :
    (∃ a, (record title strict members build parts).read
      (ValueReader.format Document.shape buffered) d = .ok a) ↔
      (record title strict members build parts).Readable d := by
  obtain ⟨entries, rfl, hvalid, hrequired⟩ := exists_eq_object_of_ofRecord h
  have hfill : (∃ s, fillNamed (members.inMemory title strict buffered) entries members.start =
      .ok s) ↔ _ := hmembers.fillNamed_ok_iff hkeys hvalid
  rw [read_record, exists_map_eq_ok_iff, Members.fillAll_keyed, Readable]
  constructor
  · rintro ⟨t, ht⟩ entries' heq
    cases heq
    obtain ⟨⟨s, others⟩, hs, -⟩ := exists_of_bind_eq_ok ht
    obtain ⟨s', hs', -⟩ := exists_of_map_eq_ok hs
    exact hfill.mp ⟨s', hs'⟩
  · intro hreadable
    obtain ⟨s, hs⟩ := hfill.mpr (hreadable entries rfl)
    rw [hs]
    exact Members.exists_finish_of_fillNamed hkeys hs hrequired _ 0

end Form

namespace Members

variable {σ τ σ' τ' : Type} {base : Members σ' τ'} {members : Members σ τ}
  {entries : List (String × Document)} (hapart : ∀ k ∈ base.keys, k ∉ members.keys)
include hapart

/-- Nothing that the base asks of entries is about those that the extension takes. -/
theorem readable_leftover_iff :
    (∀ e ∈ entries.filter (·.1 ∉ members.keys), base.Readable e.1 e.2) ↔
      ∀ e ∈ entries, base.Readable e.1 e.2 := by
  constructor
  · intro h e he
    by_cases hk : e.1 ∈ members.keys
    · exact readable_of_notMem base fun hb => hapart _ hb hk
    · exact h e (List.mem_filter.mpr ⟨he, by simpa using hk⟩)
  · intro h e he
    exact h e (List.mem_of_mem_filter he)

theorem onceIn_leftover_iff :
    base.OnceIn (entries.filter (·.1 ∉ members.keys)) ↔ base.OnceIn entries := by
  have hkeys : ((entries.filter (·.1 ∉ members.keys)).map (·.1)).filter (· ∈ base.keys) =
      (entries.map (·.1)).filter (· ∈ base.keys) := by
    rw [List.filter_map, List.filter_map, List.filter_filter]
    refine congrArg _ (List.filter_congr fun e he => ?_)
    have := hapart e.1
    simp only [Function.comp]
    grind
  rw [OnceIn, hkeys, OnceIn]

end Members

namespace Form

variable {α σ τ σ' τ' : Type} {root d : Document} {definitions : List (String × Document)}

/-- **A valid record that extends another** can be read if and only if it is readable. -/
theorem extended_ok_iff {title : Title} {base : Members σ' τ'} {members : Members σ τ}
    {build : τ' × τ → α} {parts : α → τ' × τ}
    (hkeys : (base.keys ++ members.keys).Nodup) (hbase : base.Agree root)
    (hmembers : members.Agree root)
    (h : Schema.Admits root (.object (Schema.ofRecord (base.properties ++ members.properties)
      (base.required ++ members.required) title.description)) d) (buffered : Bool) :
    (∃ a, (extended title base members build parts).read
      (ValueReader.format Document.shape buffered) d = .ok a) ↔
      (extended title base members build parts).Readable d := by
  obtain ⟨entries, rfl, hvalid, hrequired⟩ := exists_eq_object_of_ofRecord h
  obtain ⟨hbasekeys, hmemberkeys, hdisjoint⟩ := List.nodup_append.mp hkeys
  have hapart : ∀ k ∈ base.keys, k ∉ members.keys := fun k hk hk' => hdisjoint k hk k hk' rfl
  -- the extension reads all entries, and the base those that are left over
  have hown : (∃ s, fillNamed (members.inMemory title false buffered) entries members.start =
      .ok s) ↔ _ :=
    hmembers.fillNamed_ok_iff hmemberkeys fun p hp => hvalid p (List.mem_append_right _ hp)
  have hleft : (∃ s, fillNamed (base.inMemory title false true)
      (entries.filter (·.1 ∉ members.keys)) base.start = .ok s) ↔ _ :=
    hbase.fillNamed_ok_iff hbasekeys fun p hp e he =>
      hvalid p (List.mem_append_left _ hp) e (List.mem_of_mem_filter he)
  rw [Members.readable_leftover_iff hapart, Members.onceIn_leftover_iff hapart] at hleft
  rw [read_extended, exists_map_eq_ok_iff, Members.fillAll_keyed, Readable]
  constructor
  · rintro ⟨t, ht⟩ entries' heq
    cases heq
    obtain ⟨⟨s, others⟩, hfill, ht⟩ := exists_of_bind_eq_ok ht
    obtain ⟨s, hs, hothers⟩ := exists_of_map_eq_ok hfill
    cases hothers
    obtain ⟨t', -, ht⟩ := exists_of_bind_eq_ok ht
    obtain ⟨t', ht, -⟩ := exists_of_bind_eq_ok ht
    obtain ⟨s', hs', -⟩ := exists_of_bind_eq_ok ht
    rw [Members.keys_inMemory] at hs'
    obtain ⟨hread, honce, -⟩ := hown.mp ⟨s, hs⟩
    obtain ⟨hread', honce', -⟩ := hleft.mp ⟨s', hs'⟩
    exact ⟨fun e he => ⟨hread' e he, hread e he⟩, honce', honce⟩
  · intro hreadable
    obtain ⟨hread, hbaseOnce, hownOnce⟩ := hreadable entries rfl
    obtain ⟨s, hs⟩ := hown.mpr ⟨fun e he => (hread e he).2, hownOnce, fun h => nomatch h⟩
    obtain ⟨s', hs'⟩ := hleft.mpr ⟨fun e he => (hread e he).1, hbaseOnce, fun h => nomatch h⟩
    obtain ⟨t, ht⟩ := Members.exists_finish_of_fillNamed hmemberkeys hs
      (fun name hname => hrequired name (List.mem_append_right _ hname))
      (missingMember title members.keys.length .keyed) 0
    have hbaseRequired : ∀ name ∈ base.required,
        ∃ e ∈ entries.filter (·.1 ∉ members.keys), e.1 = name := by
      intro name hname
      obtain ⟨e, he, rfl⟩ := hrequired name (List.mem_append_left _ hname)
      have hk := hapart _ (Members.required_subset_keys base hname)
      exact ⟨e, List.mem_filter.mpr ⟨he, by simpa using hk⟩, rfl⟩
    obtain ⟨t', ht'⟩ := Members.exists_finish_of_fillNamed hbasekeys hs' hbaseRequired
      (missingMember title base.keys.length .keyed) 0
    refine ⟨(t', t), ?_⟩
    rw [hs, Members.keys_inMemory]
    change (members.finish _ 0 s).bind _ = _
    rw [ht]
    change ((fillNamed _ _ _).bind _).bind _ = _
    rw [hs']
    change (base.finish _ 0 s').bind _ = _
    rw [ht']
    rfl

end Form

/-! ## Every form -/

variable {root : Document} {definitions : List (String × Document)}

mutual

/-- **Valid documents can be read if and only if they are readable.** -/
theorem Form.agrees (hroot : root.find? "$defs" = some (.object definitions)) : {α : Type} →
    (form : Form α) → form.DefinedIn definitions → form.Agrees root
  | _, .text noun, _ => Form.agrees_text noun
  | _, .word _ _ _, hdef => Form.agrees_word hroot hdef
  | _, .flag, _ => Form.agrees_flag
  | _, .code, _ => Form.agrees_code
  | _, .choice _ _ _ _, hdef => Form.agrees_choice hroot hdef
  | _, .optional item, hdef => Form.agrees_optional (item.agrees hroot hdef)
  | _, .list item, hdef => Form.agrees_list (item.agrees hroot hdef)
  | _, .record _ _ members _ _, hdef => by
    obtain ⟨hlookup, hkeys, hmembers⟩ := hdef
    intro d hd
    exact Form.record_ok_iff hkeys (members.agree hroot hmembers) (hd.reference hroot hlookup)
  | _, .extended _ base members _ _, hdef => by
    obtain ⟨hlookup, hkeys, hbase, hmembers⟩ := hdef
    intro d hd
    exact Form.extended_ok_iff hkeys (base.agree hroot hbase) (members.agree hroot hmembers)
      (hd.reference hroot hlookup)

/-- The same for the members of a record. -/
theorem Members.agree (hroot : root.find? "$defs" = some (.object definitions)) : {σ τ : Type} →
    (members : Members σ τ) → members.DefinedIn definitions → members.Agree root
  | _, _, .nil, _ => Members.agree_nil root
  | _, _, .cons _ form rest, hdef =>
    Members.agree_cons (form.agrees hroot hdef.1) (rest.agree hroot hdef.2)

end

/-- **A valid document of a published record** can be read if and only if it is readable. -/
theorem Form.decode_ok_iff_of_publish {α σ τ : Type} {title : Title} {strict : Bool}
    {members : Members σ τ} {build : τ → α} {parts : α → τ} {d : Document}
    (hkeys : members.keys.Nodup) (hdef : members.DefinedIn (members.define []))
    (h : (record title strict members build parts).publish.IsValid d) :
    (∃ a, (record title strict members build parts).decode d = .ok a) ↔
      (record title strict members build parts).Readable d := by
  have hroot : (record title strict members build parts).publish.find? "$defs" =
      some (.object (members.define [])) := by
    simp only [publish, definition?, Schema.ofRecord, Document.textEntry, Document.find?]
    split_ifs <;> rfl
  have hvalid := h.of_subset (List.subset_append_left _ _)
  exact record_ok_iff hkeys (members.agree hroot hdef) hvalid false

/-! ## Specifications -/

/-- **A valid specification** can be read if and only if none of its types is blank, none of its
status codes is written with a fraction, and no member of any part is written twice. -/
theorem Service.decode_ok_iff_of_isValid {d : Document} (h : specificationSchema.IsValid d) :
    (∃ s, Service.form.decode d = .ok s) ↔ Service.form.Readable d := by
  refine Form.decode_ok_iff_of_publish (by decide) ?_ h
  repeat' apply And.intro
  all_goals trivial

/-- A specification with one object that has one field of this type. -/
def notesDocument (type : String) : Document :=
  .object [("name", .text "Notes"), ("version", .text "1.0"), ("enums", .list []),
    ("objects", .list [.object [("name", .text "Note"),
      ("fields", .list [.object [("name", .text "text"), ("type", .text type)]])]]),
    ("resources", .list [])]

/-- A valid specification that can be read, and so is readable. -/
theorem Service.notes_readable : specificationSchema.IsValid (notesDocument "String") ∧
    Service.form.Readable (notesDocument "String") := by
  have hvalid : specificationSchema.IsValid (notesDocument "String") := ⟨20, by decide +kernel⟩
  exact ⟨hvalid, (Service.decode_ok_iff_of_isValid hvalid).mp ⟨_, rfl⟩⟩

/-- A valid specification that cannot be read: its type is not empty, but blank. -/
theorem Service.blank_type_valid : specificationSchema.IsValid (notesDocument " ") ∧
    Service.form.decode (notesDocument " ") = .error (.blank "field type") :=
  ⟨⟨20, by decide +kernel⟩, rfl⟩

end ServiceSpec
