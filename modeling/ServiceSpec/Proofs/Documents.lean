import ServiceSpec.Document
import Mathlib.Data.List.Induction
import Mathlib.Data.List.Nodup

/-!
# Entries of documents

An object of a document is built entry by entry.  An entry for a key that is there already replaces
its value and keeps its place, so no key occurs twice, each key stands where it came first, and what
stands under it is what came last.  Nothing is replaced if and only if the keys are distinct.

## Main definitions

* `Document.entries`, `Document.items`, `Document.text?`: what an object, a list or a text holds
* `Document.at?`, `Document.textAt?`: what stands under a path of keys, and the text under one key

## Main results

* `lookup_ofEntries`: what came last stands under a key
* `keys_ofEntries`: the keys, each where it came first
* `ofEntries_eq_self_iff`: entries are kept as they are if and only if their keys are distinct
-/

namespace ServiceSpec

/-! ## Keys and values -/

section Lookup

variable {α β : Type} [BEq α] [LawfulBEq α] [DecidableEq α]

theorem lookup_cons (k : α) (e : α × β) (es : List (α × β)) :
    (e :: es).lookup k = if k = e.1 then some e.2 else es.lookup k := by
  obtain ⟨key, value⟩ := e
  by_cases h : k = key
  · simp [h]
  · have hb : (k == key) = false := by simpa using h
    simp [List.lookup_cons, hb, h]

/-- Entries with distinct keys are found under their keys. -/
theorem lookup_eq_some_iff {es : List (α × β)} (h : (es.map (·.1)).Nodup) {k : α} {v : β} :
    es.lookup k = some v ↔ (k, v) ∈ es := by
  induction es with
  | nil => simp
  | cons e rest ih =>
    obtain ⟨key, value⟩ := e
    rw [List.map_cons, List.nodup_cons] at h
    rw [lookup_cons, List.mem_cons]
    by_cases hk : k = key
    · subst hk
      have hnot : (k, v) ∉ rest := fun hmem => h.1 (List.mem_map.mpr ⟨(k, v), hmem, rfl⟩)
      simp [hnot, eq_comm]
    · simp [hk, ih h.2]

end Lookup

namespace Document

variable {k k' : String} {v : Document} {es : List (String × Document)}

/-- The entries of an object.  Other documents have none. -/
def entries : Document → List (String × Document)
  | object entries => entries
  | _ => []

/-- The items of a list.  Other documents have none. -/
def items : Document → List Document
  | list items => items
  | _ => []

/-- The content of a text. -/
def text? : Document → Option String
  | text s => some s
  | _ => none

/-- The text under a key. -/
def textAt? (d : Document) (k : String) : Option String :=
  (d.find? k).bind text?

/-- What stands under a path of keys. -/
def at? (d : Document) (path : List String) : Option Document :=
  path.foldlM find? d

theorem at?_cons (d : Document) (k : String) (path : List String) :
    d.at? (k :: path) = (d.find? k).bind (·.at? path) := rfl

theorem at?_append (d : Document) (path rest : List String) :
    d.at? (path ++ rest) = (d.at? path).bind (·.at? rest) :=
  List.foldlM_append

theorem find?_eq_lookup (d : Document) (k : String) : d.find? k = d.entries.lookup k := by
  cases d <;> rfl

/-! ## One entry -/

theorem lookup_set (k k' : String) (v : Document) (es : List (String × Document)) :
    (set k v es).lookup k' = if k' = k then some v else es.lookup k' := by
  induction es with
  | nil => exact lookup_cons k' (k, v) []
  | cons e rest ih =>
    obtain ⟨key, value⟩ := e
    rw [set]
    by_cases hkey : key = k
    · subst hkey
      rw [if_pos rfl, lookup_cons, lookup_cons]
      split <;> rfl
    · rw [if_neg hkey, lookup_cons, lookup_cons, ih]
      by_cases h : k' = key
      · subst h
        rw [if_pos rfl, if_neg hkey, if_pos rfl]
      · rw [if_neg h, if_neg h]

/-- A key that is there keeps its place, and any other comes last. -/
theorem keys_set (k : String) (v : Document) (es : List (String × Document)) :
    (set k v es).map (·.1) = if k ∈ es.map (·.1) then es.map (·.1) else es.map (·.1) ++ [k] := by
  induction es with
  | nil => rfl
  | cons e rest ih =>
    obtain ⟨key, value⟩ := e
    rw [set]
    by_cases hkey : key = k
    · simp [hkey]
    · rw [if_neg hkey, List.map_cons, ih]
      by_cases hmem : k ∈ rest.map (·.1)
      · simp only [if_pos hmem, List.map_cons, if_pos (List.mem_cons_of_mem _ hmem)]
      · have hnot : k ∉ key :: rest.map (·.1) := by
          rw [List.mem_cons, not_or]
          exact ⟨Ne.symm hkey, hmem⟩
        simp only [if_neg hmem, List.map_cons, if_neg hnot, List.cons_append]

theorem nodup_keys_set (h : (es.map (·.1)).Nodup) : ((set k v es).map (·.1)).Nodup := by
  rw [keys_set]
  split
  · exact h
  · rename_i hk
    rw [List.nodup_append]
    refine ⟨h, List.nodup_singleton k, ?_⟩
    rintro a ha _ hb rfl
    exact hk (List.mem_singleton.mp hb ▸ ha)

theorem set_of_notMem (h : k ∉ es.map (·.1)) : set k v es = es ++ [(k, v)] := by
  induction es with
  | nil => rfl
  | cons e rest ih =>
    rw [List.map_cons, List.mem_cons, not_or] at h
    rw [set, if_neg (Ne.symm h.1), ih h.2]
    rfl

/-- Nothing but the entry itself is new. -/
theorem mem_of_mem_set {e : String × Document} (h : e ∈ set k v es) : e = (k, v) ∨ e ∈ es := by
  induction es with
  | nil => exact .inl (List.mem_singleton.mp h)
  | cons x rest ih =>
    obtain ⟨key, value⟩ := x
    rw [set] at h
    split at h
    · rcases List.mem_cons.mp h with rfl | h
      · exact .inl rfl
      · exact .inr (List.mem_cons_of_mem _ h)
    · rcases List.mem_cons.mp h with rfl | h
      · exact .inr (List.mem_cons_self ..)
      · exact (ih h).imp_right (List.mem_cons_of_mem _)

theorem lookup_ite (c : Prop) [Decidable c] (k key : String) (v : Document) :
    (if c then [(key, v)] else []).lookup k = if k = key ∧ c then some v else none := by
  by_cases hc : c
  · rw [if_pos hc, lookup_cons]
    simp [hc]
  · simp [hc]

theorem lookup_textEntry (k key value : String) :
    (textEntry key value).lookup k = if k = key ∧ value ≠ "" then some (text value) else none := by
  rw [textEntry, ← ite_not, lookup_ite]

/-! ## Many entries -/

theorem ofEntries_concat (es : List (String × Document)) (e : String × Document) :
    ofEntries (es ++ [e]) = set e.1 e.2 (ofEntries es) := by
  rw [ofEntries, List.foldl_append]
  rfl

/-- **What came last stands under a key.** -/
theorem lookup_ofEntries (es : List (String × Document)) (k : String) :
    (ofEntries es).lookup k = es.reverse.lookup k := by
  -- the last entry is set last, and comes first in the reverse
  induction es using List.reverseRecOn with
  | nil => rfl
  | append_singleton es e ih =>
    rw [ofEntries_concat, lookup_set, ih, List.reverse_append, List.reverse_singleton,
      List.singleton_append, lookup_cons]

/-- **The keys, each where it came first.** -/
theorem keys_ofEntries (es : List (String × Document)) :
    (ofEntries es).map (·.1) = (es.map (·.1)).eraseDups := by
  induction es using List.reverseRecOn with
  | nil => rfl
  | append_singleton es e ih =>
    rw [ofEntries_concat, keys_set, ih, List.map_append, List.eraseDups_append, List.map_singleton]
    by_cases h : e.1 ∈ es.map (·.1)
    · simp [h, List.removeAll]
    · simp [h, List.removeAll, List.eraseDups_cons]

theorem nodup_keys_ofEntries (es : List (String × Document)) :
    ((ofEntries es).map (·.1)).Nodup := by
  induction es using List.reverseRecOn with
  | nil => exact List.nodup_nil
  | append_singleton es e ih =>
    rw [ofEntries_concat]
    exact nodup_keys_set ih

theorem mem_of_mem_ofEntries {e : String × Document} (h : e ∈ ofEntries es) : e ∈ es := by
  induction es using List.reverseRecOn with
  | nil => exact h
  | append_singleton es x ih =>
    rw [ofEntries_concat] at h
    rcases mem_of_mem_set h with rfl | h
    · exact List.mem_append_right _ (List.mem_singleton_self _)
    · exact List.mem_append_left _ (ih h)

/-- **Entries are kept as they are if and only if their keys are distinct.** -/
theorem ofEntries_eq_self_iff : ofEntries es = es ↔ (es.map (·.1)).Nodup := by
  constructor
  · intro h
    rw [← h]
    exact nodup_keys_ofEntries es
  · intro h
    induction es using List.reverseRecOn with
    | nil => rfl
    | append_singleton es e ih =>
      rw [List.map_append, List.nodup_append] at h
      have hnew : e.1 ∉ es.map (·.1) := fun hmem =>
        h.2.2 e.1 hmem e.1 (List.mem_singleton_self _) rfl
      rw [ofEntries_concat, ih h.1, set_of_notMem hnew]

end Document

end ServiceSpec
