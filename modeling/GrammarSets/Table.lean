/-!
# Finite tables that remember the order of their keys

A table is a list of entries with distinct keys. A new key goes to the end, and
changing the value of a known key leaves it in its place, so the keys stand in
the order in which they first appeared. The lemmas describe each operation by
what it does to `get?` and to `keys`.
-/
namespace GrammarSets

/-- A finite map whose keys stand in the order of their first appearance. -/
structure Table (κ β : Type) where
  entries : List (κ × β)
  distinct : (entries.map Prod.fst).Nodup

namespace Table

variable {κ β γ : Type}

instance [DecidableEq κ] [DecidableEq β] : DecidableEq (Table κ β) := fun s t =>
  match decEq s.entries t.entries with
  | isTrue h => isTrue (by cases s; cases t; cases h; rfl)
  | isFalse h => isFalse fun e => h (congrArg entries e)

instance : EmptyCollection (Table κ β) := ⟨⟨[], .nil⟩⟩

/-- The keys, oldest first. -/
def keys (t : Table κ β) : List κ := t.entries.map Prod.fst

/-- The same keys with other values. -/
def mapValues (t : Table κ β) (f : β → γ) : Table κ γ where
  entries := t.entries.map fun e => (e.1, f e.2)
  distinct := by simpa [Function.comp_def] using t.distinct

/-- Tables with the same entries in the same order are equal. -/
theorem ext {s t : Table κ β} (h : s.entries = t.entries) : s = t := by
  cases s
  cases t
  cases h
  rfl

@[simp] theorem keys_empty : (∅ : Table κ β).keys = [] := rfl

@[simp] theorem keys_mapValues (t : Table κ β) (f : β → γ) : (t.mapValues f).keys = t.keys := by
  simp [keys, mapValues, Function.comp_def]

variable [DecidableEq κ]

/-- The value of the first entry with a given key. -/
def find (k : κ) : List (κ × β) → Option β
  | [] => none
  | e :: es => if e.1 = k then some e.2 else find k es

/-- The value a key stands for, if it has one. -/
def get? (t : Table κ β) (k : κ) : Option β := find k t.entries

/-- Changes the first entry with a given key; without one, adds it at the end. -/
def change (k : κ) (f : Option β → β) : List (κ × β) → List (κ × β)
  | [] => [(k, f none)]
  | e :: es => if e.1 = k then (e.1, f (some e.2)) :: es else e :: change k f es

theorem map_fst_change (k : κ) (f : Option β → β) (es : List (κ × β)) :
    (change k f es).map Prod.fst =
      if k ∈ es.map Prod.fst then es.map Prod.fst else es.map Prod.fst ++ [k] := by
  induction es with
  | nil => simp [change]
  | cons e es ih =>
      by_cases h : e.1 = k
      · simp [change, h]
      · have h' : k ≠ e.1 := fun x => h x.symm
        simp only [change, h, if_false, List.map_cons, ih, List.mem_cons, h', false_or]
        split <;> simp

/-- Replaces the value of a key by one computed from the old value. -/
def update (t : Table κ β) (k : κ) (f : Option β → β) : Table κ β where
  entries := change k f t.entries
  distinct := by
    rw [map_fst_change]
    split
    · exact t.distinct
    · next h =>
        refine List.nodup_append.2 ⟨t.distinct, by simp, fun a ha b hb => ?_⟩
        rw [List.mem_singleton.1 hb]
        exact fun e => h (e ▸ ha)

/-- Gives a key a value, whatever it stood for before. -/
def insert (t : Table κ β) (k : κ) (v : β) : Table κ β := t.update k fun _ => v

@[simp] theorem get?_empty (k : κ) : (∅ : Table κ β).get? k = none := rfl

theorem find_map (k : κ) (f : β → γ) (es : List (κ × β)) :
    find k (es.map fun e => (e.1, f e.2)) = (find k es).map f := by
  induction es with
  | nil => rfl
  | cons e es ih =>
      simp only [List.map_cons, find, ih]
      split <;> rfl

@[simp] theorem get?_mapValues (t : Table κ β) (f : β → γ) (k : κ) :
    (t.mapValues f).get? k = (t.get? k).map f := find_map k f t.entries

theorem find_change (k : κ) (f : Option β → β) (es : List (κ × β)) (k' : κ) :
    find k' (change k f es) = if k' = k then some (f (find k es)) else find k' es := by
  induction es with
  | nil =>
      by_cases h : k' = k
      · simp [change, find, h]
      · have h' : k ≠ k' := fun x => h x.symm
        simp [change, find, h, h']
  | cons e es ih =>
      by_cases he : e.1 = k
      · by_cases h : k' = k
        · simp [change, find, he, h]
        · have h' : k ≠ k' := fun x => h x.symm
          simp [change, find, he, h, h']
      · by_cases h : k' = k
        · subst h
          simp [change, find, he, ih]
        · simp [change, find, he, h, ih]

theorem get?_update (t : Table κ β) (k : κ) (f : Option β → β) (k' : κ) :
    (t.update k f).get? k' = if k' = k then some (f (t.get? k)) else t.get? k' :=
  find_change k f t.entries k'

@[simp] theorem get?_update_self (t : Table κ β) (k : κ) (f : Option β → β) :
    (t.update k f).get? k = some (f (t.get? k)) := by
  simp [get?_update]

theorem get?_update_of_ne (t : Table κ β) {k k' : κ} (f : Option β → β) (h : k' ≠ k) :
    (t.update k f).get? k' = t.get? k' := by
  simp [get?_update, h]

theorem get?_insert (t : Table κ β) (k : κ) (v : β) (k' : κ) :
    (t.insert k v).get? k' = if k' = k then some v else t.get? k' := get?_update t k _ k'

theorem keys_update (t : Table κ β) (k : κ) (f : Option β → β) :
    (t.update k f).keys = if k ∈ t.keys then t.keys else t.keys ++ [k] :=
  map_fst_change k f t.entries

theorem change_of_not_mem {k : κ} {es : List (κ × β)} (h : k ∉ es.map Prod.fst)
    (f : Option β → β) : change k f es = es ++ [(k, f none)] := by
  induction es with
  | nil => rfl
  | cons e es ih =>
      rw [List.map_cons, List.mem_cons, not_or] at h
      rw [change, if_neg (fun he => h.1 he.symm), ih h.2, List.cons_append]

/-- A new key goes to the end. -/
theorem entries_update_of_not_mem {t : Table κ β} {k : κ} (h : k ∉ t.keys) (f : Option β → β) :
    (t.update k f).entries = t.entries ++ [(k, f none)] := change_of_not_mem h f

theorem change_eq_self {k : κ} {v : β} {f : Option β → β} {es : List (κ × β)}
    (h : find k es = some v) (hf : f (some v) = v) : change k f es = es := by
  induction es with
  | nil => simp [find] at h
  | cons e es ih =>
      rw [find] at h
      rw [change]
      split at h
      · next he =>
          cases h
          rw [if_pos he, hf]
      · next he => rw [if_neg he, ih h]

/-- Replacing a value by itself changes nothing. -/
theorem update_eq_self {t : Table κ β} {k : κ} {v : β} {f : Option β → β} (h : t.get? k = some v)
    (hf : f (some v) = v) : t.update k f = t := ext (change_eq_self h hf)

theorem mem_of_find {k : κ} {v : β} {es : List (κ × β)} (h : find k es = some v) :
    (k, v) ∈ es := by
  induction es with
  | nil => simp [find] at h
  | cons e es ih =>
      rw [find] at h
      split at h
      · next he =>
          cases h
          rw [← he]
          exact List.mem_cons_self
      · exact List.mem_cons_of_mem e (ih h)

theorem find_of_mem {k : κ} {v : β} {es : List (κ × β)} (hd : (es.map Prod.fst).Nodup)
    (h : (k, v) ∈ es) : find k es = some v := by
  induction es with
  | nil => simp at h
  | cons e es ih =>
      obtain ⟨hne, hd'⟩ := List.nodup_cons.1 hd
      rcases List.mem_cons.1 h with rfl | h
      · simp [find]
      · have hk : e.1 ≠ k := fun he => hne (he ▸ List.mem_map_of_mem (f := Prod.fst) h)
        simp [find, hk, ih hd' h]

/-- The entries of a table are the pairs that `get?` finds. -/
theorem mem_entries_iff (t : Table κ β) {k : κ} {v : β} :
    (k, v) ∈ t.entries ↔ t.get? k = some v :=
  ⟨find_of_mem t.distinct, mem_of_find⟩

theorem filterMap_find {k : κ} {es : List (κ × β)} (hd : (es.map Prod.fst).Nodup) :
    (es.filterMap fun e => if e.1 = k then some e.2 else none) = (find k es).toList := by
  induction es with
  | nil => rfl
  | cons e es ih =>
      obtain ⟨hne, hd'⟩ := List.nodup_cons.1 hd
      by_cases he : e.1 = k
      · have hnone : find k es = none := by
          refine Option.eq_none_iff_forall_not_mem.2 fun v hv => hne ?_
          rw [he]
          exact List.mem_map_of_mem (f := Prod.fst) (mem_of_find hv)
        simp [find, he, ih hd', hnone]
      · simp [find, he, ih hd']

/-- The entries of a key, of which there is one at most. -/
theorem filterMap_entries (t : Table κ β) (k : κ) :
    (t.entries.filterMap fun e => if e.1 = k then some e.2 else none) = (t.get? k).toList :=
  filterMap_find t.distinct

theorem mem_keys_iff (t : Table κ β) {k : κ} : k ∈ t.keys ↔ ∃ v, t.get? k = some v := by
  simp only [keys, List.mem_map, ← mem_entries_iff, Prod.exists]
  constructor
  · rintro ⟨a, b, h, rfl⟩
    exact ⟨b, h⟩
  · rintro ⟨v, h⟩
    exact ⟨k, v, h, rfl⟩

theorem mem_keys_of_get? {t : Table κ β} {k : κ} {v : β} (h : t.get? k = some v) : k ∈ t.keys :=
  t.mem_keys_iff.2 ⟨v, h⟩

theorem get?_eq_none_iff (t : Table κ β) {k : κ} : t.get? k = none ↔ k ∉ t.keys := by
  rw [mem_keys_iff]
  cases t.get? k <;> simp

end Table
end GrammarSets
