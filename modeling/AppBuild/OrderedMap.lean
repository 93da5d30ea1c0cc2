/-
Maps that keep the order in which their keys came.

A map is the list of its entries, no two of which have one key.  A new key goes to the
end; a key that is there already keeps its place and takes the new value.  `keys_insert`
and `get?_insert` say so, and `get?_erase` and `get?_modify` that the other operations
reach the value of their key and no other.
-/
namespace AppBuild

/-- A map that keeps the order of its keys. -/
structure OrderedMap (κ ν : Type) where
  entries : List (κ × ν)
  distinct : (entries.map Prod.fst).Nodup

namespace OrderedMap

variable {κ ν : Type} [DecidableEq κ]

/-- The map without entries. -/
def empty : OrderedMap κ ν := ⟨[], by simp⟩

instance : Inhabited (OrderedMap κ ν) := ⟨empty⟩

/-- The keys in order. -/
def keys (m : OrderedMap κ ν) : List κ := m.entries.map Prod.fst

/-- The values in the order of their keys. -/
def values (m : OrderedMap κ ν) : List ν := m.entries.map Prod.snd

/-- The number of entries. -/
def size (m : OrderedMap κ ν) : Nat := m.entries.length

/-- The value under a key. -/
def get? (m : OrderedMap κ ν) (k : κ) : Option ν := m.entries.lookup k

/-- Is there a value under the key? -/
def contains (m : OrderedMap κ ν) (k : κ) : Bool := m.keys.contains k

/-- Entries with one more, or with one value replaced. -/
def insertEntries (k : κ) (v : ν) : List (κ × ν) → List (κ × ν)
  | [] => [(k, v)]
  | e :: es => if e.1 = k then (k, v) :: es else e :: insertEntries k v es

theorem map_fst_insertEntries (k : κ) (v : ν) (es : List (κ × ν)) :
    (insertEntries k v es).map Prod.fst =
      if k ∈ es.map Prod.fst then es.map Prod.fst else es.map Prod.fst ++ [k] := by
  induction es with
  | nil => simp [insertEntries]
  | cons e es ih =>
    by_cases h : e.1 = k
    · simp [insertEntries, h]
    · have hk : ¬ k = e.1 := fun hk => h hk.symm
      by_cases hm : k ∈ es.map Prod.fst <;>
        simp only [insertEntries, h, if_false, List.map_cons, ih, hm, if_true, List.mem_cons, hk,
          false_or, List.cons_append]

/-- Puts a value under a key. -/
def insert (m : OrderedMap κ ν) (k : κ) (v : ν) : OrderedMap κ ν :=
  ⟨insertEntries k v m.entries, by
    rw [map_fst_insertEntries]
    split
    · exact m.distinct
    · next h =>
      rw [List.nodup_append]
      exact ⟨m.distinct, by simp, fun a ha b hb => by
        rintro rfl
        simp only [List.mem_singleton] at hb
        exact h (hb ▸ ha)⟩⟩

/-- A new key goes to the end, a known one keeps its place. -/
theorem keys_insert (m : OrderedMap κ ν) (k : κ) (v : ν) :
    (m.insert k v).keys = if k ∈ m.keys then m.keys else m.keys ++ [k] :=
  map_fst_insertEntries k v m.entries

theorem lookup_insertEntries (k j : κ) (v : ν) (es : List (κ × ν)) :
    (insertEntries k v es).lookup j = if j = k then some v else es.lookup j := by
  induction es with
  | nil =>
    by_cases h : j = k
    · simp [insertEntries, h]
    · have : (j == k) = false := by simp [h]
      simp [insertEntries, List.lookup_cons, this, h]
  | cons e es ih =>
    obtain ⟨a, b⟩ := e
    by_cases ha : a = k
    · subst ha
      by_cases hj : j = a
      · subst hj; simp [insertEntries]
      · have : (j == a) = false := by simp [hj]
        simp [insertEntries, List.lookup_cons, this, hj]
    · by_cases hj : j = a
      · subst hj
        simp [insertEntries, ha]
      · have : (j == a) = false := by simp [hj]
        simp [insertEntries, ha, List.lookup_cons, this, ih]

/-- After an insertion the key has the new value and the others are as before. -/
theorem get?_insert (m : OrderedMap κ ν) (k j : κ) (v : ν) :
    (m.insert k v).get? j = if j = k then some v else m.get? j :=
  lookup_insertEntries k j v m.entries

theorem lookup_eq_none_iff_not_mem {k : κ} {es : List (κ × ν)} :
    es.lookup k = none ↔ k ∉ es.map Prod.fst := by
  rw [List.lookup_eq_none_iff, List.mem_map]
  constructor
  · rintro hall ⟨e, he, rfl⟩
    exact absurd (hall e he) (by simp)
  · intro hnot e he
    rw [bne_iff_ne]
    exact fun hsame => hnot ⟨e, he, hsame.symm⟩

/-- Takes the entry under a key away; the others keep their order. -/
def erase (m : OrderedMap κ ν) (k : κ) : OrderedMap κ ν :=
  ⟨m.entries.filter (fun e => e.1 ≠ k), (List.filter_sublist.map _).nodup m.distinct⟩

theorem lookup_filter_ne [BEq κ] [LawfulBEq κ] (k j : κ) (es : List (κ × ν)) :
    (es.filter fun e => e.1 ≠ k).lookup j = if j = k then none else es.lookup j := by
  induction es with
  | nil => simp
  | cons e es ih =>
    obtain ⟨a, b⟩ := e
    by_cases ha : a = k
    · subst ha
      rw [List.filter_cons_of_neg (by simp), ih]
      by_cases hj : j = a
      · simp [hj]
      · have : (j == a) = false := by simp [hj]
        simp [hj, List.lookup_cons, this]
    · rw [List.filter_cons_of_pos (by simpa using ha), List.lookup_cons, ih, List.lookup_cons]
      by_cases hj : j = a
      · subst hj; simp [ha]
      · have : (j == a) = false := by simp [hj]
        simp [this]

/-- After its removal the key has no value and the others are as before. -/
theorem get?_erase (m : OrderedMap κ ν) (k j : κ) :
    (m.erase k).get? j = if j = k then none else m.get? j :=
  lookup_filter_ne k j m.entries

theorem map_fst_map_at (k : κ) (f : ν → ν) (es : List (κ × ν)) :
    (es.map fun e => if e.1 = k then (e.1, f e.2) else e).map Prod.fst = es.map Prod.fst := by
  rw [List.map_map]
  apply List.map_congr_left
  intro e _
  by_cases h : e.1 = k <;> simp [h]

/-- Replaces the value under a key, if there is one. -/
def modify (m : OrderedMap κ ν) (k : κ) (f : ν → ν) : OrderedMap κ ν :=
  ⟨m.entries.map fun e => if e.1 = k then (e.1, f e.2) else e, by
    rw [map_fst_map_at]
    exact m.distinct⟩

/-- Replacing a value leaves the keys as they are. -/
theorem keys_modify (m : OrderedMap κ ν) (k : κ) (f : ν → ν) : (m.modify k f).keys = m.keys :=
  map_fst_map_at k f m.entries

theorem lookup_map_at (k j : κ) (f : ν → ν) (es : List (κ × ν)) :
    (es.map fun e => if e.1 = k then (e.1, f e.2) else e).lookup j =
      if j = k then (es.lookup j).map f else es.lookup j := by
  induction es with
  | nil => simp
  | cons e es ih =>
    obtain ⟨a, b⟩ := e
    by_cases hj : j = a
    · subst hj
      by_cases ha : j = k <;> simp [ha]
    · have : (j == a) = false := by simp [hj]
      by_cases ha : a = k <;> simp only [List.map_cons, ha, if_true, if_false, List.lookup_cons, ih]
      · simp only [ha ▸ this]
      · simp only [this]

/-- After a replacement the key has the new value, if it had one, and the others are as before. -/
theorem get?_modify (m : OrderedMap κ ν) (k j : κ) (f : ν → ν) :
    (m.modify k f).get? j = if j = k then (m.get? j).map f else m.get? j :=
  lookup_map_at k j f m.entries

/-- The map that a list of entries builds, put in one after the other. -/
def ofList (es : List (κ × ν)) : OrderedMap κ ν := es.foldl (fun m e => m.insert e.1 e.2) empty

end OrderedMap
end AppBuild
