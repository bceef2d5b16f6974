namespace ClassLayout

/-- A finite map as a list of pairs in the order in which the keys were first inserted. -/
structure Table (κ ν : Type) where
  pairs : List (κ × ν) := []
  deriving DecidableEq

namespace Table

variable {κ ν : Type} [DecidableEq κ]

def find (k : κ) : List (κ × ν) → Option ν
  | [] => none
  | (k', v) :: rest => if k' = k then some v else find k rest

def put (k : κ) (v : ν) : List (κ × ν) → List (κ × ν)
  | [] => [(k, v)]
  | (k', v') :: rest => if k' = k then (k, v) :: rest else (k', v') :: put k v rest

def get? (t : Table κ ν) (k : κ) : Option ν := find k t.pairs

def contains (t : Table κ ν) (k : κ) : Bool := (t.get? k).isSome

def insert (t : Table κ ν) (k : κ) (v : ν) : Table κ ν := ⟨put k v t.pairs⟩

def erase (t : Table κ ν) (k : κ) : Table κ ν := ⟨t.pairs.filter fun p => p.1 ≠ k⟩

def keys (t : Table κ ν) : List κ := t.pairs.map Prod.fst

def values (t : Table κ ν) : List ν := t.pairs.map Prod.snd

def size (t : Table κ ν) : Nat := t.pairs.length

theorem find_put (k k' : κ) (v : ν) (l : List (κ × ν)) :
    find k' (put k v l) = if k' = k then some v else find k' l := by
  induction l with
  | nil => grind [find, put]
  | cons p rest ih => grind [find, put]

theorem put_of_find {k : κ} {v : ν} {l : List (κ × ν)} (h : find k l = some v) :
    put k v l = l := by
  induction l with
  | nil => simp [find] at h
  | cons p rest ih => grind [find, put]

theorem find_isSome_iff (k : κ) (l : List (κ × ν)) :
    (find k l).isSome ↔ k ∈ l.map Prod.fst := by
  induction l with
  | nil => simp [find]
  | cons p rest ih => grind [find]

theorem mem_of_find {k : κ} {v : ν} {l : List (κ × ν)} (h : find k l = some v) : (k, v) ∈ l := by
  induction l with
  | nil => cases h
  | cons p rest ih => grind [find]

theorem find_filter_ne (k k' : κ) (l : List (κ × ν)) :
    find k' (l.filter fun p => p.1 ≠ k) = if k' = k then none else find k' l := by
  induction l with
  | nil => simp [find]
  | cons p rest ih => grind [find]

theorem put_of_find_eq_none {k : κ} {v : ν} {l : List (κ × ν)} (h : find k l = none) :
    put k v l = l ++ [(k, v)] := by
  induction l with
  | nil => rfl
  | cons p rest ih => grind [find, put]

theorem filter_ne_of_find_eq_none {k : κ} {l : List (κ × ν)} (h : find k l = none) :
    (l.filter fun p => p.1 ≠ k) = l := by
  induction l with
  | nil => rfl
  | cons p rest ih => grind [find]

theorem filter_ne_put {k k' : κ} (hne : k' ≠ k) (v : ν) (l : List (κ × ν)) :
    ((put k' v l).filter fun p => p.1 ≠ k) = put k' v (l.filter fun p => p.1 ≠ k) := by
  induction l with
  | nil => grind [put]
  | cons p rest ih => grind [put]

theorem map_fst_put (k : κ) (v : ν) (l : List (κ × ν)) :
    (put k v l).map Prod.fst =
      if (find k l).isSome then l.map Prod.fst else l.map Prod.fst ++ [k] := by
  induction l with
  | nil => simp [find, put]
  | cons p rest ih => grind [find, put]

@[simp] theorem get?_empty (k : κ) : (⟨[]⟩ : Table κ ν).get? k = none := rfl

theorem get?_insert (t : Table κ ν) (k k' : κ) (v : ν) :
    (t.insert k v).get? k' = if k' = k then some v else t.get? k' :=
  find_put k k' v t.pairs

theorem mem_values_of_get? {t : Table κ ν} {k : κ} {v : ν} (h : t.get? k = some v) :
    v ∈ t.values := List.mem_map_of_mem (mem_of_find h)

theorem insert_of_get? {t : Table κ ν} {k : κ} {v : ν} (h : t.get? k = some v) :
    t.insert k v = t := by
  cases t
  simp only [insert, Table.mk.injEq]
  exact put_of_find h

theorem get?_erase (t : Table κ ν) (k k' : κ) :
    (t.erase k).get? k' = if k' = k then none else t.get? k' :=
  find_filter_ne k k' t.pairs

theorem erase_insert_self {t : Table κ ν} {k : κ} (h : t.get? k = none) (v : ν) :
    (t.insert k v).erase k = t := by
  have hpairs : ((put k v t.pairs).filter fun p => p.1 ≠ k) = t.pairs := by
    rw [put_of_find_eq_none h, List.filter_append, filter_ne_of_find_eq_none h]
    simp
  exact congrArg Table.mk hpairs

theorem erase_insert_of_ne {k k' : κ} (hne : k' ≠ k) (t : Table κ ν) (v : ν) :
    (t.insert k' v).erase k = (t.erase k).insert k' v :=
  congrArg Table.mk (filter_ne_put hne v t.pairs)

theorem contains_iff_mem_keys (t : Table κ ν) (k : κ) : t.contains k ↔ k ∈ t.keys :=
  find_isSome_iff k t.pairs

theorem keys_insert (t : Table κ ν) (k : κ) (v : ν) :
    (t.insert k v).keys = if t.contains k then t.keys else t.keys ++ [k] :=
  map_fst_put k v t.pairs

end Table

end ClassLayout
