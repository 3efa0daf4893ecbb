set_option autoImplicit false

/-!
# Ordered maps

A finite map that remembers the order in which its keys arrived.  Inserting under a
present key replaces the value where it stands; inserting under a new key puts the
pair at the end; erasing closes the gap, so a key that comes back comes back last.

A map is its list of pairs with the proof that no key is there twice.  The view of a
map is `pairs`; `keys_insert`, `get?_insert`, `keys_erase` and `get?_erase` say what
the operations do to it.
-/

namespace ConfigEditor

/-- Pairs of a key and a value in order of arrival, each key once. -/
structure OrderedMap (α β : Type) where
  pairs : List (α × β)
  nodup : (pairs.map Prod.fst).Nodup

namespace OrderedMap

variable {α β : Type}

theorem ext_pairs {m n : OrderedMap α β} (h : m.pairs = n.pairs) : m = n := by
  cases m
  cases n
  cases h
  rfl

instance [DecidableEq α] [DecidableEq β] : DecidableEq (OrderedMap α β) := fun m n =>
  if h : m.pairs = n.pairs then isTrue (ext_pairs h)
  else isFalse fun e => h (congrArg pairs e)

instance [Repr α] [Repr β] : Repr (OrderedMap α β) where
  reprPrec m := reprPrec m.pairs

/-- The map without keys. -/
def empty : OrderedMap α β := ⟨[], by simp⟩

instance : Inhabited (OrderedMap α β) := ⟨empty⟩

/-- The keys in order of arrival. -/
def keys (m : OrderedMap α β) : List α := m.pairs.map Prod.fst

/-- The values in order of arrival of their keys. -/
def values (m : OrderedMap α β) : List β := m.pairs.map Prod.snd

/-- Number of keys. -/
def size (m : OrderedMap α β) : Nat := m.pairs.length

@[simp] theorem pairs_empty : (empty : OrderedMap α β).pairs = [] := rfl

variable [DecidableEq α]

/-! ## On lists of pairs -/

/-- Value of the first pair with a given key. -/
def lookup (key : α) : List (α × β) → Option β
  | [] => none
  | (k, v) :: rest => if k = key then some v else lookup key rest

/-- Replaces the value of the first pair with the key, or appends the pair. -/
def put (key : α) (value : β) : List (α × β) → List (α × β)
  | [] => [(key, value)]
  | (k, v) :: rest => if k = key then (k, value) :: rest else (k, v) :: put key value rest

/-- Drops the first pair with the key. -/
def drop (key : α) : List (α × β) → List (α × β)
  | [] => []
  | (k, v) :: rest => if k = key then rest else (k, v) :: drop key rest

theorem map_fst_put (key : α) (value : β) (l : List (α × β)) :
    (put key value l).map Prod.fst
      = if key ∈ l.map Prod.fst then l.map Prod.fst else l.map Prod.fst ++ [key] := by
  induction l with
  | nil => simp [put]
  | cons p rest ih =>
    obtain ⟨k, v⟩ := p
    by_cases h : k = key
    · simp [put, h]
    · have h' : key ≠ k := fun e => h e.symm
      by_cases hm : key ∈ rest.map Prod.fst
      · have ih' := ih.trans (if_pos hm)
        have hc : key ∈ k :: rest.map Prod.fst := List.mem_cons_of_mem _ hm
        simp only [put, if_neg h, List.map_cons, ih', if_pos hc]
      · have ih' := ih.trans (if_neg hm)
        have hc : key ∉ k :: rest.map Prod.fst := by
          intro e
          rcases List.mem_cons.mp e with e | e
          · exact h' e
          · exact hm e
        simp only [put, if_neg h, List.map_cons, ih', if_neg hc, List.cons_append]

theorem map_fst_drop (key : α) (l : List (α × β)) :
    (drop key l).map Prod.fst = (l.map Prod.fst).erase key := by
  induction l with
  | nil => rfl
  | cons p rest ih =>
    obtain ⟨k, v⟩ := p
    by_cases h : k = key
    · simp [drop, h]
    · simp [drop, h, ih]

theorem lookup_put (key : α) (value : β) (other : α) (l : List (α × β)) :
    lookup other (put key value l) = if other = key then some value else lookup other l := by
  induction l with
  | nil =>
    by_cases h : other = key
    · simp [put, lookup, h]
    · have h' : key ≠ other := fun e => h e.symm
      simp [put, lookup, h, h']
  | cons p rest ih =>
    obtain ⟨k, v⟩ := p
    by_cases h : k = key
    · subst h
      by_cases ho : other = k
      · simp [put, lookup, ho]
      · have ho' : k ≠ other := fun e => ho e.symm
        simp [put, lookup, ho, ho']
    · by_cases ho : k = other
      · subst ho
        simp [put, lookup, h]
      · simp only [put, if_neg h, lookup, if_neg ho, ih]

theorem lookup_eq_none_iff (key : α) (l : List (α × β)) :
    lookup key l = none ↔ key ∉ l.map Prod.fst := by
  induction l with
  | nil => simp [lookup]
  | cons p rest ih =>
    obtain ⟨k, v⟩ := p
    by_cases h : k = key
    · simp [lookup, h]
    · have h' : key ≠ k := fun e => h e.symm
      simp only [lookup, if_neg h, ih, List.map_cons, List.mem_cons, h', false_or]

theorem lookup_drop (key : α) (other : α) {l : List (α × β)} (hl : (l.map Prod.fst).Nodup) :
    lookup other (drop key l) = if other = key then none else lookup other l := by
  induction l with
  | nil => simp [drop, lookup]
  | cons p rest ih =>
    obtain ⟨k, v⟩ := p
    rw [List.map_cons, List.nodup_cons] at hl
    by_cases h : k = key
    · subst h
      by_cases ho : other = k
      · subst ho
        simpa [drop] using (lookup_eq_none_iff other rest).mpr hl.1
      · have ho' : k ≠ other := fun e => ho e.symm
        simp [drop, lookup, ho, ho']
    · by_cases ho : k = other
      · subst ho
        simp [drop, lookup, h]
      · simp only [drop, if_neg h, lookup, if_neg ho, ih hl.2]

/-! ## On maps -/

/-- The value under a key. -/
def get? (m : OrderedMap α β) (key : α) : Option β := lookup key m.pairs

/-- The key is present. -/
def contains (m : OrderedMap α β) (key : α) : Bool := (m.get? key).isSome

/-- Puts a value under a key: in place if the key is present, at the end otherwise. -/
def insert (m : OrderedMap α β) (key : α) (value : β) : OrderedMap α β where
  pairs := put key value m.pairs
  nodup := by
    rw [map_fst_put]
    split
    · exact m.nodup
    · next h => exact List.nodup_append.mpr ⟨m.nodup, by simp, by
        intro a ha b hb
        rw [List.mem_singleton] at hb
        subst hb
        exact fun e => h (e ▸ ha)⟩

/-- Removes a key and its value. -/
def erase (m : OrderedMap α β) (key : α) : OrderedMap α β where
  pairs := drop key m.pairs
  nodup := by
    rw [map_fst_drop]
    exact m.nodup.erase key

theorem keys_insert (m : OrderedMap α β) (key : α) (value : β) :
    (m.insert key value).keys = if key ∈ m.keys then m.keys else m.keys ++ [key] :=
  map_fst_put key value m.pairs

theorem get?_insert (m : OrderedMap α β) (key : α) (value : β) (other : α) :
    (m.insert key value).get? other = if other = key then some value else m.get? other :=
  lookup_put key value other m.pairs

theorem get?_erase (m : OrderedMap α β) (key : α) (other : α) :
    (m.erase key).get? other = if other = key then none else m.get? other :=
  lookup_drop key other m.nodup

theorem get?_eq_none_iff (m : OrderedMap α β) (key : α) :
    m.get? key = none ↔ key ∉ m.keys :=
  lookup_eq_none_iff key m.pairs

theorem contains_iff (m : OrderedMap α β) (key : α) : m.contains key = true ↔ key ∈ m.keys := by
  have h := get?_eq_none_iff m key
  cases hg : m.get? key with
  | none => simp [contains, hg, h.mp hg]
  | some v =>
    rw [hg] at h
    simpa [contains, hg] using h

end OrderedMap

end ConfigEditor
