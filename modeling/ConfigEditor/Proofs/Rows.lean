import ConfigEditor.Proofs.OrderedMap
set_option autoImplicit false

/-!
# Rows: an ordered map as a plain list

Rows are a list of keys, each with what it holds, and are changed by the ordinary operations on
lists.  The pairs of an ordered map are rows once each value is taken for the list that it stands
for (`Rows.ofPairs`).  Then to put a value is to update a row where it stands or to append one
(`Rows.ofPairs_put`), and to drop a key is to leave its row out (`Rows.ofPairs_drop`).
-/

namespace ConfigEditor

/-- A list of keys, each with what it holds. -/
abbrev Rows (α γ : Type) : Type := List (α × List γ)

namespace Rows

variable {α γ : Type} [DecidableEq α]

/-! ## Operations -/

/-- Changes what a key holds where it stands. -/
def modify (key : α) (f : List γ → List γ) (rows : Rows α γ) : Rows α γ :=
  rows.map fun row => if row.1 = key then (row.1, f row.2) else row

/-- Changes what a key holds where it stands.  A key that is missing is appended, as if it held
nothing before. -/
def upsert (key : α) (f : List γ → List γ) (rows : Rows α γ) : Rows α γ :=
  if key ∈ rows.map Prod.fst then modify key f rows else rows ++ [(key, f [])]

/-- Appends a key that holds nothing, if it is missing. -/
def ensure (key : α) (rows : Rows α γ) : Rows α γ :=
  if key ∈ rows.map Prod.fst then rows else rows ++ [(key, [])]

/-- All rows but those of a key. -/
def without (key : α) (rows : Rows α γ) : Rows α γ := rows.filter fun row => row.1 ≠ key

/-! ## What the operations leave -/

theorem modify_of_notMem {key : α} {rows : Rows α γ} (h : key ∉ rows.map Prod.fst)
    (f : List γ → List γ) : modify key f rows = rows := by
  have hrows : ∀ row ∈ rows, (if row.1 = key then (row.1, f row.2) else row) = row := by
    intro row hrow
    rw [if_neg]
    rintro rfl
    exact h (List.mem_map_of_mem hrow)
  unfold modify
  rw [List.map_congr_left hrows, List.map_id']

theorem without_of_notMem {key : α} {rows : Rows α γ} (h : key ∉ rows.map Prod.fst) :
    without key rows = rows := by
  unfold without
  rw [List.filter_eq_self]
  intro row hrow
  have hne : row.1 ≠ key := by
    rintro rfl
    exact h (List.mem_map_of_mem hrow)
  exact decide_eq_true hne

/-- The first of the rows, if no other has its key, is the one that an update changes. -/
theorem upsert_cons_self {key : α} {rows : Rows α γ} (h : key ∉ rows.map Prod.fst)
    (f : List γ → List γ) (held : List γ) :
    upsert key f ((key, held) :: rows) = (key, f held) :: rows := by
  have hmem : key ∈ ((key, held) :: rows).map Prod.fst := List.mem_cons_self
  unfold upsert
  rw [if_pos hmem, modify, List.map_cons, if_pos rfl]
  exact congrArg _ (modify_of_notMem h f)

theorem upsert_cons_of_ne {key : α} {row : α × List γ} (h : row.1 ≠ key)
    (f : List γ → List γ) (rows : Rows α γ) :
    upsert key f (row :: rows) = row :: upsert key f rows := by
  have hiff : key ∈ (row :: rows).map Prod.fst ↔ key ∈ rows.map Prod.fst := by
    rw [List.map_cons, List.mem_cons, or_iff_right h.symm]
  unfold upsert
  simp only [hiff]
  split
  · rw [modify, List.map_cons, if_neg h]
    rfl
  · rfl

theorem without_cons_self (key : α) (held : List γ) (rows : Rows α γ) :
    without key ((key, held) :: rows) = without key rows :=
  List.filter_cons_of_neg (by simp)

theorem without_cons_of_ne {key : α} {row : α × List γ} (h : row.1 ≠ key) (rows : Rows α γ) :
    without key (row :: rows) = row :: without key rows :=
  List.filter_cons_of_pos (by simpa using h)

/-- What a key holds does not matter to the rows of the others. -/
theorem without_modify (key : α) (f : List γ → List γ) (rows : Rows α γ) :
    without key (modify key f rows) = without key rows := by
  induction rows with
  | nil => rfl
  | cons row rows ih =>
      unfold modify at ih ⊢
      rw [List.map_cons]
      by_cases hkey : row.1 = key
      · subst hkey
        rw [if_pos rfl, without_cons_self, without_cons_self, ih]
      · rw [if_neg hkey, without_cons_of_ne hkey, without_cons_of_ne hkey, ih]

theorem without_upsert (key : α) (f : List γ → List γ) (rows : Rows α γ) :
    without key (upsert key f rows) = without key rows := by
  unfold upsert
  split
  · exact without_modify key f rows
  · unfold without
    simp

theorem without_ensure (key : α) (rows : Rows α γ) :
    without key (ensure key rows) = without key rows := by
  unfold ensure
  split
  · rfl
  · unfold without
    simp

theorem without_without (key : α) (rows : Rows α γ) :
    without key (without key rows) = without key rows := by
  unfold without
  rw [List.filter_filter]
  simp

/-! ## The pairs of an ordered map -/

variable {β : Type} (g : β → List γ)

/-- The rows that pairs stand for, where `g` says what a value holds. -/
def ofPairs (pairs : List (α × β)) : Rows α γ := pairs.map fun p => (p.1, g p.2)

omit [DecidableEq α] in
theorem ofPairs_cons (p : α × β) (pairs : List (α × β)) :
    ofPairs g (p :: pairs) = (p.1, g p.2) :: ofPairs g pairs := rfl

omit [DecidableEq α] in
theorem map_fst_ofPairs (pairs : List (α × β)) :
    (ofPairs g pairs).map Prod.fst = pairs.map Prod.fst := by
  unfold ofPairs
  rw [List.map_map]
  rfl

theorem lookup_ofPairs [BEq α] [LawfulBEq α] (key : α) (pairs : List (α × β)) :
    (ofPairs g pairs).lookup key = (OrderedMap.lookup key pairs).map g := by
  induction pairs with
  | nil => rfl
  | cons p rest ih =>
      unfold ofPairs at ih ⊢
      rw [List.map_cons, List.lookup_cons, OrderedMap.lookup, ih]
      by_cases hkey : p.1 = key
      · simp [hkey]
      · have hkey' : (key == p.1) = false := beq_eq_false_iff_ne.mpr fun e => hkey e.symm
        simp [hkey, hkey']

/-- A value put under a key is an update of the rows. -/
theorem ofPairs_put {key : α} {value : β} {f : List γ → List γ} {pairs : List (α × β)}
    (hnodup : (pairs.map Prod.fst).Nodup)
    (hvalue : g value = f ((OrderedMap.lookup key pairs).elim [] g)) :
    ofPairs g (OrderedMap.put key value pairs) = upsert key f (ofPairs g pairs) := by
  induction pairs with
  | nil =>
      change [(key, g value)] = [(key, f [])]
      rw [hvalue]
      rfl
  | cons p rest ih =>
      rw [List.map_cons, List.nodup_cons] at hnodup
      unfold OrderedMap.lookup at hvalue
      unfold OrderedMap.put
      by_cases hkey : p.1 = key
      · rw [if_pos hkey, Option.elim_some] at hvalue
        rw [if_pos hkey, ofPairs_cons, ofPairs_cons, hkey, hvalue, upsert_cons_self]
        rw [map_fst_ofPairs, ← hkey]
        exact hnodup.1
      · rw [if_neg hkey] at hvalue
        rw [if_neg hkey, ofPairs_cons, ofPairs_cons, upsert_cons_of_ne hkey,
          ih hnodup.2 hvalue]

/-- A key that is dropped leaves the rows of the others. -/
theorem ofPairs_drop (key : α) {pairs : List (α × β)}
    (hnodup : (pairs.map Prod.fst).Nodup) :
    ofPairs g (OrderedMap.drop key pairs) = without key (ofPairs g pairs) := by
  induction pairs with
  | nil => rfl
  | cons p rest ih =>
      rw [List.map_cons, List.nodup_cons] at hnodup
      unfold OrderedMap.drop
      rw [ofPairs_cons]
      by_cases hkey : p.1 = key
      · have hmissing : key ∉ (ofPairs g rest).map Prod.fst := by
          rw [map_fst_ofPairs, ← hkey]
          exact hnodup.1
        rw [if_pos hkey, hkey, without_cons_self, without_of_notMem hmissing]
      · rw [if_neg hkey, ofPairs_cons, ih hnodup.2, without_cons_of_ne hkey]

end Rows

end ConfigEditor
