import ConfigEditor.OrderedMap
import Mathlib.Data.List.Perm.Basic
set_option autoImplicit false

/-!
# Ordered maps: pairs

What an insertion does to the list of pairs.  Under a new key it appends
(`pairs_insert_of_get?_eq_none`), and under the last key it replaces the last pair
(`pairs_insert_last`); so a map is rebuilt by inserting its pairs in order.  A value that is
replaced where it stands may be replaced before or after another insertion (`insert_comm`), and a
new pair that is erased again leaves no trace (`erase_insert`).  To replace a value where it stands
or to drop it is one operation on the list of pairs (`update`).  A list that is gathered from the
pairs grows by what one pair gains (`perm_flatMap_insert`).
-/

namespace ConfigEditor.OrderedMap

variable {α β γ : Type} [DecidableEq α]

/-! ## Members -/

theorem mem_put {key : α} {value : β} {p : α × β} {l : List (α × β)}
    (h : p ∈ put key value l) : p = (key, value) ∨ p ∈ l := by
  induction l with
  | nil => exact .inl (List.mem_singleton.mp h)
  | cons q rest ih =>
      unfold put at h
      split at h
      · rename_i hkey
        rcases List.mem_cons.mp h with rfl | h
        · exact .inl (by rw [hkey])
        · exact .inr (List.mem_cons_of_mem q h)
      · rcases List.mem_cons.mp h with rfl | h
        · exact .inr List.mem_cons_self
        · exact (ih h).imp id (List.mem_cons_of_mem q)

theorem mem_of_mem_drop {key : α} {p : α × β} {l : List (α × β)} (h : p ∈ drop key l) :
    p ∈ l := by
  induction l with
  | nil => exact h
  | cons q rest ih =>
      unfold drop at h
      split at h
      · exact List.mem_cons_of_mem q h
      · rcases List.mem_cons.mp h with rfl | h
        · exact List.mem_cons_self
        · exact List.mem_cons_of_mem q (ih h)

theorem mem_of_lookup {key : α} {value : β} {l : List (α × β)}
    (h : lookup key l = some value) : (key, value) ∈ l := by
  induction l with
  | nil => simp [lookup] at h
  | cons q rest ih =>
      unfold lookup at h
      split at h
      · rename_i hkey
        obtain rfl := Option.some.inj h
        rw [← hkey]
        exact List.mem_cons_self
      · exact List.mem_cons_of_mem q (ih h)

theorem mem_insert {m : OrderedMap α β} {key : α} {value : β} {p : α × β}
    (h : p ∈ (m.insert key value).pairs) : p = (key, value) ∨ p ∈ m.pairs :=
  mem_put h

theorem mem_of_mem_erase {m : OrderedMap α β} {key : α} {p : α × β}
    (h : p ∈ (m.erase key).pairs) : p ∈ m.pairs :=
  mem_of_mem_drop h

theorem mem_of_get? {m : OrderedMap α β} {key : α} {value : β} (h : m.get? key = some value) :
    (key, value) ∈ m.pairs :=
  mem_of_lookup h

theorem lookup_of_mem {key : α} {value : β} {l : List (α × β)} (hnodup : (l.map Prod.fst).Nodup)
    (h : (key, value) ∈ l) : lookup key l = some value := by
  induction l with
  | nil => cases h
  | cons q rest ih =>
      rw [List.map_cons, List.nodup_cons] at hnodup
      rcases List.mem_cons.mp h with rfl | hrest
      · rw [lookup, if_pos rfl]
      · have hq : q.1 ≠ key := by
          rintro rfl
          exact hnodup.1 (List.mem_map.mpr ⟨_, hrest, rfl⟩)
        rw [lookup, if_neg hq, ih hnodup.2 hrest]

/-- A pair is found by its key. -/
theorem get?_of_mem {m : OrderedMap α β} {key : α} {value : β} (h : (key, value) ∈ m.pairs) :
    m.get? key = some value :=
  lookup_of_mem m.nodup h

/-! ## Insertion at the end -/

theorem get?_eq_none_of_contains {m : OrderedMap α β} {key : α} (h : ¬ m.contains key = true) :
    m.get? key = none := by
  unfold contains at h
  rwa [Option.not_isSome_iff_eq_none] at h

theorem put_append {key : α} {value : β} {l : List (α × β)} (h : key ∉ l.map Prod.fst)
    (rest : List (α × β)) : put key value (l ++ rest) = l ++ put key value rest := by
  induction l with
  | nil => rfl
  | cons q l ih =>
      rw [List.map_cons, List.mem_cons, not_or] at h
      have hq : q.1 ≠ key := fun e => h.1 e.symm
      rw [List.cons_append, put, if_neg hq, ih h.2, List.cons_append]

theorem pairs_insert_of_get?_eq_none {m : OrderedMap α β} {key : α} (h : m.get? key = none)
    (value : β) : (m.insert key value).pairs = m.pairs ++ [(key, value)] := by
  have hkey : key ∉ m.pairs.map Prod.fst := (get?_eq_none_iff m key).mp h
  have happend : put key value (m.pairs ++ []) = m.pairs ++ put key value [] :=
    put_append hkey []
  simpa [insert, put] using happend

omit [DecidableEq α] in
/-- A key does not stand before its own pair. -/
theorem not_mem_before {m : OrderedMap α β} {l rest : List (α × β)} {key : α} {value : β}
    (h : m.pairs = l ++ (key, value) :: rest) : key ∉ l.map Prod.fst := by
  have hnodup := m.nodup
  rw [h, List.map_append, List.nodup_append] at hnodup
  intro hmem
  exact hnodup.2.2 key hmem key (by simp) rfl

theorem pairs_insert_last {m : OrderedMap α β} {l : List (α × β)} {key : α} {old : β}
    (h : m.pairs = l ++ [(key, old)]) (value : β) :
    (m.insert key value).pairs = l ++ [(key, value)] := by
  change put key value m.pairs = _
  rw [h, put_append (not_mem_before h)]
  simp [put]

theorem lookup_append {key : α} {l : List (α × β)} (h : key ∉ l.map Prod.fst)
    (rest : List (α × β)) : lookup key (l ++ rest) = lookup key rest := by
  induction l with
  | nil => rfl
  | cons q l ih =>
      rw [List.map_cons, List.mem_cons, not_or] at h
      have hq : q.1 ≠ key := fun e => h.1 e.symm
      rw [List.cons_append, lookup, if_neg hq, ih h.2]

theorem get?_last {m : OrderedMap α β} {l : List (α × β)} {key : α} {value : β}
    (h : m.pairs = l ++ [(key, value)]) : m.get? key = some value := by
  rw [get?, h, lookup_append (not_mem_before h)]
  simp [lookup]

/-! ## Order of insertions -/

theorem put_put (key : α) (first second : β) (l : List (α × β)) :
    put key second (put key first l) = put key second l := by
  induction l with
  | nil => simp [put]
  | cons q rest ih =>
      by_cases hkey : q.1 = key
      · simp [put, hkey]
      · simp only [put, if_neg hkey, ih]

/-- A value that is replaced where it stands may be replaced before or after another insertion. -/
theorem put_comm {key other : α} (hne : key ≠ other) {l : List (α × β)}
    (hkey : key ∈ l.map Prod.fst) (value new : β) :
    put other new (put key value l) = put key value (put other new l) := by
  induction l with
  | nil => cases hkey
  | cons q rest ih =>
      by_cases hfirst : q.1 = key
      · have hother : q.1 ≠ other := fun e => hne (hfirst.symm.trans e)
        simp only [put, if_pos hfirst, if_neg hother]
      · have hrest : key ∈ rest.map Prod.fst := by
          rcases List.mem_cons.mp hkey with e | hmem
          · exact absurd e.symm hfirst
          · exact hmem
        by_cases hother : q.1 = other
        · simp only [put, if_neg hfirst, if_pos hother]
        · simp only [put, if_neg hfirst, if_neg hother, ih hrest]

theorem insert_insert (m : OrderedMap α β) (key : α) (first second : β) :
    (m.insert key first).insert key second = m.insert key second :=
  ext_pairs (put_put key first second m.pairs)

theorem insert_comm {m : OrderedMap α β} {key other : α} (hne : key ≠ other)
    (hkey : key ∈ m.keys) (value new : β) :
    (m.insert key value).insert other new = (m.insert other new).insert key value :=
  ext_pairs (put_comm hne hkey value new)

theorem mem_keys_of_get? {m : OrderedMap α β} {key : α} {value : β}
    (h : m.get? key = some value) : key ∈ m.keys :=
  List.mem_map_of_mem (mem_of_get? h)

/-! ## Removal -/

theorem drop_put {key : α} {l : List (α × β)} (h : key ∉ l.map Prod.fst) (value : β) :
    drop key (put key value l) = l := by
  induction l with
  | nil => simp [put, drop]
  | cons q rest ih =>
      rw [List.map_cons, List.mem_cons, not_or] at h
      have hq : q.1 ≠ key := fun e => h.1 e.symm
      simp only [put, drop, if_neg hq, ih h.2]

/-- A new pair that is taken back leaves no trace. -/
theorem erase_insert {m : OrderedMap α β} {key : α} (h : m.get? key = none) (value : β) :
    (m.insert key value).erase key = m :=
  ext_pairs (drop_put ((get?_eq_none_iff m key).mp h) value)

theorem drop_of_notMem {key : α} {l : List (α × β)} (h : key ∉ l.map Prod.fst) :
    drop key l = l := by
  induction l with
  | nil => rfl
  | cons q rest ih =>
      rw [List.map_cons, List.mem_cons, not_or] at h
      have hq : q.1 ≠ key := fun e => h.1 e.symm
      rw [drop, if_neg hq, ih h.2]

theorem erase_of_get?_eq_none {m : OrderedMap α β} {key : α} (h : m.get? key = none) :
    m.erase key = m :=
  ext_pairs (drop_of_notMem ((get?_eq_none_iff m key).mp h))

/-- A removal changes nothing exactly if the key is missing. -/
theorem erase_eq_self_iff {m : OrderedMap α β} {key : α} :
    m.erase key = m ↔ m.contains key = false := by
  constructor
  · intro hsame
    unfold contains
    rw [← hsame, get?_erase, if_pos rfl]
    rfl
  · intro hmissing
    exact erase_of_get?_eq_none (get?_eq_none_of_contains (Bool.eq_false_iff.mp hmissing))

theorem put_of_lookup {key : α} {value : β} {l : List (α × β)}
    (h : lookup key l = some value) : put key value l = l := by
  induction l with
  | nil => simp [lookup] at h
  | cons q rest ih =>
      unfold lookup at h
      unfold put
      split at h
      · rename_i hkey
        obtain rfl := Option.some.inj h
        rw [if_pos hkey]
      · rename_i hkey
        rw [if_neg hkey, ih h]

/-- A value that is put back changes nothing. -/
theorem insert_of_get? {m : OrderedMap α β} {key : α} {value : β}
    (h : m.get? key = some value) : m.insert key value = m :=
  ext_pairs (put_of_lookup h)

/-! ## Updates -/

/-- The pairs with the value under a key replaced where it stands, or left out. -/
def updated (key : α) (f : β → Option β) (l : List (α × β)) : List (α × β) :=
  l.filterMap fun p => if p.1 = key then (f p.2).map (Prod.mk p.1) else some p

theorem updated_cons_of_ne {key : α} {p : α × β} (h : p.1 ≠ key) (f : β → Option β)
    (l : List (α × β)) : updated key f (p :: l) = p :: updated key f l := by
  simp [updated, h]

theorem updated_cons_self (key : α) (value : β) (f : β → Option β) (l : List (α × β)) :
    updated key f ((key, value) :: l) =
      ((f value).map (Prod.mk key)).toList ++ updated key f l := by
  cases hvalue : f value <;> simp [updated, hvalue]

theorem map_fst_updated_sublist (key : α) (f : β → Option β) (l : List (α × β)) :
    ((updated key f l).map Prod.fst).Sublist (l.map Prod.fst) := by
  induction l with
  | nil => exact List.Sublist.refl []
  | cons p rest ih =>
      obtain ⟨other, value⟩ := p
      by_cases hkey : other = key
      · subst hkey
        rw [updated_cons_self]
        cases f value with
        | none => exact ih.cons other
        | some new => exact ih.cons_cons other
      · rw [updated_cons_of_ne hkey]
        exact ih.cons_cons other

/-- Replaces the value under a key where it stands, or drops the key. -/
def update (m : OrderedMap α β) (key : α) (f : β → Option β) : OrderedMap α β where
  pairs := updated key f m.pairs
  nodup := m.nodup.sublist (map_fst_updated_sublist key f m.pairs)

theorem updated_of_notMem {key : α} {l : List (α × β)} (h : key ∉ l.map Prod.fst)
    (f : β → Option β) : updated key f l = l := by
  induction l with
  | nil => rfl
  | cons p rest ih =>
      rw [List.map_cons, List.mem_cons, not_or] at h
      rw [updated_cons_of_ne (fun e => h.1 e.symm), ih h.2]

theorem updated_of_lookup {key : α} {value : β} {l : List (α × β)}
    (hnodup : (l.map Prod.fst).Nodup) (h : lookup key l = some value) (f : β → Option β) :
    updated key f l = (f value).elim (drop key l) fun new => put key new l := by
  induction l with
  | nil => simp [lookup] at h
  | cons p rest ih =>
      obtain ⟨other, held⟩ := p
      rw [List.map_cons, List.nodup_cons] at hnodup
      unfold lookup at h
      by_cases hkey : other = key
      · subst hkey
        obtain rfl : held = value := by simpa using h
        rw [updated_cons_self, updated_of_notMem hnodup.1]
        cases f held <;> simp [drop, put]
      · rw [if_neg hkey] at h
        rw [updated_cons_of_ne hkey, ih hnodup.2 h]
        cases f value <;> simp [drop, put, hkey]

theorem update_of_get?_eq_none {m : OrderedMap α β} {key : α} (h : m.get? key = none)
    (f : β → Option β) : m.update key f = m :=
  ext_pairs (updated_of_notMem ((get?_eq_none_iff m key).mp h) f)

theorem update_of_get?_of_none {m : OrderedMap α β} {key : α} {value : β} {f : β → Option β}
    (h : m.get? key = some value) (hf : f value = none) : m.update key f = m.erase key :=
  ext_pairs ((updated_of_lookup m.nodup h f).trans (by rw [hf]; rfl))

theorem update_of_get?_of_some {m : OrderedMap α β} {key : α} {value new : β}
    {f : β → Option β} (h : m.get? key = some value) (hf : f value = some new) :
    m.update key f = m.insert key new :=
  ext_pairs ((updated_of_lookup m.nodup h f).trans (by rw [hf]; rfl))

theorem get?_update_self (m : OrderedMap α β) (key : α) (f : β → Option β) :
    (m.update key f).get? key = (m.get? key).bind f := by
  cases h : m.get? key with
  | none =>
      rw [update_of_get?_eq_none h, h]
      rfl
  | some value =>
      cases hf : f value with
      | none => rw [update_of_get?_of_none h hf, get?_erase, if_pos rfl, Option.bind_some, hf]
      | some new => rw [update_of_get?_of_some h hf, get?_insert, if_pos rfl, Option.bind_some, hf]

/-! ## Gathering -/

theorem perm_flatMap_put {f : α × β → List γ} {key : α} {old new : β} {extra : List γ}
    {l : List (α × β)} (h : lookup key l = some old)
    (hf : (f (key, new)).Perm (f (key, old) ++ extra)) :
    ((put key new l).flatMap f).Perm (l.flatMap f ++ extra) := by
  induction l with
  | nil => simp [lookup] at h
  | cons q rest ih =>
      unfold lookup at h
      unfold put
      split at h
      · rename_i hkey
        obtain rfl := Option.some.inj h
        rw [if_pos hkey, List.flatMap_cons, List.flatMap_cons, hkey]
        have hq : q = (key, q.2) := by rw [← hkey]
        rw [← hq] at hf
        refine (hf.append_right _).trans ?_
        rw [List.append_assoc, List.append_assoc]
        exact List.perm_append_comm.append_left (f q)
      · rename_i hkey
        rw [if_neg hkey, List.flatMap_cons, List.flatMap_cons, List.append_assoc]
        exact (ih h).append_left (f q)

/-- A list gathered from the pairs gains what the pair under the key gains. -/
theorem perm_flatMap_insert {m : OrderedMap α β} {f : α × β → List γ} {key : α} {old new : β}
    {extra : List γ} (h : m.get? key = some old)
    (hf : (f (key, new)).Perm (f (key, old) ++ extra)) :
    ((m.insert key new).pairs.flatMap f).Perm (m.pairs.flatMap f ++ extra) :=
  perm_flatMap_put h hf

end ConfigEditor.OrderedMap
