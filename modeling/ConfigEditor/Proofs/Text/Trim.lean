import ConfigEditor.Text.Blank
import Mathlib.Data.List.DropRight
set_option autoImplicit false

/-!
# Trimming

`trimStart` and `trimEnd` each change one end only, so they commute, and a text trimmed at
both ends is a fixed point of `trim` (`trim_trim`).  A prefix of a text that starts without
white space starts without white space again; this is how a value cut off at a comment stays
trimmed in front (`trimStart_of_isPrefix`).  A test that white space at the end does not change
gives the same answer before and after trimming (`apply_trimEnd`).

What trimming drops is a run of white space at either end (`exists_eq_trim_between`).  A reader that
goes up to a stop divides a text there (`takeWhile_append_stop`, `dropWhile_append_stop`).
-/

namespace ConfigEditor.Text

/-! ## At the front -/

theorem trimStart_cons_of_blank {c : Char} (h : isBlank c = true) (s : Text) :
    trimStart (c :: s) = trimStart s := by
  simp [trimStart, h]

theorem trimStart_cons_of_not_blank {c : Char} (h : isBlank c = false) (s : Text) :
    trimStart (c :: s) = c :: s := by
  simp [trimStart, h]

theorem trimStart_trimStart (s : Text) : trimStart (trimStart s) = trimStart s :=
  List.dropWhile_idempotent isBlank s

theorem head?_trimStart_append (s t : Text) :
    (trimStart (s ++ t)).head? = (trimStart s).head?.or (trimStart t).head? := by
  unfold trimStart
  rw [List.dropWhile_append]
  cases s.dropWhile isBlank <;> simp

/-- A text that starts without white space does so after any of it is cut off at the end. -/
theorem trimStart_of_isPrefix {s t : Text} (hs : trimStart s = s) (ht : t <+: s) :
    trimStart t = t := by
  cases t with
  | nil => rfl
  | cons c rest =>
      obtain ⟨tail, rfl⟩ := ht
      cases hc : isBlank c with
      | false => exact trimStart_cons_of_not_blank hc rest
      | true =>
          rw [List.cons_append, trimStart_cons_of_blank hc] at hs
          have hle : (trimStart (rest ++ tail)).length ≤ (rest ++ tail).length :=
            (List.dropWhile_sublist isBlank).length_le
          rw [hs, List.length_cons] at hle
          omega

/-! ## At the end -/

theorem trimEnd_isPrefix (s : Text) : trimEnd s <+: s := List.rdropWhile_prefix isBlank s

theorem trimEnd_trimEnd (s : Text) : trimEnd (trimEnd s) = trimEnd s :=
  List.rdropWhile_idempotent isBlank s

/-- What stands before the last character that is kept is kept. -/
theorem trimEnd_append {s t : Text} (ht : trimEnd t ≠ []) :
    trimEnd (s ++ t) = s ++ trimEnd t := by
  have hne : t.reverse.dropWhile isBlank ≠ [] := fun e => ht (by simp [trimEnd, e])
  simp [trimEnd, List.dropWhile_append, hne]

theorem trimEnd_cons_of_not_blank {c : Char} (h : isBlank c = false) (s : Text) :
    trimEnd (c :: s) = c :: trimEnd s := by
  by_cases hs : trimEnd s = []
  · have hall : s.reverse.dropWhile isBlank = [] := by simpa [trimEnd] using hs
    simp [trimEnd, List.dropWhile_append, hall, h]
  · exact trimEnd_append (s := [c]) hs

/-- A trimmed text that is not empty ends in a character that is not white space. -/
theorem isBlank_getLast_of_trimEnd {s : Text} {c : Char} (hs : trimEnd s = s)
    (hc : s.getLast? = some c) : isBlank c = false := by
  have hne : s ≠ [] := by rintro rfl; simp at hc
  have hlast : s.getLast hne = c := by
    rw [List.getLast?_eq_some_getLast hne] at hc
    exact Option.some.inj hc
  have hkept := List.rdropWhile_eq_self_iff.mp hs hne
  rw [hlast] at hkept
  simpa using hkept

/-- A text that ends in a character that is not white space is trimmed at the end. -/
theorem trimEnd_eq_self {s : Text} (h : ∀ c, s.getLast? = some c → isBlank c = false) :
    trimEnd s = s :=
  List.rdropWhile_eq_self_iff.mpr fun hne => by
    simpa using h (s.getLast hne) (List.getLast?_eq_some_getLast hne)

theorem trimEnd_eq_nil_iff (s : Text) : trimEnd s = [] ↔ ∀ c ∈ s, isBlank c = true :=
  List.rdropWhile_eq_nil_iff

/-- What white space at the end does not change, trimming the end does not change. -/
theorem apply_trimEnd {α : Type} {f : Text → α} (hf : ∀ s c, isBlank c = true → f (s ++ [c]) = f s)
    (s : Text) : f (trimEnd s) = f s := by
  induction s using List.reverseRecOn with
  | nil => rfl
  | append_singleton s c ih =>
      cases hc : isBlank c with
      | true =>
          have htrim : trimEnd (s ++ [c]) = trimEnd s := List.rdropWhile_concat_pos isBlank s c hc
          rw [htrim, ih, hf s c hc]
      | false =>
          have htrim : trimEnd (s ++ [c]) = s ++ [c] :=
            List.rdropWhile_concat_neg isBlank s c (Bool.eq_false_iff.mp hc)
          rw [htrim]

/-! ## At both ends -/

theorem trimStart_trimEnd (s : Text) : trimStart (trimEnd s) = trimEnd (trimStart s) := by
  induction s with
  | nil => rfl
  | cons c s ih =>
      cases hc : isBlank c with
      | false =>
          rw [trimEnd_cons_of_not_blank hc, trimStart_cons_of_not_blank hc,
            trimStart_cons_of_not_blank hc, trimEnd_cons_of_not_blank hc]
      | true =>
          rw [trimStart_cons_of_blank hc]
          by_cases hs : trimEnd s = []
          · have hall : s.reverse.dropWhile isBlank = [] := by simpa [trimEnd] using hs
            have hcons : trimEnd (c :: s) = [] := by
              simp [trimEnd, List.dropWhile_append, hall, hc]
            rw [hcons, ← ih, hs]
          · have hcons : trimEnd (c :: s) = c :: trimEnd s := trimEnd_append (s := [c]) hs
            rw [hcons, trimStart_cons_of_blank hc, ih]

theorem trim_trim (s : Text) : s.trim.trim = s.trim := by
  unfold trim
  rw [trimStart_trimEnd, trimStart_trimStart, trimEnd_trimEnd]

theorem trim_trimEnd (s : Text) : trim (trimEnd s) = trim s := by
  unfold trim
  rw [trimStart_trimEnd, trimEnd_trimEnd]

theorem trim_cons_of_blank {c : Char} (h : isBlank c = true) (s : Text) :
    trim (c :: s) = trim s := by
  unfold trim
  rw [trimStart_cons_of_blank h]

theorem trimStart_of_trim {s : Text} (h : s.trim = s) : trimStart s = s := by
  have hfront : trimStart s.trim = s.trim := by
    unfold trim
    rw [trimStart_trimEnd, trimStart_trimStart]
  rwa [h] at hfront

theorem trimEnd_of_trim {s : Text} (h : s.trim = s) : trimEnd s = s := by
  have hback : trimEnd s.trim = s.trim := trimEnd_trimEnd _
  rwa [h] at hback

/-- Trimming only leaves characters out. -/
theorem trim_subset (s : Text) : s.trim ⊆ s :=
  List.Subset.trans (trimEnd_isPrefix _).subset (List.dropWhile_sublist isBlank).subset

theorem length_trim_le (s : Text) : s.trim.length ≤ s.length :=
  (trimEnd_isPrefix _).length_le.trans (List.dropWhile_sublist isBlank).length_le

/-- A text that both ends leave alone is trimmed. -/
theorem trim_eq_self {s : Text} (hfront : trimStart s = s) (hback : trimEnd s = s) :
    s.trim = s := by
  unfold trim
  rw [hfront, hback]

/-! ## Runs of white space -/

/-- A run of white space, which may be empty. -/
def IsBlankRun (s : Text) : Prop := ∀ c ∈ s, isBlank c = true

theorem IsBlankRun.trimStart_append {w : Text} (h : IsBlankRun w) (s : Text) :
    trimStart (w ++ s) = trimStart s :=
  List.dropWhile_append_of_pos h

theorem IsBlankRun.trimEnd_append {w : Text} (h : IsBlankRun w) (s : Text) :
    trimEnd (s ++ w) = trimEnd s := by
  have hreverse : ∀ c ∈ w.reverse, isBlank c = true := fun c hc => h c (List.mem_reverse.mp hc)
  unfold trimEnd
  rw [List.reverse_append, List.dropWhile_append_of_pos hreverse]

/-- White space around a text is trimmed off. -/
theorem trim_between {front back : Text} (hfront : IsBlankRun front) (hback : IsBlankRun back)
    (s : Text) : trim (front ++ s ++ back) = trim s := by
  unfold trim
  rw [← trimStart_trimEnd, hback.trimEnd_append, trimStart_trimEnd, hfront.trimStart_append]

theorem exists_eq_append_trimStart (s : Text) : ∃ w, IsBlankRun w ∧ s = w ++ s.trimStart :=
  ⟨s.takeWhile isBlank, fun _ hc => List.mem_takeWhile_imp hc,
    List.takeWhile_append_dropWhile.symm⟩

theorem exists_eq_trimEnd_append (s : Text) : ∃ w, IsBlankRun w ∧ s = s.trimEnd ++ w := by
  obtain ⟨w, hw, hsplit⟩ := exists_eq_append_trimStart s.reverse
  refine ⟨w.reverse, fun c hc => hw c (List.mem_reverse.mp hc), ?_⟩
  have hback := congrArg List.reverse hsplit
  rwa [List.reverse_reverse, List.reverse_append] at hback

/-- What trimming drops is white space. -/
theorem exists_eq_trim_between (s : Text) :
    ∃ front back, IsBlankRun front ∧ IsBlankRun back ∧ s = front ++ s.trim ++ back := by
  obtain ⟨front, hfront, hstart⟩ := exists_eq_append_trimStart s
  obtain ⟨back, hback, hend⟩ := exists_eq_trimEnd_append s.trimStart
  refine ⟨front, back, hfront, hback, ?_⟩
  calc s = front ++ s.trimStart := hstart
    _ = front ++ (s.trim ++ back) := congrArg (front ++ ·) hend
    _ = front ++ s.trim ++ back := (List.append_assoc _ _ _).symm

/-! ## Up to a stop -/

section Stop

variable {p : Char → Bool} {front rest : Text}

theorem takeWhile_append_stop (hfront : ∀ c ∈ front, p c = true)
    (hstop : ∀ c, rest.head? = some c → p c = false) : (front ++ rest).takeWhile p = front := by
  rw [List.takeWhile_append_of_pos hfront]
  cases rest with
  | nil => simp
  | cons c rest => simp [hstop c rfl]

theorem dropWhile_append_stop (hfront : ∀ c ∈ front, p c = true)
    (hstop : ∀ c, rest.head? = some c → p c = false) : (front ++ rest).dropWhile p = rest := by
  rw [List.dropWhile_append_of_pos hfront]
  cases rest with
  | nil => rfl
  | cons c rest => simp [hstop c rfl]

/-- The text before the first of a character. -/
theorem takeWhile_ne_append {d : Char} (h : d ∉ front) (rest : Text) :
    (front ++ d :: rest).takeWhile (· != d) = front :=
  takeWhile_append_stop (by simpa using fun c hc => ne_of_mem_of_not_mem hc h) (by simp)

/-- The text from the first of a character on. -/
theorem dropWhile_ne_append {d : Char} (h : d ∉ front) (rest : Text) :
    (front ++ d :: rest).dropWhile (· != d) = d :: rest :=
  dropWhile_append_stop (by simpa using fun c hc => ne_of_mem_of_not_mem hc h) (by simp)

end Stop

/-! ## Indentation -/

theorem dropIndent_append (s t : Text) :
    (s ++ t).dropIndent = if s.dropIndent = [] then t.dropIndent else s.dropIndent ++ t := by
  unfold dropIndent
  rw [List.dropWhile_append]
  simp only [List.isEmpty_iff]

/-- Whatever is left of a line is left when its indentation is dropped. -/
theorem exists_not_blank_iff (text : Text) :
    (∃ c ∈ text, isBlank c = false) ↔ trimEnd text.dropIndent ≠ [] := by
  have hsplit : text.takeWhile isIndent ++ text.dropIndent = text := List.takeWhile_append_dropWhile
  rw [ne_eq, trimEnd_eq_nil_iff]
  push Not
  constructor
  · rintro ⟨c, hc, hblank⟩
    refine ⟨c, ?_, Bool.eq_false_iff.mp hblank⟩
    rw [← hsplit] at hc
    rcases List.mem_append.mp hc with hfront | hrest
    · have hindent : isIndent c = true := List.mem_takeWhile_imp hfront
      rw [isBlank_of_isPlainBlank (isPlainBlank_of_isIndent hindent)] at hblank
      cases hblank
    · exact hrest
  · rintro ⟨c, hc, hblank⟩
    exact ⟨c, (List.dropWhile_sublist isIndent).subset hc, Bool.eq_false_iff.mpr hblank⟩

end ConfigEditor.Text
