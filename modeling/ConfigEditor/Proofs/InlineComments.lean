import ConfigEditor.Proofs.Lines
import ConfigEditor.Token
set_option autoImplicit false

/-!
# Inline comments: where a value is cut

`statedValue` is the rule for a value in the words of the format.  A comment opens at every `;`
that stands directly behind a space, a tab, a carriage return or a line feed; the value is what
stands before the first comment, trimmed, and two quotes alone are no value at all.

`cleanValue` trims before it looks for comments.  White space at the end does not matter for that
(`trimEnd_beforeComment`), but white space in front does: what stands before the first character
that is kept is gone when that character is looked at.  So the rule is followed for the text
without its leading white space, and for the text itself in every case but one
(`cleanValue_eq_statedValue_iff`): where nothing but a comment is assigned, as in `k = ;c`, the
comment becomes the value.
-/

namespace ConfigEditor.Line

open Text

/-! ## The rule -/

/-- At a place of a text stands a `;`, and directly before it a blank. -/
def opensComment (raw : Text) (i : Nat) : Bool :=
  raw[i]? == some ';' && 0 < i && raw[i - 1]?.any isPlainBlank

/-- The first place where a comment opens, or the end of the text. -/
def commentStart (raw : Text) : Nat :=
  ((List.range raw.length).find? (opensComment raw)).getD raw.length

/-- The value of a text that stands behind an equals sign, by the rule. -/
def statedValue (raw : Text) : Text :=
  let value := trim (raw.take (commentStart raw))
  if isQuotedEmpty value then [] else value

/-- The first character that is no white space opens a comment. -/
def startsWithComment (raw : Text) : Bool := opensComment raw (raw.takeWhile isBlank).length

theorem opensComment_zero (raw : Text) : opensComment raw 0 = false := by
  simp [opensComment]

theorem opensComment_one (c d : Char) (s : Text) :
    opensComment (c :: d :: s) 1 = (d == ';' && isPlainBlank c) := by
  simp [opensComment]

/-- Only the character directly before counts. -/
theorem opensComment_add_two (c : Char) (s : Text) (i : Nat) :
    opensComment (c :: s) (i + 2) = opensComment s (i + 1) := by
  simp [opensComment]

theorem commentStart_eq {raw : Text} {n : Nat} (hle : n ≤ raw.length)
    (hbefore : ∀ i < n, opensComment raw i = false)
    (hopens : n = raw.length ∨ opensComment raw n = true) : commentStart raw = n := by
  unfold commentStart
  cases hfind : (List.range raw.length).find? (opensComment raw) with
  | none =>
      rcases hopens with hend | hopens
      · exact hend.symm
      · by_contra hne
        have hlt : n < raw.length := lt_of_le_of_ne hle fun e => hne (by simp [e])
        exact absurd hopens (List.find?_eq_none.mp hfind n (List.mem_range.mpr hlt))
  | some first =>
      obtain ⟨hfirst, i, hi, rfl, hearlier⟩ := List.find?_eq_some_iff_getElem.mp hfind
      simp only [List.length_range] at hi
      simp only [List.getElem_range] at hfirst hearlier ⊢
      rcases Nat.lt_trichotomy i n with hlt | rfl | hgt
      · rw [hbefore i hlt] at hfirst
        cases hfirst
      · rfl
      · rcases hopens with rfl | hopens
        · omega
        · have hnone := hearlier n hgt
          simp [hopens] at hnone

/-! ## The search for a comment -/

/-- The search stops at the first comment; `c` is the character before the text.  The induction is
on the text, and each character is the one before for the rest of it. -/
theorem opensComment_length_beforeComment (c : Char) (s : Text) :
    (∀ i < (beforeComment (isPlainBlank c) s).length, opensComment (c :: s) (i + 1) = false) ∧
      ((beforeComment (isPlainBlank c) s).length = s.length ∨
        opensComment (c :: s) ((beforeComment (isPlainBlank c) s).length + 1) = true) := by
  induction s generalizing c with
  | nil => simp [beforeComment]
  | cons d s ih =>
      obtain ⟨hbefore, hopens⟩ := ih d
      rw [beforeComment]
      split
      · rename_i hstop
        refine ⟨by simp, .inr ?_⟩
        rw [List.length_nil, opensComment_one, hstop]
      · rename_i hgoes
        rw [List.length_cons, List.length_cons]
        refine ⟨fun i hi => ?_, ?_⟩
        · cases i with
          | zero =>
              rw [opensComment_one]
              exact Bool.eq_false_iff.mpr hgoes
          | succ i =>
              rw [opensComment_add_two]
              exact hbefore i (Nat.lt_of_succ_lt_succ hi)
        · rw [opensComment_add_two]
          exact hopens.imp_left (congrArg (· + 1))

theorem beforeComment_false_cons (c : Char) (s : Text) :
    beforeComment false (c :: s) = c :: beforeComment (isPlainBlank c) s := by
  simp [beforeComment]

/-- The search finds the first comment of a text. -/
theorem take_commentStart (raw : Text) :
    raw.take (commentStart raw) = beforeComment false raw := by
  cases raw with
  | nil => rfl
  | cons c s =>
      obtain ⟨hbefore, hopens⟩ := opensComment_length_beforeComment c s
      have hprefix := beforeComment_isPrefix (isPlainBlank c) s
      have hstart : commentStart (c :: s) = (beforeComment (isPlainBlank c) s).length + 1 := by
        refine commentStart_eq (Nat.succ_le_succ hprefix.length_le) ?_ ?_
        · intro i hi
          cases i with
          | zero => exact opensComment_zero _
          | succ i => exact hbefore i (Nat.lt_of_succ_lt_succ hi)
        · exact hopens.imp_left (congrArg (· + 1))
      rw [hstart, List.take_succ_cons, beforeComment_false_cons,
        ← List.prefix_iff_eq_take.mp hprefix]

theorem statedValue_eq (raw : Text) :
    statedValue raw = if isQuotedEmpty (beforeComment false raw).trim then []
      else (beforeComment false raw).trim := by
  unfold statedValue
  rw [take_commentStart]

/-! ## White space around a value -/

/-- Another character that opens no comment goes to the end, unless the text was cut before. -/
theorem beforeComment_concat {c : Char} (hc : c ≠ ';') (afterBlank : Bool) (s : Text) :
    beforeComment afterBlank (s ++ [c]) = beforeComment afterBlank s ∨
      beforeComment afterBlank (s ++ [c]) = beforeComment afterBlank s ++ [c] := by
  induction s generalizing afterBlank with
  | nil => simp [beforeComment, hc]
  | cons d s ih =>
      rw [List.cons_append, beforeComment, beforeComment]
      split
      · exact .inl rfl
      · exact (ih (isPlainBlank d)).imp (congrArg (d :: ·)) (congrArg (d :: ·))

/-- White space at the end takes no part in the search for a comment. -/
theorem trimEnd_beforeComment (afterBlank : Bool) (s : Text) :
    trimEnd (beforeComment afterBlank (trimEnd s)) = trimEnd (beforeComment afterBlank s) := by
  refine apply_trimEnd (f := fun s => trimEnd (beforeComment afterBlank s)) ?_ s
  intro s c hblank
  have hc : c ≠ ';' := by
    rintro rfl
    cases hblank
  rcases beforeComment_concat hc afterBlank s with heq | heq
  · exact congrArg trimEnd heq
  · change trimEnd (beforeComment afterBlank (s ++ [c])) = _
    rw [heq]
    exact List.rdropWhile_concat_pos isBlank _ c hblank

/-- White space in front decides whether the first character that is kept opens a comment, and
takes no other part; `c` is the character before the text. -/
theorem trim_beforeComment_after (c : Char) (s : Text) :
    (beforeComment (isPlainBlank c) s).trim =
      if opensComment (c :: s) ((s.takeWhile isBlank).length + 1) then []
      else (beforeComment false s.trimStart).trim := by
  induction s generalizing c with
  | nil => simp [beforeComment, opensComment, trimStart]
  | cons d s ih =>
      cases hd : isBlank d with
      | true =>
          -- A blank is no `;`, and stands before the rest whatever stood before it.
          have hne : d ≠ ';' := by
            rintro rfl
            cases hd
          have hgoes : beforeComment (isPlainBlank c) (d :: s)
              = d :: beforeComment (isPlainBlank d) s := by
            simp [beforeComment, hne]
          rw [hgoes, trim_cons_of_blank hd, ih d, List.takeWhile_cons_of_pos hd, List.length_cons,
            opensComment_add_two, trimStart_cons_of_blank hd]
      | false =>
          have hstop : ¬ isBlank d = true := Bool.eq_false_iff.mp hd
          rw [List.takeWhile_cons_of_neg hstop, List.length_nil, Nat.zero_add, opensComment_one,
            trimStart_cons_of_not_blank hd, beforeComment_false_cons, beforeComment]
          split
          · rfl
          · rfl

theorem trim_beforeComment (raw : Text) :
    (beforeComment false raw).trim =
      if startsWithComment raw then [] else (beforeComment false raw.trimStart).trim := by
  unfold startsWithComment
  cases raw with
  | nil => rfl
  | cons c s =>
      cases hc : isBlank c with
      | true =>
          rw [beforeComment_false_cons, trim_cons_of_blank hc, trim_beforeComment_after,
            List.takeWhile_cons_of_pos hc, List.length_cons, trimStart_cons_of_blank hc]
      | false =>
          have hstop : ¬ isBlank c = true := Bool.eq_false_iff.mp hc
          rw [List.takeWhile_cons_of_neg hstop, List.length_nil, opensComment_zero,
            trimStart_cons_of_not_blank hc]
          rfl

/-- A comment that comes first is kept by a search that starts there. -/
theorem exists_trimStart_of_startsWithComment {raw : Text} (h : startsWithComment raw = true) :
    ∃ rest, raw.trimStart = ';' :: rest := by
  simp only [startsWithComment, opensComment, Bool.and_eq_true, beq_iff_eq] at h
  have hplace := h.1.1
  have hsplit : raw.takeWhile isBlank ++ raw.trimStart = raw := List.takeWhile_append_dropWhile
  generalize raw.takeWhile isBlank = blanks at hplace hsplit
  rw [← hsplit, List.getElem?_append_right (Nat.le_refl _), Nat.sub_self,
    ← List.head?_eq_getElem?] at hplace
  exact List.head?_eq_some_iff.mp hplace

/-! ## The value -/

/-- The value is the one that the rule gives for the text without its leading white space.  It is
the one that the rule gives for the text itself, unless the text starts with a comment. -/
theorem cleanValue_eq_statedValue_iff (raw : Text) :
    cleanValue raw = statedValue raw.trimStart ∧
      (cleanValue raw = statedValue raw ↔ startsWithComment raw = false) := by
  have hclean : cleanValue raw = statedValue raw.trimStart := by
    have hend : trimEnd (beforeComment false raw.trim)
        = trimEnd (beforeComment false raw.trimStart) :=
      trimEnd_beforeComment false raw.trimStart
    have htrim : bareValue raw = (beforeComment false raw.trimStart).trim := by
      rw [bareValue, ← trim_trimEnd, hend, trim_trimEnd]
    rw [statedValue_eq, cleanValue_eq, htrim]
  refine ⟨hclean, ?_⟩
  cases hstarts : startsWithComment raw with
  | false =>
      have htrim := trim_beforeComment raw
      rw [hstarts] at htrim
      simp only [hclean, statedValue_eq, htrim]
      simp
  | true =>
      -- By the rule nothing is left, but the value begins with the `;`.
      obtain ⟨rest, hrest⟩ := exists_trimStart_of_startsWithComment hstarts
      have hblank : isBlank ';' = false := rfl
      have hkept : (beforeComment false raw.trimStart).trim
          = ';' :: trimEnd (beforeComment (isPlainBlank ';') rest) := by
        rw [hrest, beforeComment_false_cons, trim, trimStart_cons_of_not_blank hblank,
          trimEnd_cons_of_not_blank hblank]
      have hcut : statedValue raw = [] := by
        rw [statedValue_eq, trim_beforeComment, hstarts]
        rfl
      rw [hcut, hclean, statedValue_eq, hkept]
      simp [isQuotedEmpty]

/-- Nothing but a comment is assigned, and the comment is the value. -/
theorem comment_taken_as_value :
    Token.classify 1 "k = ;c".toList
        = .entry 1 "k = ;c".toList "k".toList (some (cleanValue " ;c".toList)) ∧
      cleanValue " ;c".toList ≠ statedValue " ;c".toList := by
  decide +kernel

end ConfigEditor.Line
