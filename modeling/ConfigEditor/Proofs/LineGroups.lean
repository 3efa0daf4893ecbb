import ConfigEditor.Proofs.Tokens
set_option autoImplicit false

/-!
# Line groups: which physical lines make a token

A `LineGroup` is the run of physical lines that are joined into one logical line.  The groups of
a text hold its lines in order, each once (`flatMap_lines_ofText`), and are numbered by their
first lines (`numberedFrom_ofText`); each yields one token (`Token.tokenize_eq`).

Whether a group goes on is decided line by line, each by its own backslashes.  The reader looks at
the joined text instead; it comes to the same, since what is joined so far never ends in an odd
run of backslashes (`Line.continues_append`, `join_eq`).
-/

namespace ConfigEditor

/-! ## Joints -/

namespace Line

/-- A line without the backslash that joins it to the next one. -/
def withoutJoint (line : Text) : Text := if continues line then line.dropLast else line

theorem continues_withoutJoint (line : Text) : continues (withoutJoint line) = false := by
  unfold withoutJoint
  split
  · rename_i hgoes
    exact continues_dropLast hgoes
  · rename_i hcloses
    exact Bool.eq_false_iff.mpr hcloses

theorem continues_append_backslash (s : Text) : continues (s ++ ['\\']) = !continues s := by
  unfold continues
  rw [trailingCount_append_backslash, Nat.add_mod]
  rcases Nat.mod_two_eq_zero_or_one (Text.trailingCount ['\\'] s) with h | h <;> simp [h]

/-- Behind a text that does not go on, a line goes on by its own backslashes. -/
theorem continues_append {s : Text} (h : continues s = false) (t : Text) :
    continues (s ++ t) = continues t := by
  induction t using List.reverseRecOn with
  | nil => rw [List.append_nil, h, continues_nil]
  | append_singleton t c ih =>
      by_cases hc : c = '\\'
      · subst hc
        rw [← List.append_assoc, continues_append_backslash, continues_append_backslash, ih]
      · rw [← List.append_assoc, continues_append_cons hc, continues_append_cons hc]

end Line

/-! ## Groups -/

/-- The physical lines that are joined into one logical line, and the number of the first. -/
structure LineGroup where
  first : Nat
  lines : List Text
  deriving DecidableEq, Repr, Inhabited

namespace LineGroup

/-- The first line of a group; no group of a text is without lines. -/
def opening (g : LineGroup) : Text := g.lines.headD []

/-- The text that the lines are joined into.  Only where the first line opens an entry do lines
lose the backslashes that join them. -/
def text (g : LineGroup) : Text :=
  if Line.opensEntry g.opening then g.lines.flatMap Line.withoutJoint else g.lines.flatten

/-- The logical line. -/
def joined (g : LineGroup) : LogicalLine := ⟨g.first, g.text⟩

/-- The token. -/
def token (g : LineGroup) : Token := Token.classify g.first g.text

/-- A group with another line. -/
def push (g : LineGroup) (line : Text) : LineGroup := ⟨g.first, g.lines ++ [line]⟩

/-- Groups of the lines from number `next` on, of which `open?` is a group that goes on. -/
def split (open? : Option LineGroup) (next : Nat) : List Text → List LineGroup
  | [] => open?.toList
  | line :: lines =>
    let current : LineGroup := match open? with
      | none => ⟨next, [line]⟩
      | some started => started.push line
    if (open?.isSome || Line.opensEntry line) && Line.continues line then
      split (some current) (next + 1) lines
    else current :: split none (next + 1) lines

/-- The groups of a text. -/
def ofText (text : Text) : List LineGroup := split none 1 (Line.physicalLines text)

theorem split_none_cons (next : Nat) (line : Text) (lines : List Text) :
    split none next (line :: lines) =
      if Line.opensEntry line && Line.continues line then
        split (some ⟨next, [line]⟩) (next + 1) lines
      else ⟨next, [line]⟩ :: split none (next + 1) lines := by
  simp [split]

theorem split_some_cons (started : LineGroup) (next : Nat) (line : Text) (lines : List Text) :
    split (some started) next (line :: lines) =
      if Line.continues line then split (some (started.push line)) (next + 1) lines
      else started.push line :: split none (next + 1) lines := by
  simp [split]

/-! ## What is open -/

/-- A group that goes on: it opens an entry, and every line of it goes on. -/
structure IsOpen (g : LineGroup) : Prop where
  ne_nil : g.lines ≠ []
  opens : Line.opensEntry g.opening = true
  goesOn : ∀ line ∈ g.lines, Line.continues line = true

theorem isOpen_singleton {line : Text} (h : (Line.opensEntry line && Line.continues line) = true)
    (next : Nat) : IsOpen ⟨next, [line]⟩ := by
  obtain ⟨hopens, hgoes⟩ := Bool.and_eq_true_iff.mp h
  refine ⟨List.cons_ne_nil _ _, hopens, ?_⟩
  intro other hother
  obtain rfl := List.mem_singleton.mp hother
  exact hgoes

theorem opening_push {g : LineGroup} (h : g.lines ≠ []) (line : Text) :
    (g.push line).opening = g.opening := by
  obtain ⟨head, rest, hlines⟩ := List.exists_cons_of_ne_nil h
  simp [opening, push, hlines]

theorem IsOpen.push {g : LineGroup} (h : g.IsOpen) {line : Text}
    (hline : Line.continues line = true) : (g.push line).IsOpen := by
  refine ⟨by simp [LineGroup.push], ?_, ?_⟩
  · rw [opening_push h.ne_nil]
    exact h.opens
  · intro other hother
    rcases List.mem_append.mp hother with hother | hother
    · exact h.goesOn other hother
    · obtain rfl := List.mem_singleton.mp hother
      exact hline

theorem text_push {g : LineGroup} (h : g.IsOpen) (line : Text) :
    (g.push line).text = g.text ++ Line.withoutJoint line := by
  unfold text
  rw [opening_push h.ne_nil, if_pos h.opens, if_pos h.opens, push, List.flatMap_append]
  simp

/-- What is joined so far does not end in an odd run of backslashes. -/
theorem IsOpen.continues_text {g : LineGroup} (h : g.IsOpen) :
    Line.continues g.text = false := by
  unfold text
  rw [if_pos h.opens]
  generalize g.lines = lines
  induction lines with
  | nil => rfl
  | cons line lines ih =>
      rw [List.flatMap_cons, Line.continues_append (Line.continues_withoutJoint line), ih]

/-! ## Joining is grouping -/

theorem joined_singleton {line : Text} (next : Nat)
    (h : (Line.opensEntry line && Line.continues line) = false) :
    joined ⟨next, [line]⟩ = ⟨next, line⟩ := by
  have htext : text ⟨next, [line]⟩ = line := by
    unfold text
    split
    · rename_i hopens
      have hopens' : Line.opensEntry line = true := hopens
      rw [hopens', Bool.true_and] at h
      simp [Line.withoutJoint, h]
    · simp
  rw [joined, htext]

/-- The logical lines are what the groups are joined into. -/
theorem join_eq (open? : Option LineGroup) (hopen : ∀ started ∈ open?, started.IsOpen)
    (next : Nat) (lines : List Text) :
    LogicalLine.join (open?.map joined) next lines = (split open? next lines).map joined := by
  induction lines generalizing open? next with
  | nil => cases open? <;> rfl
  | cons line lines ih =>
      cases open? with
      | none =>
          rw [Option.map_none, LogicalLine.join_none_cons, split_none_cons]
          cases hgoes : Line.opensEntry line && Line.continues line with
          | true =>
              have hsingle := isOpen_singleton hgoes next
              have hjoined : joined ⟨next, [line]⟩ = ⟨next, line.dropLast⟩ := by
                obtain ⟨hopens, hcontinues⟩ := Bool.and_eq_true_iff.mp hgoes
                simp [joined, text, opening, hopens, Line.withoutJoint, hcontinues]
              rw [if_pos rfl, if_pos rfl, ← hjoined]
              refine ih (some ⟨next, [line]⟩) ?_ (next + 1)
              rintro started ⟨⟩
              exact hsingle
          | false =>
              rw [if_neg Bool.false_ne_true, if_neg Bool.false_ne_true, List.map_cons,
                joined_singleton next hgoes]
              exact congrArg _ (ih none (by simp) (next + 1))
      | some started =>
          have hstarted := hopen started rfl
          rw [Option.map_some, LogicalLine.join_some_cons, split_some_cons]
          have hgoes : Line.continues (started.joined.text ++ line) = Line.continues line :=
            Line.continues_append hstarted.continues_text line
          rw [hgoes]
          cases hline : Line.continues line with
          | true =>
              have hne : line ≠ [] := by
                rintro rfl
                cases hline
              have hjoined : joined (started.push line)
                  = ⟨started.joined.line, (started.joined.text ++ line).dropLast⟩ := by
                rw [joined, text_push hstarted, Line.withoutJoint, if_pos hline,
                  List.dropLast_append_of_ne_nil hne]
                rfl
              rw [if_pos rfl, if_pos rfl, ← hjoined]
              refine ih (some (started.push line)) ?_ (next + 1)
              rintro other ⟨⟩
              exact hstarted.push hline
          | false =>
              have hjoined : joined (started.push line)
                  = ⟨started.joined.line, started.joined.text ++ line⟩ := by
                rw [joined, text_push hstarted, Line.withoutJoint, hline]
                rfl
              rw [if_neg Bool.false_ne_true, if_neg Bool.false_ne_true, List.map_cons, hjoined]
              exact congrArg _ (ih none (by simp) (next + 1))

theorem ofText_eq (text : Text) : LogicalLine.ofText text = (ofText text).map joined :=
  join_eq none (by simp) 1 (Line.physicalLines text)

/-! ## What a group is made of -/

/-- A group holds a line; if it holds several, the first opens an entry, and all but the last go
on. -/
structure IsFormed (g : LineGroup) : Prop where
  ne_nil : g.lines ≠ []
  opens : 2 ≤ g.lines.length → Line.opensEntry g.opening = true
  goesOn : ∀ line ∈ g.lines.dropLast, Line.continues line = true

theorem isFormed_singleton (next : Nat) (line : Text) : IsFormed ⟨next, [line]⟩ := by
  refine ⟨List.cons_ne_nil _ _, ?_, ?_⟩
  · intro hlength
    exact absurd hlength (by simp)
  · intro other hother
    cases hother

theorem IsOpen.isFormed {g : LineGroup} (h : g.IsOpen) : g.IsFormed :=
  ⟨h.ne_nil, fun _ => h.opens, fun line hline => h.goesOn line (List.dropLast_subset _ hline)⟩

theorem IsOpen.isFormed_push {g : LineGroup} (h : g.IsOpen) (line : Text) :
    (g.push line).IsFormed := by
  refine ⟨by simp [LineGroup.push], ?_, ?_⟩
  · intro _
    rw [opening_push h.ne_nil]
    exact h.opens
  · intro other hother
    rw [LineGroup.push, List.dropLast_concat] at hother
    exact h.goesOn other hother

/-- Every group of lines is formed. -/
theorem isFormed_of_mem_split {open? : Option LineGroup} {next : Nat} {lines : List Text}
    (hopen : ∀ started ∈ open?, started.IsOpen) :
    ∀ g ∈ split open? next lines, g.IsFormed := by
  induction lines generalizing open? next with
  | nil =>
      intro g hg
      exact (hopen g (Option.mem_toList.mp hg)).isFormed
  | cons line lines ih =>
      cases open? with
      | none =>
          rw [split_none_cons]
          split
          · rename_i hgoes
            apply ih
            rintro started ⟨⟩
            exact isOpen_singleton hgoes next
          · intro g hg
            rcases List.mem_cons.mp hg with rfl | hg
            · exact isFormed_singleton next line
            · exact ih (by simp) g hg
      | some started =>
          have hstarted := hopen started rfl
          rw [split_some_cons]
          split
          · rename_i hgoes
            apply ih
            rintro other ⟨⟩
            exact hstarted.push hgoes
          · intro g hg
            rcases List.mem_cons.mp hg with rfl | hg
            · exact hstarted.isFormed_push line
            · exact ih (by simp) g hg

theorem isFormed_of_mem_ofText {text : Text} {g : LineGroup} (h : g ∈ ofText text) :
    g.IsFormed :=
  isFormed_of_mem_split (by simp) g h

/-! ## The lines of all groups -/

theorem flatMap_lines_split (open? : Option LineGroup) (next : Nat) (lines : List Text) :
    (split open? next lines).flatMap LineGroup.lines
      = open?.elim [] LineGroup.lines ++ lines := by
  induction lines generalizing open? next with
  | nil => cases open? <;> simp [split]
  | cons line lines ih =>
      cases open? with
      | none =>
          rw [split_none_cons]
          split
          · rw [ih]
            rfl
          · rw [List.flatMap_cons, ih]
            rfl
      | some started =>
          rw [split_some_cons]
          split
          · rw [ih]
            simp [push]
          · rw [List.flatMap_cons, ih]
            simp [push]

/-- The groups of a text hold its lines in order, each once. -/
theorem flatMap_lines_ofText (text : Text) :
    (ofText text).flatMap LineGroup.lines = Line.physicalLines text :=
  flatMap_lines_split none 1 (Line.physicalLines text)

/-- Each group has the number of its first line, where the lines are counted from `n` on. -/
def NumberedFrom : Nat → List LineGroup → Prop
  | _, [] => True
  | n, g :: groups => g.first = n ∧ NumberedFrom (n + g.lines.length) groups

theorem numberedFrom_split (next : Nat) (lines : List Text) :
    NumberedFrom next (split none next lines) ∧
      ∀ started : LineGroup, started.first + started.lines.length = next →
        NumberedFrom started.first (split (some started) next lines) := by
  induction lines generalizing next with
  | nil => exact ⟨trivial, fun started _ => ⟨rfl, trivial⟩⟩
  | cons line lines ih =>
      obtain ⟨hnone, hsome⟩ := ih (next + 1)
      constructor
      · rw [split_none_cons]
        split
        · exact hsome ⟨next, [line]⟩ rfl
        · exact ⟨rfl, hnone⟩
      · intro started hnext
        have hlength : started.first + (started.push line).lines.length = next + 1 := by
          rw [push, List.length_append, List.length_singleton, ← hnext, Nat.add_assoc]
        rw [split_some_cons]
        split
        · exact hsome (started.push line) hlength
        · refine ⟨rfl, ?_⟩
          rw [hlength]
          exact hnone

theorem numberedFrom_ofText (text : Text) : NumberedFrom 1 (ofText text) :=
  (numberedFrom_split 1 (Line.physicalLines text)).1

/-- The first line of a group is among the lines. -/
theorem NumberedFrom.bounds {n : Nat} {groups : List LineGroup} (h : NumberedFrom n groups)
    (hformed : ∀ g ∈ groups, g.IsFormed) :
    ∀ g ∈ groups, n ≤ g.first ∧ g.first < n + (groups.flatMap LineGroup.lines).length := by
  induction groups generalizing n with
  | nil =>
      intro g hg
      cases hg
  | cons head groups ih =>
      have hpos : 0 < head.lines.length :=
        List.length_pos_iff.mpr (hformed head List.mem_cons_self).ne_nil
      have hrest := ih h.2 fun g hg => hformed g (List.mem_cons_of_mem head hg)
      intro g hg
      rw [List.flatMap_cons, List.length_append]
      rcases List.mem_cons.mp hg with rfl | hg
      · have hfirst := h.1
        omega
      · obtain ⟨hlow, hhigh⟩ := hrest g hg
        omega

/-- The numbers of the groups increase. -/
theorem NumberedFrom.pairwise {n : Nat} {groups : List LineGroup} (h : NumberedFrom n groups)
    (hformed : ∀ g ∈ groups, g.IsFormed) :
    (groups.map LineGroup.first).Pairwise (· < ·) := by
  induction groups generalizing n with
  | nil => exact .nil
  | cons head groups ih =>
      have hpos : 0 < head.lines.length :=
        List.length_pos_iff.mpr (hformed head List.mem_cons_self).ne_nil
      have hrest : ∀ g ∈ groups, g.IsFormed := fun g hg =>
        hformed g (List.mem_cons_of_mem head hg)
      refine .cons ?_ (ih h.2 hrest)
      intro number hnumber
      obtain ⟨g, hg, rfl⟩ := List.mem_map.mp hnumber
      have hlow := (h.2.bounds hrest g hg).1
      have hfirst := h.1
      omega

end LineGroup

namespace Token

theorem line_ofHeader (n : Nat) (text content : Text) : (ofHeader n text content).line = n := by
  unfold ofHeader
  split
  · rfl
  · split <;> rfl

theorem line_ofEntry (n : Nat) (text content : Text) : (ofEntry n text content).line = n := by
  unfold ofEntry
  split <;> rfl

theorem line_classify (n : Nat) (text : Text) : (classify n text).line = n := by
  unfold classify
  simp only
  split
  · rfl
  · split
    · rfl
    · split
      · exact line_ofHeader n text _
      · exact line_ofEntry n text _

/-- Each group is one token. -/
theorem tokenize_eq (text : Text) :
    tokenize text = (LineGroup.ofText text).map LineGroup.token := by
  unfold tokenize
  rw [LineGroup.ofText_eq, List.map_map]
  rfl

theorem map_line_tokenize (text : Text) :
    (tokenize text).map line = (LineGroup.ofText text).map LineGroup.first := by
  rw [tokenize_eq, List.map_map]
  exact List.map_congr_left fun g _ => line_classify g.first g.text

/-- The tokens of a text come in the order of their lines. -/
theorem pairwise_line_tokenize (text : Text) :
    ((tokenize text).map line).Pairwise (· < ·) := by
  rw [map_line_tokenize]
  exact (LineGroup.numberedFrom_ofText text).pairwise fun g hg =>
    LineGroup.isFormed_of_mem_ofText hg

/-- A token starts on a line of its text. -/
theorem line_bounds_of_mem_tokenize {text : Text} {token : Token} (h : token ∈ tokenize text) :
    1 ≤ token.line ∧ token.line ≤ (Line.physicalLines text).length := by
  rw [tokenize_eq] at h
  obtain ⟨g, hg, rfl⟩ := List.mem_map.mp h
  have hbounds := (LineGroup.numberedFrom_ofText text).bounds
    (fun other hother => LineGroup.isFormed_of_mem_ofText hother) g hg
  rw [LineGroup.flatMap_lines_ofText] at hbounds
  have hline : g.token.line = g.first := line_classify g.first g.text
  omega

end Token

end ConfigEditor
