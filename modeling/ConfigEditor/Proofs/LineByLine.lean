import ConfigEditor.Proofs.LineGroups
set_option autoImplicit false

/-!
# Lines grouped from left to right

A line that opens an entry and goes on takes in the lines below it, up to the first that does not
go on; every other line is a group by itself.  `Line.groups` says this of the lines alone, each
judged by its own backslashes; the numbers of the groups are counted afterwards
(`LineGroup.numbered`).  What is joined step by step comes to the same
(`LineGroup.ofText_eq_numbered`), and so each group is one token (`Token.tokenize_line_by_line`).

A group is closed as soon as another one stands behind it (`Line.closed_of_groups_eq`): then it is a
group whatever stands there (`Line.groups_append`).  Only the last group may be left open, by the
end of the text.
-/

namespace ConfigEditor

namespace Line

/-! ## Groups of lines -/

/-- A line that takes in the next one: it opens an entry and ends in an odd run of backslashes. -/
def opensGroup (line : Text) : Bool := opensEntry line && continues line

/-- The lines up to and including the first that does not go on, or all of them. -/
def upToClosing : List Text → List Text
  | [] => []
  | line :: lines => if continues line then line :: upToClosing lines else [line]

/-- The lines below the first that does not go on. -/
def belowClosing : List Text → List Text
  | [] => []
  | line :: lines => if continues line then belowClosing lines else lines

section

variable {line : Text}

theorem upToClosing_of_continues (h : continues line = true) (lines : List Text) :
    upToClosing (line :: lines) = line :: upToClosing lines := if_pos h

theorem belowClosing_of_continues (h : continues line = true) (lines : List Text) :
    belowClosing (line :: lines) = belowClosing lines := if_pos h

theorem upToClosing_of_closes (h : continues line = false) (lines : List Text) :
    upToClosing (line :: lines) = [line] := if_neg (Bool.eq_false_iff.mp h)

theorem belowClosing_of_closes (h : continues line = false) (lines : List Text) :
    belowClosing (line :: lines) = lines := if_neg (Bool.eq_false_iff.mp h)

end

theorem upToClosing_append_belowClosing (lines : List Text) :
    upToClosing lines ++ belowClosing lines = lines := by
  induction lines with
  | nil => rfl
  | cons line lines ih =>
      cases hgoes : continues line with
      | true =>
          rw [upToClosing_of_continues hgoes, belowClosing_of_continues hgoes, List.cons_append, ih]
      | false =>
          rw [upToClosing_of_closes hgoes, belowClosing_of_closes hgoes, List.singleton_append]

theorem length_belowClosing_le (lines : List Text) :
    (belowClosing lines).length ≤ lines.length := by
  have hlength := congrArg List.length (upToClosing_append_belowClosing lines)
  rw [List.length_append] at hlength
  omega

/-- The groups of lines, from left to right. -/
def groups : List Text → List (List Text)
  | [] => []
  | line :: lines =>
    if opensGroup line then (line :: upToClosing lines) :: groups (belowClosing lines)
    else [line] :: groups lines
termination_by lines => lines.length
decreasing_by
  · exact Nat.lt_succ_of_le (length_belowClosing_le lines)
  · exact Nat.lt_succ_self lines.length

/-- The text of a group.  In a group that was opened, each line that ends in an odd run of
backslashes loses the last one. -/
def groupText (lines : List Text) : Text :=
  if opensGroup (lines.headD []) then lines.flatMap withoutJoint else lines.flatten

@[simp] theorem groups_nil : groups [] = [] := by rw [groups]

theorem groups_cons_of_opensGroup {line : Text} (h : opensGroup line = true)
    (lines : List Text) :
    groups (line :: lines) = (line :: upToClosing lines) :: groups (belowClosing lines) := by
  rw [groups, if_pos h]

theorem groups_cons_of_not_opensGroup {line : Text} (h : opensGroup line = false)
    (lines : List Text) : groups (line :: lines) = [line] :: groups lines := by
  rw [groups, if_neg (Bool.eq_false_iff.mp h)]

/-- The groups hold the lines in order, each once. -/
theorem flatten_groups (lines : List Text) : (groups lines).flatten = lines := by
  fun_induction groups lines with
  | case1 => rfl
  | case2 line lines h ih =>
      rw [List.flatten_cons, ih, List.cons_append, upToClosing_append_belowClosing]
  | case3 line lines h ih => rw [List.flatten_cons, ih, List.singleton_append]

theorem ne_nil_of_mem_groups {lines group : List Text} (h : group ∈ groups lines) :
    group ≠ [] := by
  fun_induction groups lines with
  | case1 => cases h
  | case2 line lines hopens ih =>
      rcases List.mem_cons.mp h with rfl | h
      · exact List.cons_ne_nil _ _
      · exact ih h
  | case3 line lines hopens ih =>
      rcases List.mem_cons.mp h with rfl | h
      · exact List.cons_ne_nil _ _
      · exact ih h

/-! ## Closed groups -/

/-- A group that takes in nothing more, whatever stands behind it. -/
def Closed (group : List Text) : Prop :=
  ∀ rest, groups (group ++ rest) = group :: groups rest

theorem closed_singleton {line : Text} (h : opensGroup line = false) : Closed [line] :=
  fun rest => groups_cons_of_not_opensGroup h rest

/-- What stands behind the first line that does not go on makes no difference to the lines before
it. -/
theorem closing_append {lines : List Text} (h : belowClosing lines ≠ []) (rest : List Text) :
    upToClosing (upToClosing lines ++ rest) = upToClosing lines ∧
      belowClosing (upToClosing lines ++ rest) = rest := by
  induction lines with
  | nil => exact absurd rfl h
  | cons line lines ih =>
      cases hgoes : continues line with
      | true =>
          rw [belowClosing_of_continues hgoes] at h
          obtain ⟨hupTo, hbelow⟩ := ih h
          rw [upToClosing_of_continues hgoes, List.cons_append, upToClosing_of_continues hgoes,
            belowClosing_of_continues hgoes, hupTo, hbelow]
          exact ⟨rfl, rfl⟩
      | false =>
          rw [upToClosing_of_closes hgoes, List.singleton_append, upToClosing_of_closes hgoes,
            belowClosing_of_closes hgoes]
          exact ⟨rfl, rfl⟩

/-- The first group is a beginning of the lines.  It is closed if another one follows. -/
theorem closed_of_groups_eq {lines group : List Text} {others : List (List Text)}
    (h : groups lines = group :: others) :
    (others ≠ [] → Closed group) ∧ groups others.flatten = others ∧
      group ++ others.flatten = lines := by
  cases lines with
  | nil =>
      rw [groups_nil] at h
      cases h
  | cons line lines =>
      cases hopens : opensGroup line with
      | true =>
          rw [groups_cons_of_opensGroup hopens] at h
          obtain ⟨rfl, rfl⟩ := List.cons.inj h
          rw [flatten_groups, List.cons_append, upToClosing_append_belowClosing]
          refine ⟨?_, rfl, rfl⟩
          intro hothers rest
          have hbelow : belowClosing lines ≠ [] := by
            intro hnil
            rw [hnil, groups_nil] at hothers
            exact hothers rfl
          obtain ⟨hupTo, hrest⟩ := closing_append hbelow rest
          rw [List.cons_append, groups_cons_of_opensGroup hopens, hupTo, hrest]
      | false =>
          rw [groups_cons_of_not_opensGroup hopens] at h
          obtain ⟨rfl, rfl⟩ := List.cons.inj h
          rw [flatten_groups, List.singleton_append]
          exact ⟨fun _ => closed_singleton hopens, rfl, rfl⟩

/-- Groups that another one follows are groups with any lines behind them. -/
theorem groups_append {lines : List Text} {front back : List (List Text)}
    (h : groups lines = front ++ back) (hback : back ≠ []) (rest : List Text) :
    groups (front.flatten ++ rest) = front ++ groups rest := by
  induction front generalizing lines with
  | nil => rfl
  | cons group front ih =>
      obtain ⟨hclosed, hothers, _⟩ := closed_of_groups_eq h
      have hgroup : Closed group := hclosed (List.append_ne_nil_of_right_ne_nil front hback)
      rw [List.flatten_cons, List.append_assoc, hgroup, ih hothers, List.cons_append]

/-- The last of several groups are the groups of their lines. -/
theorem groups_flatten_of_append {lines : List Text} {front back : List (List Text)}
    (h : groups lines = front ++ back) : groups back.flatten = back := by
  induction front generalizing lines with
  | nil =>
      rw [List.nil_append] at h
      rw [← h, flatten_groups]
  | cons group front ih => exact ih (closed_of_groups_eq h).2.1

end Line

/-! ## Numbers -/

namespace LineGroup

/-- Groups of lines with the numbers of their first lines, counted from `n` on. -/
def numbered (n : Nat) : List (List Text) → List LineGroup
  | [] => []
  | lines :: rest => ⟨n, lines⟩ :: numbered (n + lines.length) rest

theorem map_lines_numbered (n : Nat) (groups : List (List Text)) :
    (numbered n groups).map LineGroup.lines = groups := by
  induction groups generalizing n with
  | nil => rfl
  | cons lines rest ih => rw [numbered, List.map_cons, ih]

/-- A group that goes on takes in the lines up to the first that does not. -/
theorem split_some_eq (started : LineGroup) (next : Nat) (lines : List Text) :
    split (some started) next lines =
      ⟨started.first, started.lines ++ Line.upToClosing lines⟩ ::
        split none (next + (Line.upToClosing lines).length) (Line.belowClosing lines) := by
  induction lines generalizing started next with
  | nil =>
      rw [Line.upToClosing, List.append_nil]
      rfl
  | cons line lines ih =>
      rw [split_some_cons, Line.upToClosing, Line.belowClosing]
      split
      · rw [ih, push, List.append_assoc, List.singleton_append, List.length_cons, Nat.add_assoc,
          Nat.add_comm 1]
      · rfl

/-- Joining line by line makes the groups that are found from left to right. -/
theorem split_none_eq (next : Nat) (lines : List Text) :
    split none next lines = numbered next (Line.groups lines) := by
  fun_induction Line.groups lines generalizing next with
  | case1 => rfl
  | case2 line lines h ih =>
      rw [split_none_cons, ← Line.opensGroup, if_pos h, split_some_eq, ih, numbered,
        List.singleton_append, List.length_cons, Nat.add_assoc, Nat.add_comm 1]
  | case3 line lines h ih =>
      rw [split_none_cons, ← Line.opensGroup, if_neg h, ih, numbered, List.length_singleton]

theorem ofText_eq_numbered (text : Text) :
    ofText text = numbered 1 (Line.groups (Line.physicalLines text)) :=
  split_none_eq 1 (Line.physicalLines text)

theorem map_lines_ofText (text : Text) :
    (ofText text).map LineGroup.lines = Line.groups (Line.physicalLines text) := by
  rw [ofText_eq_numbered, map_lines_numbered]

/-- A group whose first line opens an entry and does not go on is a single line, which loses
nothing. -/
theorem IsFormed.text_eq_groupText {g : LineGroup} (h : g.IsFormed) :
    g.text = Line.groupText g.lines := by
  obtain ⟨head, rest, hlines⟩ := List.exists_cons_of_ne_nil h.ne_nil
  have hgoesOn := h.goesOn
  unfold text Line.groupText opening
  rw [hlines] at hgoesOn ⊢
  rw [List.headD_cons, Line.opensGroup]
  cases hopens : Line.opensEntry head with
  | false => rfl
  | true =>
      cases hgoes : Line.continues head with
      | true => rfl
      | false =>
          have hnone : rest = [] := by
            by_contra hsome
            have hmem : head ∈ (head :: rest).dropLast := by
              rw [List.dropLast_cons_of_ne_nil hsome]
              exact List.mem_cons_self
            rw [hgoesOn head hmem] at hgoes
            cases hgoes
          simp [hnone, Line.withoutJoint, hgoes]

end LineGroup

/-! ## Tokens -/

namespace Token

/-- Every line of a text is in exactly one group, and every group is one token: that of its text,
with the number of its first line. -/
theorem tokenize_line_by_line (text : Text) :
    tokenize text =
        (LineGroup.numbered 1 (Line.groups (Line.physicalLines text))).map
          (fun g => classify g.first (Line.groupText g.lines)) ∧
      (Line.groups (Line.physicalLines text)).flatten = Line.physicalLines text ∧
      (∀ group ∈ Line.groups (Line.physicalLines text), group ≠ []) ∧
      ((tokenize text).map line).head? = some 1 ∧
      ((tokenize text).map line).Pairwise (· < ·) := by
  refine ⟨?_, Line.flatten_groups _, fun group => Line.ne_nil_of_mem_groups, ?_,
    pairwise_line_tokenize text⟩
  · rw [tokenize_eq, LineGroup.ofText_eq_numbered]
    apply List.map_congr_left
    intro g hg
    rw [← LineGroup.ofText_eq_numbered] at hg
    rw [LineGroup.token, (LineGroup.isFormed_of_mem_ofText hg).text_eq_groupText]
  · rw [map_line_tokenize, LineGroup.ofText_eq_numbered]
    obtain ⟨group, others, hgroups⟩ := List.exists_cons_of_ne_nil
      (l := Line.groups (Line.physicalLines text)) (by
        intro hnil
        have hlines := Line.flatten_groups (Line.physicalLines text)
        rw [hnil] at hlines
        exact Line.physicalLines_ne_nil text hlines.symm)
    rw [hgroups]
    rfl

/-- A line of one backslash goes on, a line of two closes the group, and the end of the text leaves
the last group open. -/
example : tokenize "k=\\\n\\\n\\\\\nj\\".toList =
    [.entry 1 "k=\\\\".toList "k".toList (some "\\\\".toList),
      .entry 4 "j".toList "j".toList none] := by
  decide +kernel

end Token

end ConfigEditor
