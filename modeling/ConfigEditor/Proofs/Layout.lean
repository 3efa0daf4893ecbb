import ConfigEditor.Proofs.Concatenation
import ConfigEditor.Proofs.FoldedTokens
import ConfigEditor.Proofs.LineByLine
set_option autoImplicit false

/-!
# Layout: what makes no difference to a reader

Blank lines, comments, indentation and carriage returns before line feeds are layout.  A change of
layout (`LayoutChange`) leaves the groups of lines as they are, but for a group that says nothing or
for the indentation of a first line, and so every other token says what it said before
(`Line.saying?`).  What a reader makes of a text depends on nothing else
(`Document.ofText_congr`), so that the text is read as the same document as before, or again as
none (`Document.ofText_of_layoutChange`).
-/

namespace ConfigEditor

namespace Line

open Text

/-! ## Line breaks -/

/-- The text of lines, with a line feed between each two. -/
def unlines (lines : List Text) : Text := List.intercalate ['\n'] lines

theorem unlines_cons (line : Text) {lines : List Text} (h : lines ≠ []) :
    unlines (line :: lines) = line ++ '\n' :: unlines lines := by
  obtain ⟨second, rest, rfl⟩ := List.exists_cons_of_ne_nil h
  simp [unlines, List.intercalate]

/-- The line without the carriage return that it may end in. -/
def withoutReturn (line : Text) : Text :=
  if line.getLast? = some '\r' then line.dropLast else line

/-- A carriage return goes with the line feed behind it, and no other one does. -/
theorem physicalLines_append_return {line : Text} (hn : '\n' ∉ line) (rest : Text) :
    physicalLines (line ++ '\r' :: '\n' :: rest) = line :: physicalLines rest := by
  induction line with
  | nil => rw [List.nil_append, physicalLines]
  | cons c line ih =>
      rw [List.mem_cons, not_or] at hn
      refine physicalLines_cons (Ne.symm hn.1) ?_ (ih hn.2)
      intro _ hhead
      cases line with
      | nil => simp at hhead
      | cons d line =>
          obtain rfl : d = '\n' := by simpa using hhead
          exact hn.2 List.mem_cons_self

theorem physicalLines_append_line {line : Text} (hn : '\n' ∉ line) (rest : Text) :
    physicalLines (line ++ '\n' :: rest) = withoutReturn line :: physicalLines rest := by
  unfold withoutReturn
  split
  · rename_i hreturn
    have hline : line = line.dropLast ++ ['\r'] := by
      rw [List.dropLast_append_getLast? '\r' hreturn]
    have hfront : '\n' ∉ line.dropLast := fun hmem => hn (List.dropLast_subset _ hmem)
    have hwhole := physicalLines_append_return hfront rest
    rwa [List.append_cons, ← hline] at hwhole
  · rename_i hreturn
    exact physicalLines_append_newline hn hreturn rest

/-- Neither a line feed nor a carriage return is in the line. -/
def IsUnbroken (line : Text) : Prop := '\n' ∉ line ∧ '\r' ∉ line

theorem IsUnbroken.withoutReturn_eq {line : Text} (h : IsUnbroken line) :
    withoutReturn line = line := by
  have hlast : line.getLast? ≠ some '\r' := fun hreturn => h.2 (List.mem_of_getLast? hreturn)
  rw [withoutReturn, if_neg hlast]

theorem physicalLines_unlines_append {front back : List Text}
    (hfront : ∀ line ∈ front, IsUnbroken line) (hback : back ≠ []) :
    physicalLines (unlines (front ++ back)) = front ++ physicalLines (unlines back) := by
  induction front with
  | nil => rfl
  | cons line front ih =>
      have hline := hfront line List.mem_cons_self
      have hrest := ih fun other hother => hfront other (List.mem_cons_of_mem line hother)
      rw [List.cons_append, unlines_cons line (List.append_ne_nil_of_right_ne_nil front hback),
        physicalLines_append_line hline.1, hline.withoutReturn_eq, hrest, List.cons_append]

/-- Unbroken lines are the lines of their text. -/
theorem physicalLines_unlines {lines : List Text} (hne : lines ≠ [])
    (h : ∀ line ∈ lines, IsUnbroken line) : physicalLines (unlines lines) = lines := by
  obtain ⟨front, last, rfl⟩ : ∃ front last, lines = front ++ [last] :=
    ⟨lines.dropLast, lines.getLast hne, (List.dropLast_append_getLast hne).symm⟩
  have hlast : physicalLines (unlines [last]) = [last] := by
    have hsingle : unlines [last] = last := by simp [unlines, List.intercalate]
    rw [hsingle]
    exact physicalLines_of_not_mem (h last (by simp)).1
  rw [physicalLines_unlines_append (fun line hline => h line (List.mem_append_left _ hline))
    (List.cons_ne_nil last []), hlast]

theorem subset_of_mem_physicalLines {text line : Text} (h : line ∈ physicalLines text) :
    line ⊆ text := by
  fun_induction physicalLines text generalizing line with
  | case1 => simp_all
  | case2 rest ih =>
      rcases List.mem_cons.mp h with rfl | h
      · exact List.nil_subset _
      · exact List.subset_cons_of_subset _ (ih h)
  | case3 rest ih =>
      rcases List.mem_cons.mp h with rfl | h
      · exact List.nil_subset _
      · exact List.subset_cons_of_subset _ (List.subset_cons_of_subset _ (ih h))
  | case4 c rest hn hr hnil => exact absurd hnil (physicalLines_ne_nil rest)
  | case5 c rest hn hr first lines hlines ih =>
      rw [hlines] at ih
      rcases List.mem_cons.mp h with rfl | h
      · exact List.cons_subset_cons c (ih List.mem_cons_self)
      · exact List.subset_cons_of_subset c (ih (List.mem_cons_of_mem first h))

theorem isUnbroken_of_mem_physicalLines {text : Text} (h : '\r' ∉ text) :
    ∀ line ∈ physicalLines text, IsUnbroken line := fun line hline =>
  ⟨newline_not_mem_of_mem_physicalLines line hline,
    fun hmem => h (subset_of_mem_physicalLines hline hmem)⟩

/-- Some line feeds of the first text have a carriage return before them in the second. -/
inductive AddsReturns : Text → Text → Prop
  | nil : AddsReturns [] []
  | cons (c : Char) {s t : Text} (h : AddsReturns s t) : AddsReturns (c :: s) (c :: t)
  | feed {s t : Text} (h : AddsReturns s t) : AddsReturns ('\n' :: s) ('\r' :: '\n' :: t)

theorem AddsReturns.physicalLines_eq {s t : Text} (h : AddsReturns s t) (hreturn : '\r' ∉ s) :
    physicalLines t = physicalLines s := by
  induction h with
  | nil => rfl
  | feed h ih =>
      rw [List.mem_cons, not_or] at hreturn
      rw [physicalLines, physicalLines, ih hreturn.2]
  | cons c h ih =>
      rename_i s t
      rw [List.mem_cons, not_or] at hreturn
      have hrest := ih hreturn.2
      by_cases hfeed : c = '\n'
      · subst hfeed
        rw [physicalLines, physicalLines, hrest]
      · obtain ⟨line, lines, hlines⟩ := List.exists_cons_of_ne_nil (physicalLines_ne_nil s)
        have hc : c ≠ '\r' := Ne.symm hreturn.1
        rw [physicalLines_cons hfeed (fun e => absurd e hc) hlines,
          physicalLines_cons hfeed (fun e => absurd e hc) (hrest.trans hlines)]

/-! ## Indentation -/

/-- Only spaces and tabs. -/
def IsIndentation (w : Text) : Prop := ∀ c ∈ w, isIndent c = true

instance (w : Text) : Decidable (IsIndentation w) :=
  decidable_of_iff (w.all isIndent = true) List.all_eq_true

section

variable {w : Text}

theorem IsIndentation.dropIndent_append (h : IsIndentation w) (s : Text) :
    dropIndent (w ++ s) = dropIndent s := by
  have hnone : dropIndent w = [] := List.dropWhile_eq_nil_iff.mpr h
  rw [Text.dropIndent_append, if_pos hnone]

theorem IsIndentation.continues_append (h : IsIndentation w) (s : Text) :
    continues (w ++ s) = continues s := by
  apply Line.continues_append
  rw [Bool.eq_false_iff]
  intro hgoes
  have hmem : '\\' ∈ w := by
    rw [eq_append_of_continues hgoes]
    simp
  exact absurd (h '\\' hmem) (by decide)

theorem IsIndentation.opensGroup_append (h : IsIndentation w) (s : Text) :
    opensGroup (w ++ s) = opensGroup s := by
  unfold opensGroup opensEntry
  rw [h.dropIndent_append, h.continues_append]

theorem IsIndentation.withoutJoint_append (h : IsIndentation w) (s : Text) :
    withoutJoint (w ++ s) = w ++ withoutJoint s := by
  unfold withoutJoint
  rw [h.continues_append]
  split
  · rename_i hgoes
    have hne : s ≠ [] := by
      rintro rfl
      cases hgoes
    exact List.dropLast_append_of_ne_nil hne
  · rfl

/-- The indentation of the first line is that of the group. -/
theorem IsIndentation.groupText_cons (h : IsIndentation w) (line : Text) (lines : List Text) :
    groupText ((w ++ line) :: lines) = w ++ groupText (line :: lines) := by
  unfold groupText
  rw [List.headD_cons, List.headD_cons, h.opensGroup_append]
  split
  · rw [List.flatMap_cons, List.flatMap_cons, h.withoutJoint_append, List.append_assoc]
  · rw [List.flatten_cons, List.flatten_cons, List.append_assoc]

end

/-- A line is its indentation and what stands behind it. -/
theorem exists_eq_indentation_append (line : Text) :
    ∃ w, IsIndentation w ∧ line = w ++ line.dropIndent :=
  ⟨line.takeWhile isIndent, fun _ hc => List.mem_takeWhile_imp hc,
    List.takeWhile_append_dropWhile.symm⟩

end Line

/-! ## What a token says -/

namespace Token

/-- The token is a blank line or a comment. -/
def isLayout : Token → Bool
  | blank _ => true
  | comment _ _ => true
  | _ => false

/-- What a token says to a reader, without its line and its text: nothing if it is layout. -/
def saying? : Token → Option Token
  | blank _ => none
  | comment _ _ => none
  | header _ _ id => some (header 0 [] id)
  | entry _ _ key value => some (entry 0 [] key value)
  | invalid _ _ fault => some (invalid 0 [] fault)

theorem saying?_eq_none_iff (token : Token) : token.saying? = none ↔ token.isLayout = true := by
  cases token <;> simp [saying?, isLayout]

theorem saying?_ofHeader (n m : Nat) (s t content : Text) :
    (ofHeader n s content).saying? = (ofHeader m t content).saying? := by
  unfold ofHeader
  split
  · rfl
  · split <;> rfl

theorem saying?_ofEntry (n m : Nat) (s t content : Text) :
    (ofEntry n s content).saying? = (ofEntry m t content).saying? := by
  unfold ofEntry
  split <;> rfl

/-- What a line says is in its content, which is left without its indentation and the white space
at its end. -/
theorem saying?_classify {s t : Text} (h : s.dropIndent.trimEnd = t.dropIndent.trimEnd)
    (n m : Nat) : (classify n s).saying? = (classify m t).saying? := by
  unfold classify
  simp only [h]
  split
  · rfl
  · split
    · rfl
    · split
      · exact saying?_ofHeader n m s t _
      · exact saying?_ofEntry n m s t _

theorem isEntry_of_isLayout {token : Token} (h : token.isLayout = true) :
    token.isEntry = false := by
  cases token with
  | entry line text key value => cases h
  | _ => rfl

/-- A line of layout takes in no other line. -/
theorem opensGroup_of_isLayout {n : Nat} {line : Text}
    (h : (classify n line).isLayout = true) : Line.opensGroup line = false := by
  rw [Bool.eq_false_iff]
  intro hopens
  obtain ⟨hentry, hgoes⟩ := Bool.and_eq_true_iff.mp hopens
  have hmem : '\\' ∈ line := by
    rw [Line.eq_append_of_continues hgoes]
    simp
  have hisEntry := (isEntry_classify n line).mpr ⟨hentry, '\\', hmem, by decide⟩
  rw [isEntry_of_isLayout h] at hisEntry
  cases hisEntry

end Token

namespace Line

open Text

/-- What a group of lines says. -/
def saying? (group : List Text) : Option Token := (Token.classify 0 (groupText group)).saying?

/-- What lines say, one group after the other. -/
def sayings (lines : List Text) : List Token := (groups lines).filterMap saying?

/-- The text of no lines is an empty line, which says nothing. -/
theorem sayings_unlines {lines : List Text} (h : ∀ line ∈ lines, IsUnbroken line) :
    sayings (physicalLines (unlines lines)) = sayings lines := by
  by_cases hnone : lines = []
  · subst hnone
    have hempty : physicalLines (unlines []) = [[]] := rfl
    rw [hempty, sayings, groups_cons_of_not_opensGroup rfl]
    rfl
  · rw [physicalLines_unlines hnone h]

theorem saying?_singleton {line : Text} (h : opensGroup line = false) :
    saying? [line] = (Token.classify 0 line).saying? := by
  simp [saying?, groupText, h]

theorem content_append_blank {c : Char} (hc : isBlank c = true) (s : Text) :
    trimEnd (dropIndent (s ++ [c])) = trimEnd (dropIndent s) := by
  have hblank : IsBlankRun [c] := by simpa [IsBlankRun] using hc
  rw [dropIndent_append]
  split
  · rename_i hnone
    rw [hnone, dropIndent, List.dropWhile_cons]
    split
    · rfl
    · exact hblank.trimEnd_append []
  · exact hblank.trimEnd_append _

/-- A line says the same without the carriage return that it ends in. -/
theorem saying?_withoutReturn (line : Text) (n : Nat) :
    (Token.classify n (withoutReturn line)).saying? = (Token.classify n line).saying? := by
  unfold withoutReturn
  split
  · rename_i hreturn
    apply Token.saying?_classify
    rw [← content_append_blank (c := '\r') (by decide), List.dropLast_append_getLast? '\r' hreturn]
  · rfl

/-- The indentation of its first line makes no difference to a group. -/
theorem saying?_reindent {w : Text} (hw : IsIndentation w) (line : Text) (lines : List Text) :
    saying? ((w ++ line.dropIndent) :: lines) = saying? (line :: lines) := by
  obtain ⟨own, hown, hline⟩ := exists_eq_indentation_append line
  apply Token.saying?_classify
  rw [hw.groupText_cons, hw.dropIndent_append]
  conv_rhs => rw [hline, hown.groupText_cons, hown.dropIndent_append]

theorem IsUnbroken.reindent {line w : Text} (h : IsUnbroken line) (hw : IsIndentation w) :
    IsUnbroken (w ++ line.dropIndent) := by
  have hkept : line.dropIndent ⊆ line := (List.dropWhile_sublist isIndent).subset
  refine ⟨?_, ?_⟩
  · intro hmem
    rcases List.mem_append.mp hmem with hmem | hmem
    · exact absurd (hw '\n' hmem) (by decide)
    · exact h.1 (hkept hmem)
  · intro hmem
    rcases List.mem_append.mp hmem with hmem | hmem
    · exact absurd (hw '\r' hmem) (by decide)
    · exact h.2 (hkept hmem)

theorem opensGroup_reindent {w : Text} (hw : IsIndentation w) (line : Text) :
    opensGroup (w ++ line.dropIndent) = opensGroup line := by
  obtain ⟨own, hown, hline⟩ := exists_eq_indentation_append line
  rw [hw.opensGroup_append]
  conv_rhs => rw [hline, hown.opensGroup_append]

/-- A first line that opens a group just like another one takes in the same lines. -/
theorem groups_cons_congr {line other : Text} {lines taken : List Text}
    {others : List (List Text)} (hopens : opensGroup other = opensGroup line)
    (h : groups (line :: lines) = (line :: taken) :: others) :
    groups (other :: lines) = (other :: taken) :: others := by
  cases hline : opensGroup line with
  | true =>
      rw [groups_cons_of_opensGroup hline] at h
      obtain ⟨hfirst, rfl⟩ := List.cons.inj h
      obtain ⟨-, rfl⟩ := List.cons.inj hfirst
      exact groups_cons_of_opensGroup (hopens.trans hline) lines
  | false =>
      rw [groups_cons_of_not_opensGroup hline] at h
      obtain ⟨hfirst, rfl⟩ := List.cons.inj h
      obtain ⟨-, rfl⟩ := List.cons.inj hfirst
      exact groups_cons_of_not_opensGroup (hopens.trans hline) lines

end Line

/-- What the tokens of a text say is what its groups of lines say. -/
theorem Token.filterMap_saying?_tokenize (text : Text) :
    (tokenize text).filterMap saying? = Line.sayings (Line.physicalLines text) := by
  rw [tokenize_eq, Line.sayings, ← LineGroup.map_lines_ofText, List.filterMap_map,
    List.filterMap_map]
  apply List.filterMap_congr
  intro g hg
  change (classify g.first g.text).saying? = _
  rw [(LineGroup.isFormed_of_mem_ofText hg).text_eq_groupText]
  exact saying?_classify rfl g.first 0

/-! ## What a reader makes of it -/

namespace ReadState

/-- Two readers have built the same, and both have met problems or both have not. -/
structure Agrees (s t : ReadState) : Prop where
  doc : s.doc = t.doc
  current : s.current = t.current
  problems : s.problems = [] ↔ t.problems = []

variable {s t : ReadState}

theorem Agrees.reject (h : s.Agrees t) (line other : Nat) (text changed : Text)
    (fault : LineFault) : (s.reject line text fault).Agrees (t.reject other changed fault) :=
  ⟨h.doc, h.current, iff_of_false (problems_reject_ne_nil s line text fault)
    (problems_reject_ne_nil t other changed fault)⟩

/-- A token makes the same of two readers that agree, whatever its line and its text. -/
theorem Agrees.step (h : s.Agrees t) {token other : Token} (htoken : token.saying? = some other) :
    (s.step token).Agrees (t.step other) := by
  cases token with
  | blank line => cases htoken
  | comment line text => cases htoken
  | header line text id =>
      cases htoken
      exact ⟨congrArg (Document.openSection · id) h.doc, rfl, h.problems⟩
  | invalid line text fault =>
      cases htoken
      exact h.reject line 0 text [] fault
  | entry line text key value =>
      cases htoken
      unfold ReadState.step
      simp only [← h.current]
      split
      · split
        · exact h.reject line 0 text [] _
        · rename_i identity hcurrent
          exact ⟨congrArg (Document.record · identity _ _) h.doc, rfl, h.problems⟩
      · split <;> exact h.reject line 0 text [] _

theorem step_of_saying?_eq_none {token : Token} (h : token.saying? = none) (s : ReadState) :
    s.step token = s := by
  cases token with
  | blank line => rfl
  | comment line text => rfl
  | _ => cases h

/-- Readers of a text and of what its tokens say agree at the end. -/
theorem Agrees.foldl_step (h : s.Agrees t) (tokens : List Token) :
    (tokens.foldl ReadState.step s).Agrees
      ((tokens.filterMap Token.saying?).foldl ReadState.step t) := by
  induction tokens generalizing s t with
  | nil => exact h
  | cons token rest ih =>
      rw [List.foldl_cons, List.filterMap_cons]
      cases htoken : token.saying? with
      | none =>
          rw [step_of_saying?_eq_none htoken]
          exact ih h
      | some other => exact ih (h.step htoken)

theorem Agrees.finish_eq_ok_iff (h : s.Agrees t) (doc : Document) :
    s.finish = .ok doc ↔ t.finish = .ok doc := by
  rw [ReadState.finish_eq_ok_iff, ReadState.finish_eq_ok_iff, h.problems, h.doc]

end ReadState

/-- Texts whose tokens say the same are read as the same document, if as any. -/
theorem Document.ofText_congr {a b : Text}
    (h : (Token.tokenize a).filterMap Token.saying? = (Token.tokenize b).filterMap Token.saying?)
    (doc : Document) : ofText a = .ok doc ↔ ofText b = .ok doc := by
  have hstart : ReadState.start.Agrees .start := ⟨rfl, rfl, Iff.rfl⟩
  have hfirst := (hstart.foldl_step (Token.tokenize a)).finish_eq_ok_iff doc
  have hsecond := (hstart.foldl_step (Token.tokenize b)).finish_eq_ok_iff doc
  rw [h] at hfirst
  exact hfirst.trans hsecond.symm

/-! ## Changes of layout -/

/-- A change of the layout of a text. -/
inductive LayoutChange (text : Text) : Text → Prop
  /-- All lines of a blank or a comment are left out. -/
  | remove {front back : List LineGroup} {g : LineGroup}
      (hgroups : LineGroup.ofText text = front ++ g :: back)
      (hlayout : g.token.isLayout = true) :
      LayoutChange text (Line.unlines ((front ++ back).flatMap LineGroup.lines))
  /-- A line that is a blank or a comment by itself is put before a logical line. -/
  | insert {front back : List LineGroup} {line : Text} {n : Nat}
      (hgroups : LineGroup.ofText text = front ++ back) (hback : back ≠ [])
      (hline : '\n' ∉ line) (hlayout : (Token.classify n line).isLayout = true) :
      LayoutChange text
        (Line.unlines (front.flatMap LineGroup.lines ++ line :: back.flatMap LineGroup.lines))
  /-- The first line of a logical line is indented in another way. -/
  | indent {front back : List LineGroup} {g : LineGroup} {line w : Text} {lines : List Text}
      (hgroups : LineGroup.ofText text = front ++ g :: back) (hlines : g.lines = line :: lines)
      (hindent : Line.IsIndentation w) :
      LayoutChange text
        (Line.unlines (front.flatMap LineGroup.lines ++
          (w ++ line.dropIndent) :: (lines ++ back.flatMap LineGroup.lines)))
  /-- Carriage returns are put before some line feeds. -/
  | returns {other : Text} (h : Line.AddsReturns text other) : LayoutChange text other

namespace LineGroup

variable {text : Text} {front back : List LineGroup}

theorem groups_physicalLines (h : ofText text = front ++ back) :
    Line.groups (Line.physicalLines text) =
      front.map LineGroup.lines ++ back.map LineGroup.lines := by
  rw [← map_lines_ofText, h, List.map_append]

theorem groups_flatMap_lines (h : ofText text = front ++ back) :
    Line.groups (back.flatMap LineGroup.lines) = back.map LineGroup.lines := by
  rw [List.flatMap_def]
  exact Line.groups_flatten_of_append (groups_physicalLines h)

/-- Groups that another one follows say the same with any lines behind them. -/
theorem sayings_append (h : ofText text = front ++ back) (hback : back ≠ []) (rest : List Text) :
    Line.sayings (front.flatMap LineGroup.lines ++ rest) =
      (front.map LineGroup.lines).filterMap Line.saying? ++ Line.sayings rest := by
  have hgroups := Line.groups_append (groups_physicalLines h) (by simpa using hback) rest
  rw [Line.sayings, List.flatMap_def, hgroups, List.filterMap_append]
  rfl

/-- Lines behind such groups may be exchanged for others that say the same. -/
theorem sayings_eq (h : ofText text = front ++ back) (hback : back ≠ []) {rest : List Text}
    (hrest : Line.sayings rest = Line.sayings (back.flatMap LineGroup.lines)) :
    Line.sayings (front.flatMap LineGroup.lines ++ rest) =
      Line.sayings (Line.physicalLines text) := by
  rw [sayings_append h hback, hrest, ← sayings_append h hback, ← List.flatMap_append, ← h,
    flatMap_lines_ofText]

theorem isUnbroken_of_mem (h : ofText text = front ++ back) (hreturn : '\r' ∉ text) :
    (∀ line ∈ front.flatMap LineGroup.lines, Line.IsUnbroken line) ∧
      ∀ line ∈ back.flatMap LineGroup.lines, Line.IsUnbroken line := by
  have hall := Line.isUnbroken_of_mem_physicalLines hreturn
  rw [← flatMap_lines_ofText, h, List.flatMap_append] at hall
  exact ⟨fun line hline => hall line (List.mem_append_left _ hline),
    fun line hline => hall line (List.mem_append_right _ hline)⟩

theorem saying?_lines_of_isLayout {g : LineGroup} (hg : g ∈ ofText text)
    (hlayout : g.token.isLayout = true) : Line.saying? g.lines = none := by
  rw [← Token.saying?_eq_none_iff, token, (isFormed_of_mem_ofText hg).text_eq_groupText] at hlayout
  exact (Token.saying?_classify rfl 0 g.first).trans hlayout

end LineGroup

namespace LayoutChange

variable {text : Text} {front back : List LineGroup} {g : LineGroup}

theorem sayings_remove (hreturn : '\r' ∉ text)
    (hgroups : LineGroup.ofText text = front ++ g :: back)
    (hlayout : g.token.isLayout = true) :
    Line.sayings (Line.physicalLines (Line.unlines ((front ++ back).flatMap LineGroup.lines))) =
      Line.sayings (Line.physicalLines text) := by
  have hunbroken := LineGroup.isUnbroken_of_mem hgroups hreturn
  have hbehind : LineGroup.ofText text = (front ++ [g]) ++ back := by simp [hgroups]
  have hg : g ∈ LineGroup.ofText text := by simp [hgroups]
  have hsays := LineGroup.saying?_lines_of_isLayout hg hlayout
  rw [List.flatMap_append, Line.sayings_unlines]
  · apply LineGroup.sayings_eq hgroups (List.cons_ne_nil g back)
    unfold Line.sayings
    rw [LineGroup.groups_flatMap_lines hgroups, LineGroup.groups_flatMap_lines hbehind,
      List.map_cons, List.filterMap_cons, hsays]
  · intro line hline
    rcases List.mem_append.mp hline with hline | hline
    · exact hunbroken.1 line hline
    · exact hunbroken.2 line (List.mem_append_right _ hline)

theorem sayings_insert (hreturn : '\r' ∉ text) (hgroups : LineGroup.ofText text = front ++ back)
    (hback : back ≠ []) {line : Text} {n : Nat} (hline : '\n' ∉ line)
    (hlayout : (Token.classify n line).isLayout = true) :
    Line.sayings (Line.physicalLines (Line.unlines
        (front.flatMap LineGroup.lines ++ line :: back.flatMap LineGroup.lines))) =
      Line.sayings (Line.physicalLines text) := by
  obtain ⟨hfront, hbehind⟩ := LineGroup.isUnbroken_of_mem hgroups hreturn
  have hlines : back.flatMap LineGroup.lines ≠ [] := by
    obtain ⟨g, others, rfl⟩ := List.exists_cons_of_ne_nil hback
    have hg : g ∈ LineGroup.ofText text := by simp [hgroups]
    simpa using fun hnil => absurd hnil (LineGroup.isFormed_of_mem_ofText hg).ne_nil
  have hinserted : (Token.classify n (Line.withoutReturn line)).isLayout = true := by
    rwa [← Token.saying?_eq_none_iff, Line.saying?_withoutReturn, Token.saying?_eq_none_iff]
  have halone := Token.opensGroup_of_isLayout hinserted
  rw [Line.physicalLines_unlines_append hfront (List.cons_ne_nil _ _),
    Line.unlines_cons line hlines, Line.physicalLines_append_line hline,
    Line.physicalLines_unlines hlines hbehind]
  apply LineGroup.sayings_eq hgroups hback
  rw [Line.sayings, Line.groups_cons_of_not_opensGroup halone, List.filterMap_cons,
    Line.saying?_singleton halone, Token.saying?_classify rfl 0 n,
    (Token.saying?_eq_none_iff _).mpr hinserted]
  rfl

theorem sayings_indent (hreturn : '\r' ∉ text)
    (hgroups : LineGroup.ofText text = front ++ g :: back)
    {line w : Text} {lines : List Text} (hlines : g.lines = line :: lines)
    (hindent : Line.IsIndentation w) :
    Line.sayings (Line.physicalLines (Line.unlines (front.flatMap LineGroup.lines ++
        (w ++ line.dropIndent) :: (lines ++ back.flatMap LineGroup.lines)))) =
      Line.sayings (Line.physicalLines text) := by
  obtain ⟨hfront, hbehind⟩ := LineGroup.isUnbroken_of_mem hgroups hreturn
  have hgroup := LineGroup.groups_flatMap_lines hgroups
  rw [List.flatMap_cons, hlines, List.cons_append] at hbehind
  rw [List.map_cons, List.flatMap_cons, hlines, List.cons_append] at hgroup
  have hchanged := Line.groups_cons_congr (Line.opensGroup_reindent hindent line) hgroup
  rw [Line.sayings_unlines]
  · apply LineGroup.sayings_eq hgroups (List.cons_ne_nil g back)
    rw [List.flatMap_cons, hlines, List.cons_append, Line.sayings, Line.sayings, hgroup, hchanged,
      List.filterMap_cons, List.filterMap_cons, Line.saying?_reindent hindent]
  · intro other hother
    rcases List.mem_append.mp hother with hother | hother
    · exact hfront other hother
    · rcases List.mem_cons.mp hother with rfl | hother
      · exact (hbehind line List.mem_cons_self).reindent hindent
      · exact hbehind other (List.mem_cons_of_mem line hother)

end LayoutChange

/-- A change of layout in a text without carriage returns changes nothing about what is read: the
changed text is read as the same document, or as none either. -/
theorem Document.ofText_of_layoutChange {text changed : Text} (hreturn : '\r' ∉ text)
    (h : LayoutChange text changed) (doc : Document) :
    ofText text = .ok doc ↔ ofText changed = .ok doc := by
  apply ofText_congr
  rw [Token.filterMap_saying?_tokenize, Token.filterMap_saying?_tokenize]
  cases h with
  | remove hgroups hlayout => exact (LayoutChange.sayings_remove hreturn hgroups hlayout).symm
  | insert hgroups hback hline hlayout =>
      exact (LayoutChange.sayings_insert hreturn hgroups hback hline hlayout).symm
  | indent hgroups hlines hindent =>
      exact (LayoutChange.sayings_indent hreturn hgroups hlines hindent).symm
  | returns h => rw [h.physicalLines_eq hreturn]

/-- A comment in front of an entry that is left open at the end of the text: the comment left out,
another one put behind it, the entry indented, and carriage returns put before two line feeds. -/
theorem Document.ofText_of_layoutChange_before_open_line :
    ∃ doc, ofText "[a]\n# c\\\nk = 1\\\n\\".toList = .ok doc ∧
      ofText "[a]\nk = 1\\\n\\".toList = .ok doc ∧
      ofText "[a]\n# c\\\n\t; d = 2\\\nk = 1\\\n\\".toList = .ok doc ∧
      ofText "[a]\n# c\\\n \tk = 1\\\n\\".toList = .ok doc ∧
      ofText "[a]\r\n# c\\\nk = 1\\\r\n\\".toList = .ok doc := by
  have hreturn : '\r' ∉ "[a]\n# c\\\nk = 1\\\n\\".toList := by decide
  have hsecond : LineGroup.ofText "[a]\n# c\\\nk = 1\\\n\\".toList =
      [⟨1, ["[a]".toList]⟩] ++ ⟨2, ["# c\\".toList]⟩ ::
        [⟨3, ["k = 1\\".toList, "\\".toList]⟩] := by
    decide +kernel
  have hthird : LineGroup.ofText "[a]\n# c\\\nk = 1\\\n\\".toList =
      [⟨1, ["[a]".toList]⟩, ⟨2, ["# c\\".toList]⟩] ++
        ⟨3, ["k = 1\\".toList, "\\".toList]⟩ :: [] := hsecond
  obtain ⟨doc, hread⟩ := exists_of_isOk
    (show (ofText "[a]\n# c\\\nk = 1\\\n\\".toList).isOk = true by decide +kernel)
  have hremove : LayoutChange "[a]\n# c\\\nk = 1\\\n\\".toList
      "[a]\nk = 1\\\n\\".toList := .remove hsecond (by decide)
  have hcomment : (Token.classify 1 "\t; d = 2\\".toList).isLayout = true := by decide
  have hinsert : LayoutChange "[a]\n# c\\\nk = 1\\\n\\".toList
      "[a]\n# c\\\n\t; d = 2\\\nk = 1\\\n\\".toList :=
    .insert hthird (List.cons_ne_nil _ _) (by decide) hcomment
  have hspaces : Line.IsIndentation " \t".toList := by decide
  have hindent : LayoutChange "[a]\n# c\\\nk = 1\\\n\\".toList
      "[a]\n# c\\\n \tk = 1\\\n\\".toList := .indent hthird rfl hspaces
  have hreturns : LayoutChange "[a]\n# c\\\nk = 1\\\n\\".toList
      "[a]\r\n# c\\\nk = 1\\\r\n\\".toList := by
    apply LayoutChange.returns
    repeat constructor
  exact ⟨doc, hread, (ofText_of_layoutChange hreturn hremove doc).mp hread,
    (ofText_of_layoutChange hreturn hinsert doc).mp hread,
    (ofText_of_layoutChange hreturn hindent doc).mp hread,
    (ofText_of_layoutChange hreturn hreturns doc).mp hread⟩

end ConfigEditor
