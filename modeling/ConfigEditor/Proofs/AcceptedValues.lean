import ConfigEditor.Proofs.Document.Lookup
import ConfigEditor.Proofs.WrittenLines
set_option autoImplicit false

/-!
# Accepted values: what an assignment may write

A value is checked without being written: it holds no line break, does not end in an odd run of
backslashes and is clean already.  Yet this is what writing it would show.  The line of a key and
a value is read on its own as that entry, with an empty line below it, exactly for the clean
one-line values that do not go on (`readsBack_iff`): a reader hands out clean one-line values only
(`Token.wellFormed_of_mem_tokenize`), and a line that goes on takes in the empty line, so that
one token is left of the two (`Statement.tokenize_line_of_dangles`).

So an assignment is accepted exactly if it is read back (`Document.assigns_iff_readsBack`), but for
a carriage return.  A value with one inside is read back too, and refused all the same.
-/

namespace ConfigEditor

/-! ## The three checks -/

/-- The checks of a value, all at once. -/
theorem Line.checkValue_eq_ok_iff (value : Text) :
    checkValue value = .ok value ↔
      '\r' ∉ value ∧ (Entry.assigned value).WellFormed ∧ continues value = false := by
  constructor
  · intro h
    obtain ⟨hclean, hline, hreturn, hclosed⟩ := of_checkValue h
    exact ⟨hreturn, ⟨hclean, hline⟩, hclosed⟩
  · rintro ⟨hreturn, ⟨hclean, hline⟩, hclosed⟩
    have hbreak : (value.any fun c => c == '\r' || c == '\n') = false := by
      rw [List.any_eq_false]
      intro c hc hbad
      rcases Bool.or_eq_true_iff.mp hbad with heq | heq
      · exact hreturn (beq_iff_eq.mp heq ▸ hc)
      · exact hline (beq_iff_eq.mp heq ▸ hc)
    unfold checkValue
    simp [hbreak, hclosed, hclean]

/-! ## A line read on its own -/

/-- What a reader hands out as a value is a clean line. -/
theorem Token.wellFormed_of_mem_tokenize {text : Text} {line : Nat} {t key value : Text}
    (h : Token.entry line t key (some value) ∈ tokenize text) (hkey : Key.isValid key = true) :
    (Entry.assigned value).WellFormed := by
  obtain ⟨joined, hjoined, htoken⟩ := List.mem_map.mp h
  have hevery := every_classify (LogicalLine.newline_not_mem_of_mem_ofText hjoined) joined.line
  rw [htoken] at hevery
  exact (hevery hkey).2

namespace Statement

variable {statement : Statement}

/-- A written line and the empty line below it. -/
theorem tokenize_line (h : statement.WellFormed) :
    Token.tokenize (statement.line ++ ['\n'])
      = (LogicalLine.join none 1 [statement.line, []]).map fun l =>
          Token.classify l.line l.text := by
  have hlines : Line.physicalLines (statement.line ++ ['\n']) = [statement.line, []] :=
    Line.physicalLines_append_newline (newline_not_mem_line h) (getLast?_line_ne h) []
  unfold Token.tokenize LogicalLine.ofText
  rw [hlines]

/-- A line that does not go on is a token by itself. -/
theorem tokenize_line_of_closed (h : statement.WellFormed) (hclosed : statement.dangles = false) :
    Token.tokenize (statement.line ++ ['\n'])
      = [Token.classify 1 statement.line, .blank 2] := by
  have hline : Line.continues statement.line = false := (continues_line h).trans hclosed
  rw [tokenize_line h, LogicalLine.join_none_cons, hline, Bool.and_false]
  rfl

/-- A line that goes on takes in the empty line below it. -/
theorem tokenize_line_of_dangles (h : statement.WellFormed) (hgoes : statement.dangles = true) :
    Token.tokenize (statement.line ++ ['\n']) = [Token.classify 1 statement.line.dropLast] := by
  have hline : Line.continues statement.line = true := (continues_line h).trans hgoes
  have hopens : Line.opensEntry statement.line = true :=
    (opensEntry_line h).resolve_right (by simp [hgoes])
  have hlast := Line.continues_dropLast hline
  rw [tokenize_line h, LogicalLine.join_none_cons, hopens, hline, Bool.and_self, if_pos rfl,
    LogicalLine.join_some_cons, List.append_nil, hlast]
  rfl

end Statement

/-- The line of an assignment, read on its own, is one entry with its key and value, and an empty
line. -/
def ReadsBack (key value : Text) : Prop :=
  ∃ line text below, Token.tokenize (Entry.line key (.assigned value) ++ ['\n'])
    = [.entry line text key (some value), .blank below]

/-- The values that are read back are the clean lines that do not go on. -/
theorem readsBack_iff {key value : Text} (hkey : Key.IsNormal key) :
    ReadsBack key value ↔ (Entry.assigned value).WellFormed ∧ Line.continues value = false := by
  constructor
  · rintro ⟨line, text, below, htokens⟩
    -- The value was handed out by the reader, so it is clean already.
    have hmem : Token.entry line text key (some value)
        ∈ Token.tokenize (Entry.line key (.assigned value) ++ ['\n']) := by
      rw [htokens]
      exact List.mem_cons_self
    have hvalue := Token.wellFormed_of_mem_tokenize hmem hkey.1
    have hwell : (Statement.occurrence key (.assigned value)).WellFormed := ⟨hkey, hvalue⟩
    refine ⟨hvalue, ?_⟩
    cases hgoes : Line.continues value with
    | false => rfl
    | true =>
        -- One token of the two lines, where two are read.
        have hone := Statement.tokenize_line_of_dangles hwell hgoes
        have hlength := congrArg List.length (htokens.symm.trans hone)
        simp at hlength
  · rintro ⟨hvalue, hclosed⟩
    have hwell : (Statement.occurrence key (.assigned value)).WellFormed := ⟨hkey, hvalue⟩
    have htokens := Statement.tokenize_line_of_closed hwell hclosed
    refine ⟨1, Entry.line key (.assigned value), 2, ?_⟩
    rw [← classify_assigned hkey.1 hvalue.1 1]
    exact htokens

/-! ## Assignments -/

namespace Document

variable {doc : Document} {name key normal : Text}

/-- With the section present and a good key, only the value is left to be checked. -/
theorem exists_checkAssignment_iff (hname : doc.hasSection name = true)
    (hkey : Key.parse key = .ok normal) (value : Text) :
    (∃ checked, doc.checkAssignment name key value = .ok checked) ↔
      '\r' ∉ value ∧ ReadsBack normal value := by
  obtain ⟨s, hs⟩ := exists_of_hasSection hname
  rw [readsBack_iff (Key.isNormal_of_parse hkey), ← Line.checkValue_eq_ok_iff]
  constructor
  · rintro ⟨⟨found, parsed, text⟩, hchecked⟩
    exact (of_checkAssignment hchecked).2.2.1
  · intro hvalue
    exact ⟨(s, normal, value), by simp [checkAssignment, hs, hkey, hvalue]⟩

/-- In a section that is present, a good key is assigned exactly the values without a carriage
return that are read back from their line; it is so whether the value replaces the others or
comes after them. -/
theorem assigns_iff_readsBack (hname : doc.hasSection name = true)
    (hkey : Key.parse key = .ok normal) (value : Text) :
    ((∃ after, doc.set name key value = .ok after) ↔ '\r' ∉ value ∧ ReadsBack normal value) ∧
      ((∃ after, doc.add name key value = .ok after) ↔ '\r' ∉ value ∧ ReadsBack normal value) := by
  rw [← exists_checkAssignment_iff hname hkey value]
  simp only [set_eq, add_eq]
  constructor
  all_goals
    constructor
    · rintro ⟨after, hafter⟩
      obtain ⟨checked, hchecked, _⟩ := exists_of_map_eq_ok hafter
      exact ⟨checked, hchecked⟩
    · rintro ⟨checked, hchecked⟩
      exact ⟨_, congrArg (Except.map _) hchecked⟩

/-- The section is named in another spelling than it was added under; the key would make a remark
of a line without an equals sign, and the backslashes come in pairs. -/
theorem assigns_paired_backslashes :
    ((Change.addSection "a \"x\"".toList).apply .empty).2.hasSection " a  \"x\"".toList = true ∧
      Key.parse " Rem ".toList = .ok "rem".toList ∧
      ∃ after, ((Change.addSection "a \"x\"".toList).apply .empty).2.add " a  \"x\"".toList
        " Rem ".toList "b\\\\".toList = .ok after := by
  have hname : ((Change.addSection "a \"x\"".toList).apply .empty).2.hasSection
      " a  \"x\"".toList = true := by decide +kernel
  have hkey : Key.parse " Rem ".toList = .ok "rem".toList := by decide +kernel
  have hline : ReadsBack "rem".toList "b\\\\".toList :=
    ⟨1, "\trem = b\\\\".toList, 2, by decide +kernel⟩
  exact ⟨hname, hkey, (assigns_iff_readsBack hname hkey _).2.mpr ⟨by decide, hline⟩⟩

end Document

end ConfigEditor
