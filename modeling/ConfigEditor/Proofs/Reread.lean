import ConfigEditor.Document.Query
import ConfigEditor.Proofs.WrittenLines
import Mathlib.Algebra.GroupWithZero.Nat
set_option autoImplicit false

/-!
# Reading back what was written

`heard` is what a reader makes of the statements of a document.  Where an assigned text ends in
an odd run of backslashes, the last one is dropped and the lines that follow are taken into the
text, up to and with the first that does not go on itself; all other statements are heard as
they were said.  This is exact: a well-formed document whose names hold no line feed is read
back as what is heard of its statements (`ofText_toText`).

So a document whose texts are all closed is read back as it was (`reread_eq_self`).  In any
other case the document that is read back says less than the one that was written, for each
line that is taken in costs a backslash (`saidLength_reread_lt`), and the two are not equal.
Both ways together give `rereadsAsEqual_iff`.
-/

namespace ConfigEditor

/-- What a reader makes of statements; `open?` is a key with the part of its text that has been
read so far. -/
def heard : Option (Text × Text) → List Statement → List Statement
  | none, [] => []
  | some (key, body), [] => [.occurrence key (.assigned (Line.cleanValue body))]
  | none, .occurrence key (.assigned text) :: rest =>
    if Line.continues text then heard (some (key, text.dropLast)) rest
    else .occurrence key (.assigned text) :: heard none rest
  | none, statement :: rest => statement :: heard none rest
  | some (key, body), statement :: rest =>
    if statement.dangles then heard (some (key, (body ++ statement.line).dropLast)) rest
    else .occurrence key (.assigned (Line.cleanValue (body ++ statement.line))) :: heard none rest

theorem heard_of_closed {statement : Statement} (h : statement.dangles = false)
    (rest : List Statement) : heard none (statement :: rest) = statement :: heard none rest := by
  cases statement with
  | header id => rw [heard.eq_def]
  | occurrence key entry =>
      cases entry with
      | assigned text =>
          have htext : Line.continues text = false := h
          rw [heard, htext]
          rfl
      | bare => rw [heard.eq_def]

/-- A statement that goes on is an assignment. -/
theorem Statement.exists_of_dangles {statement : Statement} (h : statement.dangles = true) :
    ∃ key text, statement = .occurrence key (.assigned text) ∧ Line.continues text = true := by
  cases statement with
  | header id => cases h
  | occurrence key entry =>
      cases entry with
      | assigned text => exact ⟨key, text, rfl, h⟩
      | bare => cases h

theorem heard_of_continues {text : Text} (h : Line.continues text = true) (key : Text)
    (rest : List Statement) :
    heard none (.occurrence key (.assigned text) :: rest) =
      heard (some (key, text.dropLast)) rest := by
  rw [heard, h]
  rfl

/-- Where nothing goes on, everything is heard as it was said. -/
theorem heard_eq_self {statements : List Statement}
    (h : ∀ statement ∈ statements, statement.dangles = false) :
    heard none statements = statements := by
  induction statements with
  | nil => rfl
  | cons statement rest ih =>
      have hrest := ih fun other hother => h other (List.mem_cons_of_mem statement hother)
      rw [heard_of_closed (h statement List.mem_cons_self), hrest]

/-! ## The reader and the statements -/

namespace ReadState

theorem current_take_ne {state : ReadState} (h : state.current ≠ none) (statement : Statement) :
    (state.take statement).current ≠ none := by
  cases statement with
  | header id => simp [take]
  | occurrence key entry =>
      obtain ⟨identity, hcurrent⟩ := Option.ne_none_iff_exists'.mp h
      simp [take, hcurrent]

theorem problems_foldl_take (statements : List Statement) (state : ReadState) :
    (statements.foldl take state).problems = state.problems := by
  induction statements generalizing state with
  | nil => rfl
  | cons statement rest ih =>
      rw [List.foldl_cons, ih]
      cases statement with
      | header id => rfl
      | occurrence key entry =>
          simp only [take]
          split <;> rfl

theorem step_entry {state : ReadState} (h : state.current ≠ none) {key : Text}
    (hkey : Key.IsNormal key) (line : Nat) (text : Text) (value : Option Text) :
    state.step (.entry line text key value) = state.take (.occurrence key (entryOf value)) := by
  obtain ⟨identity, hcurrent⟩ := Option.ne_none_iff_exists'.mp h
  simp [step, take, hkey.1, hkey.2, hcurrent]

theorem step_classify_header (state : ReadState) {id : SectionId} (h : id.IsCanonical)
    (line : Nat) :
    state.step (Token.classify line (Statement.header id).line) = state.take (.header id) := by
  change state.step (Token.classify line ('[' :: (id.identity ++ [']']))) = _
  rw [SectionId.classify_header h]
  rfl

/-- Below a header the line of a statement is read as the statement. -/
theorem step_classify_line {state : ReadState} (h : state.current ≠ none) {statement : Statement}
    (hstatement : statement.WellFormed) (line : Nat) :
    state.step (Token.classify line statement.line) = state.take statement := by
  cases statement with
  | header id => exact step_classify_header state hstatement.1 line
  | occurrence key entry =>
      cases entry with
      | assigned text =>
          change state.step (Token.classify line (Entry.line key (.assigned text))) = _
          rw [classify_assigned hstatement.1.1 hstatement.2.1]
          exact step_entry h hstatement.1 _ _ _
      | bare =>
          change state.step (Token.classify line (Entry.line key .bare)) = _
          rw [classify_bare hstatement.1.1]
          exact step_entry h hstatement.1 _ _ _

end ReadState

/-- The tokens of lines, behind the part of a logical line that has been read so far. -/
def tokensFrom (open? : Option LogicalLine) (next : Nat) (lines : List Text) : List Token :=
  (LogicalLine.join open? next lines).map fun joined => Token.classify joined.line joined.text

theorem dropLast_assignment {body : Text} (h : body ≠ []) (key : Text) :
    (assignment key body).dropLast = assignment key body.dropLast := by
  have hsplit : ∀ s : Text, assignment key s = ('\t' :: (key ++ [' ', '=', ' '])) ++ s := by
    intro s
    simp [assignment]
  rw [hsplit, hsplit, List.dropLast_append_of_ne_nil h]

theorem continues_assignment (key body : Text) :
    Line.continues (assignment key body) = Line.continues body := by
  have hsplit : assignment key body = ('\t' :: (key ++ [' ', '='])) ++ ' ' :: body := by
    simp [assignment]
  rw [hsplit, Line.continues_append_cons (by decide)]

theorem Statement.continues_append_line {statement : Statement} (h : statement.WellFormed)
    (body : Text) : Line.continues (body ++ statement.line) = statement.dangles := by
  obtain ⟨c, rest, hline, hc⟩ := statement.exists_cons
  rw [← continues_line h, hline, Line.continues_append_cons hc, Line.continues_cons hc]

/-- Reading the lines of statements is hearing the statements.  The induction is on the lines,
with or without an assignment still open. -/
theorem foldl_step_tokensFrom {statements : List Statement}
    (h : ∀ statement ∈ statements, statement.WellFormed) {state : ReadState}
    (hcurrent : state.current ≠ none) (next : Nat) :
    (tokensFrom none next (statements.map Statement.line ++ [[]])).foldl ReadState.step state
        = (heard none statements).foldl ReadState.take state ∧
      ∀ (started : Nat) (key body : Text), Key.IsNormal key → Line.continues body = false →
        (tokensFrom (some ⟨started, assignment key body⟩) next
            (statements.map Statement.line ++ [[]])).foldl ReadState.step state
          = (heard (some (key, body)) statements).foldl ReadState.take state := by
  induction statements generalizing state next with
  | nil =>
      refine ⟨rfl, fun started key body hkey hbody => ?_⟩
      unfold tokensFrom
      rw [List.map_nil, List.nil_append, LogicalLine.join_some_cons]
      simp only [List.append_nil, continues_assignment, hbody, Bool.false_eq_true, if_false]
      change state.step (Token.classify started (assignment key body)) = _
      rw [classify_assignment hkey.1, ReadState.step_entry hcurrent hkey]
      rfl
  | cons statement rest ih =>
      have hstatement := h statement List.mem_cons_self
      have hrest : ∀ other ∈ rest, other.WellFormed := fun other hother =>
        h other (List.mem_cons_of_mem statement hother)
      constructor
      · unfold tokensFrom
        rw [List.map_cons, List.cons_append, LogicalLine.join_none_cons,
          Statement.continues_line hstatement]
        cases hdangles : statement.dangles with
        | false =>
            have htake := ReadState.current_take_ne hcurrent statement
            rw [heard_of_closed hdangles, List.foldl_cons, Bool.and_false]
            simp only [Bool.false_eq_true, if_false, List.map_cons, List.foldl_cons]
            rw [ReadState.step_classify_line hcurrent hstatement]
            exact (ih hrest htake (next + 1)).1
        | true =>
            have hopens : Line.opensEntry statement.line = true :=
              (Statement.opensEntry_line hstatement).resolve_right (by simp [hdangles])
            obtain ⟨key, text, rfl, htext⟩ := Statement.exists_of_dangles hdangles
            have htrim := ((Line.cleanValue_eq_self_iff text).mp hstatement.2.1).1
            have hne : text ≠ [] := by
              rintro rfl
              cases htext
            have hline : (Statement.occurrence key (.assigned text)).line.dropLast
                = assignment key text.dropLast := by
              rw [← dropLast_assignment hne]
              exact congrArg _ (line_of_continues (Text.trimEnd_of_trim htrim) htext key)
            rw [heard_of_continues htext, hopens, hline]
            exact (ih hrest hcurrent (next + 1)).2 next key text.dropLast hstatement.1
              (Line.continues_dropLast htext)
      · intro started key body hkey hbody
        have hline : assignment key body ++ statement.line
            = assignment key (body ++ statement.line) := by
          simp [assignment]
        unfold tokensFrom
        rw [List.map_cons, List.cons_append, LogicalLine.join_some_cons]
        simp only [hline, continues_assignment, Statement.continues_append_line hstatement]
        have hcontinues := Statement.continues_append_line hstatement body
        rw [heard]
        cases hdangles : statement.dangles with
        | false =>
            have htake := ReadState.current_take_ne hcurrent
              (.occurrence key (.assigned (Line.cleanValue (body ++ statement.line))))
            simp only [Bool.false_eq_true, if_false, List.map_cons, List.foldl_cons]
            rw [classify_assignment hkey.1, ReadState.step_entry hcurrent hkey]
            exact (ih hrest htake (next + 1)).1
        | true =>
            rw [hdangles] at hcontinues
            have hne : body ++ statement.line ≠ [] := by
              intro hnil
              rw [hnil] at hcontinues
              cases hcontinues
            simp only [if_true]
            rw [dropLast_assignment hne]
            exact (ih hrest hcurrent (next + 1)).2 started key _ hkey
              (Line.continues_dropLast hcontinues)

/-! ## The document that is read back -/

namespace Document

/-- What is read back of a written document. -/
def reread (doc : Document) : Document := empty.extend (heard none doc.statements)

theorem wellFormed_of_mem_statements {doc : Document} (h : doc.WellFormed)
    (hnames : doc.HasOneLineNames) : ∀ statement ∈ doc.statements, statement.WellFormed := by
  intro statement hstatement
  obtain ⟨s, hs, hcases⟩ := mem_statements.mp hstatement
  obtain ⟨hid, hoptions⟩ := h.section hs
  rcases hcases with rfl | ⟨option, hoption, entry, hentry, rfl⟩
  · exact ⟨hid, hnames s hs⟩
  · exact (hoptions option hoption).2 entry hentry

theorem tokenize_toText {doc : Document} (h : doc.WellFormed) (hnames : doc.HasOneLineNames) :
    Token.tokenize doc.toText
      = tokensFrom none 1 (doc.statements.map Statement.line ++ [[]]) := by
  have hlines := Statement.physicalLines_of_lines (wellFormed_of_mem_statements h hnames)
  unfold Token.tokenize LogicalLine.ofText toText
  rw [lines_eq, hlines]
  rfl

/-- A well-formed document is read back as what is heard of its statements. -/
theorem ofText_toText {doc : Document} (h : doc.WellFormed) (hnames : doc.HasOneLineNames) :
    ofText doc.toText = .ok doc.reread := by
  have hwell := wellFormed_of_mem_statements h hnames
  have hfold : (Token.tokenize doc.toText).foldl ReadState.step .start
      = (heard none doc.statements).foldl ReadState.take .start := by
    rw [tokenize_toText h hnames]
    rcases doc.statements_eq_nil_or with hnil | ⟨id, rest, hcons⟩
    · rw [hnil]
      rfl
    · rw [hcons] at hwell ⊢
      have hid := hwell _ List.mem_cons_self
      have hrest : ∀ statement ∈ rest, statement.WellFormed := fun statement hmem =>
        hwell statement (List.mem_cons_of_mem _ hmem)
      have hclosed : (Statement.header id).dangles = false := rfl
      rw [heard_of_closed hclosed, List.foldl_cons, tokensFrom, List.map_cons, List.cons_append,
        LogicalLine.join_none_cons, Statement.continues_line hid, hclosed, Bool.and_false]
      simp only [Bool.false_eq_true, if_false, List.map_cons, List.foldl_cons]
      rw [ReadState.step_classify_header _ hid.1]
      have hcurrent : (ReadState.start.take (.header id)).current ≠ none := by
        simp [ReadState.take]
      exact (foldl_step_tokensFrom hrest hcurrent 2).1
  unfold ofText ofTokens ReadState.finish
  rw [hfold, ReadState.problems_foldl_take]
  rfl

/-- What is stored is closed exactly if no statement goes on. -/
theorem valuesClosed_iff (doc : Document) :
    doc.ValuesClosed ↔ ∀ statement ∈ doc.statements, statement.dangles = false := by
  constructor
  · intro h statement hstatement
    obtain ⟨s, hs, hcases⟩ := mem_statements.mp hstatement
    rcases hcases with rfl | ⟨option, hoption, entry, hentry, rfl⟩
    · rfl
    · exact h s hs option hoption entry hentry
  · intro h s hs option hoption entry hentry
    have hmem : Statement.occurrence option.1 entry ∈ doc.statements :=
      mem_statements.mpr ⟨s, hs, .inr ⟨option, hoption, entry, hentry, rfl⟩⟩
    exact h _ hmem

/-- A document whose texts are all closed is read back as it was. -/
theorem reread_eq_self {doc : Document} {P : SectionId → Prop} {Q : Text → Entry → Prop}
    (h : doc.Every P Q) (hclosed : doc.ValuesClosed) : doc.reread = doc := by
  unfold reread
  rw [heard_eq_self ((valuesClosed_iff doc).mp hclosed), ← merge_eq_extend]
  exact merge_empty h

end Document

/-! ## A document that goes on says less once it is read back -/

/-- Length of what a statement says.  The surplus is what surrounds it in its line at most. -/
def Statement.saidLength : Statement → Nat
  | header id => id.identity.length + 3
  | occurrence key entry => (entry.signature key).length + 3

/-- Length of what statements say. -/
def saidLength (statements : List Statement) : Nat :=
  (statements.map Statement.saidLength).sum

theorem saidLength_cons (statement : Statement) (rest : List Statement) :
    saidLength (statement :: rest) = statement.saidLength + saidLength rest := by
  unfold saidLength
  rw [List.map_cons, List.sum_cons]

theorem saidLength_append (front rest : List Statement) :
    saidLength (front ++ rest) = saidLength front + saidLength rest := by
  unfold saidLength
  rw [List.map_append, List.sum_append]

theorem Statement.saidLength_assigned (key text : Text) :
    (occurrence key (.assigned text)).saidLength = key.length + text.length + 4 := by
  change (key ++ '=' :: text).length + 3 = _
  rw [List.length_append, List.length_cons]
  omega

theorem Statement.length_line_le (statement : Statement) :
    statement.line.length ≤ statement.saidLength := by
  cases statement with
  | header id => simp [line, saidLength]
  | occurrence key entry =>
      cases entry with
      | assigned text =>
          have htrim : (Entry.line key (.assigned text)).length ≤ (assignment key text).length :=
            (Text.trimEnd_isPrefix _).length_le
          have hwhole : (assignment key text).length = key.length + text.length + 4 := by
            simp only [assignment, List.length_cons, List.length_append]
            omega
          rw [saidLength_assigned]
          exact htrim.trans (Nat.le_of_eq hwhole)
      | bare => simp [line, Entry.line, saidLength, Entry.signature]

/-- Hearing does not lengthen what is said, and where a statement goes on it shortens it. -/
theorem saidLength_heard (statements : List Statement) :
    saidLength (heard none statements) ≤ saidLength statements ∧
      ((∃ statement ∈ statements, statement.dangles = true) →
        saidLength (heard none statements) < saidLength statements) ∧
      ∀ key body, saidLength (heard (some (key, body)) statements)
        ≤ key.length + body.length + 4 + saidLength statements := by
  induction statements with
  | nil =>
      refine ⟨Nat.le_refl _, by simp, fun key body => ?_⟩
      have hclean := Line.length_cleanValue_le body
      rw [heard, saidLength_cons, Statement.saidLength_assigned]
      omega
  | cons statement rest ih =>
      obtain ⟨ihle, ihlt, ihopen⟩ := ih
      have hopen : ∀ key body, saidLength (heard (some (key, body)) (statement :: rest))
          ≤ key.length + body.length + 4 + saidLength (statement :: rest) := by
        intro key body
        have hline := statement.length_line_le
        rw [heard, saidLength_cons]
        split
        · have hrest := ihopen key (body ++ statement.line).dropLast
          rw [List.length_dropLast, List.length_append] at hrest
          omega
        · have hclean := Line.length_cleanValue_le (body ++ statement.line)
          rw [List.length_append] at hclean
          rw [saidLength_cons, Statement.saidLength_assigned]
          omega
      cases hdangles : statement.dangles with
      | false =>
          rw [heard_of_closed hdangles, saidLength_cons, saidLength_cons]
          refine ⟨by omega, ?_, fun key body => ?_⟩
          · rintro ⟨other, hother, hgoes⟩
            rcases List.mem_cons.mp hother with rfl | hother
            · rw [hdangles] at hgoes
              cases hgoes
            · have hlt := ihlt ⟨other, hother, hgoes⟩
              omega
          · rw [← saidLength_cons]
            exact hopen key body
      | true =>
          obtain ⟨key, text, rfl, htext⟩ := Statement.exists_of_dangles hdangles
          have hlength : text.dropLast.length + 1 = text.length := by
            rw [List.length_dropLast]
            have hpos : 0 < text.length := by
              rw [List.length_pos_iff]
              rintro rfl
              cases htext
            omega
          have hrest := ihopen key text.dropLast
          have hlt : saidLength (heard none (.occurrence key (.assigned text) :: rest))
              < saidLength (.occurrence key (.assigned text) :: rest) := by
            rw [heard_of_continues htext, saidLength_cons, Statement.saidLength_assigned]
            omega
          exact ⟨Nat.le_of_lt hlt, fun _ => hlt, hopen⟩

/-- Statements that are taken in add at most what they say. -/
theorem ReadState.saidLength_take (state : ReadState) (statement : Statement) :
    saidLength (state.take statement).doc.statements
      ≤ saidLength state.doc.statements + statement.saidLength := by
  cases statement with
  | header id =>
      change saidLength (state.doc.openSection id).statements ≤ _
      rcases state.doc.statements_openSection id with heq | heq
      · rw [heq]
        exact Nat.le_add_right _ _
      · rw [heq, saidLength_append]
        exact Nat.le_refl _
  | occurrence key entry =>
      simp only [take]
      split
      · exact Nat.le_add_right _ _
      · rename_i identity hcurrent
        cases hget : state.doc.sections.get? identity with
        | none =>
            simp only [Document.record, hget]
            exact Nat.le_add_right _ _
        | some s =>
            have hperm := Document.statements_record hget key entry
            have hsum := (hperm.map Statement.saidLength).sum_nat
            unfold saidLength
            rw [hsum, List.map_append, List.sum_append]
            exact Nat.le_refl _

theorem ReadState.saidLength_foldl_take (statements : List Statement) (state : ReadState) :
    saidLength (statements.foldl take state).doc.statements
      ≤ saidLength state.doc.statements + saidLength statements := by
  induction statements generalizing state with
  | nil => exact Nat.le_add_right _ _
  | cons statement rest ih =>
      have htake := state.saidLength_take statement
      have hrest := ih (state.take statement)
      rw [List.foldl_cons, saidLength_cons]
      omega

namespace Document

/-- A document with a text that goes on says less once it is read back. -/
theorem saidLength_reread_lt {doc : Document} (h : ¬ doc.ValuesClosed) :
    saidLength doc.reread.statements < saidLength doc.statements := by
  have hgoes : ∃ statement ∈ doc.statements, statement.dangles = true := by
    rw [valuesClosed_iff] at h
    simpa using h
  have hheard := (saidLength_heard doc.statements).2.1 hgoes
  have htake := ReadState.saidLength_foldl_take (heard none doc.statements) ⟨empty, none, []⟩
  have hempty : saidLength empty.statements = 0 := rfl
  unfold reread extend
  rw [hempty] at htake
  omega

theorem saidLength_statements (doc : Document) :
    saidLength doc.statements
      = ((doc.sectionList.map fun s => (s.id.identity, s.signature)).map fun p =>
          p.1.length + 3 + (p.2.map fun signature => signature.length + 3).sum).sum := by
  have hsection : ∀ s : Section, (s.statements.map Statement.saidLength).sum
      = s.id.identity.length + 3
        + (s.signature.map fun signature => signature.length + 3).sum := by
    intro s
    unfold Section.statements Section.signature occurrencesOf
    rw [List.map_cons, List.sum_cons, List.map_flatMap, List.map_flatMap]
    simp only [List.map_map]
    rfl
  unfold saidLength statements
  rw [List.map_flatMap, List.map_map]
  induction doc.sectionList with
  | nil => rfl
  | cons s sections ih =>
      rw [List.flatMap_cons, List.sum_append, ih, hsection, List.map_cons, List.sum_cons]
      rfl

/-- Equal documents say the same amount. -/
theorem saidLength_eq_of_equals {a b : Document} (h : a.equals b = true) :
    saidLength a.statements = saidLength b.statements := by
  have hsame := beq_iff_eq.mp h
  rw [saidLength_statements, saidLength_statements, hsame]

/-! ## When a document is read back as an equal one -/

/-- The text of a document is read back, and as an equal document. -/
def RereadsAsEqual (doc : Document) : Prop :=
  ∃ again, ofText doc.toText = .ok again ∧ doc.equals again = true

/-- Equal documents have the same names. -/
theorem hasOneLineNames_of_equals {a b : Document} (h : a.equals b = true)
    (hb : b.HasOneLineNames) : a.HasOneLineNames := by
  have hsame := beq_iff_eq.mp h
  intro s hs
  have hmem : (s.id.identity, s.signature)
      ∈ b.sectionList.map fun t => (t.id.identity, t.signature) := by
    rw [← hsame]
    exact List.mem_map_of_mem hs
  obtain ⟨t, ht, heq⟩ := List.mem_map.mp hmem
  have hidentity : t.id.identity = s.id.identity := congrArg Prod.fst heq
  rw [← hidentity]
  exact hb t ht

/-- A well-formed document is read back as an equal one exactly if its texts are closed and its
names hold no line feed. -/
theorem rereadsAsEqual_iff {doc : Document} (h : doc.WellFormed) :
    doc.RereadsAsEqual ↔ doc.ValuesClosed ∧ doc.HasOneLineNames := by
  constructor
  · rintro ⟨again, hread, hequal⟩
    have hnames := hasOneLineNames_of_equals hequal (hasOneLineNames_of_ofText hread)
    refine ⟨?_, hnames⟩
    rw [ofText_toText h hnames] at hread
    obtain rfl := Except.ok.inj hread
    by_contra hopen
    have hlt := saidLength_reread_lt hopen
    have heq := saidLength_eq_of_equals hequal
    omega
  · rintro ⟨hclosed, hnames⟩
    refine ⟨doc, ?_, equals_self doc⟩
    rw [ofText_toText h hnames, reread_eq_self h hclosed]

end Document

end ConfigEditor
