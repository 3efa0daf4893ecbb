import ConfigEditor.Proofs.LineGroups
import ConfigEditor.Document.OfText
import Mathlib.Data.List.Forall2
set_option autoImplicit false

/-!
# Reports: which tokens are problems

A token is bad where it stands if it is invalid, if it is an entry without a valid key, or if it is
an entry and no header stands before it (`Token.isBadAfter`).  The reader knows of the tokens
before only whether a section is at hand; that is all it needs (`ReadState.current_step`).  Each
step reports a bad token and nothing else (`ReadState.report_step`), so that a failed reading tells
all bad tokens of the text, each once and in order (`Document.ofText_reports`).
-/

namespace ConfigEditor

namespace Token

/-! ## Bad tokens -/

/-- The token is a header. -/
def isHeader : Token → Bool
  | header _ _ _ => true
  | _ => false

/-- The token may not stand behind the tokens `before`. -/
def isBadAfter (before : List Token) : Token → Bool
  | invalid _ _ _ => true
  | entry _ _ key _ => !Key.isValid key || !before.any isHeader
  | _ => false

/-- The bad ones among tokens that stand behind `before`, in order. -/
def badAfter (before : List Token) : List Token → List Token
  | [] => []
  | token :: rest =>
    if token.isBadAfter before then token :: badAfter (before ++ [token]) rest
    else badAfter (before ++ [token]) rest

theorem badAfter_sublist (before tokens : List Token) :
    (badAfter before tokens).Sublist tokens := by
  induction tokens generalizing before with
  | nil => exact .slnil
  | cons token rest ih =>
      unfold badAfter
      split
      · exact (ih _).cons_cons token
      · exact (ih _).cons token

/-- A token is bad by what stands before it. -/
theorem badAfter_ne_nil_iff (before tokens : List Token) :
    badAfter before tokens ≠ [] ↔
      ∃ front token back, tokens = front ++ token :: back ∧
        token.isBadAfter (before ++ front) = true := by
  induction tokens generalizing before with
  | nil => simp [badAfter]
  | cons head rest ih =>
      unfold badAfter
      split
      · rename_i hbad
        refine ⟨fun _ => ⟨[], head, rest, rfl, ?_⟩, fun _ => List.cons_ne_nil _ _⟩
        rwa [List.append_nil]
      · rename_i hgood
        rw [ih]
        constructor
        · rintro ⟨front, token, back, rfl, hbad⟩
          refine ⟨head :: front, token, back, rfl, ?_⟩
          rwa [List.append_cons]
        · rintro ⟨front, token, back, hsplit, hbad⟩
          cases front with
          | nil =>
              obtain ⟨rfl, rfl⟩ := List.cons.inj hsplit
              rw [List.append_nil] at hbad
              exact absurd hbad hgood
          | cons first front =>
              obtain ⟨rfl, rfl⟩ := List.cons.inj hsplit
              refine ⟨front, token, back, rfl, ?_⟩
              rwa [List.append_cons] at hbad

/-! ## Problems -/

/-- The text of a token.  A blank one keeps none. -/
def text? : Token → Option Text
  | blank _ => none
  | comment _ text => some text
  | header _ text _ => some text
  | entry _ text _ _ => some text
  | invalid _ text _ => some text

/-- What a bad token is reported for.  An entry with a valid key is bad only for its place. -/
def cause? : Token → Option LineFault
  | invalid _ _ fault => some fault
  | entry _ _ key _ =>
    if Key.isValid key then some .outsideSection
    else if key.isEmpty then some .missingKey
    else some (.invalidKey key)
  | _ => none

/-- A problem reports a token: it names its line, quotes its text and tells what is wrong. -/
structure ReportedAs (token : Token) (problem : Problem) : Prop where
  line : problem.line = token.line
  text : token.text? = some problem.text
  cause : token.cause? = some problem.fault

end Token

/-! ## One step -/

namespace ReadState

variable {state : ReadState} {before : List Token}

/-- A section is at hand once there was a header. -/
theorem current_step (h : state.current.isSome = before.any Token.isHeader) (token : Token) :
    (state.step token).current.isSome = (before ++ [token]).any Token.isHeader := by
  rw [List.any_append, ← h]
  cases token with
  | blank line => simp [step, Token.isHeader]
  | comment line text => simp [step, Token.isHeader]
  | header line text id => simp [step, Token.isHeader]
  | invalid line text fault => simp [step, reject, Token.isHeader]
  | entry line text key value =>
      unfold step
      simp only
      split
      · split
        · simp [reject, Token.isHeader]
        · rename_i identity hcurrent
          simp [hcurrent, Token.isHeader]
      · split <;> simp [reject, Token.isHeader]

/-- A bad entry is reported, whichever way it is bad. -/
theorem step_bad_entry (h : state.current.isSome = before.any Token.isHeader) {line : Nat}
    {text key : Text} {value : Option Text}
    (hbad : (Token.entry line text key value).isBadAfter before = true) :
    ∃ cause, (Token.entry line text key value).cause? = some cause ∧
      state.step (.entry line text key value) = state.reject line text cause := by
  simp only [Token.isBadAfter, ← h] at hbad
  simp only [Token.cause?, step]
  cases hkey : Key.isValid key with
  | false =>
      cases hempty : key.isEmpty with
      | true => exact ⟨_, rfl, rfl⟩
      | false => exact ⟨_, rfl, rfl⟩
  | true =>
      have hnone : state.current = none := by simpa [hkey] using hbad
      rw [hnone]
      exact ⟨_, rfl, rfl⟩

/-- A good entry is recorded. -/
theorem problems_step_good_entry (h : state.current.isSome = before.any Token.isHeader)
    {line : Nat} {text key : Text} {value : Option Text}
    (hgood : ¬ (Token.entry line text key value).isBadAfter before = true) :
    (state.step (.entry line text key value)).problems = state.problems := by
  simp only [Token.isBadAfter, ← h, Bool.or_eq_true, Bool.not_eq_true', not_or,
    Bool.not_eq_false] at hgood
  obtain ⟨hkey, hcurrent⟩ := hgood
  obtain ⟨identity, hidentity⟩ := Option.isSome_iff_exists.mp hcurrent
  simp only [step, hkey, hidentity, if_true]

/-- A step reports its token if that is bad, and nothing else. -/
theorem report_step (h : state.current.isSome = before.any Token.isHeader) (token : Token) :
    if token.isBadAfter before then
      ∃ problem, (state.step token).problems = state.problems ++ [problem] ∧
        token.ReportedAs problem
    else (state.step token).problems = state.problems := by
  cases token with
  | blank line => rfl
  | comment line text => rfl
  | header line text id => rfl
  | invalid line text fault => exact ⟨⟨line, text, fault⟩, rfl, rfl, rfl, rfl⟩
  | entry line text key value =>
      split
      · rename_i hbad
        obtain ⟨cause, hcause, hstep⟩ := step_bad_entry h hbad
        refine ⟨⟨line, text, cause⟩, ?_, rfl, rfl, hcause⟩
        rw [hstep, reject]
      · rename_i hgood
        exact problems_step_good_entry h hgood

/-! ## A whole run -/

/-- Reading on reports the bad ones among the tokens, each once and in order. -/
theorem report_foldl_step (h : state.current.isSome = before.any Token.isHeader)
    (tokens : List Token) :
    ∃ added, (tokens.foldl step state).problems = state.problems ++ added ∧
      List.Forall₂ Token.ReportedAs (Token.badAfter before tokens) added := by
  induction tokens generalizing state before with
  | nil => exact ⟨[], (List.append_nil _).symm, .nil⟩
  | cons token rest ih =>
      obtain ⟨added, hproblems, hreported⟩ := ih (current_step h token)
      have hstep := report_step h token
      unfold Token.badAfter
      split
      · rename_i hbad
        rw [if_pos hbad] at hstep
        obtain ⟨problem, hfirst, hreports⟩ := hstep
        refine ⟨problem :: added, ?_, .cons hreports hreported⟩
        rw [List.foldl_cons, hproblems, hfirst, List.append_assoc, List.singleton_append]
      · rename_i hgood
        rw [if_neg hgood] at hstep
        refine ⟨added, ?_, hreported⟩
        rw [List.foldl_cons, hproblems, hstep]

end ReadState

/-- Problems have the lines of the tokens that they report. -/
theorem Token.map_line_of_reported {tokens : List Token} {problems : List Problem}
    (h : List.Forall₂ Token.ReportedAs tokens problems) :
    problems.map Problem.line = tokens.map Token.line := by
  induction h with
  | nil => rfl
  | cons hreports _ ih => rw [List.map_cons, List.map_cons, hreports.line, ih]

namespace Document

/-- Reading fails with the report on all bad tokens, if there are any. -/
theorem ofTokens_eq (tokens : List Token) :
    ∃ problems, List.Forall₂ Token.ReportedAs (Token.badAfter [] tokens) problems ∧
      (problems = [] → ∃ doc, ofTokens tokens = .ok doc) ∧
      (problems ≠ [] → ofTokens tokens = .error (.badLines problems)) := by
  have hstart : ReadState.start.current.isSome = ([] : List Token).any Token.isHeader := rfl
  obtain ⟨problems, hproblems, hreported⟩ := ReadState.report_foldl_step hstart tokens
  have hall : (tokens.foldl ReadState.step .start).problems = problems := hproblems
  refine ⟨problems, hreported, ?_, ?_⟩
  · intro hnone
    refine ⟨(tokens.foldl ReadState.step .start).doc, ?_⟩
    unfold ofTokens ReadState.finish
    rw [hall, hnone]
    rfl
  · intro hsome
    unfold ofTokens ReadState.finish
    rw [hall, if_neg (by simpa using hsome)]

/-- Reading a text fails exactly if one of its tokens is bad.  Then the report has one problem for
each bad token, in order; their lines increase and are lines of the text. -/
theorem ofText_reports (text : Text) :
    ((∃ fault, ofText text = .error fault) ↔
        ∃ before token after, Token.tokenize text = before ++ token :: after ∧
          token.isBadAfter before = true) ∧
      ∀ fault, ofText text = .error fault → ∃ problems, fault = .badLines problems ∧
        List.Forall₂ Token.ReportedAs (Token.badAfter [] (Token.tokenize text)) problems ∧
        (problems.map Problem.line).Pairwise (· < ·) ∧
        ∀ problem ∈ problems,
          1 ≤ problem.line ∧ problem.line ≤ (Line.physicalLines text).length := by
  obtain ⟨problems, hreported, hgood, hbad⟩ := ofTokens_eq (Token.tokenize text)
  have hnone : problems = [] ↔ Token.badAfter [] (Token.tokenize text) = [] := by
    rw [← List.length_eq_zero_iff, ← List.length_eq_zero_iff, hreported.length_eq]
  have hlines := Token.map_line_of_reported hreported
  have hsublist := Token.badAfter_sublist [] (Token.tokenize text)
  have hfails : (∃ fault, ofText text = .error fault) ↔ problems ≠ [] := by
    constructor
    · rintro ⟨fault, hfault⟩ hnil
      obtain ⟨doc, hdoc⟩ := hgood hnil
      rw [ofText, hdoc] at hfault
      cases hfault
    · intro hsome
      exact ⟨_, hbad hsome⟩
  constructor
  · rw [hfails, ne_eq, hnone, ← ne_eq, Token.badAfter_ne_nil_iff]
    rfl
  · intro fault hfault
    have hsome := hfails.mp ⟨fault, hfault⟩
    rw [ofText, hbad hsome] at hfault
    refine ⟨problems, (Except.error.inj hfault).symm, hreported, ?_, ?_⟩
    · rw [hlines]
      exact (Token.pairwise_line_tokenize text).sublist (hsublist.map Token.line)
    · intro problem hproblem
      have hline : problem.line ∈ problems.map Problem.line := List.mem_map_of_mem hproblem
      rw [hlines] at hline
      obtain ⟨token, htoken, heq⟩ := List.mem_map.mp hline
      rw [← heq]
      exact Token.line_bounds_of_mem_tokenize (hsublist.subset htoken)

/-- An entry before the first header, a header without its closing bracket, which opens no section,
and an entry of two lines whose key has a blank in it. -/
theorem ofText_reports_three :
    ofText "k\n[a\n[b]\nx y\\\nz\nm".toList = .error (.badLines
      [⟨1, "k".toList, .outsideSection⟩, ⟨2, "[a".toList, .unterminatedHeader⟩,
        ⟨4, "x yz".toList, .invalidKey "x yz".toList⟩]) ∧
    ∃ problems, Fault.badLines
        [⟨1, "k".toList, .outsideSection⟩, ⟨2, "[a".toList, .unterminatedHeader⟩,
          ⟨4, "x yz".toList, .invalidKey "x yz".toList⟩] = .badLines problems ∧
      List.Forall₂ Token.ReportedAs
        (Token.badAfter [] (Token.tokenize "k\n[a\n[b]\nx y\\\nz\nm".toList)) problems ∧
      (problems.map Problem.line).Pairwise (· < ·) ∧
      ∀ problem ∈ problems, 1 ≤ problem.line ∧
        problem.line ≤ (Line.physicalLines "k\n[a\n[b]\nx y\\\nz\nm".toList).length := by
  have hfails : ofText "k\n[a\n[b]\nx y\\\nz\nm".toList = .error (.badLines
      [⟨1, "k".toList, .outsideSection⟩, ⟨2, "[a".toList, .unterminatedHeader⟩,
        ⟨4, "x yz".toList, .invalidKey "x yz".toList⟩]) := by decide +kernel
  exact ⟨hfails, (ofText_reports _).2 _ hfails⟩

end Document

end ConfigEditor
