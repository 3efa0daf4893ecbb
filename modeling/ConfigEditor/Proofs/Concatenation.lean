import ConfigEditor.Proofs.Document.Merge
import ConfigEditor.Proofs.Reread
set_option autoImplicit false

/-!
# Texts one below the other

If the text `b` stands below the text `a`, with an empty line between, then what is read is the
document of `b` merged into that of `a` (`ofText_append`).  A reader of the whole text has read
`a` when it comes to `b`; from there on it does what a reader of `b` alone does, but in a document
that already holds what `a` says (`ReadState.Continues`).  The lines of `b` have other numbers in
the whole text, which only a report on bad lines would show (`Token.atLine`).
-/

namespace ConfigEditor

/-! ## Tokens on other lines -/

namespace Token

/-- The same token on another line. -/
def atLine (n : Nat) : Token → Token
  | blank _ => blank n
  | comment _ text => comment n text
  | header _ text id => header n text id
  | entry _ text key value => entry n text key value
  | invalid _ text fault => invalid n text fault

theorem ofHeader_atLine (n m : Nat) (text content : Text) :
    (ofHeader n text content).atLine m = ofHeader m text content := by
  unfold ofHeader
  split
  · rfl
  · split <;> rfl

theorem ofEntry_atLine (n m : Nat) (text content : Text) :
    (ofEntry n text content).atLine m = ofEntry m text content := by
  unfold ofEntry
  split <;> rfl

/-- What a line is does not depend on its number. -/
theorem classify_atLine (n m : Nat) (text : Text) :
    (classify n text).atLine m = classify m text := by
  unfold classify
  simp only
  split
  · rfl
  · split
    · rfl
    · split
      · exact ofHeader_atLine n m text _
      · exact ofEntry_atLine n m text _

/-- A token adds nothing that would not be a section with stored values. -/
theorem every_true (token : Token) : token.Every (fun _ => True) fun _ _ => True := by
  cases token with
  | entry line text key value => exact fun _ => trivial
  | _ => exact trivial

end Token

/-- The token of a logical line. -/
def LogicalLine.token (joined : LogicalLine) : Token := Token.classify joined.line joined.text

/-! ## Two readers -/

namespace ReadState

theorem problems_reject_ne_nil (state : ReadState) (line : Nat) (text : Text)
    (fault : LineFault) : (state.reject line text fault).problems ≠ [] :=
  List.append_ne_nil_of_right_ne_nil _ (List.cons_ne_nil _ _)

/-- An entry that is no problem has a valid key, and a section is at hand. -/
theorem of_step_entry {state : ReadState} {line : Nat} {text key : Text} {value : Option Text}
    (h : (state.step (.entry line text key value)).problems = []) :
    Key.isValid key = true ∧ ∃ identity, state.current = some identity := by
  unfold step at h
  simp only at h
  split at h
  · rename_i hkey
    split at h
    · exact absurd h (problems_reject_ne_nil state line text _)
    · rename_i identity hcurrent
      exact ⟨hkey, identity, hcurrent⟩
  · split at h <;> exact absurd h (problems_reject_ne_nil state line text _)

/-- Such an entry is recorded in the section at hand. -/
theorem step_valid_entry {state : ReadState} {key identity : Text}
    (hkey : Key.isValid key = true) (hcurrent : state.current = some identity) (line : Nat)
    (text : Text) (value : Option Text) :
    state.step (.entry line text key value) =
      { state with doc := state.doc.record identity (Key.normalize key) (entryOf value) } := by
  simp only [step, hkey, hcurrent, if_true]

/-- A reader hands out its document if it met no problem. -/
theorem finish_eq_ok_iff (state : ReadState) (doc : Document) :
    state.finish = .ok doc ↔ state.problems = [] ∧ state.doc = doc := by
  unfold finish
  split
  · rename_i hempty
    exact ⟨fun h => ⟨List.isEmpty_iff.mp hempty, Except.ok.inj h⟩, fun h => congrArg _ h.2⟩
  · rename_i hproblems
    refine ⟨fun h => (by cases h), fun h => ?_⟩
    exact absurd (List.isEmpty_iff.mpr h.1) hproblems

/-- Problems are only added. -/
theorem problems_of_step {state : ReadState} {token : Token}
    (h : (state.step token).problems = []) : state.problems = [] := by
  cases token with
  | blank line => exact h
  | comment line text => exact h
  | header line text id => exact h
  | invalid line text fault => exact absurd h (problems_reject_ne_nil state line text fault)
  | entry line text key value =>
      obtain ⟨hkey, identity, hcurrent⟩ := of_step_entry h
      rwa [step_valid_entry hkey hcurrent] at h

theorem problems_of_foldl_step {tokens : List Token} {state : ReadState}
    (h : (tokens.foldl step state).problems = []) : state.problems = [] := by
  induction tokens generalizing state with
  | nil => exact h
  | cons token rest ih => exact problems_of_step (ih h)

/-- The reader `t` does what the reader `s` does, in a document that holds `target` already.
Where `s` has no section at hand yet, `t` may have one, but then `s` meets no entry. -/
structure Continues (target : Document) (s t : ReadState) : Prop where
  doc : t.doc = target.merge s.doc
  current : ∀ identity, s.current = some identity → t.current = some identity
  problems : t.problems = []
  hasCurrent : s.HasCurrent
  stored : s.doc.Every (fun _ => True) fun _ _ => True

theorem Continues.step {target : Document} {s t : ReadState} (h : Continues target s t)
    {token : Token} (hproblems : (s.step token).problems = []) (n : Nat) :
    Continues target (s.step token) (t.step (token.atLine n)) := by
  have hstored : (s.step token).doc.Every (fun _ => True) fun _ _ => True :=
    every_step h.stored token.every_true
  cases token with
  | blank line => exact h
  | comment line text => exact h
  | header line text id =>
      refine ⟨?_, fun _ hcurrent => hcurrent, h.problems, ?_, hstored⟩
      · change t.doc.openSection id = target.merge (s.doc.openSection id)
        rw [h.doc, Document.merge_openSection target h.stored]
      · intro identity hcurrent
        obtain rfl := Option.some.inj hcurrent
        exact s.doc.exists_of_openSection id
  | invalid line text fault =>
      exact absurd hproblems (problems_reject_ne_nil s line text fault)
  | entry line text key value =>
      obtain ⟨hkey, identity, hcurrent⟩ := of_step_entry hproblems
      have hfollows : t.current = some identity := h.current identity hcurrent
      obtain ⟨found, hfound⟩ := h.hasCurrent identity hcurrent
      rw [step_valid_entry hkey hcurrent] at hstored ⊢
      change Continues target _ (t.step (.entry n text key value))
      rw [step_valid_entry hkey hfollows]
      refine ⟨?_, h.current, h.problems, ?_, hstored⟩
      · change t.doc.record identity _ _ = target.merge (s.doc.record identity _ _)
        rw [h.doc, Document.merge_record target h.stored hfound]
      · intro other hother
        exact Document.exists_of_record (h.hasCurrent other hother) identity _ _

/-- Two readers of the same lines, which may have other numbers, do the same to the end. -/
theorem Continues.foldl_step {target : Document} {lines others : List LogicalLine}
    (htexts : lines.map LogicalLine.text = others.map LogicalLine.text) {s t : ReadState}
    (h : Continues target s t)
    (hproblems : ((lines.map LogicalLine.token).foldl ReadState.step s).problems = []) :
    Continues target ((lines.map LogicalLine.token).foldl ReadState.step s)
      ((others.map LogicalLine.token).foldl ReadState.step t) := by
  induction lines generalizing others s t with
  | nil =>
      obtain rfl : others = [] := List.map_eq_nil_iff.mp htexts.symm
      exact h
  | cons line lines ih =>
      cases others with
      | nil => cases htexts
      | cons other others =>
          obtain ⟨htext, hrest⟩ := List.cons.inj htexts
          rw [List.map_cons, List.foldl_cons] at hproblems
          have hstep := h.step (problems_of_foldl_step hproblems) other.line
          have htoken : line.token.atLine other.line = other.token := by
            unfold LogicalLine.token
            rw [Token.classify_atLine, htext]
          rw [htoken] at hstep
          exact ih hrest hstep hproblems

theorem foldl_step_of_empty {lines : List LogicalLine} (h : ∀ joined ∈ lines, joined.text = [])
    (state : ReadState) : (lines.map LogicalLine.token).foldl step state = state := by
  induction lines with
  | nil => rfl
  | cons line lines ih =>
      have hblank : line.token = .blank line.line := by
        unfold LogicalLine.token
        rw [h line List.mem_cons_self]
        rfl
      rw [List.map_cons, List.foldl_cons, hblank]
      exact ih fun joined hjoined => h joined (List.mem_cons_of_mem line hjoined)

end ReadState

/-! ## Two texts -/

namespace Document

/-- What a reader has made of a text at its end. -/
theorem ofText_eq_ok_iff {text : Text} {doc : Document} :
    ofText text = .ok doc ↔
      (((LogicalLine.ofText text).map LogicalLine.token).foldl ReadState.step .start).problems
          = [] ∧
        (((LogicalLine.ofText text).map LogicalLine.token).foldl ReadState.step .start).doc
          = doc :=
  ReadState.finish_eq_ok_iff _ doc

/-- Texts with an empty line between them are read as the merged documents. -/
theorem ofText_append {a b : Text} {first second : Document} (hend : a.getLast? ≠ some '\r')
    (ha : ofText a = .ok first) (hb : ofText b = .ok second) :
    ofText (a ++ '\n' :: '\n' :: b) = .ok (first.merge second) := by
  obtain ⟨haproblems, hadoc⟩ := ofText_eq_ok_iff.mp ha
  obtain ⟨hbproblems, hbdoc⟩ := ofText_eq_ok_iff.mp hb
  have hlines : Line.physicalLines (a ++ '\n' :: '\n' :: b)
      = Line.physicalLines a ++ [] :: Line.physicalLines b :=
    Line.physicalLines_append hend ('\n' :: b)
  obtain ⟨between, after, hblank, hjoin⟩ := LogicalLine.join_append_nil none (by simp) 1
    (Line.physicalLines a) (Line.physicalLines b)
  have htexts : (LogicalLine.ofText b).map LogicalLine.text
      = (LogicalLine.join none after (Line.physicalLines b)).map LogicalLine.text :=
    LogicalLine.map_text_join rfl 1 after _
  -- at the end of `a`, and still after the empty line, the reader of `b` has to start
  have hstart : ReadState.Continues first .start
      (((LogicalLine.ofText a).map LogicalLine.token).foldl ReadState.step .start) :=
    ⟨hadoc, by rintro _ ⟨⟩, haproblems, by rintro _ ⟨⟩, every_empty⟩
  have hcontinues := hstart.foldl_step htexts hbproblems
  have hwhole : ((LogicalLine.ofText (a ++ '\n' :: '\n' :: b)).map LogicalLine.token).foldl
        ReadState.step .start
      = ((LogicalLine.join none after (Line.physicalLines b)).map LogicalLine.token).foldl
          ReadState.step
          (((LogicalLine.ofText a).map LogicalLine.token).foldl ReadState.step .start) := by
    unfold LogicalLine.ofText
    rw [hlines, hjoin, List.map_append, List.map_append, List.foldl_append, List.foldl_append,
      ReadState.foldl_step_of_empty hblank]
  rw [ofText_eq_ok_iff, hwhole]
  refine ⟨hcontinues.problems, ?_⟩
  rw [hcontinues.doc, hbdoc]

/-- Reading is a homomorphism into merging: a text below another, an empty line between them, is
read as a document that equals the merged ones. -/
theorem exists_ofText_append_equals {a b : Text} {first second : Document}
    (hend : a.getLast? ≠ some '\r') (ha : ofText a = .ok first) (hb : ofText b = .ok second) :
    ∃ whole, ofText (a ++ "\n\n".toList ++ b) = .ok whole ∧
      whole.equals (first.merge second) = true := by
  refine ⟨first.merge second, ?_, equals_self _⟩
  rw [List.append_assoc]
  exact ofText_append hend ha hb

/-- The last line of the first text is left open, and the second reopens a section and a key. -/
theorem open_line_before_reopened_section :
    ∃ first second whole, ofText "[x]\nk = 1\\".toList = .ok first ∧
      ofText "[y]\n[x]\nj\nK = 2".toList = .ok second ∧
      ofText ("[x]\nk = 1\\".toList ++ "\n\n".toList ++ "[y]\n[x]\nj\nK = 2".toList) = .ok whole ∧
      whole.equals (first.merge second) = true := by
  obtain ⟨first, hfirst⟩ := exists_of_isOk
    (show (ofText "[x]\nk = 1\\".toList).isOk = true by decide +kernel)
  obtain ⟨second, hsecond⟩ := exists_of_isOk
    (show (ofText "[y]\n[x]\nj\nK = 2".toList).isOk = true by decide +kernel)
  obtain ⟨whole, hread, hequal⟩ :=
    exists_ofText_append_equals (by decide +kernel) hfirst hsecond
  exact ⟨first, second, whole, hfirst, hsecond, hread, hequal⟩

end Document

end ConfigEditor
