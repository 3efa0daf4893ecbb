import ConfigEditor.Document.Change
import ConfigEditor.Proofs.Procedure
set_option autoImplicit false

/-!
# Edits: what they answer and what they leave

An edit works on a document step by step.  Performed to the end it has one equation, by the checks
that it makes (`Document.set_eq` and so on), and later proofs go by these and do not perform it
again.

Every edit of the library makes all its checks before it changes anything, so one that fails leaves
the document as it was (`Change.keepsOnFault_edit`).  This is not so of every procedure: the
assignment of a command opens its section before it checks the key and the value, and fails with
the section open (`Command.assign_leaves_section_open`).
-/

namespace ConfigEditor

open Procedure

/-! ## What edits answer -/

namespace Document

theorem addSection_eq (doc : Document) (name : Text) :
    doc.addSection name =
      match SectionId.ofHeader name with
      | .error refusal => .error (.refused refusal)
      | .ok id => .ok (!doc.sections.contains id.identity, doc.openSection id) := by
  unfold addSection Edit.addSection
  cases SectionId.ofHeader name <;> rfl

theorem set_eq (doc : Document) (name key value : Text) :
    doc.set name key value =
      (doc.checkAssignment name key value).map fun (s, normal, text) =>
        doc.withOptions name s (s.options.insert normal (.one (.assigned text))) := by
  unfold set Edit.set result
  rw [perform_bind, perform_ask]
  cases doc.checkAssignment name key value <;> rfl

theorem set_eq_ok_iff {doc after : Document} {name key value : Text} :
    doc.set name key value = .ok after ↔
      (Edit.set name key value).perform doc = (.ok (), after) :=
  map_snd_result_eq_ok_iff

theorem add_eq (doc : Document) (name key value : Text) :
    doc.add name key value =
      (doc.checkAssignment name key value).map fun (s, normal, text) =>
        doc.withOptions name s (s.record normal (.assigned text)).options := by
  unfold add Edit.add result
  rw [perform_bind, perform_ask]
  cases doc.checkAssignment name key value <;> rfl

theorem add_eq_ok_iff {doc after : Document} {name key value : Text} :
    doc.add name key value = .ok after ↔
      (Edit.add name key value).perform doc = (.ok (), after) :=
  map_snd_result_eq_ok_iff

theorem removeOption_eq (doc : Document) (name key : Text) :
    doc.removeOption name key =
      (doc.findSection name).map fun s =>
        (s.options.contains (Key.normalize key),
          doc.withOptions name s (s.options.erase (Key.normalize key))) := by
  unfold removeOption Edit.removeOption result
  rw [perform_bind, perform_ask]
  cases doc.findSection name <;> rfl

/-- What a removal by a pattern answers once the section is found and the pattern read. -/
theorem removeMatching_eq (doc : Document) (name key : Text) (pattern : PatternArgument) :
    doc.removeMatching name key pattern =
      match doc.findSection name with
      | .error fault => .error fault
      | .ok s =>
        match pattern.compile with
        | .error fault => .error fault
        | .ok found =>
          match s.options.get? (Key.normalize key) with
          | none => .ok (false, doc)
          | some value =>
            match value.retain fun entry => !found entry.text with
            | none =>
              if value.entries.length = 0 then .ok (false, doc)
              else .ok (true, doc.withOptions name s (s.options.erase (Key.normalize key)))
            | some rest =>
              if rest.entries.length = value.entries.length then .ok (false, doc)
              else .ok (true, doc.withOptions name s (s.options.insert (Key.normalize key) rest)) := by
  unfold removeMatching Edit.removeMatching result
  rw [perform_bind, perform_ask]
  cases doc.findSection name with
  | error fault => rfl
  | ok s =>
      dsimp only
      rw [perform_bind, perform_ofResult]
      cases pattern.compile with
      | error fault => rfl
      | ok found =>
          dsimp only
          cases s.options.get? (Key.normalize key) with
          | none => rfl
          | some value =>
              dsimp only
              cases value.retain fun entry => !found entry.text with
              | none =>
                  by_cases hlength : value.entries.length = 0
                  · simp only [Option.elim_none, hlength, if_true]
                    rfl
                  · simp only [Option.elim_none, hlength, Ne.symm hlength, if_false]
                    rfl
              | some rest =>
                  by_cases hlength : rest.entries.length = value.entries.length
                  · simp only [Option.elim_some, hlength, if_true]
                    rfl
                  · simp only [Option.elim_some, hlength, if_false]
                    rfl

theorem read_eq (doc : Document) (source : Source) (label : Text) :
    doc.read source label = (ofSource source label).map doc.merge := by
  unfold read Edit.read result
  cases ofSource source label <;> rfl

end Document

/-! ## What edits leave -/

namespace Edit

theorem keepsOnFault_addSection (name : Text) : (addSection name).KeepsOnFault :=
  (looksOnly_ofRefusal _).bind_keepsOnFault fun _ =>
    looksOnly_get.bind_keepsOnFault fun _ =>
      ((succeeds_modify _).bind fun _ => succeeds_pure _).keepsOnFault

theorem keepsOnFault_set (name key value : Text) : (set name key value).KeepsOnFault :=
  (looksOnly_ask _).bind_keepsOnFault fun _ => (succeeds_modify _).keepsOnFault

theorem keepsOnFault_add (name key value : Text) : (add name key value).KeepsOnFault :=
  (looksOnly_ask _).bind_keepsOnFault fun _ => (succeeds_modify _).keepsOnFault

theorem keepsOnFault_removeOption (name key : Text) : (removeOption name key).KeepsOnFault :=
  (looksOnly_ask _).bind_keepsOnFault fun _ =>
    ((succeeds_modify _).bind fun _ => succeeds_pure _).keepsOnFault

theorem succeeds_putRemaining (name key : Text) (s : Section) (remaining : Option Stored) :
    (putRemaining name key s remaining).Succeeds := by
  cases remaining <;> exact succeeds_modify _

theorem keepsOnFault_removeMatching (name key : Text) (pattern : PatternArgument) :
    (removeMatching name key pattern).KeepsOnFault := by
  refine (looksOnly_ask _).bind_keepsOnFault fun s => ?_
  refine (looksOnly_ofResult _).bind_keepsOnFault fun found => Succeeds.keepsOnFault ?_
  split
  · exact succeeds_pure _
  · dsimp only
    split
    · exact succeeds_pure _
    · exact (succeeds_putRemaining _ _ _ _).bind fun _ => succeeds_pure _

theorem keepsOnFault_read (source : Source) (label : Text) : (read source label).KeepsOnFault :=
  (looksOnly_ofResult _).bind_keepsOnFault fun _ => (succeeds_modify _).keepsOnFault

end Edit

/-- Whatever the call, all its checks come before its changes. -/
theorem Change.keepsOnFault_edit (change : Change) : change.edit.KeepsOnFault := by
  cases change with
  | addSection name => exact (Edit.keepsOnFault_addSection name).bind fun _ => succeeds_pure _
  | removeSection name =>
      have hremove : (Edit.removeSection name).Succeeds := fun doc => ⟨_, _, rfl⟩
      exact (hremove.bind fun _ => succeeds_pure _).keepsOnFault
  | openSection input =>
      refine (looksOnly_ofRefusal _).bind_keepsOnFault fun id => Succeeds.keepsOnFault ?_
      exact (succeeds_modify _).bind fun _ => succeeds_get.bind fun _ => succeeds_pure _
  | set name key value => exact (Edit.keepsOnFault_set name key value).bind fun _ => succeeds_pure _
  | add name key value => exact (Edit.keepsOnFault_add name key value).bind fun _ => succeeds_pure _
  | removeOption name key =>
      exact (Edit.keepsOnFault_removeOption name key).bind fun _ => succeeds_pure _
  | removeMatching name key pattern =>
      exact (Edit.keepsOnFault_removeMatching name key pattern).bind fun _ => succeeds_pure _
  | merge source => exact ((succeeds_modify _).bind fun _ => succeeds_pure _).keepsOnFault
  | mergeSelf => exact ((succeeds_modify _).bind fun _ => succeeds_pure _).keepsOnFault
  | read source label => exact (Edit.keepsOnFault_read source label).bind fun _ => succeeds_pure _

namespace Change

/-- A change that fails leaves the document as it was. -/
theorem apply_of_error {doc after : Document} {change : Change} {fault : Fault}
    (h : change.apply doc = (.error fault, after)) : after = doc :=
  change.keepsOnFault_edit doc fault after h

/-- What a change tells and leaves is the outcome and the document after it, or a fault and the
document before. -/
theorem apply_eq (doc : Document) (change : Change) :
    change.apply doc =
      match change.attempt doc with
      | .ok (outcome, after) => (.ok outcome, after)
      | .error fault => (.error fault, doc) := by
  unfold attempt
  cases hresult : change.edit.result doc with
  | ok made => exact result_eq_ok_iff.mp hresult
  | error fault =>
      have happly := perform_eq_of_fst (result_eq_error_iff.mp hresult)
      have hsame := change.keepsOnFault_edit doc fault _ happly
      rw [hsame] at happly
      exact happly

/-- An edit that has nothing to tell. -/
theorem result_bind_done (procedure : Edit Unit) (doc : Document) :
    (do procedure; pure Outcome.done : Edit Outcome).result doc =
      ((procedure.result doc).map Prod.snd).map fun after => (.done, after) := by
  refine (result_bind_pure procedure (fun _ => Outcome.done) doc).trans ?_
  cases procedure.result doc <;> rfl

/-- What each change attempts. -/
theorem attempt_eq (doc : Document) (change : Change) :
    change.attempt doc =
      match change with
      | addSection name => (doc.addSection name).map fun (created, after) => (.flag created, after)
      | removeSection name =>
        .ok (.flag (doc.removeSection name).1, (doc.removeSection name).2)
      | openSection input =>
        match SectionId.resolve input with
        | .error refusal => .error (.refused refusal)
        | .ok id =>
          .ok (.count (optionCount (doc.openSection id) id.identity), doc.openSection id)
      | set name key value => (doc.set name key value).map fun after => (.done, after)
      | add name key value => (doc.add name key value).map fun after => (.done, after)
      | removeOption name key =>
        (doc.removeOption name key).map fun (removed, after) => (.flag removed, after)
      | removeMatching name key pattern =>
        (doc.removeMatching name key pattern).map fun (removed, after) => (.flag removed, after)
      | merge source => .ok (.done, doc.merge source)
      | mergeSelf => .ok (.done, doc.merge doc)
      | read source label => (doc.read source label).map fun after => (.done, after) := by
  cases change with
  | addSection name => exact result_bind_pure _ _ doc
  | removeSection name => rfl
  | openSection input =>
      unfold attempt edit result
      dsimp only
      rw [perform_bind, perform_ofRefusal]
      cases SectionId.resolve input <;> rfl
  | set name key value => exact result_bind_done _ doc
  | add name key value => exact result_bind_done _ doc
  | removeOption name key => exact result_bind_pure _ _ doc
  | removeMatching name key pattern => exact result_bind_pure _ _ doc
  | merge source => rfl
  | mergeSelf => rfl
  | read source label => exact result_bind_done _ doc

end Change

end ConfigEditor
