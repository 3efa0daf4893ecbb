import ConfigEditor.Command
import ConfigEditor.Proofs.Actions
import ConfigEditor.Proofs.Commands
set_option autoImplicit false

/-!
# Commands that change files: all or nothing

A command that changes its file starts from a document (`FileTree.Holds`), makes another of it
(`Command.edit`), and writes that one (`Command.Writes`).  Any access to the files may fail on the
way, and the edit of the document may fail with the document half changed in memory.  If nothing
stops the command, its file holds exactly what it made, and every other file is the one it was.  If
something does, no file has changed, with one exception: a temporary file that can neither be moved
to its place nor be removed stays (`all_or_nothing`, `temporary_file_left`).
-/

namespace ConfigEditor

/-! ## Documents in files -/

/-- The document that a file holds: what its bytes say, and the empty document where nothing is,
if that is as good. -/
inductive FileTree.Holds (files : FileTree) (path : Text) : Bool → Document → Prop
  | parsed {missingOk : Bool} {place : FilePath} {bytes : Bytes} {doc : Document}
      (hfile : files.locate path = .file place bytes)
      (hread : Document.ofSource (.bytes bytes) Encoding.defaultLabel = .ok doc) :
      Holds files path missingOk doc
  | missing (h : files.exists? path = some false) : Holds files path true .empty

/-- What a file holds is what is loaded from it. -/
theorem FileTree.holds_iff {files : FileTree} {path : Text} {missingOk : Bool} {doc : Document} :
    files.Holds path missingOk doc ↔
      files.load path Encoding.defaultLabel missingOk = .ok doc := by
  have hreads := Platform.reliable_reads files path
  unfold load
  rw [Platform.load_eq_ok_iff]
  constructor
  · intro h
    cases h with
    | parsed hfile hread =>
        refine .inl ⟨hreads.stat _ ?_, _, hreads.read _ ?_, hread⟩
        · rw [exists?, hfile]
        · rw [contents?, hfile]
    | missing h => exact .inr ⟨hreads.stat _ h, rfl, rfl⟩
  · rintro (⟨_, bytes, hread, hdoc⟩ | ⟨hstat, rfl, rfl⟩)
    · have hbytes := Platform.reliable.contents?_of_read hread
      unfold contents? at hbytes
      split at hbytes
      · rename_i place found hfile
        cases hbytes
        exact .parsed hfile hdoc
      · cases hbytes
    · exact .missing (Platform.reliable.exists?_of_stat hstat)

/-! ## What the commands write -/

namespace Command

open ConfigEditor.Procedure

/-- The commands that change their file. -/
def changesFile : Command → Bool
  | get _ _ => false
  | list => false
  | _ => true

/-- The commands to which a missing file is the empty document. -/
def startsEmpty : Command → Bool
  | get _ _ => false
  | list => false
  | format => false
  | _ => true

/-- The section that a command names. -/
def sectionName? : Command → Option Text
  | get name _ => some name
  | set name _ _ => some name
  | add name _ _ => some name
  | unset name _ _ => some name
  | addSection name => some name
  | removeSection name => some name
  | list => none
  | format => none

/-- The document of a removal that removed something. -/
def removed (missing : Fault) : Except Fault (Bool × Document) → Except Fault Document
  | .error fault => .error fault
  | .ok (true, changed) => .ok changed
  | .ok (false, _) => .error missing

/-- What a command makes of a document in the section that it names. -/
def editIn (engine : PatternEngine) (id : SectionId) (doc : Document) :
    Command → Except Fault Document
  | set _ key value => (doc.openSection id).set id.identity key value
  | add _ key value => (doc.openSection id).add id.identity key value
  | unset _ key none => removed (.noOption id.identity key) (doc.removeOption id.identity key)
  | unset _ key (some pattern) =>
    removed (.noOption id.identity key)
      (doc.removeMatching id.identity key (.ofSource engine pattern))
  | addSection _ => (doc.addSection id.identity).map Prod.snd
  | removeSection _ => removed (.noSection id.identity) (.ok (doc.removeSection id.identity))
  | get _ _ => .ok doc
  | list => .ok doc
  | format => .ok doc

/-- What a command makes of a document. -/
def edit (engine : PatternEngine) (command : Command) (doc : Document) : Except Fault Document :=
  match command.sectionName? with
  | none => .ok doc
  | some name =>
    match SectionId.resolve name with
    | .error refusal => .error (.refused refusal)
    | .ok id => command.editIn engine id doc

/-- The document is what the command makes of what its file holds. -/
def Writes (command : Command) (engine : PatternEngine) (files : FileTree) (file : Text)
    (doc : Document) : Prop :=
  ∃ loaded, files.Holds file command.startsEmpty loaded ∧ command.edit engine loaded = .ok doc

/-- A removal goes through exactly if it removed something. -/
theorem result_bind_removed {procedure : Edit Bool} (missing : Fault) (doc : Document) :
    ((do
        let found ← procedure
        if found then pure () else throw missing : Edit Unit).result doc).map Prod.snd =
      removed missing (procedure.result doc) := by
  unfold result
  rw [perform_bind]
  rcases procedure.perform doc with ⟨fault | ⟨_ | _⟩, after⟩ <;> rfl

theorem map_snd_removal (engine : PatternEngine) (name : Text) (id : SectionId) (key : Text)
    (pattern : Option Text) (doc : Document) :
    ((removal engine id key pattern).result doc).map Prod.snd =
      editIn engine id doc (.unset name key pattern) := by
  unfold removal
  cases pattern with
  | none => exact result_bind_removed _ doc
  | some source => exact result_bind_removed _ doc

end Command

/-! ## What comes of the files -/

namespace Command

open ConfigEditor.Action ConfigEditor.Procedure

/-- What can come of a run of the command. -/
inductive AllOrNothing (command : Command) (machine : Machine) (file : Text) (before : FileTree) :
    Except Fault Unit → FileTree → Prop
  /-- The run failed and left all files, and there was no document to write, or some access to the
  files failed by which it was to be written. -/
  | kept {fault : Fault}
      (h : ∀ doc, command.Writes machine.engine before file doc →
        machine.platform.Fails before machine.tag file doc.toBytes) :
      AllOrNothing command machine file before (.error fault) before
  /-- The run failed, for the temporary file could not be moved, and it could not be removed
  either: it stays, and nothing else has changed. -/
  | left {doc : Document} {after : FileTree} {moving removing : Text}
      (hdoc : command.Writes machine.engine before file doc)
      (hputs : before.Puts (FileTree.temporaryPath file machine.tag) doc.toBytes after)
      (hmove : machine.platform.rename after (FileTree.temporaryPath file machine.tag) file
        = .error moving)
      (hremove : machine.platform.remove after (FileTree.temporaryPath file machine.tag)
        = .error removing) :
      AllOrNothing command machine file before (.error (.fileAccess (.replace file moving))) after
  /-- The run succeeded, the document that the command writes is in the file, and nothing else has
  changed. -/
  | written {doc : Document} {after : FileTree}
      (hdoc : command.Writes machine.engine before file doc)
      (hputs : before.Puts file doc.toBytes after) :
      AllOrNothing command machine file before (.ok ()) after

variable {files : FileTree} {machine : Machine} {file : Text} {command : Command}

/-- An assignment that fails has opened its section before it made its checks.  So the document in
memory may be another one by then, and it is the command that must not write it. -/
theorem assign_leaves_section_open {write : Text → Text → Text → Edit Unit} {id : SectionId}
    {key value : Text} {doc after : Document} {fault : Fault}
    (hkeeps : (write id.identity key value).KeepsOnFault)
    (h : (assign write id key value).perform doc = (.error fault, after)) :
    after = doc.openSection id := by
  unfold assign Edit.openSection at h
  rw [perform_bind, perform_modify] at h
  exact hkeeps _ _ _ h

/-- Where no document can be loaded, the files are kept. -/
theorem allOrNothing_of_load_error {fault : Fault}
    (h : machine.platform.load files file Encoding.defaultLabel command.startsEmpty
      = .error fault) :
    command.AllOrNothing machine file files (.error fault) files := by
  refine .kept ?_
  rintro doc ⟨loaded, hloaded, _⟩
  exact Platform.fails_of_load_error _ _ h (FileTree.holds_iff.mp hloaded)

/-- What is written is what the command makes of the document that was loaded. -/
theorem writes_iff_of_load {loaded : Document}
    (h : machine.platform.load files file Encoding.defaultLabel command.startsEmpty = .ok loaded)
    (doc : Document) :
    command.Writes machine.engine files file doc ↔
      command.edit machine.engine loaded = .ok doc := by
  have hload := FileTree.load_of_platform h
  unfold Writes
  simp only [FileTree.holds_iff, hload]
  constructor
  · rintro ⟨_, hloaded, hedit⟩
    cases hloaded
    exact hedit
  · intro hedit
    exact ⟨loaded, rfl, hedit⟩

theorem edit_of_resolve_error {engine : PatternEngine} {name : Text} {refusal : Refusal}
    (hname : command.sectionName? = some name)
    (hresolve : SectionId.resolve name = .error refusal) (doc : Document) :
    command.edit engine doc = .error (.refused refusal) := by
  unfold edit
  simp only [hname, hresolve]

theorem edit_of_resolve {engine : PatternEngine} {name : Text} {id : SectionId}
    (hname : command.sectionName? = some name) (hresolve : SectionId.resolve name = .ok id)
    (doc : Document) : command.edit engine doc = command.editIn engine id doc := by
  unfold edit
  simp only [hname, hresolve]

/-- Once there is a document to write, what comes of the run is what comes of writing it. -/
theorem allOrNothing_of_replace {loaded doc : Document} {result : Except FileFailure Unit}
    {after : FileTree}
    (hunused : files.exists? (FileTree.temporaryPath file machine.tag) ≠ some true)
    (hload : machine.platform.load files file Encoding.defaultLabel command.startsEmpty
      = .ok loaded)
    (hedit : command.edit machine.engine loaded = .ok doc)
    (hsave : machine.platform.replace files machine.tag file doc.toBytes = (result, after)) :
    command.AllOrNothing machine file files (result.mapError .fileAccess) after := by
  have hdoc := (writes_iff_of_load hload doc).mpr hedit
  have hreplaced : machine.platform.Replaced files machine.tag file doc.toBytes
      (machine.platform.replace files machine.tag file doc.toBytes).1
      (machine.platform.replace files machine.tag file doc.toBytes).2 :=
    Platform.replaced hunused doc.toBytes
  rw [hsave] at hreplaced
  cases hreplaced with
  | put hputs => exact .written hdoc hputs
  | kept hfails =>
      refine .kept fun other hother => ?_
      rw [writes_iff_of_load hload, hedit] at hother
      obtain rfl := Except.ok.inj hother
      exact hfails
  | left hputs hmove hremove => exact .left hdoc hputs hmove hremove

/-- An edit of the document in a file, with a report behind it, is all or nothing. -/
theorem allOrNothing_of_modify {α : Type} {procedure : Edit α} {report : α → Action Unit}
    (hstarts : command.startsEmpty = true)
    (hunused : files.exists? (FileTree.temporaryPath file machine.tag) ≠ some true)
    (hedit : ∀ doc, command.edit machine.engine doc = (procedure.result doc).map Prod.snd)
    (hreport : ∀ value after, (report value).Ends after (.ok ()) after) :
    ∃ result after, Ends (modifyConfig machine file procedure >>= report) files result after ∧
      command.AllOrNothing machine file files result after := by
  cases hload : machine.platform.load files file Encoding.defaultLabel true with
  | error fault =>
      have hmodify := ends_modifyConfig_of_load_error machine procedure hload
      rw [← hstarts] at hload
      exact ⟨_, _, hmodify.bind_error _, allOrNothing_of_load_error hload⟩
  | ok loaded =>
      have hstart : machine.platform.load files file Encoding.defaultLabel command.startsEmpty
          = .ok loaded := by
        rw [hstarts]
        exact hload
      rcases hmade : procedure.perform loaded with ⟨fault | value, edited⟩
      · -- the document may have been changed, but it is not written
        have hmodify := ends_modifyConfig_of_edit_error hload hmade
        refine ⟨_, _, hmodify.bind_error _, .kept fun doc hdoc => ?_⟩
        have hresult : procedure.result loaded = .error fault :=
          result_eq_error_iff.mpr (by rw [hmade])
        rw [writes_iff_of_load hstart, hedit, hresult] at hdoc
        cases hdoc
      · have hdoc : command.edit machine.engine loaded = .ok edited := by
          rw [hedit, result_eq_ok_iff.mpr hmade]
          rfl
        rcases hsave : machine.platform.replace files machine.tag file edited.toBytes with
          ⟨failure | _, after⟩
        · have hmodify := ends_modifyConfig hload hmade hsave
          exact ⟨_, _, hmodify.bind_error _, allOrNothing_of_replace hunused hstart hdoc hsave⟩
        · have hmodify := ends_modifyConfig hload hmade hsave
          exact ⟨_, _, hmodify.bind (hreport value after),
            allOrNothing_of_replace hunused hstart hdoc hsave⟩

/-- A command that resolves its section first is all or nothing. -/
theorem allOrNothing_of_resolve {α : Type} {name : Text} {procedure : SectionId → Edit α}
    {report : SectionId → α → Action Unit} {action : Action Unit}
    (hname : command.sectionName? = some name) (hstarts : command.startsEmpty = true)
    (hunused : files.exists? (FileTree.temporaryPath file machine.tag) ≠ some true)
    (haction : action = do
      let id ← ofRefusal (SectionId.resolve name)
      let value ← modifyConfig machine file (procedure id)
      report id value)
    (hprocedure : ∀ id doc,
      ((procedure id).result doc).map Prod.snd = command.editIn machine.engine id doc)
    (hreport : ∀ id value after, (report id value).Ends after (.ok ()) after) :
    ∃ result after, action.Ends files result after ∧
      command.AllOrNothing machine file files result after := by
  subst haction
  cases hresolve : SectionId.resolve name with
  | error refusal =>
      refine ⟨_, _, (ends_ofRefusal_of_error rfl).bind_error _, .kept ?_⟩
      rintro doc ⟨loaded, _, hedit⟩
      rw [edit_of_resolve_error hname hresolve] at hedit
      cases hedit
  | ok id =>
      have hedit : ∀ doc, command.edit machine.engine doc =
          ((procedure id).result doc).map Prod.snd := by
        intro doc
        rw [edit_of_resolve hname hresolve, hprocedure]
      obtain ⟨result, after, hends, hend⟩ :=
        allOrNothing_of_modify hstarts hunused hedit (hreport id)
      exact ⟨result, after, (ends_ofRefusal rfl).bind hends, hend⟩

/-- Laying out a file is all or nothing. -/
theorem allOrNothing_format
    (hunused : files.exists? (FileTree.temporaryPath file machine.tag) ≠ some true) :
    ∃ result after, (runFormat machine file).Ends files result after ∧
      AllOrNothing .format machine file files result after := by
  cases hload : machine.platform.load files file Encoding.defaultLabel false with
  | error fault =>
      exact ⟨_, _, (ends_loadConfig hload).bind_error _, allOrNothing_of_load_error hload⟩
  | ok doc =>
      have hstart : machine.platform.load files file Encoding.defaultLabel (startsEmpty .format)
          = .ok doc := hload
      rcases hsave : machine.platform.replace files machine.tag file doc.toBytes with
        ⟨failure | _, after⟩
      · have hsaved := ends_saveConfig hsave
        refine ⟨_, _, (ends_loadConfig hload).bind (hsaved.bind_error _), ?_⟩
        exact allOrNothing_of_replace hunused hstart rfl hsave
      · have hsaved := ends_saveConfig hsave
        refine ⟨_, _, (ends_loadConfig hload).bind (hsaved.bind (ends_tell machine _ _ _)), ?_⟩
        exact allOrNothing_of_replace hunused hstart rfl hsave

/-- Every command that changes its file is all or nothing. -/
theorem exists_allOrNothing (outputFormat : OutputFormat) (hchanges : command.changesFile = true)
    (hunused : files.exists? (FileTree.temporaryPath file machine.tag) ≠ some true) :
    ∃ result after, (command.run machine file outputFormat).Ends files result after ∧
      command.AllOrNothing machine file files result after := by
  cases command with
  | get name key => cases hchanges
  | list => cases hchanges
  | set name key value =>
      refine allOrNothing_of_resolve rfl rfl hunused rfl (fun id doc => rfl) fun _ _ _ => ?_
      exact ends_tell machine _ _ _
  | add name key value =>
      refine allOrNothing_of_resolve rfl rfl hunused rfl (fun id doc => rfl) fun _ _ _ => ?_
      exact ends_tell machine _ _ _
  | unset name key pattern =>
      refine allOrNothing_of_resolve rfl rfl hunused rfl (fun id doc => ?_) fun _ _ _ => ?_
      · exact map_snd_removal ..
      · exact ends_tell machine _ _ _
  | addSection name =>
      refine allOrNothing_of_resolve rfl rfl hunused rfl (fun id doc => rfl)
        fun id created after => ?_
      cases created <;> exact ends_tell machine _ _ _
  | removeSection name =>
      refine allOrNothing_of_resolve rfl rfl hunused rfl (fun id doc => ?_) fun _ _ _ => ?_
      · exact result_bind_removed _ doc
      · exact ends_tell machine _ _ _
  | format => exact allOrNothing_format hunused

/-- Whichever accesses to the files fail, a command that changes its file either succeeds, and then
its file holds what the command makes of the document that it held, and every other file is the one
before; or it fails, and then every file is the one before.  Only where the temporary file could
neither be moved to its place nor be removed again does it stay, and then nothing else has
changed. -/
theorem all_or_nothing (machine : Machine) (file : Text) (outputFormat : OutputFormat)
    (command : Command) (world : World) (hchanges : command.changesFile = true)
    (hunused : world.files.exists? (FileTree.temporaryPath file machine.tag) ≠ some true) :
    command.AllOrNothing machine file world.files
      ((command.run machine file outputFormat).perform world).1
      ((command.run machine file outputFormat).perform world).2.files := by
  obtain ⟨result, after, hends, h⟩ := exists_allOrNothing outputFormat hchanges hunused
  obtain ⟨told, hrun⟩ := hends world.console
  rw [hrun]
  exact h

theorem all_or_nothing_unset_matching :
    let command : Command := .unset "a".toList "K".toList (some "^x".toList)
    let world := worldWith "config".toList "[a]\nk = x\nk = y\n".toList
    command.changesFile = true ∧
      world.files.exists? (FileTree.temporaryPath "config".toList plainMachine.tag) ≠ some true ∧
      command.AllOrNothing plainMachine "config".toList world.files
        ((command.run plainMachine "config".toList .pretty).perform world).1
        ((command.run plainMachine "config".toList .pretty).perform world).2.files ∧
      ((command.run plainMachine "config".toList .pretty).perform world).2.files.contents?
        "config".toList = some (Utf8.encode "[a]\n\tk = y\n".toList) := by
  intro command world
  have hunused : world.files.exists? (FileTree.temporaryPath "config".toList plainMachine.tag) ≠
      some true := by
    decide +kernel
  exact ⟨rfl, hunused, all_or_nothing plainMachine _ .pretty command world rfl hunused,
    by decide +kernel⟩

/-- A platform that writes files and neither moves nor removes them. -/
def stuckPlatform : Platform :=
  { Platform.reliable with
    rename := fun _ _ _ => .error "no access".toList
    remove := fun _ _ => .error "no access".toList
    rename?_of_rename := fun h => by cases h
    remove?_of_remove := fun h => by cases h }

/-- The command fails and leaves a file that was not there before. -/
theorem temporary_file_left :
    let machine : Machine := { plainMachine with platform := stuckPlatform }
    let command : Command := .set "a".toList "k".toList "v".toList
    let world := worldWith "config".toList "[a]\n".toList
    let run := (command.run machine "config".toList .pretty).perform world
    run.1 = .error (.fileAccess (.replace "config".toList "no access".toList)) ∧
      run.2.files ≠ world.files ∧
      world.files.exists? "config.tmp.0".toList = some false ∧
      run.2.files.contents? "config.tmp.0".toList =
        some (Utf8.encode "[a]\n\tk = v\n".toList) := by
  decide +kernel

end Command

end ConfigEditor
