import ConfigEditor.Action
import ConfigEditor.Proofs.Document.Streams
import ConfigEditor.Proofs.Platform
import ConfigEditor.Proofs.Procedure
set_option autoImplicit false

/-!
# Actions: what they do when they are performed

An action is performed step by step, and each basic action has one equation.  From these follow
the two actions on documents in files.  What is loaded depends on the files and on the platform
(`Platform.load`, `perform_loadConfig`), and a platform that loads a document loads the one that is
there (`FileTree.load_of_platform`).  What is saved is there when the action succeeds
(`of_perform_modifyConfig`).

`Ends` is the view of an action that forgets the console: on which files it ends with which result
and which files.  It is put together step by step (`Ends.bind`, `Ends.bind_error`).
-/

namespace ConfigEditor

namespace Action

open ConfigEditor.Procedure

/-! ## Steps -/

section Steps

variable {α : Type}

theorem perform_askFiles (question : FileTree → Except FileFailure α) (world : World) :
    (askFiles question).perform world =
      ((question world.files).mapError Fault.fileAccess, world) :=
  perform_ask _ world

theorem perform_tell (machine : Machine) (notice : Notice) (message : Text)
    (path : Option Text) (world : World) :
    (tell machine notice message path).perform world =
      (.ok (), { world with console := notice.give machine.log message path world.console }) :=
  rfl

theorem perform_print (text : Text) (world : World) :
    (print text).perform world = (.ok (), { world with console := world.console.print text }) :=
  rfl

theorem perform_replace (machine : Machine) (path : Text) (bytes : Bytes) (world : World) :
    (replace machine path bytes).perform world =
      ((machine.platform.replace world.files machine.tag path bytes).1.mapError Fault.fileAccess,
        { world with
          files := (machine.platform.replace world.files machine.tag path bytes).2 }) := by
  unfold replace
  rw [perform_bind, perform_get]
  dsimp only
  cases machine.platform.replace world.files machine.tag path bytes with
  | mk result files => cases result <;> rfl

/-- Several lines of results, printed one after the other. -/
theorem perform_printAll (texts : List Text) (world : World) :
    (printAll texts).perform world =
      (.ok (), { world with console := texts.foldl Console.print world.console }) := by
  induction texts generalizing world with
  | nil => rfl
  | cons text rest ih =>
      rw [printAll, perform_bind, perform_print]
      exact ih _

end Steps

end Action

/-! ## Loading -/

/-- The document in a file, as it is loaded on a platform. -/
def Platform.load (platform : Platform) (files : FileTree) (path label : Text) (missingOk : Bool) :
    Except Fault Document :=
  match platform.fileExists files path with
  | .error failure => .error (.fileAccess failure)
  | .ok true =>
    match platform.readBytes files path with
    | .error failure => .error (.fileAccess failure)
    | .ok bytes => Document.ofSource (.bytes bytes) label
  | .ok false => if missingOk then .ok .empty else .error (.configNotFound path)

/-- The document in a file, as it is loaded where no access fails that is possible. -/
def FileTree.load (files : FileTree) (path label : Text) (missingOk : Bool) :
    Except Fault Document :=
  Platform.reliable.load files path label missingOk

/-- A file that is there can be looked for and read. -/
structure Platform.Reads (platform : Platform) (files : FileTree) (path : Text) : Prop where
  stat : ∀ there, files.exists? path = some there → platform.stat files path = .ok there
  read : ∀ bytes, files.contents? path = some bytes → platform.read files path = .ok bytes

section Loading

variable {platform : Platform} {files after : FileTree} {path label : Text} {missingOk : Bool}
  {doc : Document}

theorem Platform.reliable_reads (files : FileTree) (path : Text) :
    Platform.reliable.Reads files path := by
  constructor
  · intro there hthere
    change orCause _ (files.exists? path) = _
    rw [hthere, orCause]
  · intro bytes hbytes
    change orCause _ (files.contents? path) = _
    rw [hbytes, orCause]

/-- What is loaded is the empty document where nothing is, or what the bytes of the file say. -/
theorem Platform.load_eq_ok_iff :
    platform.load files path label missingOk = .ok doc ↔
      (platform.stat files path = .ok true ∧ ∃ bytes, platform.read files path = .ok bytes ∧
        Document.ofSource (.bytes bytes) label = .ok doc) ∨
      (platform.stat files path = .ok false ∧ missingOk = true ∧ doc = .empty) := by
  unfold load fileExists readBytes
  cases platform.stat files path with
  | error cause => simp [Except.mapError]
  | ok there =>
      cases there with
      | true =>
          cases platform.read files path with
          | error cause => simp [Except.mapError]
          | ok bytes => simp [Except.mapError]
      | false =>
          cases missingOk with
          | true => simp [Except.mapError, eq_comm]
          | false => simp [Except.mapError]

/-- What is loaded on a platform is loaded on every other one that can read the file. -/
theorem Platform.load_of_load {other : Platform} (hreads : other.Reads files path)
    (h : platform.load files path label missingOk = .ok doc) :
    other.load files path label missingOk = .ok doc := by
  rw [load_eq_ok_iff] at h ⊢
  rcases h with ⟨hstat, bytes, hread, hdoc⟩ | ⟨hstat, hmissing⟩
  · exact .inl ⟨hreads.stat _ (platform.exists?_of_stat hstat), bytes,
      hreads.read _ (platform.contents?_of_read hread), hdoc⟩
  · exact .inr ⟨hreads.stat _ (platform.exists?_of_stat hstat), hmissing⟩

theorem FileTree.load_of_platform (h : platform.load files path label missingOk = .ok doc) :
    files.load path label missingOk = .ok doc :=
  Platform.load_of_load (Platform.reliable_reads files path) h

/-- A load that fails where another one does not fails on an access to the file. -/
theorem Platform.fails_of_load_error {fault : Fault} (tag : Text) (bytes : Bytes)
    (hfault : platform.load files path label missingOk = .error fault)
    (h : files.load path label missingOk = .ok doc) :
    platform.Fails files tag path bytes := by
  cases hstat : platform.stat files path with
  | error cause => exact .stat hstat
  | ok there =>
      have hthere := platform.exists?_of_stat hstat
      cases there with
      | true =>
          cases hread : platform.read files path with
          | error cause => exact .read hthere hread
          | ok found =>
              have hreads : platform.Reads files path := by
                constructor
                · intro other hother
                  rw [hstat, Option.some.inj (hthere.symm.trans hother)]
                · intro other hother
                  have hfound := platform.contents?_of_read hread
                  rw [hread, Option.some.inj (hfound.symm.trans hother)]
              rw [load_of_load hreads h] at hfault
              cases hfault
      | false =>
          rcases load_eq_ok_iff.mp h with ⟨hreliable, _⟩ | ⟨_, hmissing, _⟩
          · have hother := Platform.reliable.exists?_of_stat hreliable
            rw [hthere] at hother
            cases hother
          · have hload : platform.load files path label missingOk = .ok .empty :=
              load_eq_ok_iff.mpr (.inr ⟨hstat, hmissing, rfl⟩)
            rw [hload] at hfault
            cases hfault

/-- What is loaded from a file that was just saved is what its text says. -/
theorem FileTree.load_of_replace {tag : Text}
    (h : platform.replace files tag path doc.toBytes = (.ok (), after)) (missingOk : Bool) :
    after.load path Encoding.defaultLabel missingOk = Document.ofText doc.toText := by
  have hstat := (Platform.reliable_reads after path).stat _ (Platform.exists?_of_replace h)
  have hread := (Platform.reliable_reads after path).read _ (Platform.contents?_of_replace h)
  unfold load Platform.load Platform.fileExists Platform.readBytes
  rw [hstat, hread]
  exact doc.ofSource_toBytes

end Loading

namespace Action

open ConfigEditor.Procedure

/-- What the log says about a document that was loaded. -/
def loadMessage (files : FileTree) (path : Text) (doc : Document) : Text :=
  match files.exists? path with
  | some true => countMessage "Loaded ".toList " section(s) from ".toList doc path
  | _ => "No config at ".toList ++ path ++ ", starting empty".toList

/-- Loading changes no file, and it tells the log about the document if there is one. -/
theorem perform_loadConfig (machine : Machine) (path label : Text) (missingOk : Bool)
    (world : World) :
    (loadConfig machine path label missingOk).perform world =
      match machine.platform.load world.files path label missingOk with
      | .ok doc =>
        (.ok doc, { world with
          console := Notice.debug.give machine.log (loadMessage world.files path doc) (some path)
            world.console })
      | .error fault => (.error fault, world) := by
  unfold loadConfig Platform.load loadMessage Platform.fileExists
  rw [perform_bind, perform_askFiles]
  cases hstat : machine.platform.stat world.files path with
  | error cause => rfl
  | ok present =>
      rw [machine.platform.exists?_of_stat hstat]
      cases present with
      | false => cases missingOk <;> rfl
      | true =>
          change Procedure.perform (askFiles _ >>= _) world = _
          rw [perform_bind, perform_askFiles]
          dsimp only [Except.mapError]
          cases machine.platform.readBytes world.files path with
          | error failure => rfl
          | ok bytes =>
              change Procedure.perform (ofResult (Document.ofSource (.bytes bytes) label) >>= _)
                world = _
              rw [perform_bind, perform_ofResult]
              dsimp only
              cases hread : Document.ofSource (.bytes bytes) label <;> rfl

/-! ## Saving -/

/-- A document that is saved is in its file, and nothing else has changed but the log. -/
theorem of_perform_saveConfig {machine : Machine} {path : Text} {doc : Document}
    {world after : World} (h : (saveConfig machine path doc).perform world = (.ok (), after)) :
    machine.platform.replace world.files machine.tag path doc.toBytes = (.ok (), after.files) := by
  obtain ⟨_, between, hreplace, htell⟩ := exists_of_perform_bind h
  rw [perform_replace] at hreplace
  rw [perform_tell] at htell
  cases hresult : machine.platform.replace world.files machine.tag path doc.toBytes with
  | mk result files =>
      rw [hresult] at hreplace
      cases result with
      | error failure => cases hreplace
      | ok _ =>
          cases hreplace
          cases htell
          rfl

/-- An edit of a document in a file that succeeds was made to the document that was loaded, and
its result is in the file. -/
theorem of_perform_modifyConfig {α : Type} {machine : Machine} {path : Text} {edit : Edit α}
    {value : α} {world after : World}
    (h : (modifyConfig machine path edit).perform world = (.ok value, after)) :
    ∃ doc edited, machine.platform.load world.files path Encoding.defaultLabel true = .ok doc ∧
      edit.perform doc = (.ok value, edited) ∧
      machine.platform.replace world.files machine.tag path edited.toBytes
        = (.ok (), after.files) := by
  obtain ⟨doc, loaded, hload, hrest⟩ := exists_of_perform_bind h
  obtain ⟨found, kept, hedit, hrest⟩ := exists_of_perform_bind hrest
  obtain ⟨_, saved, hsave, hpure⟩ := exists_of_perform_bind hrest
  rw [perform_ofResult, Prod.mk.injEq] at hedit
  rw [perform_pure, Prod.mk.injEq] at hpure
  rw [perform_loadConfig] at hload
  obtain ⟨hanswer, rfl⟩ := hedit
  obtain ⟨hvalue, rfl⟩ := hpure
  obtain rfl := Except.ok.inj hvalue
  split at hload
  · rename_i start hstart
    cases hload
    have hsaved := of_perform_saveConfig hsave
    exact ⟨doc, _, hstart, perform_eq_of_fst hanswer, hsaved⟩
  · cases hload

/-! ## Outcomes -/

section Outcomes

variable {α β : Type} {files between after : FileTree}

/-- On these files and with any console, the action ends with this result and leaves those
files. -/
def Ends (action : Action α) (files : FileTree) (result : Except Fault α) (after : FileTree) :
    Prop :=
  ∀ console, ∃ told, action.perform ⟨files, console⟩ = (result, ⟨after, told⟩)

theorem Ends.bind {action : Action α} {next : α → Action β} {value : α} {result : Except Fault β}
    (h : action.Ends files (.ok value) between) (hnext : (next value).Ends between result after) :
    (action >>= next).Ends files result after := by
  intro console
  obtain ⟨told, hstep⟩ := h console
  obtain ⟨last, hrest⟩ := hnext told
  refine ⟨last, ?_⟩
  rw [perform_bind, hstep]
  exact hrest

theorem Ends.bind_error {action : Action α} {fault : Fault}
    (h : action.Ends files (.error fault) after) (next : α → Action β) :
    (action >>= next).Ends files (.error fault) after := by
  intro console
  obtain ⟨told, hstep⟩ := h console
  refine ⟨told, ?_⟩
  rw [perform_bind, hstep]

theorem ends_pure (value : α) : (pure value : Action α).Ends files (.ok value) files :=
  fun console => ⟨console, rfl⟩

theorem ends_ofResult {given result : Except Fault α} (h : given = result) :
    Ends (ofResult given) files result files :=
  fun console => ⟨console, by rw [h, perform_ofResult]⟩

theorem ends_ofRefusal {given : Except Refusal α} {value : α} (h : given = .ok value) :
    Ends (ofRefusal given) files (.ok value) files :=
  fun console => ⟨console, by rw [h]; rfl⟩

theorem ends_ofRefusal_of_error {given : Except Refusal α} {refusal : Refusal}
    (h : given = .error refusal) :
    Ends (ofRefusal given) files (.error (.refused refusal)) files :=
  fun console => ⟨console, by rw [h]; rfl⟩

theorem ends_tell (machine : Machine) (notice : Notice) (message : Text) (path : Option Text) :
    (tell machine notice message path).Ends files (.ok ()) files :=
  fun _ => ⟨_, rfl⟩

theorem ends_loadConfig {machine : Machine} {path label : Text} {missingOk : Bool}
    {result : Except Fault Document}
    (h : machine.platform.load files path label missingOk = result) :
    (loadConfig machine path label missingOk).Ends files result files := by
  intro console
  rw [perform_loadConfig]
  dsimp only
  rw [h]
  cases result with
  | error fault => exact ⟨_, rfl⟩
  | ok doc => exact ⟨_, rfl⟩

/-- Saving ends as writing the file does. -/
theorem ends_saveConfig {machine : Machine} {path : Text} {doc : Document}
    {result : Except FileFailure Unit}
    (h : machine.platform.replace files machine.tag path doc.toBytes = (result, after)) :
    (saveConfig machine path doc).Ends files (result.mapError Fault.fileAccess) after := by
  have hreplace : (replace machine path doc.toBytes).Ends files
      (result.mapError Fault.fileAccess) after := by
    intro console
    rw [perform_replace]
    dsimp only
    rw [h]
    exact ⟨console, rfl⟩
  cases result with
  | error failure => exact hreplace.bind_error _
  | ok _ => exact hreplace.bind (ends_tell machine _ _ _)

/-- An edit of a document in a file ends as saving the edited document does. -/
theorem ends_modifyConfig {machine : Machine} {path : Text} {edit : Edit α}
    {doc edited : Document} {value : α} {result : Except FileFailure Unit}
    (hload : machine.platform.load files path Encoding.defaultLabel true = .ok doc)
    (hedit : edit.perform doc = (.ok value, edited))
    (hsave : machine.platform.replace files machine.tag path edited.toBytes = (result, after)) :
    (modifyConfig machine path edit).Ends files
      ((result.mapError Fault.fileAccess).map fun _ => value) after := by
  refine (ends_loadConfig hload).bind ?_
  rw [hedit]
  refine (ends_ofResult rfl).bind ?_
  have hsaved := ends_saveConfig hsave
  cases result with
  | error failure => exact hsaved.bind_error _
  | ok _ => exact hsaved.bind (ends_pure value)

/-- Where no document can be loaded, the files stay. -/
theorem ends_modifyConfig_of_load_error (machine : Machine) {path : Text} (edit : Edit α)
    {fault : Fault}
    (hload : machine.platform.load files path Encoding.defaultLabel true = .error fault) :
    (modifyConfig machine path edit).Ends files (.error fault) files :=
  (ends_loadConfig hload).bind_error _

/-- Where the edit of the loaded document fails, the files stay, whatever it has made of the
document. -/
theorem ends_modifyConfig_of_edit_error {machine : Machine} {path : Text} {edit : Edit α}
    {doc left : Document} {fault : Fault}
    (hload : machine.platform.load files path Encoding.defaultLabel true = .ok doc)
    (hedit : edit.perform doc = (.error fault, left)) :
    (modifyConfig machine path edit).Ends files (.error fault) files := by
  refine (ends_loadConfig hload).bind ?_
  rw [hedit]
  exact (ends_ofResult rfl).bind_error _

end Outcomes

end Action

end ConfigEditor
