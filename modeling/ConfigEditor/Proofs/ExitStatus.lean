import ConfigEditor.CommandLine
import ConfigEditor.Proofs.Actions
import ConfigEditor.Proofs.Commands
set_option autoImplicit false

/-!
# Runs: exit status and report

A run ends with status zero exactly if nothing stopped it, and otherwise with the status of what
did (`Stop.status`).  A fault of the command is always reported, in the format of the run, and
what was written before it stays.  A bad variable of the environment is not reported at all
(`silent_bad_variable`), for it is found before there is a format to report it in.
-/

namespace ConfigEditor

/-! ## The console only grows -/

/-- What was written stays, on both streams. -/
structure Console.Grows (before after : Console) : Prop where
  out : before.out <+: after.out
  err : before.err <+: after.err

namespace Console

theorem Grows.refl (c : Console) : c.Grows c := ⟨List.prefix_refl _, List.prefix_refl _⟩

theorem Grows.trans {first second third : Console} (h : first.Grows second)
    (h' : second.Grows third) : first.Grows third :=
  ⟨h.out.trans h'.out, h.err.trans h'.err⟩

theorem grows_print (c : Console) (text : Text) : c.Grows (c.print text) := by
  refine ⟨?_, List.prefix_refl _⟩
  unfold print
  rw [List.append_assoc]
  exact List.prefix_append _ _

theorem grows_printError (c : Console) (text : Text) : c.Grows (c.printError text) := by
  refine ⟨List.prefix_refl _, ?_⟩
  unfold printError
  rw [List.append_assoc]
  exact List.prefix_append _ _

theorem grows_write (settings : LogSettings) (c : Console) (r : LogRecord) :
    c.Grows (c.write settings r) := by
  unfold write
  dsimp only
  split
  · split
    · exact c.grows_printError _
    · exact c.grows_print _
  · exact .refl c

end Console

theorem Notice.grows_give (settings : LogSettings) (notice : Notice) (message : Text)
    (path : Option Text) (c : Console) : c.Grows (notice.give settings message path c) := by
  cases notice with
  | output => exact c.grows_print message
  | _ => exact c.grows_write settings _

namespace Action

open ConfigEditor.Procedure

variable {α β : Type}

/-- Whatever comes of the action, what was on the console stays there. -/
def Appends (action : Action α) : Prop :=
  ∀ world : World, world.console.Grows (action.perform world).2.console

theorem Appends.bind {action : Action α} {next : α → Action β} (h : action.Appends)
    (hnext : ∀ value, (next value).Appends) : (action >>= next).Appends := by
  intro world
  have hfirst := h world
  rw [perform_bind]
  split
  · rename_i value between hstep
    rw [hstep] at hfirst
    exact hfirst.trans (hnext value between)
  · rename_i fault after hstep
    rw [hstep] at hfirst
    exact hfirst

theorem appends_pure (value : α) : (pure value : Action α).Appends := fun _ => .refl _

theorem appends_ofResult (result : Except Fault α) : Appends (ofResult result) := by
  intro world
  rw [perform_ofResult]
  exact .refl _

theorem appends_ofRefusal (result : Except Refusal α) : Appends (ofRefusal result) := by
  cases result <;> exact fun _ => .refl _

theorem appends_tell (machine : Machine) (notice : Notice) (message : Text)
    (path : Option Text) : (tell machine notice message path).Appends :=
  fun world => notice.grows_give machine.log message path world.console

theorem appends_print (text : Text) : (print text).Appends :=
  fun world => world.console.grows_print text

theorem appends_printAll (texts : List Text) : (printAll texts).Appends := by
  induction texts with
  | nil => exact appends_pure ()
  | cons text rest ih => exact (appends_print text).bind fun _ => ih

theorem appends_replace (machine : Machine) (path : Text) (bytes : Bytes) :
    (replace machine path bytes).Appends := by
  intro world
  rw [perform_replace]
  exact .refl _

theorem appends_loadConfig (machine : Machine) (path label : Text) (missingOk : Bool) :
    (loadConfig machine path label missingOk).Appends := by
  intro world
  rw [perform_loadConfig]
  split
  · exact Notice.grows_give machine.log .debug _ (some path) world.console
  · exact .refl _

theorem appends_saveConfig (machine : Machine) (path : Text) (doc : Document) :
    (saveConfig machine path doc).Appends :=
  (appends_replace machine path doc.toBytes).bind fun _ => appends_tell machine _ _ _

theorem appends_modifyConfig (machine : Machine) (path : Text) (edit : Edit α) :
    (modifyConfig machine path edit).Appends :=
  (appends_loadConfig machine path _ true).bind fun doc =>
    (appends_ofResult (edit.perform doc).1).bind fun value =>
      (appends_saveConfig machine path (edit.perform doc).2).bind fun _ => appends_pure value

end Action

namespace Command

open ConfigEditor.Action ConfigEditor.Procedure

/-- No command takes back what was written. -/
theorem appends_run (machine : Machine) (file : Text) (outputFormat : OutputFormat)
    (command : Command) : (command.run machine file outputFormat).Appends := by
  cases command with
  | get name key =>
      refine (appends_ofRefusal _).bind fun id => ?_
      refine (appends_loadConfig machine file _ false).bind fun doc => ?_
      refine (appends_ofResult _).bind fun values => ?_
      refine Appends.bind ?_ fun _ => appends_tell machine _ _ _
      cases outputFormat with
      | json => exact appends_print _
      | pretty => exact appends_printAll values
  | set name key value =>
      refine (appends_ofRefusal _).bind fun id => ?_
      exact (appends_modifyConfig machine file _).bind fun _ => appends_tell machine _ _ _
  | add name key value =>
      refine (appends_ofRefusal _).bind fun id => ?_
      exact (appends_modifyConfig machine file _).bind fun _ => appends_tell machine _ _ _
  | unset name key pattern =>
      refine (appends_ofRefusal _).bind fun id => ?_
      exact (appends_modifyConfig machine file _).bind fun _ => appends_tell machine _ _ _
  | addSection name =>
      refine (appends_ofRefusal _).bind fun id => ?_
      refine (appends_modifyConfig machine file _).bind fun created => ?_
      cases created <;> exact appends_tell machine _ _ _
  | removeSection name =>
      refine (appends_ofRefusal _).bind fun id => ?_
      exact (appends_modifyConfig machine file _).bind fun _ => appends_tell machine _ _ _
  | list =>
      refine (appends_loadConfig machine file _ false).bind fun doc => ?_
      cases outputFormat with
      | json => exact appends_print _
      | pretty => exact appends_printAll _
  | format =>
      refine (appends_loadConfig machine file _ false).bind fun doc => ?_
      exact (appends_saveConfig machine file doc).bind fun _ => appends_tell machine _ _ _

end Command

/-! ## What stops a run -/

/-- What stops a run: a bad variable of the environment, or a fault of the command. -/
inductive Stop where
  | environment (bad : BadVariable)
  | fault (fault : Fault)
  deriving DecidableEq, Repr

namespace Stop

/-- The words for what stopped a run. -/
def message : Stop → Text
  | environment bad => bad.message
  | fault f => f.message

/-- Its code; a bad variable has none of its own, and is an error of no special kind. -/
def code : Stop → ErrorCode
  | environment _ => .generalError
  | fault f => f.code

/-- The status that a stopped run ends with. -/
def status (stop : Stop) : Nat := min stop.code.toNat CommandLine.greatestStatus

theorem status_pos (stop : Stop) : 0 < stop.status := by
  have hcode : 0 < stop.code.toNat := by
    cases stop with
    | environment bad => exact Nat.one_pos
    | fault f => exact f.code_toNat_pos
  exact Nat.lt_min.mpr ⟨hcode, by decide⟩

/-- The message of what stopped a run has been written: on a line of the error stream for a
reader, or on standard output in one structured value. -/
def Reported (stop : Stop) (format : OutputFormat) (before after : Console) : Prop :=
  ∃ earlier color, before.Grows earlier ∧
    after =
      match format with
      | .pretty => earlier.printError (Mark.fail.sign color ++ ' ' :: stop.message)
      | .json =>
        earlier.print (Json.render (.fields
          [("error".toList, .text stop.message), ("code".toList, .text stop.code.name)]))

/-- Where nothing was written, nothing is reported. -/
theorem not_reported_self (stop : Stop) (format : OutputFormat) (c : Console) :
    ¬ stop.Reported format c c := by
  rintro ⟨earlier, color, ⟨hout, herr⟩, h⟩
  cases format with
  | pretty =>
      have hlength := congrArg (fun c : Console => c.err.length) h
      have hle := herr.length_le
      simp only [Console.printError, List.length_append, List.length_cons] at hlength
      omega
  | json =>
      have hlength := congrArg (fun c : Console => c.out.length) h
      have hle := hout.length_le
      simp only [Console.print, List.length_append, List.length_cons] at hlength
      omega

end Stop

namespace CommandLine

/-- What comes of a command with its options: success, or what stopped it. -/
def outcome (surroundings : Surroundings) (options : GlobalOptions) (command : Command)
    (world : World) : Except Stop Unit :=
  match surroundings.environment.resolve options surroundings.terminal with
  | .error bad => .error (.environment bad)
  | .ok context =>
    let action := command.run (machineOf surroundings context) context.file context.format
    (action.perform world).1.mapError .fault

/-- A fault that is shown is reported, in the format of the run. -/
theorem reported_showFault (context : Context) (fault : Fault) {before : Console} {after : World}
    (h : before.Grows after.console) :
    (Stop.fault fault).Reported context.format before (showFault context fault after).console := by
  refine ⟨after.console, context.color, h, ?_⟩
  unfold showFault
  cases context.format <;> rfl

/-- In a bad environment the command is not performed. -/
theorem execute_of_bad {surroundings : Surroundings} {options : GlobalOptions} {bad : BadVariable}
    (h : surroundings.environment.resolve options surroundings.terminal = .error bad)
    (command : Command) (world : World) :
    execute surroundings options command world = (generalStatus, world) ∧
      outcome surroundings options command world = .error (.environment bad) := by
  unfold execute outcome
  rw [h]
  exact ⟨rfl, rfl⟩

/-- In a good environment the command is performed, and shown if it stops. -/
theorem execute_of_good {surroundings : Surroundings} {options : GlobalOptions}
    {context : Context}
    (h : surroundings.environment.resolve options surroundings.terminal = .ok context)
    (command : Command) (world : World) :
    match outcome surroundings options command world with
    | .ok () => (execute surroundings options command world).1 = 0
    | .error stop =>
      (execute surroundings options command world).1 = stop.status ∧
        stop.Reported context.format world.console
          (execute surroundings options command world).2.console := by
  have hgrows := Command.appends_run (machineOf surroundings context) context.file
    context.format command world
  unfold execute outcome
  rw [h]
  unfold perform
  dsimp only
  rcases hrun : (command.run (machineOf surroundings context) context.file
      context.format).perform world with ⟨fault | _, after⟩
  · rw [hrun] at hgrows
    exact ⟨rfl, reported_showFault context fault hgrows⟩
  · rfl

/-- Whatever the command and its options, a run ends with status zero exactly if it succeeds, and
otherwise with the status of what stopped it.  That is reported if the environment is good, in the
format of the run, and not at all if it is bad. -/
theorem status_and_report (surroundings : Surroundings) (options : GlobalOptions)
    (command : Command) (world : World) :
    ((execute surroundings options command world).1 = 0 ↔
        outcome surroundings options command world = .ok ()) ∧
      ∀ stop, outcome surroundings options command world = .error stop →
        (execute surroundings options command world).1 = stop.status ∧
        ((∃ format, stop.Reported format world.console
            (execute surroundings options command world).2.console) ↔
          ∃ context,
            surroundings.environment.resolve options surroundings.terminal = .ok context) ∧
        ∀ context,
          surroundings.environment.resolve options surroundings.terminal = .ok context →
          stop.Reported context.format world.console
            (execute surroundings options command world).2.console := by
  cases hresolve : surroundings.environment.resolve options surroundings.terminal with
  | error bad =>
      obtain ⟨hrun, houtcome⟩ := execute_of_bad hresolve command world
      rw [hrun, houtcome]
      constructor
      · constructor
        · intro hzero
          exact absurd hzero Nat.one_ne_zero
        · intro hok
          cases hok
      · rintro stop ⟨⟩
        refine ⟨rfl, ⟨?_, ?_⟩, ?_⟩
        · rintro ⟨format, hreported⟩
          exact absurd hreported (Stop.not_reported_self _ format world.console)
        · rintro ⟨context, ⟨⟩⟩
        · rintro context ⟨⟩
  | ok context =>
      have hgood := execute_of_good hresolve command world
      cases houtcome : outcome surroundings options command world with
      | ok _ =>
          rw [houtcome] at hgood
          refine ⟨⟨fun _ => rfl, fun _ => hgood⟩, ?_⟩
          rintro stop ⟨⟩
      | error stop =>
          rw [houtcome] at hgood
          obtain ⟨hstatus, hreported⟩ := hgood
          have hpositive : stop.status ≠ 0 := stop.status_pos.ne'
          constructor
          · constructor
            · intro hzero
              exact absurd (hstatus.symm.trans hzero) hpositive
            · intro hok
              cases hok
          · rintro stop ⟨⟩
            refine ⟨hstatus, ⟨fun _ => ⟨context, rfl⟩, fun _ => ⟨_, hreported⟩⟩, ?_⟩
            rintro found ⟨⟩
            exact hreported

/-- Surroundings with nothing but the level of the log set. -/
def surroundingsAt (threshold : Option Text) : Surroundings :=
  ⟨{ Environment.empty with threshold := threshold }, false, 0, "0".toList, .reliable,
    Pattern.engine⟩

/-- A file with one option. -/
def oneOption : World := Command.worldWith "config".toList "[a]\n\tk = 1\n".toList

/-- The level of the log does not hold back the report of a fault. -/
theorem status_and_report_missing_section :
    let options : GlobalOptions :=
      { threshold := some .error, format := some .json, file := some "config".toList }
    let command : Command := .get "b".toList "k".toList
    (execute (surroundingsAt none) options command oneOption).1 = 12 ∧
      (Stop.fault (.noSection "b".toList)).Reported .json oneOption.console
        (execute (surroundingsAt none) options command oneOption).2.console := by
  intro options command
  have hstop : outcome (surroundingsAt none) options command oneOption =
      .error (.fault (.noSection "b".toList)) := by
    decide +kernel
  have hcontext : (surroundingsAt none).environment.resolve options false =
      .ok ⟨"config".toList, .json, .error, false⟩ := by decide +kernel
  obtain ⟨hstatus, _, hreported⟩ :=
    (status_and_report (surroundingsAt none) options command oneOption).2 _ hstop
  exact ⟨hstatus, hreported _ hcontext⟩

/-- A level of the log that is none stops the run, and nothing is said about it. -/
theorem silent_bad_variable :
    let around := surroundingsAt (some "loud".toList)
    let options : GlobalOptions := { file := some "config".toList }
    let stop := Stop.environment (.threshold "loud".toList)
    outcome around options .list oneOption = .error stop ∧
      execute around options .list oneOption = (1, oneOption) ∧
      ∀ format, ¬ stop.Reported format oneOption.console
        (execute around options .list oneOption).2.console := by
  intro around options stop
  have hrun : execute around options .list oneOption = (1, oneOption) := by
    decide +kernel
  refine ⟨by decide +kernel, hrun, ?_⟩
  intro format
  rw [hrun]
  exact stop.not_reported_self format oneOption.console

end CommandLine

end ConfigEditor
