import ConfigEditor.Proofs.Commands
set_option autoImplicit false

/-!
# Command output is framed by lines

A script that reads what `get` and `list` print splits it at line feeds.  That gives back what was
printed as long as no printed text holds a line feed of its own (`Line.framed`).  None does: the
texts of a loaded document are cut from logical lines, and a subsection is unescaped by leaving out
backslashes (`FileTree.hasOneLineTexts_of_load`).

Debug notices go to the output as well, before and behind the results, where the threshold of the
log admits them (`Notice.give_debug`).
-/

namespace ConfigEditor

/-! ## Lines -/

/-- The text is one line for each of the texts, and splits at line feeds into those, with nothing
behind the last line feed. -/
structure Line.Framed (text : Text) (lines : List Text) : Prop where
  eq_lines : text = lines.flatMap fun line => line ++ ['\n']
  split : text.splitOn '\n' = lines ++ [[]]
  count : text.count '\n' = lines.length

namespace Line

theorem splitOn_append_newline {line : Text} (h : '\n' ∉ line) (rest : Text) :
    (line ++ '\n' :: rest).splitOn '\n' = line :: rest.splitOn '\n' := by
  have hline : ∀ c ∈ line, (c == '\n') = false := by
    intro c hc
    exact beq_eq_false_iff_ne.mpr fun hfeed => h (hfeed ▸ hc)
  exact List.splitOnP_append_cons_of_forall_mem hline '\n' (beq_self_eq_true '\n') rest

/-- Texts without line feeds are framed by printing them one per line. -/
theorem framed {lines : List Text} (h : ∀ line ∈ lines, '\n' ∉ line) :
    Framed (lines.flatMap fun line => line ++ ['\n']) lines := by
  induction lines with
  | nil => exact ⟨rfl, rfl, rfl⟩
  | cons line lines ih =>
      have hline : '\n' ∉ line := h line List.mem_cons_self
      have hrest := ih fun other hother => h other (List.mem_cons_of_mem line hother)
      refine ⟨rfl, ?split, ?count⟩
      case split =>
        rw [List.flatMap_cons, List.append_assoc, List.singleton_append,
          splitOn_append_newline hline, hrest.split, List.cons_append]
      case count =>
        rw [List.flatMap_cons, List.append_assoc, List.singleton_append, List.count_append,
          List.count_eq_zero.mpr hline, List.count_cons_self, hrest.count, List.length_cons,
          Nat.zero_add]

end Line

/-! ## Notices -/

/-- More text on the output. -/
def Console.withOutput (console : Console) (text : Text) : Console :=
  { console with out := console.out ++ text }

/-- Lines of results, printed one after the other. -/
theorem Console.foldl_print_eq_withOutput (texts : List Text) (console : Console) :
    texts.foldl Console.print console =
      console.withOutput (texts.flatMap fun text => text ++ ['\n']) :=
  Console.foldl_print texts console

theorem Console.withOutput_withOutput (console : Console) (text more : Text) :
    (console.withOutput text).withOutput more = console.withOutput (text ++ more) := by
  simp only [withOutput, List.append_assoc]

/-- What a log writes of a debug notice. -/
def LogSettings.debugText (settings : LogSettings) (message : Text) (path : Option Text) : Text :=
  (Notice.debug.give settings message path .empty).out

/-- The record of a debug notice has no mark, so it goes to the output. -/
theorem Notice.toErrorStream_debug (message : Text) (path : Option Text) (time : Int) :
    LogRecord.toErrorStream ⟨.debug, message, Notice.debug.annotations path, none, time⟩ = false := by
  cases path <;> rfl

theorem Notice.give_debug (settings : LogSettings) (message : Text) (path : Option Text)
    (console : Console) :
    Notice.debug.give settings message path console =
      console.withOutput (settings.debugText message path) := by
  unfold LogSettings.debugText Console.withOutput
  simp only [Notice.give, Notice.severity, Console.write, toErrorStream_debug]
  split <;> simp [Console.print, Console.empty]

/-- Where the threshold holds debug notices back, nothing is written of them. -/
theorem LogSettings.debugText_eq_nil {settings : LogSettings}
    (h : settings.threshold.admits .debug = false) (message : Text) (path : Option Text) :
    settings.debugText message path = [] := by
  simp only [debugText, Notice.give, Notice.severity, Console.write, h]
  rfl

/-! ## Texts of loaded documents -/

namespace Document

/-- No unescaped subsection and no text of a key holds a line feed. -/
def HasOneLineTexts (doc : Document) : Prop :=
  ∀ s ∈ doc.sectionList, (∀ sub ∈ s.id.subsection, '\n' ∉ sub) ∧
    ∀ value ∈ s.options.values, ∀ text ∈ value.texts, '\n' ∉ text

theorem WellFormed.hasOneLineTexts {doc : Document} (h : doc.WellFormed)
    (hnames : doc.HasOneLineNames) : doc.HasOneLineTexts := by
  intro s hs
  obtain ⟨hid, hoptions⟩ := h.section hs
  refine ⟨fun sub hsub hmem => hnames s hs (hid.parts_subset.2 sub hsub hmem), ?_⟩
  intro value hvalue text htext
  obtain ⟨option, hoption, rfl⟩ := List.mem_map.mp hvalue
  obtain ⟨entry, hentry, rfl⟩ := List.mem_map.mp htext
  exact Entry.newline_not_mem_text ((hoptions option hoption).2 entry hentry).2

theorem newline_not_mem_of_getAll {doc : Document} (h : doc.WellFormed) {name key : Text}
    {values : List Text} (hvalues : doc.getAll name key = .ok values) :
    ∀ value ∈ values, '\n' ∉ value := by
  obtain ⟨_, rfl⟩ := (getAll_eq_ok_iff h).mp hvalues
  exact fun _ hvalue => newline_not_mem_of_mem_textsAt h hvalue

end Document

/-- Whatever is in a file, the texts of the document that is loaded from it are one line each. -/
theorem FileTree.hasOneLineTexts_of_load {files : FileTree} {path label : Text} {missingOk : Bool}
    {doc : Document} (h : files.load path label missingOk = .ok doc) : doc.HasOneLineTexts :=
  (FileTree.of_load h).1.hasOneLineTexts (FileTree.of_load h).2

theorem SectionId.newline_not_mem_dotted {id : SectionId} (h : id.IsCanonical)
    (hline : '\n' ∉ id.identity) : '\n' ∉ id.dotted := by
  have hname : '\n' ∉ id.name := fun hmem => hline (h.parts_subset.1 hmem)
  unfold dotted
  split
  · exact hname
  · rename_i sub hsub
    have hsubsection : '\n' ∉ sub := fun hmem => hline (h.parts_subset.2 sub hsub hmem)
    simp [hname, hsubsection]

namespace Command

open ConfigEditor.Action ConfigEditor.Procedure

/-- The lines of a listing are lines. -/
theorem newline_not_mem_entryLine {doc : Document} (h : doc.WellFormed)
    (hnames : doc.HasOneLineNames) : ∀ entry ∈ doc.toEntries, '\n' ∉ entryLine entry := by
  intro entry hentry
  obtain ⟨s, hs, hrows⟩ := List.mem_flatMap.mp hentry
  obtain ⟨option, hoption, hrow⟩ := List.mem_flatMap.mp hrows
  obtain ⟨text, htext, rfl⟩ := List.mem_map.mp hrow
  obtain ⟨hid, hoptions⟩ := h.section hs
  obtain ⟨first, hfirst, rfl⟩ := List.mem_map.mp htext
  obtain ⟨hkey, hwell⟩ := (hoptions option hoption).2 first hfirst
  have hdotted := SectionId.newline_not_mem_dotted hid (hnames s hs)
  have hoptionKey : '\n' ∉ option.1 := Key.not_mem_of_isValid hkey.1 (by decide)
  have htextLine := Entry.newline_not_mem_text hwell
  simp [entryLine, hdotted, hoptionKey, htextLine]

/-! ## What is printed -/

section Printed

variable {machine : Machine} {files : FileTree} {file : Text} {doc : Document}

/-- The command `get` succeeds exactly if the section can be read and the key is found in it. -/
theorem perform_runGet_eq_ok_iff
    (hload : machine.platform.load files file Encoding.defaultLabel false = .ok doc)
    {console : Console} {name key : Text} {after : World} :
    (runGet machine file .pretty name key).perform ⟨files, console⟩ = (.ok (), after) ↔
      ∃ id values, SectionId.resolve name = .ok id ∧ doc.getAll id.identity key = .ok values ∧
        after = ⟨files, console.withOutput
          (machine.log.debugText (loadMessage files file doc) (some file) ++
            ((values.flatMap fun value => value ++ ['\n']) ++
              machine.log.debugText
                (Text.decimal values.length ++ " value(s) for ".toList ++ key) none))⟩ := by
  cases hid : SectionId.resolve name with
  | error refusal =>
      have hrefused : (runGet machine file .pretty name key).perform ⟨files, console⟩ =
          (.error (.refused refusal), ⟨files, console⟩) := by
        rw [runGet, hid]
        rfl
      simp [hrefused]
  | ok id =>
      rw [perform_runGet hid]
      simp only [hload]
      cases hvalues : doc.getAll id.identity key with
      | error fault => simp [hvalues]
      | ok values =>
          simp only [Notice.give_debug, Console.foldl_print_eq_withOutput,
            Console.withOutput_withOutput, List.append_assoc]
          constructor
          · intro hrun
            obtain ⟨_, rfl⟩ := Prod.mk.inj hrun
            exact ⟨id, values, rfl, hvalues, rfl⟩
          · rintro ⟨other, found, hother, hfound, rfl⟩
            obtain rfl := Except.ok.inj hother
            obtain rfl := Except.ok.inj (hvalues.symm.trans hfound)
            rfl

/-- The command `list` succeeds. -/
theorem perform_runList
    (hload : machine.platform.load files file Encoding.defaultLabel false = .ok doc)
    (console : Console) :
    (runList machine file .pretty).perform ⟨files, console⟩ =
      (.ok (), ⟨files, console.withOutput
        (machine.log.debugText (loadMessage files file doc) (some file) ++
          (doc.toEntries.map entryLine).flatMap fun line => line ++ ['\n'])⟩) := by
  unfold runList
  rw [perform_bind, perform_loadConfig]
  simp only [hload, printEntries, perform_printAll, Notice.give_debug,
    Console.foldl_print_eq_withOutput, Console.withOutput_withOutput]

end Printed

/-- Of a file that loads, `get` and `list` print lines: `get` one for each value that it finds, and
`list` one for each entry of the listing, in their order.  What they print splits at line feeds into
just those lines, since no text of a loaded document holds a line feed.  Only notices of the log
stand around it, and where the log does not show them the lines are all that is printed. -/
theorem output_framed (files : FileTree) (file : Text) :
    (∀ (machine : Machine) (doc : Document),
      machine.platform.load files file Encoding.defaultLabel false = .ok doc →
      ∀ console : Console,
        (∀ name key after,
          (runGet machine file .pretty name key).perform ⟨files, console⟩ = (.ok (), after) ↔
            ∃ id values, SectionId.resolve name = .ok id ∧
              doc.getAll id.identity key = .ok values ∧
              ∃ output, Line.Framed output values ∧
                after = ⟨files, console.withOutput
                  (machine.log.debugText (loadMessage files file doc) (some file) ++
                    (output ++ machine.log.debugText
                      (Text.decimal values.length ++ " value(s) for ".toList ++ key) none))⟩ ∧
                (machine.log.threshold.admits .debug = false →
                  after = ⟨files, console.withOutput output⟩)) ∧
        (∃ output, Line.Framed output (doc.toEntries.map entryLine) ∧
          (runList machine file .pretty).perform ⟨files, console⟩ =
            (.ok (), ⟨files, console.withOutput
              (machine.log.debugText (loadMessage files file doc) (some file) ++ output)⟩) ∧
          (machine.log.threshold.admits .debug = false →
            (runList machine file .pretty).perform ⟨files, console⟩ =
              (.ok (), ⟨files, console.withOutput output⟩))) ∧
        (machine.log.threshold.admits .debug = false →
          ∀ message path, machine.log.debugText message path = [])) ∧
    ∀ label missingOk doc, files.load file label missingOk = .ok doc → doc.HasOneLineTexts := by
  refine ⟨fun machine doc hload console =>
    ⟨?get, ?list, fun h => LogSettings.debugText_eq_nil h⟩,
    fun _ _ _ hload => FileTree.hasOneLineTexts_of_load hload⟩
  case get =>
    intro name key after
    rw [perform_runGet_eq_ok_iff hload]
    constructor
    · rintro ⟨id, values, hid, hvalues, rfl⟩
      have hwell := (FileTree.of_load (FileTree.load_of_platform hload)).1
      have hlines := Document.newline_not_mem_of_getAll hwell hvalues
      refine ⟨id, values, hid, hvalues, _, Line.framed hlines, rfl, fun hquiet => ?_⟩
      rw [LogSettings.debugText_eq_nil hquiet, LogSettings.debugText_eq_nil hquiet,
        List.nil_append, List.append_nil]
    · rintro ⟨id, values, hid, hvalues, output, hframed, rfl, -⟩
      exact ⟨id, values, hid, hvalues, by rw [← hframed.eq_lines]⟩
  case list =>
    have hlines : ∀ line ∈ doc.toEntries.map entryLine, '\n' ∉ line := by
      obtain ⟨hwell, hnames⟩ := FileTree.of_load (FileTree.load_of_platform hload)
      exact List.forall_mem_map.mpr (newline_not_mem_entryLine hwell hnames)
    have hrun := perform_runList hload console
    refine ⟨_, Line.framed hlines, hrun, fun hquiet => ?_⟩
    rw [hrun, LogSettings.debugText_eq_nil hquiet, List.nil_append]

/-- A value that goes on in the next line, a bare key, a carriage return within a value, and a quote
within a subsection. -/
def acrossLines : Text := "[a \"x\\\"y\"]\r\nk = b \\\n c ;d\nK\r\nq = 1\r2\n".toList

theorem output_framed_of_acrossLines :
    ∃ after last,
      (runGet plainMachine "config".toList .pretty "a \"x\\\"y\"".toList "K".toList).perform
          (worldWith "config".toList acrossLines) = (.ok (), after) ∧
      after.console.out.splitOn '\n' = ["b  c".toList, "true".toList, []] ∧
      (runList plainMachine "config".toList .pretty).perform
          (worldWith "config".toList acrossLines) = (.ok (), last) ∧
      last.console.out.splitOn '\n' = ["a.x\"y.k=b  c".toList, "a.x\"y.k=true".toList,
        "a.x\"y.q=1\r2".toList, []] := by
  obtain ⟨doc, hload, hvalues, hentries⟩ :
      ∃ doc, (worldWith "config".toList acrossLines).files.load "config".toList
          Encoding.defaultLabel false = .ok doc ∧
        doc.getAll "a \"x\\\"y\"".toList "K".toList = .ok ["b  c".toList, "true".toList] ∧
        doc.toEntries.map entryLine = ["a.x\"y.k=b  c".toList, "a.x\"y.k=true".toList,
          "a.x\"y.q=1\r2".toList] :=
    exists_of_isOk_of_forall (by decide +kernel) (by decide +kernel)
  have hid : SectionId.resolve "a \"x\\\"y\"".toList =
      .ok ⟨"a \"x\\\"y\"".toList, "a".toList, some "x\"y".toList⟩ := by
    decide +kernel
  obtain ⟨after, hrun⟩ : ∃ after, (runGet plainMachine "config".toList .pretty
      "a \"x\\\"y\"".toList "K".toList).perform (worldWith "config".toList acrossLines) =
      (.ok (), after) :=
    ⟨_, perform_eq_of_fst (by decide +kernel)⟩
  have hquiet : plainMachine.log.threshold.admits .debug = false := rfl
  obtain ⟨hget, ⟨listed, hlisted, -, hlist⟩, -⟩ :=
    (output_framed _ _).1 plainMachine doc hload .empty
  obtain ⟨_, _, hname, hfound, got, hgot, -, hafter⟩ := (hget _ _ _).mp hrun
  obtain rfl := Except.ok.inj (hid.symm.trans hname)
  obtain rfl := Except.ok.inj (hvalues.symm.trans hfound)
  rw [hentries] at hlisted
  refine ⟨_, _, hrun, ?_, hlist hquiet, ?_⟩
  · rw [hafter hquiet]
    exact hgot.split
  · exact hlisted.split

end Command

end ConfigEditor
