import ConfigEditor.Command
import ConfigEditor.Proofs.Actions
import ConfigEditor.Proofs.Document.Lookup
import ConfigEditor.Proofs.Reread
set_option autoImplicit false

/-!
# Commands: a program that reads its own writes

`GetPrints` says that the command `get` succeeds and prints given values, one line each, whatever
the settings of the log are.  After `set` or `add` it depends on what is heard of the document
that was written (`heardTexts`): the command rewrites the whole file, so a text that was stored
before and goes on may take in the line that was just written.  Where all texts of the loaded
document are closed and the name is one line, `get` prints what was assigned
(`get_after_assignments`).
-/

namespace ConfigEditor

/-! ## Printing -/

theorem Console.foldl_print (texts : List Text) (console : Console) :
    texts.foldl Console.print console =
      { console with out := console.out ++ texts.flatMap fun text => text ++ ['\n'] } := by
  induction texts generalizing console with
  | nil => simp
  | cons text rest ih =>
      rw [List.foldl_cons, ih]
      simp [Console.print]

/-- A notice that the threshold holds back leaves the console alone. -/
theorem Notice.give_debug_of_error {settings : LogSettings} (h : settings.threshold = .error)
    (message : Text) (path : Option Text) (console : Console) :
    Notice.debug.give settings message path console = console := by
  have hadmits : settings.threshold.admits Severity.debug = false := by
    rw [h]
    rfl
  simp only [Notice.give, Console.write, Notice.severity, hadmits]
  rfl

namespace Command

open ConfigEditor.Action ConfigEditor.Procedure

/-- On every machine that can read the file, the command `get` succeeds, leaves the files alone and
prints the values, one line each, between what it tells a log that shows everything. -/
def GetPrints (files : FileTree) (file name key : Text) (values : List Text) : Prop :=
  ∀ (reader : Machine) (console : Console), reader.platform.Reads files file → ∃ loaded counted,
    (runGet reader file .pretty name key).perform ⟨files, console⟩ =
      (.ok (), ⟨files, Notice.debug.give reader.log counted none
        (values.foldl Console.print
          (Notice.debug.give reader.log loaded (some file) console))⟩)

/-- What `get` does, step by step. -/
theorem perform_runGet {name : Text} {id : SectionId} (hid : SectionId.resolve name = .ok id)
    (reader : Machine) (file key : Text) (world : World) :
    (runGet reader file .pretty name key).perform world =
      match reader.platform.load world.files file Encoding.defaultLabel false with
      | .error fault => (.error fault, world)
      | .ok doc =>
        let noted := { world with
          console := Notice.debug.give reader.log (loadMessage world.files file doc) (some file)
            world.console }
        match doc.getAll id.identity key with
        | .error fault => (.error fault, noted)
        | .ok values =>
          (.ok (), { noted with
            console := Notice.debug.give reader.log
              (Text.decimal values.length ++ " value(s) for ".toList ++ key) none
              (values.foldl Console.print noted.console) }) := by
  unfold runGet
  rw [hid, perform_bind]
  change Procedure.perform (loadConfig reader file Encoding.defaultLabel false >>= _) world = _
  rw [perform_bind, perform_loadConfig]
  cases reader.platform.load world.files file Encoding.defaultLabel false with
  | error fault => rfl
  | ok doc =>
      change Procedure.perform (ofResult (doc.getAll id.identity key) >>= _) _ = _
      rw [perform_bind, perform_ofResult]
      cases hvalues : doc.getAll id.identity key with
      | error fault => simp only [hvalues]
      | ok values =>
          change Procedure.perform (printAll values >>= _) _ = _
          rw [perform_bind, perform_printAll]
          simp only [hvalues]
          rfl

/-- The command prints lines without line feeds exactly if it finds them. -/
theorem getPrints_iff {name : Text} {id : SectionId} (hid : SectionId.resolve name = .ok id)
    {files : FileTree} {file key : Text} {values : List Text}
    (hvalues : ∀ value ∈ values, '\n' ∉ value)
    (hloaded : ∀ doc, files.load file Encoding.defaultLabel false = .ok doc →
      ∀ found, doc.getAll id.identity key = .ok found → ∀ value ∈ found, '\n' ∉ value) :
    GetPrints files file name key values ↔
      ∃ doc, files.load file Encoding.defaultLabel false = .ok doc ∧
        doc.getAll id.identity key = .ok values := by
  constructor
  · intro hprints
    -- a reader that shows no notices prints the values and nothing else
    obtain ⟨loaded, counted, hrun⟩ :=
      hprints ⟨⟨.error, .pretty, false, 0⟩, [], .reliable, Pattern.engine⟩ .empty
        (Platform.reliable_reads files file)
    rw [perform_runGet hid] at hrun
    simp only [Notice.give_debug_of_error] at hrun
    split at hrun
    · cases hrun
    · rename_i doc hdoc
      split at hrun
      · cases hrun
      · rename_i found hfound
        simp only [Console.foldl_print, Prod.mk.injEq, World.mk.injEq, Console.mk.injEq,
          List.append_cancel_left_eq, true_and, and_true] at hrun
        have hsame : found = values :=
          Line.eq_of_flatMap_newline (hloaded doc hdoc found hfound) hvalues hrun
        exact ⟨doc, hdoc, hsame ▸ hfound⟩
  · rintro ⟨doc, hdoc, hfound⟩ reader console hreads
    have hload := Platform.load_of_load hreads hdoc
    refine ⟨loadMessage files file doc, Text.decimal values.length ++ " value(s) for ".toList ++ key,
      ?_⟩
    rw [perform_runGet hid]
    simp only [hload, hfound]

end Command

/-! ## What a written document is heard to hold -/

namespace Document

/-- The texts that a reader hears of under an identity and a key. -/
def heardTexts (doc : Document) (identity key : Text) : List Text :=
  (entriesUnder identity key none (heard none doc.statements)).map Entry.text

theorem textsAt_reread (doc : Document) (identity key : Text) :
    doc.reread.textsAt identity key = doc.heardTexts identity key := by
  unfold textsAt reread heardTexts
  rw [entriesAt_extend]
  rfl

/-- Of a closed document everything is heard. -/
theorem heardTexts_of_closed {doc : Document} (h : doc.Closed) (identity key : Text) :
    doc.heardTexts identity key = doc.textsAt identity key := by
  rw [← textsAt_reread, reread_eq_self h (closed_iff.mp h).2]

/-- No text of a well-formed document holds a line feed. -/
theorem newline_not_mem_of_mem_textsAt {doc : Document} (h : doc.WellFormed)
    {identity key text : Text} (htext : text ∈ doc.textsAt identity key) : '\n' ∉ text := by
  obtain ⟨entry, hentry, rfl⟩ := List.mem_map.mp htext
  exact Entry.newline_not_mem_text (h.entriesAt hentry).2

theorem HasOneLineNames.putSection {doc : Document} (h : doc.HasOneLineNames) {s : Section}
    (hs : '\n' ∉ s.id.identity) (identity : Text) :
    (doc.putSection identity s).HasOneLineNames := by
  intro t ht
  obtain ⟨p, hp, rfl⟩ := List.mem_map.mp ht
  rcases OrderedMap.mem_insert hp with rfl | hp
  · exact hs
  · exact h p.2 (List.mem_map_of_mem hp)

theorem HasOneLineNames.openSection {doc : Document} (h : doc.HasOneLineNames) {id : SectionId}
    (hid : '\n' ∉ id.identity) : (doc.openSection id).HasOneLineNames := by
  unfold Document.openSection
  split
  · exact h
  · exact h.putSection hid _

theorem HasOneLineNames.withOptions {doc : Document} (h : doc.HasOneLineNames) {name : Text}
    {s : Section} (hs : doc.findSection name = .ok s) (options : OrderedMap Text Stored) :
    (doc.withOptions name s options).HasOneLineNames := by
  have hname : '\n' ∉ s.id.identity := h s (List.mem_map_of_mem (mem_of_findSection hs))
  have hline : '\n' ∉ ({ s with options := options } : Section).id.identity := hname
  exact h.putSection hline _

end Document

/-! ## After an assignment -/

/-- A loaded document is well formed, and its names are one line. -/
theorem FileTree.of_load {files : FileTree} {path label : Text} {missingOk : Bool}
    {doc : Document} (h : files.load path label missingOk = .ok doc) :
    doc.WellFormed ∧ doc.HasOneLineNames := by
  rcases Platform.load_eq_ok_iff.mp h with ⟨_, bytes, _, hread⟩ | ⟨_, _, rfl⟩
  · exact ⟨Document.wellFormed_of_ofSource hread, Document.hasOneLineNames_of_ofSource hread⟩
  · exact ⟨Document.every_empty, fun _ hs => by cases hs⟩

namespace Command

open ConfigEditor.Action ConfigEditor.Procedure

/-- What `get` prints of a document that was just saved: what is heard of it, if its names are
one line. -/
theorem getPrints_iff_heard {name : Text} {id : SectionId}
    (hid : SectionId.resolve name = .ok id) {platform : Platform} {files after : FileTree}
    {tag file : Text} {written : Document}
    (hsaved : platform.replace files tag file written.toBytes = (.ok (), after))
    (hwell : written.WellFormed) (hnames : '\n' ∉ id.identity → written.HasOneLineNames)
    (key : Text) {values : List Text} (hne : values ≠ []) (hvalues : ∀ value ∈ values, '\n' ∉ value) :
    GetPrints after file name key values ↔
      '\n' ∉ id.identity ∧
        written.heardTexts id.identity (Key.normalize key) = values := by
  have hcanonical := SectionId.canonical_identity (SectionId.isCanonical_of_resolve hid)
  have hload := FileTree.load_of_replace hsaved false
  have hfound : ∀ again, Document.ofText written.toText = .ok again → ∀ found,
      again.getAll id.identity key = .ok found →
      again.textsAt id.identity (Key.normalize key) = found := by
    intro again hagain found hfound
    have hevery := Document.wellFormed_of_ofText hagain
    have htexts := ((Document.getAll_eq_ok_iff hevery).mp hfound).2
    rwa [hcanonical] at htexts
  rw [getPrints_iff hid hvalues]
  · rw [hload]
    constructor
    · rintro ⟨again, hagain, hget⟩
      have hline : '\n' ∉ id.identity := by
        intro hfeed
        have htexts := hfound again hagain values hget
        have hagainNames := Document.hasOneLineNames_of_ofText hagain
        have hmissing : again.textsAt id.identity (Key.normalize key) = [] := by
          unfold Document.textsAt Document.entriesAt
          cases hs : again.sections.get? id.identity with
          | none => rfl
          | some s =>
              have hmem := OrderedMap.mem_of_get? hs
              have hown := (Document.wellFormed_of_ofText hagain _ hmem).1
              have hone := hagainNames s (List.mem_map_of_mem hmem)
              rw [hown] at hone
              exact absurd hfeed hone
        exact hne (htexts.symm.trans hmissing)
      rw [Document.ofText_toText hwell (hnames hline)] at hagain
      obtain rfl := Except.ok.inj hagain
      refine ⟨hline, ?_⟩
      rw [← Document.textsAt_reread]
      exact hfound _ (Document.ofText_toText hwell (hnames hline)) values hget
    · rintro ⟨hline, hheard⟩
      have hread := Document.ofText_toText hwell (hnames hline)
      refine ⟨written.reread, hread, ?_⟩
      rw [Document.getAll_eq_ok_iff (Document.wellFormed_of_ofText hread), hcanonical,
        Document.textsAt_reread]
      exact ⟨hne, hheard⟩
  · intro again hagain found hget value hvalue
    rw [hload] at hagain
    rw [← hfound again hagain found hget] at hvalue
    exact Document.newline_not_mem_of_mem_textsAt (Document.wellFormed_of_ofText hagain) hvalue

/-- A command that assigns a value does so to the document that was loaded, with the section
opened, and leaves the result in the file. -/
theorem of_perform_assign {machine : Machine} {file name key value message : Text}
    {write : Text → Text → Text → Edit Unit} {world after : World}
    (h : Procedure.perform (do
        let id ← ofRefusal (SectionId.resolve name)
        modifyConfig machine file (assign write id key value)
        tell machine .success message none) world = (.ok (), after)) :
    ∃ id loaded written, SectionId.resolve name = .ok id ∧
      world.files.load file Encoding.defaultLabel true = .ok loaded ∧
      (write id.identity key value).perform (loaded.openSection id) = (.ok (), written) ∧
      machine.platform.replace world.files machine.tag file written.toBytes
        = (.ok (), after.files) := by
  obtain ⟨id, resolved, hid, hrest⟩ := exists_of_perform_bind h
  obtain ⟨_, saved, hmodify, htell⟩ := exists_of_perform_bind hrest
  obtain ⟨loaded, written, hload, hassign, hsaved⟩ := of_perform_modifyConfig hmodify
  obtain ⟨_, opened, hopen, hwrite⟩ := exists_of_perform_bind hassign
  rw [Edit.openSection, perform_modify, Prod.mk.injEq] at hopen
  obtain ⟨-, rfl⟩ := hopen
  rw [perform_tell] at htell
  cases htell
  rw [perform_ofRefusal, Prod.mk.injEq] at hid
  obtain ⟨hid, rfl⟩ := hid
  cases hname : SectionId.resolve name with
  | error refusal =>
      rw [hname] at hid
      cases hid
  | ok found =>
      rw [hname] at hid
      cases hid
      exact ⟨id, loaded, written, rfl, FileTree.load_of_platform hload, hwrite, hsaved⟩

/-- What `get` prints after an assignment, whichever it was: the texts under the key, if they
are heard. -/
theorem getPrints_assigned {name : Text} {id : SectionId} (hid : SectionId.resolve name = .ok id)
    {platform : Platform} {files after : FileTree} {tag file key : Text}
    {loaded written : Document} {change : Change}
    (hload : files.load file Encoding.defaultLabel true = .ok loaded)
    (heffect : change.Effect (loaded.openSection id) written)
    (hedit : change.IsEdit)
    (hoptions : ∃ s options, (loaded.openSection id).findSection id.identity = .ok s ∧
      written = (loaded.openSection id).withOptions id.identity s options)
    (hsaved : platform.replace files tag file written.toBytes = (.ok (), after))
    {values : List Text} (hne : values ≠ [])
    (hvalues : written.textsAt id.identity (Key.normalize key) = values) :
    (GetPrints after file name key values ↔
        '\n' ∉ id.identity ∧
          written.heardTexts id.identity (Key.normalize key) = values) ∧
      (loaded.ValuesClosed → '\n' ∉ id.identity → GetPrints after file name key values) := by
  obtain ⟨hwellLoaded, hnamesLoaded⟩ := FileTree.of_load hload
  have hcanonical := SectionId.isCanonical_of_resolve hid
  have hwell : written.WellFormed := by
    have hopened : (loaded.openSection id).WellFormed := hwellLoaded.openSection hcanonical
    refine hopened.effect ?_ heffect
    rintro source rfl
    exact hedit.elim
  have hnames : '\n' ∉ id.identity → written.HasOneLineNames := by
    intro hline
    obtain ⟨s, options, hs, rfl⟩ := hoptions
    exact (hnamesLoaded.openSection hline).withOptions hs options
  have hlines : ∀ value ∈ values, '\n' ∉ value := by
    intro value hvalue
    rw [← hvalues] at hvalue
    exact Document.newline_not_mem_of_mem_textsAt hwell hvalue
  have hiff := getPrints_iff_heard hid hsaved hwell hnames key hne hlines
  refine ⟨hiff, fun hclosedLoaded hline => hiff.mpr ⟨hline, ?_⟩⟩
  have hclosed : written.Closed := by
    have hopened : (loaded.openSection id).Closed :=
      (Document.closed_iff.mpr ⟨hwellLoaded, hclosedLoaded⟩).openSection hcanonical
    exact hopened.effect hedit heffect
  rw [Document.heardTexts_of_closed hclosed]
  exact hvalues

/-- After `set` the command `get` prints the value, and after `add` what was stored before and
the value, exactly if the name of the section is one line and this is what is heard of the
document that was written; so it is if no text of the loaded document goes on. -/
theorem get_after_assignments (machine : Machine) (world after : World)
    (file name key value : Text) :
    ((runSet machine file name key value).perform world = (.ok (), after) →
      ∃ id loaded written, SectionId.resolve name = .ok id ∧
        world.files.load file Encoding.defaultLabel true = .ok loaded ∧
        (loaded.openSection id).set id.identity key value = .ok written ∧
        (GetPrints after.files file name key [value] ↔
          '\n' ∉ id.identity ∧
            written.heardTexts id.identity (Key.normalize key) = [value]) ∧
        (loaded.ValuesClosed → '\n' ∉ id.identity →
          GetPrints after.files file name key [value])) ∧
    ((runAdd machine file name key value).perform world = (.ok (), after) →
      ∃ id loaded written, SectionId.resolve name = .ok id ∧
        world.files.load file Encoding.defaultLabel true = .ok loaded ∧
        (loaded.openSection id).add id.identity key value = .ok written ∧
        (GetPrints after.files file name key
            (loaded.textsAt id.identity (Key.normalize key) ++ [value]) ↔
          '\n' ∉ id.identity ∧
            written.heardTexts id.identity (Key.normalize key)
              = loaded.textsAt id.identity (Key.normalize key) ++ [value]) ∧
        (loaded.ValuesClosed → '\n' ∉ id.identity →
          GetPrints after.files file name key
            (loaded.textsAt id.identity (Key.normalize key) ++ [value]))) := by
  constructor
  · intro h
    obtain ⟨id, loaded, written, hid, hload, hperform, hsaved⟩ := of_perform_assign h
    have hset := Document.set_eq_ok_iff.mpr hperform
    have hcanonical := SectionId.canonical_identity (SectionId.isCanonical_of_resolve hid)
    have hentries := Document.entriesAt_set hset
    rw [hcanonical] at hentries
    obtain ⟨s, normal, hs, hkey, hvalue, hwritten⟩ := Document.of_set hset
    have heffect : Change.Effect (loaded.openSection id) (.set id.identity key value) written := by
      rw [hwritten]
      exact .set hs hkey hvalue
    refine ⟨id, loaded, written, hid, hload, hset, ?_⟩
    refine getPrints_assigned hid hload heffect trivial ⟨s, _, hs, hwritten⟩ hsaved (by simp) ?_
    unfold Document.textsAt
    rw [hentries]
    rfl
  · intro h
    obtain ⟨id, loaded, written, hid, hload, hperform, hsaved⟩ := of_perform_assign h
    have hadd := Document.add_eq_ok_iff.mpr hperform
    have hcanonical := SectionId.canonical_identity (SectionId.isCanonical_of_resolve hid)
    have hentries := Document.entriesAt_add hadd
    rw [hcanonical, Document.entriesAt_openSection] at hentries
    obtain ⟨s, normal, hs, hkey, hvalue, hwritten⟩ := Document.of_add hadd
    have heffect : Change.Effect (loaded.openSection id) (.add id.identity key value) written := by
      rw [hwritten]
      exact .add hs hkey hvalue
    refine ⟨id, loaded, written, hid, hload, hadd, ?_⟩
    refine getPrints_assigned hid hload heffect trivial ⟨s, _, hs, hwritten⟩ hsaved (by simp) ?_
    unfold Document.textsAt
    rw [hentries, List.map_append]
    rfl

/-- A world with one file. -/
def worldWith (name text : Text) : World :=
  ⟨⟨OrderedMap.empty.insert [name] (.file (Utf8.encode text))⟩, .empty⟩

/-- A machine that shows its reports. -/
def plainMachine : Machine :=
  ⟨⟨.info, .pretty, false, 0⟩, "0".toList, .reliable, Pattern.engine⟩

/-- A document with one value. -/
def oneValue : Document :=
  (Document.empty.openSection ⟨"a".toList, "a".toList, none⟩).record "a".toList "k".toList
    (.assigned "b".toList)

theorem get_after_assignments_to_file :
    GetPrints ((runSet plainMachine "config".toList "a".toList "K".toList "v".toList).perform
        (worldWith "config".toList "[a]\nk = b ;c\n".toList)).2.files
      "config".toList "a".toList "K".toList ["v".toList] ∧
    GetPrints ((runAdd plainMachine "config".toList "a".toList "K".toList "v".toList).perform
        (worldWith "config".toList "[a]\nk = b ;c\n".toList)).2.files
      "config".toList "a".toList "K".toList ["b".toList, "v".toList] := by
  have hname : SectionId.resolve "a".toList = .ok ⟨"a".toList, "a".toList, none⟩ := by
    decide +kernel
  have hfile : (worldWith "config".toList "[a]\nk = b ;c\n".toList).files.load "config".toList
      Encoding.defaultLabel true = .ok oneValue := by decide +kernel
  have htexts : oneValue.textsAt "a".toList (Key.normalize "K".toList) = ["b".toList] := by
    decide +kernel
  constructor
  · have hset : ((runSet plainMachine "config".toList "a".toList "K".toList "v".toList).perform
        (worldWith "config".toList "[a]\nk = b ;c\n".toList)).1 = .ok () := by decide +kernel
    obtain ⟨id, loaded, written, hid, hload, _, _, hprints⟩ :=
      (get_after_assignments plainMachine _ _ _ _ _ _).1 (perform_eq_of_fst hset)
    obtain rfl := Except.ok.inj (hname.symm.trans hid)
    obtain rfl := Except.ok.inj (hfile.symm.trans hload)
    exact hprints (by decide +kernel) (by decide +kernel)
  · have hadd : ((runAdd plainMachine "config".toList "a".toList "K".toList "v".toList).perform
        (worldWith "config".toList "[a]\nk = b ;c\n".toList)).1 = .ok () := by decide +kernel
    obtain ⟨id, loaded, written, hid, hload, _, _, hprints⟩ :=
      (get_after_assignments plainMachine _ _ _ _ _ _).2 (perform_eq_of_fst hadd)
    obtain rfl := Except.ok.inj (hname.symm.trans hid)
    obtain rfl := Except.ok.inj (hfile.symm.trans hload)
    rw [htexts] at hprints
    exact hprints (by decide +kernel) (by decide +kernel)

/-- The value of `x` loses its comment when the file is rewritten and goes on in the line of
`y`, so `y` is not found. -/
theorem set_below_backslash :
    ((runSet plainMachine "config".toList "a".toList "y".toList "v".toList).perform
        (worldWith "config".toList "[a]\nx = b\\ ;c\n".toList)).1 = .ok () ∧
      ((runGet plainMachine "config".toList .pretty "a".toList "y".toList).perform
        ((runSet plainMachine "config".toList "a".toList "y".toList "v".toList).perform
          (worldWith "config".toList "[a]\nx = b\\ ;c\n".toList)).2).1
        = .error (.noOption "a".toList "y".toList) := by
  decide +kernel

end Command

end ConfigEditor
