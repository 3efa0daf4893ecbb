import ConfigEditor.Proofs.Document.Refinement
set_option autoImplicit false

/-!
# Removal by pattern

A removal by pattern compares how many entries there were and how many are left, and then writes
back what is left, drops the key or does nothing.  All of it is one filter: `keeping` leaves out
the entries of one key that fail a test, where they stand, and a removal that gets as far as to
search is `keeping` the entries without a match (`removeMatching_eq`).  This rests on stored forms:
entries that all pass are stored as they were (`Stored.retain_eq_self`), and a value without entries
is never stored.

What a filter does once it does not do again, so to repeat a removal changes nothing
(`Reachable.removeMatching_exact`).
-/

namespace ConfigEditor

/-! ## Stored values -/

namespace Stored

variable {value rest : Stored} {keep : Entry → Bool}

/-- A value in its stored form is rebuilt from its entries. -/
theorem ofEntries?_entries (h : value.WellFormed) : ofEntries? value.entries = some value := by
  cases value with
  | one entry => rfl
  | many entries =>
      match entries, h with
      | first :: second :: rest, _ => rfl

/-- Entries that all pass are stored as they were. -/
theorem retain_eq_self (h : value.WellFormed)
    (hall : ∀ entry ∈ value.entries, keep entry = true) : value.retain keep = some value := by
  rw [retain, List.filter_eq_self.mpr hall, ofEntries?_entries h]

theorem entries_elim_ofEntries? (list : List Entry) :
    (ofEntries? list).elim [] entries = list := by
  match list with
  | [] => rfl
  | [_] => rfl
  | _ :: _ :: _ => rfl

/-- Where nothing is left of a value, some entry failed the test. -/
theorem exists_failing_of_retain_eq_none (h : value.WellFormed)
    (hnone : value.retain keep = none) : ∃ entry ∈ value.entries, keep entry = false := by
  by_contra hfails
  have hall : ∀ entry ∈ value.entries, keep entry = true := by simpa using hfails
  rw [retain_eq_self h hall] at hnone
  cases hnone

/-- As many entries are left as there were exactly if all of them pass. -/
theorem length_retain_eq_iff (hrest : value.retain keep = some rest) :
    rest.entries.length = value.entries.length ↔ ∀ entry ∈ value.entries, keep entry = true := by
  rw [entries_of_ofEntries? hrest, List.length_filter_eq_length_iff]

end Stored

/-! ## Documents with entries left out -/

namespace Document

variable {doc : Document} {name key : Text} {s : Section} {keep : Entry → Bool}

/-- The document with the entries of one key that fail a test left out.  The key keeps its place, or
goes if none of its entries is left. -/
def keeping (doc : Document) (identity key : Text) (keep : Entry → Bool) : Document :=
  ⟨doc.sections.update identity fun s =>
    some { s with options := s.options.update key fun value => value.retain keep }⟩

theorem keeping_eq_withOptions (hs : doc.findSection name = .ok s) (key : Text)
    (keep : Entry → Bool) :
    doc.keeping (SectionId.canonical name) key keep =
      doc.withOptions name s (s.options.update key fun value => value.retain keep) :=
  congrArg Document.mk (OrderedMap.update_of_get?_of_some (get?_of_findSection hs) rfl)

/-- The entries that pass are left, in order. -/
theorem entriesAt_keeping (doc : Document) (identity key : Text) (keep : Entry → Bool) :
    (doc.keeping identity key keep).entriesAt identity key =
      (doc.entriesAt identity key).filter keep := by
  unfold entriesAt keeping
  rw [OrderedMap.get?_update_self]
  cases doc.sections.get? identity with
  | none => rfl
  | some s =>
      simp only [Option.bind_some, Option.elim_some, Section.entriesOf,
        OrderedMap.get?_update_self]
      cases s.options.get? key with
      | none => rfl
      | some value => exact Stored.entries_elim_ofEntries? _

theorem IsStored.wellFormed_of_get? (h : doc.IsStored) (hs : doc.findSection name = .ok s)
    {value : Stored} (hvalue : s.options.get? key = some value) : value.WellFormed :=
  ((h _ (OrderedMap.mem_of_get? (get?_of_findSection hs))).2.2 _
    (OrderedMap.mem_of_get? hvalue)).1

/-- What a look-up finds is rebuilt from the entries that are there. -/
theorem IsStored.findValue_eq (h : doc.IsStored) (hs : doc.findSection name = .ok s)
    (key : Text) :
    doc.findValue name key =
      (Stored.ofEntries? (doc.entriesAt (SectionId.canonical name) (Key.normalize key))).elim
        (.error (.noOption name key)) .ok := by
  unfold findValue
  rw [entriesAt_of_findSection hs, Section.entriesOf]
  simp only [hs]
  cases hvalue : s.options.get? (Key.normalize key) with
  | none => rfl
  | some value =>
      rw [Option.elim_some, Stored.ofEntries?_entries (h.wellFormed_of_get? hs hvalue)]
      rfl

/-- With no entry left out, the document is as it was. -/
theorem IsStored.keeping_eq_self (h : doc.IsStored) (hs : doc.findSection name = .ok s)
    (hall : ∀ entry ∈ doc.entriesAt (SectionId.canonical name) key, keep entry = true) :
    doc.keeping (SectionId.canonical name) key keep = doc := by
  rw [entriesAt_of_findSection hs, Section.entriesOf] at hall
  have hsame : s.options.update key (fun value => value.retain keep) = s.options := by
    cases hvalue : s.options.get? key with
    | none => exact OrderedMap.update_of_get?_eq_none hvalue _
    | some value =>
        rw [hvalue, Option.elim_some] at hall
        have hretain := Stored.retain_eq_self (h.wellFormed_of_get? hs hvalue) hall
        rw [OrderedMap.update_of_get?_of_some hvalue hretain, OrderedMap.insert_of_get? hvalue]
  rw [keeping_eq_withOptions hs, hsame, withOptions_self hs]

/-! ## Removals -/

/-- The text of an entry contains no match, so that a removal leaves it. -/
def survives (found : Matcher) (entry : Entry) : Bool := !found entry.text

theorem any_found_eq_true {found : Matcher} {entries : List Entry} {entry : Entry}
    (hentry : entry ∈ entries) (hfails : survives found entry = false) :
    entries.any (fun entry => found entry.text) = true :=
  List.any_eq_true.mpr ⟨entry, hentry, by simpa [survives] using hfails⟩

theorem any_found_eq_false {found : Matcher} {entries : List Entry}
    (hall : ∀ entry ∈ entries, survives found entry = true) :
    entries.any (fun entry => found entry.text) = false :=
  List.any_eq_false.mpr fun entry hentry => by simpa [survives] using hall entry hentry

/-- A removal that gets as far as to search keeps the entries without a match, and tells whether
there are others. -/
theorem IsStored.removeMatching_eq (h : doc.IsStored) (hs : doc.findSection name = .ok s)
    {pattern : PatternArgument} {found : Matcher} (hpattern : pattern.compile = .ok found)
    (key : Text) :
    doc.removeMatching name key pattern =
      .ok ((doc.entriesAt (SectionId.canonical name) (Key.normalize key)).any
          (fun entry => found entry.text),
        doc.keeping (SectionId.canonical name) (Key.normalize key) (survives found)) := by
  have hentries := entriesAt_of_findSection hs (Key.normalize key)
  rw [Section.entriesOf] at hentries
  have hkeep : (fun entry => !found entry.text) = survives found := rfl
  rw [Document.removeMatching_eq]
  simp only [hs, hpattern, hkeep]
  cases hvalue : s.options.get? (Key.normalize key) with
  | none =>
      rw [hvalue, Option.elim_none] at hentries
      have hsame : doc.keeping (SectionId.canonical name) (Key.normalize key)
          (survives found) = doc := h.keeping_eq_self hs (by simp [hentries])
      rw [hsame, hentries, List.any_nil]
  | some value =>
      rw [hvalue, Option.elim_some] at hentries
      have hwell := h.wellFormed_of_get? hs hvalue
      cases hretain : value.retain (survives found) with
      | none =>
          obtain ⟨entry, hentry, hfails⟩ := Stored.exists_failing_of_retain_eq_none hwell hretain
          have hlength : value.entries.length ≠ 0 := (List.length_pos_of_mem hentry).ne'
          simp only [hretain, hlength, if_false]
          rw [hentries, any_found_eq_true hentry hfails, keeping_eq_withOptions hs,
            OrderedMap.update_of_get?_of_none hvalue hretain]
      | some rest =>
          simp only [hretain]
          split
          · rename_i hlength
            have hall := (Stored.length_retain_eq_iff hretain).mp hlength
            rw [h.keeping_eq_self hs (hentries ▸ hall), hentries, any_found_eq_false hall]
          · rename_i hlength
            rw [Stored.length_retain_eq_iff hretain] at hlength
            obtain ⟨entry, hentry, hfails⟩ : ∃ entry ∈ value.entries,
                survives found entry = false := by simpa using hlength
            rw [hentries, any_found_eq_true hentry hfails, keeping_eq_withOptions hs,
              OrderedMap.update_of_get?_of_some hvalue hretain]

theorem removeMatching_of_malformed (hs : doc.findSection name = .ok s) {source cause : Text}
    (key : Text) :
    doc.removeMatching name key (.written source (.error cause)) =
      .error (.invalidPattern source cause) := by
  rw [removeMatching_eq]
  simp only [hs, PatternArgument.compile]

/-- The section is reported before the pattern. -/
theorem removeMatching_of_missing {fault : Fault} (hs : doc.findSection name = .error fault)
    (key : Text) (pattern : PatternArgument) :
    doc.removeMatching name key pattern = .error fault := by
  rw [removeMatching_eq]
  simp only [hs]

/-- A document holds exactly these entries under a key: none if the list is empty, a single one as
such, and several in order. -/
structure Holds (doc : Document) (name key : Text) (entries : List Entry) : Prop where
  entriesAt : doc.entriesAt (SectionId.canonical name) (Key.normalize key) = entries
  missing : entries = [] → doc.hasOption name key = false
  single : ∀ entry, entries = [entry] → doc.findValue name key = .ok (.one entry)
  several : 2 ≤ entries.length → doc.findValue name key = .ok (.many entries)

theorem IsStored.holds (h : doc.IsStored) (hs : doc.findSection name = .ok s) (key : Text) :
    doc.Holds name key (doc.entriesAt (SectionId.canonical name) (Key.normalize key)) := by
  have hvalue := h.findValue_eq hs key
  refine ⟨rfl, ?_, ?_, ?_⟩
  · intro hnone
    rw [hasOption, hvalue, hnone]
    rfl
  · intro entry hone
    rw [hvalue, hone]
    rfl
  · intro hseveral
    rw [hvalue]
    match doc.entriesAt (SectionId.canonical name) (Key.normalize key), hseveral with
    | first :: second :: rest, _ => rfl

theorem exists_findSection_keeping (hs : doc.findSection name = .ok s) (key : Text)
    (keep : Entry → Bool) :
    ∃ left, (doc.keeping (SectionId.canonical name) key keep).findSection name = .ok left := by
  apply exists_of_hasSection
  rw [keeping_eq_withOptions hs, hasSection, OrderedMap.contains, withOptions, putSection,
    OrderedMap.get?_insert, if_pos rfl]
  rfl

theorem apply_removeMatching_of_ok {pattern : PatternArgument} {removed : Bool}
    {after : Document} (h : doc.removeMatching name key pattern = .ok (removed, after)) :
    (Change.removeMatching name key pattern).apply doc = (.ok (.flag removed), after) := by
  rw [Change.apply_eq, Change.attempt_eq]
  simp only [h, Except.map]

theorem apply_removeMatching_of_error {pattern : PatternArgument} {fault : Fault}
    (h : doc.removeMatching name key pattern = .error fault) :
    (Change.removeMatching name key pattern).apply doc = (.error fault, doc) := by
  rw [Change.apply_eq, Change.attempt_eq]
  simp only [h, Except.map]

/-- Stored forms are kept, as a removal by the pattern itself shows. -/
theorem IsStored.keeping_survives (h : doc.IsStored) (hs : doc.findSection name = .ok s)
    (key : Text) (found : Matcher) :
    (doc.keeping (SectionId.canonical name) (Key.normalize key) (survives found)).IsStored := by
  have hpattern : (PatternArgument.compiled found).compile = .ok found := rfl
  have hremove := h.removeMatching_eq hs hpattern key
  exact h.effect (Change.effect_of_removeMatching hremove) trivial

/-- A removal that is repeated finds nothing more. -/
theorem IsStored.removeMatching_keeping (h : doc.IsStored) (hs : doc.findSection name = .ok s)
    {pattern : PatternArgument} {found : Matcher} (hpattern : pattern.compile = .ok found)
    (key : Text) :
    (doc.keeping (SectionId.canonical name) (Key.normalize key)
        (survives found)).removeMatching name key pattern =
      .ok (false, doc.keeping (SectionId.canonical name) (Key.normalize key)
        (survives found)) := by
  have hstored := h.keeping_survives hs key found
  obtain ⟨left, hleft⟩ := exists_findSection_keeping hs (Key.normalize key) (survives found)
  have hall : ∀ entry ∈ (doc.keeping (SectionId.canonical name) (Key.normalize key)
      (survives found)).entriesAt (SectionId.canonical name) (Key.normalize key),
      survives found entry = true := by
    intro entry hentry
    rw [entriesAt_keeping] at hentry
    exact List.of_mem_filter hentry
  rw [hstored.removeMatching_eq hleft hpattern key, any_found_eq_false hall,
    hstored.keeping_eq_self hleft hall]

/-- A removal by a pattern removes exactly the entries with a match: the others are left in order
and in their stored form, where the key was, and nothing else changes.  The answer tells whether
there was a match, and to repeat the removal changes nothing.  Without the section, or else
without a pattern that can be read, the removal fails and the document stays.  It is so whatever an
engine makes of a written pattern, and whichever texts are found to match. -/
theorem Reachable.removeMatching_exact (h : doc.Reachable) (name key : Text)
    (pattern : PatternArgument) :
    (∀ found : Matcher, doc.hasSection name = true → pattern.compile = .ok found →
      ∃ removed after,
        (Change.removeMatching name key pattern).apply doc = (.ok (.flag removed), after) ∧
        (removed = true ↔
          ∃ entry ∈ doc.entriesAt (SectionId.canonical name) (Key.normalize key),
            found entry.text = true) ∧
        after = doc.keeping (SectionId.canonical name) (Key.normalize key)
          (fun entry => !found entry.text) ∧
        after.Holds name key
          ((doc.entriesAt (SectionId.canonical name) (Key.normalize key)).filter
            fun entry => !found entry.text) ∧
        (removed = false → after = doc) ∧
        (doc.hasOption name key = false → removed = false) ∧
        (Change.removeMatching name key pattern).apply after = (.ok (.flag false), after)) ∧
    (∀ (engine : PatternEngine) (source cause : Text), doc.hasSection name = true →
      pattern = .ofSource engine source → engine source = .error cause →
      (Change.removeMatching name key pattern).apply doc =
        (.error (.invalidPattern source cause), doc)) ∧
    (doc.hasSection name = false →
      (Change.removeMatching name key pattern).apply doc = (.error (.noSection name), doc)) := by
  refine ⟨?found, ?malformed, ?missing⟩
  case found =>
    intro found hname hpattern
    obtain ⟨s, hs⟩ := exists_of_hasSection hname
    have hstored := h.isStored
    have hremove := hstored.removeMatching_eq hs hpattern key
    refine ⟨_, _, apply_removeMatching_of_ok hremove, List.any_eq_true, rfl, ?_, ?_, ?_, ?_⟩
    · obtain ⟨left, hleft⟩ := exists_findSection_keeping hs (Key.normalize key) (survives found)
      have hholds := (hstored.keeping_survives hs key found).holds hleft key
      rw [entriesAt_keeping] at hholds
      exact hholds
    · intro hnone
      refine hstored.keeping_eq_self hs fun entry hentry => ?_
      rw [survives, Bool.not_eq_true', ← Bool.not_eq_true]
      exact List.any_eq_false.mp hnone entry hentry
    · intro hmissing
      rw [hasOption_of_findSection hs] at hmissing
      have hget := OrderedMap.get?_eq_none_of_contains (Bool.eq_false_iff.mp hmissing)
      rw [entriesAt_of_findSection hs, Section.entriesOf, hget]
      rfl
    · exact apply_removeMatching_of_ok (hstored.removeMatching_keeping hs hpattern key)
  case malformed =>
    rintro engine source cause hname rfl hsource
    obtain ⟨s, hs⟩ := exists_of_hasSection hname
    rw [PatternArgument.ofSource, hsource]
    exact apply_removeMatching_of_error (removeMatching_of_malformed hs key)
  case missing =>
    intro hname
    exact apply_removeMatching_of_error
      (removeMatching_of_missing (findSection_of_not_hasSection hname) key pattern)

/-- Of a pattern that it cannot read, the engine tells so. -/
theorem engine_of_malformed {source : Text} (h : Pattern.compile? {} source = none) :
    Pattern.engine source =
      .error ("Invalid regular expression: /".toList ++ source ++ ['/']) := by
  unfold Pattern.engine
  rw [h]

/-- A bare entry and an assigned one go, the single one that is left is stored as such, with the
section and the key spelled in other ways; a pattern that cannot be read; a section that is not
there. -/
theorem removeMatching_exact_of_spellings :
    let removal : Change := .removeMatching " a  \"x\" ".toList " K ".toList
      (.ofSource Pattern.engine "^t|2$".toList)
    let malformed : PatternArgument := .ofSource Pattern.engine "(".toList
    ∃ doc after : Document, ofText "[a \"x\"]\nk = 1\nk\nk = 12\nq = 3".toList = .ok doc ∧
      removal.apply doc = (.ok (.flag true), after) ∧
      after.findValue " a  \"x\" ".toList " K ".toList = .ok (.one (.assigned "1".toList)) ∧
      removal.apply after = (.ok (.flag false), after) ∧
      (Change.removeMatching " a  \"x\" ".toList " K ".toList malformed).apply doc =
        (.error (.invalidPattern "(".toList "Invalid regular expression: /(/".toList), doc) ∧
      (Change.removeMatching "b".toList "k".toList malformed).apply doc =
        (.error (.noSection "b".toList), doc) := by
  intro removal malformed
  obtain ⟨doc, hread⟩ := exists_of_isOk
    (show (ofText "[a \"x\"]\nk = 1\nk\nk = 12\nq = 3".toList).isOk = true by decide +kernel)
  obtain ⟨found, hpattern⟩ := exists_of_isOk
    (show (PatternArgument.ofSource Pattern.engine "^t|2$".toList).compile.isOk = true by
      decide +kernel)
  have hall : ∀ other ∈ (ofText "[a \"x\"]\nk = 1\nk\nk = 12\nq = 3".toList).toOption,
      other.hasSection " a  \"x\" ".toList = true ∧ other.hasSection "b".toList = false ∧
      ∀ found ∈ (PatternArgument.ofSource Pattern.engine "^t|2$".toList).compile.toOption,
        ((other.entriesAt (SectionId.canonical " a  \"x\" ".toList)
          (Key.normalize " K ".toList)).any fun entry => found entry.text) = true ∧
        ((other.entriesAt (SectionId.canonical " a  \"x\" ".toList)
          (Key.normalize " K ".toList)).filter fun entry => !found entry.text) =
          [.assigned "1".toList] := by
    decide +kernel
  obtain ⟨hname, hother, hmatches⟩ := hall doc (by rw [hread]; rfl)
  obtain ⟨hany, hleft⟩ := hmatches found (by rw [hpattern]; rfl)
  have hreachable : doc.Reachable := .ofText hread
  obtain ⟨removed, after, happly, hremoved, -, hholds, -, -, hagain⟩ :=
    (Reachable.removeMatching_exact hreachable " a  \"x\" ".toList " K ".toList _).1 found hname
      hpattern
  obtain rfl := hremoved.mpr (List.any_eq_true.mp hany)
  refine ⟨doc, after, hread, happly, hholds.single _ hleft, hagain, ?_, ?_⟩
  · have hcause := engine_of_malformed (show Pattern.compile? {} "(".toList = none by
      decide +kernel)
    exact (Reachable.removeMatching_exact hreachable _ _ _).2.1 _ _ _ hname rfl hcause
  · exact (Reachable.removeMatching_exact hreachable _ _ _).2.2 hother

end Document

end ConfigEditor
