import ConfigEditor.Proofs.Document.Merge
import ConfigEditor.Proofs.Document.Removal
import ConfigEditor.Proofs.Equality
set_option autoImplicit false

/-!
# What calls answer

Four calls answer a flag: to add a section, to remove one, to remove a key and to remove entries by
a pattern.  Each finds its flag before or beside the change, by a look-up or by counting, and never
by comparing documents.  For each it is proved when the document stays as it was
(`openSection_eq_self_iff`, `OrderedMap.erase_eq_self_iff`, `withOptions_eq_self_iff`,
`IsStored.keeping_eq_self_iff`), and that is when the flag is false (`IsStored.flag_iff`).

A call fails only if its arguments do not pass a check (`Change.IsAccepted`).  All checks come
before the first change (`Change.keepsOnFault_edit`), so the document that a failing call leaves is
the one before.  On reachable documents, to be another document is to compare as another one, so
callers may go by the fault and by the flag (`Reachable.answers`).
-/

namespace ConfigEditor

/-- The calls that tell their caller whether they changed anything. -/
def Change.TellsChange : Change → Prop
  | addSection _ => True
  | removeSection _ => True
  | removeOption _ _ => True
  | removeMatching _ _ _ => True
  | _ => False

/-- The arguments of a call pass all its checks: what is to be opened has a name, what is to be
changed is there, and keys, values, patterns and sources are good. -/
def Change.IsAccepted (doc : Document) : Change → Prop
  | addSection name => ∃ id, SectionId.ofHeader name = .ok id
  | openSection input => ∃ id, SectionId.resolve input = .ok id
  | set name key value => doc.hasSection name = true ∧ (∃ normal, Key.parse key = .ok normal) ∧
      ∃ text, Line.checkValue value = .ok text
  | add name key value => doc.hasSection name = true ∧ (∃ normal, Key.parse key = .ok normal) ∧
      ∃ text, Line.checkValue value = .ok text
  | removeOption name _ => doc.hasSection name = true
  | removeMatching name _ pattern => doc.hasSection name = true ∧
      ∃ found, pattern.compile = .ok found
  | read source label => ∃ other, Document.ofSource source label = .ok other
  | removeSection _ | merge _ | mergeSelf => True

theorem Change.attempt_of_apply {doc after : Document} {change : Change} {outcome : Outcome}
    (h : change.apply doc = (.ok outcome, after)) :
    change.attempt doc = .ok (outcome, after) :=
  Procedure.result_eq_ok_iff.mpr h

namespace Document

variable {doc after : Document} {name key : Text} {s : Section}

/-! ## Edits that change nothing -/

/-- To open a section changes nothing exactly if it is there. -/
theorem openSection_eq_self_iff {id : SectionId} :
    doc.openSection id = doc ↔ doc.sections.contains id.identity = true := by
  constructor
  · intro hsame
    obtain ⟨s, hs⟩ := exists_of_openSection doc id
    rw [← hsame, OrderedMap.contains, hs]
    rfl
  · intro hthere
    rw [openSection, if_pos hthere]

/-- New options of a section change nothing exactly if they are the old ones. -/
theorem withOptions_eq_self_iff (hs : doc.findSection name = .ok s)
    {options : OrderedMap Text Stored} :
    doc.withOptions name s options = doc ↔ options = s.options := by
  constructor
  · intro hsame
    have hget : (doc.withOptions name s options).sections.get? (SectionId.canonical name) =
        some { s with options := options } := by
      rw [withOptions, get?_putSection, if_pos rfl]
    rw [hsame, get?_of_findSection hs] at hget
    exact congrArg Section.options (Option.some.inj hget).symm
  · rintro rfl
    exact withOptions_self hs

/-- To leave entries out changes nothing exactly if all entries pass. -/
theorem IsStored.keeping_eq_self_iff (h : doc.IsStored) (hs : doc.findSection name = .ok s)
    {keep : Entry → Bool} :
    doc.keeping (SectionId.canonical name) key keep = doc ↔
      ∀ entry ∈ doc.entriesAt (SectionId.canonical name) key, keep entry = true := by
  constructor
  · intro hsame entry hentry
    rw [← hsame, entriesAt_keeping] at hentry
    exact List.of_mem_filter hentry
  · exact h.keeping_eq_self hs

/-! ## Checks -/

theorem exists_checkAssignment {value normal text : Text} (hname : doc.hasSection name = true)
    (hkey : Key.parse key = .ok normal) (hvalue : Line.checkValue value = .ok text) :
    ∃ checked, doc.checkAssignment name key value = .ok checked := by
  obtain ⟨s, hs⟩ := exists_of_hasSection hname
  exact ⟨(s, normal, text), by simp only [checkAssignment, hs, hkey, hvalue]⟩

/-- A call whose arguments pass all checks succeeds. -/
theorem IsStored.exists_attempt (h : doc.IsStored) {change : Change}
    (haccepted : change.IsAccepted doc) : ∃ result, change.attempt doc = .ok result := by
  rw [Change.attempt_eq]
  cases change with
  | addSection name =>
      obtain ⟨id, hid⟩ := haccepted
      exact ⟨_, by simp only [addSection_eq, hid]; rfl⟩
  | openSection input =>
      obtain ⟨id, hid⟩ := haccepted
      exact ⟨_, by simp only [hid]; rfl⟩
  | set name key value =>
      obtain ⟨hname, ⟨normal, hkey⟩, text, hvalue⟩ := haccepted
      obtain ⟨checked, hchecked⟩ := exists_checkAssignment hname hkey hvalue
      exact ⟨_, by simp only [set_eq, hchecked]; rfl⟩
  | add name key value =>
      obtain ⟨hname, ⟨normal, hkey⟩, text, hvalue⟩ := haccepted
      obtain ⟨checked, hchecked⟩ := exists_checkAssignment hname hkey hvalue
      exact ⟨_, by simp only [add_eq, hchecked]; rfl⟩
  | removeOption name key =>
      obtain ⟨s, hs⟩ := exists_of_hasSection haccepted
      exact ⟨_, by simp only [removeOption_eq, hs]; rfl⟩
  | removeMatching name key pattern =>
      obtain ⟨hname, found, hpattern⟩ := haccepted
      obtain ⟨s, hs⟩ := exists_of_hasSection hname
      exact ⟨_, by simp only [h.removeMatching_eq hs hpattern]; rfl⟩
  | read source label =>
      obtain ⟨other, hread⟩ := haccepted
      exact ⟨_, by simp only [Document.read_eq, hread]; rfl⟩
  | removeSection name => exact ⟨_, rfl⟩
  | merge source => exact ⟨_, rfl⟩
  | mergeSelf => exact ⟨_, rfl⟩

theorem IsStored.not_isAccepted_of_apply (h : doc.IsStored) {change : Change} {fault : Fault}
    (hfault : change.apply doc = (.error fault, after)) : ¬ change.IsAccepted doc := by
  intro haccepted
  obtain ⟨result, hattempt⟩ := h.exists_attempt haccepted
  rw [Change.apply_eq, hattempt] at hfault
  cases hfault

/-! ## Flags -/

theorem flag_iff_of_addSection {created : Bool}
    (hadd : doc.addSection name = .ok (created, after)) : created = true ↔ after ≠ doc := by
  rw [addSection_eq] at hadd
  split at hadd
  · cases hadd
  · cases hadd
    rw [Ne, openSection_eq_self_iff, Bool.not_eq_true', Bool.not_eq_true]

theorem flag_iff_of_removeSection (doc : Document) (name : Text) :
    (doc.removeSection name).1 = true ↔ (doc.removeSection name).2 ≠ doc := by
  have hsame : (doc.removeSection name).2 = doc ↔ doc.hasSection name = false := by
    rw [hasSection, ← OrderedMap.erase_eq_self_iff]
    exact ⟨congrArg Document.sections, congrArg Document.mk⟩
  rw [Ne, hsame, Bool.not_eq_false]
  rfl

theorem flag_iff_of_removeOption {removed : Bool}
    (hremove : doc.removeOption name key = .ok (removed, after)) :
    removed = true ↔ after ≠ doc := by
  rw [removeOption_eq] at hremove
  obtain ⟨s, hs, hafter⟩ := exists_of_map_eq_ok hremove
  obtain ⟨rfl, rfl⟩ := Prod.mk.inj hafter
  rw [Ne, withOptions_eq_self_iff hs, OrderedMap.erase_eq_self_iff, Bool.not_eq_false]

theorem exists_of_removeMatching {pattern : PatternArgument} {removed : Bool}
    (hremove : doc.removeMatching name key pattern = .ok (removed, after)) :
    ∃ s found, doc.findSection name = .ok s ∧ pattern.compile = .ok found := by
  rw [removeMatching_eq] at hremove
  split at hremove
  · cases hremove
  · rename_i s hs
    split at hremove
    · cases hremove
    · rename_i found hpattern
      exact ⟨s, found, hs, hpattern⟩

/-- The count of what is left is as good as a comparison, since stored forms are rebuilt. -/
theorem IsStored.flag_iff_of_removeMatching (h : doc.IsStored) {pattern : PatternArgument}
    {removed : Bool} (hremove : doc.removeMatching name key pattern = .ok (removed, after)) :
    removed = true ↔ after ≠ doc := by
  obtain ⟨s, found, hs, hpattern⟩ := exists_of_removeMatching hremove
  rw [h.removeMatching_eq hs hpattern key] at hremove
  obtain ⟨rfl, rfl⟩ := Prod.mk.inj (Except.ok.inj hremove)
  rw [Ne, h.keeping_eq_self_iff hs]
  simp [survives]

/-- A call that tells whether it changed anything answers a flag, and the flag is true exactly if
the document is another one. -/
theorem IsStored.flag_iff (h : doc.IsStored) {change : Change} {outcome : Outcome}
    (htells : change.TellsChange) (hattempt : change.attempt doc = .ok (outcome, after)) :
    ∃ changed, outcome = .flag changed ∧ (changed = true ↔ after ≠ doc) := by
  rw [Change.attempt_eq] at hattempt
  cases change with
  | addSection name =>
      obtain ⟨added, hadd, hafter⟩ := exists_of_map_eq_ok hattempt
      obtain ⟨rfl, rfl⟩ := Prod.mk.inj hafter
      exact ⟨_, rfl, flag_iff_of_addSection hadd⟩
  | removeSection name =>
      obtain ⟨rfl, rfl⟩ := Prod.mk.inj (Except.ok.inj hattempt)
      exact ⟨_, rfl, flag_iff_of_removeSection doc name⟩
  | removeOption name key =>
      obtain ⟨removed, hremove, hafter⟩ := exists_of_map_eq_ok hattempt
      obtain ⟨rfl, rfl⟩ := Prod.mk.inj hafter
      exact ⟨_, rfl, flag_iff_of_removeOption hremove⟩
  | removeMatching name key pattern =>
      obtain ⟨removed, hremove, hafter⟩ := exists_of_map_eq_ok hattempt
      obtain ⟨rfl, rfl⟩ := Prod.mk.inj hafter
      exact ⟨_, rfl, h.flag_iff_of_removeMatching hremove⟩
  | openSection _ | set _ _ _ | add _ _ _ | merge _ | mergeSelf | read _ _ => cases htells

/-! ## Answers -/

theorem equals_eq_false_iff {a b : Document} (ha : a.WellFormed) (hb : b.WellFormed) :
    a.equals b = false ↔ a ≠ b := by
  rw [← Bool.not_eq_true]
  refine not_congr ⟨eq_of_equals ha hb, ?_⟩
  rintro rfl
  exact equals_self a

theorem Reachable.apply_of_tellsChange (h : doc.Reachable) {change : Change}
    (htells : change.TellsChange) : (change.apply doc).2.Reachable := by
  refine .change change h ?_
  rintro source rfl
  cases htells

/-- What a call answers is true of the document.  A call that answers a fault has left the document
as it was, and its arguments did not pass all checks.  A call that tells whether it changed anything
answers a flag otherwise, and the flag is true exactly if the document does not compare as equal to
the one before; if it is false, the document is the very same. -/
theorem Reachable.answers (h : doc.Reachable) (change : Change) :
    (∀ fault after, change.apply doc = (.error fault, after) →
        after = doc ∧ ¬ change.IsAccepted doc) ∧
      ∀ outcome after, change.TellsChange → change.apply doc = (.ok outcome, after) →
        ∃ changed, outcome = .flag changed ∧
          (changed = true ↔ after.equals doc = false) ∧ (changed = false → after = doc) := by
  have hstored := h.isStored
  refine ⟨?fault, ?flag⟩
  case fault =>
    intro fault after hfault
    exact ⟨Change.apply_of_error hfault, hstored.not_isAccepted_of_apply hfault⟩
  case flag =>
    intro outcome after htells happly
    obtain ⟨changed, houtcome, hiff⟩ :=
      hstored.flag_iff htells (Change.attempt_of_apply happly)
    -- The document afterwards is reachable as well, so being another one shows in a comparison.
    have hafter : after.Reachable := by
      have hreach := h.apply_of_tellsChange htells
      rwa [happly] at hreach
    refine ⟨changed, houtcome, ?_, ?_⟩
    · rw [hiff, equals_eq_false_iff hafter.wellFormed h.wellFormed]
    · rintro rfl
      simpa using hiff

/-- A key of one entry, removed by another spelling of its section and of itself, and a removal that
fails. -/
theorem Reachable.answers_of_spellings :
    ∃ doc after left : Document, Document.ofText "[a \"x\"]\nk = 1\nq".toList = .ok doc ∧
      (Change.removeOption " a  \"x\" ".toList " K ".toList).apply doc = (.ok (.flag true), after) ∧
      after.equals doc = false ∧
      (Change.removeOption "A \"x\"".toList "k".toList).apply doc =
        (.error (.noSection "A \"x\"".toList), left) ∧
      left = doc ∧ ¬ (Change.removeOption "A \"x\"".toList "k".toList).IsAccepted doc := by
  obtain ⟨doc, hread⟩ := exists_of_isOk
    (show (Document.ofText "[a \"x\"]\nk = 1\nq".toList).isOk = true by decide +kernel)
  have hall : ∀ other ∈ (Document.ofText "[a \"x\"]\nk = 1\nq".toList).toOption,
      ((Change.removeOption " a  \"x\" ".toList " K ".toList).apply other).1 =
        .ok (.flag true) ∧
      ((Change.removeOption "A \"x\"".toList "k".toList).apply other).1 =
        .error (.noSection "A \"x\"".toList) := by
    decide +kernel
  obtain ⟨hremoved, hmissing⟩ := hall doc (by rw [hread]; rfl)
  obtain ⟨after, happly⟩ : ∃ after, (Change.removeOption " a  \"x\" ".toList " K ".toList).apply
      doc = (.ok (.flag true), after) := ⟨_, Prod.ext hremoved rfl⟩
  obtain ⟨left, hfault⟩ : ∃ left, (Change.removeOption "A \"x\"".toList "k".toList).apply
      doc = (.error (.noSection "A \"x\"".toList), left) := ⟨_, Prod.ext hmissing rfl⟩
  have hreachable : doc.Reachable := .ofText hread
  obtain ⟨changed, hflag, hchanged, -⟩ :=
    (Reachable.answers hreachable (.removeOption _ _)).2 _ _ trivial happly
  obtain rfl := Outcome.flag.inj hflag
  exact ⟨doc, after, left, hread, happly, hchanged.mp rfl, hfault,
    (Reachable.answers hreachable _).1 _ _ hfault⟩

end Document

end ConfigEditor
