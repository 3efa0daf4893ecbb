import ConfigEditor.Document.ToText
import ConfigEditor.Proofs.Document.WellFormed
set_option autoImplicit false

/-!
# Statements: what the lines of a document say

A document is written as a row of statements, each a section header or one occurrence of a key
(`Document.lines_eq`).  `ReadState.take` is what a reader does with a statement, and a document
extended by the statements of another is the two merged (`merge_eq_extend`).

The statements of a document say all of it: taken in by an empty document they rebuild it
(`merge_empty`).  A statement that is taken in adds itself, somewhere, or nothing
(`statements_record`, `statements_openSection`).
-/

namespace ConfigEditor

/-- A line of a written document: a section header, or one occurrence of a key. -/
inductive Statement where
  | header (id : SectionId)
  | occurrence (key : Text) (entry : Entry)
  deriving DecidableEq, Repr, Inhabited

/-- The line that a statement is written as. -/
def Statement.line : Statement → Text
  | header id => '[' :: (id.identity ++ [']'])
  | occurrence key entry => entry.line key

/-- The occurrences of a key in order. -/
def occurrencesOf (option : Text × Stored) : List Statement :=
  option.2.entries.map (Statement.occurrence option.1)

/-- The statements of a section. -/
def Section.statements (s : Section) : List Statement :=
  .header s.id :: s.options.pairs.flatMap occurrencesOf

/-- The statements of a document. -/
def Document.statements (doc : Document) : List Statement :=
  doc.sectionList.flatMap Section.statements

theorem Section.lines_eq (s : Section) : s.lines = s.statements.map Statement.line := by
  unfold lines statements
  rw [List.map_cons, List.map_flatMap]
  congr 2
  funext option
  unfold occurrencesOf
  rw [List.map_map]
  rfl

theorem Document.lines_eq (doc : Document) : doc.lines = doc.statements.map Statement.line := by
  unfold lines statements
  rw [List.map_flatMap]
  congr 1
  funext s
  exact s.lines_eq

theorem Document.mem_statements {doc : Document} {statement : Statement} :
    statement ∈ doc.statements ↔ ∃ s ∈ doc.sectionList, statement = .header s.id ∨
      ∃ option ∈ s.options.pairs, ∃ entry ∈ option.2.entries,
        statement = .occurrence option.1 entry := by
  unfold statements Section.statements occurrencesOf
  simp only [List.mem_flatMap, List.mem_cons, List.mem_map, eq_comm]

/-- A document that says anything says a header first. -/
theorem Document.statements_eq_nil_or (doc : Document) :
    doc.statements = [] ∨ ∃ id rest, doc.statements = .header id :: rest := by
  unfold statements
  cases doc.sectionList with
  | nil => exact .inl rfl
  | cons s sections => exact .inr ⟨s.id, _, rfl⟩

/-! ## Taking statements in -/

/-- Takes one statement in; an occurrence before the first header is lost. -/
def ReadState.take (state : ReadState) : Statement → ReadState
  | .header id =>
    { state with doc := state.doc.openSection id, current := some id.identity }
  | .occurrence key entry =>
    match state.current with
    | none => state
    | some identity => { state with doc := state.doc.record identity key entry }

/-- A document with a row of statements after it. -/
def Document.extend (doc : Document) (statements : List Statement) : Document :=
  (statements.foldl ReadState.take ⟨doc, none, []⟩).doc

theorem ReadState.foldl_take_occurrences {state : ReadState} {identity : Text}
    (h : state.current = some identity) (key : Text) (entries : List Entry) :
    (entries.map (Statement.occurrence key)).foldl take state =
      { state with doc := state.doc.recordAll identity key entries } := by
  unfold Document.recordAll
  induction entries generalizing state with
  | nil => rfl
  | cons entry entries ih =>
      have hstep : state.take (.occurrence key entry) =
          { state with doc := state.doc.record identity key entry } := by
        simp [take, h]
      rw [List.map_cons, List.foldl_cons, hstep, ih (by exact h), List.foldl_cons]

theorem ReadState.foldl_take_section (state : ReadState) (s : Section) :
    s.statements.foldl take state =
      { state with doc := state.doc.mergeSection s, current := some s.id.identity } := by
  unfold Section.statements Document.mergeSection
  rw [List.foldl_cons, take]
  generalize state.doc.openSection s.id = opened
  generalize s.options.pairs = pairs
  induction pairs generalizing opened with
  | nil => rfl
  | cons option pairs ih =>
      rw [List.flatMap_cons, List.foldl_append, occurrencesOf,
        foldl_take_occurrences rfl, List.foldl_cons]
      exact ih _

theorem ReadState.foldl_take_sections (state : ReadState) (sections : List Section) :
    ((sections.flatMap Section.statements).foldl take state).doc =
      sections.foldl Document.mergeSection state.doc := by
  induction sections generalizing state with
  | nil => rfl
  | cons s sections ih =>
      rw [List.flatMap_cons, List.foldl_append, foldl_take_section, ih, List.foldl_cons]

/-- Merging is taking in what the source says. -/
theorem Document.merge_eq_extend (target source : Document) :
    target.merge source = target.extend source.statements :=
  (ReadState.foldl_take_sections ⟨target, none, []⟩ source.sectionList).symm

/-! ## Rebuilding a document -/

/-- Several occurrences of a key, one after the other. -/
def Section.recordAll (s : Section) (key : Text) (entries : List Entry) : Section :=
  entries.foldl (fun t entry => t.record key entry) s

/-- Several entries at the end of what is stored. -/
def Stored.appendAll (value : Stored) (entries : List Entry) : Stored :=
  entries.foldl append value

theorem Stored.appendAll_many (first entries : List Entry) :
    (many first).appendAll entries = many (first ++ entries) := by
  unfold appendAll
  induction entries generalizing first with
  | nil => rw [List.append_nil, List.foldl_nil]
  | cons entry entries ih =>
      rw [List.foldl_cons, append, ih, List.append_assoc, List.singleton_append]

/-- A stored value is its first entry with the others appended. -/
theorem Stored.exists_appendAll {value : Stored} (h : value.WellFormed) :
    ∃ first rest, value.entries = first :: rest ∧ (one first).appendAll rest = value := by
  cases value with
  | one entry => exact ⟨entry, [], rfl, rfl⟩
  | many entries =>
      have hlength : 2 ≤ entries.length := h
      match entries, hlength with
      | first :: second :: rest, _ =>
          refine ⟨first, second :: rest, rfl, ?_⟩
          exact appendAll_many [first, second] rest

namespace Section

theorem recordAll_last {s : Section} {l : List (Text × Stored)} {key : Text} {value : Stored}
    (h : s.options.pairs = l ++ [(key, value)]) (entries : List Entry) :
    (s.recordAll key entries).id = s.id ∧
      (s.recordAll key entries).options.pairs = l ++ [(key, value.appendAll entries)] := by
  unfold recordAll Stored.appendAll
  induction entries generalizing s value with
  | nil => exact ⟨rfl, h⟩
  | cons entry entries ih =>
      have hrecord : (s.record key entry).options.pairs = l ++ [(key, value.append entry)] := by
        unfold record
        rw [OrderedMap.get?_last h]
        exact OrderedMap.pairs_insert_last h _
      rw [List.foldl_cons, List.foldl_cons]
      exact ih hrecord

/-- All occurrences of a new key put it last. -/
theorem recordAll_new {s : Section} {key : Text} {value : Stored}
    (hkey : s.options.get? key = none) (hvalue : value.WellFormed) :
    (s.recordAll key value.entries).id = s.id ∧
      (s.recordAll key value.entries).options.pairs = s.options.pairs ++ [(key, value)] := by
  obtain ⟨first, rest, hentries, hstored⟩ := Stored.exists_appendAll hvalue
  have hrecord : (s.record key first).options.pairs = s.options.pairs ++ [(key, .one first)] := by
    unfold record
    rw [hkey]
    exact OrderedMap.pairs_insert_of_get?_eq_none hkey _
  rw [hentries, recordAll, List.foldl_cons, ← hstored]
  exact recordAll_last hrecord rest

end Section

namespace Document

theorem record_last {doc : Document} {l : List (Text × Section)} {identity : Text} {s : Section}
    (h : doc.sections.pairs = l ++ [(identity, s)]) (key : Text) (entry : Entry) :
    (doc.record identity key entry).sections.pairs = l ++ [(identity, s.record key entry)] := by
  unfold record
  rw [OrderedMap.get?_last h]
  exact OrderedMap.pairs_insert_last h _

theorem recordAll_last {doc : Document} {l : List (Text × Section)} {identity : Text}
    {s : Section} (h : doc.sections.pairs = l ++ [(identity, s)]) (key : Text)
    (entries : List Entry) :
    (doc.recordAll identity key entries).sections.pairs =
      l ++ [(identity, s.recordAll key entries)] := by
  unfold recordAll Section.recordAll
  induction entries generalizing doc s with
  | nil => exact h
  | cons entry entries ih =>
      rw [List.foldl_cons, List.foldl_cons]
      exact ih (record_last h key entry)

/-- Merging a section under a new identity puts it last. -/
theorem mergeSection_new {doc : Document} {s : Section}
    (hid : doc.sections.get? s.id.identity = none)
    (hstored : ∀ option ∈ s.options.pairs, option.2.WellFormed) :
    (doc.mergeSection s).sections.pairs = doc.sections.pairs ++ [(s.id.identity, s)] := by
  have hopen : (doc.openSection s.id).sections.pairs =
      doc.sections.pairs ++ [(s.id.identity, .new s.id)] := by
    unfold openSection
    simp only [OrderedMap.contains, hid, Option.isSome_none, Bool.false_eq_true, if_false]
    exact OrderedMap.pairs_insert_of_get?_eq_none hid _
  -- the fold has taken in the options `before` and made `t` of the new section
  have hfold : ∀ (rest before : List (Text × Stored)) (current : Document) (t : Section),
      s.options.pairs = before ++ rest → t.id = s.id → t.options.pairs = before →
      current.sections.pairs = doc.sections.pairs ++ [(s.id.identity, t)] →
      (rest.foldl (fun d option => d.recordAll s.id.identity option.1 option.2.entries)
        current).sections.pairs = doc.sections.pairs ++ [(s.id.identity, s)] := by
    intro rest
    induction rest with
    | nil =>
        intro before current t hsplit hid' hoptions hcurrent
        have hpairs : t.options.pairs = s.options.pairs := by
          rw [hsplit, hoptions, List.append_nil]
        have ht : t = s := by
          cases t
          cases s
          cases hid'
          cases OrderedMap.ext_pairs hpairs
          rfl
        rw [List.foldl_nil, hcurrent, ht]
    | cons option rest ih =>
        intro before current t hsplit hid' hoptions hcurrent
        obtain ⟨key, value⟩ := option
        have hnew : t.options.get? key = none := by
          rw [OrderedMap.get?_eq_none_iff, OrderedMap.keys, hoptions]
          exact OrderedMap.not_mem_before hsplit
        have hvalue : value.WellFormed := hstored (key, value) (by simp [hsplit])
        obtain ⟨hrecordId, hrecord⟩ := Section.recordAll_new hnew hvalue
        rw [List.foldl_cons]
        refine ih (before ++ [(key, value)]) _ (t.recordAll key value.entries) ?_ ?_ ?_ ?_
        · rw [hsplit, List.append_assoc, List.singleton_append]
        · rw [hrecordId, hid']
        · rw [hrecord, hoptions]
        · exact recordAll_last hcurrent key value.entries
  unfold mergeSection
  exact hfold s.options.pairs [] _ (.new s.id) rfl rfl rfl hopen

/-- Taken in by an empty document, the statements of a document rebuild it. -/
theorem merge_empty {doc : Document} {P : SectionId → Prop} {Q : Text → Entry → Prop}
    (h : doc.Every P Q) : empty.merge doc = doc := by
  have hfold : ∀ (rest before : List (Text × Section)) (current : Document),
      doc.sections.pairs = before ++ rest → current.sections.pairs = before →
      ((rest.map Prod.snd).foldl mergeSection current).sections.pairs = doc.sections.pairs := by
    intro rest
    induction rest with
    | nil =>
        intro before current hsplit hcurrent
        rw [List.map_nil, List.foldl_nil, hcurrent, hsplit, List.append_nil]
    | cons p rest ih =>
        intro before current hsplit hcurrent
        obtain ⟨identity, s⟩ := p
        obtain ⟨hown, _, hoptions⟩ := h (identity, s) (by simp [hsplit])
        have hidentity : s.id.identity = identity := hown
        have hnew : current.sections.get? s.id.identity = none := by
          rw [OrderedMap.get?_eq_none_iff, OrderedMap.keys, hcurrent, hidentity]
          exact OrderedMap.not_mem_before hsplit
        rw [List.map_cons, List.foldl_cons]
        refine ih (before ++ [(identity, s)]) _ ?_ ?_
        · rw [hsplit, List.append_assoc, List.singleton_append]
        · have hmerge := mergeSection_new hnew fun option hoption => (hoptions option hoption).1
          rw [hmerge, hcurrent, hidentity]
  have hpairs := hfold doc.sections.pairs [] empty rfl rfl
  cases doc
  exact congrArg Document.mk (OrderedMap.ext_pairs hpairs)

end Document

/-! ## What a statement adds -/

theorem Document.statements_eq (doc : Document) :
    doc.statements = doc.sections.pairs.flatMap fun p => p.2.statements := by
  unfold statements sectionList OrderedMap.values
  rw [List.flatMap_map]

theorem Section.statements_record (s : Section) (key : Text) (entry : Entry) :
    (s.record key entry).statements.Perm (s.statements ++ [.occurrence key entry]) := by
  refine List.Perm.cons _ ?_
  unfold record
  cases hget : s.options.get? key with
  | none =>
      rw [OrderedMap.pairs_insert_of_get?_eq_none hget, List.flatMap_append]
      exact .refl _
  | some value =>
      refine OrderedMap.perm_flatMap_insert hget ?_
      unfold occurrencesOf Stored.append?
      rw [Stored.entries_append, List.map_append]
      exact .refl _

/-- An occurrence of a section that is there is added to what the document says. -/
theorem Document.statements_record {doc : Document} {identity : Text} {s : Section}
    (h : doc.sections.get? identity = some s) (key : Text) (entry : Entry) :
    (doc.record identity key entry).statements.Perm
      (doc.statements ++ [.occurrence key entry]) := by
  rw [statements_eq, statements_eq]
  unfold record
  rw [h]
  exact OrderedMap.perm_flatMap_insert h (s.statements_record key entry)

/-- A header adds itself, or nothing. -/
theorem Document.statements_openSection (doc : Document) (id : SectionId) :
    (doc.openSection id).statements = doc.statements ∨
      (doc.openSection id).statements = doc.statements ++ [.header id] := by
  unfold openSection
  split
  · exact .inl rfl
  · rename_i hmissing
    have hget := OrderedMap.get?_eq_none_of_contains hmissing
    right
    rw [statements_eq, statements_eq, putSection, OrderedMap.pairs_insert_of_get?_eq_none hget,
      List.flatMap_append]
    rfl

end ConfigEditor
