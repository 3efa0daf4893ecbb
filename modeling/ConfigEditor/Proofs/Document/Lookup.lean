import ConfigEditor.Proofs.Document.Statements
set_option autoImplicit false

/-!
# What is stored under a key

`entriesAt` is the list of entries under an identity and a key, empty where there is none.  It
says what an assignment changes (`entriesAt_set`, `entriesAt_add`) and what statements add: each
occurrence that stands under the identity and names the key, in order (`entriesAt_extend`).
-/

namespace ConfigEditor

namespace Section

/-- The entries of a key in order. -/
def entriesOf (s : Section) (key : Text) : List Entry :=
  (s.options.get? key).elim [] Stored.entries

theorem entriesOf_record (s : Section) (key : Text) (entry : Entry) (other : Text) :
    (s.record key entry).entriesOf other =
      s.entriesOf other ++ if key = other then [entry] else [] := by
  unfold entriesOf record
  rw [OrderedMap.get?_insert]
  by_cases hkey : other = key
  · rw [if_pos hkey, if_pos hkey.symm, Option.elim_some, hkey]
    exact Stored.entries_append? _ entry
  · rw [if_neg hkey, if_neg (Ne.symm hkey), List.append_nil]

end Section

namespace Document

/-- The entries under an identity and a key in order. -/
def entriesAt (doc : Document) (identity key : Text) : List Entry :=
  (doc.sections.get? identity).elim [] fun s => s.entriesOf key

/-- The texts under an identity and a key in order. -/
def textsAt (doc : Document) (identity key : Text) : List Text :=
  (doc.entriesAt identity key).map Entry.text

/-- What holds of every occurrence holds of the entries under a key. -/
theorem Every.entriesAt {doc : Document} {P : SectionId → Prop} {Q : Text → Entry → Prop}
    (h : doc.Every P Q) {identity key : Text} {entry : Entry}
    (hentry : entry ∈ doc.entriesAt identity key) : Q key entry := by
  unfold Document.entriesAt at hentry
  cases hs : doc.sections.get? identity with
  | none =>
      rw [hs] at hentry
      cases hentry
  | some s =>
      rw [hs, Option.elim_some] at hentry
      unfold Section.entriesOf at hentry
      cases hvalue : s.options.get? key with
      | none =>
          rw [hvalue] at hentry
          cases hentry
      | some value =>
          rw [hvalue, Option.elim_some] at hentry
          have hoptions := (h _ (OrderedMap.mem_of_get? hs)).2.2
          exact (hoptions _ (OrderedMap.mem_of_get? hvalue)).2 entry hentry

theorem entriesAt_putSection (doc : Document) (identity : Text) (s : Section)
    (other key : Text) :
    (doc.putSection identity s).entriesAt other key =
      if other = identity then s.entriesOf key else doc.entriesAt other key := by
  unfold entriesAt putSection
  rw [OrderedMap.get?_insert]
  by_cases hid : other = identity
  · rw [if_pos hid, if_pos hid, Option.elim_some]
  · rw [if_neg hid, if_neg hid]

/-- Opening a section adds no entry. -/
theorem entriesAt_openSection (doc : Document) (id : SectionId) (identity key : Text) :
    (doc.openSection id).entriesAt identity key = doc.entriesAt identity key := by
  unfold openSection
  split
  · rfl
  · rename_i hmissing
    have hget := OrderedMap.get?_eq_none_of_contains hmissing
    rw [entriesAt_putSection]
    split
    · rename_i hid
      unfold entriesAt
      rw [hid, hget]
      rfl
    · rfl

theorem entriesAt_record {doc : Document} {identity : Text} {s : Section}
    (h : doc.sections.get? identity = some s) (key : Text) (entry : Entry) (other name : Text) :
    (doc.record identity key entry).entriesAt other name =
      doc.entriesAt other name ++ if identity = other ∧ key = name then [entry] else [] := by
  unfold record
  rw [h]
  simp only [entriesAt_putSection, Section.entriesOf_record]
  by_cases hid : other = identity
  · subst hid
    have hentries : doc.entriesAt other name = s.entriesOf name := by
      unfold entriesAt
      rw [h]
      rfl
    simp [hentries]
  · have hid' : ¬ identity = other := fun e => hid e.symm
    simp [hid, hid']

/-! ## Look-ups -/

/-- A look-up that succeeds hands back the texts that are stored, and it fails where there are
none. -/
theorem getAll_eq_ok_iff {doc : Document} {P : SectionId → Prop} {Q : Text → Entry → Prop}
    (h : doc.Every P Q) {name key : Text} {values : List Text} :
    doc.getAll name key = .ok values ↔
      values ≠ [] ∧ doc.textsAt (SectionId.canonical name) (Key.normalize key) = values := by
  unfold getAll findValue findSection textsAt entriesAt
  cases hs : doc.sections.get? (SectionId.canonical name) with
  | none => simp [Except.map, eq_comm]
  | some s =>
      unfold Section.entriesOf
      cases hvalue : s.options.get? (Key.normalize key) with
      | none => simp [Except.map, eq_comm, hvalue]
      | some value =>
          have hstored := ((h _ (OrderedMap.mem_of_get? hs)).2.2 _
            (OrderedMap.mem_of_get? hvalue)).1
          have hne : value.texts ≠ [] := by
            unfold Stored.texts
            rw [ne_eq, List.map_eq_nil_iff]
            exact Stored.entries_ne_nil hstored
          simp only [hvalue, Except.map, Option.elim_some, Except.ok.injEq]
          change value.texts = values ↔ values ≠ [] ∧ value.texts = values
          constructor
          · rintro rfl
            exact ⟨hne, rfl⟩
          · exact fun hboth => hboth.2

/-! ## Assignments -/

theorem get?_of_findSection {doc : Document} {name : Text} {s : Section}
    (h : doc.findSection name = .ok s) :
    doc.sections.get? (SectionId.canonical name) = some s := by
  unfold findSection at h
  split at h
  · rename_i found hget
    cases h
    exact hget
  · cases h

theorem entriesAt_of_findSection {doc : Document} {name : Text} {s : Section}
    (hs : doc.findSection name = .ok s) (key : Text) :
    doc.entriesAt (SectionId.canonical name) key = s.entriesOf key := by
  rw [entriesAt, get?_of_findSection hs, Option.elim_some]

theorem exists_of_hasSection {doc : Document} {name : Text} (h : doc.hasSection name = true) :
    ∃ s, doc.findSection name = .ok s := by
  obtain ⟨s, hs⟩ := Option.isSome_iff_exists.mp h
  exact ⟨s, by simp [findSection, hs]⟩

theorem hasSection_of_findSection {doc : Document} {name : Text} {s : Section}
    (hs : doc.findSection name = .ok s) : doc.hasSection name = true := by
  rw [hasSection, OrderedMap.contains, get?_of_findSection hs]
  rfl

theorem findSection_of_not_hasSection {doc : Document} {name : Text}
    (h : doc.hasSection name = false) : doc.findSection name = .error (.noSection name) := by
  unfold findSection
  rw [OrderedMap.get?_eq_none_of_contains (Bool.eq_false_iff.mp h)]

theorem hasOption_of_findSection {doc : Document} {name : Text} {s : Section}
    (hs : doc.findSection name = .ok s) (key : Text) :
    doc.hasOption name key = s.options.contains (Key.normalize key) := by
  unfold hasOption findValue OrderedMap.contains
  simp only [hs]
  cases s.options.get? (Key.normalize key) <;> rfl

/-- The options that a section has are put back without a change. -/
theorem withOptions_self {doc : Document} {name : Text} {s : Section}
    (hs : doc.findSection name = .ok s) : doc.withOptions name s s.options = doc := by
  unfold withOptions putSection
  rw [OrderedMap.insert_of_get? (get?_of_findSection hs)]

theorem entriesAt_set {doc after : Document} {name key value : Text}
    (h : doc.set name key value = .ok after) :
    after.entriesAt (SectionId.canonical name) (Key.normalize key) = [.assigned value] := by
  obtain ⟨s, normal, _, hkey, _, rfl⟩ := of_set h
  unfold withOptions
  rw [entriesAt_putSection, if_pos rfl, ← Key.eq_normalize_of_parse hkey]
  unfold Section.entriesOf
  rw [OrderedMap.get?_insert, if_pos rfl]
  rfl

theorem entriesAt_add {doc after : Document} {name key value : Text}
    (h : doc.add name key value = .ok after) :
    after.entriesAt (SectionId.canonical name) (Key.normalize key) =
      doc.entriesAt (SectionId.canonical name) (Key.normalize key) ++ [.assigned value] := by
  obtain ⟨s, normal, hs, hkey, _, rfl⟩ := of_add h
  unfold withOptions
  rw [entriesAt_putSection, if_pos rfl, ← Key.eq_normalize_of_parse hkey]
  have hrecord := s.entriesOf_record normal (.assigned value) normal
  rw [if_pos rfl] at hrecord
  rw [entriesAt_of_findSection hs]
  exact hrecord

end Document

/-! ## Statements -/

/-- The entries that statements add under an identity and a key, from below the header of the
identity `current?` on. -/
def entriesUnder (identity key : Text) : Option Text → List Statement → List Entry
  | _, [] => []
  | _, .header id :: rest => entriesUnder identity key (some id.identity) rest
  | current?, .occurrence name entry :: rest =>
    (if current? = some identity ∧ name = key then [entry] else [])
      ++ entriesUnder identity key current? rest

namespace ReadState

/-- The section at hand is there. -/
def HasCurrent (state : ReadState) : Prop :=
  ∀ identity, state.current = some identity → ∃ s, state.doc.sections.get? identity = some s

theorem hasCurrent_take {state : ReadState} (h : state.HasCurrent) (statement : Statement) :
    (state.take statement).HasCurrent := by
  cases statement with
  | header id =>
      intro identity hcurrent
      obtain rfl := Option.some.inj hcurrent
      change ∃ s, (state.doc.openSection id).sections.get? id.identity = some s
      unfold Document.openSection
      split
      · rename_i hcontains
        exact Option.isSome_iff_exists.mp hcontains
      · exact ⟨.new id, by rw [Document.putSection, OrderedMap.get?_insert, if_pos rfl]⟩
  | occurrence key entry =>
      cases hcurrent : state.current with
      | none =>
          intro identity hidentity
          rw [take, hcurrent] at hidentity
          simp only [hcurrent] at hidentity
          cases hidentity
      | some current =>
          obtain ⟨s, hs⟩ := h current hcurrent
          intro identity hidentity
          simp only [take, hcurrent, Option.some.injEq] at hidentity ⊢
          subst hidentity
          refine ⟨s.record key entry, ?_⟩
          unfold Document.record
          rw [hs]
          simp [Document.putSection, OrderedMap.get?_insert]

theorem entriesAt_foldl_take (statements : List Statement) {state : ReadState}
    (h : state.HasCurrent) (identity key : Text) :
    (statements.foldl take state).doc.entriesAt identity key =
      state.doc.entriesAt identity key
        ++ entriesUnder identity key state.current statements := by
  induction statements generalizing state with
  | nil => rw [List.foldl_nil, entriesUnder, List.append_nil]
  | cons statement rest ih =>
      rw [List.foldl_cons, ih (hasCurrent_take h statement)]
      cases statement with
      | header id =>
          rw [entriesUnder]
          simp only [take, Document.entriesAt_openSection]
      | occurrence name entry =>
          rw [entriesUnder]
          cases hcurrent : state.current with
          | none => simp [take, hcurrent]
          | some current =>
              obtain ⟨s, hs⟩ := h current hcurrent
              simp only [take, hcurrent, Document.entriesAt_record hs, List.append_assoc,
                Option.some.injEq]

end ReadState

/-- Statements add what stands under the identity and names the key. -/
theorem Document.entriesAt_extend (doc : Document) (statements : List Statement)
    (identity key : Text) :
    (doc.extend statements).entriesAt identity key =
      doc.entriesAt identity key ++ entriesUnder identity key none statements :=
  ReadState.entriesAt_foldl_take statements (by rintro _ ⟨⟩) identity key

end ConfigEditor
