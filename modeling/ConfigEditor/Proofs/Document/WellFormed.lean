import ConfigEditor.Proofs.Document.Effect
import ConfigEditor.Proofs.OrderedMap
import ConfigEditor.Proofs.Tokens
set_option autoImplicit false

/-!
# Well-formed documents

`Document.Every P Q` says that every section is stored under its own identity, that its id
satisfies `P`, and that every occurrence of every key satisfies `Q`.  It is kept by opening a
section, by recording an occurrence, by merging and by every change, as long as what is new
satisfies the predicates; each of these is shown once, for all predicates.

A document is *well formed* if its ids are canonical, its keys normal and its assigned texts
clean lines.  Every reachable document is (`Reachable.wellFormed`), and so it has the form in which
each of its parts can be read on its own (`Reachable.canonical`).
-/

namespace ConfigEditor

/-! ## Entries and keys -/

namespace Entry

/-- An assigned text is clean and holds no line feed. -/
def WellFormed : Entry → Prop
  | assigned text => Line.cleanValue text = text ∧ '\n' ∉ text
  | bare => True

/-- What an entry reads as holds no line feed either. -/
theorem newline_not_mem_text {entry : Entry} (h : entry.WellFormed) : '\n' ∉ entry.text := by
  cases entry with
  | assigned text => exact h.2
  | bare => decide

/-- An assigned text ends in an odd run of backslashes, so that its line goes on. -/
def dangles : Entry → Bool
  | assigned text => Line.continues text
  | bare => false

end Entry

/-- A valid key in its normal form. -/
def Key.IsNormal (key : Text) : Prop := isValid key = true ∧ normalize key = key

theorem Key.isNormal_normalize {key : Text} (h : isValid key = true) :
    IsNormal (normalize key) :=
  ⟨isValid_normalize h, normalize_normalize h⟩

theorem Key.isNormal_of_parse {raw key : Text} (h : parse raw = .ok key) : IsNormal key := by
  unfold parse at h
  split at h
  · rename_i hvalid
    cases h
    exact isNormal_normalize hvalid
  · cases h

/-- What is accepted as a key is taken in its normal form. -/
theorem Key.eq_normalize_of_parse {raw key : Text} (h : parse raw = .ok key) :
    key = normalize raw := by
  unfold parse at h
  split at h
  · cases h
    unfold normalize
    rw [Text.trim_trim]
  · cases h

/-- What an accepted value is: a clean line that does not go on. -/
theorem Line.of_checkValue {value text : Text} (h : checkValue value = .ok text) :
    cleanValue value = value ∧ '\n' ∉ value ∧ '\r' ∉ value ∧ continues value = false := by
  unfold checkValue at h
  split at h
  · cases h
  · rename_i hbreak
    split at h
    · cases h
    · rename_i hdangling
      split at h
      · cases h
      · rename_i hclean
        simp only [List.any_eq_true, Bool.or_eq_true, beq_iff_eq, not_exists, not_and,
          not_or] at hbreak
        refine ⟨by simpa using hclean, fun hmem => (hbreak _ hmem).2 rfl,
          fun hmem => (hbreak _ hmem).1 rfl, by simpa using hdangling⟩

/-! ## What holds of every section and every occurrence -/

variable {P : SectionId → Prop} {Q : Text → Entry → Prop}

/-- Every key has its entries in their stored form, and each of them satisfies `Q`. -/
def EveryEntry (Q : Text → Entry → Prop) (options : OrderedMap Text Stored) : Prop :=
  ∀ option ∈ options.pairs,
    option.2.WellFormed ∧ ∀ entry ∈ option.2.entries, Q option.1 entry

/-- The id satisfies `P`, and every occurrence of a key satisfies `Q`. -/
def Section.Every (P : SectionId → Prop) (Q : Text → Entry → Prop) (s : Section) : Prop :=
  P s.id ∧ EveryEntry Q s.options

/-- Every section is stored under its own identity, and all ids and occurrences satisfy the
predicates. -/
def Document.Every (P : SectionId → Prop) (Q : Text → Entry → Prop) (doc : Document) : Prop :=
  ∀ p ∈ doc.sections.pairs, p.2.id.identity = p.1 ∧ p.2.Every P Q

/-! ### Options -/

theorem everyEntry_insert {options : OrderedMap Text Stored} (h : EveryEntry Q options)
    {key : Text} {value : Stored} (hvalue : value.WellFormed)
    (hentries : ∀ entry ∈ value.entries, Q key entry) :
    EveryEntry Q (options.insert key value) := by
  intro option hoption
  rcases OrderedMap.mem_insert hoption with rfl | hoption
  · exact ⟨hvalue, hentries⟩
  · exact h option hoption

theorem everyEntry_erase {options : OrderedMap Text Stored} (h : EveryEntry Q options)
    (key : Text) : EveryEntry Q (options.erase key) :=
  fun option hoption => h option (OrderedMap.mem_of_mem_erase hoption)

theorem Stored.wellFormed_append {value : Stored} (h : value.WellFormed) (entry : Entry) :
    (value.append entry).WellFormed := by
  cases value with
  | one first => exact Nat.le_refl 2
  | many entries =>
      change 2 ≤ (entries ++ [entry]).length
      have hlength : 2 ≤ entries.length := h
      rw [List.length_append]
      omega

theorem Stored.entries_ne_nil {value : Stored} (h : value.WellFormed) : value.entries ≠ [] := by
  cases value with
  | one entry => exact List.cons_ne_nil entry []
  | many entries =>
      rintro rfl
      exact absurd h (by simp [WellFormed])

/-- Of values in their stored form, `many` are those with two entries or more. -/
theorem Stored.exists_many_iff {value : Stored} (h : value.WellFormed) :
    (∃ entries, value = .many entries) ↔ 2 ≤ value.entries.length := by
  cases value with
  | one entry => simp [entries]
  | many entries => exact ⟨fun _ => h, fun _ => ⟨entries, rfl⟩⟩

theorem Section.every_record {s : Section} (h : s.Every P Q) {key : Text} {entry : Entry}
    (hentry : Q key entry) : (s.record key entry).Every P Q := by
  refine ⟨h.1, ?_⟩
  unfold record
  cases hget : s.options.get? key with
  | none =>
      refine everyEntry_insert h.2 trivial ?_
      intro other hother
      obtain rfl := List.mem_singleton.mp hother
      exact hentry
  | some value =>
      obtain ⟨hvalue, hentries⟩ := h.2 _ (OrderedMap.mem_of_get? hget)
      refine everyEntry_insert h.2 (Stored.wellFormed_append hvalue entry) ?_
      intro other hother
      rw [Stored.append?, Stored.entries_append] at hother
      rcases List.mem_append.mp hother with hother | hother
      · exact hentries other hother
      · obtain rfl := List.mem_singleton.mp hother
        exact hentry

/-! ### Documents -/

namespace Document

theorem every_empty : empty.Every P Q := by
  intro p hp
  cases hp

theorem Every.imp {P' : SectionId → Prop} {Q' : Text → Entry → Prop} {doc : Document}
    (h : doc.Every P Q) (hP : ∀ id, P id → P' id) (hQ : ∀ key entry, Q key entry → Q' key entry) :
    doc.Every P' Q' := by
  intro p hp
  obtain ⟨hown, hid, hoptions⟩ := h p hp
  refine ⟨hown, hP _ hid, fun option hoption => ?_⟩
  obtain ⟨hstored, hentries⟩ := hoptions option hoption
  exact ⟨hstored, fun entry hentry => hQ _ _ (hentries entry hentry)⟩

theorem Every.section {doc : Document} (h : doc.Every P Q) {s : Section}
    (hs : s ∈ doc.sectionList) : s.Every P Q := by
  obtain ⟨p, hp, rfl⟩ := List.mem_map.mp hs
  exact (h p hp).2

theorem Every.putSection {doc : Document} (h : doc.Every P Q) {s : Section} (hs : s.Every P Q)
    {identity : Text} (hown : s.id.identity = identity) : (doc.putSection identity s).Every P Q := by
  intro p hp
  rcases OrderedMap.mem_insert hp with rfl | hp
  · exact ⟨hown, hs⟩
  · exact h p hp

theorem Every.openSection {doc : Document} (h : doc.Every P Q) {id : SectionId} (hid : P id) :
    (doc.openSection id).Every P Q := by
  unfold Document.openSection
  split
  · exact h
  · refine h.putSection ⟨hid, ?_⟩ rfl
    intro option hoption
    cases hoption

theorem Every.record {doc : Document} (h : doc.Every P Q) {key : Text} {entry : Entry}
    (hentry : Q key entry) (identity : Text) : (doc.record identity key entry).Every P Q := by
  unfold Document.record
  split
  · exact h
  · rename_i s hs
    obtain ⟨hown, hevery⟩ := h _ (OrderedMap.mem_of_get? hs)
    exact h.putSection (Section.every_record hevery hentry) hown

theorem Every.recordAll {doc : Document} (h : doc.Every P Q) {key : Text} {entries : List Entry}
    (hentries : ∀ entry ∈ entries, Q key entry) (identity : Text) :
    (doc.recordAll identity key entries).Every P Q := by
  unfold Document.recordAll
  induction entries generalizing doc with
  | nil => exact h
  | cons entry entries ih =>
      rw [List.foldl_cons]
      refine ih (h.record (hentries entry List.mem_cons_self) identity) ?_
      exact fun other hother => hentries other (List.mem_cons_of_mem entry hother)

theorem Every.mergeSection {doc : Document} (h : doc.Every P Q) {s : Section}
    (hs : s.Every P Q) : (doc.mergeSection s).Every P Q := by
  unfold Document.mergeSection
  have hopen : (doc.openSection s.id).Every P Q := h.openSection hs.1
  have hoptions := hs.2
  unfold EveryEntry at hoptions
  generalize doc.openSection s.id = opened at hopen
  generalize s.options.pairs = pairs at hoptions
  induction pairs generalizing opened with
  | nil => exact hopen
  | cons option pairs ih =>
      rw [List.foldl_cons]
      have hentries := (hoptions option List.mem_cons_self).2
      refine ih _ (hopen.recordAll hentries s.id.identity) ?_
      exact fun other hother => hoptions other (List.mem_cons_of_mem option hother)

theorem Every.merge {target source : Document} (ht : target.Every P Q) (hs : source.Every P Q) :
    (target.merge source).Every P Q := by
  unfold Document.merge
  have hsections : ∀ s ∈ source.sectionList, s.Every P Q := fun s hmem => hs.section hmem
  generalize source.sectionList = sections at hsections
  induction sections generalizing target with
  | nil => exact ht
  | cons s sections ih =>
      rw [List.foldl_cons]
      refine ih (ht.mergeSection (hsections s List.mem_cons_self)) ?_
      exact fun other hother => hsections other (List.mem_cons_of_mem s hother)

/-- A section that is found stands under the spelling by which it was looked up. -/
theorem mem_of_findSection {doc : Document} {name : Text} {s : Section}
    (h : doc.findSection name = .ok s) : (SectionId.canonical name, s) ∈ doc.sections.pairs := by
  unfold findSection at h
  split at h
  · rename_i found hget
    cases h
    exact OrderedMap.mem_of_get? hget
  · cases h

theorem Every.withOptions {doc : Document} (h : doc.Every P Q) {name : Text} {s : Section}
    (hs : doc.findSection name = .ok s) {options : OrderedMap Text Stored}
    (hoptions : EveryEntry Q options) : (doc.withOptions name s options).Every P Q := by
  obtain ⟨hown, hid, _⟩ := h _ (mem_of_findSection hs)
  have hevery : Section.Every P Q { s with options := options } := ⟨hid, hoptions⟩
  exact h.putSection hevery hown

end Document

/-! ### Changes -/

/-- Every change keeps what its checks ensure of new ids and values and what a merged source
has. -/
theorem Document.Every.effect {doc after : Document} {change : Change} (h : doc.Every P Q)
    (hP : ∀ id : SectionId, id.IsCanonical → P id)
    (hQ : ∀ key text, Key.IsNormal key → Line.checkValue text = .ok text → Q key (.assigned text))
    (hmerge : ∀ source, change = .merge source → source.Every P Q)
    (hread : ∀ source label other, change = .read source label →
      ofSource source label = .ok other → other.Every P Q)
    (heffect : change.Effect doc after) : after.Every P Q := by
  cases heffect with
  | addSection hid => exact h.openSection (hP _ (SectionId.isCanonical_of_ofHeader hid))
  | removeSection name => exact fun p hp => h p (OrderedMap.mem_of_mem_erase hp)
  | openSection hid => exact h.openSection (hP _ (SectionId.isCanonical_of_resolve hid))
  | set hs hkey hvalue =>
      refine h.withOptions hs (everyEntry_insert (h _ (mem_of_findSection hs)).2.2 trivial ?_)
      intro entry hentry
      obtain rfl := List.mem_singleton.mp hentry
      exact hQ _ _ (Key.isNormal_of_parse hkey) hvalue
  | add hs hkey hvalue =>
      have hentry := hQ _ _ (Key.isNormal_of_parse hkey) hvalue
      exact h.withOptions hs (Section.every_record (h _ (mem_of_findSection hs)).2 hentry).2
  | removeOption key hs =>
      exact h.withOptions hs (everyEntry_erase (h _ (mem_of_findSection hs)).2.2 _)
  | retainAll name key pattern => exact h
  | retainNone key pattern hs =>
      exact h.withOptions hs (everyEntry_erase (h _ (mem_of_findSection hs)).2.2 _)
  | retainSome key hs hpattern hvalue hrest =>
      have hoptions := (h _ (mem_of_findSection hs)).2.2
      obtain ⟨_, hentries⟩ := hoptions _ (OrderedMap.mem_of_get? hvalue)
      refine h.withOptions hs (everyEntry_insert hoptions (Stored.wellFormed_of_ofEntries? hrest) ?_)
      intro entry hentry
      rw [Stored.entries_of_ofEntries? hrest] at hentry
      exact hentries entry (List.mem_of_mem_filter hentry)
  | merge source => exact h.merge (hmerge source rfl)
  | mergeSelf => exact h.merge h
  | read hother => exact h.merge (hread _ _ _ rfl hother)

/-- An edit takes in no other document, so only what is new matters. -/
theorem Document.Every.edit {doc after : Document} {change : Change} (h : doc.Every P Q)
    (hP : ∀ id : SectionId, id.IsCanonical → P id)
    (hQ : ∀ key text, Key.IsNormal key → Line.checkValue text = .ok text → Q key (.assigned text))
    (hedit : change.IsEdit) (heffect : change.Effect doc after) : after.Every P Q := by
  refine h.effect hP hQ ?_ ?_ heffect
  · rintro source rfl
    exact hedit.elim
  · rintro source label other rfl
    exact hedit.elim

/-! ### Texts -/

/-- What a token adds to a document satisfies the predicates. -/
def Token.Every (P : SectionId → Prop) (Q : Text → Entry → Prop) : Token → Prop
  | header _ _ id => P id
  | entry _ _ key value =>
    Key.isValid key = true → Q (Key.normalize key) (ReadState.entryOf value)
  | _ => True

theorem ReadState.every_step {state : ReadState} (h : state.doc.Every P Q) {token : Token}
    (ht : token.Every P Q) : (state.step token).doc.Every P Q := by
  cases token with
  | blank line => exact h
  | comment line text => exact h
  | header line text id => exact h.openSection ht
  | invalid line text fault => exact h
  | entry line text key value =>
      unfold step
      simp only
      split
      · rename_i hkey
        split
        · exact h
        · exact h.record (ht hkey) _
      · split <;> exact h

theorem Document.every_of_ofTokens {tokens : List Token} {doc : Document}
    (ht : ∀ token ∈ tokens, token.Every P Q) (h : ofTokens tokens = .ok doc) :
    doc.Every P Q := by
  have hfold : ∀ state : ReadState, state.doc.Every P Q →
      (tokens.foldl ReadState.step state).doc.Every P Q := by
    clear h
    induction tokens with
    | nil => exact fun state hstate => hstate
    | cons token tokens ih =>
        intro state hstate
        refine ih (fun other hother => ht other (List.mem_cons_of_mem token hother)) _ ?_
        exact ReadState.every_step hstate (ht token List.mem_cons_self)
  unfold ofTokens ReadState.finish at h
  split at h
  · cases h
    exact hfold .start every_empty
  · cases h

/-! ## Well-formed documents -/

/-- Canonical ids, normal keys, clean lines. -/
def Document.WellFormed (doc : Document) : Prop :=
  doc.Every SectionId.IsCanonical fun key entry => Key.IsNormal key ∧ entry.WellFormed

/-- No identity holds a line feed. -/
def Document.HasOneLineNames (doc : Document) : Prop :=
  ∀ s ∈ doc.sectionList, '\n' ∉ s.id.identity

instance (doc : Document) : Decidable doc.HasOneLineNames :=
  inferInstanceAs (Decidable (∀ s ∈ doc.sectionList, '\n' ∉ s.id.identity))

/-- No assigned text ends in an odd run of backslashes. -/
def Document.ValuesClosed (doc : Document) : Prop :=
  ∀ s ∈ doc.sectionList, ∀ option ∈ s.options.pairs, ∀ entry ∈ option.2.entries,
    entry.dangles = false

instance (doc : Document) : Decidable doc.ValuesClosed :=
  inferInstanceAs (Decidable (∀ s ∈ doc.sectionList, ∀ option ∈ s.options.pairs,
    ∀ entry ∈ option.2.entries, entry.dangles = false))

/-- A logical line yields canonical one-line names and clean one-line values. -/
theorem Token.every_classify {text : Text} (h : '\n' ∉ text) (line : Nat) :
    (classify line text).Every (fun id => id.IsCanonical ∧ '\n' ∉ id.identity)
      (fun key entry => Key.IsNormal key ∧ entry.WellFormed) := by
  cases htoken : classify line text with
  | blank n => trivial
  | comment n t => trivial
  | invalid n t fault => trivial
  | header n t id =>
      obtain ⟨body, hbody, hid⟩ := exists_body_of_classify htoken
      refine ⟨SectionId.isCanonical_of_ofHeader hid, ?_⟩
      exact SectionId.newline_not_mem_of_ofHeader hid fun hmem => h (hbody hmem)
  | entry n t key value =>
      intro hkey
      refine ⟨Key.isNormal_normalize hkey, ?_⟩
      cases value with
      | none => trivial
      | some value =>
          obtain ⟨raw, hraw, rfl⟩ := exists_raw_of_classify htoken
          refine ⟨Line.cleanValue_cleanValue raw, fun hmem => ?_⟩
          exact h (hraw (Line.mem_of_mem_cleanValue hmem))

namespace Document

theorem every_of_ofText {text : Text} {doc : Document} (h : ofText text = .ok doc) :
    doc.Every (fun id => id.IsCanonical ∧ '\n' ∉ id.identity)
      (fun key entry => Key.IsNormal key ∧ entry.WellFormed) := by
  refine every_of_ofTokens ?_ h
  intro token htoken
  obtain ⟨joined, hjoined, rfl⟩ := List.mem_map.mp htoken
  exact Token.every_classify (LogicalLine.newline_not_mem_of_mem_ofText hjoined) _

theorem wellFormed_of_ofText {text : Text} {doc : Document} (h : ofText text = .ok doc) :
    doc.WellFormed :=
  (every_of_ofText h).imp (fun _ hid => hid.1) fun _ _ hentry => hentry

theorem hasOneLineNames_of_ofText {text : Text} {doc : Document} (h : ofText text = .ok doc) :
    doc.HasOneLineNames :=
  fun _ hs => ((every_of_ofText h).section hs).1.2

theorem wellFormed_of_ofSource {source : Source} {label : Text} {doc : Document}
    (h : ofSource source label = .ok doc) : doc.WellFormed := by
  unfold ofSource at h
  split at h
  · cases h
  · exact wellFormed_of_ofText h

theorem hasOneLineNames_of_ofSource {source : Source} {label : Text} {doc : Document}
    (h : ofSource source label = .ok doc) : doc.HasOneLineNames := by
  unfold ofSource at h
  split at h
  · cases h
  · exact hasOneLineNames_of_ofText h

theorem WellFormed.effect {doc after : Document} {change : Change} (h : doc.WellFormed)
    (hmerge : ∀ source, change = .merge source → source.WellFormed)
    (heffect : change.Effect doc after) : after.WellFormed := by
  refine Every.effect h (fun _ hid => hid) ?_ hmerge ?_ heffect
  · intro key text hkey hvalue
    obtain ⟨hclean, hline, _⟩ := Line.of_checkValue hvalue
    exact ⟨hkey, hclean, hline⟩
  · exact fun _ _ _ _ hother => wellFormed_of_ofSource hother

/-! ## Closed documents -/

/-- A well-formed document whose assigned texts all end where their lines do. -/
def Closed (doc : Document) : Prop :=
  doc.Every SectionId.IsCanonical fun key entry =>
    (Key.IsNormal key ∧ entry.WellFormed) ∧ entry.dangles = false

theorem closed_iff {doc : Document} : doc.Closed ↔ doc.WellFormed ∧ doc.ValuesClosed := by
  constructor
  · intro h
    refine ⟨h.imp (fun _ hid => hid) fun _ _ hentry => hentry.1, ?_⟩
    intro s hs option hoption entry hentry
    exact (((h.section hs).2 option hoption).2 entry hentry).2
  · rintro ⟨hwell, hclosed⟩ p hp
    obtain ⟨hown, hid, hoptions⟩ := hwell p hp
    refine ⟨hown, hid, fun option hoption => ?_⟩
    obtain ⟨hstored, hentries⟩ := hoptions option hoption
    refine ⟨hstored, fun entry hentry => ⟨hentries entry hentry, ?_⟩⟩
    exact hclosed p.2 (List.mem_map_of_mem hp) option hoption entry hentry

/-- An edit keeps a document closed, since a value that would go on is refused. -/
theorem Closed.effect {doc after : Document} {change : Change} (h : doc.Closed)
    (hedit : change.IsEdit) (heffect : change.Effect doc after) : after.Closed := by
  refine Every.edit h (fun _ hid => hid) ?_ hedit heffect
  intro key text hkey hvalue
  obtain ⟨hclean, hline, _, hclosed⟩ := Line.of_checkValue hvalue
  exact ⟨⟨hkey, hclean, hline⟩, hclosed⟩

/-! ## Reachable documents -/

/-- Every reachable document is well formed. -/
theorem Reachable.wellFormed {doc : Document} (h : doc.Reachable) : doc.WellFormed := by
  induction h with
  | empty => exact every_empty
  | ofText h => exact wellFormed_of_ofText h
  | change change _ _ ih ihsource =>
      rcases Change.effect_or_eq _ change with heffect | heq
      · exact ih.effect ihsource heffect
      · rw [heq]
        exact ih

/-- Everything is stored in the one form that it has: sections under the identities that are read
as their ids, keys once and normal, values as `many` from two entries on, and texts clean. -/
structure Canonical (doc : Document) : Prop where
  ids : ∀ p ∈ doc.sections.pairs,
    p.2.id.identity = p.1 ∧ SectionId.ofHeader p.2.id.identity = .ok p.2.id
  keys : ∀ s ∈ doc.sectionList, s.options.keys.Nodup ∧
    ∀ key ∈ s.options.keys, Key.isValid key = true ∧ Key.normalize key = key
  values : ∀ s ∈ doc.sectionList, ∀ value ∈ s.options.values,
    1 ≤ value.entries.length ∧ ((∃ entries, value = .many entries) ↔ 2 ≤ value.entries.length)
  texts : ∀ s ∈ doc.sectionList, ∀ value ∈ s.options.values, ∀ text,
    .assigned text ∈ value.entries → Line.cleanValue text = text ∧ '\n' ∉ text

/-- Whatever is done to a document, what it stores keeps its form. -/
theorem Reachable.canonical {doc : Document} (h : doc.Reachable) : doc.Canonical where
  ids := by
    intro p hp
    obtain ⟨hown, hid, _⟩ := h.wellFormed p hp
    exact ⟨hown, hid⟩
  keys := by
    intro s hs
    refine ⟨s.options.nodup, fun key hkey => ?_⟩
    obtain ⟨option, hoption, rfl⟩ := List.mem_map.mp hkey
    obtain ⟨hstored, hentries⟩ := (h.wellFormed.section hs).2 option hoption
    obtain ⟨entry, hentry⟩ := List.exists_mem_of_ne_nil _ (Stored.entries_ne_nil hstored)
    exact (hentries entry hentry).1
  values := by
    intro s hs value hvalue
    obtain ⟨option, hoption, rfl⟩ := List.mem_map.mp hvalue
    obtain ⟨hstored, _⟩ := (h.wellFormed.section hs).2 option hoption
    exact ⟨List.length_pos_iff.mpr (Stored.entries_ne_nil hstored), Stored.exists_many_iff hstored⟩
  texts := by
    intro s hs value hvalue text htext
    obtain ⟨option, hoption, rfl⟩ := List.mem_map.mp hvalue
    obtain ⟨_, hentries⟩ := (h.wellFormed.section hs).2 option hoption
    exact (hentries _ htext).2

/-- A dotted name whose subsection has to be escaped is opened, and the document is merged into
itself. -/
theorem Reachable.canonical_merged_with_itself :
    ∃ doc, Document.ofText "[a \"x\\\"y\"]\nK = b ;c\nk".toList = .ok doc ∧
      (Change.mergeSelf.apply ((Change.openSection "b.\\".toList).apply doc).2).2.Canonical := by
  obtain ⟨doc, hread⟩ := exists_of_isOk
    (show (Document.ofText "[a \"x\\\"y\"]\nK = b ;c\nk".toList).isOk = true by decide +kernel)
  have hopened := Reachable.change (.openSection "b.\\".toList) (.ofText hread) (by simp)
  have hmerged := Reachable.change .mergeSelf hopened (by simp)
  exact ⟨doc, hread, Reachable.canonical hmerged⟩

end Document

end ConfigEditor
