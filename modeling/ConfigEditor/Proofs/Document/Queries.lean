import ConfigEditor.Proofs.Document.Lookup
import ConfigEditor.Proofs.Document.Outline
set_option autoImplicit false

/-!
# Queries agree

Some queries go through the maps of a document and hand out what is stored, others look up what
they are given, by the identity that a name is read as and by a key in lower case.  In a
well-formed document what is stored is found: its identities are read as its own ids and its keys
are normal (`WellFormed.findSection_of_mem`, `WellFormed.findValue_of_mem`).  So the two kinds of
queries tell the same of it (`Reachable.queriesAgree`), and the listing can be put together from
look-ups (`listing`).
-/

namespace ConfigEditor

/-- What a look-up hands back of the texts of a key: the text if there is one, and the list of them
otherwise. -/
def Reading.ofTexts : List Text → Reading
  | [text] => .single text
  | texts => .several texts

theorem Stored.reading_eq_ofTexts {value : Stored} (h : value.WellFormed) :
    value.reading = .ofTexts value.texts := by
  rw [reading_eq h, texts]
  match value.entries with
  | [] => rfl
  | [_] => rfl
  | _ :: _ :: _ => rfl

/-- Results that are all good are gathered. -/
theorem mapM_map_eq_ok {ε α β γ : Type} {f : β → Except ε γ} {g : α → β} {result : α → γ}
    {l : List α} (h : ∀ a ∈ l, f (g a) = .ok (result a)) :
    (l.map g).mapM f = .ok (l.map result) := by
  induction l with
  | nil => rfl
  | cons a rest ih =>
      have hrest := ih fun other hother => h other (List.mem_cons_of_mem a hother)
      rw [List.map_cons, List.mapM_cons, h a List.mem_cons_self, hrest]
      rfl

namespace Document

/-! ## The listing by look-ups -/

/-- The lines of a section: its dotted name, and each of its keys with each of its texts. -/
def listSection (doc : Document) (name : Text) : Except Fault (List DottedEntry) := do
  let id ← (SectionId.ofHeader name).mapError Fault.refused
  let keys ← doc.optionKeys name
  let rows ← keys.mapM fun key => do
    let texts ← doc.getAll name key
    pure (texts.map fun text => ⟨id.dotted ++ '.' :: key, text⟩)
  pure rows.flatten

/-- The lines of all sections, put together from look-ups. -/
def listing (doc : Document) : Except Fault (List DottedEntry) := do
  let sections ← doc.identities.mapM doc.listSection
  pure sections.flatten

/-! ## What queries tell -/

/-- A section is not found, in whichever way it is asked for. -/
structure LacksSection (doc : Document) (name : Text) : Prop where
  hasSection : doc.hasSection name = false
  optionKeys : doc.optionKeys name = .error (.noSection name)
  items : doc.items name = .error (.noSection name)
  hasOption : ∀ key, doc.hasOption name key = false
  get : ∀ key, doc.get name key = .error (.noSection name)
  getAll : ∀ key, doc.getAll name key = .error (.noSection name)

/-- All queries tell the same of a document. -/
structure QueriesAgree (doc : Document) : Prop where
  nodup : doc.identities.Nodup
  /-- A section that is listed is there, and each of its options is found with the texts that its
  item shows. -/
  listed : ∀ name ∈ doc.identities, doc.hasSection name = true ∧
    ∃ items, doc.items name = .ok items ∧ doc.optionKeys name = .ok (items.map Prod.fst) ∧
      ∀ item ∈ items, doc.hasOption name item.1 = true ∧
        ∃ texts, doc.getAll name item.1 = .ok texts ∧ texts ≠ [] ∧
          doc.get name item.1 = .ok (.ofTexts texts) ∧ item.2 = .ofTexts texts
  toEntries : doc.listing = .ok doc.toEntries
  /-- An option that is found is listed, under the identity and the key that it was found by. -/
  found : ∀ name key, doc.hasOption name key = true ↔
    SectionId.canonical name ∈ doc.identities ∧
      ∃ keys, doc.optionKeys (SectionId.canonical name) = .ok keys ∧ Key.normalize key ∈ keys
  refused : ∀ name refusal, SectionId.ofHeader name = .error refusal → doc.LacksSection name

/-! ## What is stored is found -/

variable {doc : Document} {name key identity : Text} {s : Section}

/-- A look-up finds what stands under the spelling by which it looks. -/
theorem findSection_eq_ok_iff :
    doc.findSection name = .ok s ↔ (SectionId.canonical name, s) ∈ doc.sections.pairs := by
  refine ⟨mem_of_findSection, fun hs => ?_⟩
  simp only [findSection, OrderedMap.get?_of_mem hs]

theorem WellFormed.ofHeader_of_mem (h : doc.WellFormed)
    (hs : (identity, s) ∈ doc.sections.pairs) : SectionId.ofHeader identity = .ok s.id := by
  have hown : s.id.identity = identity := (h _ hs).1
  rw [← hown]
  exact (h _ hs).2.1

theorem WellFormed.findSection_of_mem (h : doc.WellFormed)
    (hs : (identity, s) ∈ doc.sections.pairs) : doc.findSection identity = .ok s := by
  have hcanonical : SectionId.canonical identity = identity := by
    have hown : s.id.identity = identity := (h _ hs).1
    rw [← hown]
    exact SectionId.canonical_identity (h _ hs).2.1
  rw [findSection_eq_ok_iff, hcanonical]
  exact hs

theorem WellFormed.findValue_of_mem (h : doc.WellFormed)
    (hs : (identity, s) ∈ doc.sections.pairs) {value : Stored}
    (hvalue : (key, value) ∈ s.options.pairs) : doc.findValue identity key = .ok value := by
  obtain ⟨hstored, hentries⟩ := (h _ hs).2.2 _ hvalue
  -- what is known of a key is known through its entries, and it has one
  obtain ⟨entry, hentry⟩ := List.exists_mem_of_ne_nil _ (Stored.entries_ne_nil hstored)
  have hnormal : Key.normalize key = key := (hentries entry hentry).1.2
  simp only [findValue, h.findSection_of_mem hs, hnormal, OrderedMap.get?_of_mem hvalue]

/-! ## The queries of a well-formed document -/

theorem WellFormed.listed (h : doc.WellFormed) (hs : (identity, s) ∈ doc.sections.pairs)
    {value : Stored} (hvalue : (key, value) ∈ s.options.pairs) :
    doc.hasOption identity key = true ∧ ∃ texts, doc.getAll identity key = .ok texts ∧
      texts ≠ [] ∧ doc.get identity key = .ok (.ofTexts texts) ∧
        value.reading = .ofTexts texts := by
  have hfound := h.findValue_of_mem hs hvalue
  have hstored := ((h _ hs).2.2 _ hvalue).1
  have hreading := Stored.reading_eq_ofTexts hstored
  refine ⟨by rw [hasOption, hfound]; rfl, value.texts, by rw [getAll, hfound]; rfl, ?_,
    by rw [get, hfound, ← hreading]; rfl, hreading⟩
  rw [Stored.texts, Ne, List.map_eq_nil_iff]
  exact Stored.entries_ne_nil hstored

theorem WellFormed.listSection_eq (h : doc.WellFormed)
    (hs : (identity, s) ∈ doc.sections.pairs) :
    doc.listSection identity = .ok (s.options.pairs.flatMap fun (key, value) =>
      value.texts.map fun text => ⟨s.id.dotted ++ '.' :: key, text⟩) := by
  have hkeys : doc.optionKeys identity = .ok (s.options.pairs.map Prod.fst) := by
    rw [optionKeys, h.findSection_of_mem hs]
    rfl
  have hrows : (s.options.pairs.map Prod.fst).mapM (fun key => do
      let texts ← doc.getAll identity key
      pure (texts.map fun text => DottedEntry.mk (s.id.dotted ++ '.' :: key) text)) =
      .ok (s.options.pairs.map fun option =>
        option.2.texts.map fun text => ⟨s.id.dotted ++ '.' :: option.1, text⟩) := by
    refine mapM_map_eq_ok fun option hoption => ?_
    rw [getAll, h.findValue_of_mem hs hoption]
    rfl
  rw [listSection, h.ofHeader_of_mem hs, hkeys]
  exact congrArg (Except.map List.flatten) hrows

theorem WellFormed.listing_eq (h : doc.WellFormed) : doc.listing = .ok doc.toEntries := by
  have hsections : doc.identities.mapM doc.listSection =
      .ok (doc.sections.pairs.map fun p => p.2.options.pairs.flatMap fun (key, value) =>
        value.texts.map fun text => ⟨p.2.id.dotted ++ '.' :: key, text⟩) :=
    mapM_map_eq_ok fun _ hp => h.listSection_eq hp
  rw [listing, hsections, toEntries, sectionList, OrderedMap.values, List.flatMap_map]
  rfl

/-- An option that is found is found by the identity of its section and by its key in lower case as
well. -/
theorem WellFormed.hasOption_iff (h : doc.WellFormed) : doc.hasOption name key = true ↔
    SectionId.canonical name ∈ doc.identities ∧
      ∃ keys, doc.optionKeys (SectionId.canonical name) = .ok keys ∧
        Key.normalize key ∈ keys := by
  cases hname : doc.hasSection name with
  | false =>
      have hmissing : SectionId.canonical name ∉ doc.identities := by
        rw [identities, ← OrderedMap.contains_iff, Bool.not_eq_true]
        exact hname
      have hfault := findSection_of_not_hasSection hname
      simp [hasOption, findValue, hfault, hmissing, Except.isOk, Except.toBool]
  | true =>
      obtain ⟨s, hs⟩ := exists_of_hasSection hname
      have hthere : SectionId.canonical name ∈ doc.identities :=
        (OrderedMap.contains_iff doc.sections _).mp hname
      have hkeys : doc.optionKeys (SectionId.canonical name) = .ok s.options.keys := by
        rw [optionKeys, h.findSection_of_mem (mem_of_findSection hs)]
        rfl
      rw [hasOption_of_findSection hs, OrderedMap.contains_iff]
      simp [hthere, hkeys]

/-- Stored identities can be read, so what cannot be read is none of them. -/
theorem WellFormed.not_hasSection_of_refused (h : doc.WellFormed) {refusal : Refusal}
    (hrefused : SectionId.ofHeader name = .error refusal) : doc.hasSection name = false := by
  rw [← Bool.not_eq_true]
  intro hname
  obtain ⟨s, hs⟩ := exists_of_hasSection hname
  have hread := h.ofHeader_of_mem (mem_of_findSection hs)
  -- a name that cannot be read is looked up as it is
  rw [SectionId.canonical, hrefused] at hread
  cases hrefused.symm.trans hread

theorem lacksSection_of_not_hasSection (h : doc.hasSection name = false) :
    doc.LacksSection name := by
  have hfind := findSection_of_not_hasSection h
  have hvalue : ∀ key, doc.findValue name key = .error (.noSection name) := by
    intro key
    simp only [findValue, hfind]
  exact {
    hasSection := h
    optionKeys := by rw [optionKeys, hfind]; rfl
    items := by rw [Document.items, hfind]; rfl
    hasOption := fun key => by rw [Document.hasOption, hvalue]; rfl
    get := fun key => by rw [Document.get, hvalue]; rfl
    getAll := fun key => by rw [Document.getAll, hvalue]; rfl }

/-- Whatever is done to a document, its queries agree. -/
theorem Reachable.queriesAgree (h : doc.Reachable) : doc.QueriesAgree where
  nodup := doc.sections.nodup
  listed := by
    intro name hname
    obtain ⟨⟨identity, s⟩, hs, rfl⟩ := List.mem_map.mp hname
    have hfind := h.wellFormed.findSection_of_mem hs
    have hitems : doc.items identity =
        .ok (s.options.pairs.map fun option => (option.1, option.2.reading)) := by
      rw [items, hfind]
      rfl
    have hkeys : doc.optionKeys identity = .ok s.options.keys := by
      rw [optionKeys, hfind]
      rfl
    refine ⟨hasSection_of_findSection hfind, _, hitems, ?keys, ?item⟩
    case keys =>
      rw [hkeys, List.map_map]
      rfl
    case item =>
      intro item hitem
      obtain ⟨option, hoption, rfl⟩ := List.mem_map.mp hitem
      exact h.wellFormed.listed hs hoption
  toEntries := h.wellFormed.listing_eq
  found := fun _ _ => h.wellFormed.hasOption_iff
  refused := fun _ _ hrefused =>
    lacksSection_of_not_hasSection (h.wellFormed.not_hasSection_of_refused hrefused)

/-- Spaced headers, an escaped quote, keys in capitals, repeated and bare, and the document merged
into itself. -/
theorem Reachable.queriesAgree_of_spellings :
    ∃ doc, Document.ofText "[ a\t\"x\\\"y\" ]\nK = 1\nk\nq\n[b.c]\n".toList = .ok doc ∧
      doc.identities = ["a \"x\\\"y\"".toList, "b.c".toList] ∧ doc.QueriesAgree ∧
      (Change.mergeSelf.apply doc).2.QueriesAgree := by
  obtain ⟨doc, hread, hidentities⟩ :
      ∃ doc, Document.ofText "[ a\t\"x\\\"y\" ]\nK = 1\nk\nq\n[b.c]\n".toList = .ok doc ∧
        doc.identities = ["a \"x\\\"y\"".toList, "b.c".toList] :=
    exists_of_isOk_of_forall (by decide +kernel) (by decide +kernel)
  have hmerged := Reachable.change .mergeSelf (.ofText hread) (by simp)
  exact ⟨doc, hread, hidentities, Reachable.queriesAgree (.ofText hread),
    Reachable.queriesAgree hmerged⟩

end Document

end ConfigEditor
