import ConfigEditor.Proofs.Document.Lookup
set_option autoImplicit false

/-!
# Merging, one step at a time

Merging a source folds its sections and keys one after the other, so an occurrence that is
recorded in the source takes effect in the middle of that fold.  It may as well be recorded in
the target once the fold is over (`merge_record`), and a section that is opened in the source
may be opened then (`merge_openSection`).  The reason is that an occurrence whose section and
key are there already can wait for everything that the rest of the fold does (`CanWait`,
`record_record`): it changes one stored value where it stands, and the rest changes others.
-/

namespace ConfigEditor

/-- An occurrence of a key that is there may be recorded before or after one of another key. -/
theorem Section.record_record {s : Section} {key other : Text} (hne : key ≠ other)
    (hkey : key ∈ s.options.keys) (entry new : Entry) :
    (s.record key entry).record other new = (s.record other new).record key entry := by
  unfold record
  simp only [OrderedMap.get?_insert, if_neg hne, if_neg (Ne.symm hne)]
  rw [OrderedMap.insert_comm hne hkey]

namespace Document

/-! ## Sections that are put -/

theorem record_of_get? {doc : Document} {identity : Text} {s : Section}
    (h : doc.sections.get? identity = some s) (key : Text) (entry : Entry) :
    doc.record identity key entry = doc.putSection identity (s.record key entry) := by
  unfold record
  rw [h]

theorem record_of_missing {doc : Document} {identity : Text}
    (h : doc.sections.get? identity = none) (key : Text) (entry : Entry) :
    doc.record identity key entry = doc := by
  unfold record
  rw [h]

theorem get?_putSection (doc : Document) (identity : Text) (s : Section) (other : Text) :
    (doc.putSection identity s).sections.get? other =
      if other = identity then some s else doc.sections.get? other :=
  OrderedMap.get?_insert doc.sections identity s other

theorem putSection_putSection (doc : Document) (identity : Text) (first second : Section) :
    (doc.putSection identity first).putSection identity second = doc.putSection identity second :=
  congrArg Document.mk (OrderedMap.insert_insert doc.sections identity first second)

theorem putSection_comm {doc : Document} {identity other : Text} {old : Section}
    (hne : identity ≠ other) (h : doc.sections.get? identity = some old) (s t : Section) :
    (doc.putSection identity s).putSection other t
      = (doc.putSection other t).putSection identity s :=
  congrArg Document.mk (OrderedMap.insert_comm hne (OrderedMap.mem_keys_of_get? h) s t)

/-! ## What stays there -/

theorem exists_of_openSection (doc : Document) (id : SectionId) :
    ∃ s, (doc.openSection id).sections.get? id.identity = some s := by
  unfold openSection
  split
  · rename_i hcontains
    exact Option.isSome_iff_exists.mp hcontains
  · exact ⟨.new id, by rw [get?_putSection, if_pos rfl]⟩

theorem get?_openSection {doc : Document} {identity : Text} {s : Section}
    (h : doc.sections.get? identity = some s) (id : SectionId) :
    (doc.openSection id).sections.get? identity = some s := by
  unfold openSection
  split
  · exact h
  · rename_i hmissing
    have hne : identity ≠ id.identity := by
      rintro rfl
      rw [OrderedMap.get?_eq_none_of_contains hmissing] at h
      cases h
    rw [get?_putSection, if_neg hne, h]

theorem exists_of_record {doc : Document} {identity : Text}
    (h : ∃ s, doc.sections.get? identity = some s) (other key : Text) (entry : Entry) :
    ∃ s, (doc.record other key entry).sections.get? identity = some s := by
  cases hother : doc.sections.get? other with
  | none => rwa [record_of_missing hother]
  | some t =>
      rw [record_of_get? hother, get?_putSection]
      split
      · exact ⟨_, rfl⟩
      · exact h

theorem entriesAt_record_ne_nil {doc : Document} {identity key : Text}
    (h : doc.entriesAt identity key ≠ []) (other name : Text) (entry : Entry) :
    (doc.record other name entry).entriesAt identity key ≠ [] := by
  cases hother : doc.sections.get? other with
  | none => rwa [record_of_missing hother]
  | some t =>
      rw [entriesAt_record hother]
      exact fun hnil => h (List.append_eq_nil_iff.mp hnil).1

theorem mem_keys_of_entriesAt {doc : Document} {identity key : Text} {s : Section}
    (hs : doc.sections.get? identity = some s) (h : doc.entriesAt identity key ≠ []) :
    key ∈ s.options.keys := by
  unfold entriesAt Section.entriesOf at h
  rw [hs, Option.elim_some] at h
  cases hvalue : s.options.get? key with
  | none =>
      rw [hvalue] at h
      exact absurd rfl h
  | some value => exact OrderedMap.mem_keys_of_get? hvalue

/-- All occurrences of a key that has some leave it with some. -/
theorem entriesAt_recordAll_ne_nil {doc : Document} {identity : Text}
    (h : ∃ s, doc.sections.get? identity = some s) (key : Text) {entries : List Entry}
    (hentries : entries ≠ []) : (doc.recordAll identity key entries).entriesAt identity key ≠ [] := by
  have hfold : ∀ (rest : List Entry) (current : Document), current.entriesAt identity key ≠ [] →
      (current.recordAll identity key rest).entriesAt identity key ≠ [] := by
    intro rest
    induction rest with
    | nil => exact fun current hcurrent => hcurrent
    | cons entry rest ih =>
        exact fun current hcurrent => ih _ (entriesAt_record_ne_nil hcurrent identity key entry)
  obtain ⟨s, hs⟩ := h
  cases entries with
  | nil => exact absurd rfl hentries
  | cons entry rest =>
      refine hfold rest (doc.record identity key entry) ?_
      rw [entriesAt_record hs]
      simp

/-! ## Steps that commute -/

/-- An occurrence can wait for one of `name` under `other`: its section is there, and if the
other occurrence is in that section, it is of another key and the own key has occurrences. -/
def CanWait (doc : Document) (identity key other name : Text) : Prop :=
  (∃ s, doc.sections.get? identity = some s) ∧
    (identity = other → key ≠ name ∧ doc.entriesAt identity key ≠ [])

theorem CanWait.record {doc : Document} {identity key other name : Text}
    (h : doc.CanWait identity key other name) (place changed : Text) (entry : Entry) :
    (doc.record place changed entry).CanWait identity key other name := by
  refine ⟨exists_of_record h.1 place changed entry, fun hsame => ?_⟩
  obtain ⟨hne, hentries⟩ := h.2 hsame
  exact ⟨hne, entriesAt_record_ne_nil hentries place changed entry⟩

/-- An occurrence that can wait may be recorded later. -/
theorem record_record {doc : Document} {identity key other name : Text}
    (h : doc.CanWait identity key other name) (entry new : Entry) :
    (doc.record identity key entry).record other name new
      = (doc.record other name new).record identity key entry := by
  obtain ⟨⟨s, hs⟩, hsame⟩ := h
  rw [record_of_get? hs]
  by_cases hsection : identity = other
  · subst hsection
    obtain ⟨hne, hentries⟩ := hsame rfl
    have hfirst : (doc.putSection identity (s.record key entry)).sections.get? identity
        = some (s.record key entry) := by
      rw [get?_putSection, if_pos rfl]
    have hsecond : (doc.putSection identity (s.record name new)).sections.get? identity
        = some (s.record name new) := by
      rw [get?_putSection, if_pos rfl]
    rw [record_of_get? hfirst, record_of_get? hs, record_of_get? hsecond, putSection_putSection,
      putSection_putSection, Section.record_record hne (mem_keys_of_entriesAt hs hentries)]
  · have hother : (doc.putSection identity (s.record key entry)).sections.get? other
        = doc.sections.get? other := by
      rw [get?_putSection, if_neg (Ne.symm hsection)]
    cases ht : doc.sections.get? other with
    | none =>
        rw [record_of_missing (hother.trans ht), record_of_missing ht, record_of_get? hs]
    | some t =>
        have hkept : (doc.putSection other (t.record name new)).sections.get? identity
            = some s := by
          rw [get?_putSection, if_neg hsection, hs]
        rw [record_of_get? (hother.trans ht), record_of_get? ht, record_of_get? hkept,
          putSection_comm hsection hs]

/-- A section may be opened before or after an occurrence is recorded in one that is there. -/
theorem openSection_record {doc : Document} {identity : Text} {s : Section}
    (h : doc.sections.get? identity = some s) (key : Text) (entry : Entry) (id : SectionId) :
    (doc.record identity key entry).openSection id
      = (doc.openSection id).record identity key entry := by
  rw [record_of_get? h, record_of_get? (get?_openSection h id)]
  unfold openSection
  by_cases hid : id.identity = identity
  · have hfirst : (doc.putSection identity (s.record key entry)).sections.contains id.identity
        = true := by
      simp [OrderedMap.contains, get?_putSection, hid]
    have hsecond : doc.sections.contains id.identity = true := by
      simp [OrderedMap.contains, hid, h]
    rw [if_pos hfirst, if_pos hsecond]
  · have hsame : (doc.putSection identity (s.record key entry)).sections.contains id.identity
        = doc.sections.contains id.identity := by
      simp [OrderedMap.contains, get?_putSection, hid]
    rw [hsame]
    split
    · rfl
    · exact putSection_comm (Ne.symm hid) h _ _

/-! ## The folds of a merge -/

theorem recordAll_record {doc : Document} {identity key other name : Text}
    (h : doc.CanWait identity key other name) (entry : Entry) (entries : List Entry) :
    (doc.record identity key entry).recordAll other name entries
      = (doc.recordAll other name entries).record identity key entry := by
  unfold recordAll
  induction entries generalizing doc with
  | nil => rfl
  | cons new rest ih =>
      rw [List.foldl_cons, List.foldl_cons, record_record h]
      exact ih (h.record other name new)

theorem CanWait.recordAll {doc : Document} {identity key other name : Text}
    (h : doc.CanWait identity key other name) (place changed : Text) (entries : List Entry) :
    (doc.recordAll place changed entries).CanWait identity key other name := by
  unfold Document.recordAll
  induction entries generalizing doc with
  | nil => exact h
  | cons entry rest ih => exact ih (h.record place changed entry)

/-- Appends all occurrences of several keys. -/
def mergeOptions (doc : Document) (identity : Text) (options : List (Text × Stored)) : Document :=
  options.foldl (fun d (key, value) => d.recordAll identity key value.entries) doc

theorem mergeOptions_cons (doc : Document) (identity : Text) (option : Text × Stored)
    (options : List (Text × Stored)) :
    doc.mergeOptions identity (option :: options)
      = (doc.recordAll identity option.1 option.2.entries).mergeOptions identity options := rfl

theorem mergeSection_eq (doc : Document) (s : Section) :
    doc.mergeSection s = (doc.openSection s.id).mergeOptions s.id.identity s.options.pairs := rfl

/-- An occurrence that can wait for all keys may be recorded after them. -/
theorem mergeOptions_record {doc : Document} {identity key other : Text}
    {options : List (Text × Stored)}
    (h : ∀ option ∈ options, doc.CanWait identity key other option.1) (entry : Entry) :
    (doc.record identity key entry).mergeOptions other options
      = (doc.mergeOptions other options).record identity key entry := by
  induction options generalizing doc with
  | nil => rfl
  | cons option rest ih =>
      have hfirst := h option List.mem_cons_self
      rw [mergeOptions_cons, mergeOptions_cons, recordAll_record hfirst]
      refine ih fun later hlater => ?_
      exact (h later (List.mem_cons_of_mem option hlater)).recordAll other option.1 _

theorem exists_of_recordAll {doc : Document} {identity : Text}
    (h : ∃ s, doc.sections.get? identity = some s) (other key : Text) (entries : List Entry) :
    ∃ s, (doc.recordAll other key entries).sections.get? identity = some s := by
  unfold recordAll
  induction entries generalizing doc with
  | nil => exact h
  | cons entry rest ih => exact ih (exists_of_record h other key entry)

theorem exists_of_mergeOptions {doc : Document} {identity : Text}
    (h : ∃ s, doc.sections.get? identity = some s) (other : Text)
    (options : List (Text × Stored)) :
    ∃ s, (doc.mergeOptions other options).sections.get? identity = some s := by
  induction options generalizing doc with
  | nil => exact h
  | cons option rest ih => exact ih (exists_of_recordAll h other option.1 _)

/-- A further occurrence of a key that is among the keys may be recorded after them all. -/
theorem mergeOptions_put {doc : Document} {identity key : Text} {value : Stored}
    {options : List (Text × Stored)} (hsection : ∃ s, doc.sections.get? identity = some s)
    (hnodup : (options.map Prod.fst).Nodup)
    (hstored : ∀ option ∈ options, option.2.WellFormed)
    (hvalue : OrderedMap.lookup key options = some value) (entry : Entry) :
    doc.mergeOptions identity (OrderedMap.put key (value.append entry) options)
      = (doc.mergeOptions identity options).record identity key entry := by
  induction options generalizing doc with
  | nil => cases hvalue
  | cons option rest ih =>
      obtain ⟨name, stored⟩ := option
      rw [List.map_cons, List.nodup_cons] at hnodup
      by_cases hkey : name = key
      · subst hkey
        simp only [OrderedMap.lookup, if_true, Option.some.injEq] at hvalue
        subst hvalue
        have hne : stored.entries ≠ [] :=
          Stored.entries_ne_nil (hstored (name, stored) List.mem_cons_self)
        have hlast : doc.recordAll identity name (stored.append entry).entries
            = (doc.recordAll identity name stored.entries).record identity name entry := by
          unfold recordAll
          rw [Stored.entries_append, List.foldl_append]
          rfl
        have hwaits : ∀ other ∈ rest,
            (doc.recordAll identity name stored.entries).CanWait identity name identity other.1 := by
          intro other hother
          refine ⟨exists_of_recordAll hsection identity name _, fun _ => ⟨?_, ?_⟩⟩
          · exact fun hsame => hnodup.1 (List.mem_map.mpr ⟨other, hother, hsame.symm⟩)
          · exact entriesAt_recordAll_ne_nil hsection name hne
        rw [OrderedMap.put, if_pos rfl, mergeOptions_cons, mergeOptions_cons, hlast]
        exact mergeOptions_record hwaits entry
      · simp only [OrderedMap.lookup, if_neg hkey] at hvalue
        rw [OrderedMap.put, if_neg hkey, mergeOptions_cons, mergeOptions_cons]
        exact ih (exists_of_recordAll hsection identity name _) hnodup.2
          (fun other hother => hstored other (List.mem_cons_of_mem _ hother)) hvalue

/-- What is recorded in a section before it is merged may be recorded after that. -/
theorem mergeSection_section_record (doc : Document) {s : Section}
    (hstored : ∀ option ∈ s.options.pairs, option.2.WellFormed) (key : Text) (entry : Entry) :
    doc.mergeSection (s.record key entry)
      = (doc.mergeSection s).record s.id.identity key entry := by
  rw [mergeSection_eq, mergeSection_eq]
  change mergeOptions (doc.openSection s.id) s.id.identity (s.record key entry).options.pairs = _
  unfold Section.record
  cases hget : s.options.get? key with
  | none =>
      rw [OrderedMap.pairs_insert_of_get?_eq_none hget]
      unfold mergeOptions
      rw [List.foldl_append]
      rfl
  | some value =>
      exact mergeOptions_put (doc.exists_of_openSection s.id) s.options.nodup hstored hget entry

theorem exists_of_mergeSection {doc : Document} {identity : Text}
    (h : ∃ s, doc.sections.get? identity = some s) (t : Section) :
    ∃ s, (doc.mergeSection t).sections.get? identity = some s := by
  obtain ⟨s, hs⟩ := h
  exact exists_of_mergeOptions ⟨s, get?_openSection hs t.id⟩ t.id.identity t.options.pairs

theorem exists_of_mergeSections {doc : Document} {identity : Text}
    (h : ∃ s, doc.sections.get? identity = some s) (sections : List Section) :
    ∃ s, (sections.foldl mergeSection doc).sections.get? identity = some s := by
  induction sections generalizing doc with
  | nil => exact h
  | cons t rest ih => exact ih (exists_of_mergeSection h t)

/-- What is recorded in one section may be recorded after others are merged. -/
theorem mergeSections_record {doc : Document} {identity : Text} {sections : List Section}
    (h : ∃ s, doc.sections.get? identity = some s)
    (hsections : ∀ t ∈ sections, t.id.identity ≠ identity) (key : Text) (entry : Entry) :
    sections.foldl mergeSection (doc.record identity key entry)
      = (sections.foldl mergeSection doc).record identity key entry := by
  induction sections generalizing doc with
  | nil => rfl
  | cons t rest ih =>
      have hne : identity ≠ t.id.identity := Ne.symm (hsections t List.mem_cons_self)
      obtain ⟨s, hs⟩ := h
      have hfirst : (doc.record identity key entry).mergeSection t
          = (doc.mergeSection t).record identity key entry := by
        rw [mergeSection_eq, mergeSection_eq, openSection_record hs]
        refine mergeOptions_record (fun option _ => ⟨⟨s, get?_openSection hs t.id⟩, ?_⟩) entry
        exact fun hsame => absurd hsame hne
      rw [List.foldl_cons, List.foldl_cons, hfirst]
      exact ih (exists_of_mergeSection ⟨s, hs⟩ t) fun other hother =>
        hsections other (List.mem_cons_of_mem t hother)

/-! ## Merging a source that has changed -/

variable {P : SectionId → Prop} {Q : Text → Entry → Prop}

/-- An occurrence that is recorded in one of the sections may be recorded after they are merged. -/
theorem mergeSections_put {current : Document} {identity : Text} {s : Section}
    {pairs : List (Text × Section)} (hnodup : (pairs.map Prod.fst).Nodup)
    (hevery : ∀ p ∈ pairs, p.2.id.identity = p.1 ∧ p.2.Every P Q)
    (hlookup : OrderedMap.lookup identity pairs = some s) (key : Text) (entry : Entry) :
    ((OrderedMap.put identity (s.record key entry) pairs).map Prod.snd).foldl mergeSection current
      = ((pairs.map Prod.snd).foldl mergeSection current).record identity key entry := by
  induction pairs generalizing current with
  | nil => cases hlookup
  | cons p rest ih =>
      obtain ⟨name, t⟩ := p
      obtain ⟨hown, _, hoptions⟩ := hevery (name, t) List.mem_cons_self
      have hidentity : t.id.identity = name := hown
      rw [List.map_cons, List.nodup_cons] at hnodup
      have hrest : ∀ q ∈ rest, q.2.id.identity = q.1 ∧ q.2.Every P Q := fun q hq =>
        hevery q (List.mem_cons_of_mem _ hq)
      by_cases hname : name = identity
      · subst hname
        simp only [OrderedMap.lookup, if_true, Option.some.injEq] at hlookup
        subst hlookup
        rw [OrderedMap.put, if_pos rfl, List.map_cons, List.map_cons, List.foldl_cons,
          List.foldl_cons,
          mergeSection_section_record current (fun option hoption => (hoptions option hoption).1)]
        have hthere : ∃ u, (current.mergeSection t).sections.get? t.id.identity = some u :=
          exists_of_mergeOptions (current.exists_of_openSection t.id) _ _
        rw [hidentity] at hthere ⊢
        refine mergeSections_record hthere ?_ key entry
        rintro u hu hsame
        obtain ⟨q, hq, rfl⟩ := List.mem_map.mp hu
        rw [(hrest q hq).1] at hsame
        exact hnodup.1 (List.mem_map.mpr ⟨q, hq, hsame⟩)
      · simp only [OrderedMap.lookup, if_neg hname] at hlookup
        rw [OrderedMap.put, if_neg hname]
        exact ih hnodup.2 hrest hlookup

/-- An occurrence that is recorded in a source may be recorded once it is merged. -/
theorem merge_record (target : Document) {source : Document} (h : source.Every P Q)
    {identity : Text} {s : Section} (hs : source.sections.get? identity = some s) (key : Text)
    (entry : Entry) :
    target.merge (source.record identity key entry)
      = (target.merge source).record identity key entry := by
  rw [record_of_get? hs]
  exact mergeSections_put source.sections.nodup h hs key entry

/-- A section that is opened in a source may be opened once it is merged. -/
theorem merge_openSection (target : Document) {source : Document} (h : source.Every P Q)
    (id : SectionId) :
    target.merge (source.openSection id) = (target.merge source).openSection id := by
  cases hs : source.sections.get? id.identity with
  | none =>
      have hmissing : ¬ source.sections.contains id.identity = true := by
        simp [OrderedMap.contains, hs]
      have hlist : (source.putSection id.identity (.new id)).sectionList
          = source.sectionList ++ [.new id] := by
        unfold sectionList OrderedMap.values putSection
        rw [OrderedMap.pairs_insert_of_get?_eq_none hs, List.map_append]
        rfl
      unfold openSection
      rw [if_neg hmissing]
      unfold merge
      rw [hlist, List.foldl_append]
      rfl
  | some s =>
      have hcontains : source.sections.contains id.identity = true := by
        simp [OrderedMap.contains, hs]
      have hmerged : ∃ t, (target.merge source).sections.get? id.identity = some t := by
        have hmem := OrderedMap.mem_of_get? hs
        have hown : s.id.identity = id.identity := (h _ hmem).1
        obtain ⟨before, after, hsplit⟩ := List.append_of_mem (List.mem_map_of_mem (f := Prod.snd) hmem)
        have hlist : source.sectionList = before ++ s :: after := hsplit
        unfold merge
        rw [hlist, List.foldl_append, List.foldl_cons, ← hown]
        refine exists_of_mergeSections ?_ after
        exact exists_of_mergeOptions (exists_of_openSection _ s.id) _ _
      have hboth : (target.merge source).sections.contains id.identity = true :=
        Option.isSome_iff_exists.mpr hmerged
      unfold openSection
      rw [if_pos hcontains, if_pos hboth]

end Document

end ConfigEditor
