import ConfigEditor.Proofs.Document.Lookup
import ConfigEditor.Proofs.Document.Outline
set_option autoImplicit false

/-!
# Edits of documents are edits of their outlines

Each edit of a document runs through look-ups, ordered maps and stored values of two shapes, but
what it does is an edit of the outline, a plain list (`OutlineEdit.Does`).  The edits that change
the options of a section share one argument (`outline_withOptions`); each adds only what it does
to the rows of that section.  Nothing is needed of the document but that its sections stand under
their identities and its values are in their stored form (`IsStored`), and every reachable
document is so.
-/

namespace ConfigEditor

/-- What was done to a document is an edit of its outline. -/
structure OutlineEdit.Does (edit : OutlineEdit) (doc after : Document) : Prop where
  describes : (edit.run doc.outline).Describes after
  staysLocal : edit.StaysLocal doc.outline

namespace Document

variable {doc after : Document}

/-- Sections stand under their identities, and values are in their stored form. -/
def IsStored (doc : Document) : Prop := doc.Every (fun _ => True) fun _ _ => True

theorem Reachable.isStored (h : doc.Reachable) : doc.IsStored :=
  h.wellFormed.imp (fun _ _ => trivial) fun _ _ _ => trivial

theorem IsStored.effect (h : doc.IsStored) {change : Change}
    (heffect : change.Effect doc after) (hedit : change.IsEdit) : after.IsStored :=
  Every.edit h (fun _ _ => trivial) (fun _ _ _ _ => trivial) hedit heffect

theorem IsStored.does (h : after.IsStored) {edit : OutlineEdit}
    (houtline : after.outline = edit.run doc.outline) : edit.Does doc after := by
  refine ⟨?_, edit.staysLocal doc.outline⟩
  rw [← houtline]
  exact h.describes

/-! ### Sections -/

theorem outline_openSection (doc : Document) (id : SectionId) :
    (doc.openSection id).outline = (OutlineEdit.openSection id.identity).run doc.outline := by
  change _ = Rows.ensure id.identity doc.outline
  have hiff : doc.sections.contains id.identity = true ↔
      id.identity ∈ doc.outline.map Prod.fst := by
    rw [OrderedMap.contains_iff, map_fst_outline, identities]
  unfold openSection Rows.ensure
  simp only [hiff]
  split
  · rfl
  · rename_i hmissing
    rw [← hiff] at hmissing
    have hget := OrderedMap.get?_eq_none_of_contains hmissing
    unfold outline putSection
    rw [OrderedMap.pairs_insert_of_get?_eq_none hget]
    simp [Rows.ofPairs, Section.outline, Section.new]

theorem outline_removeSection (doc : Document) (name : Text) :
    (doc.removeSection name).2.outline =
      (OutlineEdit.removeSection (SectionId.canonical name)).run doc.outline :=
  Rows.ofPairs_drop Section.outline _ doc.sections.nodup

theorem IsStored.does_openSection (h : doc.IsStored) (id : SectionId) :
    (OutlineEdit.openSection id.identity).Does doc (doc.openSection id) :=
  IsStored.does (Every.openSection h trivial) (doc.outline_openSection id)

theorem IsStored.does_addSection (h : doc.IsStored) {name : Text} {created : Bool}
    (hadd : doc.addSection name = .ok (created, after)) :
    (OutlineEdit.openSection (SectionId.canonical name)).Does doc after := by
  rw [addSection_eq] at hadd
  split at hadd
  · cases hadd
  · rename_i id hid
    cases hadd
    have hcanonical : SectionId.canonical name = id.identity := by
      unfold SectionId.canonical
      rw [hid]
    rw [hcanonical]
    exact h.does_openSection id

theorem IsStored.does_removeSection (h : doc.IsStored) (name : Text) :
    (OutlineEdit.removeSection (SectionId.canonical name)).Does doc (doc.removeSection name).2 :=
  IsStored.does (h.effect (.removeSection name) trivial) (doc.outline_removeSection name)

/-! ### Options -/

theorem mem_identities_of_findSection {name : Text} {s : Section}
    (hs : doc.findSection name = .ok s) : SectionId.canonical name ∈ doc.identities :=
  OrderedMap.mem_keys_of_get? (get?_of_findSection hs)

/-- New options of a section that is found change its row. -/
theorem outline_withOptions {name : Text} {s : Section} (hs : doc.findSection name = .ok s)
    {options : OrderedMap Text Stored} {f : Rows Text Entry → Rows Text Entry}
    (hf : Rows.ofPairs Stored.entries options.pairs = f s.outline) :
    (doc.withOptions name s options).outline =
      Rows.modify (SectionId.canonical name) f doc.outline := by
  have hmem : SectionId.canonical name ∈ doc.outline.map Prod.fst := by
    rw [map_fst_outline]
    exact mem_identities_of_findSection hs
  have hput : (doc.withOptions name s options).outline =
      Rows.upsert (SectionId.canonical name) f doc.outline := by
    apply Rows.ofPairs_put Section.outline doc.sections.nodup
    change Rows.ofPairs Stored.entries options.pairs = f ((doc.sections.get? _).elim [] _)
    rw [get?_of_findSection hs, hf]
    rfl
  rw [hput, Rows.upsert, if_pos hmem]

theorem IsStored.does_set (h : doc.IsStored) {name key value : Text}
    (hset : doc.set name key value = .ok after) :
    SectionId.canonical name ∈ doc.identities ∧
      (OutlineEdit.assign (SectionId.canonical name) (Key.normalize key)
        (.assigned value)).Does doc after := by
  obtain ⟨s, normal, hs, hkey, hvalue, rfl⟩ := of_set hset
  refine ⟨mem_identities_of_findSection hs, ?_⟩
  rw [← Key.eq_normalize_of_parse hkey]
  apply IsStored.does (h.effect (.set hs hkey hvalue) trivial)
  apply outline_withOptions hs
  exact Rows.ofPairs_put Stored.entries s.options.nodup rfl

theorem IsStored.does_add (h : doc.IsStored) {name key value : Text}
    (hadd : doc.add name key value = .ok after) :
    SectionId.canonical name ∈ doc.identities ∧
      (OutlineEdit.append (SectionId.canonical name) (Key.normalize key)
        (.assigned value)).Does doc after := by
  obtain ⟨s, normal, hs, hkey, hvalue, rfl⟩ := of_add hadd
  refine ⟨mem_identities_of_findSection hs, ?_⟩
  rw [← Key.eq_normalize_of_parse hkey]
  apply IsStored.does (h.effect (.add hs hkey hvalue) trivial)
  apply outline_withOptions hs
  exact Rows.ofPairs_put Stored.entries s.options.nodup (Stored.entries_append? _ _)

theorem IsStored.does_removeOption (h : doc.IsStored) {name key : Text} {removed : Bool}
    (hremove : doc.removeOption name key = .ok (removed, after)) :
    SectionId.canonical name ∈ doc.identities ∧
      (OutlineEdit.removeOption (SectionId.canonical name) (Key.normalize key)).Does doc after := by
  rw [removeOption_eq] at hremove
  obtain ⟨s, hs, hafter⟩ := exists_of_map_eq_ok hremove
  obtain ⟨-, rfl⟩ := Prod.mk.inj hafter
  refine ⟨mem_identities_of_findSection hs, ?_⟩
  apply IsStored.does (h.effect (.removeOption key hs) trivial)
  apply outline_withOptions hs
  exact Rows.ofPairs_drop Stored.entries _ s.options.nodup

/-! ### All edits -/

/-- Each edit of a document that succeeds is the edit of its outline, at the identity and the key
that its arguments spell, and so it yields a document that is described by the edited outline. -/
theorem Reachable.outline_edits (h : doc.Reachable) :
    doc.outline.Describes doc ∧
    (∀ name key value after, doc.set name key value = .ok after →
      SectionId.canonical name ∈ doc.identities ∧
      (OutlineEdit.assign (SectionId.canonical name) (Key.normalize key)
        (.assigned value)).Does doc after) ∧
    (∀ name key value after, doc.add name key value = .ok after →
      SectionId.canonical name ∈ doc.identities ∧
      (OutlineEdit.append (SectionId.canonical name) (Key.normalize key)
        (.assigned value)).Does doc after) ∧
    (∀ name key removed after, doc.removeOption name key = .ok (removed, after) →
      SectionId.canonical name ∈ doc.identities ∧
      (OutlineEdit.removeOption (SectionId.canonical name) (Key.normalize key)).Does doc after) ∧
    (∀ name created after, doc.addSection name = .ok (created, after) →
      (OutlineEdit.openSection (SectionId.canonical name)).Does doc after) ∧
    (∀ id, (OutlineEdit.openSection id.identity).Does doc (doc.openSection id)) ∧
    ∀ name, (OutlineEdit.removeSection (SectionId.canonical name)).Does doc
      (doc.removeSection name).2 := by
  have hstored := h.isStored
  refine ⟨hstored.describes, ?_, ?_, ?_, ?_, ?_, ?_⟩
  · intro name key value after hset
    exact hstored.does_set hset
  · intro name key value after hadd
    exact hstored.does_add hadd
  · intro name key removed after hremove
    exact hstored.does_removeOption hremove
  · intro name created after hadd
    exact hstored.does_addSection hadd
  · exact hstored.does_openSection
  · exact hstored.does_removeSection

/-- A key of several entries that another key stands behind, with its section and itself spelled
in other ways. -/
theorem Reachable.outline_edits_of_spellings :
    ∃ doc after, Document.ofText "[a]\nk = 1\n[b \"x\"]\nq = 2\nq\nr = 3".toList = .ok doc ∧
      doc.set " b   \"x\" ".toList " Q ".toList "4".toList = .ok after ∧
      SectionId.canonical " b   \"x\" ".toList ∈ doc.identities ∧
      (OutlineEdit.assign (SectionId.canonical " b   \"x\" ".toList)
        (Key.normalize " Q ".toList) (.assigned "4".toList)).Does doc after := by
  have hrun : ((Document.ofText "[a]\nk = 1\n[b \"x\"]\nq = 2\nq\nr = 3".toList).bind fun doc =>
      doc.set " b   \"x\" ".toList " Q ".toList "4".toList).isOk = true := by decide +kernel
  cases hread : Document.ofText "[a]\nk = 1\n[b \"x\"]\nq = 2\nq\nr = 3".toList with
  | error fault =>
      rw [hread] at hrun
      cases hrun
  | ok doc =>
      rw [hread] at hrun
      obtain ⟨after, hset⟩ := exists_of_isOk hrun
      exact ⟨doc, after, rfl, hset, (Reachable.outline_edits (.ofText hread)).2.1 _ _ _ _ hset⟩

end Document

end ConfigEditor
