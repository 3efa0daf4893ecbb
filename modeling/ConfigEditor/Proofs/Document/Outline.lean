import ConfigEditor.Document.ToText
import ConfigEditor.Proofs.Document.WellFormed
import ConfigEditor.Proofs.Rows
set_option autoImplicit false

/-!
# Outlines: documents as plain lists

The outline of a document is the list of its sections, each an identity and a list of keys with
their entries.  It says all there is to say of the document: the lines of its text, each with the
place that it belongs to, and what look-ups hand back (`Every.describes`).

An edit of an outline changes one key or one section, and touches no other
(`OutlineEdit.staysLocal`).
-/

namespace ConfigEditor

/-- The options as rows. -/
def Section.outline (s : Section) : Rows Text Entry := Rows.ofPairs Stored.entries s.options.pairs

/-- Identities in order, each with keys in order, each with its entries in order. -/
abbrev Outline : Type := Rows Text (Text × List Entry)

/-- The outline of a document. -/
def Document.outline (doc : Document) : Outline := Rows.ofPairs Section.outline doc.sections.pairs

/-- Where a line belongs: to the header of a section, or to a key in it. -/
inductive Place where
  | header (identity : Text)
  | option (identity key : Text)
  deriving DecidableEq, Repr, Inhabited

/-- The section of a place. -/
def Place.identity : Place → Text
  | header identity => identity
  | option identity _ => identity

/-- What a look-up hands back of entries. -/
def Reading.ofEntries : List Entry → Reading
  | [entry] => .single entry.text
  | entries => .several (entries.map Entry.text)

namespace Outline

/-- The lines of a key, each with its place. -/
def optionLines (identity : Text) (option : Text × List Entry) : List (Place × Text) :=
  option.2.map fun entry => (.option identity option.1, entry.line option.1)

/-- The lines of a section, each with its place. -/
def sectionLines (row : Text × Rows Text Entry) : List (Place × Text) :=
  (.header row.1, '[' :: (row.1 ++ [']'])) :: row.2.flatMap (optionLines row.1)

/-- The lines of an outline, each with its place. -/
def lines (o : Outline) : List (Place × Text) := o.flatMap sectionLines

/-- What a look-up of a key hands back. -/
def get (o : Outline) (name key : Text) : Except Fault Reading :=
  match o.lookup (SectionId.canonical name) with
  | none => .error (.noSection name)
  | some rows =>
    match rows.lookup (Key.normalize key) with
    | none => .error (.noOption name key)
    | some entries => .ok (.ofEntries entries)

/-- The outline without the places that are touched. -/
def apart (touched : Place → Bool) (o : Outline) : Outline :=
  (o.filter fun row => !touched (.header row.1)).map fun row =>
    (row.1, row.2.filter fun option => !touched (.option row.1 option.1))

/-- The outline says all there is to say of the document: its sections, its text and what look-ups
of it hand back. -/
structure Describes (o : Outline) (doc : Document) : Prop where
  eq_outline : o = doc.outline
  identities : (o.map Prod.fst).Nodup
  keys : ∀ row ∈ o, (row.2.map Prod.fst).Nodup
  entries : ∀ row ∈ o, ∀ option ∈ row.2, option.2 ≠ []
  text : doc.toText = o.lines.flatMap fun p => p.2 ++ ['\n']
  get : ∀ name key, doc.get name key = o.get name key

end Outline

/-! ## The outline of a document -/

theorem Stored.reading_eq {value : Stored} (h : value.WellFormed) :
    value.reading = .ofEntries value.entries := by
  cases value with
  | one entry => rfl
  | many entries =>
      match entries, h with
      | _ :: _ :: _, _ => rfl

theorem Section.lines_eq_outline (s : Section) :
    s.lines = (Outline.sectionLines (s.id.identity, s.outline)).map Prod.snd := by
  unfold Section.lines Outline.sectionLines Section.outline Rows.ofPairs
  rw [List.map_cons, List.map_flatMap, List.flatMap_map]
  congr 1
  apply List.flatMap_congr
  intro option _
  unfold Outline.optionLines
  rw [List.map_map]
  rfl

namespace Document

variable {P : SectionId → Prop} {Q : Text → Entry → Prop} {doc : Document}

/-- The sections of the outline are those of the document. -/
theorem map_fst_outline (doc : Document) : doc.outline.map Prod.fst = doc.identities :=
  Rows.map_fst_ofPairs Section.outline doc.sections.pairs

theorem Every.lines_eq (h : doc.Every P Q) : doc.lines = doc.outline.lines.map Prod.snd := by
  unfold Document.lines sectionList OrderedMap.values Outline.lines outline Rows.ofPairs
  rw [List.map_flatMap, List.flatMap_map, List.flatMap_map]
  apply List.flatMap_congr
  intro p hp
  rw [Section.lines_eq_outline, (h p hp).1]

theorem Every.get_eq (h : doc.Every P Q) (name key : Text) :
    doc.get name key = doc.outline.get name key := by
  have hsection : doc.outline.lookup (SectionId.canonical name) =
      (doc.sections.get? (SectionId.canonical name)).map Section.outline :=
    Rows.lookup_ofPairs Section.outline _ _
  unfold get findValue findSection Outline.get
  rw [hsection]
  cases hs : doc.sections.get? (SectionId.canonical name) with
  | none => rfl
  | some s =>
      have hoption : s.outline.lookup (Key.normalize key) =
          (s.options.get? (Key.normalize key)).map Stored.entries :=
        Rows.lookup_ofPairs Stored.entries _ _
      simp only [Option.map_some, hoption]
      cases hvalue : s.options.get? (Key.normalize key) with
      | none => rfl
      | some value =>
          have hstored := ((h _ (OrderedMap.mem_of_get? hs)).2.2 _
            (OrderedMap.mem_of_get? hvalue)).1
          exact congrArg Except.ok (Stored.reading_eq hstored)

/-- A document is described by its outline. -/
theorem Every.describes (h : doc.Every P Q) : doc.outline.Describes doc where
  eq_outline := rfl
  identities := by
    rw [map_fst_outline]
    exact doc.sections.nodup
  keys := by
    intro row hrow
    obtain ⟨p, _, rfl⟩ := List.mem_map.mp hrow
    change (p.2.outline.map Prod.fst).Nodup
    unfold Section.outline
    rw [Rows.map_fst_ofPairs]
    exact p.2.options.nodup
  entries := by
    intro row hrow option hoption
    obtain ⟨p, hp, rfl⟩ := List.mem_map.mp hrow
    obtain ⟨stored, hstored, rfl⟩ := List.mem_map.mp hoption
    exact Stored.entries_ne_nil ((h p hp).2.2 stored hstored).1
  text := by
    unfold toText
    rw [h.lines_eq, List.flatMap_map]
  get := h.get_eq

end Document

/-! ## Edits of outlines -/

/-- What can be done to an outline at one place. -/
inductive OutlineEdit where
  /-- A section that is missing is appended, without options. -/
  | openSection (identity : Text)
  | removeSection (identity : Text)
  /-- The key holds this entry alone. -/
  | assign (identity key : Text) (entry : Entry)
  /-- The key holds this entry after those that it held. -/
  | append (identity key : Text) (entry : Entry)
  | removeOption (identity key : Text)
  deriving DecidableEq, Repr, Inhabited

namespace OutlineEdit

/-- The outline after an edit. -/
def run : OutlineEdit → Outline → Outline
  | openSection identity => Rows.ensure identity
  | removeSection identity => Rows.without identity
  | assign identity key entry => Rows.modify identity (Rows.upsert key fun _ => [entry])
  | append identity key entry => Rows.modify identity (Rows.upsert key (· ++ [entry]))
  | removeOption identity key => Rows.modify identity (Rows.without key)

/-- The places that an edit may touch: one key, or a whole section. -/
def touches : OutlineEdit → Place → Bool
  | openSection identity, place => place.identity = identity
  | removeSection identity, place => place.identity = identity
  | assign identity key _, place => place = .option identity key
  | append identity key _, place => place = .option identity key
  | removeOption identity key, place => place = .option identity key

/-- What an edit does not touch stays: all other sections and keys with their entries, and their
lines, each in its order. -/
structure StaysLocal (edit : OutlineEdit) (o : Outline) : Prop where
  apart : (edit.run o).apart edit.touches = o.apart edit.touches
  lines : (edit.run o).lines.filter (fun p => !edit.touches p.1) =
    o.lines.filter fun p => !edit.touches p.1

end OutlineEdit

namespace Outline

variable {touched : Place → Bool}

theorem place_of_mem_optionLines {identity : Text} {option : Text × List Entry}
    {p : Place × Text} (h : p ∈ optionLines identity option) :
    p.1 = .option identity option.1 := by
  obtain ⟨entry, _, rfl⟩ := List.mem_map.mp h
  rfl

theorem flatMap_optionLines_apart (identity : Text) (rows : Rows Text Entry) :
    (rows.filter fun option => !touched (.option identity option.1)).flatMap
        (optionLines identity) =
      (rows.flatMap (optionLines identity)).filter fun p => !touched p.1 := by
  induction rows with
  | nil => rfl
  | cons option rows ih =>
      rw [List.flatMap_cons, List.filter_append]
      cases htouched : touched (.option identity option.1) with
      | true =>
          have hnone : (optionLines identity option).filter (fun p => !touched p.1) = [] := by
            rw [List.filter_eq_nil_iff]
            intro p hp
            simp [place_of_mem_optionLines hp, htouched]
          rw [List.filter_cons_of_neg (by simp [htouched]), ih, hnone, List.nil_append]
      | false =>
          have hall : (optionLines identity option).filter (fun p => !touched p.1) =
              optionLines identity option := by
            rw [List.filter_eq_self]
            intro p hp
            simp [place_of_mem_optionLines hp, htouched]
          rw [List.filter_cons_of_pos (by simp [htouched]), List.flatMap_cons, ih, hall]

/-- The lines of what is left are the lines that are left, if a header goes with its options. -/
theorem lines_apart (hheader : ∀ identity key, touched (.header identity) = true →
      touched (.option identity key) = true) (o : Outline) :
    (o.apart touched).lines = o.lines.filter fun p => !touched p.1 := by
  induction o with
  | nil => rfl
  | cons row o ih =>
      unfold apart lines at ih ⊢
      rw [List.flatMap_cons, List.filter_append]
      cases hrow : touched (.header row.1) with
      | true =>
          have hnone : (sectionLines row).filter (fun p => !touched p.1) = [] := by
            rw [List.filter_eq_nil_iff]
            intro p hp
            rcases List.mem_cons.mp hp with rfl | hp
            · simp [hrow]
            · obtain ⟨option, _, hp⟩ := List.mem_flatMap.mp hp
              simp [place_of_mem_optionLines hp, hheader row.1 option.1 hrow]
          rw [List.filter_cons_of_neg (by simp [hrow]), ih, hnone, List.nil_append]
      | false =>
          rw [List.filter_cons_of_pos (by simp [hrow]), List.map_cons, List.flatMap_cons, ih,
            sectionLines, sectionLines, flatMap_optionLines_apart,
            List.filter_cons_of_pos (by simp [hrow])]

/-- Apart from a section, an outline is its other sections. -/
theorem apart_section (identity : Text) (o : Outline) :
    apart (fun place => place.identity = identity) o = Rows.without identity o := by
  have hkept : ∀ row ∈ Rows.without identity o,
      (row.1, row.2.filter fun option =>
        !decide ((Place.option row.1 option.1).identity = identity)) = row := by
    intro row hrow
    have hother : row.1 ≠ identity := by simpa using (List.mem_filter.mp hrow).2
    have hall : row.2.filter (fun option =>
        !decide ((Place.option row.1 option.1).identity = identity)) = row.2 := by
      rw [List.filter_eq_self]
      intro option _
      have hoption : (Place.option row.1 option.1).identity ≠ identity := hother
      rw [decide_eq_false hoption, Bool.not_false]
    rw [hall]
  have hothers : o.filter (fun row => !decide ((Place.header row.1).identity = identity)) =
      Rows.without identity o := by
    apply List.filter_congr
    intro row _
    exact decide_not.symm
  unfold apart
  rw [hothers, List.map_congr_left hkept, List.map_id']

/-- Apart from a key, an outline is the same with the other keys of its section. -/
theorem apart_option (identity key : Text) (o : Outline) :
    apart (fun place => place = .option identity key) o =
      Rows.modify identity (Rows.without key) o := by
  have hheaders : o.filter (fun row => !decide (Place.header row.1 = .option identity key)) = o := by
    rw [List.filter_eq_self]
    intro row _
    simp
  unfold apart Rows.modify
  rw [hheaders]
  apply List.map_congr_left
  intro row _
  by_cases hidentity : row.1 = identity
  · rw [if_pos hidentity]
    simp [Rows.without, hidentity]
  · rw [if_neg hidentity]
    simp [hidentity]

theorem apart_section_congr {identity : Text} {o o' : Outline}
    (h : Rows.without identity o = Rows.without identity o') :
    apart (fun place => place.identity = identity) o =
      apart (fun place => place.identity = identity) o' := by
  rw [apart_section, apart_section, h]

/-- Apart from a key, an outline does not tell what its section does with that key. -/
theorem apart_modify {identity key : Text} {f : Rows Text Entry → Rows Text Entry}
    (hf : ∀ rows, Rows.without key (f rows) = Rows.without key rows) (o : Outline) :
    apart (fun place => place = .option identity key) (Rows.modify identity f o) =
      apart (fun place => place = .option identity key) o := by
  rw [apart_option, apart_option]
  unfold Rows.modify
  rw [List.map_map]
  apply List.map_congr_left
  intro row _
  by_cases hidentity : row.1 = identity
  · simp [hidentity, hf]
  · simp [hidentity]

end Outline

namespace OutlineEdit

theorem apart_run (edit : OutlineEdit) (o : Outline) :
    (edit.run o).apart edit.touches = o.apart edit.touches := by
  cases edit with
  | openSection identity => exact Outline.apart_section_congr (Rows.without_ensure identity o)
  | removeSection identity => exact Outline.apart_section_congr (Rows.without_without identity o)
  | assign identity key entry => exact Outline.apart_modify (Rows.without_upsert key _) o
  | append identity key entry => exact Outline.apart_modify (Rows.without_upsert key _) o
  | removeOption identity key => exact Outline.apart_modify (Rows.without_without key) o

theorem touches_option_of_header {edit : OutlineEdit} {identity : Text}
    (h : edit.touches (.header identity) = true) (key : Text) :
    edit.touches (.option identity key) = true := by
  cases edit with
  | openSection other => exact h
  | removeSection other => exact h
  | assign other name entry => simp [touches] at h
  | append other name entry => simp [touches] at h
  | removeOption other name => simp [touches] at h

/-- Every edit leaves what it does not touch. -/
theorem staysLocal (edit : OutlineEdit) (o : Outline) : edit.StaysLocal o where
  apart := edit.apart_run o
  lines := by
    rw [← Outline.lines_apart fun _ key h => touches_option_of_header h key, edit.apart_run,
      Outline.lines_apart fun _ key h => touches_option_of_header h key]

end OutlineEdit

end ConfigEditor
