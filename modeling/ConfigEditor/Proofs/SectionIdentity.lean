import ConfigEditor.Proofs.HeaderGrammar
import ConfigEditor.Proofs.SectionArguments
set_option autoImplicit false

/-!
# Identities: all of an id in one text

The identity of an id is one text, and nothing else of the id has to be kept: a name and any
subsection are written into it, and read back out of it (`readsBack_of_make`), so that it tells
apart whatever is written (`parts_eq_of_identity`).  An identity that was read is a fixed point in
the same way; it is looked up as it stands (`identities_readBack`).

A subsection may hold anything, quotes, backslashes, brackets and line breaks.  What is escaped of
it is enough for the reader, since a line break counts only directly behind a backslash, and there
no escaped text has one.
-/

namespace ConfigEditor.SectionId

/-- A good name goes with every subsection. -/
theorem exists_make_iff (name : Text) (sub : Option Text) :
    (∃ id, make name sub = .ok id) ↔ name ≠ [] ∧ ∀ c ∈ name, Text.isNameChar c = true := by
  rw [← isValidName_iff]
  constructor
  · rintro ⟨id, hid⟩
    exact isValidName_of_make hid
  · intro hname
    exact ⟨_, make_of_isValidName hname sub⟩

/-- The identity that is made of a name and a subsection is read as the two. -/
theorem readsBack_of_make {name : Text} {sub : Option Text} {id : SectionId}
    (h : make name sub = .ok id) :
    ofHeader id.identity = .ok id ∧ id.name = name ∧ id.subsection = sub :=
  ⟨isCanonical_of_make h, (of_make h).2⟩

/-- One identity is made of one name and one subsection only. -/
theorem parts_eq_of_identity {name other : Text} {sub otherSub : Option Text} {id twin : SectionId}
    (h : make name sub = .ok id) (htwin : make other otherSub = .ok twin)
    (hidentity : id.identity = twin.identity) : name = other ∧ sub = otherSub := by
  obtain ⟨hread, rfl, rfl⟩ := readsBack_of_make h
  obtain ⟨hreadTwin, rfl, rfl⟩ := readsBack_of_make htwin
  obtain rfl := eq_of_identity hread hreadTwin hidentity
  exact ⟨rfl, rfl⟩

/-- An id is made of every good name and every subsection, its identity is read as that id, and
no two of these identities are the same.  The identity of an id that was read is read as that id
again. -/
theorem identities_readBack :
    (∀ name sub, (∃ id, make name sub = .ok id) ↔
      name ≠ [] ∧ ∀ c ∈ name, Text.isNameChar c = true) ∧
    (∀ name sub id, make name sub = .ok id →
      ofHeader id.identity = .ok id ∧ id.name = name ∧ id.subsection = sub) ∧
    (∀ name sub id other otherSub twin, make name sub = .ok id → make other otherSub = .ok twin →
      (name, sub) ≠ (other, otherSub) → id.identity ≠ twin.identity) ∧
    ∀ text id, ofHeader text = .ok id → ofHeader id.identity = .ok id := by
  refine ⟨exists_make_iff, ?_, ?_, ?_⟩
  · intro name sub id hid
    exact readsBack_of_make hid
  · intro name sub id other otherSub twin hid htwin hne hidentity
    obtain ⟨rfl, rfl⟩ := parts_eq_of_identity hid htwin hidentity
    exact hne rfl
  · intro text id hid
    exact isCanonical_of_ofHeader hid

/-- A quote, a backslash before a line break, and brackets; the same without the backslash; and a
header with an escape too many. -/
theorem identities_readBack_across_lines :
    ∃ id twin read, make "a.b".toList (some "\"]\\\n[".toList) = .ok id ∧
      make "a.b".toList (some "\"]\n[".toList) = .ok twin ∧
      ofHeader " a.b  \"\\x]\" ".toList = .ok read ∧
      (ofHeader id.identity = .ok id ∧ id.name = "a.b".toList ∧
        id.subsection = some "\"]\\\n[".toList) ∧
      id.identity ≠ twin.identity ∧ ofHeader read.identity = .ok read := by
  obtain ⟨hmakes, hmade, hapart, hread⟩ := identities_readBack
  have hname := (isValidName_iff "a.b".toList).mp (by decide +kernel)
  obtain ⟨id, hid⟩ := (hmakes "a.b".toList (some "\"]\\\n[".toList)).mpr hname
  obtain ⟨twin, htwin⟩ := (hmakes "a.b".toList (some "\"]\n[".toList)).mpr hname
  have hheader : ofHeader " a.b  \"\\x]\" ".toList
      = .ok (ofParts "a.b".toList (some "\\x]".toList)) := by decide +kernel
  exact ⟨id, twin, _, hid, htwin, hheader, hmade _ _ _ hid,
    hapart _ _ _ _ _ _ hid htwin (by decide +kernel), hread _ _ hheader⟩

end ConfigEditor.SectionId
