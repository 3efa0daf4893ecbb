import ConfigEditor.Proofs.Document.Lookup
import ConfigEditor.Proofs.Text.Lower
set_option autoImplicit false

/-!
# Keys that are none

A look-up or a removal takes any text for a key and folds its case, while only valid keys are ever
stored.  What is found is stored, so a text that folds to no key misses: look-ups fail, and
removals leave the document as it is (`Misses`).

A text that is no key may still fold to one, if there is a Kelvin sign in it.  It misses unless the
key that it looks like is there (`Reachable.misses_iff`); then it is taken for that key, and removes
it (`kelvin_sign_removes_key`).
-/

namespace ConfigEditor.Document

/-- A key is not found in a section that is, in whichever way it is asked for; to remove it leaves
the document as it is. -/
structure Misses (doc : Document) (name key : Text) : Prop where
  hasOption : doc.hasOption name key = false
  get : doc.get name key = .error (.noOption name key)
  getAll : doc.getAll name key = .error (.noOption name key)
  removeOption : doc.removeOption name key = .ok (false, doc)
  removeMatching : ∀ pattern compiled, pattern.compile = .ok compiled →
    doc.removeMatching name key pattern = .ok (false, doc)

variable {doc : Document} {name key : Text} {s : Section}

/-- All ways to ask for a key look for its normal form. -/
theorem misses_iff_of_findSection (hs : doc.findSection name = .ok s) :
    doc.Misses name key ↔ s.options.get? (Key.normalize key) = none := by
  constructor
  · intro h
    have hnone := h.hasOption
    rw [hasOption_of_findSection hs] at hnone
    exact OrderedMap.get?_eq_none_of_contains (Bool.eq_false_iff.mp hnone)
  · intro hnone
    have hvalue : doc.findValue name key = .error (.noOption name key) := by
      unfold findValue
      simp only [hs, hnone]
    refine ⟨?_, ?_, ?_, ?_, ?_⟩
    · rw [hasOption, hvalue]
      rfl
    · rw [get, hvalue]
      rfl
    · rw [getAll, hvalue]
      rfl
    · rw [removeOption_eq, hs, Except.map, OrderedMap.erase_of_get?_eq_none hnone,
        withOptions_self hs]
      unfold OrderedMap.contains
      rw [hnone]
      rfl
    · intro pattern compiled hpattern
      rw [removeMatching_eq]
      simp only [hs, hpattern, hnone]

/-- In a reachable document every key of a section is valid. -/
theorem Reachable.isValid_of_get? (h : doc.Reachable) (hs : doc.findSection name = .ok s)
    {value : Stored} (hvalue : s.options.get? key = some value) : Key.isValid key = true := by
  have hmem : s ∈ doc.sectionList := List.mem_map_of_mem (mem_of_findSection hs)
  exact ((h.canonical.keys s hmem).2 key (OrderedMap.mem_keys_of_get? hvalue)).1

/-- A text that is no key is found where it is taken for a key that is there, and a Kelvin sign for
a letter.  Everywhere else, and always without a Kelvin sign, it misses. -/
theorem Reachable.misses_iff (h : doc.Reachable) (hname : doc.hasSection name = true)
    (hkey : Key.isValid key.trim = false) :
    (doc.Misses name key ↔ ¬ (Key.isValid key.trim.withoutKelvin = true ∧
      doc.hasOption name key.trim.withoutKelvin = true)) ∧
    (Text.kelvinSign ∉ key.trim → doc.Misses name key) := by
  obtain ⟨s, hs⟩ := exists_of_hasSection hname
  have hiff : doc.Misses name key ↔ ¬ (Key.isValid key.trim.withoutKelvin = true ∧
      doc.hasOption name key.trim.withoutKelvin = true) := by
    rw [misses_iff_of_findSection hs, hasOption_of_findSection hs]
    constructor
    · rintro hnone ⟨hvalid, hfound⟩
      rw [Key.normalize_eq_of_withoutKelvin hvalid] at hnone
      rw [OrderedMap.contains, hnone] at hfound
      cases hfound
    · intro hmisses
      cases hvalue : s.options.get? (Key.normalize key) with
      | none => rfl
      | some value =>
          -- What is stored is a key, so the text folds to one.
          have hvalid : Key.isValid key.trim.withoutKelvin = true :=
            (Key.isValid_lower_iff key.trim).mp (h.isValid_of_get? hs hvalue)
          refine absurd ⟨hvalid, ?_⟩ hmisses
          rw [OrderedMap.contains, ← Key.normalize_eq_of_withoutKelvin hvalid, hvalue]
          rfl
  refine ⟨hiff, fun hkelvin => hiff.mpr ?_⟩
  rw [Text.withoutKelvin_eq_self hkelvin, hkey]
  simp

/-- A text with a Kelvin sign that looks like no key of the section, and one that folds to a key
and a dot above. -/
theorem misses_iff_of_near_keys :
    ∃ doc, ofText "[a \"x\"]\nK = 1\nI = 2".toList = .ok doc ∧
      doc.hasSection " a  \"x\" ".toList = true ∧
      Key.isValid (Text.trim " \u212Ak\t".toList) = false ∧
      doc.Misses " a  \"x\" ".toList " \u212Ak\t".toList ∧
      Key.isValid (Text.trim "\u0130".toList) = false ∧
      doc.Misses " a  \"x\" ".toList "\u0130".toList := by
  obtain ⟨doc, hread⟩ := exists_of_isOk
    (show (ofText "[a \"x\"]\nK = 1\nI = 2".toList).isOk = true by decide +kernel)
  have hall : ∀ other ∈ (ofText "[a \"x\"]\nK = 1\nI = 2".toList).toOption,
      other.hasSection " a  \"x\" ".toList = true ∧
        ¬ (Key.isValid (Text.trim " \u212Ak\t".toList).withoutKelvin = true ∧
          other.hasOption " a  \"x\" ".toList
            (Text.trim " \u212Ak\t".toList).withoutKelvin = true) := by
    decide +kernel
  obtain ⟨hname, hapart⟩ := hall doc (by rw [hread]; rfl)
  have hkelvin : Key.isValid (Text.trim " \u212Ak\t".toList) = false := by decide +kernel
  have hdotted : Key.isValid (Text.trim "\u0130".toList) = false := by decide +kernel
  have hreachable : doc.Reachable := .ofText hread
  exact ⟨doc, hread, hname, hkelvin, (Reachable.misses_iff hreachable hname hkelvin).1.mpr hapart,
    hdotted, (Reachable.misses_iff hreachable hname hdotted).2 (by decide +kernel)⟩

/-- The Kelvin sign is no key, and removes the key `k`. -/
theorem kelvin_sign_removes_key :
    ∃ doc after : Document, doc.Reachable ∧ doc.hasSection "a".toList = true ∧
      Key.isValid (Text.trim [Text.kelvinSign]) = false ∧
      doc.hasOption "a".toList [Text.kelvinSign] = true ∧
      doc.removeOption "a".toList [Text.kelvinSign] = .ok (true, after) ∧ after ≠ doc ∧
      ¬ doc.Misses "a".toList [Text.kelvinSign] := by
  have hread : ofText "[a]\nk = 1\n".toList
      = .ok ((openSection .empty (.ofParts "a".toList none)).record "a".toList "k".toList
          (.assigned "1".toList)) := by decide +kernel
  have hfound : ((openSection .empty (.ofParts "a".toList none)).record "a".toList "k".toList
      (.assigned "1".toList)).hasOption "a".toList [Text.kelvinSign] = true := by decide +kernel
  refine ⟨_, openSection .empty (.ofParts "a".toList none), .ofText hread, by decide +kernel,
    by decide +kernel, hfound, by decide +kernel, by decide +kernel, ?_⟩
  intro hmisses
  rw [hmisses.hasOption] at hfound
  cases hfound

end ConfigEditor.Document
