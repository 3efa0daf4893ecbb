import ConfigEditor.Proofs.Document.Edits
set_option autoImplicit false

/-!
# Changes and their effects

`Effect` lists what a change that succeeds can do to a document, one constructor for each
branch that yields a document, with the checks that were passed on the way.  What changes
preserve is proved by cases on it and never by opening the edits again (`effect_of_attempt`).

`Reachable` is every document that can be built: the empty one, the document of a text, and
what a change makes of a reachable document, merging reachable documents only.  A change that
fails is among them, with the document that it leaves.
-/

namespace ConfigEditor

/-- What a change that succeeds does to a document. -/
inductive Change.Effect (doc : Document) : Change → Document → Prop
  | addSection {name : Text} {id : SectionId} (hid : SectionId.ofHeader name = .ok id) :
      Effect doc (.addSection name) (doc.openSection id)
  | removeSection (name : Text) :
      Effect doc (.removeSection name) ⟨doc.sections.erase (SectionId.canonical name)⟩
  | openSection {input : Text} {id : SectionId} (hid : SectionId.resolve input = .ok id) :
      Effect doc (.openSection input) (doc.openSection id)
  | set {name key value normal : Text} {s : Section} (hs : doc.findSection name = .ok s)
      (hkey : Key.parse key = .ok normal) (hvalue : Line.checkValue value = .ok value) :
      Effect doc (.set name key value)
        (doc.withOptions name s (s.options.insert normal (.one (.assigned value))))
  | add {name key value normal : Text} {s : Section} (hs : doc.findSection name = .ok s)
      (hkey : Key.parse key = .ok normal) (hvalue : Line.checkValue value = .ok value) :
      Effect doc (.add name key value)
        (doc.withOptions name s (s.record normal (.assigned value)).options)
  | removeOption {name : Text} (key : Text) {s : Section} (hs : doc.findSection name = .ok s) :
      Effect doc (.removeOption name key)
        (doc.withOptions name s (s.options.erase (Key.normalize key)))
  /-- No occurrence matches, or there is none. -/
  | retainAll (name key : Text) (pattern : PatternArgument) :
      Effect doc (.removeMatching name key pattern) doc
  /-- Every occurrence matches. -/
  | retainNone {name : Text} (key : Text) (pattern : PatternArgument) {s : Section}
      (hs : doc.findSection name = .ok s) :
      Effect doc (.removeMatching name key pattern)
        (doc.withOptions name s (s.options.erase (Key.normalize key)))
  | retainSome {name : Text} (key : Text) {pattern : PatternArgument} {found : Matcher}
      {s : Section} {value rest : Stored} (hs : doc.findSection name = .ok s)
      (hpattern : pattern.compile = .ok found)
      (hvalue : s.options.get? (Key.normalize key) = some value)
      (hrest : value.retain (fun entry => !found entry.text) = some rest) :
      Effect doc (.removeMatching name key pattern)
        (doc.withOptions name s (s.options.insert (Key.normalize key) rest))
  | merge (source : Document) : Effect doc (.merge source) (doc.merge source)
  | mergeSelf : Effect doc .mergeSelf (doc.merge doc)
  | read {source : Source} {label : Text} {other : Document}
      (hread : Document.ofSource source label = .ok other) :
      Effect doc (.read source label) (doc.merge other)

/-- A result that is mapped and good was good before. -/
theorem exists_of_map_eq_ok {ε α β : Type} {f : α → β} {result : Except ε α} {b : β}
    (h : result.map f = .ok b) : ∃ a, result = .ok a ∧ f a = b := by
  cases result with
  | error fault => cases h
  | ok a => exact ⟨a, rfl, Except.ok.inj h⟩

theorem exists_of_isOk {ε α : Type} {result : Except ε α} (h : result.isOk = true) :
    ∃ a, result = .ok a := by
  cases result with
  | error fault => cases h
  | ok a => exact ⟨a, rfl⟩

/-- A result is there, and what holds of every result holds of it. -/
theorem exists_of_isOk_of_forall {ε α : Type} {P : α → Prop} {result : Except ε α}
    (h : result.isOk = true) (hall : ∀ a ∈ result.toOption, P a) : ∃ a, result = .ok a ∧ P a := by
  obtain ⟨a, rfl⟩ := exists_of_isOk h
  exact ⟨a, rfl, hall a rfl⟩

/-- A value that is accepted is taken as it is. -/
theorem Line.eq_of_checkValue {value text : Text} (h : Line.checkValue value = .ok text) :
    text = value := by
  unfold Line.checkValue at h
  split at h
  · cases h
  · split at h
    · cases h
    · split at h
      · cases h
      · exact (Except.ok.inj h).symm

namespace Document

/-- The three checks of an assignment. -/
theorem of_checkAssignment {doc : Document} {name key value normal text : Text} {s : Section}
    (h : doc.checkAssignment name key value = .ok (s, normal, text)) :
    doc.findSection name = .ok s ∧ Key.parse key = .ok normal ∧
      Line.checkValue value = .ok value ∧ text = value := by
  unfold checkAssignment at h
  split at h
  · cases h
  · rename_i found hs
    split at h
    · cases h
    · rename_i parsed hkey
      split at h
      · cases h
      · rename_i checked hvalue
        cases h
        obtain rfl := Line.eq_of_checkValue hvalue
        exact ⟨hs, hkey, hvalue, rfl⟩

/-- What a successful assignment of a single value does, with the checks that it passed. -/
theorem of_set {doc after : Document} {name key value : Text}
    (h : doc.set name key value = .ok after) :
    ∃ s normal, doc.findSection name = .ok s ∧ Key.parse key = .ok normal ∧
      Line.checkValue value = .ok value ∧
      after = doc.withOptions name s (s.options.insert normal (.one (.assigned value))) := by
  rw [set_eq] at h
  obtain ⟨⟨s, normal, text⟩, hcheck, rfl⟩ := exists_of_map_eq_ok h
  obtain ⟨hs, hkey, hvalue, rfl⟩ := of_checkAssignment hcheck
  exact ⟨s, normal, hs, hkey, hvalue, rfl⟩

/-- What a successful assignment of a further value does, with the checks that it passed. -/
theorem of_add {doc after : Document} {name key value : Text}
    (h : doc.add name key value = .ok after) :
    ∃ s normal, doc.findSection name = .ok s ∧ Key.parse key = .ok normal ∧
      Line.checkValue value = .ok value ∧
      after = doc.withOptions name s (s.record normal (.assigned value)).options := by
  rw [add_eq] at h
  obtain ⟨⟨s, normal, text⟩, hcheck, rfl⟩ := exists_of_map_eq_ok h
  obtain ⟨hs, hkey, hvalue, rfl⟩ := of_checkAssignment hcheck
  exact ⟨s, normal, hs, hkey, hvalue, rfl⟩

end Document

namespace Change

theorem effect_of_removeMatching {doc after : Document} {name key : Text}
    {pattern : PatternArgument} {removed : Bool}
    (h : doc.removeMatching name key pattern = .ok (removed, after)) :
    Effect doc (.removeMatching name key pattern) after := by
  rw [Document.removeMatching_eq] at h
  split at h
  · cases h
  · rename_i s hs
    split at h
    · cases h
    · rename_i found hpattern
      split at h
      · cases h
        exact .retainAll name key pattern
      · rename_i value hvalue
        split at h
        · split at h
          · cases h
            exact .retainAll name key pattern
          · cases h
            exact .retainNone key pattern hs
        · rename_i rest hrest
          split at h
          · cases h
            exact .retainAll name key pattern
          · cases h
            exact .retainSome key hs hpattern hvalue hrest

/-- Every change that succeeds has one of the listed effects. -/
theorem effect_of_attempt {doc after : Document} {change : Change} {outcome : Outcome}
    (h : change.attempt doc = .ok (outcome, after)) : Effect doc change after := by
  rw [attempt_eq] at h
  cases change with
  | addSection name =>
      obtain ⟨added, hadd, hafter⟩ := exists_of_map_eq_ok h
      rw [Document.addSection_eq] at hadd
      split at hadd
      · cases hadd
      · rename_i id hid
        cases hadd
        cases hafter
        exact .addSection hid
  | removeSection name =>
      cases h
      exact .removeSection name
  | openSection input =>
      dsimp only at h
      split at h
      · cases h
      · rename_i id hid
        cases h
        exact .openSection hid
  | set name key value =>
      obtain ⟨assigned, hset, hafter⟩ := exists_of_map_eq_ok h
      obtain ⟨s, normal, hs, hkey, hvalue, rfl⟩ := Document.of_set hset
      cases hafter
      exact .set hs hkey hvalue
  | add name key value =>
      obtain ⟨assigned, hadd, hafter⟩ := exists_of_map_eq_ok h
      obtain ⟨s, normal, hs, hkey, hvalue, rfl⟩ := Document.of_add hadd
      cases hafter
      exact .add hs hkey hvalue
  | removeOption name key =>
      obtain ⟨removed, hremove, hafter⟩ := exists_of_map_eq_ok h
      rw [Document.removeOption_eq] at hremove
      obtain ⟨s, hs, rfl⟩ := exists_of_map_eq_ok hremove
      cases hafter
      exact .removeOption key hs
  | removeMatching name key pattern =>
      obtain ⟨removed, hremove, hafter⟩ := exists_of_map_eq_ok h
      cases hafter
      exact effect_of_removeMatching hremove
  | merge source =>
      cases h
      exact .merge source
  | mergeSelf =>
      cases h
      exact .mergeSelf
  | read source label =>
      obtain ⟨merged, hmerge, hafter⟩ := exists_of_map_eq_ok h
      rw [Document.read_eq] at hmerge
      obtain ⟨other, hread, rfl⟩ := exists_of_map_eq_ok hmerge
      cases hafter
      exact .read hread

/-- Every change but those that take in another document. -/
def IsEdit : Change → Prop
  | merge _ => False
  | mergeSelf => False
  | read _ _ => False
  | _ => True

/-- A change has an effect, or it fails and the document stays. -/
theorem effect_or_eq (doc : Document) (change : Change) :
    Effect doc change (change.apply doc).2 ∨ (change.apply doc).2 = doc := by
  rw [apply_eq]
  split
  · rename_i hattempt
    exact .inl (effect_of_attempt hattempt)
  · exact .inr rfl

end Change

/-- Every document that can be built from the empty one and from texts by changes. -/
inductive Document.Reachable : Document → Prop
  | empty : Reachable .empty
  | ofText {text : Text} {doc : Document} (h : Document.ofText text = .ok doc) : Reachable doc
  | change {doc : Document} (change : Change) (h : Reachable doc)
      (hsource : ∀ source, change = .merge source → Reachable source) :
      Reachable (change.apply doc).2

end ConfigEditor
