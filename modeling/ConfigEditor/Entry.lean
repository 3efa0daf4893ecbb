import ConfigEditor.Text.Blank
set_option autoImplicit false

/-!
# Entries and stored values

An entry is one occurrence of a key in a file: an assigned text, or the bare key
without an equals sign, which reads as `true`.  What a document stores for a key is
one entry, or several in order.  `append` and `retain` are the only ways by which
entries are added and dropped; a single entry is always stored as `one`, and
`retain` leaves nothing where no entry is left.
-/

namespace ConfigEditor

/-- One occurrence of a key. -/
inductive Entry where
  | assigned (text : Text)
  | bare
  deriving DecidableEq, Repr, Inhabited

/-- The text that a bare key reads as. -/
def Entry.bareText : Text := "true".toList

/-- The text that an entry reads as. -/
def Entry.text : Entry → Text
  | assigned text => text
  | bare => bareText

/-- What a look-up hands back: the text of a single entry, or the texts of several. -/
inductive Reading where
  | single (text : Text)
  | several (texts : List Text)
  deriving DecidableEq, Repr, Inhabited

/-- The entries of a key: one, or several in order. -/
inductive Stored where
  | one (entry : Entry)
  | many (entries : List Entry)
  deriving DecidableEq, Repr, Inhabited

namespace Stored

/-- The entries in order. -/
def entries : Stored → List Entry
  | one entry => [entry]
  | many entries => entries

/-- The stored form of a list of entries; none for the empty list. -/
def ofEntries? : List Entry → Option Stored
  | [] => none
  | [entry] => some (one entry)
  | first :: second :: rest => some (many (first :: second :: rest))

/-- Another occurrence at the end. -/
def append : Stored → Entry → Stored
  | one first, entry => many [first, entry]
  | many entries, entry => many (entries ++ [entry])

/-- Another occurrence at the end of what is stored, if anything is. -/
def append? (stored : Option Stored) (entry : Entry) : Stored :=
  match stored with
  | none => one entry
  | some value => value.append entry

/-- The entries that satisfy a test; none if there are none. -/
def retain (value : Stored) (keep : Entry → Bool) : Option Stored :=
  ofEntries? (value.entries.filter keep)

/-- The texts of the entries. -/
def texts (value : Stored) : List Text := value.entries.map Entry.text

/-- What a look-up hands back. -/
def reading : Stored → Reading
  | one entry => .single entry.text
  | many entries => .several (entries.map Entry.text)

/-- `many` holds at least two entries. -/
def WellFormed : Stored → Prop
  | one _ => True
  | many entries => 2 ≤ entries.length

instance (value : Stored) : Decidable value.WellFormed :=
  match value with
  | one _ => isTrue trivial
  | many entries => inferInstanceAs (Decidable (2 ≤ entries.length))

@[simp] theorem entries_append (value : Stored) (entry : Entry) :
    (value.append entry).entries = value.entries ++ [entry] := by
  cases value <;> rfl

theorem entries_append? (stored : Option Stored) (entry : Entry) :
    (append? stored entry).entries = (stored.elim [] entries) ++ [entry] := by
  cases stored with
  | none => rfl
  | some value => exact entries_append value entry

theorem entries_of_ofEntries? {list : List Entry} {value : Stored}
    (h : ofEntries? list = some value) : value.entries = list := by
  match list with
  | [] => simp [ofEntries?] at h
  | [_] => simp only [ofEntries?, Option.some.injEq] at h; subst h; rfl
  | _ :: _ :: _ => simp only [ofEntries?, Option.some.injEq] at h; subst h; rfl

theorem wellFormed_of_ofEntries? {list : List Entry} {value : Stored}
    (h : ofEntries? list = some value) : value.WellFormed := by
  match list with
  | [] => simp [ofEntries?] at h
  | [_] => simp only [ofEntries?, Option.some.injEq] at h; subst h; trivial
  | _ :: _ :: _ => simp only [ofEntries?, Option.some.injEq] at h; subst h; simp [WellFormed]

end Stored

end ConfigEditor
