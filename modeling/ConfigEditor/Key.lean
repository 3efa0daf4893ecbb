import ConfigEditor.Fault
import ConfigEditor.Text.CharClass
import ConfigEditor.Text.Lower
set_option autoImplicit false

/-!
# Keys: the names of options

A key is a letter followed by letters, digits and hyphens, all of ASCII.  Case does
not count: documents hold keys in lower case only (`normalize`), and a look-up
normalizes what it is given without asking whether it is a key at all.

`normalize_of_isValid`: on a valid key, normalizing is ASCII lower-casing, and its
result is valid and normal again (`isValid_normalize`, `normalize_normalize`).
-/

namespace ConfigEditor.Key

/-- A letter followed by letters, digits and hyphens. -/
def isValid : Text → Bool
  | [] => false
  | c :: rest => c.isAlpha && rest.all Text.isKeyChar

/-- The form under which a key is stored and looked up: trimmed, in lower case. -/
def normalize (raw : Text) : Text := raw.trim.lower

/-- The normal form of a key as a caller writes it, white space around it allowed. -/
def parse (raw : Text) : Except Refusal Text :=
  if isValid raw.trim then .ok (normalize raw.trim) else .error (.key raw)

theorem isKeyChar_of_mem_of_isValid {key : Text} (h : isValid key = true) :
    ∀ c ∈ key, Text.isKeyChar c = true := by
  cases key with
  | nil => simp [isValid] at h
  | cons c rest =>
    simp only [isValid, Bool.and_eq_true, List.all_eq_true] at h
    intro d hd
    rcases List.mem_cons.mp hd with rfl | hd
    · exact Text.isKeyChar_of_isAlpha h.1
    · exact h.2 d hd

/-- A valid key holds no white space, so trimming leaves it alone. -/
theorem trim_of_isValid {key : Text} (h : isValid key = true) : key.trim = key :=
  Text.trim_eq_self_of_forall fun c hc =>
    Text.isBlank_of_isNameChar
      (Text.isNameChar_of_isKeyChar (isKeyChar_of_mem_of_isValid h c hc))

/-- On a valid key normalizing is lower-casing in ASCII. -/
theorem normalize_of_isValid {key : Text} (h : isValid key = true) :
    normalize key = key.map Char.toLower := by
  rw [normalize, trim_of_isValid h]
  exact Text.lower_of_ascii fun c hc =>
    Text.toNat_lt_of_isKeyChar (isKeyChar_of_mem_of_isValid h c hc)

/-- Lower-casing a letter gives a letter. -/
theorem isAlpha_toLower {c : Char} (h : c.isAlpha = true) : c.toLower.isAlpha = true :=
  Text.forall_ascii (p := fun c => c.isAlpha = true → c.toLower.isAlpha = true) (by decide)
    (Text.toNat_lt_of_isKeyChar (Text.isKeyChar_of_isAlpha h)) h

/-- Lower-casing a second time changes nothing. -/
theorem toLower_toLower {c : Char} (h : Text.isKeyChar c = true) :
    c.toLower.toLower = c.toLower :=
  Text.forall_ascii (p := fun c => c.toLower.toLower = c.toLower) (by decide)
    (Text.toNat_lt_of_isKeyChar h)

/-- The normal form of a valid key is valid. -/
theorem isValid_normalize {key : Text} (h : isValid key = true) :
    isValid (normalize key) = true := by
  rw [normalize_of_isValid h]
  cases key with
  | nil => simp [isValid] at h
  | cons c rest =>
    simp only [isValid, Bool.and_eq_true, List.all_eq_true] at h
    simp only [List.map_cons, isValid, Bool.and_eq_true, List.all_eq_true, List.mem_map]
    refine ⟨isAlpha_toLower h.1, ?_⟩
    rintro d ⟨e, he, rfl⟩
    exact Text.isKeyChar_toLower (h.2 e he)

/-- The normal form of a valid key is normal. -/
theorem normalize_normalize {key : Text} (h : isValid key = true) :
    normalize (normalize key) = normalize key := by
  rw [normalize_of_isValid (isValid_normalize h), normalize_of_isValid h, List.map_map]
  exact List.map_congr_left fun c hc => toLower_toLower (isKeyChar_of_mem_of_isValid h c hc)

end ConfigEditor.Key
