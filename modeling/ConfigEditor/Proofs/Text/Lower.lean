import ConfigEditor.Key
set_option autoImplicit false

/-!
# Lower-casing into keys

Keys are ASCII, and lower-casing is not: which texts become keys by it?  Of all characters outside
ASCII only the Kelvin sign becomes a letter, digit or hyphen (`isKeyChar_lowerChar`), which is read
off the table of lower cases, run by run.  So lower-casing makes a key of exactly the texts that
are keys once each Kelvin sign is taken for the letter that it looks like (`isValid_lower_iff`),
and then it makes the same of both (`lower_of_withoutKelvin`).
-/

namespace ConfigEditor

namespace Text

/-- The Kelvin sign, whose lower case is the letter `k`. -/
def kelvinSign : Char := '\u212A'

/-- A Kelvin sign taken for the letter. -/
def plainChar (c : Char) : Char := if c = kelvinSign then 'k' else c

/-- A text with every Kelvin sign taken for the letter. -/
def withoutKelvin (s : Text) : Text := s.map plainChar

theorem plainChar_of_ne {c : Char} (h : c ≠ kelvinSign) : plainChar c = c := if_neg h

theorem withoutKelvin_eq_self {s : Text} (h : kelvinSign ∉ s) : withoutKelvin s = s := by
  have hplain : ∀ c ∈ s, plainChar c = id c := by
    intro c hc
    refine plainChar_of_ne ?_
    rintro rfl
    exact h hc
  rw [withoutKelvin, List.map_congr_left hplain, List.map_id]

/-! ## The table of lower cases -/

/-- No run leads from outside ASCII into it, but for the one of the Kelvin sign. -/
theorem lowerRuns_outside_ascii : ∀ r ∈ lowerRuns,
    r.last < 0x80 ∨ (0x80 : Int) ≤ r.first + r.offset ∨
      r.first = kelvinSign.toNat ∧ r.last = kelvinSign.toNat := by
  decide +kernel

theorem le_map_lowerRuns {n : Nat} (hn : 0x80 ≤ n) (hkelvin : n ≠ kelvinSign.toNat) :
    0x80 ≤ CaseRun.map lowerRuns n := by
  unfold CaseRun.map
  split
  · rename_i r hfind
    have hcovers := List.find?_some hfind
    simp only [CaseRun.covers, Bool.and_eq_true, decide_eq_true_eq] at hcovers
    obtain ⟨⟨hfirst, hlast⟩, -⟩ := hcovers
    rcases lowerRuns_outside_ascii r (List.mem_of_find?_eq_some hfind) with h | h | ⟨h, h'⟩
    · omega
    · omega
    · omega
  · exact hn

/-- A number outside ASCII is no character of a key. -/
theorem isKeyChar_ofNat {n : Nat} (hn : 0x80 ≤ n) : isKeyChar (Char.ofNat n) = false := by
  by_cases hvalid : n.isValidChar
  · have hcode : (Char.ofNat n).toNat = n := by
      rw [Char.ofNat, dif_pos hvalid]
      rfl
    rw [Bool.eq_false_iff]
    intro hkey
    have hascii := toNat_lt_of_isKeyChar hkey
    omega
  · have hzero : Char.ofNat n = '\x00' := by
      rw [Char.ofNat, dif_neg hvalid]
      rfl
    rw [hzero]
    rfl

/-! ## Characters -/

/-- Only characters of keys and the Kelvin sign become characters of keys. -/
theorem isKeyChar_lowerChar (c : Char) :
    isKeyChar (lowerChar c) = isKeyChar (plainChar c) := by
  by_cases hkelvin : c = kelvinSign
  · subst hkelvin
    decide +kernel
  · rw [plainChar_of_ne hkelvin]
    by_cases hc : c.toNat < 0x80
    · rw [lowerChar_eq_toLower hc]
      exact forall_ascii (p := fun c => isKeyChar c.toLower = isKeyChar c) (by decide) hc
    · have hne : c.toNat ≠ kelvinSign.toNat := fun e => hkelvin (by
        rw [← Char.ofNat_toNat c, e, Char.ofNat_toNat])
      have hlower := isKeyChar_ofNat (le_map_lowerRuns (Nat.le_of_not_lt hc) hne)
      have hself := isKeyChar_ofNat (Nat.le_of_not_lt hc)
      rw [Char.ofNat_toNat] at hself
      rw [lowerChar, if_neg hc, hlower, hself]

/-- The two letters whose lower case is not taken from the table alone are none of keys. -/
theorem exists_lowerBetween (before : Text) (c : Char) (after : Text) :
    isKeyChar (plainChar c) = true ∧ lowerBetween before c after = [lowerChar c] ∨
      isKeyChar (plainChar c) = false ∧
        ∃ d ∈ lowerBetween before c after, isKeyChar d = false := by
  by_cases hsigma : c = '\u03A3'
  · subst hsigma
    refine .inr ⟨by decide +kernel, ?_⟩
    simp only [lowerBetween, beq_self_eq_true, if_true]
    split
    · exact ⟨'\u03C2', List.mem_singleton_self _, by decide +kernel⟩
    · exact ⟨'\u03C3', List.mem_singleton_self _, by decide +kernel⟩
  · by_cases hdotted : c = '\u0130'
    · subst hdotted
      exact .inr ⟨by decide +kernel, '\u0307', by simp [lowerBetween], by decide +kernel⟩
    · have hplain : lowerBetween before c after = [lowerChar c] := by
        simp [lowerBetween, hsigma, hdotted]
      cases hkey : isKeyChar (plainChar c) with
      | true => exact .inl ⟨rfl, hplain⟩
      | false =>
          refine .inr ⟨rfl, lowerChar c, ?_, (isKeyChar_lowerChar c).trans hkey⟩
          rw [hplain]
          exact List.mem_singleton_self _

theorem lowerChar_of_isKeyChar {c : Char} (h : isKeyChar (plainChar c) = true) :
    lowerChar c = (plainChar c).toLower := by
  by_cases hkelvin : c = kelvinSign
  · subst hkelvin
    decide +kernel
  · rw [plainChar_of_ne hkelvin] at h ⊢
    exact lowerChar_eq_toLower (toNat_lt_of_isKeyChar h)

/-! ## Texts -/

/-- Where every character is one of keys, lower-casing is that of ASCII. -/
theorem lower_of_withoutKelvin {s : Text} (h : ∀ c ∈ withoutKelvin s, isKeyChar c = true) :
    lower s = (withoutKelvin s).map Char.toLower := by
  have hfrom : ∀ before, lowerFrom before s = (withoutKelvin s).map Char.toLower := by
    unfold withoutKelvin at h ⊢
    induction s with
    | nil => exact fun _ => rfl
    | cons c rest ih =>
        intro before
        rw [List.map_cons] at h
        have hc := h _ List.mem_cons_self
        rcases exists_lowerBetween before c rest with ⟨-, hone⟩ | ⟨hkey, -⟩
        · rw [lowerFrom, hone, ih fun d hd => h d (List.mem_cons_of_mem _ hd),
            lowerChar_of_isKeyChar hc]
          rfl
        · rw [hkey] at hc
          cases hc
  exact hfrom []

/-- If lower-casing leaves characters of keys only, there were none but these and Kelvin signs. -/
theorem isKeyChar_of_lower {s : Text} (h : ∀ c ∈ lower s, isKeyChar c = true) :
    ∀ c ∈ withoutKelvin s, isKeyChar c = true := by
  have hfrom : ∀ before, (∀ c ∈ lowerFrom before s, isKeyChar c = true) →
      ∀ c ∈ withoutKelvin s, isKeyChar c = true := by
    clear h
    unfold withoutKelvin
    induction s with
    | nil => simp
    | cons c rest ih =>
        intro before h
        have hrest := ih (c :: before) fun d hd => h d (List.mem_append_right _ hd)
        rcases exists_lowerBetween before c rest with ⟨hkey, -⟩ | ⟨-, d, hd, hbad⟩
        · intro d hd
          rcases List.mem_cons.mp hd with rfl | hd
          · exact hkey
          · exact hrest d hd
        · rw [h d (List.mem_append_left _ hd)] at hbad
          cases hbad
  exact hfrom [] h

end Text

namespace Key

theorem lower_of_isValid_withoutKelvin {s : Text} (h : isValid s.withoutKelvin = true) :
    s.lower = s.withoutKelvin.map Char.toLower :=
  Text.lower_of_withoutKelvin (isKeyChar_of_mem_of_isValid h)

/-- Case does not matter to what a key is. -/
theorem isValid_map_toLower {s : Text} (h : ∀ c ∈ s, Text.isKeyChar c = true) :
    isValid (s.map Char.toLower) = isValid s := by
  cases s with
  | nil => rfl
  | cons c rest =>
      have halpha : c.toLower.isAlpha = c.isAlpha :=
        Text.forall_ascii (p := fun c => c.toLower.isAlpha = c.isAlpha) (by decide)
          (Text.toNat_lt_of_isKeyChar (h c List.mem_cons_self))
      have hrest : ∀ d ∈ rest, Text.isKeyChar d = true := fun d hd =>
        h d (List.mem_cons_of_mem c hd)
      have hlower : (rest.map Char.toLower).all Text.isKeyChar = true := by
        simpa using fun d hd => Text.isKeyChar_toLower (hrest d hd)
      have hall : rest.all Text.isKeyChar = true := by simpa using hrest
      simp only [List.map_cons, isValid, halpha, hlower, hall]

/-- Lower-casing makes a key of exactly the texts that are keys once each Kelvin sign is taken for
the letter. -/
theorem isValid_lower_iff (s : Text) :
    isValid s.lower = true ↔ isValid s.withoutKelvin = true := by
  constructor
  · intro h
    have hchars := Text.isKeyChar_of_lower (isKeyChar_of_mem_of_isValid h)
    rwa [Text.lower_of_withoutKelvin hchars, isValid_map_toLower hchars] at h
  · intro h
    rw [lower_of_isValid_withoutKelvin h,
      isValid_map_toLower (isKeyChar_of_mem_of_isValid h)]
    exact h

/-- What is a key once each Kelvin sign is taken for the letter has the normal form of that key. -/
theorem normalize_eq_of_withoutKelvin {raw : Text} (h : isValid raw.trim.withoutKelvin = true) :
    normalize raw = normalize raw.trim.withoutKelvin := by
  rw [normalize_of_isValid h, normalize, lower_of_isValid_withoutKelvin h]

end Key

end ConfigEditor
