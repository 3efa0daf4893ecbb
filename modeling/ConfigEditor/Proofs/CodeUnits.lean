import ConfigEditor.Proofs.Encoding
set_option autoImplicit false

/-!
# Code units: the rows that are texts

The units of a text are taken as that text (`Utf16.ofUnits_units`), and no other row of units is:
where a row is taken as a text, it is the units of that text (`Utf16.units_of_ofUnits`).  An encoder
takes any row, and the row that it takes it for is the same one exactly if each surrogate in it has
its partner (`Utf16.units_repair_eq_iff`).
-/

namespace ConfigEditor

namespace Text

/-- A character is one unit that is no surrogate, or the two surrogates that are joined to it. -/
theorem charUnits_cases (c : Char) :
    (charUnits c = [c.toNat] ∧ isLeadUnit c.toNat = false ∧ isTrailUnit c.toNat = false) ∨
      ∃ lead trail, charUnits c = [lead, trail] ∧ isLeadUnit lead = true ∧
        isTrailUnit trail = true ∧ joinUnits lead trail = c.toNat := by
  have hscalar := Utf8.isScalar c
  unfold charUnits isLeadUnit isTrailUnit joinUnits
  split
  · left
    simp only [Bool.and_eq_false_iff, decide_eq_false_iff_not, true_and]
    omega
  · right
    refine ⟨_, _, rfl, ?_⟩
    simp only [Bool.and_eq_true, decide_eq_true_eq]
    omega

/-- A unit that is no surrogate is a character. -/
theorem charUnits_ofNat {n : Nat} (hbound : n < 0x10000) (hlead : isLeadUnit n = false)
    (htrail : isTrailUnit n = false) : charUnits (Char.ofNat n) = [n] := by
  have hscalar : n < 0xD800 ∨ 0xE000 ≤ n ∧ n < 0x110000 := by
    simp only [isLeadUnit, isTrailUnit, Bool.and_eq_false_iff, decide_eq_false_iff_not]
      at hlead htrail
    omega
  unfold charUnits
  rw [Utf8.toNat_ofNat hscalar, if_pos hbound]

/-- Two surrogates that are partners are the units of the character that they are joined to. -/
theorem charUnits_joinUnits {lead trail : Nat} (hlead : isLeadUnit lead = true)
    (htrail : isTrailUnit trail = true) :
    charUnits (Char.ofNat (joinUnits lead trail)) = [lead, trail] := by
  simp only [isLeadUnit, isTrailUnit, Bool.and_eq_true, decide_eq_true_eq] at hlead htrail
  have hscalar : joinUnits lead trail < 0xD800 ∨
      0xE000 ≤ joinUnits lead trail ∧ joinUnits lead trail < 0x110000 := by
    unfold joinUnits
    omega
  have hfirst : 0xD800 + (joinUnits lead trail - 0x10000) / 0x400 = lead := by
    unfold joinUnits
    omega
  have hsecond : 0xDC00 + (joinUnits lead trail - 0x10000) % 0x400 = trail := by
    unfold joinUnits
    omega
  have habove : ¬ joinUnits lead trail < 0x10000 := by
    unfold joinUnits
    omega
  unfold charUnits
  rw [Utf8.toNat_ofNat hscalar, if_neg habove, hfirst, hsecond]

end Text

namespace Utf16

open Text

/-! ## Rows that are the units of a text -/

theorem ofUnits_cons {n : Nat} (hlead : isLeadUnit n = false) (htrail : isTrailUnit n = false)
    (rest : List Nat) : ofUnits (n :: rest) = (ofUnits rest).map (Char.ofNat n :: ·) := by
  cases rest with
  | nil => simp [ofUnits, hlead, htrail]
  | cons m rest => simp [ofUnits, hlead, htrail]

/-- The units of a text are taken as it. -/
theorem ofUnits_units (s : Text) : ofUnits s.units = some s := by
  induction s with
  | nil => rfl
  | cons c s ih =>
      have hunits : units (c :: s) = charUnits c ++ units s := rfl
      rcases charUnits_cases c with ⟨hone, hlead, htrail⟩ | ⟨lead, trail, htwo, hlead, htrail, hjoin⟩
      · rw [hunits, hone, List.singleton_append, ofUnits_cons hlead htrail, ih, Option.map_some,
          Char.ofNat_toNat]
      · rw [hunits, htwo, List.cons_append, List.singleton_append, ofUnits, if_pos hlead,
          if_pos htrail, ih, Option.map_some, hjoin, Char.ofNat_toNat]

/-- A row that is taken as a text is the row of its units. -/
theorem units_of_ofUnits {row : List Nat} {s : Text} (hbound : ∀ n ∈ row, n < 0x10000)
    (h : ofUnits row = some s) : s.units = row := by
  fun_induction ofUnits row generalizing s with
  | case1 =>
      obtain rfl := Option.some.inj h
      rfl
  | case2 n hlone => cases h
  | case3 n hplain =>
      obtain ⟨hlead, htrail⟩ := Bool.or_eq_false_iff.mp (Bool.eq_false_iff.mpr hplain)
      obtain rfl := Option.some.inj h
      exact (List.append_nil _).trans (charUnits_ofNat (hbound n List.mem_cons_self) hlead htrail)
  | case4 n m rest hlead htrail ih =>
      obtain ⟨tail, htail, rfl⟩ := Option.map_eq_some_iff.mp h
      have hrest := ih (fun k hk => hbound k (List.mem_cons_of_mem _ (List.mem_cons_of_mem _ hk)))
        htail
      rw [units, List.flatMap_cons, charUnits_joinUnits hlead htrail]
      exact congrArg ([n, m] ++ ·) hrest
  | case5 | case6 => cases h
  | case7 n m rest hlead htrail ih =>
      obtain ⟨tail, htail, rfl⟩ := Option.map_eq_some_iff.mp h
      have hrest := ih (fun k hk => hbound k (List.mem_cons_of_mem _ hk)) htail
      rw [units, List.flatMap_cons, charUnits_ofNat (hbound n List.mem_cons_self)
        (Bool.eq_false_iff.mpr hlead) (Bool.eq_false_iff.mpr htrail)]
      exact congrArg ([n] ++ ·) hrest

/-! ## What an encoder makes of a row -/

/-- A row that is taken as a text is repaired to it. -/
theorem repair_of_ofUnits {row : List Nat} {s : Text} (h : ofUnits row = some s) :
    repair row = s := by
  fun_induction ofUnits row generalizing s with
  | case1 => exact Option.some.inj h
  | case2 | case5 | case6 => cases h
  | case3 n hplain => rw [repair, if_neg hplain, Option.some.inj h]
  | case4 n m rest hlead htrail ih =>
      obtain ⟨tail, htail, rfl⟩ := Option.map_eq_some_iff.mp h
      rw [repair, if_pos hlead, if_pos htrail, ih htail]
  | case7 n m rest hlead htrail ih =>
      obtain ⟨tail, htail, rfl⟩ := Option.map_eq_some_iff.mp h
      rw [repair, if_neg hlead, if_neg htrail, ih htail]

theorem repair_units (s : Text) : repair s.units = s := repair_of_ofUnits (ofUnits_units s)

/-- An encoder writes the bytes of a text for its units. -/
theorem toUtf8_units (s : Text) : toUtf8 s.units = Utf8.encode s := by
  unfold toUtf8
  rw [repair_units]

/-- A row is repaired to itself exactly if each surrogate in it has its partner. -/
theorem units_repair_eq_iff {row : List Nat} (hbound : ∀ n ∈ row, n < 0x10000) :
    (repair row).units = row ↔ (ofUnits row).isSome = true := by
  constructor
  · intro h
    rw [← h, ofUnits_units]
    rfl
  · intro h
    obtain ⟨s, hs⟩ := Option.isSome_iff_exists.mp h
    rw [repair_of_ofUnits hs, units_of_ofUnits hbound hs]

end Utf16

end ConfigEditor
