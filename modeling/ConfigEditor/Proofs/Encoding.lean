import ConfigEditor.Encoding
set_option autoImplicit false

/-!
# Encodings: what is encoded is decoded

In UTF-8 each character is decoded from its own bytes, whatever follows (`decode_encodeChar`),
so the bytes of a text are decoded as that text (`decode_encode`).  The other way round, the bytes
that a character is decoded from are its own: overlong forms fall to the least number that a form
is for, surrogates and numbers that are too great to the test for scalar values.  So exactly the
bytes of a text are decoded as it (`decode_eq_some_iff`).

A source with these bytes is the text without a byte order mark (`decode_encoded`).
-/

namespace ConfigEditor

namespace Utf8

theorem toNat_byte {n : Nat} (h : n < 0x100) : (byte n).toNat = n := by
  unfold byte
  rw [UInt8.toNat_ofNat']
  exact Nat.mod_eq_of_lt h

/-- The six bits of a byte that was written to continue a character. -/
theorem tail?_byte {n : Nat} (h : n < 0x40) : tail? (byte (0x80 + n)) = some n := by
  have hbyte := toNat_byte (n := 0x80 + n) (by omega)
  unfold tail?
  rw [hbyte, if_pos (by omega), Nat.add_sub_cancel_left]

/-- Characters are the scalar values. -/
theorem isScalar (c : Char) : c.toNat < 0xD800 ∨ 0xE000 ≤ c.toNat ∧ c.toNat < 0x110000 := by
  have hvalid : c.toNat.isValidChar := c.valid
  unfold Nat.isValidChar at hvalid
  omega

theorem toNat_ofNat {n : Nat} (h : n < 0xD800 ∨ 0xE000 ≤ n ∧ n < 0x110000) :
    (Char.ofNat n).toNat = n := by
  have hvalid : n.isValidChar := by
    unfold Nat.isValidChar
    omega
  rw [Char.ofNat, dif_pos hvalid]
  rfl

theorem scalar?_toNat {c : Char} {least : Nat} (h : least ≤ c.toNat) :
    scalar? least c.toNat = some c := by
  have hscalar := isScalar c
  unfold scalar?
  rw [if_pos ⟨h, hscalar⟩, Char.ofNat_toNat]

/-- A character is decoded from its own bytes. -/
theorem decode_encodeChar (c : Char) (rest : Bytes) :
    decode (encodeChar c ++ rest) = (decode rest).map (c :: ·) := by
  have hscalar := isScalar c
  unfold encodeChar
  simp only
  split
  · -- one byte
    have hlead := toNat_byte (n := c.toNat) (by omega)
    rw [List.singleton_append, decode.eq_def]
    simp only [hlead]
    rw [if_pos (by omega), Char.ofNat_toNat]
  · split
    · -- two bytes
      have hlead := toNat_byte (n := 0xC0 + c.toNat / 0x40) (by omega)
      have hone := tail?_byte (n := c.toNat % 0x40) (by omega)
      have hsum : (0xC0 + c.toNat / 0x40 - 0xC0) * 0x40 + c.toNat % 0x40 = c.toNat := by omega
      have hchar : two? (byte (0xC0 + c.toNat / 0x40)) (byte (0x80 + c.toNat % 0x40)) = some c := by
        simp only [two?, hone, hlead, hsum]
        rw [if_pos (by omega)]
        exact scalar?_toNat (by omega)
      rw [List.cons_append, List.singleton_append, decode.eq_def]
      simp only [hlead, hchar]
      rw [if_neg (by omega), if_pos (by omega)]
    · split
      · -- three bytes
        have hlead := toNat_byte (n := 0xE0 + c.toNat / 0x1000) (by omega)
        have hone := tail?_byte (n := c.toNat / 0x40 % 0x40) (by omega)
        have htwo := tail?_byte (n := c.toNat % 0x40) (by omega)
        have hsum : (0xE0 + c.toNat / 0x1000 - 0xE0) * 0x1000 + c.toNat / 0x40 % 0x40 * 0x40
            + c.toNat % 0x40 = c.toNat := by omega
        have hchar : three? (byte (0xE0 + c.toNat / 0x1000)) (byte (0x80 + c.toNat / 0x40 % 0x40))
            (byte (0x80 + c.toNat % 0x40)) = some c := by
          simp only [three?, hone, htwo, hlead, hsum]
          exact scalar?_toNat (by omega)
        rw [List.cons_append, List.cons_append, List.singleton_append, decode.eq_def]
        simp only [hlead, hchar]
        rw [if_neg (by omega), if_neg (by omega), if_pos (by omega)]
      · -- four bytes
        have hlead := toNat_byte (n := 0xF0 + c.toNat / 0x40000) (by omega)
        have hone := tail?_byte (n := c.toNat / 0x1000 % 0x40) (by omega)
        have htwo := tail?_byte (n := c.toNat / 0x40 % 0x40) (by omega)
        have hthree := tail?_byte (n := c.toNat % 0x40) (by omega)
        have hsum : (0xF0 + c.toNat / 0x40000 - 0xF0) * 0x40000 + c.toNat / 0x1000 % 0x40 * 0x1000
            + c.toNat / 0x40 % 0x40 * 0x40 + c.toNat % 0x40 = c.toNat := by omega
        have hchar : four? (byte (0xF0 + c.toNat / 0x40000))
            (byte (0x80 + c.toNat / 0x1000 % 0x40)) (byte (0x80 + c.toNat / 0x40 % 0x40))
            (byte (0x80 + c.toNat % 0x40)) = some c := by
          simp only [four?, hone, htwo, hthree, hlead, hsum]
          exact scalar?_toNat (by omega)
        rw [List.cons_append, List.cons_append, List.cons_append, List.singleton_append,
          decode.eq_def]
        simp only [hlead, hchar]
        rw [if_neg (by omega), if_neg (by omega), if_neg (by omega)]

/-- What is encoded is decoded. -/
theorem decode_encode (s : Text) : decode (encode s) = some s := by
  unfold encode
  induction s with
  | nil => rw [List.flatMap_nil, decode]
  | cons c s ih => rw [List.flatMap_cons, decode_encodeChar, ih, Option.map_some]

/-! ## Only what is encoded is decoded -/

theorem byte_toNat (b : UInt8) : byte b.toNat = b := UInt8.ofNat_toNat

theorem of_tail? {b : UInt8} {bits : Nat} (h : tail? b = some bits) :
    b.toNat = 0x80 + bits ∧ bits < 0x40 := by
  unfold tail? at h
  split at h
  · obtain rfl := Option.some.inj h
    omega
  · cases h

theorem of_scalar? {least n : Nat} {c : Char} (h : scalar? least n = some c) :
    c.toNat = n ∧ least ≤ n := by
  unfold scalar? at h
  split at h
  · rename_i hscalar
    obtain rfl := Option.some.inj h
    exact ⟨toNat_ofNat hscalar.2, hscalar.1⟩
  · cases h

theorem encodeChar_of_one {a : UInt8} (h : a.toNat < 0x80) :
    encodeChar (Char.ofNat a.toNat) = [a] := by
  have hchar : (Char.ofNat a.toNat).toNat = a.toNat := toNat_ofNat (.inl (by omega))
  simp only [encodeChar, hchar]
  rw [if_pos h, byte_toNat]

theorem encodeChar_of_two {a b : UInt8} {c : Char} (ha : a.toNat < 0xE0)
    (h : two? a b = some c) : encodeChar c = [a, b] := by
  unfold two? at h
  split at h
  · rename_i x hx
    obtain ⟨hb, _⟩ := of_tail? hx
    split at h
    · obtain ⟨hchar, hleast⟩ := of_scalar? h
      have hfirst : 0xC0 + c.toNat / 0x40 = a.toNat := by omega
      have hsecond : 0x80 + c.toNat % 0x40 = b.toNat := by omega
      simp only [encodeChar, hfirst, hsecond, byte_toNat]
      rw [if_neg (by omega), if_pos (by omega)]
    · cases h
  · cases h

theorem encodeChar_of_three {a b c : UInt8} {ch : Char} (hlow : 0xE0 ≤ a.toNat)
    (ha : a.toNat < 0xF0) (h : three? a b c = some ch) : encodeChar ch = [a, b, c] := by
  unfold three? at h
  split at h
  · rename_i x y hx hy
    obtain ⟨hb, _⟩ := of_tail? hx
    obtain ⟨hc, _⟩ := of_tail? hy
    obtain ⟨hchar, hleast⟩ := of_scalar? h
    have hfirst : 0xE0 + ch.toNat / 0x1000 = a.toNat := by omega
    have hsecond : 0x80 + ch.toNat / 0x40 % 0x40 = b.toNat := by omega
    have hthird : 0x80 + ch.toNat % 0x40 = c.toNat := by omega
    simp only [encodeChar, hfirst, hsecond, hthird, byte_toNat]
    rw [if_neg (by omega), if_neg (by omega), if_pos (by omega)]
  · cases h

theorem encodeChar_of_four {a b c d : UInt8} {ch : Char} (hlow : 0xF0 ≤ a.toNat)
    (h : four? a b c d = some ch) : encodeChar ch = [a, b, c, d] := by
  unfold four? at h
  split at h
  · rename_i x y z hx hy hz
    obtain ⟨hb, _⟩ := of_tail? hx
    obtain ⟨hc, _⟩ := of_tail? hy
    obtain ⟨hd, _⟩ := of_tail? hz
    obtain ⟨hchar, hleast⟩ := of_scalar? h
    have hfirst : 0xF0 + ch.toNat / 0x40000 = a.toNat := by omega
    have hsecond : 0x80 + ch.toNat / 0x1000 % 0x40 = b.toNat := by omega
    have hthird : 0x80 + ch.toNat / 0x40 % 0x40 = c.toNat := by omega
    have hfourth : 0x80 + ch.toNat % 0x40 = d.toNat := by omega
    simp only [encodeChar, hfirst, hsecond, hthird, hfourth, byte_toNat]
    rw [if_neg (by omega), if_neg (by omega), if_neg (by omega)]
  · cases h

/-- Behind the bytes of a character stand those of the rest. -/
theorem append_eq_encode {first rest : Bytes} {c : Char} {s : Text} (hfirst : encodeChar c = first)
    (hrest : ∀ {tail}, decode rest = some tail → rest = encode tail)
    (h : (decode rest).map (c :: ·) = some s) : first ++ rest = encode s := by
  obtain ⟨tail, htail, rfl⟩ := Option.map_eq_some_iff.mp h
  rw [hrest htail, ← hfirst]
  rfl

/-- Bytes that are decoded are those of the text. -/
theorem eq_encode_of_decode {bytes : Bytes} {s : Text} (h : decode bytes = some s) :
    bytes = encode s := by
  fun_induction decode bytes generalizing s with
  | case1 =>
      obtain rfl := Option.some.inj h
      rfl
  | case2 a rest ha ih => exact append_eq_encode (encodeChar_of_one ha) ih h
  | case3 a _ ha b rest c hc ih => exact append_eq_encode (encodeChar_of_two ha hc) ih h
  | case6 a _ hlow ha b c rest ch hch ih =>
      exact append_eq_encode (encodeChar_of_three (Nat.le_of_not_lt hlow) ha hch) ih h
  | case9 a _ _ hlow b c d rest ch hch ih =>
      exact append_eq_encode (encodeChar_of_four (Nat.le_of_not_lt hlow) hch) ih h
  | case4 | case5 | case7 | case8 | case10 | case11 => cases h

/-- Exactly the bytes of a text are decoded as it. -/
theorem decode_eq_some_iff {bytes : Bytes} {s : Text} :
    decode bytes = some s ↔ bytes = encode s :=
  ⟨eq_encode_of_decode, fun h => h ▸ decode_encode s⟩

end Utf8

theorem Encoding.ofLabel?_defaultLabel : ofLabel? defaultLabel = some utf8 := by decide +kernel

/-- Encoded in UTF-8 and read without a name for the encoding, a text loses its byte order mark
only. -/
theorem Source.decode_encoded (text : Text) :
    (Source.bytes (Utf8.encode text)).decode Encoding.defaultLabel
      = .ok (Encoding.dropMark text) := by
  simp [decode, Encoding.ofLabel?_defaultLabel, Encoding.decode, Utf8.decode_encode]

end ConfigEditor
