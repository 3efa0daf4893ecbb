import ConfigEditor.Document.Stream
import ConfigEditor.Proofs.CodeUnits
set_option autoImplicit false

/-!
# Streams: texts and their bytes

What a binary sink receives are the bytes of what a text sink receives, and both are read in the
same way (`Document.streams_agree`).  Only bytes may start with a mark that is no part of the text.
A written document starts with a bracket, if with anything, so none of it is taken for a mark.

All this is about texts.  A row of code units may hold a surrogate without its partner.  A text
sink can be given such a row as it is, but a binary sink cannot, and what is read from the bytes
is U+FFFD in its place (`Document.lone_surrogate_replaced`).
-/

namespace ConfigEditor

/-! ## The byte order mark -/

/-- At most one mark is dropped, and nothing else. -/
theorem Encoding.dropMark_eq (text : Text) :
    dropMark text = if text.head? = some '\uFEFF' then text.tail else text := by
  cases text with
  | nil => rfl
  | cons c rest => simp [dropMark]

theorem Encoding.dropMark_eq_iff {whole text : Text} :
    dropMark whole = text ↔
      whole = '\uFEFF' :: text ∨ text.head? ≠ some '\uFEFF' ∧ whole = text := by
  rw [dropMark_eq]
  split
  · rename_i hmark
    obtain ⟨rest, rfl⟩ := List.head?_eq_some_iff.mp hmark
    constructor
    · rintro rfl
      exact .inl rfl
    · rintro (hwhole | ⟨hplain, rfl⟩)
      · exact (List.cons.inj hwhole).2
      · exact absurd hmark hplain
  · rename_i hplain
    constructor
    · rintro rfl
      exact .inr ⟨hplain, rfl⟩
    · rintro (rfl | ⟨-, rfl⟩)
      · exact absurd rfl hplain
      · rfl

/-- Bytes are read as a text exactly if they are its bytes, behind a mark or without one. -/
theorem Source.decode_bytes_eq_ok_iff {bytes : Bytes} {text : Text} :
    (Source.bytes bytes).decode Encoding.defaultLabel = .ok text ↔
      bytes = Utf8.encode ('\uFEFF' :: text) ∨
        text.head? ≠ some '\uFEFF' ∧ bytes = Utf8.encode text := by
  constructor
  · intro h
    cases hbytes : Utf8.decode bytes with
    | none => simp [decode, Encoding.ofLabel?_defaultLabel, Encoding.decode, hbytes] at h
    | some whole =>
        obtain rfl := Utf8.decode_eq_some_iff.mp hbytes
        rw [decode_encoded] at h
        rcases Encoding.dropMark_eq_iff.mp (Except.ok.inj h) with rfl | ⟨hplain, rfl⟩
        · exact .inl rfl
        · exact .inr ⟨hplain, rfl⟩
  · rintro (rfl | ⟨hplain, rfl⟩)
    · rw [decode_encoded, Encoding.dropMark_eq_iff.mpr (.inl rfl)]
    · rw [decode_encoded, Encoding.dropMark_eq_iff.mpr (.inr ⟨hplain, rfl⟩)]

/-! ## Written documents -/

/-- A written document starts with a bracket, if with anything, and never with a byte order
mark. -/
theorem Document.dropMark_toText (doc : Document) :
    Encoding.dropMark doc.toText = doc.toText := by
  unfold toText lines
  cases doc.sectionList with
  | nil => rfl
  | cons s sections => rfl

theorem Document.ofSource_toBytes (doc : Document) :
    ofSource (.bytes doc.toBytes) Encoding.defaultLabel = ofText doc.toText := by
  unfold ofSource toBytes
  rw [Source.decode_encoded, dropMark_toText]

/-- Both sinks receive the same text, one of them in bytes that are read as it.  A text in bytes
is read as the text itself, but for one mark at its start; and the bytes are its bytes, behind a
mark or without one, and no others.  The bytes of any row of code units are read as the row
repaired, which is the same row exactly if each surrogate in it has its partner. -/
theorem Document.streams_agree :
    (∀ doc : Document, doc.write .text = .text doc.toText ∧
      doc.write .binary = .bytes doc.toBytes ∧
      doc.toBytes = Utf16.toUtf8 doc.toText.units ∧
      (Source.bytes doc.toBytes).decode Encoding.defaultLabel = .ok doc.toText ∧
      ofSource (.bytes doc.toBytes) Encoding.defaultLabel
        = ofSource (.text doc.toText) Encoding.defaultLabel) ∧
    (∀ text, ofSource (.bytes (Utf8.encode text)) Encoding.defaultLabel
      = ofText (if text.head? = some '\uFEFF' then text.tail else text)) ∧
    (∀ bytes text, (Source.bytes bytes).decode Encoding.defaultLabel = .ok text ↔
      bytes = Utf8.encode ('\uFEFF' :: text) ∨
        text.head? ≠ some '\uFEFF' ∧ bytes = Utf8.encode text) ∧
    ∀ row : List UInt16,
      ofSource (.bytes (Utf16.toUtf8 (row.map UInt16.toNat))) Encoding.defaultLabel
        = ofText (Encoding.dropMark (Utf16.repair (row.map UInt16.toNat))) ∧
      ((Utf16.repair (row.map UInt16.toNat)).units = row.map UInt16.toNat ↔
        (Utf16.ofUnits (row.map UInt16.toNat)).isSome = true) := by
  refine ⟨?_, ?_, fun bytes text => Source.decode_bytes_eq_ok_iff, ?_⟩
  · intro doc
    have hread : (Source.bytes doc.toBytes).decode Encoding.defaultLabel = .ok doc.toText := by
      rw [toBytes, Source.decode_encoded, dropMark_toText]
    exact ⟨rfl, rfl, (Utf16.toUtf8_units doc.toText).symm, hread, doc.ofSource_toBytes⟩
  · intro text
    unfold ofSource
    rw [Source.decode_encoded, Encoding.dropMark_eq]
  · intro row
    have hbound : ∀ n ∈ row.map UInt16.toNat, n < 0x10000 := by
      intro n hn
      obtain ⟨unit, -, rfl⟩ := List.mem_map.mp hn
      exact unit.toNat_lt
    refine ⟨?_, Utf16.units_repair_eq_iff hbound⟩
    unfold ofSource Utf16.toUtf8
    rw [Source.decode_encoded]

/-- The row of code units of `[a]` with one value, a surrogate without its partner. -/
def Document.loneSurrogate : List Nat :=
  Text.units "[a]\n\tk = ".toList ++ 0xD800 :: Text.units "\n".toList

/-- The bytes that are written for a surrogate without its partner are read as U+FFFD, and so not
as the row of units that they were written for. -/
theorem Document.lone_surrogate_replaced :
    (Source.bytes (Utf16.toUtf8 loneSurrogate)).decode Encoding.defaultLabel
        = .ok "[a]\n\tk = \uFFFD\n".toList ∧
      Text.units "[a]\n\tk = \uFFFD\n".toList ≠ loneSurrogate ∧
      (ofSource (.bytes (Utf16.toUtf8 loneSurrogate)) Encoding.defaultLabel).map toText
        = .ok "[a]\n\tk = \uFFFD\n".toList := by
  have htext : Encoding.dropMark (Utf16.repair loneSurrogate) = "[a]\n\tk = \uFFFD\n".toList := by
    decide +kernel
  refine ⟨?_, by decide +kernel, ?_⟩
  · rw [Utf16.toUtf8, Source.decode_encoded, htext]
  · unfold ofSource Utf16.toUtf8
    rw [Source.decode_encoded, htext]
    rfl

end ConfigEditor
