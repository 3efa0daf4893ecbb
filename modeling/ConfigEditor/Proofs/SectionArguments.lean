import ConfigEditor.Proofs.Document.WellFormed
set_option autoImplicit false

/-!
# Section arguments: which section is meant

An argument is read in one of two forms.  With a double quote, or without a dot, it is an identity;
otherwise it is the dotted form, and its first dot ends the name (`resolve_of_quote`,
`resolve_of_no_dot`, `resolve_of_dot`).  A section can be named in either form, but not every
section in both.

* As an identity it is found by its own, unless it has no subsection and a dot in its name: then
  the identity is also the dotted form of another section, and that one is meant
  (`resolve_identity_iff`).
* As a dotted name it is found if its subsection is quoted plainly, that is, with no escape but
  the one of the backslash, and not otherwise (`Document.resolve_dotted_iff`).  A double quote in
  the subsection makes an identity of the dotted name, one of another section or of none.  Of any
  other escape the dotted name shows nothing, and a backslash too many belongs to the identity.
-/

namespace ConfigEditor

namespace SectionId

/-! ## The two forms -/

theorem resolve_of_quote {input : Text} (h : '"' ∈ input) : resolve input = ofHeader input := by
  simp [resolve, h]

theorem resolve_of_no_dot {input : Text} (h : '.' ∉ input) : resolve input = ofHeader input := by
  simp [resolve, h]

/-- The dotted form: what stands before the first dot, and all that stands behind it. -/
theorem resolve_of_dot {front sub : Text} (hdot : '.' ∉ front)
    (hquote : '"' ∉ front ++ '.' :: sub) :
    resolve (front ++ '.' :: sub) = make front (some sub) := by
  have hidentity : (front ++ '.' :: sub).contains '"' = false := by simpa using hquote
  have hdotted : (front ++ '.' :: sub).contains '.' = true := by simp
  unfold resolve
  rw [hidentity, hdotted, Text.takeWhile_ne_append hdot, Text.dropWhile_ne_append hdot]
  rfl

/-- An id that is made has the name and the subsection it is made of. -/
theorem of_make {name : Text} {sub : Option Text} {id : SectionId} (h : make name sub = .ok id) :
    id.identity = spell name (sub.map EscapeCodec.subsection.escape) ∧ id.name = name ∧
      id.subsection = sub := by
  unfold make at h
  split at h
  · cases h
    exact ⟨rfl, rfl, rfl⟩
  · cases h

/-- No name holds a double quote. -/
theorem quote_not_mem_of_isValidName {name : Text} (h : isValidName name = true) : '"' ∉ name :=
  fun hmem => ne_of_isNameChar (isNameChar_of_mem h _ hmem) (by decide) rfl

/-! ## Identities as arguments -/

/-- An identity means its own section, unless it is a name with a dot and nothing else: then it is
read as the dotted form. -/
theorem resolve_identity_iff {text : Text} {id : SectionId} (h : ofHeader text = .ok id) :
    (resolve id.identity = .ok id ↔ id.subsection.isSome = true ∨ '.' ∉ id.name) ∧
      ∀ front sub, id.subsection = none → id.name = front ++ '.' :: sub → '.' ∉ front →
        resolve id.identity = make front (some sub) := by
  have hcanonical := isCanonical_of_ofHeader h
  obtain ⟨name, raw, rfl, hname, -⟩ := eq_ofParts_of_ofHeader h
  cases raw with
  | some raw =>
      have hquote : '"' ∈ (ofParts name (some raw)).identity := by simp [ofParts, spell]
      have hread := (resolve_of_quote hquote).trans hcanonical
      refine ⟨iff_of_true hread (.inl rfl), ?_⟩
      intro front sub hnone
      cases hnone
  | none =>
      have hdotted : ∀ front sub, name = front ++ '.' :: sub → '.' ∉ front →
          resolve name = make front (some sub) := by
        rintro front sub rfl hdot
        exact resolve_of_dot hdot (quote_not_mem_of_isValidName hname)
      refine ⟨?_, fun front sub _ => hdotted front sub⟩
      constructor
      · intro hread
        right
        intro hmem
        obtain ⟨front, sub, hsplit, hdot⟩ := List.eq_append_cons_of_mem hmem
        have hmade := (hdotted front sub hsplit hdot).symm.trans hread
        have hsub := (of_make hmade).2.2
        cases hsub
      · rintro (hsome | hdot)
        · cases hsome
        · exact (resolve_of_no_dot hdot).trans hcanonical

/-- White space, an escaped quote and a dot in the subsection and a dot in the name. -/
theorem resolve_identity_of_quoted :
    ofHeader " a.b   \"x\\\"y.z\" ".toList = .ok (ofParts "a.b".toList (some "x\\\"y.z".toList)) ∧
      resolve (ofParts "a.b".toList (some "x\\\"y.z".toList)).identity
        = .ok (ofParts "a.b".toList (some "x\\\"y.z".toList)) := by
  have hread : ofHeader " a.b   \"x\\\"y.z\" ".toList
      = .ok (ofParts "a.b".toList (some "x\\\"y.z".toList)) := by decide +kernel
  exact ⟨hread, (resolve_identity_iff hread).1.mpr (.inl rfl)⟩

/-- The name of one section is the dotted form of another. -/
theorem dotted_name_means_other_section :
    ofHeader "remote.origin".toList = .ok (ofParts "remote.origin".toList none) ∧
      resolve (ofParts "remote.origin".toList none).identity
        = .ok (ofParts "remote".toList (some "origin".toList)) ∧
      ofParts "remote".toList (some "origin".toList) ≠ ofParts "remote.origin".toList none := by
  decide +kernel

/-! ## Plainly quoted subsections -/

/-- What may stand between the quotes without an escape but the one of the backslash: no quote, and
backslashes in pairs. -/
inductive PlainlyQuoted : Text → Prop where
  | nil : PlainlyQuoted []
  | char {c : Char} {s : Text} : c ≠ '"' → c ≠ '\\' → PlainlyQuoted s → PlainlyQuoted (c :: s)
  | pair {s : Text} : PlainlyQuoted s → PlainlyQuoted ('\\' :: '\\' :: s)

/-- Plainly quoted are the escaped forms of the texts without double quotes. -/
theorem plainlyQuoted_iff (raw : Text) :
    PlainlyQuoted raw ↔ ∃ sub, '"' ∉ sub ∧ raw = EscapeCodec.subsection.escape sub := by
  constructor
  · intro h
    induction h with
    | nil => exact ⟨[], by simp, rfl⟩
    | @char c s hquote hslash _ ih =>
        obtain ⟨sub, hsub, rfl⟩ := ih
        refine ⟨c :: sub, ?_, ?_⟩
        · simp [hsub, Ne.symm hquote]
        · simp [escape_cons, hquote, hslash]
    | pair _ ih =>
        obtain ⟨sub, hsub, rfl⟩ := ih
        refine ⟨'\\' :: sub, by simpa using hsub, ?_⟩
        simp [escape_cons]
  · rintro ⟨sub, hsub, rfl⟩
    induction sub with
    | nil => exact .nil
    | cons c sub ih =>
        have hquote : c ≠ '"' := by
          rintro rfl
          exact hsub List.mem_cons_self
        have hrest := ih fun hmem => hsub (List.mem_cons_of_mem c hmem)
        rw [escape_cons]
        by_cases hslash : c = '\\'
        · subst hslash
          exact .pair hrest
        · simpa [hquote, hslash] using PlainlyQuoted.char hquote hslash hrest

/-- The subsection of an id is quoted plainly. -/
def IsPlain (id : SectionId) : Prop :=
  ∃ raw, id.identity = spell id.name (some raw) ∧ PlainlyQuoted raw

/-- A spelling tells the name from the quoted text. -/
theorem spell_inj {name : Text} {raw other : Option Text} (h : spell name raw = spell name other) :
    raw = other := by
  cases raw with
  | none =>
      cases other with
      | none => rfl
      | some other => simp [spell] at h
  | some raw =>
      cases other with
      | none => simp [spell] at h
      | some other => simpa [spell] using h

/-! ## Dotted names as arguments -/

/-- What is read from a text that starts with a name and a dot has a dot in its name. -/
theorem dot_mem_of_ofHeader {name rest : Text} {id : SectionId} (hname : isValidName name = true)
    (h : ofHeader (name ++ '.' :: rest) = .ok id) : '.' ∈ id.name := by
  have hkept : ∀ c ∈ name ++ ['.'], (!Text.isBlank c) = true := by
    intro c hc
    rcases List.mem_append.mp hc with hc | hc
    · simpa using isBlank_of_mem_name hname c hc
    · obtain rfl := List.mem_singleton.mp hc
      rfl
  have htrim : Text.trim (name ++ '.' :: rest) = (name ++ ['.']) ++ Text.trimEnd rest := by
    have hdot : Text.trimEnd ('.' :: rest) = '.' :: Text.trimEnd rest :=
      Text.trimEnd_cons_of_not_blank rfl rest
    have hfront : Text.trimStart (name ++ '.' :: rest) = name ++ '.' :: rest := by
      obtain ⟨c, tail, rfl⟩ := List.exists_cons_of_ne_nil (ne_nil_of_isValidName hname)
      exact Text.trimStart_cons_of_not_blank (isBlank_of_mem_name hname c List.mem_cons_self) _
    rw [Text.trim, hfront, Text.trimEnd_append (by rw [hdot]; simp), hdot]
    simp
  have hread : id.name = (Text.trim (name ++ '.' :: rest)).takeWhile fun c => !Text.isBlank c := by
    unfold ofHeader at h
    simp only at h
    split at h
    · split at h
      · cases h
        rfl
      · cases h
    · cases h
  rw [hread, htrim, List.takeWhile_append_of_pos hkept]
  simp

theorem quote_not_mem_dotted {name sub : Text} (hname : isValidName name = true)
    (hsub : '"' ∉ sub) : '"' ∉ name ++ '.' :: sub := by
  simpa using ⟨quote_not_mem_of_isValidName hname, hsub⟩

/-- A dotted name shows all there is of a plainly quoted subsection. -/
theorem resolve_dotted_of_isPlain {id : SectionId} (h : id.IsCanonical) (hdot : '.' ∉ id.name)
    (hplain : id.IsPlain) : resolve id.dotted = .ok id := by
  obtain ⟨name, raw, rfl, hname, -⟩ := eq_ofParts_of_ofHeader h
  obtain ⟨quoted, hidentity, hquoted⟩ := hplain
  obtain rfl : raw = some quoted := spell_inj hidentity
  obtain ⟨sub, hquote, rfl⟩ := (plainlyQuoted_iff quoted).mp hquoted
  change '.' ∉ name at hdot
  have hdotted : (ofParts name (some (EscapeCodec.subsection.escape sub))).dotted
      = name ++ '.' :: sub := by
    simp [dotted, ofParts, unescape_escape]
  rw [hdotted, resolve_of_dot hdot (quote_not_mem_dotted hname hquote)]
  simp [make, hname, ofParts, unescape_escape]

/-- No other id with a subsection is found by its dotted name. -/
theorem isPlain_of_resolve_dotted {id found : SectionId} (h : id.IsCanonical)
    (hdot : '.' ∉ id.name) (hsub : id.subsection.isSome = true)
    (hfound : resolve id.dotted = .ok found) (hidentity : found.identity = id.identity) :
    id.IsPlain := by
  obtain ⟨name, raw, rfl, hname, -⟩ := eq_ofParts_of_ofHeader h
  cases raw with
  | none => cases hsub
  | some raw =>
      change '.' ∉ name at hdot
      change resolve (name ++ '.' :: EscapeCodec.subsection.unescape raw) = .ok found at hfound
      refine ⟨raw, rfl, (plainlyQuoted_iff raw).mpr ?_⟩
      by_cases hquote : '"' ∈ EscapeCodec.subsection.unescape raw
      · -- The dotted name is read as an identity, and that one has a dot in its name.
        rw [resolve_of_quote (by simp [hquote])] at hfound
        obtain rfl := eq_of_identity (isCanonical_of_ofHeader hfound) h hidentity
        exact absurd (dot_mem_of_ofHeader hname hfound) hdot
      · refine ⟨_, hquote, ?_⟩
        rw [resolve_of_dot hdot (quote_not_mem_dotted hname hquote)] at hfound
        rw [(of_make hfound).1] at hidentity
        exact Option.some.inj (spell_inj hidentity.symm)

end SectionId

/-- Of the sections of a text, one with a subsection and no dot in its name is found by its dotted
name exactly if the subsection is quoted plainly; and then it is found as it is. -/
theorem Document.resolve_dotted_iff {text : Text} {doc : Document} {s : Section}
    (h : Document.ofText text = .ok doc) (hs : s ∈ doc.sectionList) (hdot : '.' ∉ s.id.name)
    (hsub : s.id.subsection.isSome = true) :
    ((∃ id, SectionId.resolve s.id.dotted = .ok id ∧ id.identity = s.id.identity) ↔ s.id.IsPlain) ∧
      (s.id.IsPlain → SectionId.resolve s.id.dotted = .ok s.id) := by
  have hcanonical : s.id.IsCanonical := ((wellFormed_of_ofText h).section hs).1
  have hfound := SectionId.resolve_dotted_of_isPlain hcanonical hdot
  refine ⟨⟨?_, fun hplain => ⟨s.id, hfound hplain, rfl⟩⟩, hfound⟩
  rintro ⟨id, hid, hidentity⟩
  exact SectionId.isPlain_of_resolve_dotted hcanonical hdot hsub hid hidentity

/-- The subsection starts with a blank, ends in a dot and holds a backslash. -/
theorem Document.resolve_dotted_with_backslash :
    ∃ doc s, Document.ofText "[a \" b.\\\\c.\"]".toList = .ok doc ∧ s ∈ doc.sectionList ∧
      '.' ∉ s.id.name ∧ s.id.subsection.isSome = true ∧
      SectionId.resolve s.id.dotted = .ok s.id := by
  have hread : Document.ofText "[a \" b.\\\\c.\"]".toList
      = .ok (.openSection .empty (.ofParts "a".toList (some " b.\\\\c.".toList))) := by
    decide +kernel
  have hs : Section.new (.ofParts "a".toList (some " b.\\\\c.".toList))
      ∈ (Document.openSection .empty (.ofParts "a".toList (some " b.\\\\c.".toList))).sectionList :=
    List.mem_singleton.mpr rfl
  have hplain : SectionId.PlainlyQuoted " b.\\\\c.".toList :=
    (SectionId.plainlyQuoted_iff _).mpr ⟨" b.\\c.".toList, by decide +kernel, by decide +kernel⟩
  refine ⟨_, _, hread, hs, by decide, rfl, ?_⟩
  exact (Document.resolve_dotted_iff hread hs (by decide) rfl).2 ⟨_, rfl, hplain⟩

/-- One quote makes no identity of the dotted name, two make one of another section, and a
backslash before any other character is lost. -/
theorem Document.dotted_names_resolve_apart :
    ∃ doc, Document.ofText
        "[a \"x\\\"y\"]\n[a \"x \\\"y\\\"\"]\n[a \"\\x\"]".toList = .ok doc ∧
      doc.sectionList.length = 3 ∧
      ∀ s ∈ doc.sectionList, '.' ∉ s.id.name ∧ s.id.subsection.isSome = true ∧
        ¬ ∃ id, SectionId.resolve s.id.dotted = .ok id ∧ id.identity = s.id.identity := by
  have hall : ∀ doc ∈ (Document.ofText
      "[a \"x\\\"y\"]\n[a \"x \\\"y\\\"\"]\n[a \"\\x\"]".toList).toOption,
      doc.sectionList.length = 3 ∧ ∀ s ∈ doc.sectionList,
        '.' ∉ s.id.name ∧ s.id.subsection.isSome = true ∧
          (SectionId.resolve s.id.dotted).map SectionId.identity ≠ .ok s.id.identity := by
    decide +kernel
  obtain ⟨doc, hread⟩ := exists_of_isOk (show (Document.ofText
    "[a \"x\\\"y\"]\n[a \"x \\\"y\\\"\"]\n[a \"\\x\"]".toList).isOk = true by decide +kernel)
  obtain ⟨hlength, hsections⟩ := hall doc (by rw [hread]; rfl)
  refine ⟨doc, hread, hlength, fun s hs => ?_⟩
  obtain ⟨hdot, hsub, hapart⟩ := hsections s hs
  refine ⟨hdot, hsub, ?_⟩
  rintro ⟨id, hid, hidentity⟩
  rw [hid] at hapart
  exact hapart (congrArg Except.ok hidentity)

end ConfigEditor
