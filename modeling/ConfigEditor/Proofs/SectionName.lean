import ConfigEditor.Proofs.SectionGrammar
set_option autoImplicit false

/-!
# Section names: identities read back

An id is *canonical* if its identity reads back as that very id.  Every id that is read from a
header or an argument is canonical (`isCanonical_of_ofHeader`, `isCanonical_of_resolve`), since an
identity spells its id in the plainest way (`spells_spell`) and an escaped subsection may be quoted
(`quoted_escape`).  The header line of a canonical id is read as a header of that id
(`classify_header`).
-/

namespace ConfigEditor

namespace SectionId

/-! ## Spellings -/

/-- An identity spells its id in the plainest way. -/
theorem spells_spell {name : Text} {raw : Option Text} (hname : isValidName name = true)
    (hraw : ∀ r ∈ raw, Quoted r) : Spells (spell name raw) (ofParts name raw) := by
  obtain ⟨hne, hchars⟩ := (isValidName_iff name).mp hname
  have hnone : Text.IsBlankRun [] := List.forall_mem_nil _
  cases raw with
  | none =>
      have hspells := Spells.intro hnone hne hchars .none hnone
      simpa [ofParts, spell] using hspells
  | some raw =>
      have hspace : Text.IsBlankRun [' '] := List.forall_mem_singleton.mpr rfl
      have hquotes : Quotes raw (EscapeCodec.subsection.unescape raw) :=
        (quotes_iff _ _).mpr ⟨hraw raw rfl, rfl⟩
      have hspells := Spells.intro hnone hne hchars (.quoted (by simp) hspace hquotes) hnone
      simpa [ofParts, spell] using hspells

/-- What is read from a header body: a valid name and a subsection that may be quoted, both
of which stand there. -/
theorem eq_ofParts_of_ofHeader {text : Text} {id : SectionId} (h : ofHeader text = .ok id) :
    ∃ name raw, id = ofParts name raw ∧ isValidName name = true ∧
      (∀ r ∈ raw, Quoted r) ∧ name ⊆ text ∧ ∀ r ∈ raw, r ⊆ text := by
  cases spells_of_ofHeader h with
  | @intro front name qualifier back raw sub _ hne hchars hqualifier _ =>
      have hname : isValidName name = true := (isValidName_iff name).mpr ⟨hne, hchars⟩
      have hinner : name ++ qualifier ⊆ front ++ (name ++ qualifier) ++ back :=
        List.Subset.trans (List.subset_append_right front _) (List.subset_append_left _ back)
      obtain rfl := hqualifier.eq_unescape
      refine ⟨name, raw, rfl, hname, fun r hr => (hqualifier.quoted_of_mem r hr).1, ?_, ?_⟩
      · exact List.Subset.trans (List.subset_append_left name _) hinner
      · intro r hr
        have hthere := (hqualifier.quoted_of_mem r hr).2
        exact List.Subset.trans hthere
          (List.Subset.trans (List.subset_append_right name _) hinner)

/-! ## Canonical ids -/

/-- The identity reads back as the id. -/
def IsCanonical (id : SectionId) : Prop := ofHeader id.identity = .ok id

instance (id : SectionId) : Decidable id.IsCanonical :=
  inferInstanceAs (Decidable (_ = _))

theorem isCanonical_ofParts {name : Text} {raw : Option Text} (hname : isValidName name = true)
    (hraw : ∀ r ∈ raw, Quoted r) : (ofParts name raw).IsCanonical :=
  ofHeader_of_spells (spells_spell hname hraw)

theorem isCanonical_of_ofHeader {text : Text} {id : SectionId} (h : ofHeader text = .ok id) :
    id.IsCanonical := by
  obtain ⟨name, raw, rfl, hname, hraw, _⟩ := eq_ofParts_of_ofHeader h
  exact isCanonical_ofParts hname hraw

/-- A line feed in an identity stood in the text that it was read from. -/
theorem newline_not_mem_of_ofHeader {text : Text} {id : SectionId} (h : ofHeader text = .ok id)
    (ht : '\n' ∉ text) : '\n' ∉ id.identity := by
  obtain ⟨name, raw, rfl, _, _, hname, hraw⟩ := eq_ofParts_of_ofHeader h
  intro hmem
  cases raw with
  | none => exact ht (hname hmem)
  | some raw =>
      have hcases : '\n' ∈ name ∨ '\n' ∈ raw := by simpa [ofParts, spell] using hmem
      rcases hcases with hmem | hmem
      · exact ht (hname hmem)
      · exact ht (hraw raw rfl hmem)

theorem unescapeFrom_sublist (pending : Bool) (s : Text) :
    (EscapeCodec.subsection.unescapeFrom pending s).Sublist s := by
  induction s generalizing pending with
  | nil => exact .slnil
  | cons c s ih =>
      unfold EscapeCodec.unescapeFrom
      split
      · rw [replaceChar_subsection_unescapes]
        exact (ih false).cons_cons c
      · split
        · exact (ih true).cons c
        · exact (ih false).cons_cons c

/-- Unescaping a subsection only leaves out backslashes, so what it yields stood there. -/
theorem unescape_subset (s : Text) : EscapeCodec.subsection.unescape s ⊆ s :=
  (unescapeFrom_sublist false s).subset

/-- The parts of a canonical id stand in its identity. -/
theorem IsCanonical.parts_subset {id : SectionId} (h : id.IsCanonical) :
    id.name ⊆ id.identity ∧ ∀ sub ∈ id.subsection, sub ⊆ id.identity := by
  obtain ⟨name, raw, heq, _, _, hname, hraw⟩ := eq_ofParts_of_ofHeader h
  have hid : id.name = name ∧ id.subsection = raw.map EscapeCodec.subsection.unescape := by
    rw [heq]
    exact ⟨rfl, rfl⟩
  rw [hid.1, hid.2]
  refine ⟨hname, ?_⟩
  intro sub hsub
  obtain ⟨r, hr, rfl⟩ := Option.map_eq_some_iff.mp hsub
  exact List.Subset.trans (unescape_subset r) (hraw r hr)

/-! ## Escaped subsections -/

theorem replaceChar_subsection_escapes (c : Char) :
    EscapeCodec.subsection.escapes.replaceChar c =
      if c = '\\' ∨ c = '"' then ['\\', c] else [c] := by
  by_cases hslash : c = '\\'
  · subst hslash
    rfl
  · by_cases hquote : c = '"'
    · subst hquote
      rfl
    · have hslash' : ('\\' : Char) ≠ c := fun e => hslash e.symm
      have hquote' : ('"' : Char) ≠ c := fun e => hquote e.symm
      simp [EscapeCodec.subsection, EscapeCodec.escapes, ReplacementTable.replaceChar,
        ReplacementTable.find?, hslash, hquote, hslash', hquote']

theorem escape_cons (c : Char) (s : Text) :
    EscapeCodec.subsection.escape (c :: s) =
      (if c = '\\' ∨ c = '"' then ['\\', c] else [c]) ++ EscapeCodec.subsection.escape s := by
  rw [EscapeCodec.escape_cons, replaceChar_subsection_escapes]

/-- An escaped text may be quoted. -/
theorem quoted_escape (s : Text) : Quoted (EscapeCodec.subsection.escape s) := by
  induction s with
  | nil => exact .nil
  | cons c s ih =>
      rw [escape_cons]
      split
      · rename_i hspecial
        refine .escape ?_ ih
        rcases hspecial with rfl | rfl <;> rfl
      · rename_i hplain
        exact .char (fun e => hplain (.inr e)) (fun e => hplain (.inl e)) ih

theorem unescape_escape (s : Text) :
    EscapeCodec.subsection.unescape (EscapeCodec.subsection.escape s) = s :=
  EscapeCodec.unescape_escape EscapeCodec.wellFormed_subsection s

/-- What is made is what is read of the name and the escaped subsection. -/
theorem make_of_isValidName {name : Text} (hname : isValidName name = true) (sub : Option Text) :
    make name sub = .ok (ofParts name (sub.map EscapeCodec.subsection.escape)) := by
  have hsub : (sub.map EscapeCodec.subsection.escape).map EscapeCodec.subsection.unescape
      = sub := by
    cases sub with
    | none => rfl
    | some sub => exact congrArg some (unescape_escape sub)
  rw [make, if_pos hname, ofParts, hsub]

theorem isValidName_of_make {name : Text} {sub : Option Text} {id : SectionId}
    (h : make name sub = .ok id) : isValidName name = true := by
  unfold make at h
  split at h
  · assumption
  · cases h

theorem isCanonical_of_make {name : Text} {sub : Option Text} {id : SectionId}
    (h : make name sub = .ok id) : id.IsCanonical := by
  have hname := isValidName_of_make h
  have hescaped : ∀ r ∈ sub.map EscapeCodec.subsection.escape, Quoted r := by
    intro r hr
    obtain ⟨s, _, rfl⟩ := Option.map_eq_some_iff.mp hr
    exact quoted_escape s
  rw [make_of_isValidName hname] at h
  obtain rfl := Except.ok.inj h
  exact isCanonical_ofParts hname hescaped

theorem isCanonical_of_resolve {input : Text} {id : SectionId} (h : resolve input = .ok id) :
    id.IsCanonical := by
  unfold resolve at h
  split at h
  · exact isCanonical_of_ofHeader h
  · exact isCanonical_of_make h

/-- A canonical id is looked up under its own identity. -/
theorem canonical_identity {id : SectionId} (h : id.IsCanonical) :
    canonical id.identity = id.identity := by
  unfold canonical
  rw [h]

/-- A canonical id is known by its identity. -/
theorem eq_of_identity {a b : SectionId} (ha : a.IsCanonical) (hb : b.IsCanonical)
    (h : a.identity = b.identity) : a = b := by
  have hread : ofHeader b.identity = .ok a := by
    rw [← h]
    exact ha
  exact Except.ok.inj (hread.symm.trans hb)

/-! ## Header lines -/

/-- The header line of a canonical id is a header of that id. -/
theorem classify_header {id : SectionId} (h : id.IsCanonical) (line : Nat) :
    Token.classify line ('[' :: (id.identity ++ [']'])) =
      .header line ('[' :: (id.identity ++ [']'])) id := by
  have hsplit : Token.splitHeader false (id.identity ++ [']']) = some (id.identity, []) :=
    splitHeader_of_spells (spells_of_ofHeader h) []
  have hbody : Token.headerBody? ('[' :: (id.identity ++ [']'])) = some id.identity := by
    simp [Token.headerBody?, hsplit, Token.closesHeader, Text.trimStart]
  have htrim : Text.trimEnd ('[' :: (id.identity ++ [']'])) = '[' :: (id.identity ++ [']']) := by
    refine Text.trimEnd_eq_self fun c hc => ?_
    rw [← List.cons_append, List.getLast?_concat] at hc
    obtain rfl := Option.some.inj hc
    rfl
  have hindent : Text.dropIndent ('[' :: (id.identity ++ [']'])) = '[' :: (id.identity ++ [']']) :=
    rfl
  have hcomment : Line.isComment ('[' :: (id.identity ++ [']'])) = false := by
    rw [Line.isComment_cons_of_ne (by decide) (by decide), Line.isRemark_cons_of_ne (by decide)]
  have hread : ofHeader id.identity = .ok id := h
  unfold Token.classify
  simp [hindent, htrim, hcomment, Line.isBracketed, Token.ofHeader, hbody, hread]

end SectionId

end ConfigEditor
