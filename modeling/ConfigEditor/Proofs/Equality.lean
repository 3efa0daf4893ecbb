import ConfigEditor.Document.Query
import ConfigEditor.Proofs.WrittenLines
set_option autoImplicit false

/-!
# Equality: when two documents are the same

Three notions agree on all reachable documents (`Reachable.equals_iff`): the comparison by
identities and flat occurrences, being the very same data, and having the same text.

Since a document is rebuilt from its statements (`merge_empty`), it is enough that the statements
can be told from what is compared.  Both ways of flattening an occurrence are undone by the reader
itself: the flat text is the content of an entry (`Token.ofEntry_signature`), and the written line
is the line of one (`Token.classify_line`).  A text is taken apart from the front, line by line
(`Statement.eq_of_line_append`).  A name may hold line feeds, so the line of a header is not cut
off at the first of them but read to its closing bracket.
-/

namespace ConfigEditor

/-! ## Occurrences read back -/

namespace Token

variable {key : Text} {entry : Entry}

/-- The flat text of an occurrence is the content of an entry that says the same. -/
theorem ofEntry_signature (hkey : Key.isValid key = true) (hentry : entry.WellFormed) :
    ∃ value, ofEntry 0 [] (entry.signature key) = .entry 0 [] key value ∧
      ReadState.entryOf value = entry := by
  have hequals : '=' ∉ key := Key.not_mem_of_isValid hkey (by decide)
  cases entry with
  | assigned text =>
      refine ⟨some text, ?_, rfl⟩
      unfold ofEntry Entry.signature
      rw [Text.dropWhile_ne_append hequals, Text.takeWhile_ne_append hequals]
      simp only [Key.trim_of_isValid hkey, hentry.1]
  | bare =>
      refine ⟨none, ?_, rfl⟩
      have hdrop : key.dropWhile (· != '=') = [] := by
        simpa using fun c hc => ne_of_mem_of_not_mem hc hequals
      unfold ofEntry Entry.signature
      rw [hdrop]
      simp only [Key.trim_of_isValid hkey]

/-- The line of an occurrence is the line of an entry that says the same. -/
theorem classify_line (hkey : Key.isValid key = true) (hentry : entry.WellFormed) (n : Nat) :
    ∃ value, classify n (entry.line key) = .entry n (entry.line key) key value ∧
      ReadState.entryOf value = entry := by
  cases entry with
  | assigned text => exact ⟨some text, classify_assigned hkey hentry.1 n, rfl⟩
  | bare => exact ⟨none, classify_bare hkey n, rfl⟩

end Token

namespace Entry

variable {key other : Text} {entry new : Entry}

/-- Flat texts tell keys and entries apart. -/
theorem eq_of_signature (hkey : Key.isValid key = true) (hentry : entry.WellFormed)
    (hother : Key.isValid other = true) (hnew : new.WellFormed)
    (h : entry.signature key = new.signature other) : key = other ∧ entry = new := by
  obtain ⟨value, hread, hvalue⟩ := Token.ofEntry_signature hkey hentry
  obtain ⟨second, hagain, hsecond⟩ := Token.ofEntry_signature hother hnew
  rw [h, hagain] at hread
  cases hread
  exact ⟨rfl, hvalue.symm.trans hsecond⟩

/-- Written lines tell keys and entries apart. -/
theorem eq_of_line (hkey : Key.isValid key = true) (hentry : entry.WellFormed)
    (hother : Key.isValid other = true) (hnew : new.WellFormed)
    (h : entry.line key = new.line other) : key = other ∧ entry = new := by
  obtain ⟨value, hread, hvalue⟩ := Token.classify_line hkey hentry 0
  obtain ⟨second, hagain, hsecond⟩ := Token.classify_line hother hnew 0
  rw [h, hagain] at hread
  cases hread
  exact ⟨rfl, hvalue.symm.trans hsecond⟩

end Entry

/-! ## Statements told apart -/

namespace Statement

/-- A canonical name, which may hold line feeds, or a normal key with a clean line. -/
def IsCanonical : Statement → Prop
  | header id => id.IsCanonical
  | occurrence key entry => Key.IsNormal key ∧ entry.WellFormed

/-- A header is read to its closing bracket. -/
theorem splitHeader_identity {id : SectionId} (h : id.IsCanonical) (rest : Text) :
    Token.splitHeader false (id.identity ++ ']' :: rest) = some (id.identity, rest) := by
  exact SectionId.splitHeader_of_spells (SectionId.spells_of_ofHeader h) rest

theorem eq_of_header_append {id other : SectionId} (hid : id.IsCanonical)
    (hother : other.IsCanonical) {rest tail : Text}
    (h : (header id).line ++ '\n' :: rest = (header other).line ++ '\n' :: tail) :
    id = other ∧ rest = tail := by
  have hbody : id.identity ++ ']' :: '\n' :: rest = other.identity ++ ']' :: '\n' :: tail := by
    simpa [line] using h
  have hread := splitHeader_identity hid ('\n' :: rest)
  rw [hbody, splitHeader_identity hother, Option.some.injEq, Prod.mk.injEq] at hread
  obtain ⟨hidentity, hrest⟩ := hread
  exact ⟨SectionId.eq_of_identity hid hother hidentity.symm, (List.cons.inj hrest).2.symm⟩

theorem newline_not_mem_occurrence {key : Text} {entry : Entry}
    (h : (occurrence key entry).IsCanonical) : '\n' ∉ entry.line key := by
  have hwell : (occurrence key entry).WellFormed := h
  exact newline_not_mem_line hwell

/-- The line of an occurrence is indented. -/
theorem exists_line_occurrence (key : Text) (entry : Entry) :
    ∃ rest, (occurrence key entry).line = '\t' :: rest := by
  cases entry with
  | assigned text => exact ⟨_, line_assigned key text⟩
  | bare => exact ⟨key, rfl⟩

theorem header_append_ne_occurrence (id : SectionId) (key : Text) (entry : Entry)
    (rest tail : Text) :
    (header id).line ++ '\n' :: rest ≠ (occurrence key entry).line ++ '\n' :: tail := by
  intro h
  obtain ⟨inner, hline⟩ := exists_line_occurrence key entry
  rw [hline] at h
  have hfirst : '[' = '\t' := (List.cons.inj h).1
  exact absurd hfirst (by decide)

/-- The line of a statement is told from whatever follows it, and the statement from its line. -/
theorem eq_of_line_append {s t : Statement} (hs : s.IsCanonical) (ht : t.IsCanonical)
    {rest tail : Text} (h : s.line ++ '\n' :: rest = t.line ++ '\n' :: tail) :
    s = t ∧ rest = tail := by
  cases s with
  | header id =>
      cases t with
      | header other =>
          obtain ⟨rfl, hrest⟩ := eq_of_header_append hs ht h
          exact ⟨rfl, hrest⟩
      | occurrence key entry => exact absurd h (header_append_ne_occurrence id key entry rest tail)
  | occurrence key entry =>
      cases t with
      | header id =>
          exact absurd h.symm (header_append_ne_occurrence id key entry tail rest)
      | occurrence other new =>
          obtain ⟨hline, hrest⟩ := Line.append_newline_inj (newline_not_mem_occurrence hs)
            (newline_not_mem_occurrence ht) h
          obtain ⟨rfl, rfl⟩ := Entry.eq_of_line hs.1.1 hs.2 ht.1.1 ht.2 hline
          exact ⟨rfl, hrest⟩

/-- A row of statements is told from its text. -/
theorem eq_of_text {statements others : List Statement}
    (hs : ∀ s ∈ statements, s.IsCanonical) (ht : ∀ t ∈ others, t.IsCanonical)
    (h : (statements.flatMap fun s => s.line ++ ['\n'])
      = others.flatMap fun t => t.line ++ ['\n']) : statements = others := by
  induction statements generalizing others with
  | nil =>
      cases others with
      | nil => rfl
      | cons t others => simp at h
  | cons s statements ih =>
      cases others with
      | nil => simp at h
      | cons t others =>
          simp only [List.flatMap_cons, List.append_assoc, List.singleton_append] at h
          obtain ⟨rfl, hrest⟩ := eq_of_line_append (hs s List.mem_cons_self)
            (ht t List.mem_cons_self) h
          have hothers := ih (fun u hu => hs u (List.mem_cons_of_mem s hu))
            (fun u hu => ht u (List.mem_cons_of_mem s hu)) hrest
          rw [hothers]

end Statement

/-! ## Sections -/

/-- If what `f` sees of two elements settles what `g` sees, then so it does for rows of them. -/
theorem map_eq_of_map_eq {α β γ : Type} {f : α → β} {g : α → γ} {l m : List α}
    (hfg : ∀ x ∈ l, ∀ y ∈ m, f x = f y → g x = g y) (h : l.map f = m.map f) :
    l.map g = m.map g := by
  induction l generalizing m with
  | nil =>
      cases m with
      | nil => rfl
      | cons y m => cases h
  | cons x l ih =>
      cases m with
      | nil => cases h
      | cons y m =>
          obtain ⟨hfirst, hrest⟩ := List.cons.inj h
          have htail := ih (fun u hu v hv => hfg u (List.mem_cons_of_mem x hu) v
            (List.mem_cons_of_mem y hv)) hrest
          rw [List.map_cons, List.map_cons, htail,
            hfg x List.mem_cons_self y List.mem_cons_self hfirst]

namespace Section

/-- The occurrences of all keys in order. -/
def occurrences (s : Section) : List (Text × Entry) :=
  s.options.pairs.flatMap fun option => option.2.entries.map fun entry => (option.1, entry)

theorem signature_eq (s : Section) :
    s.signature = s.occurrences.map fun p => p.2.signature p.1 := by
  unfold signature occurrences
  rw [List.map_flatMap]
  simp only [List.map_map]
  rfl

theorem statements_eq (s : Section) :
    s.statements = .header s.id :: s.occurrences.map fun p => .occurrence p.1 p.2 := by
  unfold statements occurrences occurrencesOf
  rw [List.map_flatMap]
  simp only [List.map_map]
  rfl

variable {P : SectionId → Prop} {Q : Text → Entry → Prop}

theorem Every.occurrences {s : Section} (h : s.Every P Q) : ∀ p ∈ s.occurrences, Q p.1 p.2 := by
  intro p hp
  obtain ⟨option, hoption, hmem⟩ := List.mem_flatMap.mp hp
  obtain ⟨entry, hentry, rfl⟩ := List.mem_map.mp hmem
  exact (h.2 option hoption).2 entry hentry

/-- Sections that look the same to a comparison of documents say the same. -/
theorem statements_eq_of_signature {s t : Section}
    (hs : s.Every SectionId.IsCanonical fun key entry => Key.IsNormal key ∧ entry.WellFormed)
    (ht : t.Every SectionId.IsCanonical fun key entry => Key.IsNormal key ∧ entry.WellFormed)
    (hidentity : s.id.identity = t.id.identity) (hsignature : s.signature = t.signature) :
    s.statements = t.statements := by
  rw [signature_eq, signature_eq] at hsignature
  rw [statements_eq, statements_eq, SectionId.eq_of_identity hs.1 ht.1 hidentity]
  congr 1
  refine map_eq_of_map_eq ?_ hsignature
  intro p hp q hq hsame
  obtain ⟨hkey, hentry⟩ := hs.occurrences p hp
  obtain ⟨hother, hnew⟩ := ht.occurrences q hq
  obtain ⟨hkeys, hentries⟩ := Entry.eq_of_signature hkey.1 hentry hother.1 hnew hsame
  rw [hkeys, hentries]

end Section

/-! ## Documents -/

namespace Document

variable {a b : Document}

/-- Documents that say the same are the same. -/
theorem eq_of_statements (ha : a.WellFormed) (hb : b.WellFormed)
    (h : a.statements = b.statements) : a = b := by
  rw [← merge_empty ha, ← merge_empty hb, merge_eq_extend, merge_eq_extend, h]

/-- Documents that compare as equal are the same. -/
theorem eq_of_equals (ha : a.WellFormed) (hb : b.WellFormed) (h : a.equals b = true) :
    a = b := by
  have hlists := beq_iff_eq.mp h
  have hstatements : a.sectionList.map Section.statements
      = b.sectionList.map Section.statements := by
    refine map_eq_of_map_eq ?_ hlists
    intro s hs t ht hsame
    obtain ⟨hidentity, hsignature⟩ := Prod.mk.inj hsame
    exact Section.statements_eq_of_signature (ha.section hs) (hb.section ht) hidentity hsignature
  apply eq_of_statements ha hb
  unfold statements
  rw [List.flatMap_def, List.flatMap_def, hstatements]

theorem isCanonical_of_mem_statements (h : a.WellFormed) :
    ∀ statement ∈ a.statements, statement.IsCanonical := by
  intro statement hstatement
  obtain ⟨s, hs, hcases⟩ := mem_statements.mp hstatement
  obtain ⟨hid, hoptions⟩ := h.section hs
  rcases hcases with rfl | ⟨option, hoption, entry, hentry, rfl⟩
  · exact hid
  · exact (hoptions option hoption).2 entry hentry

theorem toText_eq (doc : Document) :
    doc.toText = doc.statements.flatMap fun statement => statement.line ++ ['\n'] := by
  unfold toText
  rw [lines_eq, List.flatMap_map]

/-- Documents with the same text are the same. -/
theorem eq_of_toText (ha : a.WellFormed) (hb : b.WellFormed) (h : a.toText = b.toText) :
    a = b := by
  rw [toText_eq, toText_eq] at h
  apply eq_of_statements ha hb
  exact Statement.eq_of_text (isCanonical_of_mem_statements ha)
    (isCanonical_of_mem_statements hb) h

/-- Of reachable documents, those that compare as equal are the same data, and so are those with
the same text. -/
theorem Reachable.equals_iff (ha : a.Reachable) (hb : b.Reachable) :
    (a.equals b = true ↔ a = b) ∧ (a = b ↔ a.toText = b.toText) := by
  refine ⟨⟨eq_of_equals ha.wellFormed hb.wellFormed, ?_⟩, ?_, eq_of_toText ha.wellFormed hb.wellFormed⟩
  · rintro rfl
    exact beq_self_eq_true _
  · rintro rfl
    rfl

/-- A document of a text beside one whose only name spans lines that look like that text. -/
theorem Reachable.equals_iff_across_lines :
    ∃ doc built, Document.ofText "[a \"x\"]\n\tk = 1\n".toList = .ok doc ∧
      built = (Change.apply .empty (.addSection "a \"x\\\"]\n\tk = 1\n\"".toList)).2 ∧
      built.toText = "[a \"x\\\"]\n\tk = 1\n\"]\n".toList ∧
      (doc.equals built = true ↔ doc = built) ∧ (doc = built ↔ doc.toText = built.toText) := by
  obtain ⟨doc, hread⟩ := exists_of_isOk
    (show (Document.ofText "[a \"x\"]\n\tk = 1\n".toList).isOk = true by decide +kernel)
  have hbuilt :=
    Reachable.change (.addSection "a \"x\\\"]\n\tk = 1\n\"".toList) .empty (by simp)
  exact ⟨doc, _, hread, rfl, by decide +kernel, Reachable.equals_iff (.ofText hread) hbuilt⟩

end Document

end ConfigEditor
