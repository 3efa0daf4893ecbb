import ConfigEditor.Proofs.Document.Statements
set_option autoImplicit false

/-!
# Written lines: what a reader takes them for

The line of a well-formed statement is one physical line (`physicalLines_of_lines`).  It goes on
in the next line only where its assigned text does (`continues_line`), and it is classified as
the statement it was written for (`classify_header`, `classify_bare`, `classify_assigned`).

A key named `rem` makes no remark of its line: behind the key stands an equals sign or
nothing.
-/

namespace ConfigEditor

/-! ## Keys -/

namespace Key

variable {key : Text}

theorem isNameChar_of_mem (h : isValid key = true) {c : Char} (hc : c ∈ key) :
    Text.isNameChar c = true :=
  Text.isNameChar_of_isKeyChar (isKeyChar_of_mem_of_isValid h c hc)

/-- A character that is in no name is in no key. -/
theorem not_mem_of_isValid (h : isValid key = true) {c : Char}
    (hc : Text.isNameChar c = false) : c ∉ key := by
  intro hmem
  rw [isNameChar_of_mem h hmem] at hc
  cases hc

theorem isBlank_of_mem (h : isValid key = true) {c : Char} (hc : c ∈ key) :
    Text.isBlank c = false :=
  Text.isBlank_of_isNameChar (isNameChar_of_mem h hc)

/-- A valid key starts with a character that is no blank and opens no comment and no header. -/
theorem exists_cons_of_isValid (h : isValid key = true) :
    ∃ c rest, key = c :: rest ∧ Text.isBlank c = false ∧ Text.isIndent c = false ∧
      c ≠ '#' ∧ c ≠ ';' ∧ c ≠ '[' := by
  cases key with
  | nil => simp [isValid] at h
  | cons c rest =>
      have hmem : c ∈ c :: rest := List.mem_cons_self
      have hne : ∀ d, Text.isNameChar d = false → c ≠ d := by
        rintro d hd rfl
        exact not_mem_of_isValid h hd hmem
      have hindent : Text.isIndent c = false := by
        simp [Text.isIndent, hne ' ' (by decide), hne '\t' (by decide)]
      exact ⟨c, rest, rfl, isBlank_of_mem h hmem, hindent, hne _ (by decide), hne _ (by decide),
        hne _ (by decide)⟩

theorem dropIndent_append (h : isValid key = true) (rest : Text) :
    Text.dropIndent ('\t' :: (key ++ rest)) = key ++ rest := by
  obtain ⟨c, tail, rfl, _, hindent, _⟩ := exists_cons_of_isValid h
  have htab : Text.isIndent '\t' = true := rfl
  simp [Text.dropIndent, htab, hindent]

/-- The word of a remark is followed by a blank, and the third letter of a key by a letter. -/
theorem isRemark_of_isValid (h : isValid key = true) : Line.isRemark key = false := by
  unfold Line.isRemark
  split
  · rename_i r e m c rest
    have hc : Text.isBlank c = false := isBlank_of_mem h (by simp)
    simp [hc]
  · rfl

/-- Behind the word of a remark no equals sign may stand. -/
theorem isRemark_assignment (h : isValid key = true) (rest : Text) :
    Line.isRemark (key ++ ' ' :: '=' :: rest) = false := by
  have hequals : Text.isBlank '=' = false := rfl
  match key, h with
  | [r], _ =>
      unfold Line.isRemark
      split
      · rename_i heq
        cases heq
        simp
      · rfl
  | [r, e], _ =>
      unfold Line.isRemark
      split
      · rename_i heq
        cases heq
        simp
      · rfl
  | [r, e, m], _ =>
      simp [Line.isRemark, Text.trimStart_cons_of_not_blank hequals]
  | r :: e :: m :: c :: tail, h =>
      have hc : Text.isBlank c = false := isBlank_of_mem h (by simp)
      simp [Line.isRemark, hc]

theorem isComment_of_isValid (h : isValid key = true) : Line.isComment key = false := by
  have hremark := isRemark_of_isValid h
  obtain ⟨c, rest, rfl, _, _, hhash, hsemicolon, _⟩ := exists_cons_of_isValid h
  rw [Line.isComment_cons_of_ne hhash hsemicolon, hremark]

theorem isComment_assignment (h : isValid key = true) (rest : Text) :
    Line.isComment (key ++ ' ' :: '=' :: rest) = false := by
  have hremark := isRemark_assignment h rest
  obtain ⟨c, tail, rfl, _, _, hhash, hsemicolon, _⟩ := exists_cons_of_isValid h
  rw [List.cons_append] at hremark ⊢
  rw [Line.isComment_cons_of_ne hhash hsemicolon, hremark]

theorem isBracketed_append (h : isValid key = true) (rest : Text) :
    Line.isBracketed (key ++ rest) = false := by
  obtain ⟨c, tail, rfl, _, _, _, _, hbracket⟩ := exists_cons_of_isValid h
  simp [Line.isBracketed, hbracket]

end Key

/-! ## Occurrences -/

/-- An assignment as it is written before trailing white space is dropped. -/
def assignment (key body : Text) : Text := '\t' :: (key ++ ' ' :: '=' :: ' ' :: body)

section Assignment

variable {key : Text}

theorem trimEnd_assignment (key body : Text) :
    Text.trimEnd (key ++ ' ' :: '=' :: body) = key ++ ' ' :: '=' :: Text.trimEnd body := by
  have hequals : Text.isBlank '=' = false := rfl
  have hkept : Text.trimEnd ('=' :: body) = '=' :: Text.trimEnd body :=
    Text.trimEnd_cons_of_not_blank hequals body
  have hsplit : key ++ ' ' :: '=' :: body = (key ++ [' ']) ++ '=' :: body := by simp
  rw [hsplit, Text.trimEnd_append (by rw [hkept]; simp), hkept]
  simp

/-- What is left of an assignment when indentation and trailing white space are dropped. -/
theorem content_assignment (h : Key.isValid key = true) (body : Text) :
    (assignment key body).dropIndent.trimEnd = key ++ ' ' :: '=' :: Text.trimEnd (' ' :: body) := by
  unfold assignment
  rw [Key.dropIndent_append h, trimEnd_assignment]

/-- A line with the content of an assignment is an entry with the body, cleaned. -/
theorem classify_of_content (h : Key.isValid key = true) {text body : Text}
    (hcontent : text.dropIndent.trimEnd = key ++ ' ' :: '=' :: Text.trimEnd (' ' :: body))
    (line : Nat) :
    Token.classify line text = .entry line text key (some (Line.cleanValue body)) := by
  have hblank : Text.isBlank ' ' = true := rfl
  have hequals : '=' ∉ key ++ [' '] := by
    simpa using Key.not_mem_of_isValid h (c := '=') (by decide)
  have hsplit : key ++ ' ' :: '=' :: Text.trimEnd (' ' :: body)
      = (key ++ [' ']) ++ '=' :: Text.trimEnd (' ' :: body) := by simp
  have htrim : Text.trim (key ++ [' ']) = key := by
    have hback : Text.trimEnd (key ++ [' ']) = Text.trimEnd key := by
      simp [Text.trimEnd, hblank]
    rw [← Text.trim_trimEnd, hback, Text.trim_trimEnd, Key.trim_of_isValid h]
  have hclean : Line.cleanValue (Text.trimEnd (' ' :: body)) = Line.cleanValue body := by
    rw [Line.cleanValue_trimEnd, Line.cleanValue_cons_of_blank hblank]
  have hentry : Token.ofEntry line text (key ++ ' ' :: '=' :: Text.trimEnd (' ' :: body))
      = .entry line text key (some (Line.cleanValue body)) := by
    unfold Token.ofEntry
    rw [hsplit, Text.dropWhile_ne_append hequals, Text.takeWhile_ne_append hequals]
    simp only [htrim, hclean]
  unfold Token.classify
  simp only [hcontent, Key.isComment_assignment h, Key.isBracketed_append h, hentry]
  simp

theorem classify_assignment (h : Key.isValid key = true) (line : Nat) (body : Text) :
    Token.classify line (assignment key body)
      = .entry line (assignment key body) key (some (Line.cleanValue body)) :=
  classify_of_content h (content_assignment h body) line

/-- The line of an assigned text, with the white space gone that an empty text leaves. -/
theorem line_assigned (key text : Text) :
    Entry.line key (.assigned text) = '\t' :: (key ++ ' ' :: '=' :: Text.trimEnd (' ' :: text)) := by
  have hkept : Text.trimEnd (key ++ ' ' :: '=' :: ' ' :: text) ≠ [] := by
    rw [trimEnd_assignment]
    simp
  change Text.trimEnd (['\t'] ++ (key ++ ' ' :: '=' :: ' ' :: text)) = _
  rw [Text.trimEnd_append hkept, trimEnd_assignment]
  rfl

theorem classify_assigned (h : Key.isValid key = true) {text : Text}
    (htext : Line.cleanValue text = text) (line : Nat) :
    Token.classify line (Entry.line key (.assigned text))
      = .entry line (Entry.line key (.assigned text)) key (some text) := by
  have hcontent : (Entry.line key (.assigned text)).dropIndent.trimEnd
      = key ++ ' ' :: '=' :: Text.trimEnd (' ' :: text) := by
    rw [line_assigned, Key.dropIndent_append h, trimEnd_assignment, Text.trimEnd_trimEnd]
  rw [classify_of_content h hcontent, htext]

theorem classify_bare (h : Key.isValid key = true) (line : Nat) :
    Token.classify line (Entry.line key .bare) = .entry line (Entry.line key .bare) key none := by
  have hcontent : (Entry.line key .bare).dropIndent.trimEnd = key := by
    have hindent := Key.dropIndent_append h []
    rw [List.append_nil] at hindent
    change (Text.dropIndent ('\t' :: key)).trimEnd = key
    rw [hindent]
    exact Text.trimEnd_of_trim (Key.trim_of_isValid h)
  have hplain : key.dropWhile (· != '=') = [] := by
    rw [List.dropWhile_eq_nil_iff]
    intro c hc
    have hne : c ≠ '=' := by
      rintro rfl
      exact Key.not_mem_of_isValid h (by decide) hc
    simpa using hne
  have hbracket : Line.isBracketed key = false := by
    simpa using Key.isBracketed_append h []
  have hne : key ≠ [] := by
    rintro rfl
    cases h
  unfold Token.classify Token.ofEntry
  simp [hcontent, Key.isComment_of_isValid h, hbracket, hplain, Key.trim_of_isValid h, hne]

/-! ## Continuation -/

/-- Behind the equals sign a trimmed text keeps its space, unless it is empty. -/
theorem trimEnd_space_cons {text : Text} (htext : Text.trimEnd text = text) (hne : text ≠ []) :
    Text.trimEnd (' ' :: text) = ' ' :: text := by
  have hkept : Text.trimEnd text ≠ [] := by rwa [htext]
  have hspace : Text.trimEnd ([' '] ++ text) = [' '] ++ Text.trimEnd text :=
    Text.trimEnd_append hkept
  rwa [htext] at hspace

/-- A clean text goes on exactly if its line does. -/
theorem continues_assigned {text : Text} (htext : Text.trimEnd text = text) (key : Text) :
    Line.continues (Entry.line key (.assigned text)) = Line.continues text := by
  have hblank : Text.isBlank ' ' = true := rfl
  have hequals : '\t' :: (key ++ ' ' :: '=' :: Text.trimEnd (' ' :: text))
      = ('\t' :: (key ++ [' '])) ++ '=' :: Text.trimEnd (' ' :: text) := by simp
  rw [line_assigned, hequals, Line.continues_append_cons (by decide)]
  by_cases hempty : text = []
  · subst hempty
    simp [Text.trimEnd, hblank]
  · rw [trimEnd_space_cons htext hempty, Line.continues_cons (by decide)]

/-- Of a text that goes on nothing is trimmed. -/
theorem line_of_continues {text : Text} (htext : Text.trimEnd text = text)
    (h : Line.continues text = true) (key : Text) :
    Entry.line key (.assigned text) = assignment key text := by
  have hne : text ≠ [] := by
    rintro rfl
    cases h
  rw [line_assigned, trimEnd_space_cons htext hne]
  rfl

end Assignment

/-! ## Statements -/

namespace Statement

/-- A canonical one-line name, or a normal key with a clean line. -/
def WellFormed : Statement → Prop
  | header id => id.IsCanonical ∧ '\n' ∉ id.identity
  | occurrence key entry => Key.IsNormal key ∧ entry.WellFormed

/-- The line of the statement goes on in the next one. -/
def dangles : Statement → Bool
  | header _ => false
  | occurrence _ entry => entry.dangles

/-- No line starts with a backslash, so a run of backslashes lies within one line. -/
theorem exists_cons (statement : Statement) :
    ∃ c rest, statement.line = c :: rest ∧ c ≠ '\\' := by
  cases statement with
  | header id => exact ⟨'[', _, rfl, by decide⟩
  | occurrence key entry =>
      cases entry with
      | assigned text => exact ⟨'\t', _, line_assigned key text, by decide⟩
      | bare => exact ⟨'\t', key, rfl, by decide⟩

variable {statement : Statement}

theorem continues_line (h : statement.WellFormed) :
    Line.continues statement.line = statement.dangles := by
  cases statement with
  | header id => exact Line.continues_append_cons (by decide) ('[' :: id.identity) []
  | occurrence key entry =>
      cases entry with
      | assigned text =>
          have htrim := ((Line.cleanValue_eq_self_iff text).mp h.2.1).1
          exact continues_assigned (Text.trimEnd_of_trim htrim) key
      | bare =>
          change Line.continues ('\t' :: key) = false
          rw [Line.continues_cons (by decide), Bool.eq_false_iff]
          intro hcontinues
          have hmem : '\\' ∈ key := by
            rw [Line.eq_append_of_continues hcontinues]
            simp
          exact Key.not_mem_of_isValid h.1.1 (by decide) hmem

/-- Only the lines of occurrences may go on. -/
theorem opensEntry_line (h : statement.WellFormed) :
    Line.opensEntry statement.line = true ∨ statement.dangles = false := by
  cases statement with
  | header id => exact .inr rfl
  | occurrence key entry =>
      cases entry with
      | assigned text =>
          left
          have hkey := h.1.1
          change Line.opensEntry (Entry.line key (.assigned text)) = true
          rw [line_assigned]
          unfold Line.opensEntry
          simp [Key.dropIndent_append hkey, Key.isComment_assignment hkey,
            Key.isBracketed_append hkey]
      | bare => exact .inr rfl

theorem newline_not_mem_line (h : statement.WellFormed) : '\n' ∉ statement.line := by
  intro hmem
  cases statement with
  | header id =>
      have hid : '\n' ∈ id.identity := by simpa [line] using hmem
      exact h.2 hid
  | occurrence key entry =>
      have hkey : '\n' ∉ key := Key.not_mem_of_isValid h.1.1 (by decide)
      cases entry with
      | assigned text =>
          have hwhole : '\n' ∈ '\t' :: (key ++ ' ' :: '=' :: ' ' :: text) :=
            (Text.trimEnd_isPrefix _).subset hmem
          have htext : '\n' ∈ text := by simpa [hkey] using hwhole
          exact h.2.2 htext
      | bare =>
          have hwhole : '\n' ∈ key := by simpa [line, Entry.line] using hmem
          exact hkey hwhole

/-- No line ends in a carriage return. -/
theorem getLast?_line_ne (h : statement.WellFormed) : statement.line.getLast? ≠ some '\r' := by
  intro hlast
  have hblank : Text.isBlank '\r' = true := rfl
  cases statement with
  | header id =>
      change (('[' :: id.identity) ++ [']']).getLast? = some '\r' at hlast
      rw [List.getLast?_concat] at hlast
      cases hlast
  | occurrence key entry =>
      cases entry with
      | assigned text =>
          have hkept := Text.isBlank_getLast_of_trimEnd (Text.trimEnd_trimEnd _) hlast
          rw [hblank] at hkept
          cases hkept
      | bare =>
          have hmem : '\r' ∈ '\t' :: key := List.mem_of_getLast? hlast
          have hkey : '\r' ∈ key := by simpa using hmem
          exact Key.not_mem_of_isValid h.1.1 (by decide) hkey

/-- The lines of well-formed statements are the physical lines of their text, and an empty line
follows. -/
theorem physicalLines_of_lines {statements : List Statement}
    (h : ∀ statement ∈ statements, statement.WellFormed) :
    Line.physicalLines ((statements.map line).flatMap fun line => line ++ ['\n'])
      = statements.map line ++ [[]] := by
  induction statements with
  | nil => rfl
  | cons statement statements ih =>
      have hhead := h statement List.mem_cons_self
      have hrest := ih fun other hother => h other (List.mem_cons_of_mem statement hother)
      rw [List.map_cons, List.flatMap_cons, List.append_assoc, List.singleton_append,
        Line.physicalLines_append_newline (newline_not_mem_line hhead) (getLast?_line_ne hhead),
        hrest]
      rfl

end Statement

end ConfigEditor
