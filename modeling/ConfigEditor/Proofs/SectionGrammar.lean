import ConfigEditor.Proofs.Lines
import ConfigEditor.Proofs.Text.Escape
import ConfigEditor.Token
set_option autoImplicit false

/-!
# Section names: their grammar

What may stand between the brackets of a header, and what a caller may give as an identity, from
the inside out: what stands between double quotes and the subsection that it means (`Quotes`), what
may stand behind a name (`Qualifier`), and the whole (`Spells`).  The grammar mentions no reader.

Readers go through a header twice, once for the closing bracket and once for the name, and each
time a quoted text is passed over.  Both times they follow the grammar.  Exactly the texts that
spell an id are read as it (`ofHeader_eq_ok_iff`), and on the way to the bracket a header line goes
through all of such a text, whatever follows (`splitHeader_of_spells`).
-/

namespace ConfigEditor

namespace SectionId

/-! ## The grammar -/

/-- What may stand between the quotes: no quote and no backslash, but for backslashes that take
the next character with them; that one ends no line. -/
inductive Quoted : Text → Prop where
  | nil : Quoted []
  | char {c : Char} {s : Text} : c ≠ '"' → c ≠ '\\' → Quoted s → Quoted (c :: s)
  | escape {c : Char} {s : Text} : Text.isLineEnd c = false → Quoted s → Quoted ('\\' :: c :: s)

/-- A text between double quotes and the subsection that it means.  No quote stands there and no
backslash, but for backslashes that take the next character with them, and of such a pair only
that character is meant; it ends no line. -/
inductive Quotes : Text → Text → Prop where
  | nil : Quotes [] []
  | char {c : Char} {raw sub : Text} :
      c ≠ '"' → c ≠ '\\' → Quotes raw sub → Quotes (c :: raw) (c :: sub)
  | pair {c : Char} {raw sub : Text} :
      Text.isLineEnd c = false → Quotes raw sub → Quotes ('\\' :: c :: raw) (c :: sub)

/-- What may stand behind a name: nothing, or white space and a text between double quotes. -/
inductive Qualifier : Text → Option Text → Option Text → Prop where
  | none : Qualifier [] none none
  | quoted {blanks raw sub : Text} : blanks ≠ [] → Text.IsBlankRun blanks → Quotes raw sub →
      Qualifier (blanks ++ '"' :: (raw ++ ['"'])) (some raw) (some sub)

/-- What spells an id: a name and what may stand behind it, with white space around.  The id has
the name, the quoted text as it stands, and the subsection that is meant. -/
inductive Spells : Text → SectionId → Prop where
  | intro {front name qualifier back : Text} {raw sub : Option Text} :
      Text.IsBlankRun front → name ≠ [] → (∀ c ∈ name, Text.isNameChar c = true) →
      Qualifier qualifier raw sub → Text.IsBlankRun back →
      Spells (front ++ (name ++ qualifier) ++ back) ⟨spell name raw, name, sub⟩

/-! ## The two readers of a quoted text -/

theorem quotedToEnd_of_quoted {raw : Text} (h : Quoted raw) :
    quotedToEnd (raw ++ ['"']) = some raw := by
  induction h with
  | nil => rfl
  | @char c s hquote hslash _ ih =>
      rw [List.cons_append, quotedToEnd, ih]
      · rfl
      all_goals simp_all
  | @escape c s hend _ ih =>
      simp [quotedToEnd, hend, ih]

theorem quoted_of_quotedToEnd {s raw : Text} (h : quotedToEnd s = some raw) :
    s = raw ++ ['"'] ∧ Quoted raw := by
  fun_induction quotedToEnd s generalizing raw with
  | case1 => simp at h
  | case2 =>
      have hraw : raw = [] := by simpa using h.symm
      subst hraw
      exact ⟨rfl, .nil⟩
  | case3 => simp at h
  | case4 => simp at h
  | case5 c rest hend => simp at h
  | case6 c rest hend ih =>
      obtain ⟨inner, hinner, rfl⟩ := Option.map_eq_some_iff.mp h
      obtain ⟨rfl, hquoted⟩ := ih hinner
      exact ⟨rfl, .escape (by simpa using hend) hquoted⟩
  | case7 c rest hsingle hquote hlone hslash ih =>
      obtain ⟨inner, hinner, rfl⟩ := Option.map_eq_some_iff.mp h
      obtain ⟨rfl, hquoted⟩ := ih hinner
      refine ⟨rfl, .char ?_ ?_ hquoted⟩
      · rintro rfl
        cases inner with
        | nil => exact hquote '"' [] rfl rfl
        | cons d inner => exact hquote d (inner ++ ['"']) rfl rfl
      · rintro rfl
        cases inner with
        | nil => exact hslash '"' [] rfl rfl
        | cons d inner => exact hslash d (inner ++ ['"']) rfl rfl

/-! ## Quoted texts -/

theorem unescape_cons_of_ne {c : Char} (hslash : c ≠ '\\') (s : Text) :
    EscapeCodec.subsection.unescape (c :: s) = c :: EscapeCodec.subsection.unescape s :=
  EscapeCodec.unescape_cons (by simpa [EscapeCodec.subsection] using hslash) s

/-- Behind a backslash every character stands for itself. -/
theorem replaceChar_subsection_unescapes (c : Char) :
    EscapeCodec.subsection.unescapes.replaceChar c = [c] := by
  by_cases hslash : c = '\\'
  · subst hslash
    rfl
  · by_cases hquote : c = '"'
    · subst hquote
      rfl
    · have hslash' : ('\\' : Char) ≠ c := fun e => hslash e.symm
      have hquote' : ('"' : Char) ≠ c := fun e => hquote e.symm
      simp [EscapeCodec.subsection, EscapeCodec.unescapes, ReplacementTable.replaceChar,
        ReplacementTable.find?, hslash', hquote']

theorem unescape_pair (c : Char) (s : Text) :
    EscapeCodec.subsection.unescape ('\\' :: c :: s) =
      c :: EscapeCodec.subsection.unescape s := by
  rw [EscapeCodec.unescape_lead_cons rfl, replaceChar_subsection_unescapes, List.singleton_append]

/-- A text that may be quoted means what unescaping makes of it. -/
theorem quotes_iff (raw sub : Text) :
    Quotes raw sub ↔ Quoted raw ∧ sub = EscapeCodec.subsection.unescape raw := by
  constructor
  · intro h
    induction h with
    | nil => exact ⟨.nil, rfl⟩
    | char hquote hslash _ ih =>
        obtain ⟨hquoted, rfl⟩ := ih
        exact ⟨.char hquote hslash hquoted, (unescape_cons_of_ne hslash _).symm⟩
    | pair hend _ ih =>
        obtain ⟨hquoted, rfl⟩ := ih
        exact ⟨.escape hend hquoted, (unescape_pair _ _).symm⟩
  · rintro ⟨h, rfl⟩
    induction h with
    | nil => exact .nil
    | char hquote hslash _ ih =>
        rw [unescape_cons_of_ne hslash]
        exact .char hquote hslash ih
    | escape hend _ ih =>
        rw [unescape_pair]
        exact .pair hend ih

/-! ## Names -/

theorem isValidName_iff (name : Text) :
    isValidName name = true ↔ name ≠ [] ∧ ∀ c ∈ name, Text.isNameChar c = true := by
  simp [isValidName]

theorem ne_of_isNameChar {c d : Char} (hc : Text.isNameChar c = true)
    (hd : Text.isNameChar d = false) : c ≠ d := by
  rintro rfl
  rw [hc] at hd
  cases hd

theorem isNameChar_of_mem {name : Text} (h : isValidName name = true) :
    ∀ c ∈ name, Text.isNameChar c = true :=
  ((isValidName_iff name).mp h).2

theorem isBlank_of_mem_name {name : Text} (h : isValidName name = true) :
    ∀ c ∈ name, Text.isBlank c = false := fun c hc =>
  Text.isBlank_of_isNameChar (isNameChar_of_mem h c hc)

theorem ne_nil_of_isValidName {name : Text} (h : isValidName name = true) : name ≠ [] :=
  ((isValidName_iff name).mp h).1

/-! ## Between the brackets -/

theorem subsectionAfterName_nil : subsectionAfterName [] = some none := by
  rw [subsectionAfterName.eq_def]

theorem subsectionAfterName_cons (c : Char) (rest : Text) :
    subsectionAfterName (c :: rest) =
      match Text.trimStart (c :: rest) with
      | '"' :: inner => (quotedToEnd inner).map some
      | _ => none :=
  subsectionAfterName.eq_def (c :: rest)

/-- What stands behind a name is read as the grammar says. -/
theorem subsectionAfterName_eq_some_iff {rest : Text}
    (hrest : ∀ c, rest.head? = some c → Text.isBlank c = true) (raw : Option Text) :
    subsectionAfterName rest = some raw ↔
      Qualifier rest raw (raw.map EscapeCodec.subsection.unescape) := by
  constructor
  · intro h
    cases rest with
    | nil =>
        obtain rfl : none = raw := Option.some.inj (subsectionAfterName_nil.symm.trans h)
        exact .none
    | cons first rest =>
        rw [subsectionAfterName_cons] at h
        split at h
        · rename_i inner hinner
          obtain ⟨inside, hread, rfl⟩ := Option.map_eq_some_iff.mp h
          obtain ⟨rfl, hquoted⟩ := quoted_of_quotedToEnd hread
          obtain ⟨blanks, hblanks, hsplit⟩ := Text.exists_eq_append_trimStart (first :: rest)
          rw [hinner] at hsplit
          rw [hsplit]
          refine .quoted ?_ hblanks ((quotes_iff _ _).mpr ⟨hquoted, rfl⟩)
          rintro rfl
          -- The text would start with the quote, which is no white space.
          have hfirst : Text.isBlank '"' = true := hrest '"' (by rw [hsplit]; rfl)
          cases hfirst
        · cases h
  · intro h
    cases h with
    | none => exact subsectionAfterName_nil
    | @quoted blanks raw sub hne hblanks hquotes =>
        obtain ⟨hquoted, -⟩ := (quotes_iff _ _).mp hquotes
        obtain ⟨first, others, rfl⟩ := List.exists_cons_of_ne_nil hne
        have hquote : Text.isBlank '"' = false := rfl
        have hinner : Text.trimStart (first :: others ++ '"' :: (raw ++ ['"']))
            = '"' :: (raw ++ ['"']) := by
          rw [hblanks.trimStart_append, Text.trimStart_cons_of_not_blank hquote]
        rw [List.cons_append] at hinner ⊢
        rw [subsectionAfterName_cons, hinner]
        simp [quotedToEnd_of_quoted hquoted]

/-- What is spelled by a name and its qualifier has no white space at either end. -/
theorem trim_qualified {name qualifier : Text} {raw sub : Option Text}
    (hname : isValidName name = true) (h : Qualifier qualifier raw sub) :
    Text.trim (name ++ qualifier) = name ++ qualifier := by
  cases h with
  | none =>
      rw [List.append_nil]
      exact Text.trim_eq_self_of_forall (isBlank_of_mem_name hname)
  | @quoted blanks raw sub _ _ _ =>
      obtain ⟨c, others, rfl⟩ := List.exists_cons_of_ne_nil (ne_nil_of_isValidName hname)
      have hc := isBlank_of_mem_name hname c List.mem_cons_self
      refine Text.trim_eq_self (Text.trimStart_cons_of_not_blank hc _) ?_
      have hlast : c :: others ++ (blanks ++ '"' :: (raw ++ ['"']))
          = (c :: others ++ (blanks ++ '"' :: raw)) ++ ['"'] := by simp
      refine Text.trimEnd_eq_self fun d hd => ?_
      rw [hlast, List.getLast?_concat] at hd
      obtain rfl := Option.some.inj hd
      rfl

theorem Qualifier.eq_unescape {qualifier : Text} {raw sub : Option Text}
    (h : Qualifier qualifier raw sub) : sub = raw.map EscapeCodec.subsection.unescape := by
  cases h with
  | none => rfl
  | quoted _ _ hquotes => exact congrArg some ((quotes_iff _ _).mp hquotes).2

/-- What is quoted in a qualifier may be quoted, and stands there. -/
theorem Qualifier.quoted_of_mem {qualifier : Text} {raw sub : Option Text}
    (h : Qualifier qualifier raw sub) : ∀ r ∈ raw, Quoted r ∧ r ⊆ qualifier := by
  cases h with
  | none => simp
  | quoted _ _ hquotes =>
      rintro r ⟨⟩
      refine ⟨((quotes_iff _ _).mp hquotes).1, fun c hc => ?_⟩
      exact List.mem_append_right _ (List.mem_cons_of_mem _ (List.mem_append_left _ hc))

/-- A qualifier begins with white space. -/
theorem isBlank_head_of_qualifier {qualifier : Text} {raw sub : Option Text}
    (h : Qualifier qualifier raw sub) :
    ∀ c, qualifier.head? = some c → Text.isBlank c = true := by
  cases h with
  | none => simp
  | quoted hne hblanks _ =>
      obtain ⟨first, others, rfl⟩ := List.exists_cons_of_ne_nil hne
      intro c hc
      obtain rfl : first = c := Option.some.inj hc
      exact hblanks first List.mem_cons_self

/-- What is left of a text from its first white space on begins with it. -/
theorem isBlank_head_dropWhile (s : Text) :
    ∀ c, (s.dropWhile fun c => !Text.isBlank c).head? = some c → Text.isBlank c = true := by
  intro c hc
  have hstop := List.head?_dropWhile_not (fun c => !Text.isBlank c) s
  rw [hc] at hstop
  simpa using hstop

/-- A reader that has found an id has read what spells it. -/
theorem spells_of_ofHeader {text : Text} {id : SectionId} (h : ofHeader text = .ok id) :
    Spells text id := by
  obtain ⟨front, back, hfront, hback, htext⟩ := Text.exists_eq_trim_between text
  have hbody : text.trim.takeWhile (fun c => !Text.isBlank c)
      ++ text.trim.dropWhile (fun c => !Text.isBlank c) = text.trim :=
    List.takeWhile_append_dropWhile
  unfold ofHeader at h
  simp only at h
  split at h
  · rename_i raw hraw
    split at h
    · rename_i hname
      cases h
      obtain ⟨hne, hchars⟩ := (isValidName_iff _).mp hname
      have hqualifier :=
        (subsectionAfterName_eq_some_iff (isBlank_head_dropWhile text.trim) raw).mp hraw
      have hspells := Spells.intro hfront hne hchars hqualifier hback
      rw [hbody, ← htext] at hspells
      exact hspells
    · cases h
  · cases h

/-- What spells an id is read as it. -/
theorem ofHeader_of_spells {text : Text} {id : SectionId} (h : Spells text id) :
    ofHeader text = .ok id := by
  cases h with
  | @intro front name qualifier back raw sub hfront hne hchars hqualifier hback =>
      have hname : isValidName name = true := (isValidName_iff name).mpr ⟨hne, hchars⟩
      have hplain : ∀ c ∈ name, (!Text.isBlank c) = true := by
        simpa using isBlank_of_mem_name hname
      have hblank := isBlank_head_of_qualifier hqualifier
      have hstop : ∀ c, qualifier.head? = some c → (!Text.isBlank c) = false := by
        simpa using hblank
      obtain rfl := hqualifier.eq_unescape
      have hread := (subsectionAfterName_eq_some_iff hblank raw).mpr hqualifier
      unfold ofHeader
      rw [Text.trim_between hfront hback, trim_qualified hname hqualifier]
      simp [Text.takeWhile_append_stop hplain hstop, Text.dropWhile_append_stop hplain hstop,
        hread, hname, ofParts]

/-! ## Through a header line -/

theorem splitHeader_quoted_cons {c : Char} (hslash : c ≠ '\\') (rest : Text) :
    Token.splitHeader true (c :: rest) =
      (Token.splitHeader (c != '"') rest).map fun (body, after) => (c :: body, after) := by
  rw [Token.splitHeader.eq_def]
  simp [hslash]

theorem splitHeader_plain_cons {c : Char} (hclose : c ≠ ']') (rest : Text) :
    Token.splitHeader false (c :: rest) =
      (Token.splitHeader (c == '"') rest).map fun (body, after) => (c :: body, after) := by
  rw [Token.splitHeader.eq_def]
  simp [hclose]

theorem splitHeader_escape {c : Char} (hend : Text.isLineEnd c = false) (rest : Text) :
    Token.splitHeader true ('\\' :: c :: rest) =
      (Token.splitHeader true rest).map fun (body, after) => ('\\' :: c :: body, after) := by
  rw [Token.splitHeader.eq_def]
  simp [hend]

/-- A header line goes through a quoted text and its closing quote. -/
theorem splitHeader_quoted {raw : Text} (h : Quoted raw) (rest : Text) :
    Token.splitHeader true (raw ++ '"' :: rest) =
      (Token.splitHeader false rest).map fun (body, after) => (raw ++ '"' :: body, after) := by
  induction h with
  | nil => exact splitHeader_quoted_cons (by decide) rest
  | @char c s hquote hslash _ ih =>
      have hstays : (c != '"') = true := by simpa using hquote
      rw [List.cons_append, splitHeader_quoted_cons hslash, hstays, ih]
      simp [Function.comp_def]
  | escape hend _ ih =>
      rw [List.cons_append, List.cons_append, splitHeader_escape hend, ih]
      simp [Function.comp_def]

/-- A header line goes through a text without quotes and closing brackets. -/
theorem splitHeader_plain {s : Text} (h : ∀ c ∈ s, c ≠ '"' ∧ c ≠ ']') (rest : Text) :
    Token.splitHeader false (s ++ rest) =
      (Token.splitHeader false rest).map fun (body, after) => (s ++ body, after) := by
  induction s with
  | nil => simp
  | cons c s ih =>
      obtain ⟨hquote, hclose⟩ := h c List.mem_cons_self
      have hrest := ih fun d hd => h d (List.mem_cons_of_mem c hd)
      have hopens : (c == '"') = false := by simpa using hquote
      rw [List.cons_append, splitHeader_plain_cons hclose, hopens, hrest]
      simp [Function.comp_def]

/-- On the way to the closing bracket a header line goes through all that spells an id. -/
theorem splitHeader_of_spells {body : Text} {id : SectionId} (h : Spells body id) (rest : Text) :
    Token.splitHeader false (body ++ ']' :: rest) = some (body, rest) := by
  cases h with
  | @intro front name qualifier back raw sub hfront hne hchars hqualifier hback =>
      have hrun : ∀ w : Text, Text.IsBlankRun w → ∀ c ∈ w, c ≠ '"' ∧ c ≠ ']' := by
        intro w hw c hc
        have hblank := hw c hc
        constructor <;> rintro rfl <;> cases hblank
      have hplain : ∀ c ∈ name, c ≠ '"' ∧ c ≠ ']' := fun c hc =>
        ⟨ne_of_isNameChar (hchars c hc) (by decide), ne_of_isNameChar (hchars c hc) (by decide)⟩
      have hclose : Token.splitHeader false (']' :: rest) = some ([], rest) := by
        rw [Token.splitHeader.eq_def]
        rfl
      have hend := splitHeader_plain (hrun back hback) (']' :: rest)
      rw [hclose] at hend
      cases hqualifier with
      | none =>
          simp only [List.append_nil, List.append_assoc]
          rw [splitHeader_plain (hrun front hfront), splitHeader_plain hplain, hend]
          simp
      | @quoted blanks raw sub _ hblanks hquotes =>
          obtain ⟨hquoted, -⟩ := (quotes_iff _ _).mp hquotes
          have hopen := splitHeader_plain_cons (c := '"') (by decide)
            (raw ++ '"' :: (back ++ ']' :: rest))
          rw [beq_self_eq_true, splitHeader_quoted hquoted, hend] at hopen
          simp only [List.append_assoc, List.cons_append, List.nil_append]
          rw [splitHeader_plain (hrun front hfront), splitHeader_plain hplain,
            splitHeader_plain (hrun blanks hblanks), hopen]
          simp

end SectionId

end ConfigEditor
