import ConfigEditor.Proofs.LineGroups
set_option autoImplicit false

/-!
# Folded tokens: what joining lines makes of an entry

Only a line that opens an entry goes on, so a comment or a header never takes in the line after
it.  But the joined text is classified anew, and by then it may be something else.  This happens
in three ways and no other (`Token.isEntry_folded_iff`): nothing but white space is left; the
first line holds nothing but a backslash, so that what follows stands as if it came first; or the
first line holds the beginning of the word of a remark, and what follows completes it.
-/

namespace ConfigEditor

/-! ## White space at the end -/

namespace Line

open Text

/-- Behind the word of a remark and a blank, only the first character that is no white space
counts. -/
theorem isRemark_eq (r e m c : Char) (rest : Text) :
    isRemark (r :: e :: m :: c :: rest) =
      (r.toLower == 'r' && e.toLower == 'e' && m.toLower == 'm' && isBlank c &&
        (trimStart rest).head?.any (· != '=')) := by
  simp only [isRemark]
  cases trimStart rest <;> rfl

theorem isRemark_append_blank {c : Char} (hc : isBlank c = true) (s : Text) :
    isRemark (s ++ [c]) = isRemark s := by
  match s with
  | [] => rfl
  | [_] => rfl
  | [_, _] => rfl
  | [r, e, m] =>
      change isRemark (r :: e :: m :: c :: []) = false
      rw [isRemark_eq]
      exact Bool.and_false _
  | r :: e :: m :: d :: rest =>
      have hnone : trimStart [c] = [] := trimStart_cons_of_blank hc []
      change isRemark (r :: e :: m :: d :: (rest ++ [c])) = _
      rw [isRemark_eq, isRemark_eq, head?_trimStart_append, hnone, List.head?_nil, Option.or_none]

theorem ne_of_isBlank {c d : Char} (hc : isBlank c = true) (hd : isBlank d = false) : c ≠ d := by
  rintro rfl
  rw [hc] at hd
  cases hd

theorem isComment_append_blank {c : Char} (hc : isBlank c = true) (s : Text) :
    isComment (s ++ [c]) = isComment s := by
  cases s with
  | nil =>
      rw [List.nil_append, isComment_cons_of_ne (ne_of_isBlank hc rfl) (ne_of_isBlank hc rfl)]
      rfl
  | cons d rest =>
      have hremark := isRemark_append_blank hc (d :: rest)
      rw [List.cons_append] at hremark ⊢
      simp only [isComment, hremark]

theorem isBracketed_append_blank {c : Char} (hc : isBlank c = true) (s : Text) :
    isBracketed (s ++ [c]) = isBracketed s := by
  cases s with
  | nil =>
      have hne : c ≠ '[' := ne_of_isBlank hc rfl
      simp [isBracketed, hne]
  | cons d rest => rfl

end Line

/-! ## Entries -/

namespace Token

/-- The token is an entry. -/
def isEntry : Token → Bool
  | entry _ _ _ _ => true
  | _ => false

theorem isEntry_ofHeader (n : Nat) (text content : Text) :
    (ofHeader n text content).isEntry = false := by
  unfold ofHeader
  split
  · rfl
  · split <;> rfl

theorem isEntry_ofEntry (n : Nat) (text content : Text) :
    (ofEntry n text content).isEntry = true := by
  unfold ofEntry
  split <;> rfl

/-- A line is an entry if it would open one and is not all white space. -/
theorem isEntry_classify (n : Nat) (text : Text) :
    (classify n text).isEntry = true ↔
      Line.opensEntry text = true ∧ ∃ c ∈ text, Text.isBlank c = false := by
  have hcomment := Text.apply_trimEnd (fun s c hc => Line.isComment_append_blank hc s)
    text.dropIndent
  have hbracket := Text.apply_trimEnd (fun s c hc => Line.isBracketed_append_blank hc s)
    text.dropIndent
  rw [Text.exists_not_blank_iff]
  unfold classify Line.opensEntry
  simp only [hcomment, hbracket]
  by_cases hempty : Text.trimEnd text.dropIndent = []
  · simp [hempty, isEntry]
  · have hcontent : text.dropIndent ≠ [] := by
      intro hnil
      rw [hnil] at hempty
      exact hempty rfl
    rw [if_neg (by simpa using hempty)]
    split
    · rename_i hyes
      simp [hyes, isEntry]
    · rename_i hno
      split
      · rename_i hyes
        simp [hyes, isEntry_ofHeader]
      · rename_i hplain
        simp [hno, hplain, hcontent, hempty, isEntry_ofEntry]

end Token

/-! ## Joined lines -/

namespace Line

open Text

/-- A remark is its word, a blank, and something behind it. -/
theorem exists_of_isRemark {s : Text} (h : isRemark s = true) :
    ∃ r e m c rest, s = r :: e :: m :: c :: rest ∧
      r.toLower = 'r' ∧ e.toLower = 'e' ∧ m.toLower = 'm' ∧ isBlank c = true ∧
      (trimStart rest).head?.any (· != '=') = true := by
  match s, h with
  | r :: e :: m :: c :: rest, h =>
      rw [isRemark_eq] at h
      simp only [Bool.and_eq_true, beq_iff_eq] at h
      obtain ⟨⟨⟨⟨hr, he⟩, hm⟩, hblank⟩, hbehind⟩ := h
      exact ⟨r, e, m, c, rest, rfl, hr, he, hm, hblank, hbehind⟩

/-- The beginnings of the word of a remark. -/
def remarkStubs : List Text := [['r'], ['r', 'e'], ['r', 'e', 'm']]

/-- A text that is no remark with a backslash behind it becomes one with another text behind it
only if it is a beginning of the word: had it the blank too, the backslash would do. -/
theorem mem_remarkStubs {stub added : Text} (hne : stub ≠ [])
    (hslash : isRemark (stub ++ ['\\']) = false) (hremark : isRemark (stub ++ added) = true) :
    stub.map Char.toLower ∈ remarkStubs := by
  obtain ⟨r, e, m, c, rest, hsplit, hr, he, hm, hblank, hbehind⟩ := exists_of_isRemark hremark
  match stub, hne with
  | [_], _ =>
      obtain ⟨rfl, _⟩ := List.cons.inj hsplit
      simp [remarkStubs, hr]
  | [_, _], _ =>
      simp only [List.cons_append, List.cons.injEq] at hsplit
      obtain ⟨rfl, rfl, _⟩ := hsplit
      simp [remarkStubs, hr, he]
  | [_, _, _], _ =>
      simp only [List.cons_append, List.cons.injEq] at hsplit
      obtain ⟨rfl, rfl, rfl, _⟩ := hsplit
      simp [remarkStubs, hr, he, hm]
  | _ :: _ :: _ :: _ :: more, _ =>
      simp only [List.cons_append, List.cons.injEq] at hsplit
      obtain ⟨rfl, rfl, rfl, rfl, rfl⟩ := hsplit
      have hkept : trimStart ['\\'] = ['\\'] := rfl
      rw [head?_trimStart_append] at hbehind
      rw [List.cons_append, List.cons_append, List.cons_append, List.cons_append, isRemark_eq,
        head?_trimStart_append, hkept] at hslash
      cases hmore : (trimStart more).head? with
      | none => simp [hr, he, hm, hblank, hmore] at hslash
      | some d =>
          rw [hmore, Option.some_or] at hbehind
          simp [hr, he, hm, hblank, hmore] at hslash
          simp [hslash] at hbehind

/-- What a comment or a header is known by is its first character, unless it is a remark. -/
theorem opensEntry_iff_of_cons {line content : Text} {c : Char}
    (h : line.dropIndent = c :: content) :
    opensEntry line = true ↔
      (c ≠ '#' ∧ c ≠ ';' ∧ c ≠ '[') ∧ isRemark (c :: content) = false := by
  unfold opensEntry
  rw [h]
  simp only [isComment, isBracketed, List.isEmpty_cons, Bool.not_false, Bool.true_and,
    Bool.and_eq_true, Bool.not_eq_true', Bool.or_eq_false_iff, beq_eq_false_iff_ne]
  tauto

/-- An entry that goes on stays one unless its line is a lone backslash and what follows opens
none, or its line is a beginning of the word of a remark and what follows completes it. -/
theorem opensEntry_append_iff {s : Text} (h : opensEntry (s ++ ['\\']) = true) (t : Text) :
    opensEntry (s ++ t) = true ↔
      (s.dropIndent = [] → opensEntry t = true) ∧
        (s.dropIndent.map Char.toLower ∈ remarkStubs → isRemark (s.dropIndent ++ t) = false) := by
  by_cases hempty : s.dropIndent = []
  · have hsame : opensEntry (s ++ t) = opensEntry t := by
      unfold opensEntry
      rw [dropIndent_append, if_pos hempty]
    have hno : ([] : Text) ∉ remarkStubs := by simp [remarkStubs]
    rw [hsame, hempty]
    simp [hno]
  · have hslash : (s ++ ['\\']).dropIndent = s.dropIndent ++ ['\\'] := by
      rw [dropIndent_append, if_neg hempty]
    have hjoined : (s ++ t).dropIndent = s.dropIndent ++ t := by
      rw [dropIndent_append, if_neg hempty]
    obtain ⟨c, tail, hcons⟩ := List.exists_cons_of_ne_nil hempty
    rw [hcons, List.cons_append] at hslash hjoined
    obtain ⟨hfirst, hnone⟩ := (opensEntry_iff_of_cons hslash).mp h
    rw [opensEntry_iff_of_cons hjoined, hcons, List.cons_append]
    constructor
    · rintro ⟨_, hremark⟩
      exact ⟨fun hnil => absurd hnil (List.cons_ne_nil c tail), fun _ => hremark⟩
    · rintro ⟨_, hstub⟩
      refine ⟨hfirst, ?_⟩
      by_contra hremark
      rw [Bool.not_eq_false] at hremark
      have hmem := mem_remarkStubs (List.cons_ne_nil c tail) hnone hremark
      rw [hstub hmem] at hremark
      cases hremark

end Line

namespace LineGroup

/-- What the first line holds without its indentation and its last character. -/
def stub (g : LineGroup) : Text := Text.dropIndent g.opening.dropLast

/-- What the other lines add to the text. -/
def added (g : LineGroup) : Text := g.lines.tail.flatMap Line.withoutJoint

/-- What is joined makes nothing else of the entry that the first line opens. -/
structure StaysEntry (g : LineGroup) : Prop where
  notBlank : ∃ c ∈ g.text, Text.isBlank c = false
  notUncovered : g.stub = [] → Line.opensEntry g.added = true
  notCompleted : g.stub.map Char.toLower ∈ Line.remarkStubs →
    Line.isRemark (g.stub ++ g.added) = false

/-- The first of several lines goes on. -/
theorem IsFormed.continues_opening {g : LineGroup} (h : g.IsFormed) (hlength : 2 ≤ g.lines.length) :
    Line.continues g.opening = true := by
  apply h.goesOn
  match hlines : g.lines, hlength with
  | head :: second :: rest, _ => simp [opening, hlines]

theorem IsFormed.text_eq {g : LineGroup} (h : g.IsFormed) (hlength : 2 ≤ g.lines.length) :
    g.text = g.opening.dropLast ++ g.added := by
  have hgoes := h.continues_opening hlength
  have hhead : g.lines = g.opening :: g.lines.tail := by
    obtain ⟨head, rest, hlines⟩ := List.exists_cons_of_ne_nil h.ne_nil
    simp [opening, hlines]
  unfold text
  rw [if_pos (h.opens hlength), hhead, List.flatMap_cons, Line.withoutJoint, if_pos hgoes]
  rfl

/-- A token of several lines is an entry exactly if nothing else is made of it. -/
theorem IsFormed.isEntry_token_iff {g : LineGroup} (h : g.IsFormed)
    (hlength : 2 ≤ g.lines.length) : g.token.isEntry = true ↔ g.StaysEntry := by
  have hopens := h.opens hlength
  rw [Line.eq_append_of_continues (h.continues_opening hlength)] at hopens
  have hjoined := Line.opensEntry_append_iff hopens g.added
  rw [← h.text_eq hlength] at hjoined
  unfold token
  rw [Token.isEntry_classify, hjoined]
  constructor
  · rintro ⟨⟨huncovered, hcompleted⟩, hblank⟩
    exact ⟨hblank, huncovered, hcompleted⟩
  · intro hstays
    exact ⟨⟨hstays.notUncovered, hstays.notCompleted⟩, hstays.notBlank⟩

end LineGroup

/-! ## Tokens of several lines -/

namespace Token

/-- The tokens of a text are those of its line groups, which hold its lines in order.  A group of
several lines was opened by an entry, and its token is one exactly if nothing else was made of it
by joining. -/
theorem isEntry_folded_iff (text : Text) :
    tokenize text = (LineGroup.ofText text).map LineGroup.token ∧
      (LineGroup.ofText text).flatMap LineGroup.lines = Line.physicalLines text ∧
      ∀ g ∈ LineGroup.ofText text, 2 ≤ g.lines.length →
        Line.opensEntry g.opening = true ∧ (g.token.isEntry = true ↔ g.StaysEntry) := by
  refine ⟨tokenize_eq text, LineGroup.flatMap_lines_ofText text, ?_⟩
  intro g hg hlength
  have hformed := LineGroup.isFormed_of_mem_ofText hg
  exact ⟨hformed.opens hlength, hformed.isEntry_token_iff hlength⟩

/-- An entry takes in a line that would be a header by itself, and stays one. -/
theorem isEntry_folded_over_header :
    ∃ g ∈ LineGroup.ofText "k = a\\\n[b]".toList, 2 ≤ g.lines.length ∧
      (g.token.isEntry = true ↔ g.StaysEntry) := by
  have hmem : (⟨1, ["k = a\\".toList, "[b]".toList]⟩ : LineGroup)
      ∈ LineGroup.ofText "k = a\\\n[b]".toList := by decide +kernel
  exact ⟨_, hmem, by decide, ((isEntry_folded_iff _).2.2 _ hmem (by decide)).2⟩

/-- A line that is nothing but a backslash opens an entry, and the header behind it is read as if
it came first. -/
theorem header_behind_backslash :
    ¬ ∀ g ∈ LineGroup.ofText "\\\n[a]".toList, 2 ≤ g.lines.length → g.token.isEntry = true := by
  decide +kernel

end Token

end ConfigEditor
