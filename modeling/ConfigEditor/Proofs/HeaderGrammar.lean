import ConfigEditor.Proofs.SectionGrammar
import ConfigEditor.Proofs.Tokens
set_option autoImplicit false

/-!
# Header lines: their grammar

A whole header as a grammar (`SectionId.IsHeader`): brackets around what spells an id, and perhaps
a comment behind them.  A line is a header exactly if its content is one
(`Token.classify_eq_header_iff`).
-/

namespace ConfigEditor

namespace SectionId

/-- What may stand at the end of a header: nothing, or a comment that stays on its line. -/
inductive ClosingComment : Text → Prop where
  | none : ClosingComment []
  | comment {c : Char} {rest : Text} : c = '#' ∨ c = ';' →
      (∀ d ∈ rest, Text.isLineEnd d = false) → ClosingComment (c :: rest)

/-- A header: what spells an id between brackets, and perhaps a comment. -/
inductive IsHeader : Text → SectionId → Prop where
  | intro {body blanks comment : Text} {id : SectionId} :
      Spells body id → Text.IsBlankRun blanks → ClosingComment comment →
      IsHeader ('[' :: (body ++ ']' :: (blanks ++ comment))) id

end SectionId

namespace Token

open SectionId

/-! ## Whole headers -/

/-- Behind the closing bracket white space may stand, and a comment. -/
theorem closesHeader_iff (after : Text) :
    closesHeader after = true ↔
      ∃ blanks comment, Text.IsBlankRun blanks ∧ ClosingComment comment ∧
        after = blanks ++ comment := by
  have hsplit : closesHeader after = true ↔ ClosingComment after.trimStart := by
    unfold closesHeader
    split
    · rename_i hnil
      rw [hnil]
      exact iff_of_true rfl .none
    · rename_i c tail hcons
      rw [hcons]
      simp only [Bool.and_eq_true, Bool.or_eq_true, beq_iff_eq, List.all_eq_true,
        Bool.not_eq_true']
      constructor
      · exact fun h => .comment h.1 h.2
      · intro h
        cases h with
        | comment hsign hline => exact ⟨hsign, hline⟩
  rw [hsplit]
  constructor
  · intro h
    obtain ⟨blanks, hblanks, heq⟩ := Text.exists_eq_append_trimStart after
    exact ⟨blanks, after.trimStart, hblanks, h, heq⟩
  · rintro ⟨blanks, comment, hblanks, hcomment, rfl⟩
    rw [hblanks.trimStart_append]
    cases hcomment with
    | none => exact .none
    | comment hsign hline =>
        have hblank : ∀ c : Char, c = '#' ∨ c = ';' → Text.isBlank c = false := by
          rintro c (rfl | rfl) <;> rfl
        rw [Text.trimStart_cons_of_not_blank (hblank _ hsign)]
        exact .comment hsign hline

/-- A header body stands between brackets, with nothing but a comment behind them. -/
theorem eq_of_headerBody? {content body : Text} (h : headerBody? content = some body) :
    ∃ blanks comment, Text.IsBlankRun blanks ∧ ClosingComment comment ∧
      content = '[' :: (body ++ ']' :: (blanks ++ comment)) := by
  unfold headerBody? at h
  split at h
  · split at h
    · rename_i inner after hsplit
      split at h
      · rename_i hcloses
        cases h
        obtain ⟨blanks, comment, hblanks, hcomment, rfl⟩ := (closesHeader_iff after).mp hcloses
        refine ⟨blanks, comment, hblanks, hcomment, ?_⟩
        rw [eq_append_of_splitHeader hsplit]
      · cases h
    · cases h
  · cases h

/-- The token of a bracketed content is a header exactly if the content is one. -/
theorem ofHeader_eq_header_iff (line n : Nat) (text t content : Text) (id : SectionId) :
    ofHeader line text content = header n t id ↔
      n = line ∧ t = text ∧ IsHeader content id := by
  constructor
  · intro h
    unfold ofHeader at h
    split at h
    · cases h
    · rename_i body hbody
      obtain ⟨blanks, comment, hblanks, hcomment, rfl⟩ := eq_of_headerBody? hbody
      split at h
      · rename_i hid
        cases h
        exact ⟨rfl, rfl, .intro (spells_of_ofHeader hid) hblanks hcomment⟩
      · cases h
  · rintro ⟨rfl, rfl, h⟩
    cases h with
    | @intro body blanks comment id hspells hblanks hcomment =>
        have hcloses : closesHeader (blanks ++ comment) = true :=
          (closesHeader_iff _).mpr ⟨blanks, comment, hblanks, hcomment, rfl⟩
        unfold ofHeader headerBody?
        simp [splitHeader_of_spells hspells, hcloses, ofHeader_of_spells hspells]

theorem isBracketed_of_isHeader {content : Text} {id : SectionId} (h : IsHeader content id) :
    Line.isBracketed content = true := by
  cases h with
  | intro _ _ _ => rfl

theorem isComment_of_isHeader {content : Text} {id : SectionId} (h : IsHeader content id) :
    Line.isComment content = false := by
  cases h with
  | intro _ _ _ =>
      rw [Line.isComment_cons_of_ne (by decide) (by decide),
        Line.isRemark_cons_of_ne (by decide)]

/-- A line is a header exactly if what is left of it, without indentation and without white space
at the end, is a header by the grammar; the token keeps the line as it is. -/
theorem classify_eq_header_iff (line n : Nat) (text t : Text) (id : SectionId) :
    classify line text = header n t id ↔
      n = line ∧ t = text ∧ IsHeader text.dropIndent.trimEnd id := by
  unfold classify
  simp only
  split
  · rename_i hempty
    rw [List.isEmpty_iff.mp hempty]
    refine iff_of_false (by simp) ?_
    rintro ⟨-, -, h⟩
    cases h
  · split
    · rename_i hcomment
      refine iff_of_false (by simp) ?_
      rintro ⟨-, -, h⟩
      rw [isComment_of_isHeader h] at hcomment
      cases hcomment
    · split
      · exact ofHeader_eq_header_iff line n text t _ id
      · rename_i hbracket
        refine iff_of_false ?_ ?_
        · unfold ofEntry
          split <;> simp
        · rintro ⟨-, -, h⟩
          exact hbracket (isBracketed_of_isHeader h)

/-- A bracket and an escaped quote between the quotes, and one more quote in the comment. -/
example : classify 3 "\t[ a.b \"x]\\\"\" ] ;\"".toList =
    header 3 "\t[ a.b \"x]\\\"\" ] ;\"".toList
      (ofParts "a.b".toList (some "x]\\\"".toList)) := by
  decide +kernel

end Token

end ConfigEditor
