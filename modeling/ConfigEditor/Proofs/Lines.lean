import ConfigEditor.Line
import ConfigEditor.Proofs.Text.Trim
set_option autoImplicit false

/-!
# Lines, continuation and values

Three facts about the parts that lines are made of.

* A text that does not end in a carriage return keeps its lines when a line feed and another text
  follow (`physicalLines_append`); if it holds no line feed it is split off as it stands
  (`physicalLines_append_newline`).  No physical line holds a line feed
  (`newline_not_mem_of_mem_physicalLines`).
* Whether a text goes on in the next line is decided after its last character that is no
  backslash (`continues_append_cons`); once the last backslash is dropped it goes on no more
  (`continues_dropLast`).
* Cleaning a value twice is cleaning it once (`cleanValue_cleanValue`), and white space around
  a value does not matter.
-/

namespace ConfigEditor.Line

open Text

/-! ## Physical lines -/

theorem physicalLines_ne_nil (text : Text) : physicalLines text ≠ [] := by
  fun_cases physicalLines text <;> simp [*]

/-- A character that ends no line goes to the front of the first line of what follows. -/
theorem physicalLines_cons {c : Char} {rest : Text} {line : Text} {lines : List Text}
    (hn : c ≠ '\n') (hr : c = '\r' → rest.head? ≠ some '\n')
    (h : physicalLines rest = line :: lines) :
    physicalLines (c :: rest) = (c :: line) :: lines := by
  rw [physicalLines, h]
  · exact hn
  · intro tail hc hrest
    exact hr hc (by simp [hrest])

/-- A line feed between two texts ends the last line of the first. -/
theorem physicalLines_append {text : Text} (hr : text.getLast? ≠ some '\r') (rest : Text) :
    physicalLines (text ++ '\n' :: rest) = physicalLines text ++ physicalLines rest := by
  fun_induction physicalLines text with
  | case1 => rfl
  | case2 tail ih =>
      have htail : tail.getLast? ≠ some '\r' := by
        cases tail with
        | nil => simp
        | cons d tail => rwa [List.getLast?_cons_cons] at hr
      rw [List.cons_append, physicalLines, ih htail, List.cons_append]
  | case3 tail ih =>
      have htail : tail.getLast? ≠ some '\r' := by
        cases tail with
        | nil => simp
        | cons d tail => rwa [List.getLast?_cons_cons, List.getLast?_cons_cons] at hr
      rw [List.cons_append, List.cons_append, physicalLines, ih htail, List.cons_append]
  | case4 c tail hn hbreak h => exact absurd h (physicalLines_ne_nil tail)
  | case5 c tail hn hbreak line lines h ih =>
      rw [h] at ih
      cases tail with
      | nil =>
          have hc : c = '\r' → ('\n' :: rest).head? ≠ some '\n' := by
            rintro rfl
            exact absurd rfl hr
          exact physicalLines_cons hn hc (ih (by simp))
      | cons d tail =>
          rw [List.getLast?_cons_cons] at hr
          refine physicalLines_cons hn ?_ (ih hr)
          intro hc hhead
          have hd : d = '\n' := by simpa using hhead
          exact hbreak tail hc (hd ▸ rfl)

/-- A text without line feeds is one line. -/
theorem physicalLines_of_not_mem {line : Text} (hn : '\n' ∉ line) :
    physicalLines line = [line] := by
  induction line with
  | nil => rfl
  | cons c line ih =>
      have hc : c ≠ '\n' := fun e => hn (e ▸ List.mem_cons_self)
      have hrest : '\n' ∉ line := fun e => hn (List.mem_cons_of_mem c e)
      refine physicalLines_cons hc ?_ (ih hrest)
      exact fun _ hhead => hrest (List.mem_of_mem_head? hhead)

theorem physicalLines_append_newline {line : Text} (hn : '\n' ∉ line)
    (hr : line.getLast? ≠ some '\r') (rest : Text) :
    physicalLines (line ++ '\n' :: rest) = line :: physicalLines rest := by
  rw [physicalLines_append hr, physicalLines_of_not_mem hn, List.singleton_append]

theorem newline_not_mem_of_mem_physicalLines {text : Text} :
    ∀ line ∈ physicalLines text, '\n' ∉ line := by
  fun_induction physicalLines text with
  | case1 => simp
  | case2 rest ih => simpa using ih
  | case3 rest ih => simpa using ih
  | case4 c rest hn hr h => exact absurd h (physicalLines_ne_nil rest)
  | case5 c rest hn hr line lines h ih =>
      rw [h] at ih
      intro other hother
      rcases List.mem_cons.mp hother with rfl | hother
      · have hline := ih line List.mem_cons_self
        simpa [Ne.symm hn] using hline
      · exact ih other (List.mem_cons_of_mem _ hother)

theorem append_newline_inj {a b s t : Text} (ha : '\n' ∉ a) (hb : '\n' ∉ b)
    (h : a ++ '\n' :: s = b ++ '\n' :: t) : a = b ∧ s = t := by
  rcases List.append_eq_append_iff.mp h with ⟨mid, rfl, hmid⟩ | ⟨mid, rfl, hmid⟩
  · cases mid with
    | nil => exact ⟨(List.append_nil a).symm, (List.cons.inj hmid).2⟩
    | cons c mid =>
        obtain ⟨rfl, _⟩ := List.cons.inj hmid
        simp at hb
  · cases mid with
    | nil => exact ⟨List.append_nil b, (List.cons.inj hmid).2.symm⟩
    | cons c mid =>
        obtain ⟨rfl, _⟩ := List.cons.inj hmid
        simp at ha

/-- Lines without line feeds are told apart by their text. -/
theorem eq_of_flatMap_newline {a b : List Text} (ha : ∀ line ∈ a, '\n' ∉ line)
    (hb : ∀ line ∈ b, '\n' ∉ line)
    (h : (a.flatMap fun line => line ++ ['\n']) = b.flatMap fun line => line ++ ['\n']) :
    a = b := by
  induction a generalizing b with
  | nil =>
      cases b with
      | nil => rfl
      | cons line lines => simp at h
  | cons line lines ih =>
      cases b with
      | nil => simp at h
      | cons other others =>
          simp only [List.flatMap_cons, List.append_assoc, List.singleton_append] at h
          have hline : '\n' ∉ line := ha line List.mem_cons_self
          have hother : '\n' ∉ other := hb other List.mem_cons_self
          obtain ⟨rfl, hrest⟩ := append_newline_inj hline hother h
          have hlines := ih (fun l hl => ha l (List.mem_cons_of_mem line hl))
            (fun l hl => hb l (List.mem_cons_of_mem line hl)) hrest
          rw [hlines]

/-! ## Comments and remarks -/

/-- A remark starts with the letter `r`. -/
theorem isRemark_cons_of_ne {c : Char} (hc : c.toLower ≠ 'r') (rest : Text) :
    isRemark (c :: rest) = false := by
  unfold isRemark
  split
  · rename_i heq
    obtain ⟨rfl, -⟩ := List.cons.inj heq
    simp [hc]
  · rfl

/-- A content that starts with none of the letters and signs of comments is none. -/
theorem isComment_cons_of_ne {c : Char} (hhash : c ≠ '#') (hsemicolon : c ≠ ';')
    (rest : Text) : isComment (c :: rest) = isRemark (c :: rest) := by
  simp [isComment, hhash, hsemicolon]

/-! ## Continuation -/

@[simp] theorem continues_nil : continues [] = false := rfl

theorem trailingCount_append_cons {c : Char} (hc : c ≠ '\\') (s t : Text) :
    trailingCount ['\\'] (s ++ c :: t) = trailingCount ['\\'] t := by
  have hstop : (c :: s.reverse).takeWhile (fun d => [d] == ['\\']) = [] := by
    simp [hc]
  unfold trailingCount
  rw [List.reverse_append, List.reverse_cons, List.append_assoc, List.takeWhile_append]
  split
  · rename_i hall
    rw [List.singleton_append, hstop, List.append_nil, hall]
  · rfl

/-- Only what follows the last character other than a backslash counts. -/
theorem continues_append_cons {c : Char} (hc : c ≠ '\\') (s t : Text) :
    continues (s ++ c :: t) = continues t := by
  unfold continues
  rw [trailingCount_append_cons hc]

theorem continues_cons {c : Char} (hc : c ≠ '\\') (t : Text) :
    continues (c :: t) = continues t :=
  continues_append_cons hc [] t

theorem trailingCount_append_backslash (s : Text) :
    trailingCount ['\\'] (s ++ ['\\']) = trailingCount ['\\'] s + 1 := by
  simp [trailingCount]

/-- A text that goes on ends in a backslash. -/
theorem eq_append_of_continues {t : Text} (h : continues t = true) :
    t = t.dropLast ++ ['\\'] := by
  rcases List.eq_nil_or_concat t with rfl | ⟨s, c, rfl⟩
  · simp at h
  · rw [List.concat_eq_append] at h ⊢
    by_cases hc : c = '\\'
    · simp [hc]
    · rw [continues_append_cons hc] at h
      simp at h

theorem continues_dropLast {t : Text} (h : continues t = true) :
    continues t.dropLast = false := by
  have hcount : continues (t.dropLast ++ ['\\']) = true := by
    rwa [← eq_append_of_continues h]
  simp only [continues, trailingCount_append_backslash, beq_iff_eq] at hcount
  simp only [continues, beq_eq_false_iff_ne]
  omega

/-! ## Values -/

theorem beforeComment_isPrefix (afterBlank : Bool) (s : Text) :
    beforeComment afterBlank s <+: s := by
  induction s generalizing afterBlank with
  | nil => simp [beforeComment]
  | cons c s ih =>
      unfold beforeComment
      split
      · exact List.nil_prefix
      · exact List.cons_prefix_cons.mpr ⟨rfl, ih (isPlainBlank c)⟩

/-- What stands before a comment holds no comment, however much of it is taken. -/
theorem beforeComment_of_isPrefix {afterBlank : Bool} {s t : Text}
    (h : t <+: beforeComment afterBlank s) : beforeComment afterBlank t = t := by
  induction s generalizing afterBlank t with
  | nil =>
      have ht : t = [] := List.prefix_nil.mp h
      rw [ht, beforeComment]
  | cons c s ih =>
      cases t with
      | nil => rfl
      | cons d t =>
          unfold beforeComment at h
          split at h
          · simp at h
          · rename_i hopens
            obtain ⟨rfl, ht⟩ := List.cons_prefix_cons.mp h
            rw [beforeComment, if_neg hopens, ih ht]

/-- The value before its quotes are looked at. -/
def bareValue (raw : Text) : Text := (beforeComment false raw.trim).trim

theorem cleanValue_eq (raw : Text) :
    cleanValue raw = if isQuotedEmpty (bareValue raw) then [] else bareValue raw := rfl

theorem trim_bareValue (raw : Text) : (bareValue raw).trim = bareValue raw := trim_trim _

/-- The second trimming takes nothing off the front, so what it leaves is a prefix of a text
without a comment. -/
theorem beforeComment_bareValue (raw : Text) :
    beforeComment false (bareValue raw) = bareValue raw := by
  have hfront : trimStart (beforeComment false raw.trim) = beforeComment false raw.trim :=
    trimStart_of_isPrefix (trimStart_of_trim (trim_trim raw)) (beforeComment_isPrefix _ _)
  have hprefix : bareValue raw <+: beforeComment false raw.trim := by
    change trimEnd (trimStart (beforeComment false raw.trim)) <+: _
    rw [hfront]
    exact trimEnd_isPrefix _
  exact beforeComment_of_isPrefix hprefix

/-- A clean value is trimmed, holds no comment and is not a pair of quotes. -/
theorem cleanValue_eq_self_iff (value : Text) :
    cleanValue value = value ↔
      value.trim = value ∧ beforeComment false value = value ∧ isQuotedEmpty value = false := by
  constructor
  · intro h
    rw [cleanValue_eq] at h
    split at h
    · subst h
      exact ⟨rfl, rfl, rfl⟩
    · rename_i hquotes
      have htrim := trim_bareValue value
      have hcomment := beforeComment_bareValue value
      rw [h] at htrim hcomment hquotes
      exact ⟨htrim, hcomment, by simpa using hquotes⟩
  · rintro ⟨htrim, hcomment, hquotes⟩
    simp [cleanValue, htrim, hcomment, hquotes]

theorem cleanValue_cleanValue (raw : Text) : cleanValue (cleanValue raw) = cleanValue raw := by
  rw [cleanValue_eq_self_iff, cleanValue_eq]
  split
  · exact ⟨rfl, rfl, rfl⟩
  · rename_i hquotes
    exact ⟨trim_bareValue raw, beforeComment_bareValue raw, by simpa using hquotes⟩

theorem cleanValue_trim (raw : Text) : cleanValue raw.trim = cleanValue raw := by
  unfold cleanValue
  rw [trim_trim]

theorem cleanValue_trimEnd (raw : Text) : cleanValue (trimEnd raw) = cleanValue raw := by
  rw [← cleanValue_trim, trim_trimEnd, cleanValue_trim]

theorem cleanValue_cons_of_blank {c : Char} (h : isBlank c = true) (raw : Text) :
    cleanValue (c :: raw) = cleanValue raw := by
  rw [← cleanValue_trim, trim_cons_of_blank h, cleanValue_trim]

theorem length_cleanValue_le (raw : Text) : (cleanValue raw).length ≤ raw.length := by
  have hbare : (bareValue raw).length ≤ raw.length := by
    have hcomment := (beforeComment_isPrefix false raw.trim).length_le
    have htrim := length_trim_le raw
    have hagain := length_trim_le (beforeComment false raw.trim)
    unfold bareValue
    omega
  rw [cleanValue_eq]
  split
  · exact Nat.zero_le _
  · exact hbare

/-- Cleaning only leaves characters out. -/
theorem mem_of_mem_cleanValue {raw : Text} {c : Char} (h : c ∈ cleanValue raw) : c ∈ raw := by
  rw [cleanValue_eq] at h
  split at h
  · simp at h
  · exact trim_subset raw ((beforeComment_isPrefix _ _).subset (trim_subset _ h))

end ConfigEditor.Line
