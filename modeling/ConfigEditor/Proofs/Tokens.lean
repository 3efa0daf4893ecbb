import ConfigEditor.Proofs.SectionName
set_option autoImplicit false

/-!
# Tokens: where their parts come from

What a token holds stood in the text it was read from: the id of a header between the brackets
(`exists_body_of_classify`), the value of an entry behind the equals sign
(`exists_raw_of_classify`).  Since no logical line holds a line feed
(`newline_not_mem_of_mem_ofText`), neither does an identity or a value of a text.

An empty line closes whatever line goes on before it, so what follows it is joined as it would be
on its own (`join_append_nil`), but for the numbers of the lines (`map_text_join`).
-/

namespace ConfigEditor

/-! ## Logical lines -/

namespace LogicalLine

theorem join_none_cons (next : Nat) (line : Text) (lines : List Text) :
    join none next (line :: lines) =
      if Line.opensEntry line && Line.continues line then
        join (some ⟨next, line.dropLast⟩) (next + 1) lines
      else ⟨next, line⟩ :: join none (next + 1) lines := by
  simp [join]

theorem join_some_cons (started : LogicalLine) (next : Nat) (line : Text) (lines : List Text) :
    join (some started) next (line :: lines) =
      if Line.continues (started.text ++ line) then
        join (some ⟨started.line, (started.text ++ line).dropLast⟩) (next + 1) lines
      else ⟨started.line, started.text ++ line⟩ :: join none (next + 1) lines := by
  simp [join]

/-- An empty line ends a logical line that is open before it, and is one by itself otherwise.
What is open never goes on by itself, for its last backslash was dropped. -/
theorem join_append_nil (open? : Option LogicalLine)
    (hopen : ∀ started ∈ open?, Line.continues started.text = false) (next : Nat)
    (lines rest : List Text) :
    ∃ between after, (∀ joined ∈ between, joined.text = []) ∧
      join open? next (lines ++ [] :: rest)
        = join open? next lines ++ (between ++ join none after rest) := by
  induction lines generalizing open? next with
  | nil =>
      cases open? with
      | none =>
          refine ⟨[⟨next, []⟩], next + 1, by simp, ?_⟩
          rw [List.nil_append, join_none_cons]
          rfl
      | some started =>
          refine ⟨[], next + 1, by simp, ?_⟩
          have hclosed : Line.continues started.text = false := hopen started rfl
          rw [List.nil_append, join_some_cons, List.append_nil, hclosed]
          rfl
  | cons line lines ih =>
      cases open? with
      | none =>
          rw [List.cons_append, join_none_cons, join_none_cons]
          split
          · rename_i hgoes
            have hline := Line.continues_dropLast (Bool.and_eq_true_iff.mp hgoes).2
            refine ih _ ?_ (next + 1)
            rintro started ⟨⟩
            exact hline
          · obtain ⟨between, after, hblank, hjoin⟩ := ih none (by simp) (next + 1)
            exact ⟨between, after, hblank, by rw [hjoin, List.cons_append]⟩
      | some started =>
          rw [List.cons_append, join_some_cons, join_some_cons]
          split
          · rename_i hgoes
            have hline := Line.continues_dropLast hgoes
            refine ih _ ?_ (next + 1)
            rintro other ⟨⟩
            exact hline
          · obtain ⟨between, after, hblank, hjoin⟩ := ih none (by simp) (next + 1)
            exact ⟨between, after, hblank, by rw [hjoin, List.cons_append]⟩

/-- How lines are joined does not depend on their numbers. -/
theorem map_text_join {open? other? : Option LogicalLine}
    (hopen : open?.map LogicalLine.text = other?.map LogicalLine.text) (next first : Nat)
    (lines : List Text) :
    (join open? next lines).map LogicalLine.text
      = (join other? first lines).map LogicalLine.text := by
  induction lines generalizing open? other? next first with
  | nil =>
      cases open? <;> cases other? <;> simp_all [join]
  | cons line lines ih =>
      cases open? with
      | none =>
          obtain rfl : other? = none := by simpa using hopen.symm
          rw [join_none_cons, join_none_cons]
          split
          · refine ih ?_ (next + 1) (first + 1)
            rfl
          · rw [List.map_cons, List.map_cons, ih rfl (next + 1) (first + 1)]
      | some started =>
          obtain ⟨other, rfl, htext⟩ : ∃ other, other? = some other ∧ other.text = started.text := by
            simpa using hopen.symm
          rw [join_some_cons, join_some_cons, htext]
          split
          · refine ih ?_ (next + 1) (first + 1)
            rfl
          · rw [List.map_cons, List.map_cons, ih rfl (next + 1) (first + 1)]

/-- Joining adds no line feed to what is read so far. -/
theorem newline_not_mem_of_mem_join {lines : List Text} {open? : Option LogicalLine} {next : Nat}
    {joined : LogicalLine} (hopen : ∀ started ∈ open?, '\n' ∉ started.text)
    (hlines : ∀ line ∈ lines, '\n' ∉ line) (h : joined ∈ join open? next lines) :
    '\n' ∉ joined.text := by
  induction lines generalizing open? next with
  | nil =>
      rw [join, Option.mem_toList] at h
      exact hopen joined h
  | cons line lines ih =>
      have hline : '\n' ∉ line := hlines line List.mem_cons_self
      have hrest : ∀ other ∈ lines, '\n' ∉ other := fun other hother =>
        hlines other (List.mem_cons_of_mem line hother)
      cases open? with
      | none =>
          rw [join_none_cons] at h
          split at h
          · refine ih ?_ hrest h
            rintro started ⟨⟩
            exact fun hmem => hline (List.dropLast_subset _ hmem)
          · rcases List.mem_cons.mp h with rfl | h
            · exact hline
            · exact ih (by simp) hrest h
      | some started =>
          have hcurrent : '\n' ∉ started.text ++ line := by
            rw [List.mem_append, not_or]
            exact ⟨hopen started rfl, hline⟩
          rw [join_some_cons] at h
          split at h
          · refine ih ?_ hrest h
            rintro other ⟨⟩
            exact fun hmem => hcurrent (List.dropLast_subset _ hmem)
          · rcases List.mem_cons.mp h with rfl | h
            · exact hcurrent
            · exact ih (by simp) hrest h

/-- No logical line of a text holds a line feed. -/
theorem newline_not_mem_of_mem_ofText {text : Text} {joined : LogicalLine}
    (h : joined ∈ ofText text) : '\n' ∉ joined.text :=
  newline_not_mem_of_mem_join (by simp) Line.newline_not_mem_of_mem_physicalLines h

end LogicalLine

namespace Token

/-! ## Headers -/

/-- A header is its body, the closing bracket and what follows. -/
theorem eq_append_of_splitHeader {inQuotes : Bool} {text body after : Text}
    (h : splitHeader inQuotes text = some (body, after)) : text = body ++ ']' :: after := by
  fun_induction splitHeader inQuotes text generalizing body after with
  | case1 => cases h
  | case2 => cases h
  | case3 => cases h
  | case4 c hc d tail hend ih =>
      obtain ⟨⟨inner, rest⟩, hinner, heq⟩ := Option.map_eq_some_iff.mp h
      cases heq
      rw [ih hinner]
      rfl
  | case5 c rest hc ih =>
      obtain ⟨⟨inner, rest⟩, hinner, heq⟩ := Option.map_eq_some_iff.mp h
      cases heq
      rw [ih hinner]
      rfl
  | case6 quoted c rest hq hclose =>
      cases h
      rw [beq_iff_eq] at hclose
      rw [hclose]
      rfl
  | case7 quoted c rest hq hclose ih =>
      obtain ⟨⟨inner, rest⟩, hinner, heq⟩ := Option.map_eq_some_iff.mp h
      cases heq
      rw [ih hinner]
      rfl

theorem headerBody?_subset {content body : Text} (h : headerBody? content = some body) :
    body ⊆ content := by
  unfold headerBody? at h
  split at h
  · rename_i rest
    split at h
    · rename_i inner after hsplit
      split at h
      · cases h
        rw [eq_append_of_splitHeader hsplit]
        intro c hc
        exact List.mem_cons_of_mem _ (List.mem_append_left _ hc)
      · cases h
    · cases h
  · cases h

/-! ## Classification -/

/-- What is left of a line when indentation and trailing white space are dropped. -/
theorem content_subset (text : Text) : text.dropIndent.trimEnd ⊆ text :=
  List.Subset.trans (Text.trimEnd_isPrefix _).subset (List.dropWhile_sublist Text.isIndent).subset

/-- The id of a header is read from a part of its line. -/
theorem exists_body_of_classify {line n : Nat} {text t : Text} {id : SectionId}
    (h : classify line text = header n t id) :
    ∃ body, body ⊆ text ∧ SectionId.ofHeader body = .ok id := by
  unfold classify at h
  simp only at h
  split at h
  · cases h
  · split at h
    · cases h
    · split at h
      · unfold ofHeader at h
        split at h
        · cases h
        · rename_i body hbody
          split at h
          · rename_i id' hid
            cases h
            exact ⟨body, List.Subset.trans (headerBody?_subset hbody) (content_subset text), hid⟩
          · cases h
      · unfold ofEntry at h
        split at h <;> cases h

/-- The value of an entry is a part of its line, cleaned. -/
theorem exists_raw_of_classify {line n : Nat} {text t key value : Text}
    (h : classify line text = entry n t key (some value)) :
    ∃ raw, raw ⊆ text ∧ value = Line.cleanValue raw := by
  unfold classify at h
  simp only at h
  split at h
  · cases h
  · split at h
    · cases h
    · split at h
      · unfold ofHeader at h
        split at h
        · cases h
        · split at h <;> cases h
      · unfold ofEntry at h
        split at h
        · cases h
        · rename_i c raw hraw
          cases h
          refine ⟨raw, ?_, rfl⟩
          have hsubset : c :: raw ⊆ text.dropIndent.trimEnd := by
            rw [← hraw]
            exact (List.dropWhile_sublist _).subset
          exact List.Subset.trans (List.subset_cons_self c raw)
            (List.Subset.trans hsubset (content_subset text))

end Token

end ConfigEditor
