import ConfigEditor.Proofs.Reread
set_option autoImplicit false

/-!
# Round trips: which documents survive being written

Two things can spoil a round trip, and nothing else: a text that ends in an odd run of
backslashes, and a name that holds a line feed (`Reachable.rereads_iff`).

* A document of a text has one-line names, but its texts need not be closed: the continuation of
  a line is decided before its comment is cut off, so a backslash may come to stand last
  (`rereads_iff_of_ofText`, `backslash_before_comment`).
* A document made by edits alone has closed texts, since a value that would go on is refused,
  but its names need not be one line (`run_edits_rereads_iff`, `line_feed_in_name`).
-/

namespace ConfigEditor

/-- Whether a document is read back as an equal one can be tried out. -/
instance (doc : Document) : Decidable doc.RereadsAsEqual :=
  match h : Document.ofText doc.toText with
  | .error _ => isFalse fun ⟨_, hread, _⟩ => by
      rw [h] at hread
      cases hread
  | .ok again =>
    if hequal : doc.equals again = true then isTrue ⟨again, h, hequal⟩
    else isFalse fun ⟨other, hread, hother⟩ => by
      rw [h] at hread
      cases hread
      exact hequal hother

/-! ## Documents of texts -/

/-- What a text describes is read back as it was exactly if none of its values was left with an
unpaired backslash at its end. -/
theorem Document.rereads_iff_of_ofText {text : Text} {doc : Document}
    (h : ofText text = .ok doc) : doc.RereadsAsEqual ↔ doc.ValuesClosed := by
  rw [rereadsAsEqual_iff (wellFormed_of_ofText h)]
  exact and_iff_left (hasOneLineNames_of_ofText h)

theorem Document.paired_backslashes_reread :
    ∃ doc, ofText "[a]\nk = b\\\\ ;c\n".toList = .ok doc ∧ doc.RereadsAsEqual := by
  refine ⟨_, rfl, ?_⟩
  exact (@rereads_iff_of_ofText "[a]\nk = b\\\\ ;c\n".toList _ rfl).mpr (by decide +kernel)

/-- Behind the backslash stood a comment, so the line did not go on; written without the comment
it does. -/
theorem Document.backslash_before_comment :
    ∃ doc, ofText "[a]\nk = b\\ ;c\n".toList = .ok doc ∧ ¬ doc.RereadsAsEqual :=
  ⟨_, rfl, by decide +kernel⟩

/-! ## Documents made by edits -/

namespace Change

theorem closed_apply {doc : Document} (h : doc.Closed) {change : Change}
    (hedit : change.IsEdit) : (change.apply doc).2.Closed := by
  rcases effect_or_eq doc change with heffect | heq
  · exact h.effect hedit heffect
  · rw [heq]
    exact h

/-- Edits keep a document closed. -/
theorem closed_run {changes : List Change} (hedits : ∀ change ∈ changes, change.IsEdit)
    {doc : Document} (h : doc.Closed) : (run doc changes).Closed := by
  unfold run
  induction changes generalizing doc with
  | nil => exact h
  | cons change rest ih =>
      rw [List.foldl_cons]
      refine ih (fun other hother => hedits other (List.mem_cons_of_mem change hother)) ?_
      exact closed_apply h (hedits change List.mem_cons_self)

/-- What edits make of the empty document is read back as it was exactly if no section was
given a name with a line feed. -/
theorem run_edits_rereads_iff {changes : List Change}
    (h : ∀ change ∈ changes, change.IsEdit) :
    (run .empty changes).RereadsAsEqual ↔ (run .empty changes).HasOneLineNames := by
  have hrun : (run .empty changes).Closed := closed_run h Document.every_empty
  obtain ⟨hwell, hclosed⟩ := Document.closed_iff.mp hrun
  rw [Document.rereadsAsEqual_iff hwell]
  exact and_iff_right hclosed

theorem run_edits_rereads :
    (run .empty [.addSection "a \"]\"".toList,
      .set "a \"]\"".toList "rem".toList "x".toList]).RereadsAsEqual := by
  refine (run_edits_rereads_iff ?_).mpr (by decide +kernel)
  simp [IsEdit]

/-- The name is accepted, and its header is written on two lines. -/
theorem line_feed_in_name :
    ¬ (run .empty [.addSection "a \"x\ny\"".toList]).RereadsAsEqual := by
  decide +kernel

end Change

/-! ## All reachable documents -/

/-- A reachable document is read back as it was exactly if no assigned text ends in an odd run
of backslashes and no identity holds a line feed. -/
theorem Document.Reachable.rereads_iff {doc : Document} (h : doc.Reachable) :
    doc.RereadsAsEqual ↔ doc.ValuesClosed ∧ doc.HasOneLineNames :=
  rereadsAsEqual_iff h.wellFormed

/-- A dangling text is still lost once another section stands below it. -/
theorem Document.Reachable.not_rereads_above_section :
    ∃ doc, Document.ofText "[a]\nk = b\\ ;c\n".toList = .ok doc ∧
      ¬ ((Change.addSection "b".toList).apply doc).2.RereadsAsEqual := by
  refine ⟨_, rfl, ?_⟩
  have hread := @Reachable.ofText "[a]\nk = b\\ ;c\n".toList _ rfl
  have hreach := Reachable.change (.addSection "b".toList) hread (by simp)
  rw [Reachable.rereads_iff hreach]
  decide +kernel

end ConfigEditor
