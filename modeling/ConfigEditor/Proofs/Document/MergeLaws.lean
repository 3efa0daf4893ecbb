import ConfigEditor.Proofs.Document.Merge
import ConfigEditor.Proofs.Document.Refinement
set_option autoImplicit false

/-!
# The laws of merging

Merging is taking in what the source says, statement by statement, and what a statement does to the
target can be read off three lists: the identities, the keys of a section and the entries of a key.
Entries are added at the end; an identity or a key is added at the end unless it is there
(`OrderedMap.arrive`).  What arrives behind other arrivals is what is new among it
(`OrderedMap.foldl_arrive`), so a merged document holds what the target holds and behind it what the
source holds (`IsMerged`).

Statements may be taken in by the source before it is merged or by the target afterwards
(`foldl_take_merge`).  So merging is associative, and the empty document is neutral
(`Reachable.merge_laws`).
-/

namespace ConfigEditor

/-! ## Arrivals -/

namespace OrderedMap

variable {α : Type} [BEq α] [LawfulBEq α]

/-- Keys in order of arrival, once another one has arrived. -/
def arrive (keys : List α) (key : α) : List α := if key ∈ keys then keys else keys ++ [key]

/-- Of further arrivals, those are added that are new, in the order in which they first come. -/
theorem foldl_arrive (keys arrivals : List α) :
    arrivals.foldl arrive keys =
      keys ++ (arrivals.foldl arrive []).filter fun key => key ∉ keys := by
  induction arrivals using List.reverseRecOn with
  | nil => simp
  | append_singleton arrivals key ih =>
      rw [List.foldl_append, List.foldl_append, ih]
      generalize arrivals.foldl arrive [] = first
      simp only [List.foldl_cons, List.foldl_nil, arrive]
      by_cases hkeys : key ∈ keys
      · by_cases hfirst : key ∈ first <;> simp [hkeys, hfirst]
      · by_cases hfirst : key ∈ first <;> simp [hkeys, hfirst]

end OrderedMap

open OrderedMap (arrive foldl_arrive)

/-! ## What a statement does to the order -/

namespace Document

/-- The keys of the section with an identity in order, none if there is no such section. -/
def keysAt (doc : Document) (identity : Text) : List Text :=
  (doc.sections.get? identity).elim [] fun s => s.options.keys

theorem keysAt_putSection (doc : Document) (identity : Text) (s : Section) (other : Text) :
    (doc.putSection identity s).keysAt other =
      if other = identity then s.options.keys else doc.keysAt other := by
  unfold keysAt
  rw [get?_putSection]
  split <;> rfl

theorem identities_openSection (doc : Document) (id : SectionId) :
    (doc.openSection id).identities = arrive doc.identities id.identity := by
  unfold openSection arrive identities
  simp only [OrderedMap.contains_iff]
  split
  · rfl
  · rename_i hmissing
    exact (OrderedMap.keys_insert doc.sections id.identity _).trans (if_neg hmissing)

/-- A new section has no keys. -/
theorem keysAt_openSection (doc : Document) (id : SectionId) (identity : Text) :
    (doc.openSection id).keysAt identity = doc.keysAt identity := by
  unfold openSection
  split
  · rfl
  · rename_i hmissing
    rw [keysAt_putSection]
    split
    · rename_i hidentity
      rw [hidentity, keysAt, OrderedMap.get?_eq_none_of_contains hmissing]
      rfl
    · rfl

variable {doc : Document} {identity : Text} {s : Section}

theorem identities_record (h : doc.sections.get? identity = some s) (key : Text) (entry : Entry) :
    (doc.record identity key entry).identities = doc.identities := by
  rw [record_of_get? h]
  exact (OrderedMap.keys_insert doc.sections identity _).trans
    (if_pos (OrderedMap.mem_keys_of_get? h))

theorem keysAt_record (h : doc.sections.get? identity = some s) (key : Text) (entry : Entry)
    (other : Text) :
    (doc.record identity key entry).keysAt other =
      (if identity = other then [key] else []).foldl arrive (doc.keysAt other) := by
  rw [record_of_get? h, keysAt_putSection]
  by_cases hsame : other = identity
  · subst hsame
    have hkeys : doc.keysAt other = s.options.keys := by rw [keysAt, h, Option.elim_some]
    rw [if_pos rfl, if_pos rfl, hkeys, List.foldl_cons, List.foldl_nil, arrive, Section.record,
      OrderedMap.keys_insert]
    split <;> rfl
  · rw [if_neg hsame, if_neg (Ne.symm hsame)]
    rfl

end Document

/-! ## What statements do to the order -/

/-- The identities of the headers among statements, in order. -/
def headersOf : List Statement → List Text
  | [] => []
  | .header id :: rest => id.identity :: headersOf rest
  | .occurrence _ _ :: rest => headersOf rest

/-- The keys that statements name under an identity, from below the header of the identity
`current?` on. -/
def keysUnder (identity : Text) : Option Text → List Statement → List Text
  | _, [] => []
  | _, .header id :: rest => keysUnder identity (some id.identity) rest
  | current?, .occurrence key _ :: rest =>
    (if current? = some identity then [key] else []) ++ keysUnder identity current? rest

namespace ReadState

/-- The identities of the headers arrive one after the other. -/
theorem identities_foldl_take (statements : List Statement) {state : ReadState}
    (h : state.HasCurrent) :
    (statements.foldl take state).doc.identities =
      (headersOf statements).foldl arrive state.doc.identities := by
  induction statements generalizing state with
  | nil => rfl
  | cons statement rest ih =>
      rw [List.foldl_cons, ih (hasCurrent_take h statement)]
      cases statement with
      | header id =>
          rw [headersOf, List.foldl_cons, ← Document.identities_openSection]
          rfl
      | occurrence key entry =>
          rw [headersOf]
          cases hcurrent : state.current with
          | none => simp only [take, hcurrent]
          | some current =>
              obtain ⟨s, hs⟩ := h current hcurrent
              simp only [take, hcurrent, Document.identities_record hs]

/-- The keys that are named under an identity arrive one after the other. -/
theorem keysAt_foldl_take (statements : List Statement) {state : ReadState}
    (h : state.HasCurrent) (identity : Text) :
    (statements.foldl take state).doc.keysAt identity =
      (keysUnder identity state.current statements).foldl arrive (state.doc.keysAt identity) := by
  induction statements generalizing state with
  | nil => rfl
  | cons statement rest ih =>
      rw [List.foldl_cons, ih (hasCurrent_take h statement)]
      cases statement with
      | header id =>
          rw [keysUnder]
          simp only [take, Document.keysAt_openSection]
      | occurrence key entry =>
          rw [keysUnder, List.foldl_append]
          cases hcurrent : state.current with
          | none => simp [take, hcurrent]
          | some current =>
              obtain ⟨s, hs⟩ := h current hcurrent
              simp only [take, hcurrent, Document.keysAt_record hs, Option.some.injEq]

/-- Statements may be taken in before merging or afterwards. -/
theorem foldl_take_merge (target : Document) (statements : List Statement) {s t : ReadState}
    (hdoc : t.doc = target.merge s.doc) (hcurrent : t.current = s.current) (h : s.HasCurrent)
    (hstored : s.doc.IsStored) :
    (statements.foldl take t).doc = target.merge (statements.foldl take s).doc := by
  induction statements generalizing s t with
  | nil => exact hdoc
  | cons statement rest ih =>
      rw [List.foldl_cons, List.foldl_cons]
      have hafter := hasCurrent_take h statement
      cases statement with
      | header id =>
          refine ih ?_ rfl hafter (Document.Every.openSection hstored trivial)
          exact (congrArg (Document.openSection · id) hdoc).trans
            (Document.merge_openSection target hstored id).symm
      | occurrence key entry =>
          cases hs : s.current with
          | none =>
              simp only [take, hcurrent, hs] at hafter ⊢
              exact ih hdoc hcurrent h hstored
          | some identity =>
              obtain ⟨found, hfound⟩ := h identity hs
              simp only [take, hcurrent, hs] at hafter ⊢
              refine ih ?_ rfl hafter (Document.Every.record hstored trivial identity)
              exact (congrArg (Document.record · identity key entry) hdoc).trans
                (Document.merge_record target hstored hfound key entry).symm

end ReadState

/-! ## Merged documents -/

namespace Document

/-- The document holds what the target holds and behind it what the source holds: the entries of
each key, and the sections and keys that are new. -/
structure IsMerged (target source merged : Document) : Prop where
  identities : merged.identities =
    target.identities ++ source.identities.filter fun identity => identity ∉ target.identities
  keys : ∀ identity, merged.keysAt identity =
    target.keysAt identity ++
      (source.keysAt identity).filter fun key => key ∉ target.keysAt identity
  entries : ∀ identity key, merged.entriesAt identity key =
    target.entriesAt identity key ++ source.entriesAt identity key

variable {a b : Document}

theorem identities_merge (target source : Document) :
    (target.merge source).identities =
      (headersOf source.statements).foldl arrive target.identities := by
  rw [merge_eq_extend]
  exact ReadState.identities_foldl_take _ (by rintro _ ⟨⟩)

theorem keysAt_merge (target source : Document) (identity : Text) :
    (target.merge source).keysAt identity =
      (keysUnder identity none source.statements).foldl arrive (target.keysAt identity) := by
  rw [merge_eq_extend]
  exact ReadState.keysAt_foldl_take _ (by rintro _ ⟨⟩) identity

theorem entriesAt_merge (target source : Document) (identity key : Text) :
    (target.merge source).entriesAt identity key =
      target.entriesAt identity key ++ entriesUnder identity key none source.statements := by
  rw [merge_eq_extend, entriesAt_extend]

/-- What the source holds is what an empty document holds that it is merged into. -/
theorem IsStored.isMerged (hb : b.IsStored) (a : Document) : IsMerged a b (a.merge b) := by
  have hrebuilt := merge_empty hb
  refine ⟨?_, ?_, ?_⟩
  · have hown := identities_merge empty b
    rw [hrebuilt] at hown
    rw [identities_merge, foldl_arrive, hown]
    rfl
  · intro identity
    have hown := keysAt_merge empty b identity
    rw [hrebuilt] at hown
    rw [keysAt_merge, foldl_arrive, hown]
    rfl
  · intro identity key
    have hown := entriesAt_merge empty b identity key
    rw [hrebuilt] at hown
    rw [entriesAt_merge, hown]
    rfl

theorem IsStored.merge_assoc (hb : b.IsStored) (a c : Document) :
    (a.merge b).merge c = a.merge (b.merge c) := by
  rw [merge_eq_extend (a.merge b), merge_eq_extend b]
  exact ReadState.foldl_take_merge a c.statements rfl rfl (by rintro _ ⟨⟩) hb

/-- Merging is associative with the empty document as neutral element, and the merged document
holds the target and, behind it, the source.  The source stays as it was: whatever is done to the
target afterwards, to merge the same source again adds the same. -/
theorem Reachable.merge_laws (ha : a.Reachable) (hb : b.Reachable) (c : Document) :
    (a.merge b).merge c = a.merge (b.merge c) ∧
      a.merge .empty = a ∧
      Document.empty.merge a = a ∧
      IsMerged a b (a.merge b) ∧
      ∀ changes, IsMerged (Change.run (a.merge b) changes) b
        (Change.run a (.merge b :: (changes ++ [.merge b]))) := by
  have hstored := hb.isStored
  refine ⟨hstored.merge_assoc a c, rfl, merge_empty ha.isStored, hstored.isMerged a, ?_⟩
  intro changes
  have hrun : Change.run a (.merge b :: (changes ++ [.merge b])) =
      (Change.run (a.merge b) changes).merge b := by
    unfold Change.run
    rw [List.foldl_cons, List.foldl_append]
    rfl
  rw [hrun]
  exact hstored.isMerged _

/-- Three documents that have sections in common, with keys in common and keys of their own. -/
theorem Reachable.merge_laws_of_overlapping :
    ∃ a b c : Document, Document.ofText "[x]\nk = 1\n[y]\nj".toList = .ok a ∧
      Document.ofText "[z]\n[x]\nm = 2\nk = 3".toList = .ok b ∧
      Document.ofText "[y]\nj = 4\n[z]\nk".toList = .ok c ∧
      (a.merge b).merge c = a.merge (b.merge c) ∧
      a.merge .empty = a ∧
      Document.empty.merge a = a ∧
      (a.merge b).identities = ["x".toList, "y".toList, "z".toList] ∧
      (a.merge b).keysAt "x".toList = ["k".toList, "m".toList] ∧
      (a.merge b).entriesAt "x".toList "k".toList =
        [.assigned "1".toList, .assigned "3".toList] := by
  obtain ⟨a, ha⟩ := exists_of_isOk
    (show (Document.ofText "[x]\nk = 1\n[y]\nj".toList).isOk = true by decide +kernel)
  obtain ⟨b, hb⟩ := exists_of_isOk
    (show (Document.ofText "[z]\n[x]\nm = 2\nk = 3".toList).isOk = true by decide +kernel)
  obtain ⟨c, hc⟩ := exists_of_isOk
    (show (Document.ofText "[y]\nj = 4\n[z]\nk".toList).isOk = true by decide +kernel)
  have htarget : ∀ doc ∈ (Document.ofText "[x]\nk = 1\n[y]\nj".toList).toOption,
      doc.identities = ["x".toList, "y".toList] ∧ doc.keysAt "x".toList = ["k".toList] ∧
        doc.entriesAt "x".toList "k".toList = [.assigned "1".toList] := by
    decide +kernel
  have hsource : ∀ doc ∈ (Document.ofText "[z]\n[x]\nm = 2\nk = 3".toList).toOption,
      doc.identities = ["z".toList, "x".toList] ∧
        doc.keysAt "x".toList = ["m".toList, "k".toList] ∧
        doc.entriesAt "x".toList "k".toList = [.assigned "3".toList] := by
    decide +kernel
  obtain ⟨hidentities, hkeys, hentries⟩ := htarget a (by rw [ha]; rfl)
  obtain ⟨hnewIdentities, hnewKeys, hnewEntries⟩ := hsource b (by rw [hb]; rfl)
  obtain ⟨hassoc, hright, hleft, hmerged, -⟩ :=
    Reachable.merge_laws (.ofText ha) (.ofText hb) c
  refine ⟨a, b, c, ha, hb, hc, hassoc, hright, hleft, ?_, ?_, ?_⟩
  · rw [hmerged.identities, hidentities, hnewIdentities]
    rfl
  · rw [hmerged.keys, hkeys, hnewKeys]
    rfl
  · rw [hmerged.entries, hentries, hnewEntries]
    rfl

end Document

end ConfigEditor
