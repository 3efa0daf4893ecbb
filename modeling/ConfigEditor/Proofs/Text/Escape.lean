import ConfigEditor.Text.Escape
set_option autoImplicit false

/-!
# Escaping is undone

A codec is well-formed if its lead is one character and escaped itself, its triggers are single
characters, and no trigger stands for two plain texts.  The escaped form of a character is then
either the character, and no lead, or the lead and a trigger that stands for the character
(`WellFormed.escaped_cases`).  A scan that comes to it with no lead pending takes all of it and has
none pending behind it, so it reads an escaped text character by character (`unescape_escape`).

A plain text may have several pairs, of which the last is used to escape; a trigger may be the lead
or a plain text of its own; and a plain text of more than one character is never escaped.
-/

namespace ConfigEditor

/-! ## Tables -/

namespace ReplacementTable

variable {table : ReplacementTable} {key replacement : Text}

/-- What is found is an entry. -/
theorem mem_of_find? (h : table.find? key = some replacement) : (key, replacement) ∈ table := by
  obtain ⟨entry, hentry, rfl⟩ := Option.map_eq_some_iff.mp h
  have hkey : entry.1 = key := by simpa using List.find?_some hentry
  have hmem := List.mem_of_find?_eq_some hentry
  rw [← hkey]
  exact List.mem_reverse.mp hmem

/-- A text that has an entry is found. -/
theorem exists_find? (h : (key, replacement) ∈ table) : ∃ found, table.find? key = some found := by
  have hsome : (table.reverse.find? fun entry => entry.1 == key).isSome = true :=
    List.find?_isSome.mpr ⟨_, List.mem_reverse.mpr h, beq_self_eq_true key⟩
  obtain ⟨entry, hentry⟩ := Option.isSome_iff_exists.mp hsome
  exact ⟨entry.2, Option.map_eq_some_iff.mpr ⟨entry, hentry, rfl⟩⟩

/-- Where the entries of a text agree, it does not matter which of them counts. -/
theorem find?_of_mem (h : (key, replacement) ∈ table)
    (hagree : ∀ other, (key, other) ∈ table → other = replacement) :
    table.find? key = some replacement := by
  obtain ⟨found, hfound⟩ := exists_find? h
  rw [hfound, hagree found (mem_of_find? hfound)]

theorem replaceChar_of_find? {c : Char} (h : table.find? [c] = some replacement) :
    table.replaceChar c = replacement := by
  rw [replaceChar, h, Option.getD_some]

theorem replaceChar_of_find?_eq_none {c : Char} (h : table.find? [c] = none) :
    table.replaceChar c = [c] := by
  rw [replaceChar, h, Option.getD_none]

end ReplacementTable

namespace EscapeCodec

variable {codec : EscapeCodec}

/-! ## Scanning -/

/-- A character that is no lead stands for itself. -/
theorem unescape_cons {c : Char} (h : [c] ≠ codec.lead) (s : Text) :
    codec.unescape (c :: s) = c :: codec.unescape s := by
  simp [unescape, unescapeFrom, h]

/-- A lead takes the next character with it. -/
theorem unescape_lead_cons {lead : Char} (h : codec.lead = [lead]) (c : Char) (s : Text) :
    codec.unescape (lead :: c :: s) = codec.unescapes.replaceChar c ++ codec.unescape s := by
  simp [unescape, unescapeFrom, h]

theorem escape_cons (codec : EscapeCodec) (c : Char) (s : Text) :
    codec.escape (c :: s) = codec.escapes.replaceChar c ++ codec.escape s :=
  codec.escapes.replace_cons c s

/-! ## Well-formed codecs -/

/-- The lead is one character and escaped itself, the triggers are single characters, and no
trigger stands for two plain texts. -/
structure WellFormed (codec : EscapeCodec) : Prop where
  lead : codec.lead.length = 1
  escaped : codec.lead ∈ codec.pairs.map Prod.fst
  triggers : ∀ pair ∈ codec.pairs, pair.2.length = 1
  plain : ∀ pair ∈ codec.pairs, ∀ other ∈ codec.pairs, pair.2 = other.2 → pair.1 = other.1

instance (codec : EscapeCodec) : Decidable codec.WellFormed :=
  decidable_of_iff
    (codec.lead.length = 1 ∧ codec.lead ∈ codec.pairs.map Prod.fst ∧
      (∀ pair ∈ codec.pairs, pair.2.length = 1) ∧
      ∀ pair ∈ codec.pairs, ∀ other ∈ codec.pairs, pair.2 = other.2 → pair.1 = other.1)
    ⟨fun h => ⟨h.1, h.2.1, h.2.2.1, h.2.2.2⟩, fun h => ⟨h.lead, h.escaped, h.triggers, h.plain⟩⟩

theorem wellFormed_subsection : subsection.WellFormed := by decide

/-- A trigger stands for the plain text of any pair that has it. -/
theorem WellFormed.find?_unescapes (h : codec.WellFormed) {plain trigger : Text}
    (hpair : (plain, trigger) ∈ codec.pairs) :
    codec.unescapes.find? trigger = some plain := by
  refine ReplacementTable.find?_of_mem (List.mem_map.mpr ⟨_, hpair, rfl⟩) ?_
  intro other hother
  obtain ⟨pair, hmem, hentry⟩ := List.mem_map.mp hother
  obtain ⟨htrigger, rfl⟩ := Prod.mk.inj hentry
  exact h.plain pair hmem _ hpair htrigger

/-- The escaped form of a character is the character, and then it is no lead, or the lead and a
trigger that stands for it. -/
theorem WellFormed.escaped_cases (h : codec.WellFormed) (c : Char) :
    ([c] ≠ codec.lead ∧ codec.escapes.replaceChar c = [c]) ∨
      ∃ lead trigger, codec.lead = [lead] ∧ codec.escapes.replaceChar c = [lead, trigger] ∧
        codec.unescapes.replaceChar trigger = [c] := by
  obtain ⟨lead, hlead⟩ := List.length_eq_one_iff.mp h.lead
  cases hfound : codec.escapes.find? [c] with
  | none =>
      refine .inl ⟨?_, ReplacementTable.replaceChar_of_find?_eq_none hfound⟩
      intro hc
      -- the lead has a pair, so it would have been found
      obtain ⟨pair, hpair, hplain⟩ := List.mem_map.mp h.escaped
      have hentry : (pair.1, codec.lead ++ pair.2) ∈ codec.escapes :=
        List.mem_map.mpr ⟨pair, hpair, rfl⟩
      rw [hplain, ← hc] at hentry
      obtain ⟨found, hsome⟩ := ReplacementTable.exists_find? hentry
      rw [hfound] at hsome
      cases hsome
  | some written =>
      obtain ⟨⟨plain, text⟩, hpair, hentry⟩ :=
        List.mem_map.mp (ReplacementTable.mem_of_find? hfound)
      obtain ⟨rfl, rfl⟩ := Prod.mk.inj hentry
      obtain ⟨trigger, rfl⟩ := List.length_eq_one_iff.mp (h.triggers _ hpair)
      refine .inr ⟨lead, trigger, hlead, ?_, ?_⟩
      · rw [ReplacementTable.replaceChar_of_find? hfound, hlead, List.singleton_append]
      · exact ReplacementTable.replaceChar_of_find? (h.find?_unescapes hpair)

/-! ## The round trip -/

theorem unescape_escape (h : codec.WellFormed) (s : Text) :
    codec.unescape (codec.escape s) = s := by
  induction s with
  | nil => rfl
  | cons c s ih =>
      rw [escape_cons]
      rcases h.escaped_cases c with ⟨hplain, hwritten⟩ | ⟨lead, trigger, hlead, hwritten, hmeant⟩
      · rw [hwritten, List.singleton_append, unescape_cons hplain, ih]
      · rw [hwritten, List.cons_append, List.singleton_append, unescape_lead_cons hlead, hmeant,
          List.singleton_append, ih]

/-- What a well-formed codec escapes it also reads, and the codec of subsections is well-formed. -/
theorem unescape_undoes_escape :
    (∀ codec : EscapeCodec, codec.WellFormed → ∀ s, codec.unescape (codec.escape s) = s) ∧
      subsection.WellFormed :=
  ⟨fun _ h s => unescape_escape h s, wellFormed_subsection⟩

/-- A codec in which the lead and a plain text are triggers too, and a line feed has two. -/
def crossed : EscapeCodec where
  lead := ['%']
  pairs := [(['%'], ['n']), (['\n'], ['%']), (['n'], ['a']), (['\n'], ['m']), (['a', 'b'], ['b'])]

/-- Of two triggers the later is written, and two characters are no character to be escaped. -/
theorem unescape_undoes_escape_of_crossed :
    crossed.WellFormed ∧ crossed.escape "%n\nab".toList = "%n%a%mab".toList ∧
      crossed.unescape "%n%a%mab".toList = "%n\nab".toList := by
  have hformed : crossed.WellFormed := by decide
  have hwritten : crossed.escape "%n\nab".toList = "%n%a%mab".toList := by decide
  have hback := unescape_undoes_escape.1 crossed hformed "%n\nab".toList
  rw [hwritten] at hback
  exact ⟨hformed, hwritten, hback⟩

end EscapeCodec

end ConfigEditor
