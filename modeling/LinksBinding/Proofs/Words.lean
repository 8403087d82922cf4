import LinksBinding.Text.Search

/-!
# Whole words

A word is whole in a text when no name character stands next to it. What the word search finds is a
whole word (`wholeAt_of_findWord?`).

Two places of one word cannot overlap if one of them is whole: where they did, a character of the
word itself would stand next to the whole one (`eq_or_apart`). So the places of a name are kept apart
by its uses, whichever way the name was found in the declaration.
-/

namespace LinksBinding.Text

variable {word text : List Char} {previous : Option Char} {offset : Nat}

/-- A word between `before` and `after` is whole: no name character stands next to it on either
side. -/
def IsWhole (before after : List Char) : Prop :=
  isWordEdge before.getLast? = true ∧ isWordEdge after.head? = true

instance (before after : List Char) : Decidable (IsWhole before after) :=
  inferInstanceAs (Decidable (_ ∧ _))

/-- Behind the character `previous`, a word stands whole at a byte offset of a text. -/
def WholeAt (word : List Char) (previous : Option Char) (text : List Char) (offset : Nat) : Prop :=
  ∃ before after, text = before ++ word ++ after ∧ bytes before = offset ∧
    isWordEdge (before.getLast?.or previous) = true ∧ isWordEdge after.head? = true

theorem isNameChar_of_isWordEdge {neighbour : Option Char} (edge : isWordEdge neighbour = true)
    {c : Char} (mem : neighbour = some c) : isNameChar c = false := by
  simpa [isWordEdge, mem] using edge

/-! ## Searching -/

theorem WholeAt.append {front : List Char}
    (whole : WholeAt word (front.getLast?.or previous) text offset) :
    WholeAt word previous (front ++ text) (bytes front + offset) := by
  obtain ⟨before, after, rfl, rfl, starts, ends⟩ := whole
  refine ⟨front ++ before, after, by simp only [List.append_assoc], bytes_append .., ?_, ends⟩
  rwa [List.getLast?_append, Option.or_assoc]

theorem WholeAt.cons {c : Char} (whole : WholeAt word (some c) text offset) :
    WholeAt word previous (c :: text) (c.utf8Size + offset) := by
  have appended : WholeAt word previous ([c] ++ text) (bytes [c] + offset) := WholeAt.append whole
  rwa [bytes, bytes, Nat.add_zero] at appended

/-- What the search finds behind a character is a whole word there. -/
theorem wholeAt_of_findWordAfter {skip : Nat}
    (found : findWordAfter word skip previous text = some offset) :
    WholeAt word previous text offset := by
  induction text generalizing skip previous offset with
  | nil => cases skip <;> cases found
  | cons c rest ih =>
    have behind : ∀ skip, (findWordAfter word skip (some c) rest).map (c.utf8Size + ·) =
        some offset → WholeAt word previous (c :: rest) offset := by
      intro skip found
      obtain ⟨_, below, rfl⟩ := Option.map_eq_some_iff.mp found
      exact (ih below).cons
    cases skip with
    | succ skip => exact behind skip found
    | zero =>
      rw [findWordAfter] at found
      split at found
      · rename_i after here
        split at found
        · rename_i edges
          cases found
          rw [Bool.and_eq_true] at edges
          exact ⟨[], after, stripStart?_eq_some_iff.mp here, rfl, edges⟩
        · exact behind _ found
      · exact behind _ found

/-- What the word search finds is a whole word. -/
theorem wholeAt_of_findWord? {start : Nat} (found : findWord? text word start = some offset) :
    start ≤ offset ∧ WholeAt word none text offset := by
  rw [findWord?] at found
  split at found
  · cases found
  · split at found
    · rename_i front rest split
      obtain ⟨rfl, rfl⟩ := splitAtByte?_eq_some_iff.mp split
      obtain ⟨_, below, rfl⟩ := Option.map_eq_some_iff.mp found
      refine ⟨Nat.le_add_right .., WholeAt.append ?_⟩
      rw [Option.or_none]
      exact wholeAt_of_findWordAfter below
    · cases found

/-! ## Places of a word -/

/-- A word of name characters that stands in front of a whole place of itself ends before it. -/
theorem exists_gap_of_before {before gap after after' : List Char}
    (named : ∀ c ∈ word, isNameChar c = true)
    (split : word ++ after = gap ++ (word ++ after'))
    (starts : isWordEdge (before ++ gap).getLast? = true) (apart : gap ≠ []) :
    ∃ rest, gap = word ++ rest := by
  rcases List.append_eq_append_iff.mp split with ⟨rest, rfl, -⟩ | ⟨rest, rfl, -⟩
  · exact ⟨rest, rfl⟩
  · -- the gap is part of the word, and ends where the whole place starts
    have last : (before ++ gap).getLast? = some (gap.getLast apart) := by
      rw [List.getLast?_append, List.getLast?_eq_some_getLast apart, Option.some_or]
    have off := isNameChar_of_isWordEdge starts last
    rw [named _ (List.mem_append_left _ (List.getLast_mem apart))] at off
    cases off

/-- A word of name characters that stands behind a whole place of itself starts after it. -/
theorem exists_gap_of_behind {gap after after' : List Char}
    (named : ∀ c ∈ word, isNameChar c = true)
    (split : word ++ after' = gap ++ (word ++ after))
    (ends : isWordEdge after'.head? = true) (apart : gap ≠ []) :
    ∃ rest, gap = word ++ rest := by
  rcases List.append_eq_append_iff.mp split with ⟨rest, rfl, -⟩ | ⟨rest, rfl, inside⟩
  · exact ⟨rest, rfl⟩
  · have long : 0 < gap.length := List.length_pos_iff.mpr apart
    rcases List.append_eq_append_iff.mp inside with ⟨more, longer, -⟩ | ⟨more, parts, rfl⟩
    · have lengths := congrArg List.length longer
      simp only [List.length_append] at lengths
      omega
    · -- the word goes on where its whole place ends
      have lengths := congrArg List.length parts
      simp only [List.length_append] at lengths
      cases more with
      | nil =>
        rw [List.length_nil] at lengths
        omega
      | cons c more =>
        have off := isNameChar_of_isWordEdge ends (List.head?_cons ..)
        rw [named c (by rw [parts]; simp)] at off
        cases off

/-- Two places of a word of name characters are the same or do not overlap, if one is whole. -/
theorem eq_or_apart {before after before' after' : List Char}
    (named : ∀ c ∈ word, isNameChar c = true) (whole : IsWhole before' after')
    (split : before ++ word ++ after = before' ++ word ++ after') :
    before = before' ∨ (∃ gap, before' = before ++ word ++ gap) ∨
      ∃ gap, before = before' ++ word ++ gap := by
  simp only [List.append_assoc] at split
  rcases List.append_eq_append_iff.mp split with ⟨gap, rfl, rest⟩ | ⟨gap, rfl, rest⟩
  · by_cases same : gap = []
    · exact .inl (by rw [same, List.append_nil])
    · obtain ⟨gap', rfl⟩ := exists_gap_of_before named rest whole.1 same
      exact .inr (.inl ⟨gap', (List.append_assoc ..).symm⟩)
  · by_cases same : gap = []
    · exact .inl (by rw [same, List.append_nil])
    · obtain ⟨gap', rfl⟩ := exists_gap_of_behind named rest whole.2 same
      exact .inr (.inr ⟨gap', (List.append_assoc ..).symm⟩)

end LinksBinding.Text
