import LinksBinding.Text.Columns

/-!
# Searching

Byte offsets of the leftmost occurrence of a text, and of the leftmost occurrence that is a whole
word: one with no name character directly before or after it.

The word search visits occurrences that do not overlap. After an occurrence that is no whole word
it continues behind it, which loses nothing for a word made of name characters: an occurrence that
overlaps a rejected one from behind has a name character before it.
-/

namespace LinksBinding.Text

/-- Byte offset of the leftmost occurrence of `needle`. -/
def findByte? (needle : List Char) : (text : List Char) → Option Nat
  | [] => if needle.isEmpty then some 0 else none
  | c :: rest =>
    if needle.isPrefixOf (c :: rest) then some 0
    else (findByte? needle rest).map (c.utf8Size + ·)

theorem findByte?_eq_none_iff {needle text : List Char} :
    findByte? needle text = none ↔ ∀ before after, text ≠ before ++ needle ++ after := by
  induction text with
  | nil => cases needle <;> simp [findByte?]
  | cons c rest ih =>
    rw [findByte?]
    split
    · rename_i here
      obtain ⟨after, here⟩ := List.isPrefixOf_iff_prefix.mp here
      exact iff_of_false nofun fun absent => absent [] after here.symm
    · rename_i elsewhere
      rw [Option.map_eq_none_iff, ih]
      constructor
      · intro absent before after split
        rw [List.append_assoc before needle after] at split
        rcases List.cons_eq_append_iff.mp split with ⟨rfl, here⟩ | ⟨before, rfl, below⟩
        · exact elsewhere (List.isPrefixOf_iff_prefix.mpr ⟨after, here⟩)
        · exact absent before after (by rw [below, List.append_assoc])
      · exact fun absent before after split => absent (c :: before) after (congrArg (c :: ·) split)

/-- What the search finds is an occurrence, and no other stands further left. -/
theorem exists_of_findByte? {needle text : List Char} {offset : Nat}
    (found : findByte? needle text = some offset) :
    ∃ before after, text = before ++ needle ++ after ∧ bytes before = offset ∧
      ∀ before' after', text = before' ++ needle ++ after' → bytes before ≤ bytes before' := by
  induction text generalizing offset with
  | nil =>
    cases needle with
    | nil =>
      cases found
      exact ⟨[], [], rfl, rfl, fun _ _ _ => Nat.zero_le _⟩
    | cons d needle => cases found
  | cons c rest ih =>
    rw [findByte?] at found
    split at found
    · rename_i here
      cases found
      obtain ⟨after, here⟩ := List.isPrefixOf_iff_prefix.mp here
      exact ⟨[], after, here.symm, rfl, fun _ _ _ => Nat.zero_le _⟩
    · rename_i elsewhere
      obtain ⟨_, below, rfl⟩ := Option.map_eq_some_iff.mp found
      obtain ⟨before, after, rfl, rfl, leftmost⟩ := ih below
      refine ⟨c :: before, after, rfl, rfl, fun before' after' split => ?_⟩
      rw [List.append_assoc before' needle after'] at split
      rcases List.cons_eq_append_iff.mp split with ⟨rfl, here⟩ | ⟨before', rfl, further⟩
      · exact absurd (List.isPrefixOf_iff_prefix.mpr ⟨after', here⟩) elsewhere
      · exact Nat.add_le_add_left (leftmost before' after' (by rw [further, List.append_assoc])) _

/-- Whether `needle` occurs in `text`. -/
def contains (text needle : List Char) : Bool := (findByte? needle text).isSome

/-- No name character stands at this side of a word. -/
def isWordEdge (neighbour : Option Char) : Bool := neighbour.all fun c => !isNameChar c

/-- The search of `findWord?` on the text that follows the character `previous`. It first passes
over `skip` characters, the rest of an occurrence that was no whole word. -/
def findWordAfter (word : List Char) :
    (skip : Nat) → (previous : Option Char) → (text : List Char) → Option Nat
  | _, _, [] => none
  | skip + 1, _, c :: rest => (findWordAfter word skip (some c) rest).map (c.utf8Size + ·)
  | 0, previous, c :: rest =>
    match stripStart? word (c :: rest) with
    | some after =>
      if isWordEdge previous && isWordEdge after.head? then some 0
      else (findWordAfter word (word.length - 1) (some c) rest).map (c.utf8Size + ·)
    | none => (findWordAfter word 0 (some c) rest).map (c.utf8Size + ·)

/-- Byte offset of the first whole-word occurrence of `word` at or after byte `start`. Nothing is
found for the empty word, nor from an offset that is no character boundary of the text. -/
def findWord? (text word : List Char) (start : Nat) : Option Nat :=
  if word.isEmpty then none
  else match splitAtByte? text start with
    | some (before, after) => (findWordAfter word 0 before.getLast? after).map (start + ·)
    | none => none

/-- Byte offsets of the occurrences of `needle` from left to right, each search continuing behind
the occurrence before it. An empty needle occurs at every character boundary. -/
def occurrencesAfter (needle : List Char) : (skip offset : Nat) → (text : List Char) → List Nat
  | _, offset, [] => if needle.isEmpty then [offset] else []
  | skip + 1, offset, c :: rest => occurrencesAfter needle skip (offset + c.utf8Size) rest
  | 0, offset, c :: rest =>
    if needle.isPrefixOf (c :: rest) then
      offset :: occurrencesAfter needle (needle.length - 1) (offset + c.utf8Size) rest
    else occurrencesAfter needle 0 (offset + c.utf8Size) rest

/-- Byte offsets of the occurrences of `needle` that do not overlap, from left to right. -/
def occurrences (text needle : List Char) : List Nat := occurrencesAfter needle 0 0 text

end LinksBinding.Text
