import Mathlib.Data.Set.Basic
import Mathlib.Order.Bounds.Defs
import LinksBinding.Proofs.Boundaries
import LinksBinding.Proofs.Words

/-!
# The leftmost whole word

The word search finds the leftmost place at which a word stands whole, at or behind the character
boundary it starts from, and nothing only if there is none (`isLeast_findWord?`). Places are told
from the bytes of the text here, and from the characters next to them (`IsWordAt`).

The search does not try every place. Behind a place that is not whole it goes on where the word ends
(`findWordAfter_behind`), and so passes the places that overlap with that one. No whole place is
passed (`WholeAt.bytes_le`): the character in front of it would be one of the word.
-/

namespace LinksBinding.Text

variable {word text before after : List Char} {previous : Option Char} {offset start : Nat}

/-! ## Steps of the search -/

/-- In front of a place stands the last character before it, or `previous` if there is none. -/
theorem getLast?_cons_or (c : Char) (front : List Char) (previous : Option Char) :
    (c :: front).getLast?.or previous = front.getLast?.or (some c) := by
  rw [List.getLast?_cons]
  cases front.getLast? <;> rfl

/-- Characters that are passed over count with their bytes, and the last of them stands in front of
what follows. -/
theorem findWordAfter_append (front text : List Char) :
    findWordAfter word front.length previous (front ++ text) =
      (findWordAfter word 0 (front.getLast?.or previous) text).map (bytes front + ·) := by
  induction front generalizing previous with
  | nil => simp [bytes]
  | cons c front ih =>
    rw [List.length_cons, List.cons_append, findWordAfter, ih, getLast?_cons_or, Option.map_map]
    simp only [Function.comp_def, bytes, Nat.add_assoc]

/-- A word that stands whole is found. -/
theorem findWordAfter_here (nonempty : word ≠ []) (starts : isWordEdge previous = true)
    (ends : isWordEdge after.head? = true) :
    findWordAfter word 0 previous (word ++ after) = some 0 := by
  obtain ⟨c, rest, rfl⟩ := List.exists_cons_of_ne_nil nonempty
  have here : stripStart? (c :: rest) (c :: (rest ++ after)) = some after :=
    stripStart?_eq_some_iff.mpr rfl
  rw [List.cons_append, findWordAfter, here]
  simp only [starts, ends, Bool.and_self, ↓reduceIte]

/-- Where a word stands that is not whole, the search goes on behind it. -/
theorem findWordAfter_behind (nonempty : word ≠ [])
    (inside : (isWordEdge previous && isWordEdge after.head?) = false) :
    findWordAfter word 0 previous (word ++ after) =
      (findWordAfter word 0 (word.getLast?.or previous) after).map (bytes word + ·) := by
  obtain ⟨c, rest, rfl⟩ := List.exists_cons_of_ne_nil nonempty
  have here : stripStart? (c :: rest) (c :: (rest ++ after)) = some after :=
    stripStart?_eq_some_iff.mpr rfl
  rw [List.cons_append, findWordAfter, here]
  simp only [inside, Bool.false_eq_true, ↓reduceIte, List.length_cons, Nat.add_sub_cancel]
  rw [findWordAfter_append, getLast?_cons_or, Option.map_map]
  simp only [Function.comp_def, bytes, Nat.add_assoc]

/-- Where the word does not stand, the search goes on behind one character. -/
theorem findWordAfter_cons {c : Char} (absent : ¬ word <+: c :: text) :
    findWordAfter word 0 previous (c :: text) =
      (findWordAfter word 0 (some c) text).map (c.utf8Size + ·) := by
  have elsewhere : stripStart? word (c :: text) = none := by
    rw [Option.eq_none_iff_forall_ne_some]
    intro rest here
    exact absent ⟨rest, (stripStart?_eq_some_iff.mp here).symm⟩
  rw [findWordAfter, elsewhere]

/-! ## Whole words are not missed -/

/-- What stands whole behind the front of a text stands whole in the rest of it. -/
theorem WholeAt.exists_of_append {front : List Char}
    (whole : WholeAt word previous (front ++ text) offset) (behind : bytes front ≤ offset) :
    ∃ further, offset = bytes front + further ∧
      WholeAt word (front.getLast?.or previous) text further := by
  obtain ⟨before, after, split, rfl, starts, ends⟩ := whole
  rw [List.append_assoc] at split
  obtain ⟨gap, rfl, rfl⟩ := exists_gap_of_bytes_le split behind
  rw [List.getLast?_append, Option.or_assoc] at starts
  exact ⟨bytes gap, bytes_append .., gap, after, (List.append_assoc ..).symm, rfl, starts, ends⟩

/-- In a text that does not start with the word, it stands whole behind the first character. -/
theorem WholeAt.exists_of_cons {c : Char} (whole : WholeAt word previous (c :: text) offset)
    (absent : ¬ word <+: c :: text) :
    ∃ further, offset = c.utf8Size + further ∧ WholeAt word (some c) text further := by
  have behind : c.utf8Size ≤ offset := by
    obtain ⟨before, after, split, rfl, -⟩ := whole
    cases before with
    | nil => exact absurd ⟨after, split.symm⟩ absent
    | cons d before =>
      obtain ⟨rfl, -⟩ := List.cons.inj split
      exact Nat.le_add_right ..
  have appended : WholeAt word previous ([c] ++ text) offset := whole
  exact appended.exists_of_append behind

/-- In a text that starts with the word, which is not whole there, it stands whole behind that
place. -/
theorem WholeAt.bytes_le (named : ∀ c ∈ word, isNameChar c = true)
    (whole : WholeAt word previous (word ++ text) offset)
    (inside : (isWordEdge previous && isWordEdge text.head?) = false) : bytes word ≤ offset := by
  obtain ⟨before, after, split, rfl, starts, ends⟩ := whole
  rw [List.append_assoc] at split
  cases before with
  | nil =>
    -- the whole place is the one that is not whole
    obtain rfl : text = after := List.append_cancel_left split
    rw [List.getLast?_nil, Option.none_or] at starts
    rw [starts, ends] at inside
    cases inside
  | cons c before =>
    have last : (c :: before).getLast?.or previous = ([] ++ c :: before).getLast? := by
      rw [List.nil_append, List.getLast?_cons, Option.some_or]
    rw [last] at starts
    obtain ⟨gap, apart⟩ := exists_gap_of_before named split starts (List.cons_ne_nil c before)
    rw [apart, bytes_append]
    exact Nat.le_add_right ..

/-- Where a word of name characters stands whole, the search finds it, or one further left. -/
theorem exists_le_of_wholeAt (named : ∀ c ∈ word, isNameChar c = true) (nonempty : word ≠ [])
    (whole : WholeAt word previous text offset) :
    ∃ found ≤ offset, findWordAfter word 0 previous text = some found := by
  -- on the length, since the search passes a whole word where it is not whole
  induction size : text.length using Nat.strongRecOn generalizing text previous offset with
  | ind size shorter =>
    subst size
    by_cases here : word <+: text
    · obtain ⟨rest, rfl⟩ := here
      cases edges : isWordEdge previous && isWordEdge rest.head? with
      | true =>
        rw [Bool.and_eq_true] at edges
        exact ⟨0, Nat.zero_le _, findWordAfter_here nonempty edges.1 edges.2⟩
      | false =>
        have less : rest.length < (word ++ rest).length := by
          have := List.length_pos_iff.mpr nonempty
          rw [List.length_append]
          omega
        obtain ⟨further, rfl, stands⟩ := whole.exists_of_append (whole.bytes_le named edges)
        obtain ⟨found, bound, below⟩ := shorter _ less stands rfl
        refine ⟨bytes word + found, Nat.add_le_add_left bound _, ?_⟩
        rw [findWordAfter_behind nonempty edges, below, Option.map_some]
    · cases text with
      | nil =>
        obtain ⟨before, after, split, -⟩ := whole
        exact absurd (List.append_eq_nil_iff.mp (List.append_eq_nil_iff.mp split.symm).1).2 nonempty
      | cons c text =>
        obtain ⟨further, rfl, stands⟩ := whole.exists_of_cons here
        obtain ⟨found, bound, below⟩ := shorter _ (Nat.lt_succ_self _) stands rfl
        refine ⟨c.utf8Size + found, Nat.add_le_add_left bound _, ?_⟩
        rw [findWordAfter_cons here, below, Option.map_some]

/-! ## Places in bytes -/

theorem isWordEdge_iff {neighbour : Option Char} :
    isWordEdge neighbour = true ↔ ∀ c, neighbour = some c → isNameChar c = false := by
  rw [isWordEdge, Option.all_eq_true]
  simp only [Bool.not_eq_true']

/-- What stands in front of a cut is the character whose bytes end there. -/
theorem isWordEdge_getLast?_iff (before after : List Char) : isWordEdge before.getLast? = true ↔
    ∀ front c back, before ++ after = front ++ c :: back →
      bytes front + c.utf8Size = bytes before → isNameChar c = false := by
  rw [isWordEdge_iff]
  constructor
  · intro edge front c back split width
    rw [List.append_cons] at split
    have same : bytes before = bytes (front ++ [c]) := by
      rw [← width, bytes_append, bytes, bytes, Nat.add_zero]
    obtain ⟨rfl, -⟩ := isSize_bytes.append_inj split same
    exact edge c List.getLast?_concat
  · intro edge c last
    obtain ⟨front, rfl⟩ := List.getLast?_eq_some_iff.mp last
    refine edge front c after (List.append_cons ..).symm ?_
    rw [bytes_append, bytes, bytes, Nat.add_zero]

/-- What stands behind a cut is the character whose bytes start there. -/
theorem isWordEdge_head?_iff (before after : List Char) : isWordEdge after.head? = true ↔
    ∀ front c back, before ++ after = front ++ c :: back →
      bytes front = bytes before → isNameChar c = false := by
  rw [isWordEdge_iff]
  constructor
  · intro edge front c back split width
    obtain ⟨-, rfl⟩ := isSize_bytes.append_inj split width.symm
    exact edge c rfl
  · intro edge c first
    obtain ⟨back, rfl⟩ := List.head?_eq_some_iff.mp first
    exact edge before c back rfl rfl

/-- A word stands whole in a text at a byte offset: its bytes stand there, and no name character
stands next to them. -/
structure IsWordAt (word text : List Char) (offset : Nat) : Prop where
  /-- the bytes of the word stand there -/
  stands : StandsAt word text offset
  /-- a character that ends where they start is no name character -/
  starts : ∀ before c after, text = before ++ c :: after →
    bytes before + c.utf8Size = offset → isNameChar c = false
  /-- a character that starts where they end is no name character -/
  ends : ∀ before c after, text = before ++ c :: after →
    bytes before = offset + bytes word → isNameChar c = false

/-- The places of a word are found in the bytes of a text as they are among its characters. -/
theorem isWordAt_iff (nonempty : word ≠ []) :
    IsWordAt word text offset ↔ WholeAt word none text offset := by
  constructor
  · rintro ⟨stands, starts, ends⟩
    obtain ⟨before, after, rfl, rfl⟩ := (standsAt_iff nonempty).mp stands
    refine ⟨before, after, rfl, rfl, ?_, ?_⟩
    · rw [Option.or_none, isWordEdge_getLast?_iff before (word ++ after), ← List.append_assoc]
      exact starts
    · rw [isWordEdge_head?_iff (before ++ word) after, bytes_append]
      exact ends
  · rintro ⟨before, after, rfl, rfl, starts, ends⟩
    refine ⟨standsAt_append before word after, ?_, ?_⟩
    · rwa [Option.or_none, isWordEdge_getLast?_iff before (word ++ after),
        ← List.append_assoc] at starts
    · rwa [isWordEdge_head?_iff (before ++ word) after, bytes_append] at ends

/-! ## The search from a boundary -/

/-- The places at or behind a byte offset of a text at which a word stands whole. -/
def wordPlaces (word text : List Char) (start : Nat) : Set Nat :=
  {offset | start ≤ offset ∧ IsWordAt word text offset}

theorem mem_wordPlaces_of_findWord? (nonempty : word ≠ [])
    (found : findWord? text word start = some offset) : offset ∈ wordPlaces word text start :=
  have ⟨behind, whole⟩ := wholeAt_of_findWord? found
  ⟨behind, (isWordAt_iff nonempty).mpr whole⟩

/-- At or behind a boundary, the search passes no place of a word of name characters. -/
theorem exists_le_of_mem_wordPlaces (named : ∀ c ∈ word, isNameChar c = true) (nonempty : word ≠ [])
    (boundary : IsBoundary text start) (place : offset ∈ wordPlaces word text start) :
    ∃ found ≤ offset, findWord? text word start = some found := by
  obtain ⟨front, rest, rfl, rfl⟩ := isBoundary_iff.mp boundary
  obtain ⟨behind, stands⟩ := place
  obtain ⟨further, rfl, whole⟩ := ((isWordAt_iff nonempty).mp stands).exists_of_append behind
  rw [Option.or_none] at whole
  obtain ⟨found, bound, below⟩ := exists_le_of_wholeAt named nonempty whole
  have cut : splitAtByte? (front ++ rest) (bytes front) = some (front, rest) :=
    splitAtByte?_eq_some_iff.mpr ⟨rfl, rfl⟩
  refine ⟨bytes front + found, Nat.add_le_add_left bound _, ?_⟩
  rw [findWord?, if_neg (mt List.isEmpty_iff.mp nonempty), cut]
  simp only [below, Option.map_some]

theorem findWord?_eq_some_iff (named : ∀ c ∈ word, isNameChar c = true) (nonempty : word ≠ [])
    (boundary : IsBoundary text start) :
    findWord? text word start = some offset ↔ IsLeast (wordPlaces word text start) offset := by
  have missed : ∀ {offset}, offset ∈ wordPlaces word text start →
      ∃ found ≤ offset, findWord? text word start = some found :=
    exists_le_of_mem_wordPlaces named nonempty boundary
  constructor
  · intro found
    refine ⟨mem_wordPlaces_of_findWord? nonempty found, fun other place => ?_⟩
    obtain ⟨_, bound, same⟩ := missed place
    rw [found] at same
    cases same
    exact bound
  · rintro ⟨place, least⟩
    obtain ⟨found, bound, here⟩ := missed place
    have order : offset ≤ found := least (mem_wordPlaces_of_findWord? nonempty here)
    rwa [Nat.le_antisymm order bound]

theorem findWord?_eq_none_iff (named : ∀ c ∈ word, isNameChar c = true) (nonempty : word ≠ [])
    (boundary : IsBoundary text start) :
    findWord? text word start = none ↔ wordPlaces word text start = ∅ := by
  rw [Set.eq_empty_iff_forall_notMem, Option.eq_none_iff_forall_ne_some]
  constructor
  · intro absent offset place
    obtain ⟨found, -, here⟩ := exists_le_of_mem_wordPlaces named nonempty boundary place
    exact absent found here
  · intro empty offset found
    exact empty offset (mem_wordPlaces_of_findWord? nonempty found)

/-- From a boundary on, the search finds the leftmost whole place of a word of name characters, and
nothing if there is none. -/
theorem isLeast_findWord? (named : ∀ c ∈ word, isNameChar c = true) (nonempty : word ≠ [])
    (boundary : IsBoundary text start) :
    (∀ offset, findWord? text word start = some offset ↔
      IsLeast (wordPlaces word text start) offset) ∧
    (findWord? text word start = none ↔ wordPlaces word text start = ∅) :=
  ⟨fun _ => findWord?_eq_some_iff named nonempty boundary,
    findWord?_eq_none_iff named nonempty boundary⟩

/-- A text in which a word stands twice where it overlaps with itself, and once whole. -/
def overlappingWords : List Char := "éaéaé éaé".toList

/-- From the start of that text, the search passes the second place, which overlaps with the first.
From the second place, it looks at the character in front of it. -/
theorem isLeast_findWord?_overlappingWords :
    ((∀ c ∈ "éaé".toList, isNameChar c = true) ∧ "éaé".toList ≠ [] ∧
      IsBoundary overlappingWords 0 ∧ IsBoundary overlappingWords 3 ∧
      IsBoundary overlappingWords 11) ∧
    (StandsAt "éaé".toList overlappingWords 0 ∧ StandsAt "éaé".toList overlappingWords 3) ∧
    IsLeast (wordPlaces "éaé".toList overlappingWords 0) 9 ∧
    IsLeast (wordPlaces "éaé".toList overlappingWords 3) 9 ∧
    wordPlaces "éaé".toList overlappingWords 11 = ∅ := by
  have named : ∀ c ∈ "éaé".toList, isNameChar c = true :=
    List.all_eq_true.mp (by decide +kernel : "éaé".toList.all isNameChar = true)
  have nonempty : "éaé".toList ≠ [] := by decide
  have start : IsBoundary overlappingWords 0 := isBoundary_iff.mpr ⟨[], _, rfl, rfl⟩
  have second : IsBoundary overlappingWords 3 :=
    isBoundary_iff.mpr ⟨"éa".toList, "éaé éaé".toList, by decide, by decide⟩
  have late : IsBoundary overlappingWords 11 :=
    isBoundary_iff.mpr ⟨"éaéaé é".toList, "aé".toList, by decide, by decide⟩
  exact ⟨⟨named, nonempty, start, second, late⟩,
    ⟨standsAt_append [] _ "aé éaé".toList, standsAt_append "éa".toList _ " éaé".toList⟩,
    ((isLeast_findWord? named nonempty start).1 9).mp (by decide +kernel),
    ((isLeast_findWord? named nonempty second).1 9).mp (by decide +kernel),
    (isLeast_findWord? named nonempty late).2.mp (by decide +kernel)⟩

end LinksBinding.Text
