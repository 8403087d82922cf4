import Mathlib.Data.List.Basic
import Mathlib.Data.List.TakeWhile
import LinksBinding.Text.Lines

/-!
# The lines of a text and of the document around it

A text is cut at line feeds, a document also at carriage returns. Where no line of the document ends
at a carriage return alone, both cuts agree (`map_text_splitLines`).

A text that stands in a document starts on some line of it, behind what is in front of it there. From
that place on the document is cut as if it began there (`exists_front_of_offsetOfPosition?`), and
what follows the text only continues its last line. So each line of the text stands on a line of the
document, at its start but for the first (`exists_after_of_splitAtFeeds`).
-/

namespace LinksBinding

namespace Text

/-! ## Lines that end at line feeds -/

theorem splitAtFeeds_ne_nil (text : List Char) : splitAtFeeds text ≠ [] := by
  rw [splitAtFeeds, List.splitOn_eq_splitOnP]
  exact List.splitOnP_ne_nil (· == '\n') text

theorem splitAtFeeds_cons (c : Char) (rest : List Char) :
    splitAtFeeds (c :: rest) =
      if c = '\n' then [] :: splitAtFeeds rest else (splitAtFeeds rest).modifyHead (c :: ·) := by
  simp only [splitAtFeeds, List.splitOn_eq_splitOnP, List.splitOnP_cons_eq_if_modifyHead,
    beq_iff_eq]

theorem feed_notMem_of_mem_splitAtFeeds {text line : List Char} (mem : line ∈ splitAtFeeds text) :
    '\n' ∉ line := by
  induction text generalizing line with
  | nil =>
    cases List.mem_singleton.mp mem
    exact List.not_mem_nil
  | cons c rest ih =>
    rw [splitAtFeeds_cons] at mem
    split at mem
    · rcases List.mem_cons.mp mem with rfl | mem
      · exact List.not_mem_nil
      · exact ih mem
    · rename_i other
      obtain ⟨first, lines, split⟩ := List.exists_cons_of_ne_nil (splitAtFeeds_ne_nil rest)
      rw [split, List.modifyHead_cons] at mem
      rcases List.mem_cons.mp mem with rfl | mem
      · exact List.not_mem_cons_of_ne_of_not_mem (Ne.symm other) (ih (split ▸ List.mem_cons_self))
      · exact ih (split ▸ List.mem_cons_of_mem _ mem)

/-- In front of a text, a part without line feeds goes to the first line. -/
theorem splitAtFeeds_append_of_notMem {front : List Char} (free : '\n' ∉ front)
    (rest : List Char) :
    splitAtFeeds (front ++ rest) = (splitAtFeeds rest).modifyHead (front ++ ·) := by
  induction front with
  | nil => exact (congrFun List.modifyHead_id _).symm
  | cons c front ih =>
    obtain ⟨ne, free⟩ := not_or.mp (mt List.mem_cons.mpr free)
    rw [List.cons_append, splitAtFeeds_cons, if_neg (Ne.symm ne), ih free,
      List.modifyHead_modifyHead]
    rfl

/-- What follows a text does not change its lines, but may continue the last of them. -/
theorem getElem?_splitAtFeeds_append {text raw : List Char} {number : Nat}
    (cut : (splitAtFeeds text)[number]? = some raw) (back : List Char) :
    ∃ more, (splitAtFeeds (text ++ back))[number]? = some (raw ++ more) := by
  induction text generalizing number raw with
  | nil =>
    cases number with
    | zero =>
      cases cut
      obtain ⟨first, lines, split⟩ := List.exists_cons_of_ne_nil (splitAtFeeds_ne_nil back)
      exact ⟨first, by rw [List.nil_append, split]; rfl⟩
    | succ number => cases cut
  | cons c rest ih =>
    rw [splitAtFeeds_cons] at cut
    rw [List.cons_append, splitAtFeeds_cons]
    split
    · rename_i feed
      rw [if_pos feed] at cut
      cases number with
      | zero =>
        cases cut
        exact ⟨[], rfl⟩
      | succ number => exact ih cut
    · rename_i other
      rw [if_neg other, List.getElem?_modifyHead] at cut
      rw [List.getElem?_modifyHead]
      split
      · rename_i first
        rw [if_pos first] at cut
        obtain ⟨raw, here, rfl⟩ := Option.map_eq_some_iff.mp cut
        obtain ⟨more, longer⟩ := ih here
        exact ⟨more, by rw [longer]; rfl⟩
      · rename_i later
        rw [if_neg later] at cut
        exact ih cut

theorem isPrefix_dropReturn (line : List Char) : dropReturn line <+: line := by
  unfold dropReturn
  split
  · exact List.dropLast_prefix line
  · exact List.prefix_rfl

theorem dropReturn_append_of_ne_nil (front : List Char) {line : List Char} (some : line ≠ []) :
    dropReturn (front ++ line) = front ++ dropReturn line := by
  rw [dropReturn, dropReturn, List.getLast?_append_of_ne_nil front some,
    List.dropLast_append_of_ne_nil some]
  split <;> rfl

theorem dropReturn_append_of_notMem {front : List Char} (free : '\r' ∉ front) (line : List Char) :
    dropReturn (front ++ line) = front ++ dropReturn line := by
  by_cases none : line = []
  · subst none
    rw [List.append_nil, dropReturn, if_neg fun last => free (List.mem_of_getLast? last)]
    exact (List.append_nil front).symm
  · exact dropReturn_append_of_ne_nil front none

/-- A line that goes on starts with what it was without its carriage return. -/
theorem isPrefix_dropReturn_append (line more : List Char) :
    dropReturn line <+: dropReturn (line ++ more) := by
  by_cases none : more = []
  · simp only [none, List.append_nil, List.prefix_rfl]
  · rw [dropReturn_append_of_ne_nil line none]
    exact (isPrefix_dropReturn line).trans (List.prefix_append ..)

/-- What follows a line that is not blank leaves the white space at its start alone. -/
theorem takeWhile_isBlank_append {line : List Char} (solid : trimStart line ≠ [])
    (after : List Char) : (line ++ after).takeWhile isBlank = line.takeWhile isBlank := by
  rw [List.takeWhile_append, if_neg]
  intro whole
  have lengths := congrArg List.length (List.takeWhile_append_dropWhile (p := isBlank) (l := line))
  rw [List.length_append, whole] at lengths
  exact solid (List.length_eq_zero_iff.mp (Nat.add_eq_left.mp lengths))

theorem feed_notMem_of_mem_terminalLines {text line : List Char} (mem : line ∈ terminalLines text) :
    '\n' ∉ line := by
  have ended : ∀ line ∈ (splitAtFeeds text).dropLast.map dropReturn, '\n' ∉ line := by
    intro line mem feed
    obtain ⟨raw, listed, rfl⟩ := List.mem_map.mp mem
    exact feed_notMem_of_mem_splitAtFeeds ((List.dropLast_sublist _).mem listed)
      ((isPrefix_dropReturn raw).mem feed)
  simp only [terminalLines] at mem
  split at mem
  · exact ended line mem
  · exact ended line mem
  · rename_i last _ found
    rcases List.mem_append.mp mem with mem | mem
    · exact ended line mem
    · rw [List.mem_singleton.mp mem]
      exact feed_notMem_of_mem_splitAtFeeds (List.mem_of_getLast? found)

/-! ## Trimming -/

theorem trimStart_sublist (line : List Char) : (trimStart line).Sublist line :=
  List.dropWhile_sublist _

theorem trim_sublist (text : List Char) : (trim text).Sublist text := by
  have trimmed := (List.dropWhile_sublist (p := isBlank) (l := (trimStart text).reverse)).reverse
  rw [List.reverse_reverse] at trimmed
  exact trimmed.trans (trimStart_sublist text)

/-- Trimming leaves nothing of a text exactly if it is all white space. -/
theorem trim_eq_nil_iff {text : List Char} : trim text = [] ↔ ∀ c ∈ text, isBlank c = true := by
  have trimmed : trim text = [] ↔ ∀ c ∈ text.dropWhile isBlank, isBlank c = true := by
    rw [trim, trimEnd, trimStart, dropEndWhile, List.reverse_eq_nil_iff, List.dropWhile_eq_nil_iff]
    simp only [List.mem_reverse]
  rw [trimmed]
  constructor
  · intro blank c mem
    rw [← List.takeWhile_append_dropWhile (p := isBlank) (l := text)] at mem
    rcases List.mem_append.mp mem with mem | mem
    · exact List.mem_takeWhile_imp mem
    · exact blank c mem
  · exact fun blank c mem => blank c ((List.dropWhile_sublist _).mem mem)

/-! ## Documents that break at line feeds -/

/-- No line of a text ends at a carriage return alone. -/
def BreaksAtFeeds (text : List Char) : Prop :=
  ∀ line ∈ splitLines text, line.ending ≠ .carriageReturn

instance (text : List Char) : Decidable (BreaksAtFeeds text) :=
  inferInstanceAs (Decidable (∀ line ∈ splitLines text, line.ending ≠ .carriageReturn))

theorem BreaksAtFeeds.mono {text rest : List Char} (feeds : BreaksAtFeeds text)
    (fewer : splitLines rest ⊆ splitLines text) : BreaksAtFeeds rest :=
  fun line mem => feeds line (fewer mem)

/-- A character that ends no line goes to the first line of what follows. -/
theorem splitLines_cons {c : Char} {rest : List Char} {line : Line} {lines : List Line}
    (solid : c ≠ '\r') (solid' : c ≠ '\n') (split : splitLines rest = line :: lines) :
    splitLines (c :: rest) = ⟨c :: line.text, line.ending⟩ :: lines := by
  rw [splitLines, split]
  · exact fun _ same => absurd same solid
  · exact solid
  · exact solid'

/-- The lines of a text that ends lines at line feeds are those between its line feeds. -/
theorem map_text_splitLines {text : List Char} (feeds : BreaksAtFeeds text) :
    (splitLines text).map Line.text = (splitAtFeeds text).map dropReturn := by
  fun_induction splitLines text with
  | case1 => rfl
  | case2 rest ih =>
    have feeds' : BreaksAtFeeds rest :=
      feeds.mono (by rw [splitLines]; exact List.subset_cons_self ..)
    rw [splitAtFeeds_cons, splitAtFeeds_cons, List.map_cons, ih feeds']
    rfl
  | case3 rest other ih =>
    -- a carriage return alone
    refine absurd rfl (feeds ⟨[], .carriageReturn⟩ ?_)
    rw [splitLines]
    · exact List.mem_cons_self
    · exact other
  | case4 rest ih =>
    have feeds' : BreaksAtFeeds rest :=
      feeds.mono (by rw [splitLines]; exact List.subset_cons_self ..)
    rw [splitAtFeeds_cons, List.map_cons, ih feeds']
    rfl
  | case5 c rest _ solid solid' line lines split ih =>
    have whole := splitLines_cons solid solid' split
    have feeds' : BreaksAtFeeds rest := by
      intro other mem
      rcases List.mem_cons.mp (split ▸ mem) with rfl | mem
      · exact feeds ⟨c :: other.text, other.ending⟩ (by rw [whole]; exact List.mem_cons_self)
      · exact feeds other (by rw [whole]; exact List.mem_cons_of_mem _ mem)
    have ih := ih feeds'
    obtain ⟨first, raws, cut⟩ := List.exists_cons_of_ne_nil (splitAtFeeds_ne_nil rest)
    rw [split, cut, List.map_cons, List.map_cons, List.cons.injEq] at ih
    rw [splitAtFeeds_cons, if_neg solid', cut, List.modifyHead_cons, List.map_cons, List.map_cons,
      ih.2, ih.1]
    have kept : dropReturn ([c] ++ first) = [c] ++ dropReturn first :=
      dropReturn_append_of_notMem (fun mem => solid (List.mem_singleton.mp mem).symm) first
    exact congrArg (· :: _) kept.symm
  | case6 c rest _ _ _ split => exact absurd split (splitLines_ne_nil rest)

/-! ## Behind a line -/

theorem break_notMem_of_mem_splitLines {text : List Char} {line : Line}
    (mem : line ∈ splitLines text) : '\r' ∉ line.text ∧ '\n' ∉ line.text := by
  fun_induction splitLines text generalizing line with
  | case1 =>
    cases List.mem_singleton.mp mem
    exact ⟨List.not_mem_nil, List.not_mem_nil⟩
  | case2 rest ih | case3 rest _ ih | case4 rest ih =>
    rcases List.mem_cons.mp mem with rfl | mem
    · exact ⟨List.not_mem_nil, List.not_mem_nil⟩
    · exact ih mem
  | case5 c rest _ solid solid' first lines split ih =>
    rw [split] at ih
    rcases List.mem_cons.mp mem with rfl | mem
    · obtain ⟨free, free'⟩ := ih List.mem_cons_self
      exact ⟨List.not_mem_cons_of_ne_of_not_mem (Ne.symm solid) free,
        List.not_mem_cons_of_ne_of_not_mem (Ne.symm solid') free'⟩
    · exact ih (List.mem_cons_of_mem first mem)
  | case6 c rest _ _ _ none => exact absurd none (splitLines_ne_nil rest)

/-- Behind its first line, a text is cut as it is from there. -/
theorem exists_rest_of_splitLines {text : List Char} {first next : Line} {lines : List Line}
    (split : splitLines text = first :: next :: lines) :
    ∃ rest, text = first.chars ++ rest ∧ splitLines rest = next :: lines := by
  fun_induction splitLines text generalizing first with
  | case1 => cases split
  | case2 rest ih | case3 rest _ ih | case4 rest ih =>
    obtain ⟨rfl, below⟩ := List.cons.inj split
    exact ⟨rest, rfl, below⟩
  | case5 c rest _ solid solid' line lines' below ih =>
    cases split
    obtain ⟨behind, rfl, cut⟩ := ih below
    exact ⟨behind, rfl, cut⟩
  | case6 c rest _ _ _ none => exact absurd none (splitLines_ne_nil rest)

/-- From the start of a line on, a text is cut as it is from there. -/
theorem exists_front_of_placeLines {text : List Char} {number offset start : Nat} {line : Line}
    (here : (placeLines offset (splitLines text))[number]? = some (start, line)) :
    ∃ front tail, text = front ++ (line.text ++ tail) ∧ start = offset + bytes front ∧
      splitLines (line.text ++ tail) = (splitLines text).drop number := by
  induction number generalizing text offset with
  | zero =>
    obtain ⟨first, lines, split⟩ := List.exists_cons_of_ne_nil (splitLines_ne_nil text)
    rw [split] at here
    cases here
    have whole := splitLines_join text
    rw [split, List.flatMap_cons, Line.chars, List.append_assoc] at whole
    exact ⟨[], _, whole.symm, rfl, by rw [whole, List.drop_zero]⟩
  | succ number ih =>
    obtain ⟨first, lines, split⟩ := List.exists_cons_of_ne_nil (splitLines_ne_nil text)
    rw [split, placeLines, List.getElem?_cons_succ] at here
    cases lines with
    | nil => cases here
    | cons next lines =>
      obtain ⟨rest, rfl, behind⟩ := exists_rest_of_splitLines split
      obtain ⟨front, tail, rfl, rfl, cut⟩ := ih (behind ▸ here)
      refine ⟨first.chars ++ front, tail, (List.append_assoc ..).symm, ?_, ?_⟩
      · rw [bytes_append, Nat.add_assoc]
      · rw [cut, behind, split, List.drop_succ_cons]

theorem map_snd_placeLines (start : Nat) (lines : List Line) :
    (placeLines start lines).map Prod.snd = lines := by
  induction lines generalizing start with
  | nil => rfl
  | cons line rest ih => rw [placeLines, List.map_cons, ih]

theorem mem_of_getElem?_placeLines {start number : Nat} {lines : List Line} {placed : Nat × Line}
    (here : (placeLines start lines)[number]? = some placed) : placed.2 ∈ lines := by
  rw [← map_snd_placeLines start lines]
  exact List.mem_map_of_mem (List.mem_of_getElem? here)

/-- In a document, the lines of a text begin as in the text, the first of them behind what stands in
front of the text. -/
theorem exists_after_of_splitAtFeeds {front text back raw : List Char} {number : Nat}
    (noReturn : '\r' ∉ front) (noFeed : '\n' ∉ front)
    (feeds : BreaksAtFeeds (front ++ (text ++ back)))
    (cut : (splitAtFeeds text)[number]? = some raw) :
    ∃ after, ((splitLines (front ++ (text ++ back))).map Line.text)[number]? =
      some ((if number = 0 then front else []) ++ dropReturn raw ++ after) := by
  obtain ⟨more, longer⟩ := getElem?_splitAtFeeds_append cut back
  obtain ⟨after, split⟩ := isPrefix_dropReturn_append raw more
  refine ⟨after, ?_⟩
  rw [map_text_splitLines feeds, splitAtFeeds_append_of_notMem noFeed, List.getElem?_map,
    List.getElem?_modifyHead, longer, List.append_assoc, split]
  split
  · exact congrArg some (dropReturn_append_of_notMem noReturn _)
  · rfl

end Text

end LinksBinding
