import LinksBinding.Report
import LinksBinding.Text.Decimal

/-!
# What a report underlines

Below a source line, a report sets tildes under the text that a range has on the line. The line
stands behind its number, which takes three columns or as many as it has digits. The tildes always
stand behind the blanks for three. So they are below the text as long as line numbers have no more
digits than that, and one column too far left for each further digit (`isUnderlined_iff`).

The text of the range is told from the line alone (`IsCutBy`); that it is what the report looks up is
`markedPart?_eq_some_iff`. Columns are told from the lines as they are shown, tabs as blanks
(`Underlines`).
-/

namespace LinksBinding.Report

open Text

variable {lines : List (List Char)} {range : Range} {text : String} {left left' : Nat}
  {line before behind marked after before' marked' after' above below : List Char}

/-! ## The text of a range on its first line -/

/-- A range cuts its first line: `marked` is its text there. If the range ends on another line, or at
no place of this one, that is all that follows its start. If it would end in front of its start, there
is none. -/
structure IsCutBy (line : List Char) (range : Range) (before marked after : List Char) : Prop where
  /-- the line is made of the three -/
  split : line = before ++ marked ++ after
  /-- the text starts where the range does -/
  start : units before = range.start.character.toNat
  /-- it ends where the range does, or with the line -/
  stop : units before + units marked = max (units before)
    (if range.isSingleLine then placeOn line range.stop.character else units line)

/-- A range cuts a line in one way. -/
theorem IsCutBy.unique (cut : IsCutBy line range before marked after)
    (cut' : IsCutBy line range before' marked' after') :
    before = before' ∧ marked = marked' ∧ after = after' := by
  have whole := cut.split.symm.trans cut'.split
  rw [List.append_assoc, List.append_assoc] at whole
  obtain ⟨rfl, behind⟩ := isSize_units.append_inj whole (cut.start.trans cut'.start.symm)
  have width : units marked = units marked' :=
    Nat.add_left_cancel (cut.stop.trans cut'.stop.symm)
  exact ⟨rfl, isSize_units.append_inj behind width⟩

/-- A range that starts at a place of a line cuts it, and the report looks up its text. -/
theorem exists_isCutBy (split : line = before ++ behind)
    (start : units before = range.start.character.toNat) :
    ∃ marked after, IsCutBy line range before marked after ∧
      markedPart? line range = some (before, marked) := by
  obtain ⟨upto, back, split', place, stop⟩ :=
    exists_split_upto line range.isSingleLine range.stop.character
  obtain ⟨marked, after, whole, width, length⟩ := exists_window_between split split'
  refine ⟨marked, after, ⟨whole, start, place ▸ width⟩, ?_⟩
  have found : byteOfColumn? line range.start.character = some (bytes before) := by
    rw [split]
    exact byteOfColumn?_append start behind
  have first : splitAtByte? line (bytes before) = some (before, marked ++ after) :=
    splitAtByte?_eq_some_iff.mpr ⟨by rw [whole, List.append_assoc], rfl⟩
  have second : splitAtByte? (marked ++ after) (bytes marked) = some (marked, after) :=
    splitAtByte?_eq_some_iff.mpr ⟨rfl, rfl⟩
  simp only [markedPart?, found, Option.bind_eq_bind, Option.bind_some, stop, first, length, second,
    Option.pure_def]

/-- What the report looks up is the text of the range. -/
theorem markedPart?_eq_some_iff :
    markedPart? line range = some (before, marked) ↔
      ∃ after, IsCutBy line range before marked after := by
  constructor
  · intro looked
    obtain ⟨offset, found, -⟩ := Option.bind_eq_some_iff.mp looked
    obtain ⟨front, behind, split, start, -⟩ := byteOfColumn?_eq_some_iff.mp found
    obtain ⟨part, after, cut, looked'⟩ := exists_isCutBy split start
    cases Option.some_inj.mp (looked.symm.trans looked')
    exact ⟨after, cut⟩
  · rintro ⟨after, cut⟩
    obtain ⟨part, back, cut', looked⟩ :=
      exists_isCutBy (cut.split.trans (List.append_assoc ..)) cut.start
    obtain ⟨-, rfl, -⟩ := cut.unique cut'
    exact looked

/-! ## Tildes below a text -/

/-- The tildes in the line `below` stand `left` columns too far left: that much in front of where
the marked text stands in the line `above`. There is one for each column of the text, and one for an
empty text. -/
def Underlines (left : Nat) (above below before marked after : List Char) : Prop :=
  ∃ (margin : List Char) (blanks : Nat),
    above = margin ++ expandTabs before ++ expandTabs marked ++ expandTabs after ∧
    below = List.replicate blanks ' ' ++ List.replicate (max 1 (expandTabs marked).length) '~' ∧
    blanks + left = (margin ++ expandTabs before).length

theorem Underlines.unique (stands : Underlines left above below before marked after)
    (stands' : Underlines left' above below before marked after) : left = left' := by
  obtain ⟨margin, blanks, rfl, rfl, column⟩ := stands
  obtain ⟨margin', blanks', same, same', column'⟩ := stands'
  have upper := congrArg List.length same
  have lower := congrArg List.length same'
  simp only [List.length_append, List.length_replicate] at upper lower column column'
  omega

/-- A text shows a line of a document, and below it tildes `left` columns in front of the text that a
range has on the line. -/
def IsUnderlined (left : Nat) (lines : List (List Char)) (range : Range) (text : String) : Prop :=
  ∃ line before marked after above below,
    lines[range.start.line.toNat]? = some line ∧
    IsCutBy line range before marked after ∧
    splitAtFeeds text.toList = [[], above, below] ∧
    Underlines left above below before marked after

theorem IsUnderlined.unique (shown : IsUnderlined left lines range text)
    (shown' : IsUnderlined left' lines range text) : left = left' := by
  obtain ⟨line, before, marked, after, above, below, stands, cut, split, under⟩ := shown
  obtain ⟨_, before', marked', after', above', below', stands', cut', split', under'⟩ := shown'
  cases Option.some_inj.mp (stands.symm.trans stands')
  obtain ⟨rfl, rfl, rfl⟩ := cut.unique cut'
  cases split.symm.trans split'
  exact under.unique under'

/-! ## The lines of a snippet -/

theorem expandTabs_append (front back : List Char) :
    expandTabs (front ++ back) = expandTabs front ++ expandTabs back :=
  List.flatMap_append

theorem feed_notMem_expandTabs (free : '\n' ∉ line) : '\n' ∉ expandTabs line := by
  intro mem
  obtain ⟨c, inside, shown⟩ := List.mem_flatMap.mp mem
  split at shown
  · exact absurd (List.eq_of_mem_replicate shown) (by decide)
  · exact free (List.mem_singleton.mp shown ▸ inside)

/-- What stands in front of a line of the document in a report. -/
def gutter (number : Coordinate) : List Char :=
  ("  " ++ alignRight 3 (ordinal number) ++ "   ").toList

theorem toList_ordinal (number : Coordinate) :
    (ordinal number).toList = digits (number + 1).toNat := by
  rw [ordinal, Nat.toString_eq_ofList_toDigits, String.toList_ofList, digits]

theorem toList_alignRight (width : Nat) (word : String) :
    (alignRight width word).toList =
      List.replicate (width - word.length) ' ' ++ word.toList := by
  rw [alignRight, String.toList_append, String.toList_ofList]

theorem length_gutter (number : Coordinate) :
    (gutter number).length = max 3 (ordinal number).length + 5 := by
  have two : "  ".length = 2 := rfl
  have three : "   ".length = 3 := rfl
  simp only [gutter, String.toList_append, toList_alignRight, List.length_append,
    List.length_replicate, String.length_toList, two, three]
  omega

theorem feed_notMem_gutter (number : Coordinate) : '\n' ∉ gutter number := by
  simp only [gutter, String.toList_append, toList_alignRight, List.mem_append,
    List.mem_replicate, toList_ordinal]
  rintro ((blank | ⟨-, blank⟩ | digit) | blank)
  · exact absurd blank (by decide)
  · exact absurd blank (by decide)
  · exact absurd (isAsciiDigit_of_mem_digits digit) (by decide)
  · exact absurd blank (by decide)

/-- The tildes of a snippet and the blanks in front of them. -/
def underline (before marked : List Char) : List Char :=
  List.replicate 8 ' ' ++ List.replicate (expandTabs before).length ' ' ++
    List.replicate (max 1 (expandTabs marked).length) '~'

/-- Without colours, a snippet is an empty line, the line in question and the underline. -/
theorem toList_snippet? (shown : snippet? false lines range = some text) :
    ∃ line before marked, lines[range.start.line.toNat]? = some line ∧
      markedPart? line range = some (before, marked) ∧
      text.toList = ['\n'].intercalate
        [[], gutter range.start.line ++ expandTabs line, underline before marked] := by
  obtain ⟨line, stands, shown⟩ := Option.bind_eq_some_iff.mp shown
  obtain ⟨⟨before, marked⟩, looked, shown⟩ := Option.bind_eq_some_iff.mp shown
  refine ⟨line, before, marked, stands, looked, ?_⟩
  have first : "\n  ".toList = '\n' :: "  ".toList := rfl
  have second : "\n        ".toList = '\n' :: List.replicate 8 ' ' := rfl
  rw [← Option.some_inj.mp shown]
  simp only [painted, Bool.false_eq_true, if_false, String.toList_append, String.toList_ofList,
    first, second, List.intercalate_cons_cons, List.intercalate_singleton, gutter, underline,
    length_expandTabs, List.append_assoc, List.cons_append, List.nil_append]

/-- The tildes below a line stand too far left by the digits that its number has above three. -/
theorem underlines_snippet (cut : IsCutBy line range before marked after) (number : Coordinate) :
    Underlines ((ordinal number).length - 3) (gutter number ++ expandTabs line)
      (underline before marked) before marked after := by
  refine ⟨gutter number, 8 + (expandTabs before).length, ?_, ?_, ?_⟩
  · rw [cut.split, expandTabs_append, expandTabs_append]
    simp only [List.append_assoc]
  · rw [underline, List.replicate_append_replicate]
  · rw [List.length_append, length_gutter]
    omega

theorem feed_notMem_underline : '\n' ∉ underline before marked := by
  simp only [underline, List.mem_append, List.mem_replicate]
  rintro ((⟨-, blank⟩ | ⟨-, blank⟩) | ⟨-, tilde⟩)
  · exact absurd blank (by decide)
  · exact absurd blank (by decide)
  · exact absurd tilde (by decide)

theorem isUnderlined_of_snippet? (free : ∀ line ∈ lines, '\n' ∉ line)
    (shown : snippet? false lines range = some text) :
    IsUnderlined ((ordinal range.start.line).length - 3) lines range text := by
  obtain ⟨line, before, marked, stands, looked, written⟩ := toList_snippet? shown
  obtain ⟨after, cut⟩ := markedPart?_eq_some_iff.mp looked
  refine ⟨line, before, marked, after, _, _, stands, cut, ?_, underlines_snippet cut _⟩
  have plain : ∀ shown ∈ [[], gutter range.start.line ++ expandTabs line, underline before marked],
      '\n' ∉ shown := by
    simp only [List.forall_mem_cons, List.mem_append, not_or]
    exact ⟨List.not_mem_nil, ⟨feed_notMem_gutter _,
      feed_notMem_expandTabs (free line (List.mem_of_getElem? stands))⟩,
      feed_notMem_underline, List.forall_mem_nil _⟩
  rw [splitAtFeeds, written]
  exact List.splitOn_intercalate '\n' plain (List.cons_ne_nil _ _)

theorem length_ordinal_le_three_iff (number : Coordinate) :
    (ordinal number).length ≤ 3 ↔ (number + 1).toNat < 1000 := by
  rw [← String.length_toList, toList_ordinal, digits]
  exact Nat.length_toDigits_le_iff (by decide) (by decide)

/-- Tildes stand below the text of a range as long as the number of the line is below 1000. In
general they stand too far left by the digits that the number has above three. -/
theorem isUnderlined_iff (free : ∀ line ∈ lines, '\n' ∉ line)
    (shown : snippet? false lines range = some text) :
    (IsUnderlined 0 lines range text ↔ (range.start.line + 1).toNat < 1000) ∧
      ∀ left, IsUnderlined left lines range text ↔
        left = (ordinal range.start.line).length - 3 := by
  have stands := isUnderlined_of_snippet? free shown
  have placed (left : Nat) : IsUnderlined left lines range text ↔
      left = (ordinal range.start.line).length - 3 :=
    ⟨fun other => other.unique stands, fun same => same ▸ stands⟩
  refine ⟨?_, placed⟩
  rw [placed, ← length_ordinal_le_three_iff]
  omega

/-- A name behind a tab, in the second line of a document. -/
theorem isUnderlined_name :
    (∀ line ∈ ["var x = 1;".toList, "\tprint(mesg)".toList], '\n' ∉ line) ∧
      snippet? false ["var x = 1;".toList, "\tprint(mesg)".toList] (.onLine 1 7 4) =
        some "\n    2       print(mesg)\n                  ~~~~" ∧
      IsUnderlined 0 ["var x = 1;".toList, "\tprint(mesg)".toList] (.onLine 1 7 4)
        "\n    2       print(mesg)\n                  ~~~~" := by
  have free : ∀ line ∈ ["var x = 1;".toList, "\tprint(mesg)".toList], '\n' ∉ line := by
    simp only [List.forall_mem_cons]
    exact ⟨by decide +kernel, by decide +kernel, List.forall_mem_nil _⟩
  have shown : snippet? false ["var x = 1;".toList, "\tprint(mesg)".toList] (.onLine 1 7 4) =
      some "\n    2       print(mesg)\n                  ~~~~" := by decide +kernel
  exact ⟨free, shown, (isUnderlined_iff free shown).1.mpr (by decide)⟩

/-- On line 1000 the tilde stands below the blank in front of the text. -/
theorem not_isUnderlined_thousandth :
    (∀ line ∈ List.replicate 1000 ['x'], '\n' ∉ line) ∧
      snippet? false (List.replicate 1000 ['x']) (.onLine 999 0 1) =
        some "\n  1000   x\n        ~" ∧
      ¬ IsUnderlined 0 (List.replicate 1000 ['x']) (.onLine 999 0 1) "\n  1000   x\n        ~" := by
  have free : ∀ line ∈ List.replicate 1000 ['x'], '\n' ∉ line := by
    intro line mem
    rw [List.eq_of_mem_replicate mem]
    decide
  have shown : snippet? false (List.replicate 1000 ['x']) (.onLine 999 0 1) =
      some "\n  1000   x\n        ~" := by decide +kernel
  refine ⟨free, shown, fun aligned => ?_⟩
  have off : (ordinal (.onLine 999 0 1 : Range).start.line).length - 3 = 1 := by decide +kernel
  have same := aligned.unique (isUnderlined_of_snippet? free shown)
  rw [off] at same
  exact absurd same (by decide)

end LinksBinding.Report
