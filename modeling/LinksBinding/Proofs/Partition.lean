import LinksBinding.Proofs.Offsets

/-!
# The lines of a document make it up

The line table of a document cuts it into lines with one break each, and nothing else
(`LineTable.partitions_ofChars`).

The cut is made in two passes. A scan finds the starts of lines, looking one character ahead at a
carriage return (`lineStarts`), and the text of a line is what stands between two starts without the
carriage returns and line feeds at its end. Trimming takes any run of them, but there never is
more than the one break of the line: all that ends a line is at its end, so a run such as two carriage
returns and a line feed is cut before it is trimmed.
-/

namespace LinksBinding

namespace Text

variable {text source rest : List Char} {offset number : Nat}

/-! ## Number of lines -/

/-- How often a carriage return stands directly in front of a line feed. -/
def returnFeedCount (text : List Char) : Nat := (text.zip text.tail).count ('\r', '\n')

/-- Number of line breaks: line feeds and carriage returns, of which a pair counts once. -/
def breakCount (text : List Char) : Nat :=
  text.count '\n' + text.count '\r' - returnFeedCount text

theorem returnFeedCount_returnFeed (rest : List Char) :
    returnFeedCount ('\r' :: '\n' :: rest) = returnFeedCount rest + 1 := by
  cases rest <;> simp [returnFeedCount]

theorem returnFeedCount_cons {c : Char} {rest : List Char}
    (whole : c = '\r' → rest.head? ≠ some '\n') :
    returnFeedCount (c :: rest) = returnFeedCount rest := by
  cases rest with
  | nil => rfl
  | cons d rest =>
    refine List.count_cons_of_ne ?_
    rintro ⟨⟩
    exact whole rfl rfl

/-- Each break ends one line, and the last line has none. -/
theorem length_splitLines_add (text : List Char) :
    (splitLines text).length + returnFeedCount text =
      text.count '\n' + text.count '\r' + 1 := by
  fun_induction splitLines text with
  | case1 => rfl
  | case2 rest ih =>
    rw [returnFeedCount_returnFeed]
    simp only [List.length_cons, List.count_cons, beq_iff_eq, Char.reduceEq, reduceIte]
    omega
  | case3 rest other ih =>
    rw [returnFeedCount_cons fun _ => head?_ne_feed other]
    simp only [List.length_cons, List.count_cons, beq_iff_eq, Char.reduceEq, reduceIte]
    omega
  | case4 rest ih =>
    rw [returnFeedCount_cons fun same => absurd same (by decide)]
    simp only [List.length_cons, List.count_cons, beq_iff_eq, Char.reduceEq, reduceIte]
    omega
  | case5 c rest _ solid solid' line lines split ih =>
    rw [returnFeedCount_cons fun same => absurd same solid, List.count_cons_of_ne solid',
      List.count_cons_of_ne solid]
    rwa [split] at ih
  | case6 c rest _ _ _ none => exact absurd none (splitLines_ne_nil rest)

theorem length_splitLines (text : List Char) : (splitLines text).length = breakCount text + 1 := by
  have sum := length_splitLines_add text
  have lines := List.length_pos_iff.mpr (splitLines_ne_nil text)
  rw [breakCount]
  omega

namespace LineTable

/-! ## Lines of a table -/

theorem exists_of_lineText? (short : bytes source < UInt32.size)
    (shows : (ofChars source).lineText? number = some text) :
    ∃ line, (splitLines source)[number]? = some line ∧ line.text = text := by
  rw [lineText?_ofChars short, lineAt?, List.getElem?_map] at shows
  exact Option.map_eq_some_iff.mp shows

theorem exists_of_lineStart? (short : bytes source < UInt32.size) {start : Nat}
    (starts : (ofChars source).lineStart? number = some start) :
    ∃ line, (splitLines source)[number]? = some line ∧
      bytes (((splitLines source).take number).flatMap Line.chars) = start := by
  rw [lineStart?_ofChars short] at starts
  exact Option.map_eq_some_iff.mp starts

theorem lineText?_eq_none_iff (short : bytes source < UInt32.size) :
    (ofChars source).lineText? number = none ↔ (ofChars source).count ≤ number := by
  rw [lineText?_ofChars short, lineAt?, count_ofChars, List.getElem?_eq_none_iff, List.length_map]

theorem ending_eq_none_of_splitLines {line : Line} (split : splitLines text = [line]) :
    line.ending = .none := by
  fun_induction splitLines text generalizing line with
  | case1 =>
    cases split
    rfl
  | case2 rest | case3 rest | case4 rest =>
    exact absurd (List.cons.inj split).2 (splitLines_ne_nil rest)
  | case5 c rest _ _ _ first lines below ih =>
    cases split
    have ends : first.ending = .none := ih below
    exact ends
  | case6 c rest _ _ _ none => exact absurd none (splitLines_ne_nil rest)

/-- The last line is the one without a break. -/
theorem ending_eq_none_iff {line : Line} (here : (splitLines source)[number]? = some line) :
    line.ending = .none ↔ number + 1 = (splitLines source).length := by
  obtain ⟨inside, same⟩ := List.getElem?_eq_some_iff.mp here
  -- from the line on, the document is cut as a text that begins there
  obtain ⟨_, tail, -, -, cut⟩ : ∃ front tail, source = front ++ (line.text ++ tail) ∧
      bytes ((splitLines source |>.take number).flatMap Line.chars) = 0 + bytes front ∧
      splitLines (line.text ++ tail) = (splitLines source).drop number :=
    exists_front_of_placeLines (by rw [getElem?_placeLines, here, Option.map_some, Nat.zero_add])
  rw [List.drop_eq_getElem_cons inside, same] at cut
  cases below : (splitLines source).drop (number + 1) with
  | nil =>
    have last := List.drop_eq_nil_iff.mp below
    exact iff_of_true (ending_eq_none_of_splitLines (below ▸ cut)) (by omega)
  | cons next lines =>
    have more := congrArg List.length below
    rw [List.length_drop, List.length_cons] at more
    exact iff_of_false (ending_ne_none_of_splitLines (below ▸ cut)) (by omega)

/-- A document is made up of the lines of its table. -/
structure Partitions (table : LineTable) (source : List Char) : Prop where
  /-- lines start where a scan of the document with 32-bit offsets says -/
  scanned (number : Nat) : table.lineStart? number = (lineStarts source)[number]?.map UInt32.toNat
  /-- the first line starts the document -/
  first : table.lineStart? 0 = some 0
  /-- a line starts further on than those above it -/
  ascending {number number' start start' : Nat} : number < number' →
    table.lineStart? number = some start → table.lineStart? number' = some start' → start < start'
  /-- there is a start for each line, and no other -/
  start_isSome_iff (number : Nat) : (table.lineStart? number).isSome ↔ number < table.count
  /-- there is a text for each line, and no other -/
  text_isSome_iff (number : Nat) : (table.lineText? number).isSome ↔ number < table.count
  /-- no line break is part of a text -/
  solid {number : Nat} {text : List Char} : table.lineText? number = some text →
    '\r' ∉ text ∧ '\n' ∉ text
  /-- from its start, which is at a character boundary, to that of the next line stand the text of a
  line and one break, and on the last line nothing behind the text -/
  slice {number : Nat} {text : List Char} : table.lineText? number = some text →
    ∃ start ending, table.lineStart? number = some start ∧
      IsSlice source start ((table.lineStart? (number + 1)).getD (bytes source))
        (text ++ LineBreak.chars ending) ∧
      (ending = .none ↔ number + 1 = table.count)
  /-- the text of a line is that stretch without the carriage returns and line feeds at its end -/
  trimmed {number start : Nat} {piece : List Char} : table.lineStart? number = some start →
    IsSlice source start ((table.lineStart? (number + 1)).getD (bytes source)) piece →
      table.lineText? number = some (dropEndWhile isBreakChar piece)
  /-- there is one line more than there are breaks -/
  count_eq : table.count = breakCount source + 1

/-- A line starts behind all of a line above it, which has at least its break. -/
theorem lineStart?_lt (short : bytes source < UInt32.size) {number' start start' : Nat}
    (above : number < number')
    (starts : (ofChars source).lineStart? number = some start)
    (starts' : (ofChars source).lineStart? number' = some start') : start < start' := by
  obtain ⟨line, here, rfl⟩ := exists_of_lineStart? short starts
  obtain ⟨line', below, rfl⟩ := exists_of_lineStart? short starts'
  have breaks : line.ending ≠ .none := fun none => by
    have last := (ending_eq_none_iff here).mp none
    have inside := (List.getElem?_eq_some_iff.mp below).1
    omega
  have ends := LineBreak.bytes_chars_pos breaks
  have upTo : (splitLines source).take (number + 1) <+: (splitLines source).take number' :=
    List.take_prefix_take_left above
  obtain ⟨between, more⟩ := upTo
  rw [← more, List.take_add_one, here, Option.toList_some]
  simp only [List.flatMap_append, List.flatMap_singleton, bytes_append, Line.chars]
  omega

/-- The line table of a document that is no longer than 32-bit offsets reach makes it up. -/
theorem partitions_ofChars (short : bytes source < UInt32.size) :
    (ofChars source).Partitions source where
  scanned number := by rw [lineStart?, ofChars, List.getElem?_toArray]
  first := by
    obtain ⟨line, lines, split⟩ := List.exists_cons_of_ne_nil (splitLines_ne_nil source)
    rw [lineStart?_ofChars short, split]
    rfl
  ascending above starts starts' := lineStart?_lt short above starts starts'
  start_isSome_iff number := by
    rw [lineStart?_ofChars short, count_ofChars, Option.isSome_map, isSome_getElem?]
  text_isSome_iff number := by
    rw [Option.isSome_iff_ne_none, Ne, lineText?_eq_none_iff short, Nat.not_le]
  solid shows := by
    obtain ⟨line, here, rfl⟩ := exists_of_lineText? short shows
    exact break_notMem_of_mem_splitLines (List.mem_of_getElem? here)
  slice shows := by
    obtain ⟨line, here, rfl⟩ := exists_of_lineText? short shows
    refine ⟨_, line.ending, ?_, isSlice_line short here, ?_⟩
    · rw [lineStart?_ofChars short, here, Option.map_some]
    · rw [count_ofChars, ending_eq_none_iff here]
  trimmed starts slice := by
    obtain ⟨line, here, rfl⟩ := exists_of_lineStart? short starts
    rw [lineText?_ofChars short, lineAt?, List.getElem?_map, here,
      slice.unique (isSlice_line short here), dropEndWhile_chars (break_notMem_of_mem_splitLines (List.mem_of_getElem? here)),
      Option.map_some]
  count_eq := by rw [count_ofChars, length_splitLines]

/-- A document with runs of breaks: two carriage returns and a line feed, a line feed and a carriage
return. -/
def runsOfBreaks : List Char := "a\r\r\n🚀\n\rb\r\n\n".toList

/-- No run is taken for one break, and none swallows an empty line. -/
theorem partitions_runsOfBreaks :
    bytes runsOfBreaks < UInt32.size ∧ (ofChars runsOfBreaks).Partitions runsOfBreaks ∧
      lineStarts runsOfBreaks = [0, 2, 4, 9, 10, 13, 14] ∧ breakCount runsOfBreaks = 6 ∧
      (List.range 8).map (ofChars runsOfBreaks).lineText? =
        [some ['a'], some [], some ['🚀'], some [], some ['b'], some [], some [], none] := by
  have short : bytes runsOfBreaks < UInt32.size := by decide +kernel
  exact ⟨short, partitions_ofChars short, by decide +kernel, by decide +kernel, by decide +kernel⟩

end LineTable

end Text

end LinksBinding
