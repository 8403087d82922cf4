import LinksBinding.CommandLine.Run
import LinksBinding.Proofs.LineStarts
import LinksBinding.Proofs.Underlining

/-!
# Which line a report shows

A report looks up the line of a diagnostic among the lines that a terminal shows, which end at line
feeds. The diagnostic counts lines as editors do, and these also end at carriage returns alone. So
the rows of a terminal are lines of the document, several of them side by side where carriage
returns are left (`flatMap_splitAtReturns`), and a row comes too late by the carriage returns that
are left above it.

The line that a snippet shows is then that of the diagnostic exactly if no carriage return is left
in it and the line that stands as many lines below as carriage returns are left above looks the same
(`showsLine_iff`). If none is left so far down, it is.
-/

namespace LinksBinding

namespace Text

/-! ## Rows -/

/-- The pieces between the carriage returns of a text. -/
def splitAtReturns (text : List Char) : List (List Char) := text.splitOn '\r'

theorem splitAtReturns_cons (c : Char) (rest : List Char) :
    splitAtReturns (c :: rest) =
      if c = '\r' then [] :: splitAtReturns rest
      else (splitAtReturns rest).modifyHead (c :: ·) := by
  simp only [splitAtReturns, List.splitOn_eq_splitOnP, List.splitOnP_cons_eq_if_modifyHead,
    beq_iff_eq]

theorem length_splitAtReturns (text : List Char) :
    (splitAtReturns text).length = text.count '\r' + 1 := by
  induction text with
  | nil => rfl
  | cons c rest ih =>
    rw [splitAtReturns_cons, List.count_cons]
    split
    · rename_i same
      rw [List.length_cons, ih, same]
      rfl
    · rename_i other
      rw [List.length_modifyHead, ih, beq_false_of_ne other]
      rfl

theorem splitAtReturns_ne_nil (text : List Char) : splitAtReturns text ≠ [] :=
  List.ne_nil_of_length_eq_add_one (length_splitAtReturns text)

theorem splitAtReturns_of_notMem {text : List Char} (free : '\r' ∉ text) :
    splitAtReturns text = [text] := by
  rw [splitAtReturns, List.splitOn_eq_splitOnP]
  refine List.splitOnP_eq_singleton fun c mem => beq_false_of_ne ?_
  rintro rfl
  exact free mem

/-- The lines that a terminal shows, and the empty one behind a line feed at the end. -/
def rows (text : List Char) : List (List Char) :=
  (splitAtFeeds text).dropLast.map dropReturn ++ (splitAtFeeds text).getLast?.toList

theorem rows_ne_nil (text : List Char) : rows text ≠ [] := by
  obtain ⟨last, found⟩ := Option.ne_none_iff_exists'.mp
    (mt List.getLast?_eq_none_iff.mp (splitAtFeeds_ne_nil text))
  rw [rows, found]
  exact List.append_ne_nil_of_right_ne_nil _ (List.cons_ne_nil _ _)

/-- A terminal shows the rows, but not an empty one at the end. -/
theorem isPrefix_terminalLines (text : List Char) : terminalLines text <+: rows text := by
  simp only [terminalLines, rows]
  split
  · exact List.prefix_append ..
  · exact List.prefix_append ..
  · rename_i last _ found
    rw [found]
    exact List.prefix_rfl

theorem rows_feed (rest : List Char) : rows ('\n' :: rest) = [] :: rows rest := by
  obtain ⟨first, lines, cut⟩ := List.exists_cons_of_ne_nil (splitAtFeeds_ne_nil rest)
  rw [rows, rows, splitAtFeeds_cons, if_pos rfl, cut]
  rfl

/-- A text with an empty line in front of others starts with a line feed. -/
theorem exists_eq_feed_cons {text next : List Char} {lines : List (List Char)}
    (cut : splitAtFeeds text = [] :: next :: lines) : ∃ behind, text = '\n' :: behind := by
  cases text with
  | nil => cases cut
  | cons c rest =>
    rw [splitAtFeeds_cons] at cut
    split at cut
    · rename_i feed
      exact ⟨rest, by rw [feed]⟩
    · obtain ⟨first, others, cut'⟩ := List.exists_cons_of_ne_nil (splitAtFeeds_ne_nil rest)
      rw [cut', List.modifyHead_cons] at cut
      cases cut

/-- A character that ends no row goes to the first row of what follows. -/
theorem rows_cons {c : Char} {rest : List Char} (solid : c ≠ '\n')
    (solid' : c = '\r' → ∀ behind, rest ≠ '\n' :: behind) :
    rows (c :: rest) = (rows rest).modifyHead (c :: ·) := by
  obtain ⟨first, lines, cut⟩ := List.exists_cons_of_ne_nil (splitAtFeeds_ne_nil rest)
  rw [rows, rows, splitAtFeeds_cons, if_neg solid, cut, List.modifyHead_cons]
  cases lines with
  | nil => rfl
  | cons next lines =>
    have kept : dropReturn ([c] ++ first) = [c] ++ dropReturn first := by
      by_cases none : first = []
      · -- a line feed comes next, so this is no carriage return
        obtain ⟨behind, fed⟩ := exists_eq_feed_cons (none ▸ cut)
        refine dropReturn_append_of_notMem (fun mem => ?_) first
        exact solid' (List.mem_singleton.mp mem).symm behind fed
      · exact dropReturn_append_of_ne_nil [c] none
    exact congrArg (· :: _) kept

theorem rows_returnFeed (rest : List Char) : rows ('\r' :: '\n' :: rest) = [] :: rows rest := by
  obtain ⟨first, lines, cut⟩ := List.exists_cons_of_ne_nil (splitAtFeeds_ne_nil rest)
  rw [rows, rows, splitAtFeeds_cons, splitAtFeeds_cons, cut]
  rfl

/-- The lines of a document are the rows of a terminal, cut at the carriage returns in them. -/
theorem flatMap_splitAtReturns (text : List Char) :
    (rows text).flatMap splitAtReturns = (splitLines text).map Line.text := by
  fun_induction splitLines text with
  | case1 => rfl
  | case2 rest ih =>
    rw [rows_returnFeed, List.flatMap_cons, ih]
    rfl
  | case3 rest other ih =>
    -- a carriage return alone stays in its row
    obtain ⟨first, lines, cut⟩ := List.exists_cons_of_ne_nil (rows_ne_nil rest)
    rw [rows_cons (by decide) fun _ => other, cut, List.modifyHead_cons, List.flatMap_cons,
      splitAtReturns_cons, if_pos rfl, List.map_cons, ← ih, cut]
    rfl
  | case4 rest ih =>
    rw [rows_feed, List.flatMap_cons, ih]
    rfl
  | case5 c rest _ solid solid' line lines split ih =>
    obtain ⟨first, others, cut⟩ := List.exists_cons_of_ne_nil (rows_ne_nil rest)
    obtain ⟨piece, pieces, cut'⟩ := List.exists_cons_of_ne_nil (splitAtReturns_ne_nil first)
    rw [split, cut, List.flatMap_cons, cut', List.map_cons, List.cons_append, List.cons.injEq] at ih
    rw [rows_cons solid' fun same => absurd same solid, cut, List.modifyHead_cons,
      List.flatMap_cons, splitAtReturns_cons, if_neg solid, cut', List.modifyHead_cons,
      List.cons_append, ih.1, ih.2]
    rfl
  | case6 c rest _ _ _ split => exact absurd split (splitLines_ne_nil rest)

/-! ## Where rows stand -/

/-- Carriage returns in the lines of a terminal above a line of it. -/
def returnsAbove (text : List Char) (number : Nat) : Nat :=
  ((terminalLines text).take number).flatten.count '\r'

theorem length_flatMap_splitAtReturns (lines : List (List Char)) :
    (lines.flatMap splitAtReturns).length = lines.length + lines.flatten.count '\r' := by
  induction lines with
  | nil => rfl
  | cons line rest ih =>
    rw [List.flatMap_cons, List.length_append, ih, length_splitAtReturns, List.length_cons,
      List.flatten_cons, List.count_append]
    omega

variable {source : List Char} {number : Nat} {row : List Char}

/-- A line that a terminal shows is made of lines of the document, which come as many lines later as
carriage returns are above it. -/
theorem getElem?_splitAtReturns (shown : (terminalLines source)[number]? = some row) {piece : Nat}
    (within : piece ≤ row.count '\r') :
    (splitAtReturns row)[piece]? =
      lineAt? source (number + returnsAbove source number + piece) := by
  obtain ⟨inside, here⟩ := List.getElem?_eq_some_iff.mp shown
  obtain ⟨back, whole⟩ := isPrefix_terminalLines source
  have above := length_flatMap_splitAtReturns ((terminalLines source).take number)
  rw [List.length_take_of_le (Nat.le_of_lt inside)] at above
  have cut : rows source = (terminalLines source).take number ++
      row :: ((terminalLines source).drop (number + 1) ++ back) := by
    rw [← List.cons_append, ← here, List.getElem_cons_drop inside, ← List.append_assoc,
      List.take_append_drop, whole]
  rw [lineAt?, ← flatMap_splitAtReturns, cut, List.flatMap_append, List.flatMap_cons,
    List.getElem?_append_right (by rw [above, returnsAbove]; omega), above, returnsAbove,
    Nat.add_sub_cancel_left,
    List.getElem?_append_left (by rw [length_splitAtReturns]; omega)]

end Text

namespace Report

open Text

variable {color : Bool} {lines : List (List Char)} {range : Range} {source text : String}

/-! ## The line of a snippet -/

/-- What follows the number of a line in a snippet. -/
def ShowsLine (number : Coordinate) (shown : List Char) (text : String) : Prop :=
  (splitAtFeeds text.toList)[1]? = some (gutter number ++ shown)

instance (number : Coordinate) (shown : List Char) (text : String) :
    Decidable (ShowsLine number shown text) :=
  inferInstanceAs (Decidable (_ = _))

theorem return_mem_expandTabs_iff {line : List Char} : '\r' ∈ expandTabs line ↔ '\r' ∈ line := by
  rw [expandTabs, List.mem_flatMap]
  constructor
  · rintro ⟨c, mem, shown⟩
    split at shown
    · exact absurd (List.eq_of_mem_replicate shown) (by decide)
    · exact List.mem_singleton.mp shown ▸ mem
  · exact fun mem => ⟨'\r', mem, List.mem_singleton.mpr rfl⟩

/-- A snippet shows the line that it is made for, in colours too. -/
theorem exists_of_snippet? (free : ∀ line ∈ lines, '\n' ∉ line)
    (written : snippet? color lines range = some text) :
    ∃ row, lines[range.start.line.toNat]? = some row ∧
      ∀ shown, ShowsLine range.start.line shown text ↔ shown = expandTabs row := by
  obtain ⟨row, stands, written⟩ := Option.bind_eq_some_iff.mp written
  obtain ⟨⟨before, marked⟩, -, written⟩ := Option.bind_eq_some_iff.mp written
  have first : "\n  ".toList = '\n' :: "  ".toList := rfl
  have second : "\n        ".toList = '\n' :: "        ".toList := rfl
  have plain : '\n' ∉ gutter range.start.line ++ expandTabs row := by
    rw [List.mem_append, not_or]
    exact ⟨feed_notMem_gutter _, feed_notMem_expandTabs (free row (List.mem_of_getElem? stands))⟩
  have whole : ∃ rest, text.toList =
      '\n' :: (gutter range.start.line ++ expandTabs row) ++ '\n' :: rest := by
    refine ⟨"        ".toList ++ (List.replicate (cells before) ' ' ++ (painted color .underline
      (String.ofList (List.replicate (max 1 (cells marked)) '~'))).toList), ?_⟩
    rw [← Option.some_inj.mp written]
    simp only [String.toList_append, String.toList_ofList, first, second, gutter,
      List.append_assoc, List.cons_append]
  obtain ⟨rest, whole⟩ := whole
  refine ⟨row, stands, fun shown => ?_⟩
  rw [ShowsLine, whole, List.cons_append, splitAtFeeds_cons, if_pos rfl, List.getElem?_cons_succ,
    splitAtFeeds_append_of_notMem plain, splitAtFeeds_cons, if_pos rfl, List.modifyHead_cons,
    List.append_nil, List.getElem?_cons_zero, Option.some_inj, List.append_cancel_left_eq, eq_comm]

/-- All parts stand in what they are joined to. -/
theorem isInfix_intercalate {between part : List Char} {parts : List (List Char)}
    (mem : part ∈ parts) : part <:+: between.intercalate parts := by
  induction parts with
  | nil => cases mem
  | cons first rest ih =>
    cases rest with
    | nil =>
      have whole : between.intercalate [first] = part := by
        rw [List.mem_singleton.mp mem, List.intercalate_singleton]
      exact whole ▸ List.infix_rfl
    | cons next rest =>
      rw [List.intercalate_cons_cons]
      rcases List.mem_cons.mp mem with rfl | mem
      · exact (List.prefix_append ..).isInfix.trans (List.prefix_append ..).isInfix
      · exact (ih mem).trans (List.suffix_append ..).isInfix

/-- The report of a document has the snippets of all its diagnostics. -/
theorem isInfix_reported (file : String) {diagnostics : List Diagnostic} {d : Diagnostic}
    (mem : d ∈ diagnostics)
    (written : snippet? color (terminalLines source.toList) d.range = some text) :
    text.toList <:+: (Arguments.reported color file source diagnostics).toList := by
  have one : text.toList <:+:
      (renderOne color file (terminalLines source.toList) d).toList := by
    rw [renderOne, written, Option.getD_some, String.toList_append, String.toList_append]
    exact (List.infix_append ..)
  have all : text.toList <:+:
      (render color file (terminalLines source.toList) diagnostics).toList := by
    rw [render, String.toList_intercalate, List.map_map]
    exact one.trans (isInfix_intercalate (List.mem_map_of_mem mem))
  rw [Arguments.reported, if_neg (by simp [List.ne_nil_of_mem mem])]
  simp only [String.toList_append, List.append_assoc]
  exact all.trans (List.prefix_append ..).isInfix

/-! ## The line of a diagnostic -/

/-- A snippet shows a line of a terminal. -/
structure ShowsRow (source : String) (number : Coordinate) (row : List Char) (text : String) :
    Prop where
  /-- the line has the number -/
  stands : (terminalLines source.toList)[number.toNat]? = some row
  /-- it is what the snippet shows, and nothing else is -/
  shown : ∀ shown, ShowsLine number shown text ↔ shown = expandTabs row
  /-- it is made of lines of the document, later ones by the carriage returns above it -/
  made : ∀ piece ≤ row.count '\r', (splitAtReturns row)[piece]? =
    lineAt? source.toList (number.toNat + returnsAbove source.toList number.toNat + piece)

theorem exists_showsRow (written : snippet? color (terminalLines source.toList) range = some text) :
    ∃ row, ShowsRow source range.start.line row text := by
  obtain ⟨row, stands, shown⟩ :=
    exists_of_snippet? (fun _ mem => feed_notMem_of_mem_terminalLines mem) written
  exact ⟨row, stands, shown, fun piece within => getElem?_splitAtReturns stands within⟩

namespace ShowsRow

variable {number : Coordinate} {row : List Char} (shows : ShowsRow source number row text)

include shows

/-- The document has a line with the number, too. -/
theorem exists_line : ∃ line, lineAt? source.toList number.toNat = some line := by
  obtain ⟨first, pieces, cut⟩ := List.exists_cons_of_ne_nil (splitAtReturns_ne_nil row)
  have made := shows.made 0 (Nat.zero_le _)
  rw [cut] at made
  obtain ⟨inside, -⟩ := List.getElem?_eq_some_iff.mp made.symm
  exact ⟨_, List.getElem?_eq_getElem (by omega)⟩

/-- A row without carriage returns is one line of the document. -/
theorem lineText?_of_notMem (free : '\r' ∉ row) :
    lineAt? source.toList (number.toNat + returnsAbove source.toList number.toNat) =
      some row := by
  have made := shows.made 0 (Nat.zero_le _)
  rw [splitAtReturns_of_notMem free] at made
  exact made.symm

/-- A line of the document is shown exactly if no carriage return is left in the line of the
terminal, and the line of the document that this is looks the same. -/
theorem showsLine_iff {line : List Char}
    (stands : lineAt? source.toList number.toNat = some line) :
    ShowsLine number (expandTabs line) text ↔ '\r' ∉ row ∧ ∃ other,
      lineAt? source.toList (number.toNat + returnsAbove source.toList number.toNat) =
          some other ∧
        expandTabs other = expandTabs line := by
  rw [shows.shown]
  constructor
  · intro same
    obtain ⟨whole, mem, rfl⟩ := List.mem_map.mp (List.mem_of_getElem? stands)
    have free : '\r' ∉ row := by
      rw [← return_mem_expandTabs_iff, ← same, return_mem_expandTabs_iff]
      exact (break_notMem_of_mem_splitLines mem).1
    exact ⟨free, row, shows.lineText?_of_notMem free, same.symm⟩
  · rintro ⟨free, other, found, same⟩
    cases found.symm.trans (shows.lineText?_of_notMem free)
    exact same.symm

end ShowsRow

/-- The report of a document shows for each diagnostic with a snippet a line of a terminal. Whether
that is the line of the diagnostic depends on the carriage returns that are left in the document so
far down. The lines are those of the line table if its offsets reach. -/
theorem reported_showsLine_iff (file : String) {diagnostics : List Diagnostic} {d : Diagnostic}
    (mem : d ∈ diagnostics)
    (written : snippet? color (terminalLines source.toList) d.range = some text) :
    text.toList <:+: (Arguments.reported color file source diagnostics).toList ∧
      ∃ row line, ShowsRow source d.range.start.line row text ∧
        lineAt? source.toList d.range.start.line.toNat = some line ∧
        (ShowsLine d.range.start.line (expandTabs line) text ↔ '\r' ∉ row ∧ ∃ other,
          lineAt? source.toList (d.range.start.line.toNat +
              returnsAbove source.toList d.range.start.line.toNat) = some other ∧
            expandTabs other = expandTabs line) ∧
        ('\r' ∉ row → returnsAbove source.toList d.range.start.line.toNat = 0 →
          ShowsLine d.range.start.line (expandTabs line) text) ∧
        (bytes source.toList < UInt32.size →
          (LineTable.ofSource source).lineText? = lineAt? source.toList) := by
  obtain ⟨row, shows⟩ := exists_showsRow written
  obtain ⟨line, stands⟩ := shows.exists_line
  have right := shows.showsLine_iff stands
  refine ⟨isInfix_reported file mem written, row, line, shows, stands, right,
    fun free none => ?_, fun short => funext (LineTable.lineText?_ofChars short)⟩
  exact right.mpr ⟨free, line, by rwa [none, Nat.add_zero], rfl⟩

/-- A name behind a tab, below a line that ends at a carriage return and a line feed. -/
def unknownName : Diagnostic :=
  ⟨.onLine 1 7 4, some .error, some 1001, some "linkscope", "Variable 'mesg' is not defined.", none⟩

/-- Its line is shown, because no carriage return is left. -/
theorem showsLine_unknownName :
    unknownName ∈ [unknownName] ∧
      snippet? false (terminalLines "var x = 1;\r\n\tprint(mesg)\n".toList) unknownName.range =
        some "\n    2       print(mesg)\n                  ~~~~" ∧
      ∃ line, (LineTable.ofSource "var x = 1;\r\n\tprint(mesg)\n").lineText? 1 = some line ∧
        ShowsLine 1 (expandTabs line) "\n    2       print(mesg)\n                  ~~~~" := by
  have written : snippet? false (terminalLines "var x = 1;\r\n\tprint(mesg)\n".toList)
      unknownName.range = some "\n    2       print(mesg)\n                  ~~~~" := by
    decide +kernel
  obtain ⟨-, row, line, shows, stands, -, right, lines⟩ :=
    reported_showsLine_iff "page.links" (List.mem_singleton_self unknownName) written
  rw [← lines (by decide)] at stands
  have free : '\r' ∉ row := by
    have same : (terminalLines "var x = 1;\r\n\tprint(mesg)\n".toList)[1]? =
        some "\tprint(mesg)".toList := by decide +kernel
    cases shows.stands.symm.trans same
    decide +kernel
  exact ⟨List.mem_singleton_self _, written, line, stands, right free (by decide +kernel)⟩

/-- Below a carriage return alone, the next line is shown. -/
theorem not_showsLine_afterReturn :
    ∃ (source : String) (range : Range) (text : String) (line : List Char),
      snippet? false (terminalLines source.toList) range = some text ∧
        (LineTable.ofSource source).lineText? range.start.line.toNat = some line ∧
        ¬ ShowsLine range.start.line (expandTabs line) text :=
  ⟨"var a = 1;\rfoo\nbar\n", .onLine 1 0 3, "\n    2   bar\n        ~~~", "foo".toList,
    by decide +kernel, by decide +kernel, by decide +kernel⟩

end Report

end LinksBinding
