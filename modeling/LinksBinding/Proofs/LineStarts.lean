import LinksBinding.Proofs.Lines

/-!
# Where the lines of a document start

A line table has 32-bit offsets, which a scan of the document finds (`lineStarts`), and cuts a line
out of the document between two of them. In a document that is no longer than such offsets reach,
these are the lines of the document (`LineTable.lineText?_ofChars`). Trimming takes any run of
carriage returns and line feeds from the end of a line, but there never is more than the one break
of the line.

`offsetAt?` is the byte offset of a position by the lines of the document alone, which every
document has. The line table finds the same one, again if its offsets reach
(`LineTable.offsetOfPosition?_ofChars`).
-/

namespace LinksBinding

namespace Text

variable {text source rest : List Char} {offset number : Nat}

theorem head?_ne_feed (other : ∀ behind, rest = '\n' :: behind → False) :
    rest.head? ≠ some '\n' := by
  intro feed
  obtain ⟨behind, rfl⟩ := List.head?_eq_some_iff.mp feed
  exact other behind rfl

/-! ## Starts of lines by a scan -/

/-- The lines start where the scan says. -/
theorem map_fst_placeLines (offset : Nat) (text : List Char) :
    (placeLines offset (splitLines text)).map Prod.fst = offset :: breakEnds offset text := by
  have feed : Char.utf8Size '\n' = 1 := by decide
  have carriageReturn : Char.utf8Size '\r' = 1 := by decide
  fun_induction splitLines text generalizing offset with
  | case1 => rfl
  | case2 rest ih =>
    rw [placeLines, List.map_cons, ih, breakEnds, if_neg (by simp), breakEnds, if_pos (.inl rfl)]
    simp only [Line.chars, LineBreak.chars, List.nil_append, bytes, feed, carriageReturn,
      Nat.add_assoc]
  | case3 rest other ih =>
    rw [placeLines, List.map_cons, ih, breakEnds, if_pos (.inr ⟨rfl, head?_ne_feed other⟩)]
    rfl
  | case4 rest ih =>
    rw [placeLines, List.map_cons, ih, breakEnds, if_pos (.inl rfl)]
    rfl
  | case5 c rest _ solid solid' line lines split ih =>
    -- the character goes to the first line of the rest, and the other lines stay where they are
    have ih := ih (offset + c.utf8Size)
    rw [split, placeLines, List.map_cons, List.cons.injEq] at ih
    rw [placeLines, List.map_cons, breakEnds, if_neg fun ends => ends.elim solid' (solid ·.1), ← ih.2]
    simp only [Line.chars, List.cons_append, bytes, Nat.add_assoc]
  | case6 c rest _ _ _ none => exact absurd none (splitLines_ne_nil rest)

/-- A line starts behind the bytes of the lines above it. -/
theorem getElem?_placeLines (start number : Nat) (lines : List Line) :
    (placeLines start lines)[number]? = lines[number]?.map fun line =>
      (start + bytes ((lines.take number).flatMap Line.chars), line) := by
  induction lines generalizing start number with
  | nil => rfl
  | cons line rest ih =>
    cases number with
    | zero => rfl
    | succ number =>
      rw [placeLines, List.getElem?_cons_succ, List.getElem?_cons_succ, ih, List.take_succ_cons,
        List.flatMap_cons, bytes_append, Nat.add_assoc]

theorem flatMap_take_add_one {line : Line} (here : (splitLines source)[number]? = some line) :
    ((splitLines source).take (number + 1)).flatMap Line.chars =
      ((splitLines source).take number).flatMap Line.chars ++ line.chars := by
  rw [List.take_add_one, here, List.flatMap_append, Option.toList_some, List.flatMap_singleton]

/-- A document is what is above a line, the line, and what is below. -/
theorem eq_append_line {line : Line} (here : (splitLines source)[number]? = some line) :
    source = ((splitLines source).take number).flatMap Line.chars ++ line.chars ++
      ((splitLines source).drop (number + 1)).flatMap Line.chars := by
  rw [← flatMap_take_add_one here, ← List.flatMap_append, List.take_append_drop, splitLines_join]

/-- No line starts behind the end of the document. -/
theorem bytes_take_splitLines_le (source : List Char) (number : Nat) :
    bytes (((splitLines source).take number).flatMap Line.chars) ≤ bytes source := by
  conv => rhs; rw [← splitLines_join source, ← List.take_append_drop number (splitLines source)]
  rw [List.flatMap_append, bytes_append]
  exact Nat.le_add_right ..

/-! ## Stretches of a text -/

/-- Between two byte offsets of a text stands `piece`. -/
def IsSlice (text : List Char) (start stop : Nat) (piece : List Char) : Prop :=
  ∃ front back, text = front ++ piece ++ back ∧ bytes front = start ∧ bytes (front ++ piece) = stop

theorem IsSlice.unique {start stop : Nat} {piece piece' : List Char}
    (slice : IsSlice text start stop piece) (slice' : IsSlice text start stop piece') :
    piece = piece' := by
  obtain ⟨front, back, whole, rfl, rfl⟩ := slice
  obtain ⟨front', back', whole', sameStart, sameStop⟩ := slice'
  have cut := whole.symm.trans whole'
  obtain ⟨joined, -⟩ := isSize_bytes.append_inj cut sameStop.symm
  exact (isSize_bytes.append_inj joined sameStart.symm).2

theorem dropEndWhile_append {p : Char → Bool} {front back : List Char}
    (off : ∀ c ∈ front, p c = false) (on : ∀ c ∈ back, p c = true) :
    dropEndWhile p (front ++ back) = front := by
  have kept : front.reverse.dropWhile p = front.reverse := by
    cases last : front.reverse with
    | nil => rfl
    | cons c rest =>
      have mem : c ∈ front := List.mem_reverse.mp (last ▸ List.mem_cons_self)
      rw [List.dropWhile_cons_of_neg (by rw [off c mem]; decide)]
  rw [dropEndWhile, List.reverse_append,
    List.dropWhile_append_of_pos fun c mem => on c (List.mem_reverse.mp mem), kept,
    List.reverse_reverse]

/-- What is left of a text that is trimmed at its end is its front. -/
theorem dropEndWhile_prefix (p : Char → Bool) (text : List Char) : dropEndWhile p text <+: text := by
  have suffix : text.reverse.dropWhile p <:+ text.reverse := List.dropWhile_suffix p
  rw [dropEndWhile]
  exact List.reverse_suffix.mp (by rwa [List.reverse_reverse])

/-- Trimming a line with its break leaves the line. -/
theorem dropEndWhile_chars {line : Line} (solid : '\r' ∉ line.text ∧ '\n' ∉ line.text) :
    dropEndWhile isBreakChar line.chars = line.text := by
  have breaks : line.ending.chars.all isBreakChar = true := by
    cases line.ending <;> rfl
  refine dropEndWhile_append (fun c mem => ?_) (List.all_eq_true.mp breaks)
  have other : c ≠ '\r' ∧ c ≠ '\n' :=
    ⟨fun same => solid.1 (same ▸ mem), fun same => solid.2 (same ▸ mem)⟩
  rw [isBreakChar, beq_false_of_ne other.1, beq_false_of_ne other.2, Bool.or_false]

/-! ## Positions by lines -/

/-- The text of a line of a document. -/
def lineAt? (source : List Char) (number : Nat) : Option (List Char) :=
  ((splitLines source).map Line.text)[number]?

/-- The byte offset of a position: that of its line, and of its column there. -/
def offsetAt? (source : List Char) (position : Position) : Option Nat :=
  (placeLines 0 (splitLines source))[position.line.toNat]?.bind fun (start, line) =>
    (byteOfColumn? line.text position.character).map (start + ·)

theorem offsetAt?_eq_some_iff {position : Position} : offsetAt? source position = some offset ↔
    ∃ start line within, (placeLines 0 (splitLines source))[position.line.toNat]? =
        some (start, line) ∧
      byteOfColumn? line.text position.character = some within ∧ start + within = offset := by
  simp only [offsetAt?, Option.bind_eq_some_iff, Prod.exists, Option.map_eq_some_iff,
    exists_and_left]

/-- Byte offsets ascend with positions. -/
theorem offsetAt?_mono {p q : Position} {offset' : Nat} (order : p ≤ q)
    (found : offsetAt? source p = some offset) (found' : offsetAt? source q = some offset') :
    offset ≤ offset' := by
  obtain ⟨start, line, column, here, within, rfl⟩ := offsetAt?_eq_some_iff.mp found
  obtain ⟨start', line', column', here', within', rfl⟩ := offsetAt?_eq_some_iff.mp found'
  rcases (Position.le_iff p q).mp order with above | ⟨level, order⟩
  · -- the position is within its line, which ends before the other starts
    obtain ⟨before, after, split, -, rfl⟩ := byteOfColumn?_eq_some_iff.mp within
    obtain ⟨inside, at'⟩ := List.getElem?_eq_some_iff.mp here
    obtain ⟨inside', at''⟩ := List.getElem?_eq_some_iff.mp here'
    have apart := List.pairwise_iff_getElem.mp (pairwise_placeLines 0 (splitLines source))
      _ _ inside inside' above
    rw [at', at'', Line.chars, split] at apart
    simp only [bytes_append] at apart
    omega
  · rw [level, here'] at here
    cases here
    exact Nat.add_le_add_left (byteOfColumn?_mono order within within') start

namespace LineTable

variable {table : LineTable}

/-! ## Lines of any table -/

/-- A line is cut out of the document of its table. -/
theorem exists_cut_of_lineText? (shows : table.lineText? number = some text) :
    ∃ start front breaks back, table.lineStart? number = some start ∧
      table.source = front ++ (text ++ breaks) ++ back ∧ bytes front = start := by
  simp only [lineText?, Option.bind_eq_bind, Option.bind_eq_some_iff, Option.pure_def,
    Option.some.injEq] at shows
  obtain ⟨start, starts, piece, slice, rfl⟩ := shows
  obtain ⟨front, back, whole, place, -⟩ := slice?_eq_some_iff.mp slice
  obtain ⟨breaks, trimmed⟩ := dropEndWhile_prefix isBreakChar piece
  exact ⟨start, front, breaks, back, starts, by rw [trimmed, whole], place⟩

/-- The document is at least as long as what is in front of a line and the line. -/
theorem bytes_le_of_lineText? {start : Nat} (starts : table.lineStart? number = some start)
    (shows : table.lineText? number = some text) : start + bytes text ≤ bytes table.source := by
  obtain ⟨_, front, breaks, back, starts', whole, rfl⟩ := exists_cut_of_lineText? shows
  cases starts.symm.trans starts'
  rw [whole]
  simp only [bytes_append]
  omega

/-- The text of a line has no more units than its document has bytes. -/
theorem units_le_of_lineText? (shows : table.lineText? number = some text) :
    units text ≤ bytes table.source := by
  obtain ⟨start, -, -, -, starts, -, -⟩ := exists_cut_of_lineText? shows
  have inside := bytes_le_of_lineText? starts shows
  have width := units_le_bytes text
  omega

/-- A position is found behind the start of its line, on the text of which its column is. -/
theorem offsetOfPosition?_eq_some_iff {position : Position} :
    table.offsetOfPosition? position = some offset ↔ ∃ start text within,
      table.lineStart? position.line.toNat = some start ∧
      table.lineText? position.line.toNat = some text ∧
      byteOfColumn? text position.character = some within ∧
      start + (UInt32.ofNat within).toNat = offset ∧ offset < UInt32.size := by
  rw [offsetOfPosition?, ColumnSearch.offset?_eq_some_iff, searchPosition, lineStart?]
  cases table.starts[position.line.toNat]? with
  | none => simp
  | some start =>
    cases table.lineText? position.line.toNat with
    | none => simp
    | some text =>
      simp only [Option.map_some, Option.some.injEq, exists_and_left, exists_eq_left',
        byteOfColumn?, ColumnSearch.offset?_eq_some_iff]
      cases columnSearch text position.character with
      | absent | overflow => simp
      | found within =>
        simp only [ColumnSearch.found.injEq, exists_eq_left', Coordinate.add?_eq_ofNat?]
        cases sum : Coordinate.ofNat? (start.toNat + (UInt32.ofNat within).toNat) with
        | none =>
          have wide := Coordinate.ofNat?_eq_none_iff.mp sum
          refine iff_of_false (by rintro ⟨⟩) ?_
          rintro ⟨rfl, inside⟩
          omega
        | some place =>
          rw [Coordinate.ofNat?_eq_some_iff] at sum
          rw [← sum, ColumnSearch.found.injEq]
          exact ⟨fun same => ⟨same, same ▸ place.toNat_lt⟩, And.left⟩

/-! ## Lines of a document -/

theorem count_ofChars (source : List Char) : (ofChars source).count = (splitLines source).length := by
  rw [count, ofChars, List.size_toArray, lineStarts, ← map_fst_placeLines, List.length_map,
    List.length_map, ← List.length_map (f := Prod.snd), map_snd_placeLines]

section Short

variable (short : bytes source < UInt32.size)

include short

/-- No start of a line is lost as a 32-bit word. -/
theorem lineStart?_ofChars (number : Nat) :
    (ofChars source).lineStart? number = (splitLines source)[number]?.map fun _ =>
      bytes (((splitLines source).take number).flatMap Line.chars) := by
  have inside := bytes_take_splitLines_le source number
  rw [lineStart?, ofChars, List.getElem?_toArray, lineStarts, ← map_fst_placeLines,
    List.getElem?_map, List.getElem?_map, getElem?_placeLines, Option.map_map, Option.map_map,
    Option.map_map]
  refine Option.map_congr fun _ _ => ?_
  simp only [Function.comp_apply, Nat.zero_add]
  exact UInt32.toNat_ofNat_of_lt' (by omega)

/-- Between the starts of two lines stands the upper one with its break. -/
theorem isSlice_line {line : Line} (here : (splitLines source)[number]? = some line) :
    IsSlice source (bytes (((splitLines source).take number).flatMap Line.chars))
      (((ofChars source).lineStart? (number + 1)).getD (bytes source)) line.chars := by
  refine ⟨_, _, eq_append_line here, rfl, ?_⟩
  rw [lineStart?_ofChars short, ← flatMap_take_add_one here]
  cases next : (splitLines source)[number + 1]? with
  | some line => rfl
  | none =>
    rw [List.take_of_length_le (List.getElem?_eq_none_iff.mp next), splitLines_join]
    rfl

/-- The lines of the table are those of the document. -/
theorem lineText?_ofChars (number : Nat) :
    (ofChars source).lineText? number = lineAt? source number := by
  rw [lineText?, lineStart?_ofChars short, lineAt?, List.getElem?_map]
  cases here : (splitLines source)[number]? with
  | none => rfl
  | some line =>
    have solid := break_notMem_of_mem_splitLines (List.mem_of_getElem? here)
    have slice := slice?_eq_some_iff.mpr (isSlice_line short here)
    simp only [Option.map_some, Option.bind_eq_bind, Option.bind_some]
    rw [show (ofChars source).source = source from rfl, slice]
    simp only [Option.bind_some, Option.pure_def, dropEndWhile_chars solid]

/-- The table finds the byte offset of a position. -/
theorem offsetOfPosition?_ofChars (position : Position) :
    (ofChars source).offsetOfPosition? position = offsetAt? source position := by
  refine Option.ext fun offset => ?_
  rw [offsetOfPosition?_eq_some_iff, offsetAt?_eq_some_iff, lineText?_ofChars short,
    lineStart?_ofChars short, getElem?_placeLines, lineAt?, List.getElem?_map]
  cases here : (splitLines source)[position.line.toNat]? with
  | none => simp
  | some line =>
    simp only [Option.map_some, Option.some.injEq, Prod.mk.injEq, and_assoc, exists_and_left,
      exists_eq_left', Nat.zero_add]
    refine exists_congr fun within => and_congr_right fun found => ?_
    obtain ⟨before, after, split, -, rfl⟩ := byteOfColumn?_eq_some_iff.mp found
    have whole := congrArg bytes (eq_append_line here)
    simp only [bytes_append, Line.chars, split] at whole
    rw [UInt32.toNat_ofNat_of_lt' (by omega)]
    omega

end Short

end LineTable

end Text

end LinksBinding
