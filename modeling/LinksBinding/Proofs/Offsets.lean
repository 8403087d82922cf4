import LinksBinding.Proofs.LineStarts

/-!
# Byte offsets and editor positions

A place of a document has a byte offset and an editor position, and each is found from the other
(`LineTable.corresponds_ofChars`). No place is inside a character, and none is between a carriage
return and the line feed that belongs to it (`IsPlace`): such an offset is not the offset of any
position.

What connects the two is the line that a place is on and the text in front of it there (`OnLine`).
Walking along a text, places and lines are counted in the same steps, a line break of two characters
being one step (`exists_onLine_iff`). An offset is looked for among the starts of lines, and since
every line but the last ends with a break, no offset on a line is as large as the start of the next
(`length_takeWhile_placeLines`). In a document that is no longer than 32-bit offsets reach, the line
table therefore finds the line of every place.
-/

namespace LinksBinding

namespace Text

variable {text source front back before : List Char} {offset number : Nat}

/-! ## Places of a text -/

/-- No line break goes across the cut between `front` and `back`. -/
def KeepsBreaks (front back : List Char) : Prop :=
  ¬ (front.getLast? = some '\r' ∧ back.head? = some '\n')

/-- A byte offset at which a text may be cut: no character and no line break goes across it. -/
def IsPlace (text : List Char) (offset : Nat) : Prop :=
  ∃ front back, text = front ++ back ∧ bytes front = offset ∧ KeepsBreaks front back

theorem keepsBreaks_nil (back : List Char) : KeepsBreaks [] back := fun ⟨last, _⟩ => nomatch last

theorem keepsBreaks_cons_cons (c d : Char) (front back : List Char) :
    KeepsBreaks (c :: d :: front) back ↔ KeepsBreaks (d :: front) back := by
  rw [KeepsBreaks, KeepsBreaks, List.getLast?_cons_cons]

/-- A character in front does not matter, unless it is a carriage return with a line feed behind
it. -/
theorem keepsBreaks_cons {c : Char} (whole : c = '\r' → (front ++ back).head? ≠ some '\n') :
    KeepsBreaks (c :: front) back ↔ KeepsBreaks front back := by
  cases front with
  | nil =>
    refine iff_of_true (fun ⟨last, feed⟩ => ?_) (keepsBreaks_nil back)
    exact whole (Option.some_inj.mp last) feed
  | cons d front => exact keepsBreaks_cons_cons c d front back

/-- Neither does a whole line break. -/
theorem keepsBreaks_returnFeed (front back : List Char) :
    KeepsBreaks ('\r' :: '\n' :: front) back ↔ KeepsBreaks front back :=
  (keepsBreaks_cons_cons ..).trans (keepsBreaks_cons fun same => absurd same (by decide))

theorem isPlace_nil : IsPlace [] offset ↔ offset = 0 := by
  constructor
  · rintro ⟨front, back, split, rfl, -⟩
    rw [(List.append_eq_nil_iff.mp split.symm).1, bytes]
  · rintro rfl
    exact ⟨[], [], rfl, rfl, keepsBreaks_nil []⟩

/-- The places of a text are its start and those behind its first character. -/
theorem isPlace_cons {c : Char} (whole : c = '\r' → text.head? ≠ some '\n') :
    IsPlace (c :: text) offset ↔
      offset = 0 ∨ ∃ behind, offset = c.utf8Size + behind ∧ IsPlace text behind := by
  constructor
  · rintro ⟨front, back, split, rfl, keeps⟩
    cases front with
    | nil => exact .inl rfl
    | cons d front =>
      obtain ⟨rfl, rfl⟩ := List.cons.inj split
      exact .inr ⟨bytes front, rfl, front, back, rfl, rfl, (keepsBreaks_cons whole).mp keeps⟩
  · rintro (rfl | ⟨_, rfl, front, back, rfl, rfl, keeps⟩)
    · exact ⟨[], c :: text, rfl, rfl, keepsBreaks_nil _⟩
    · exact ⟨c :: front, back, rfl, rfl, (keepsBreaks_cons whole).mpr keeps⟩

/-- Between a carriage return and its line feed is no place. -/
theorem isPlace_returnFeed :
    IsPlace ('\r' :: '\n' :: text) offset ↔
      offset = 0 ∨ ∃ behind, offset = bytes ['\r', '\n'] + behind ∧ IsPlace text behind := by
  constructor
  · rintro ⟨front, back, split, rfl, keeps⟩
    match front with
    | [] => exact .inl rfl
    | [c] =>
      obtain ⟨rfl, rfl⟩ := List.cons.inj split
      exact absurd ⟨rfl, rfl⟩ keeps
    | c :: d :: front =>
      obtain ⟨rfl, rest⟩ := List.cons.inj split
      obtain ⟨rfl, rfl⟩ := List.cons.inj rest
      exact .inr ⟨bytes front, bytes_append ['\r', '\n'] front, front, back, rfl, rfl,
        (keepsBreaks_returnFeed front back).mp keeps⟩
  · rintro (rfl | ⟨_, rfl, front, back, rfl, rfl, keeps⟩)
    · exact ⟨[], _, rfl, rfl, keepsBreaks_nil _⟩
    · exact ⟨'\r' :: '\n' :: front, back, rfl, bytes_append ['\r', '\n'] front,
        (keepsBreaks_returnFeed front back).mpr keeps⟩

theorem IsPlace.le_bytes (place : IsPlace text offset) : offset ≤ bytes text := by
  obtain ⟨front, back, rfl, rfl, -⟩ := place
  rw [bytes_append]
  exact Nat.le_add_right ..

/-! ## Places on lines -/

/-- On line `number` of several lines, `before` stands in front of a byte offset. -/
def OnLine (lines : List Line) (offset number : Nat) (before : List Char) : Prop :=
  ∃ line after, lines[number]? = some line ∧ line.text = before ++ after ∧
    offset = bytes ((lines.take number).flatMap Line.chars) + bytes before

section OnLine

variable {line : Line} {lines : List Line}

theorem onLine_zero : OnLine (line :: lines) offset 0 before ↔
    offset = bytes before ∧ before <+: line.text := by
  constructor
  · rintro ⟨_, after, here, split, rfl⟩
    cases here
    exact ⟨Nat.zero_add _, after, split.symm⟩
  · rintro ⟨rfl, after, split⟩
    exact ⟨line, after, rfl, split.symm, (Nat.zero_add _).symm⟩

theorem onLine_succ : OnLine (line :: lines) offset (number + 1) before ↔
    ∃ behind, offset = bytes line.chars + behind ∧ OnLine lines behind number before := by
  have bytes_take : bytes (((line :: lines).take (number + 1)).flatMap Line.chars) =
      bytes line.chars + bytes ((lines.take number).flatMap Line.chars) := by
    rw [List.take_succ_cons, List.flatMap_cons, bytes_append]
  constructor
  · rintro ⟨other, after, here, split, rfl⟩
    exact ⟨_, by rw [bytes_take, Nat.add_assoc], other, after, here, split, rfl⟩
  · rintro ⟨_, rfl, other, after, here, split, rfl⟩
    exact ⟨other, after, here, split, by rw [bytes_take, Nat.add_assoc]⟩

/-- A break is passed as a whole. -/
theorem exists_onLine_break {ending : LineBreak} :
    (∃ number before, OnLine (⟨[], ending⟩ :: lines) offset number before) ↔
      offset = 0 ∨ ∃ behind, offset = bytes ending.chars + behind ∧
        ∃ number before, OnLine lines behind number before := by
  constructor
  · rintro ⟨number, before, on⟩
    cases number with
    | zero =>
      obtain ⟨rfl, within⟩ := onLine_zero.mp on
      rw [List.prefix_nil.mp within]
      exact .inl rfl
    | succ number =>
      obtain ⟨behind, rfl, here⟩ := onLine_succ.mp on
      exact .inr ⟨behind, rfl, number, before, here⟩
  · rintro (rfl | ⟨behind, rfl, number, before, on⟩)
    · exact ⟨0, [], onLine_zero.mpr ⟨rfl, List.prefix_rfl⟩⟩
    · exact ⟨number + 1, before, onLine_succ.mpr ⟨behind, rfl, on⟩⟩

/-- A character of a line is passed by itself. -/
theorem exists_onLine_char {c : Char} {rest : List Char} {ending : LineBreak} :
    (∃ number before, OnLine (⟨c :: rest, ending⟩ :: lines) offset number before) ↔
      offset = 0 ∨ ∃ behind, offset = c.utf8Size + behind ∧
        ∃ number before, OnLine (⟨rest, ending⟩ :: lines) behind number before := by
  have chars : Line.chars ⟨c :: rest, ending⟩ = c :: Line.chars ⟨rest, ending⟩ := rfl
  constructor
  · rintro ⟨number, before, on⟩
    cases number with
    | zero =>
      obtain ⟨rfl, within⟩ := onLine_zero.mp on
      cases before with
      | nil => exact .inl rfl
      | cons d before =>
        obtain ⟨rfl, shorter⟩ := List.cons_prefix_cons.mp within
        exact .inr ⟨bytes before, rfl, 0, before, onLine_zero.mpr ⟨rfl, shorter⟩⟩
    | succ number =>
      obtain ⟨behind, rfl, here⟩ := onLine_succ.mp on
      refine .inr ⟨bytes (Line.chars ⟨rest, ending⟩) + behind, ?_, number + 1, before,
        onLine_succ.mpr ⟨behind, rfl, here⟩⟩
      rw [chars, bytes, Nat.add_assoc]
  · rintro (rfl | ⟨behind, rfl, number, before, on⟩)
    · exact ⟨0, [], onLine_zero.mpr ⟨rfl, List.nil_prefix⟩⟩
    · cases number with
      | zero =>
        obtain ⟨rfl, within⟩ := onLine_zero.mp on
        exact ⟨0, c :: before, onLine_zero.mpr ⟨rfl, List.cons_prefix_cons.mpr ⟨rfl, within⟩⟩⟩
      | succ number =>
        obtain ⟨behind, rfl, here⟩ := onLine_succ.mp on
        refine ⟨number + 1, before, onLine_succ.mpr ⟨behind, ?_, here⟩⟩
        rw [chars, bytes, Nat.add_assoc]

end OnLine

/-- The places of a text are the places on its lines. -/
theorem exists_onLine_iff :
    (∃ number before, OnLine (splitLines text) offset number before) ↔ IsPlace text offset := by
  fun_induction splitLines text generalizing offset with
  | case1 =>
    rw [isPlace_nil, exists_onLine_break]
    refine or_iff_left ?_
    rintro ⟨_, _, _, _, _, _, here, _⟩
    cases here
  | case2 rest ih => simp only [exists_onLine_break, isPlace_returnFeed, ih, LineBreak.chars]
  | case3 rest other ih =>
    have whole : '\r' = '\r' → rest.head? ≠ some '\n' := fun _ feed => by
      obtain ⟨_, rfl⟩ := List.head?_eq_some_iff.mp feed
      exact other _ rfl
    simp only [exists_onLine_break, isPlace_cons whole, ih, LineBreak.chars, bytes, Nat.add_zero]
  | case4 rest ih =>
    have whole : '\n' = '\r' → rest.head? ≠ some '\n' := fun same => absurd same (by decide)
    simp only [exists_onLine_break, isPlace_cons whole, ih, LineBreak.chars, bytes, Nat.add_zero]
  | case5 c rest _ solid _ line lines split ih =>
    rw [split] at ih
    simp only [exists_onLine_char, isPlace_cons fun same => absurd same solid, ih]
  | case6 c rest _ _ _ none => exact absurd none (splitLines_ne_nil rest)

/-! ## The line of an offset -/

theorem takeWhile_congr {α : Type} {p q : α → Bool} {items : List α}
    (same : ∀ item ∈ items, p item = q item) : items.takeWhile p = items.takeWhile q := by
  induction items with
  | nil => rfl
  | cons item rest ih =>
    rw [List.takeWhile_cons, List.takeWhile_cons, same item List.mem_cons_self,
      ih fun other mem => same other (List.mem_cons_of_mem item mem)]

theorem LineBreak.bytes_chars_pos {ending : LineBreak} (breaks : ending ≠ .none) :
    0 < bytes ending.chars := by
  cases ending with
  | none => exact absurd rfl breaks
  | feed | carriageReturn | returnFeed => decide

/-- Only the last line of a text ends without a break. -/
theorem ending_ne_none_of_splitLines {first next : Line} {lines : List Line}
    (split : splitLines text = first :: next :: lines) : first.ending ≠ .none := by
  fun_induction splitLines text generalizing first with
  | case1 => cases split
  | case2 | case3 | case4 =>
    obtain ⟨rfl, -⟩ := List.cons.inj split
    decide
  | case5 c rest _ _ _ line lines' below ih =>
    cases split
    have ends : line.ending ≠ .none := ih below
    exact ends
  | case6 c rest _ _ _ none => exact absurd none (splitLines_ne_nil rest)

theorem length_splitLines_le (text : List Char) : (splitLines text).length ≤ bytes text + 1 := by
  fun_induction splitLines text with
  | case1 => exact Nat.le_refl 1
  | case2 rest ih | case3 rest _ ih | case4 rest ih =>
    simp only [List.length_cons, bytes]
    have : 0 < Char.utf8Size '\r' := by decide
    have : 0 < Char.utf8Size '\n' := by decide
    omega
  | case5 c rest _ _ _ line lines split ih =>
    rw [split] at ih
    simp only [List.length_cons, bytes] at ih ⊢
    omega
  | case6 => exact Nat.le_add_left ..

/-- The last line that starts at or before an offset is the line that the offset is on. -/
theorem length_takeWhile_placeLines (on : OnLine (splitLines text) offset number before)
    (start : Nat) :
    ((placeLines start (splitLines text)).takeWhile (·.1 ≤ start + offset)).length =
      number + 1 := by
  induction number generalizing text offset start with
  | zero =>
    obtain ⟨line, lines, split⟩ := List.exists_cons_of_ne_nil (splitLines_ne_nil text)
    rw [split] at on ⊢
    obtain ⟨rfl, after, whole⟩ := onLine_zero.mp on
    rw [placeLines, List.takeWhile_cons_of_pos (by simp), List.length_cons, Nat.add_left_inj,
      List.length_eq_zero_iff]
    cases lines with
    | nil => rfl
    | cons next lines =>
      -- the break of the line is between the offset and the next line
      have breaks := LineBreak.bytes_chars_pos (ending_ne_none_of_splitLines split)
      refine List.takeWhile_cons_of_neg ?_
      simp only [Line.chars, ← whole, bytes_append, decide_eq_true_eq]
      omega
  | succ number ih =>
    obtain ⟨line, lines, split⟩ := List.exists_cons_of_ne_nil (splitLines_ne_nil text)
    rw [split] at on
    obtain ⟨behind, rfl, below⟩ := onLine_succ.mp on
    cases lines with
    | nil =>
      obtain ⟨_, _, here, -⟩ := below
      cases here
    | cons next lines =>
      obtain ⟨rest, -, cut⟩ := exists_rest_of_splitLines split
      have further := ih (cut ▸ below) (start + bytes line.chars)
      rw [cut, Nat.add_assoc] at further
      rw [split, placeLines, List.takeWhile_cons_of_pos (by simp), List.length_cons, further]

theorem OnLine.le_bytes (on : OnLine (splitLines source) offset number before) :
    offset ≤ bytes source :=
  (exists_onLine_iff.mp ⟨number, before, on⟩).le_bytes

/-- What is in front of an offset on its line stands between the start of the line and the offset. -/
theorem OnLine.isSlice (on : OnLine (splitLines source) offset number before) :
    IsSlice source (bytes (((splitLines source).take number).flatMap Line.chars)) offset
      before := by
  obtain ⟨line, after, here, split, rfl⟩ := on
  have whole := eq_append_line here
  simp only [Line.chars, split, List.append_assoc] at whole
  exact ⟨_, _, by rw [List.append_assoc]; exact whole, rfl, bytes_append ..⟩

/-- A position has the offset behind what is in front of it on its line. -/
theorem offsetAt?_eq_some_iff_onLine {position : Position} :
    offsetAt? source position = some offset ↔
      ∃ before, OnLine (splitLines source) offset position.line.toNat before ∧
        units before = position.character.toNat := by
  simp only [offsetAt?_eq_some_iff, getElem?_placeLines, Option.map_eq_some_iff, Prod.mk.injEq,
    byteOfColumn?_eq_some_iff, OnLine]
  constructor
  · rintro ⟨_, _, _, ⟨line, here, rfl, rfl⟩, ⟨before, after, split, width, rfl⟩, rfl⟩
    exact ⟨before, ⟨line, after, here, split, by rw [Nat.zero_add]⟩, width⟩
  · rintro ⟨before, ⟨line, after, here, split, rfl⟩, width⟩
    exact ⟨_, _, _, ⟨line, here, rfl, rfl⟩, ⟨before, after, split, width, rfl⟩,
      by rw [Nat.zero_add]⟩

/-- From a position on, a document is cut as it is from there, but for what stands in front of the
position on its line. -/
theorem exists_front_of_offsetAt? {position : Position} {above rest : List Char}
    (stands : offsetAt? (above ++ rest) position = some (bytes above)) :
    ∃ front, '\r' ∉ front ∧ '\n' ∉ front ∧ units front = position.character.toNat ∧
      splitLines (front ++ rest) = (splitLines (above ++ rest)).drop position.line.toNat := by
  obtain ⟨_, line, _, here, within, placed⟩ := offsetAt?_eq_some_iff.mp stands
  obtain ⟨front, behind, split, width, rfl⟩ := byteOfColumn?_eq_some_iff.mp within
  obtain ⟨above', tail, whole, rfl, cut⟩ := exists_front_of_placeLines here
  have free := break_notMem_of_mem_splitLines (mem_of_getElem?_placeLines here)
  rw [split] at whole cut free
  -- the document has been cut twice behind the same number of bytes
  obtain ⟨-, rfl⟩ : above = above' ++ front ∧ rest = behind ++ tail := by
    refine isSize_bytes.append_inj (by simpa only [List.append_assoc] using whole) ?_
    rw [← placed, bytes_append, Nat.zero_add]
  rw [List.append_assoc] at cut
  exact ⟨front, fun mem => free.1 (List.mem_append_left _ mem),
    fun mem => free.2 (List.mem_append_left _ mem), width, cut⟩

namespace LineTable

/-- A position has the offset behind what is in front of it on its line. -/
theorem offsetOfPosition?_eq_some_iff_onLine (short : bytes source < UInt32.size)
    {position : Position} : (ofChars source).offsetOfPosition? position = some offset ↔
      ∃ before, OnLine (splitLines source) offset position.line.toNat before ∧
        units before = position.character.toNat := by
  rw [offsetOfPosition?_ofChars short, offsetAt?_eq_some_iff_onLine]

/-- The table finds the line of an offset. -/
theorem lineOfOffset_of_onLine (short : bytes source < UInt32.size)
    (on : OnLine (splitLines source) offset number before) :
    (ofChars source).lineOfOffset (.ofNat offset) = number := by
  have inside := on.le_bytes
  have starts : (ofChars source).starts.toList =
      (placeLines 0 (splitLines source)).map fun placed => .ofNat placed.1 := by
    rw [ofChars, lineStarts, ← map_fst_placeLines, List.map_map]
    rfl
  -- among offsets in the document, the words compare as the offsets do
  have same : (placeLines 0 (splitLines source)).takeWhile
      (fun placed => (.ofNat placed.1 : Coordinate) ≤ .ofNat offset) =
        (placeLines 0 (splitLines source)).takeWhile (·.1 ≤ 0 + offset) := by
    refine takeWhile_congr fun placed mem => ?_
    obtain ⟨front, back, whole, place⟩ := exists_of_mem_placeLines mem
    rw [splitLines_join] at whole
    have length := congrArg bytes whole
    simp only [bytes_append] at length
    rw [decide_eq_decide, UInt32.le_iff_toNat_le, UInt32.toNat_ofNat_of_lt' (by omega),
      UInt32.toNat_ofNat_of_lt' (by omega), Nat.zero_add]
  rw [lineOfOffset, starts, List.takeWhile_map, List.length_map]
  simp only [Function.comp_def]
  rw [same, length_takeWhile_placeLines on, Nat.add_sub_cancel]

/-- The position of an offset is its line, and the column behind what is in front of it there. -/
theorem positionOfOffset_of_onLine (short : bytes source < UInt32.size)
    (on : OnLine (splitLines source) offset number before) :
    (ofChars source).positionOfOffset offset = ⟨.ofNat number, .ofNat (units before)⟩ := by
  have inside := on.le_bytes
  have slice := slice?_eq_some_iff.mpr on.isSlice
  have line := lineOfOffset_of_onLine short on
  obtain ⟨_, _, here, -, placed⟩ := on
  have start : ((ofChars source).lineStart? number).getD 0 =
      bytes (((splitLines source).take number).flatMap Line.chars) := by
    rw [lineStart?_ofChars short, here]
    rfl
  have stop : min (UInt32.ofNat offset).toNat (bytes source) = offset := by
    rw [UInt32.toNat_ofNat_of_lt' (by omega), Nat.min_eq_left inside]
  simp only [positionOfOffset, line, start, show (ofChars source).source = source from rfl, stop]
  rw [Nat.min_eq_left (by omega), slice, Option.getD_some, tally_eq, Tally.word_ofNat]

/-- In a document that is no longer than coordinates reach, lines and columns are coordinates. -/
theorem lt_size_of_onLine (short : bytes source < UInt32.size)
    (on : OnLine (splitLines source) offset number before) :
    number < UInt32.size ∧ units before < UInt32.size := by
  have inside := (exists_onLine_iff.mp ⟨number, before, on⟩).le_bytes
  have width := units_le_bytes before
  have lines := length_splitLines_le source
  obtain ⟨line, after, here, -, rfl⟩ := on
  have listed := (List.getElem?_eq_some_iff.mp here).1
  omega

/-- The offsets of places and the positions in a document are found from each other, and ascend with
each other. -/
structure Corresponds (table : LineTable) (source : List Char) : Prop where
  /-- from the position of a place its offset is found -/
  offset_of_position {offset : Nat} : IsPlace source offset →
    table.offsetOfPosition? (table.positionOfOffset offset) = some offset
  /-- what has a position is a place, and from its offset the position is found -/
  position_of_offset {position : Position} {offset : Nat} :
    table.offsetOfPosition? position = some offset →
      IsPlace source offset ∧ table.positionOfOffset offset = position
  /-- a place further on has a later position -/
  ascending {offset offset' : Nat} : IsPlace source offset → IsPlace source offset' →
    offset < offset' → table.positionOfOffset offset < table.positionOfOffset offset'

/-- In a document that is no longer than coordinates reach, offsets and positions correspond. -/
theorem corresponds_ofChars (short : bytes source < UInt32.size) :
    (ofChars source).Corresponds source := by
  have back : ∀ {offset}, IsPlace source offset →
      (ofChars source).offsetOfPosition? ((ofChars source).positionOfOffset offset) =
        some offset := by
    intro offset place
    obtain ⟨number, before, on⟩ := exists_onLine_iff.mpr place
    obtain ⟨line, column⟩ := lt_size_of_onLine short on
    rw [positionOfOffset_of_onLine short on, offsetOfPosition?_eq_some_iff_onLine short]
    dsimp only
    rw [UInt32.toNat_ofNat_of_lt' line, UInt32.toNat_ofNat_of_lt' column]
    exact ⟨before, on, rfl⟩
  refine ⟨back, fun {position offset} found => ?_, fun {offset offset'} place place' before => ?_⟩
  · obtain ⟨before, on, width⟩ := (offsetOfPosition?_eq_some_iff_onLine short).mp found
    refine ⟨exists_onLine_iff.mp ⟨_, before, on⟩, ?_⟩
    rw [positionOfOffset_of_onLine short on, width, UInt32.ofNat_toNat, UInt32.ofNat_toNat]
  · -- a position that is not later has an offset that is not greater
    by_contra notLater
    rw [Position.lt_iff] at notLater
    have order : (ofChars source).positionOfOffset offset' ≤
        (ofChars source).positionOfOffset offset := by
      rw [Position.le_iff]
      omega
    have := offsetAt?_mono order ((offsetOfPosition?_ofChars short _).symm.trans (back place'))
      ((offsetOfPosition?_ofChars short _).symm.trans (back place))
    omega

/-- A document with all kinds of breaks, an empty line and a character of two units. -/
def mixedBreaks : List Char := "a\r\n🚀b\r\rc\n".toList

/-- The offset inside its line break and the column inside its surrogate pair are no places. -/
theorem corresponds_mixedBreaks :
    bytes mixedBreaks < UInt32.size ∧ (ofChars mixedBreaks).Corresponds mixedBreaks ∧
      [0, 1, 3, 7, 8, 9, 10, 11, 12].map (ofChars mixedBreaks).positionOfOffset =
        [⟨0, 0⟩, ⟨0, 1⟩, ⟨1, 0⟩, ⟨1, 2⟩, ⟨1, 3⟩, ⟨2, 0⟩, ⟨3, 0⟩, ⟨3, 1⟩, ⟨4, 0⟩] ∧
      (ofChars mixedBreaks).offsetOfPosition? ⟨1, 2⟩ = some 7 ∧
      (ofChars mixedBreaks).offsetOfPosition? ((ofChars mixedBreaks).positionOfOffset 2) = none ∧
      (ofChars mixedBreaks).offsetOfPosition? ⟨1, 1⟩ = none := by
  have short : bytes mixedBreaks < UInt32.size := by decide +kernel
  exact ⟨short, corresponds_ofChars short, by decide +kernel, by decide +kernel, by decide +kernel,
    by decide +kernel⟩

end LineTable

end Text

end LinksBinding
