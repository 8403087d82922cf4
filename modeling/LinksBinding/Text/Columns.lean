import LinksBinding.Coordinate
import LinksBinding.Text.Trim

/-!
# Columns

A line of text is measured in three ways: in characters, in bytes of its UTF-8 form, and in the
UTF-16 units that editors count columns in. Texts are lists of characters here; this module
measures them and converts between byte offsets and columns.

Columns are coordinates, so units are counted in 32 bits (`tally`), and a text may have more of them
than that. What the count leaves is told by the number of units (`tally_eq`).

A byte offset inside a character and a column inside a surrogate pair point at no place in the
text. `columnOfByte` answers column 0 for the former, `byteOfColumn?` answers nothing for the
latter.
-/

namespace LinksBinding.Text

/-- UTF-16 units of one character. -/
def unitsOf (c : Char) : Nat := if c.toNat < 0x10000 then 1 else 2

/-- Length of a text in UTF-16 units. -/
def units : List Char → Nat
  | [] => 0
  | c :: rest => unitsOf c + units rest

/-- Length of a text in UTF-8 bytes. -/
def bytes : List Char → Nat
  | [] => 0
  | c :: rest => c.utf8Size + bytes rest

/-- UTF-16 length of a string. -/
def unitLength (text : String) : Nat := units text.toList

/-- The UTF-16 units of a text, counted in 32 bits. -/
def tally (text : List Char) : Tally :=
  text.foldl (fun count c => count.add (.ofNat (unitsOf c))) (.ofNat 0)

/-- Number of columns that a text takes on its line. -/
def columnCount (text : String) : Coordinate := (tally text.toList).word

/-- The text before and after byte offset `offset`, `none` when the offset lies inside a character
or past the end. -/
def splitAtByte? : (text : List Char) → (offset : Nat) → Option (List Char × List Char)
  | text, 0 => some ([], text)
  | [], _ + 1 => none
  | c :: rest, offset + 1 =>
    if c.utf8Size ≤ offset + 1 then
      (splitAtByte? rest (offset + 1 - c.utf8Size)).map fun (before, after) => (c :: before, after)
    else none

/-- The text between two byte offsets, `none` when one of them lies inside a character or past the
end, and when the first is behind the second. -/
def slice? (text : List Char) (start stop : Nat) : Option (List Char) := do
  let (_, behind) ← splitAtByte? text start
  if start ≤ stop then
    let (piece, _) ← splitAtByte? behind (stop - start)
    return piece
  else none

/-- How the search for a column ends. -/
inductive ColumnSearch where
  /-- the column is at this byte offset -/
  | found (offset : Nat)
  /-- the text ends in front of the column, or the column is inside a surrogate pair -/
  | absent
  /-- the count leaves the range in front of the column -/
  | overflow
  deriving DecidableEq, Repr

/-- The offset that was found. -/
def ColumnSearch.offset? : ColumnSearch → Option Nat
  | .found offset => some offset
  | .absent | .overflow => none

/-- The offset that was found, if the search has not overflowed. -/
def ColumnSearch.checked? : ColumnSearch → Option (Option Nat)
  | .found offset => some (some offset)
  | .absent => some none
  | .overflow => none

/-- Goes along a text in search of a column. In front of the text are `count` units, and it starts
at `offset`. -/
def searchColumn (column : Coordinate) :
    (count : Coordinate) → (offset : Nat) → (text : List Char) → ColumnSearch
  | count, offset, [] => if count = column then .found offset else .absent
  | count, offset, c :: rest =>
    if count = column then .found offset
    else if column < count then .absent
    else match count.add? (.ofNat (unitsOf c)) with
      | some count => searchColumn column count (offset + c.utf8Size) rest
      | none => .overflow

/-- The search for a UTF-16 column. -/
def columnSearch (text : List Char) (column : Coordinate) : ColumnSearch :=
  searchColumn column 0 0 text

/-- The byte offset of a UTF-16 column, `none` past the end and inside a surrogate pair. -/
def byteOfColumn? (text : List Char) (column : Coordinate) : Option Nat :=
  (columnSearch text column).offset?

/-- The UTF-16 column of a byte offset. Offsets past the end count as the end; an offset inside a
character has column 0. -/
def columnOfByte (text : List Char) (offset : Nat) : Tally :=
  match splitAtByte? text (min offset (bytes text)) with
  | some (before, _) => tally before
  | none => tally []

/-! ## Measures -/

theorem unitsOf_pos (c : Char) : 0 < unitsOf c := by
  unfold unitsOf; split <;> omega

@[simp] theorem units_append (s t : List Char) : units (s ++ t) = units s + units t := by
  induction s with
  | nil => simp [units]
  | cons c s ih => simp [units, ih, Nat.add_assoc]

@[simp] theorem bytes_append (s t : List Char) : bytes (s ++ t) = bytes s + bytes t := by
  induction s with
  | nil => simp [bytes]
  | cons c s ih => simp [bytes, ih, Nat.add_assoc]

theorem unitsOf_le_two (c : Char) : unitsOf c ≤ 2 := by
  unfold unitsOf; split <;> omega

/-- A character has no more UTF-16 units than bytes. -/
theorem unitsOf_le_utf8Size (c : Char) : unitsOf c ≤ c.utf8Size := by
  have long := c.utf8Size_pos
  rw [unitsOf]
  split
  · exact long
  · rename_i beyond
    have wide : c.utf8Size ≠ 1 := fun single =>
      have low : c.toNat ≤ 127 := UInt32.le_iff_toNat_le.mp (Char.utf8Size_eq_one_iff.mp single)
      beyond (Nat.lt_of_le_of_lt low (by decide))
    omega

theorem units_le_bytes (text : List Char) : units text ≤ bytes text := by
  induction text with
  | nil => exact Nat.le_refl 0
  | cons c rest ih => exact Nat.add_le_add (unitsOf_le_utf8Size c) ih

/-- A split at a byte offset cuts the text there. -/
theorem splitAtByte?_eq_some_iff {text before after : List Char} {offset : Nat} :
    splitAtByte? text offset = some (before, after) ↔
      text = before ++ after ∧ bytes before = offset := by
  induction text generalizing before offset with
  | nil =>
    cases offset with
    | zero =>
      cases before with
      | nil => simp [splitAtByte?, bytes, eq_comm]
      | cons d before => simp [splitAtByte?, bytes]
    | succ n =>
      simp only [splitAtByte?, reduceCtorEq, List.nil_eq, List.append_eq_nil_iff, false_iff,
        not_and]
      rintro ⟨rfl, rfl⟩
      simp [bytes]
  | cons c rest ih =>
    cases offset with
    | zero =>
      cases before with
      | nil => simp [splitAtByte?, bytes, eq_comm]
      | cons d before =>
        have := d.utf8Size_pos
        simp [splitAtByte?, bytes]; omega
    | succ n =>
      cases before with
      | nil =>
        simp only [splitAtByte?, bytes, List.nil_append]
        split <;> simp
      | cons d before =>
        simp only [splitAtByte?, bytes, List.cons_append, List.cons.injEq]
        split
        · rename_i fits
          rw [Option.map_eq_some_iff]
          constructor
          · rintro ⟨⟨b, a⟩, found, equal⟩
            simp only [Prod.mk.injEq, List.cons.injEq] at equal
            obtain ⟨⟨rfl, rfl⟩, rfl⟩ := equal
            obtain ⟨split, length⟩ := ih.mp found
            exact ⟨⟨rfl, split⟩, by omega⟩
          · rintro ⟨⟨rfl, split⟩, length⟩
            exact ⟨(before, after), ih.mpr ⟨split, by omega⟩, rfl⟩
        · rename_i wide
          simp only [reduceCtorEq, false_iff, not_and]
          rintro ⟨rfl, -⟩
          omega

theorem units_eq_zero_iff {text : List Char} : units text = 0 ↔ text = [] := by
  cases text with
  | nil => exact iff_of_true rfl rfl
  | cons c rest =>
    have := unitsOf_pos c
    simp only [units, reduceCtorEq, iff_false]
    omega

theorem bytes_eq_zero_iff {text : List Char} : bytes text = 0 ↔ text = [] := by
  cases text with
  | nil => exact iff_of_true rfl rfl
  | cons c rest =>
    have := c.utf8Size_pos
    simp only [bytes, reduceCtorEq, iff_false]
    omega

/-! ## Cutting a text at a size -/

/-- A size of texts: it adds up, and only the empty text has none. -/
structure IsSize (size : List Char → Nat) : Prop where
  append (front back : List Char) : size (front ++ back) = size front + size back
  eq_nil {text : List Char} : size text = 0 → text = []

theorem isSize_bytes : IsSize bytes := ⟨bytes_append, bytes_eq_zero_iff.mp⟩

theorem isSize_units : IsSize units := ⟨units_append, units_eq_zero_iff.mp⟩

section IsSize

variable {size : List Char → Nat} {front rest front' rest' : List Char}

/-- Of two ways to cut a text, the one with more in front cuts what is behind the other. -/
theorem IsSize.exists_gap_of_le (h : IsSize size) (whole : front ++ rest = front' ++ rest')
    (order : size front ≤ size front') : ∃ gap, front' = front ++ gap ∧ rest = gap ++ rest' := by
  rcases List.append_eq_append_iff.mp whole with ⟨gap, longer, same⟩ | ⟨gap, rfl, rfl⟩
  · exact ⟨gap, longer, same⟩
  · rw [h.append] at order
    obtain rfl : gap = [] := h.eq_nil (by omega)
    exact ⟨[], by rw [List.append_nil, List.append_nil], rfl⟩

/-- Texts are cut at one place if there is as much in front. -/
theorem IsSize.append_inj (h : IsSize size) (whole : front ++ rest = front' ++ rest')
    (same : size front = size front') : front = front' ∧ rest = rest' := by
  obtain ⟨gap, rfl, rfl⟩ := h.exists_gap_of_le whole (Nat.le_of_eq same)
  rw [h.append] at same
  obtain rfl : gap = [] := h.eq_nil (by omega)
  exact ⟨(List.append_nil front).symm, rfl⟩

theorem exists_gap_of_bytes_le (whole : front ++ rest = front' ++ rest')
    (order : bytes front ≤ bytes front') : ∃ gap, front' = front ++ gap ∧ rest = gap ++ rest' :=
  isSize_bytes.exists_gap_of_le whole order

theorem exists_gap_of_units_le (whole : front ++ rest = front' ++ rest')
    (order : units front ≤ units front') : ∃ gap, front' = front ++ gap ∧ rest = gap ++ rest' :=
  isSize_units.exists_gap_of_le whole order

end IsSize

/-! ## Counting in 32 bits -/

theorem foldl_add_ofNat (text : List Char) (number : Nat) :
    text.foldl (fun count c => count.add (.ofNat (unitsOf c))) (Tally.ofNat number) =
      .ofNat (number + units text) := by
  induction text generalizing number with
  | nil => rfl
  | cons c rest ih =>
    have small : unitsOf c < UInt32.size := Nat.lt_of_le_of_lt (unitsOf_le_two c) (by decide)
    rw [List.foldl_cons, Tally.add_ofNat number small, ih, units, Nat.add_assoc]

/-- Counting leaves the tally of the number of units. -/
theorem tally_eq (text : List Char) : tally text = .ofNat (units text) := by
  rw [tally, foldl_add_ofNat, Nat.zero_add]

theorem columnCount_eq (text : String) : columnCount text = .ofNat (unitLength text) := by
  rw [columnCount, tally_eq, Tally.word_ofNat, unitLength]

/-- A stretch of a text is what stands between two byte offsets. -/
theorem slice?_eq_some_iff {text piece : List Char} {start stop : Nat} :
    slice? text start stop = some piece ↔ ∃ front back, text = front ++ piece ++ back ∧
      bytes front = start ∧ bytes (front ++ piece) = stop := by
  simp only [slice?, Option.bind_eq_bind, Option.bind_eq_some_iff, Prod.exists,
    splitAtByte?_eq_some_iff, Option.ite_none_right_eq_some, Option.pure_def, Option.some.injEq]
  constructor
  · rintro ⟨front, behind, ⟨rfl, rfl⟩, order, _, back, ⟨rfl, length⟩, rfl⟩
    exact ⟨front, back, (List.append_assoc ..).symm, rfl, by rw [bytes_append]; omega⟩
  · rintro ⟨front, back, rfl, rfl, rfl⟩
    rw [bytes_append]
    exact ⟨front, piece ++ back, ⟨List.append_assoc .., rfl⟩, Nat.le_add_right .., piece, back,
      ⟨rfl, (Nat.add_sub_cancel_left ..).symm⟩, rfl⟩

/-! ## Columns inside a pair -/

/-- A column is inside the surrogate pair of a character of the text. -/
def SplitsPair (text : List Char) (column : Nat) : Prop :=
  ∃ before c after, text = before ++ c :: after ∧ unitsOf c = 2 ∧ column = units before + 1

theorem unitsOf_eq_one_or_two (c : Char) : unitsOf c = 1 ∨ unitsOf c = 2 := by
  rw [unitsOf]
  split
  · exact .inl rfl
  · exact .inr rfl

/-- A count along the text meets a column, passes it inside a pair, or ends before it. -/
theorem exists_cut_or_splitsPair {text : List Char} {column : Nat} (within : column ≤ units text) :
    (∃ before after, text = before ++ after ∧ units before = column) ∨ SplitsPair text column := by
  induction text generalizing column with
  | nil => exact .inl ⟨[], [], rfl, (Nat.le_zero.mp within).symm⟩
  | cons c rest ih =>
    rw [units] at within
    by_cases behind : unitsOf c ≤ column
    · obtain ⟨column, rfl⟩ := Nat.exists_eq_add_of_le behind
      rcases ih (Nat.le_of_add_le_add_left within) with
        ⟨before, after, rfl, rfl⟩ | ⟨before, d, after, rfl, pair, rfl⟩
      · exact .inl ⟨c :: before, after, rfl, rfl⟩
      · exact .inr ⟨c :: before, d, after, rfl, pair, by rw [units, Nat.add_assoc]⟩
    · rcases Nat.eq_zero_or_pos column with rfl | inside
      · exact .inl ⟨[], c :: rest, rfl, rfl⟩
      · have pair : unitsOf c = 2 := (unitsOf_eq_one_or_two c).resolve_left (by omega)
        exact .inr ⟨[], c, rest, rfl, pair, by rw [units]; omega⟩

/-! ## The search for a column -/

section Search

variable {column count next : Coordinate} {start : Nat} {text before : List Char}

/-- The search ends where its count meets the column. -/
theorem searchColumn_self (column : Coordinate) (start : Nat) (text : List Char) :
    searchColumn column column start text = .found start := by
  cases text <;> rw [searchColumn, if_pos rfl]

/-- Behind the column nothing is found. -/
theorem searchColumn_of_lt (past : column < count) (text : List Char) :
    searchColumn column count start text = .absent := by
  have elsewhere : count ≠ column := (UInt32.ne_of_lt past).symm
  cases text with
  | nil => rw [searchColumn, if_neg elsewhere]
  | cons c rest => rw [searchColumn, if_neg elsewhere, if_pos past]

/-- In front of the column the next character is counted. -/
theorem searchColumn_cons (ahead : count < column) (c : Char) (rest : List Char) :
    searchColumn column count start (c :: rest) =
      (Coordinate.ofNat? (count.toNat + unitsOf c)).elim .overflow fun next =>
        searchColumn column next (start + c.utf8Size) rest := by
  have number : (UInt32.ofNat (unitsOf c)).toNat = unitsOf c :=
    UInt32.toNat_ofNat_of_lt' (Nat.lt_of_le_of_lt (unitsOf_le_two c) (by decide))
  rw [searchColumn, if_neg (UInt32.ne_of_lt ahead),
    if_neg fun past => UInt32.lt_irrefl _ (UInt32.lt_trans ahead past),
    Coordinate.add?_eq_ofNat?, number]
  cases Coordinate.ofNat? (count.toNat + unitsOf c) <;> rfl

/-- It gets as far as the column. -/
theorem searchColumn_append (counted : count.toNat + units before = next.toNat)
    (short : next ≤ column) (after : List Char) :
    searchColumn column count start (before ++ after) =
      searchColumn column next (start + bytes before) after := by
  induction before generalizing count start with
  | nil =>
    obtain rfl : count = next := UInt32.toNat_inj.mp counted
    rfl
  | cons c before ih =>
    have wide := unitsOf_pos c
    have inside := next.toNat_lt
    have order := UInt32.le_iff_toNat_le.mp short
    rw [units, ← Nat.add_assoc] at counted
    have ahead : count < column := UInt32.lt_iff_toNat_lt.mpr (by omega)
    have sum : (UInt32.ofNat (count.toNat + unitsOf c)).toNat = count.toNat + unitsOf c :=
      UInt32.toNat_ofNat_of_lt' (by rw [UInt32.size]; omega)
    rw [List.cons_append, searchColumn_cons ahead, Coordinate.ofNat?_eq_some_iff.mpr sum,
      Option.elim_some, ih (by rw [sum, counted]), bytes, Nat.add_assoc]

/-- From the start of a text it gets to what has no more units than the column. -/
theorem columnSearch_append (short : units before ≤ column.toNat) (after : List Char) :
    columnSearch (before ++ after) column =
      searchColumn column (.ofNat (units before)) (bytes before) after := by
  have count : (UInt32.ofNat (units before)).toNat = units before :=
    UInt32.toNat_ofNat_of_lt' (Nat.lt_of_le_of_lt short column.toNat_lt)
  have counted : (0 : Coordinate).toNat + units before = (UInt32.ofNat (units before)).toNat :=
    (Nat.zero_add _).trans count.symm
  rw [columnSearch, searchColumn_append counted (UInt32.le_iff_toNat_le.mpr (by rwa [count])),
    Nat.zero_add]

theorem columnSearch_of_cut (width : units before = column.toNat) (after : List Char) :
    columnSearch (before ++ after) column = .found (bytes before) := by
  rw [columnSearch_append (Nat.le_of_eq width), width, UInt32.ofNat_toNat, searchColumn_self]

theorem columnSearch_of_units_lt (past : units text < column.toNat) :
    columnSearch text column = .absent := by
  have count : (UInt32.ofNat (units text)).toNat = units text :=
    UInt32.toNat_ofNat_of_lt' (Nat.lt_trans past column.toNat_lt)
  have elsewhere : UInt32.ofNat (units text) ≠ column := by
    rintro rfl
    exact Nat.ne_of_lt past count.symm
  rw [← List.append_nil text, columnSearch_append (Nat.le_of_lt past), searchColumn,
    if_neg elsewhere]

/-- Inside a pair the count passes the column, or overflows if there is no greater one. -/
theorem columnSearch_of_splitsPair (inside : SplitsPair text column.toNat) :
    columnSearch text column =
      if column = Coordinate.greatest then .overflow else .absent := by
  obtain ⟨before, c, after, rfl, pair, place⟩ := inside
  have top : Coordinate.greatest.toNat = 0xFFFFFFFF := rfl
  have size : UInt32.size = 0xFFFFFFFF + 1 := rfl
  have bound := column.toNat_lt
  have count : (UInt32.ofNat (units before)).toNat = units before :=
    UInt32.toNat_ofNat_of_lt' (by omega)
  rw [columnSearch_append (by omega),
    searchColumn_cons (UInt32.lt_iff_toNat_lt.mpr (by omega)), count, pair]
  split
  · rename_i greatest
    rw [greatest, top] at place
    rw [Coordinate.ofNat?_eq_none_iff.mpr (by omega), Option.elim_none]
  · rename_i less
    have less : column.toNat ≠ Coordinate.greatest.toNat := mt UInt32.toNat_inj.mp less
    have sum : (UInt32.ofNat (units before + 2)).toNat = units before + 2 :=
      UInt32.toNat_ofNat_of_lt' (by omega)
    rw [Coordinate.ofNat?_eq_some_iff.mpr sum, Option.elim_some,
      searchColumn_of_lt (UInt32.lt_iff_toNat_lt.mpr (by omega))]

end Search

/-- A column cuts the text, is past its end, or is inside a pair. -/
theorem column_cases (text : List Char) (column : Nat) :
    (∃ before after, text = before ++ after ∧ units before = column) ∨
      units text < column ∨ SplitsPair text column := by
  rcases Nat.lt_or_ge (units text) column with past | within
  · exact .inr (.inl past)
  · exact (exists_cut_or_splitsPair within).imp_right .inr

/-! ## Columns as places in a text -/

theorem ColumnSearch.offset?_eq_some_iff {search : ColumnSearch} {offset : Nat} :
    search.offset? = some offset ↔ search = .found offset := by
  cases search <;> simp [offset?]

theorem byteOfColumn?_append {before : List Char} {column : Coordinate}
    (width : units before = column.toNat) (after : List Char) :
    byteOfColumn? (before ++ after) column = some (bytes before) := by
  rw [byteOfColumn?, columnSearch_of_cut width, ColumnSearch.offset?]

/-- A column is not found if it is past the end or inside a pair. -/
theorem byteOfColumn?_of_outside {text : List Char} {column : Coordinate}
    (outside : units text < column.toNat ∨ SplitsPair text column.toNat) :
    byteOfColumn? text column = none := by
  rw [byteOfColumn?]
  rcases outside with past | inside
  · rw [columnSearch_of_units_lt past, ColumnSearch.offset?]
  · rw [columnSearch_of_splitsPair inside]
    split <;> rfl

/-- A column is found where the text in front of it has so many units. -/
theorem byteOfColumn?_eq_some_iff {text : List Char} {column : Coordinate} {offset : Nat} :
    byteOfColumn? text column = some offset ↔ ∃ before after, text = before ++ after ∧
      units before = column.toNat ∧ bytes before = offset := by
  constructor
  · intro found
    rcases column_cases text column.toNat with ⟨before, after, rfl, width⟩ | outside
    · rw [byteOfColumn?_append width] at found
      cases found
      exact ⟨before, after, rfl, width, rfl⟩
    · cases (byteOfColumn?_of_outside outside).symm.trans found
  · rintro ⟨before, after, rfl, width, rfl⟩
    exact byteOfColumn?_append width after

/-- A column that is not in front of another is at no byte in front of it. -/
theorem byteOfColumn?_mono {text : List Char} {column column' : Coordinate} {offset offset' : Nat}
    (order : column ≤ column') (found : byteOfColumn? text column = some offset)
    (found' : byteOfColumn? text column' = some offset') : offset ≤ offset' := by
  rw [UInt32.le_iff_toNat_le] at order
  obtain ⟨before, after, rfl, width, rfl⟩ := byteOfColumn?_eq_some_iff.mp found
  obtain ⟨before', after', whole, width', rfl⟩ := byteOfColumn?_eq_some_iff.mp found'
  rw [← width, ← width'] at order
  rcases List.append_eq_append_iff.mp whole with ⟨gap, rfl, -⟩ | ⟨gap, rfl, -⟩
  · rw [bytes_append]
    omega
  · -- the longer text has no units more, so it is not longer
    rw [units_append] at order
    obtain rfl : gap = [] := units_eq_zero_iff.mp (by omega)
    exact Nat.le_of_eq (by rw [List.append_nil])

/-- A text is split at a column where the part in front has so many units. -/
theorem splitAtColumn?_eq_some_iff {text before after : List Char} {column : Coordinate} :
    (byteOfColumn? text column).bind (splitAtByte? text) = some (before, after) ↔
      text = before ++ after ∧ units before = column.toNat := by
  rw [Option.bind_eq_some_iff]
  constructor
  · rintro ⟨offset, found, split⟩
    obtain ⟨before', after', whole, width, length⟩ := byteOfColumn?_eq_some_iff.mp found
    rw [splitAtByte?_eq_some_iff.mpr ⟨whole, length⟩] at split
    cases split
    exact ⟨whole, width⟩
  · rintro ⟨rfl, width⟩
    exact ⟨bytes before, byteOfColumn?_append width after, splitAtByte?_eq_some_iff.mpr ⟨rfl, rfl⟩⟩

/-- A column of a line as a place of it; one that is none counts as the end of the line. -/
def placeOn (text : List Char) (column : Coordinate) : Nat :=
  if (byteOfColumn? text column).isSome then column.toNat else units text

theorem placeOn_of_split {text before after : List Char} {column : Coordinate}
    (split : text = before ++ after) (width : units before = column.toNat) :
    placeOn text column = units before := by
  rw [placeOn, split, byteOfColumn?_append width, width]
  rfl

/-- A place of a line cuts it. -/
theorem exists_split_at (text : List Char) (column : Coordinate) :
    ∃ before after, text = before ++ after ∧ placeOn text column = units before ∧
      (byteOfColumn? text column).getD (bytes text) = bytes before := by
  rw [placeOn]
  cases found : byteOfColumn? text column with
  | none => exact ⟨text, [], (List.append_nil _).symm, rfl, rfl⟩
  | some offset =>
    obtain ⟨before, after, split, width, length⟩ := byteOfColumn?_eq_some_iff.mp found
    exact ⟨before, after, split, width.symm, length.symm⟩

/-- What ends on a line at a column, or goes on behind it, cuts the line. -/
theorem exists_split_upto (text : List Char) (here : Bool) (column : Coordinate) :
    ∃ upto back, text = upto ++ back ∧
      (if here then placeOn text column else units text) = units upto ∧
      (if here then (byteOfColumn? text column).getD (bytes text) else bytes text) =
        bytes upto := by
  cases here with
  | true => exact exists_split_at text column
  | false => exact ⟨text, [], (List.append_nil _).symm, rfl, rfl⟩

/-- Two cuts of a text have a window between them, which is empty if the second is in front of the
first. -/
theorem exists_window_between {text front behind upto back : List Char}
    (split : text = front ++ behind) (split' : text = upto ++ back) :
    ∃ window rest, text = front ++ window ++ rest ∧
      units front + units window = max (units front) (units upto) ∧
      bytes upto - bytes front = bytes window := by
  rcases Nat.le_total (units front) (units upto) with order | order
  · obtain ⟨window, rfl, -⟩ := exists_gap_of_units_le (split.symm.trans split') order
    exact ⟨window, back, split', by rw [Nat.max_eq_right order, units_append],
      by rw [bytes_append, Nat.add_sub_cancel_left]⟩
  · obtain ⟨gap, rfl, -⟩ := exists_gap_of_units_le (split'.symm.trans split) order
    refine ⟨[], behind, by rw [split, List.append_nil], (Nat.max_eq_left order).symm, ?_⟩
    rw [bytes_append, bytes]
    omega

theorem columnOfByte_append (before after : List Char) :
    columnOfByte (before ++ after) (bytes before) = .ofNat (units before) := by
  have inside : min (bytes before) (bytes (before ++ after)) = bytes before := by
    rw [bytes_append]
    omega
  rw [columnOfByte, inside, splitAtByte?_eq_some_iff.mpr ⟨rfl, rfl⟩]
  exact tally_eq before

end LinksBinding.Text
