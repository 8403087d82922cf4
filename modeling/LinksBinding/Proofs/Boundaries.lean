import LinksBinding.Text.Columns

/-!
# Character boundaries

A text may be cut at a byte offset if the bytes in front of it are a text by themselves. It is cut
between two characters then (`isBoundary_iff`), and the bytes of a word stand in a text only where
its characters do (`standsAt_iff`): inside a character is no byte that one could begin with.

Columns name boundaries. The column of a boundary is found at its offset, what has no column is past
the end or inside a surrogate pair, and of two columns the larger is further on
(`columnsNameBoundaries`). A count of units that goes along the text therefore meets a column at a
boundary, passes it in the middle of a pair, or ends before it.

The count is made in 32 bits. It never has to go beyond the column that is looked for, except that it
passes a pair by two, so there is one column where it can overflow: the greatest, if that is inside a
pair. The length of a text and the columns of its boundaries may leave the range, and no column is
that of such a boundary.
-/

namespace LinksBinding.Text

variable {text word : List Char} {offset : Nat} {column : Coordinate}

/-- No character is cut at a byte offset of a text: what is in front of it is a text. -/
def IsBoundary (text : List Char) (offset : Nat) : Prop :=
  (String.Pos.Raw.mk offset).IsValid (String.ofList text)

theorem size_utf8Encode (text : List Char) : text.utf8Encode.size = bytes text := by
  induction text with
  | nil => rfl
  | cons c rest ih =>
    rw [List.utf8Encode_cons, ByteArray.size_append, ih, List.utf8Encode_singleton,
      List.size_toByteArray, String.length_utf8EncodeChar, bytes]

theorem byteIdx_rawEndPos_ofList (text : List Char) :
    (String.ofList text).rawEndPos.byteIdx = bytes text := by
  rw [String.byteIdx_rawEndPos, ← String.size_toByteArray, String.toByteArray_ofList,
    size_utf8Encode]

/-- The boundaries of a text are the offsets behind some of its characters. -/
theorem isBoundary_iff :
    IsBoundary text offset ↔ ∃ before after, text = before ++ after ∧ bytes before = offset := by
  rw [IsBoundary, String.Pos.Raw.isValid_iff_exists_append]
  constructor
  · rintro ⟨before, after, split, place⟩
    refine ⟨before.toList, after.toList, ?_, ?_⟩
    · rw [← String.toList_append, ← split, String.toList_ofList]
    · rw [← byteIdx_rawEndPos_ofList, String.ofList_toList, ← place]
  · rintro ⟨before, after, rfl, rfl⟩
    refine ⟨.ofList before, .ofList after, String.ofList_append, ?_⟩
    rw [String.Pos.Raw.ext_iff, byteIdx_rawEndPos_ofList]

/-! ## The bytes of a word -/

/-- The UTF-8 bytes of a word stand in those of a text, from a byte offset on. -/
def StandsAt (word text : List Char) (offset : Nat) : Prop :=
  ∃ front back : ByteArray,
    text.utf8Encode = front ++ word.utf8Encode ++ back ∧ front.size = offset

theorem standsAt_append (before word after : List Char) :
    StandsAt word (before ++ word ++ after) (bytes before) :=
  ⟨before.utf8Encode, after.utf8Encode, by rw [List.utf8Encode_append, List.utf8Encode_append],
    size_utf8Encode before⟩

/-- Where the bytes of a word begin, a character begins. -/
theorem StandsAt.isBoundary (stands : StandsAt word text offset) (nonempty : word ≠ []) :
    IsBoundary text offset := by
  obtain ⟨front, back, whole, rfl⟩ := stands
  have long : 0 < word.utf8Encode.size := by
    rw [size_utf8Encode]
    exact Nat.pos_of_ne_zero (mt bytes_eq_zero_iff.mp nonempty)
  have first : word.utf8Encode[0].IsUTF8FirstByte :=
    ByteArray.isValidUTF8_utf8Encode.isUTF8FirstByte_getElem_zero long
  have inside : front.size < (String.ofList text).toByteArray.size := by
    rw [String.toByteArray_ofList, whole, ByteArray.size_append, ByteArray.size_append]
    omega
  rw [String.size_toByteArray, ← String.byteIdx_rawEndPos] at inside
  rw [IsBoundary, String.Pos.Raw.isValid_iff_isUTF8FirstByte]
  refine .inr ⟨inside, ?_⟩
  simp only [String.getUTF8Byte_eq_getElem, String.toByteArray_ofList, whole,
    ByteArray.append_assoc]
  rw [ByteArray.getElem_append_right (Nat.le_refl _)]
  simp only [Nat.sub_self, ByteArray.getElem_append_left long]
  exact first

/-- The bytes of a word stand only where its characters do. -/
theorem standsAt_iff (nonempty : word ≠ []) : StandsAt word text offset ↔
    ∃ before after, text = before ++ word ++ after ∧ bytes before = offset := by
  constructor
  · intro stands
    obtain ⟨before, rest, rfl, place⟩ := isBoundary_iff.mp (stands.isBoundary nonempty)
    obtain ⟨front, back, whole, width⟩ := stands
    rw [List.utf8Encode_append, ByteArray.append_assoc] at whole
    have same : before.utf8Encode.size = front.size := by rw [size_utf8Encode, place, width]
    obtain ⟨-, behind⟩ := (ByteArray.append_eq_append_iff_of_size_eq_left same).mp whole
    obtain ⟨after, rfl⟩ := List.isPrefix_of_utf8Encode_append_eq_utf8Encode back behind.symm
    exact ⟨before, after, (List.append_assoc ..).symm, place⟩
  · rintro ⟨before, after, rfl, rfl⟩
    exact standsAt_append before word after

/-! ## Columns -/

/-- A column is found where the boundary is that has it. -/
theorem byteOfColumn?_eq_some_iff_isBoundary : byteOfColumn? text column = some offset ↔
    IsBoundary text offset ∧ (columnOfByte text offset).checked? = some column := by
  have place (before after : List Char) :
      (columnOfByte (before ++ after) (bytes before)).checked? = some column ↔
        units before = column.toNat := by
    rw [columnOfByte_append, Tally.checked?_ofNat, Coordinate.ofNat?_eq_some_iff, eq_comm]
  rw [byteOfColumn?_eq_some_iff, isBoundary_iff]
  constructor
  · rintro ⟨before, after, rfl, width, rfl⟩
    exact ⟨⟨before, after, rfl, rfl⟩, (place before after).mpr width⟩
  · rintro ⟨⟨before, after, rfl, rfl⟩, found⟩
    exact ⟨before, after, rfl, (place before after).mp found, rfl⟩

/-- A column is past the end of a text if the length of the text is a smaller one. -/
theorem units_lt_toNat_iff : units text < column.toNat ↔
    ∃ length, (tally text).checked? = some length ∧ length < column := by
  have inside := column.toNat_lt
  have size : UInt32.size = 2 ^ 32 := rfl
  simp only [tally_eq, Tally.checked?_ofNat, Coordinate.ofNat?_eq_some_iff, UInt32.lt_iff_toNat_lt]
  constructor
  · exact fun past => ⟨.ofNat (units text), by rw [UInt32.toNat_ofNat_of_lt' (by omega)],
      by rwa [UInt32.toNat_ofNat_of_lt' (by omega)]⟩
  · rintro ⟨length, same, past⟩
    rwa [same] at past

/-- A column is not found if it is past the end or inside a pair. -/
theorem byteOfColumn?_eq_none_iff :
    byteOfColumn? text column = none ↔
      units text < column.toNat ∨ SplitsPair text column.toNat := by
  refine ⟨fun absent => ?_, byteOfColumn?_of_outside⟩
  rcases column_cases text column.toNat with ⟨before, after, rfl, width⟩ | outside
  · cases (byteOfColumn?_append width after).symm.trans absent
  · exact outside

/-- A larger column is found further on. -/
theorem byteOfColumn?_strictMono {column' : Coordinate} {offset' : Nat} (less : column < column')
    (found : byteOfColumn? text column = some offset)
    (found' : byteOfColumn? text column' = some offset') : offset < offset' := by
  have apart : offset ≠ offset' := by
    rintro rfl
    have same : column = column' := Option.some_inj.mp
      ((byteOfColumn?_eq_some_iff_isBoundary.mp found).2.symm.trans
        (byteOfColumn?_eq_some_iff_isBoundary.mp found').2)
    exact UInt32.ne_of_lt less same
  exact Nat.lt_of_le_of_ne (byteOfColumn?_mono (UInt32.le_of_lt less) found found') apart

/-- The search for a column overflows only at the greatest column, inside a pair. -/
theorem columnSearch_eq_overflow_iff : columnSearch text column = .overflow ↔
    column = Coordinate.greatest ∧ SplitsPair text column.toNat := by
  constructor
  · intro overflows
    rcases column_cases text column.toNat with ⟨before, after, rfl, width⟩ | past | inside
    · cases (columnSearch_of_cut width after).symm.trans overflows
    · cases (columnSearch_of_units_lt past).symm.trans overflows
    · rw [columnSearch_of_splitsPair inside] at overflows
      split at overflows
      · rename_i greatest
        exact ⟨greatest, inside⟩
      · cases overflows
  · rintro ⟨greatest, inside⟩
    rw [columnSearch_of_splitsPair inside, if_pos greatest]

/-- The columns of a text name its character boundaries, and ascend with them. -/
structure ColumnsNameBoundaries (text : List Char) : Prop where
  /-- a column is found at a boundary exactly if it is the column of that boundary -/
  found_iff {column : Coordinate} {offset : Nat} : byteOfColumn? text column = some offset ↔
    IsBoundary text offset ∧ (columnOfByte text offset).checked? = some column
  /-- a column is not found exactly if it is past the end or inside a surrogate pair -/
  absent_iff {column : Coordinate} : byteOfColumn? text column = none ↔
    (∃ length, (tally text).checked? = some length ∧ length < column) ∨
      SplitsPair text column.toNat
  /-- the count overflows exactly if the column is the greatest and inside a surrogate pair -/
  overflow_iff {column : Coordinate} : columnSearch text column = .overflow ↔
    column = Coordinate.greatest ∧ SplitsPair text column.toNat
  /-- a larger column is found further on -/
  ascending {column column' : Coordinate} {offset offset' : Nat} : column < column' →
    byteOfColumn? text column = some offset → byteOfColumn? text column' = some offset' →
      offset < offset'

/-- The columns of every text name its boundaries. -/
theorem columnsNameBoundaries (text : List Char) : ColumnsNameBoundaries text where
  found_iff := byteOfColumn?_eq_some_iff_isBoundary
  absent_iff := by
    intro column
    rw [byteOfColumn?_eq_none_iff, units_lt_toNat_iff]
  overflow_iff := columnSearch_eq_overflow_iff
  ascending := byteOfColumn?_strictMono

/-- The column between the two units of the rocket is none. -/
example : [0, 1, 2, 3, 4, 5, 6, 7].map (byteOfColumn? "A 🚀 B".toList) =
    [some 0, some 1, some 2, none, some 6, some 7, some 8, none] := by decide

end LinksBinding.Text
