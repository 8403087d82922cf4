import LinksBinding.Proofs.Coverage
import LinksBinding.Proofs.Partition
import LinksBinding.RuntimeReport

/-!
# Run-time errors stand on their expression

The place of a run-time error is looked for in two ways: on the line that was reported, where the
column is counted along the line, and in the whole document, where the position is found from a byte
offset. Both come to a range of one line with the first line of the expression under it, and to the
first such range (`RuntimeError.located`).

For the line this is `covers_onLine`. In the document, an occurrence of a text without line breaks is
on a line (`exists_onLine_of_occurrence`): the line that it starts on cannot end within it, since a
break would be among its characters.
-/

namespace LinksBinding

open Text

namespace Text

variable {needle text source front back : List Char}

/-! ## Occurrences -/

/-- `needle` stands in a text between `before` and `after`, and nowhere further left. -/
structure StandsFirst (needle text before after : List Char) : Prop where
  /-- the text is made of the three -/
  split : text = before ++ needle ++ after
  /-- other occurrences have at least as much in front of them -/
  leftmost {before' after' : List Char} : text = before' ++ needle ++ after' →
    bytes before ≤ bytes before'

theorem exists_standsFirst_of_findByte? {offset : Nat} (found : findByte? needle text = some offset) :
    ∃ before after, StandsFirst needle text before after ∧ bytes before = offset := by
  obtain ⟨before, after, split, rfl, leftmost⟩ := exists_of_findByte? found
  exact ⟨before, after, ⟨split, leftmost _ _⟩, rfl⟩

theorem findByte?_eq_none_iff_not_infix : findByte? needle text = none ↔ ¬ needle <:+: text := by
  rw [findByte?_eq_none_iff]
  constructor
  · rintro absent ⟨before, after, split⟩
    exact absent before after split.symm
  · exact fun absent before after split => absent ⟨before, after, split.symm⟩

/-- A break starts with a carriage return or a line feed. -/
theorem LineBreak.exists_cons_of_ne_none {ending : LineBreak} (breaks : ending ≠ .none) :
    ∃ c rest, ending.chars = c :: rest ∧ (c = '\r' ∨ c = '\n') := by
  cases ending with
  | none => exact absurd rfl breaks
  | feed => exact ⟨_, _, rfl, .inr rfl⟩
  | carriageReturn | returnFeed => exact ⟨_, _, rfl, .inl rfl⟩

/-- A text without line breaks that stands in a document stands on a line of it. -/
theorem exists_onLine_of_occurrence (solid : '\r' ∉ needle ∧ '\n' ∉ needle) (some : needle ≠ [])
    (split : source = front ++ needle ++ back) :
    ∃ number line before after, OnLine (splitLines source) (bytes front) number before ∧
      (splitLines source)[number]? = .some line ∧ line.text = before ++ needle ++ after := by
  have place : IsPlace source (bytes front) := by
    refine ⟨front, needle ++ back, by rw [split, List.append_assoc], rfl, fun ⟨_, feed⟩ => ?_⟩
    rw [List.head?_append_of_ne_nil _ some] at feed
    exact solid.2 (List.mem_of_head? feed)
  obtain ⟨number, before, on⟩ := exists_onLine_iff.mpr place
  obtain ⟨line, behind, here, text, offset⟩ := id on
  refine ⟨number, line, before, ?_⟩
  -- both ways to cut the document come to the occurrence
  have whole : front ++ (needle ++ back) =
      (((splitLines source).take number).flatMap Line.chars ++ before) ++ (behind ++
        (line.ending.chars ++ ((splitLines source).drop (number + 1)).flatMap Line.chars)) := by
    rw [← List.append_assoc, ← split]
    refine (eq_append_line here).trans ?_
    simp only [Line.chars, text, List.append_assoc]
  obtain ⟨-, rest⟩ := isSize_bytes.append_inj whole (by rw [bytes_append, offset])
  rcases List.append_eq_append_iff.mp rest with ⟨gap, within, -⟩ | ⟨gap, longer, below⟩
  · exact ⟨gap, on, here, by rw [text, within, List.append_assoc]⟩
  · -- the line ends within the occurrence, or with it
    cases gap with
    | nil => exact ⟨[], on, here, by rw [text, longer, List.append_nil, List.append_nil]⟩
    | cons d gap =>
      by_cases last : line.ending = .none
      · have none := (LineTable.ending_eq_none_iff here).mp last
        rw [last, none, List.drop_length] at below
        cases below
      · obtain ⟨c, rest, chars, breaks⟩ := LineBreak.exists_cons_of_ne_none last
        rw [chars] at below
        obtain rfl : c = d := (List.cons.inj below).1
        have mem : c ∈ needle := by simp [longer]
        exact (breaks.elim (fun same => solid.1 (same ▸ mem)) fun same => solid.2 (same ▸ mem)).elim

end Text

/-! ## Ranges over an occurrence -/

variable {source needle front back before after : List Char} {range : Range}

/-- In a document, a range of one line has `needle` under it, between `front` and `back`. -/
structure StandsUnder (source needle : List Char) (range : Range) (front back : List Char) :
    Prop where
  /-- the document is made of the three -/
  split : source = front ++ needle ++ back
  /-- the range starts on a line of the document -/
  inside : range.start.line.toNat < (LineTable.ofChars source).count
  /-- it ends on the same line -/
  level : range.stop.line = range.start.line
  /-- it starts where the occurrence does -/
  start : (LineTable.ofChars source).offsetOfPosition? range.start = some (bytes front)
  /-- it ends where the occurrence does -/
  stop : (LineTable.ofChars source).offsetOfPosition? range.stop =
    some (bytes front + bytes needle)

/-- A text that a range of a line covers stands under it in the document. -/
theorem Covers.exists_standsUnder (short : bytes source < UInt32.size)
    (covers : Covers (LineTable.ofChars source).lineText? range before needle after) :
    ∃ front back, StandsUnder source needle range front back := by
  obtain ⟨line, here, -⟩ := LineTable.exists_of_lineText? short covers.line
  have inside : range.start.line.toNat < (LineTable.ofChars source).count := by
    rw [LineTable.count_ofChars]
    exact (List.getElem?_eq_some_iff.mp here).1
  rw [funext (LineTable.lineText?_ofChars short)] at covers
  obtain ⟨front, back, split, start, stop⟩ := covers.exists_between
  rw [← LineTable.offsetOfPosition?_ofChars short] at start stop
  exact ⟨front, back, split, inside, covers.level, start, stop⟩

/-- A range that starts at the offset of an occurrence has that occurrence under it. -/
theorem StandsUnder.of_start {front' back' : List Char}
    (under : StandsUnder source needle range front' back')
    (split : source = front ++ needle ++ back)
    (start : (LineTable.ofChars source).offsetOfPosition? range.start = some (bytes front)) :
    StandsUnder source needle range front back := by
  have same : bytes front' = bytes front := Option.some_inj.mp (under.start.symm.trans start)
  exact ⟨split, under.inside, under.level, start, same ▸ under.stop⟩

/-- In a document that is no longer than coordinates reach, the range at the position of an occurrence
has the occurrence under it. -/
theorem standsUnder_positionOfOffset (short : bytes source < UInt32.size)
    (solid : '\r' ∉ needle ∧ '\n' ∉ needle) (some : needle ≠ [])
    (split : source = front ++ needle ++ back) :
    let start := (LineTable.ofChars source).positionOfOffset (bytes front)
    StandsUnder source needle (.onLine start.line start.character (.ofNat (units needle)))
      front back := by
  obtain ⟨number, line, before, after, on, here, text⟩ :=
    exists_onLine_of_occurrence solid some split
  obtain ⟨listed, narrow⟩ := LineTable.lt_size_of_onLine short on
  have place := exists_onLine_iff.mp ⟨number, before, on⟩
  have start := (LineTable.corresponds_ofChars short).offset_of_position place
  rw [LineTable.positionOfOffset_of_onLine short on] at start ⊢
  have shows : (LineTable.ofChars source).lineText? (UInt32.ofNat number).toNat =
      .some (before ++ needle ++ after) := by
    rw [UInt32.toNat_ofNat_of_lt' listed, LineTable.lineText?_ofChars short, lineAt?,
      List.getElem?_map, here, ← text, Option.map_some]
  have fits := Nat.lt_of_le_of_lt (LineTable.units_le_of_lineText? shows) short
  simp only [units_append] at fits
  have covers := covers_onLine shows (by omega) (UInt32.toNat_ofNat_of_lt' narrow)
  obtain ⟨front', back', under⟩ := covers.exists_standsUnder short
  exact under.of_start split start

namespace RuntimeError

variable {error : RuntimeError} {number : Coordinate} {line : List Char}

/-! ## What is looked for -/

/-- The first line of the expression. -/
def firstLine? (error : RuntimeError) : Option (List Char) :=
  error.expression.bind fun expression => (terminalLines expression.toList).head?

theorem needle?_eq (error : RuntimeError) :
    error.needle? = error.firstLine?.bind fun line =>
      if (trim line).isEmpty then none else some (trim line) := by
  rw [needle?, firstLine?, Option.bind_assoc]
  rfl

/-- The needle is the first line of the expression without the white space around it. -/
theorem needle?_eq_some_iff :
    error.needle? = some needle ↔
      ∃ line, error.firstLine? = some line ∧ trim line = needle ∧ needle ≠ [] := by
  rw [needle?_eq, Option.bind_eq_some_iff]
  refine exists_congr fun line => and_congr_right fun _ => ?_
  by_cases blank : trim line = []
  · rw [blank, List.isEmpty_nil, if_pos rfl]
    exact iff_of_false nofun fun ⟨same, solid⟩ => solid same.symm
  · rw [if_neg (mt List.isEmpty_iff.mp blank), Option.some_inj]
    exact ⟨fun same => ⟨same, same ▸ blank⟩, And.left⟩

/-- There is no needle exactly if the first line of the expression is missing or blank. -/
theorem needle?_eq_none_iff :
    error.needle? = none ↔
      ∀ line, error.firstLine? = some line → ∀ c ∈ line, isBlank c = true := by
  rw [needle?_eq, Option.bind_eq_none_iff]
  refine forall₂_congr fun line _ => ?_
  rw [← trim_eq_nil_iff, ← List.isEmpty_iff]
  split
  · rename_i blank
    exact iff_of_true rfl blank
  · rename_i solid
    exact iff_of_false nofun solid

/-- No line break is in a needle that comes from a line without carriage returns. -/
theorem break_notMem_needle (first : error.firstLine? = some line) (free : '\r' ∉ line) :
    '\r' ∉ trim line ∧ '\n' ∉ trim line := by
  obtain ⟨expression, -, head⟩ := Option.bind_eq_some_iff.mp first
  have fed := feed_notMem_of_mem_terminalLines (List.mem_of_mem_head? head)
  exact ⟨fun mem => free ((trim_sublist line).mem mem), fun mem => fed ((trim_sublist line).mem mem)⟩

/-! ## The two ways of looking -/

theorem locate?_of_line (reported : error.line = some number) (source : List Char) :
    error.locate? source = error.needle?.bind fun needle => (number.sub? 1).bind fun line =>
      ((LineTable.ofChars source).lineText? line.toNat).bind fun text =>
        (findByte? needle text).map fun offset =>
          .onLine line (columnOfByte text offset).word (.ofNat (units needle)) := by
  simp only [locate?, reported, Option.map_eq_bind, tally_eq, Tally.word_ofNat]
  rfl

theorem locate?_of_no_line (unreported : error.line = none) (source : List Char) :
    error.locate? source = error.needle?.bind fun needle =>
      (findByte? needle source).map fun offset =>
        let start := (LineTable.ofChars source).positionOfOffset offset
        .onLine start.line start.character (.ofNat (units needle)) := by
  simp only [locate?, unreported, Option.map_eq_bind, tally_eq, Tally.word_ofNat]
  rfl

/-- Lines are reported counted from one. -/
theorem sub?_one_eq_some_iff {level : Coordinate} :
    number.sub? 1 = some level ↔ level.toNat + 1 = number.toNat := by
  have one : (1 : Coordinate).toNat = 1 := rfl
  rw [Coordinate.sub?]
  split
  · rename_i positive
    rw [Option.some_inj, ← UInt32.toNat_inj, UInt32.toNat_sub_of_le _ _ positive, one]
    rw [UInt32.le_iff_toNat_le, one] at positive
    omega
  · rename_i zero
    rw [UInt32.le_iff_toNat_le, one] at zero
    simp only [reduceCtorEq, false_iff]
    omega

theorem sub?_one_eq_none_iff : number.sub? 1 = none ↔ number = 0 := by
  have one : (1 : Coordinate).toNat = 1 := rfl
  have zero : (0 : Coordinate).toNat = 0 := rfl
  rw [Coordinate.sub?, ite_eq_right_iff, ← UInt32.toNat_inj, UInt32.le_iff_toNat_le, one, zero]
  simp only [reduceCtorEq, imp_false]
  omega

/-- A range is where an error is reported: it has the first line of the expression under it, without
the white space around that. -/
structure IsLocatedAt (error : RuntimeError) (source : List Char) (range : Range)
    (line front back : List Char) : Prop where
  /-- the first line of the expression -/
  first : error.firstLine? = some line
  /-- it is not blank -/
  solid : trim line ≠ []
  /-- it is under the range -/
  under : StandsUnder source (trim line) range front back
  /-- without a reported line, it does not stand further left in the document -/
  inDocument : error.line = none → StandsFirst (trim line) source front back
  /-- with one, the range is on that line, and it does not stand further left there -/
  onLine {number : Coordinate} : error.line = some number →
    range.start.line.toNat + 1 = number.toNat ∧ ∃ text before after,
      (LineTable.ofChars source).lineText? range.start.line.toNat = some text ∧
        StandsFirst (trim line) text before after ∧ range.start.character.toNat = units before

/-- Why an error has no place in a document. -/
inductive HasNoPlace (error : RuntimeError) (source : List Char) : Prop
  /-- there is no expression -/
  | noExpression (absent : error.expression = none)
  /-- the expression has no line -/
  | noLine {expression : String} (given : error.expression = some expression)
      (empty : (terminalLines expression.toList).head? = none)
  /-- its first line is white space -/
  | blank {line : List Char} (first : error.firstLine? = some line)
      (blank : ∀ c ∈ line, isBlank c = true)
  /-- the reported line is in front of the first -/
  | zero (reported : error.line = some 0)
  /-- the reported line is behind the last -/
  | behind {number : Coordinate} (reported : error.line = some number)
      (behind : (LineTable.ofChars source).count < number.toNat)
  /-- the expression is not on the reported line -/
  | missingOnLine {number : Coordinate} {line text : List Char}
      (reported : error.line = some number) (first : error.firstLine? = some line)
      (here : (LineTable.ofChars source).lineText? (number.toNat - 1) = some text)
      (missing : ¬ trim line <:+: text)
  /-- no line is reported, and the expression is nowhere in the document -/
  | missing {line : List Char} (unreported : error.line = none)
      (first : error.firstLine? = some line) (missing : ¬ trim line <:+: source)

/-- Where an error is found, and when it is not. -/
structure Located (error : RuntimeError) (source : List Char) : Prop where
  /-- what is found is a place of the error -/
  isLocatedAt {range : Range} : error.locate? source = some range →
    ∃ line front back, error.IsLocatedAt source range line front back
  /-- nothing is found exactly if there is no place -/
  eq_none_iff : error.locate? source = none ↔ error.HasNoPlace source

theorem isLocatedAt_of_line (short : bytes source < UInt32.size)
    (reported : error.line = some number) (found : error.locate? source = some range) :
    ∃ line front back, error.IsLocatedAt source range line front back := by
  rw [locate?_of_line reported] at found
  simp only [Option.bind_eq_some_iff, Option.map_eq_some_iff] at found
  obtain ⟨_, needed, level, above, text, here, offset, at', rfl⟩ := found
  obtain ⟨line, first, rfl, solid⟩ := needle?_eq_some_iff.mp needed
  obtain ⟨before, after, stands, rfl⟩ := exists_standsFirst_of_findByte? at'
  have column : (columnOfByte text (bytes before)).word = .ofNat (units before) := by
    rw [stands.split, List.append_assoc, columnOfByte_append, Tally.word_ofNat]
  have fits := Nat.lt_of_le_of_lt (LineTable.units_le_of_lineText? here) short
  rw [stands.split, units_append, units_append] at fits
  rw [column]
  have start : (UInt32.ofNat (units before)).toNat = units before :=
    UInt32.toNat_ofNat_of_lt' (by omega)
  have covers := covers_onLine (stands.split ▸ here) (by omega) start
  obtain ⟨front, back, under⟩ := covers.exists_standsUnder short
  refine ⟨line, front, back, first, solid, under, fun unreported => ?_, fun {other} same => ?_⟩
  · rw [reported] at unreported
    cases unreported
  · rw [reported] at same
    cases same
    exact ⟨sub?_one_eq_some_iff.mp above, text, before, after, here, stands, start⟩

theorem isLocatedAt_of_no_line (short : bytes source < UInt32.size)
    (free : ∀ line, error.firstLine? = some line → '\r' ∉ line)
    (unreported : error.line = none) (found : error.locate? source = some range) :
    ∃ line front back, error.IsLocatedAt source range line front back := by
  rw [locate?_of_no_line unreported] at found
  simp only [Option.bind_eq_some_iff, Option.map_eq_some_iff] at found
  obtain ⟨_, needed, offset, at', rfl⟩ := found
  obtain ⟨line, first, rfl, solid⟩ := needle?_eq_some_iff.mp needed
  obtain ⟨front, back, stands, rfl⟩ := exists_standsFirst_of_findByte? at'
  have under := standsUnder_positionOfOffset short (break_notMem_needle first (free line first))
    solid stands.split
  refine ⟨line, front, back, first, solid, under, fun _ => stands, fun {number} reported => ?_⟩
  rw [unreported] at reported
  cases reported

theorem hasNoPlace_of_locate? (short : bytes source < UInt32.size)
    (absent : error.locate? source = none) : error.HasNoPlace source := by
  cases given : error.expression with
  | none => exact .noExpression given
  | some expression =>
    cases head : (terminalLines expression.toList).head? with
    | none => exact .noLine given head
    | some line =>
      have first : error.firstLine? = some line := by rw [firstLine?, given, Option.bind_some, head]
      by_cases blank : trim line = []
      · exact .blank first (trim_eq_nil_iff.mp blank)
      have needed := needle?_eq_some_iff.mpr ⟨line, first, rfl, blank⟩
      cases reported : error.line with
      | none =>
        rw [locate?_of_no_line reported, needed, Option.bind_some, Option.map_eq_none_iff,
          findByte?_eq_none_iff_not_infix] at absent
        exact .missing reported first absent
      | some number =>
        rw [locate?_of_line reported, needed, Option.bind_some] at absent
        cases above : number.sub? 1 with
        | none => exact .zero (sub?_one_eq_none_iff.mp above ▸ reported)
        | some level =>
          have counted := sub?_one_eq_some_iff.mp above
          rw [above, Option.bind_some] at absent
          cases here : (LineTable.ofChars source).lineText? level.toNat with
          | none =>
            have outside := (LineTable.lineText?_eq_none_iff short).mp here
            exact .behind reported (by omega)
          | some text =>
            rw [here, Option.bind_some, Option.map_eq_none_iff,
              findByte?_eq_none_iff_not_infix] at absent
            refine .missingOnLine reported first ?_ absent
            rw [← counted, Nat.add_sub_cancel, here]

theorem locate?_of_hasNoPlace (short : bytes source < UInt32.size)
    (absent : error.HasNoPlace source) : error.locate? source = none := by
  have noNeedle : error.needle? = none → error.locate? source = none := fun none => by
    rw [locate?, none]
    rfl
  cases absent with
  | noExpression absent =>
    refine noNeedle ?_
    rw [needle?_eq, firstLine?, absent, Option.bind_none, Option.bind_none]
  | noLine given empty =>
    refine noNeedle ?_
    rw [needle?_eq, firstLine?, given, Option.bind_some, empty, Option.bind_none]
  | blank first blank =>
    refine noNeedle (needle?_eq_none_iff.mpr fun line same => ?_)
    rw [first] at same
    cases same
    exact blank
  | zero reported =>
    rw [locate?_of_line reported, sub?_one_eq_none_iff.mpr rfl]
    simp only [Option.bind_none, Option.bind_fun_none]
  | behind reported behind =>
    rw [locate?_of_line reported, Option.bind_eq_none_iff]
    intro needle _
    rw [Option.bind_eq_none_iff]
    intro level above
    have counted := sub?_one_eq_some_iff.mp above
    rw [(LineTable.lineText?_eq_none_iff short).mpr (by omega), Option.bind_none]
  | missingOnLine reported first here missing =>
    rw [locate?_of_line reported, Option.bind_eq_none_iff]
    intro needle needed
    obtain ⟨line, same, rfl, -⟩ := needle?_eq_some_iff.mp needed
    cases first.symm.trans same
    rw [Option.bind_eq_none_iff]
    intro level above
    rw [← sub?_one_eq_some_iff.mp above, Nat.add_sub_cancel] at here
    rw [here, Option.bind_some, Option.map_eq_none_iff, findByte?_eq_none_iff_not_infix]
    exact missing
  | missing unreported first missing =>
    rw [locate?_of_no_line unreported, Option.bind_eq_none_iff]
    intro needle needed
    obtain ⟨line, same, rfl, -⟩ := needle?_eq_some_iff.mp needed
    cases first.symm.trans same
    rw [Option.map_eq_none_iff, findByte?_eq_none_iff_not_infix]
    exact missing

/-- In a document that is no longer than coordinates reach, an error whose expression has no carriage
return in its first line is found where that line stands first. -/
theorem located (short : bytes source < UInt32.size)
    (free : ∀ line, error.firstLine? = some line → '\r' ∉ line) : error.Located source := by
  refine ⟨fun {range} found => ?_, hasNoPlace_of_locate? short, locate?_of_hasNoPlace short⟩
  cases reported : error.line with
  | none => exact isLocatedAt_of_no_line short free reported found
  | some number => exact isLocatedAt_of_line short reported found

/-- A document with all kinds of breaks, in which an expression stands on two lines. -/
def repeatedCall : List Char := "a\r\n\t🚀hd(xs)\rb hd(xs), hd(xs)\n".toList

/-- An error in that expression. -/
def emptyListError (line : Option Coordinate) : RuntimeError where
  message := "hd of empty list"
  line := line
  expression := some " hd(xs) \n  where xs = []"

/-- It is found behind a tab and a character of two units, or on the reported line. -/
theorem located_repeatedCall :
    bytes repeatedCall < UInt32.size ∧
      (∀ line, (emptyListError none).firstLine? = some line → '\r' ∉ line) ∧
      (emptyListError none).Located repeatedCall ∧
      (emptyListError none).locate? repeatedCall = some (.onLine 1 3 6) ∧
      (emptyListError (some 3)).locate? repeatedCall = some (.onLine 2 2 6) ∧
      (emptyListError (some 1)).locate? repeatedCall = none := by
  have short : bytes repeatedCall < UInt32.size := by decide +kernel
  have free : ∀ line, (emptyListError none).firstLine? = some line → '\r' ∉ line := by
    have first : (emptyListError none).firstLine? = some " hd(xs) ".toList := by decide +kernel
    intro line same
    cases first.symm.trans same
    decide +kernel
  exact ⟨short, free, located short free, by decide +kernel, by decide +kernel, by decide +kernel⟩

end RuntimeError

end LinksBinding
