import LinksBinding.Proofs.Ancestry
import LinksBinding.Proofs.Lines
import LinksBinding.Syntax.Repair

/-!
# Repairing with word arithmetic

Repairing spans stops at a sum that overflows. This module tells what the repair comes to where it
does not stop: the same passes with word arithmetic (`repair`), which always come to a tree. A tree
that is built is repaired so (`exists_of_build`).

A checked computation is compared with a plain one through `GivesIf`, which passes through
everything that the repair is put together from; at each sum there is one condition to add.
-/

namespace LinksBinding

/-! ## Checked computations -/

/-- A checked computation has a result exactly if a condition holds, and then the given one. -/
def GivesIf {α : Type} (checked : Option α) (fits : Prop) (value : α) : Prop :=
  ∀ result, checked = some result ↔ fits ∧ result = value

namespace GivesIf

variable {α β ι : Type} {checked : Option α} {fits fits' : Prop} {value : α}

/-- What is not checked has its result, under any condition that holds. -/
theorem of_holds (value : α) (fit : fits) : GivesIf (some value) fits value := by
  intro result
  rw [Option.some.injEq, and_iff_right fit, eq_comm]

theorem congr (gives : GivesIf checked fits value) (same : fits ↔ fits') :
    GivesIf checked fits' value := by
  intro result
  rw [gives result, same]

theorem map (gives : GivesIf checked fits value) (f : α → β) :
    GivesIf (checked.map f) fits (f value) := by
  intro result
  rw [Option.map_eq_some_iff]
  constructor
  · rintro ⟨before, found, rfl⟩
    obtain ⟨fit, rfl⟩ := (gives before).mp found
    exact ⟨fit, rfl⟩
  · rintro ⟨fit, rfl⟩
    exact ⟨value, (gives value).mpr ⟨fit, rfl⟩, rfl⟩

/-- One checked computation behind another: both conditions have to hold. -/
theorem bind {next : α → Option β} {value' : β} (gives : GivesIf checked fits value)
    (further : GivesIf (next value) fits' value') :
    GivesIf (checked.bind next) (fits ∧ fits') value' := by
  intro result
  rw [Option.bind_eq_some_iff, and_assoc, ← further result]
  constructor
  · rintro ⟨before, found, after⟩
    obtain ⟨fit, rfl⟩ := (gives before).mp found
    exact ⟨fit, after⟩
  · rintro ⟨fit, after⟩
    exact ⟨value, (gives value).mpr ⟨fit, rfl⟩, after⟩

/-- A run of checked steps has a result exactly if each step fits where the plain steps before it
have led. -/
theorem foldlM {step? : α → ι → Option α} {step : α → ι → α} {fitsAt : α → ι → Prop}
    (gives : ∀ state item, GivesIf (step? state item) (fitsAt state item) (step state item))
    (items : List ι) (start : α) :
    GivesIf (items.foldlM step? start)
      (∀ front item back, items = front ++ item :: back → fitsAt (front.foldl step start) item)
      (items.foldl step start) := by
  induction items generalizing start with
  | nil =>
    refine .of_holds start fun front item back whole => ?_
    cases (List.append_eq_nil_iff.mp whole.symm).2
  | cons first rest ih =>
    rw [List.foldlM_cons]
    refine ((gives start first).bind (ih _)).congr ⟨fun ⟨fit, others⟩ front item back whole => ?_,
      fun each => ⟨each [] first rest rfl, fun front item back whole => ?_⟩⟩
    · rcases List.cons_eq_append_iff.mp whole with ⟨rfl, same⟩ | ⟨front, rfl, same⟩
      · obtain ⟨rfl, rfl⟩ := List.cons.inj same
        exact fit
      · exact others front item back same
    · exact each (first :: front) item back (by rw [whole, List.cons_append])

/-- Where it can be told ahead whether a step fits, it is enough that each of them does. -/
theorem foldlM_of_told {step? : α → ι → Option α} {step : α → ι → α} {fitsAt : α → ι → Prop}
    (gives : ∀ state item, GivesIf (step? state item) (fitsAt state item) (step state item))
    {items : List ι} {start : α} {fits : ι → Prop}
    (told : ∀ front item back, items = front ++ item :: back →
      (fitsAt (front.foldl step start) item ↔ fits item)) :
    GivesIf (items.foldlM step? start) (∀ item ∈ items, fits item) (items.foldl step start) := by
  refine (foldlM gives items start).congr
    ⟨fun each item mem => ?_, fun each front item back whole => ?_⟩
  · obtain ⟨front, back, whole⟩ := List.append_of_mem mem
    exact (told front item back whole).mp (each front item back whole)
  · exact (told front item back whole).mpr (each item (by rw [whole]; simp))

end GivesIf

/-- Counting has a result if the number is that of a coordinate. -/
theorem Tally.givesIf_ofNat (number : Nat) :
    GivesIf (ofNat number).checked? (number < UInt32.size) (.ofNat number) := by
  intro result
  rw [checked?_ofNat, Coordinate.ofNat?, Option.ite_none_right_eq_some, Option.some.injEq,
    eq_comm (a := result)]

/-- A checked sum is the plain sum if it fits. -/
theorem Coordinate.givesIf_add? (a b : Coordinate) :
    GivesIf (add? a b) (a.toNat + b.toNat < UInt32.size) (a + b) := by
  intro result
  rw [add?, Option.ite_none_right_eq_some, le_greatest_sub_iff, Option.some.injEq,
    eq_comm (a := result)]

namespace Text

/-- The first line of a text. -/
def firstLine (text : List Char) : List Char := (splitAtFeeds text).headD []

/-- The lines of a text behind its first that are not blank, each with how many lines below the
first it stands. -/
def laterLines (text : List Char) : List (List Char × Nat) :=
  ((splitAtFeeds text).tail.zipIdx 1).filter fun line => !line.1.all isBlank

/-- Nothing is left of a line exactly if it is blank. A carriage return at its end is blank. -/
theorem isEmpty_trimStart_dropReturn (line : List Char) :
    (trimStart (dropReturn line)).isEmpty = line.all isBlank := by
  rw [Bool.eq_iff_iff, List.isEmpty_iff, trimStart, List.dropWhile_eq_nil_iff, List.all_eq_true,
    dropReturn]
  split
  · rename_i returned
    have whole : line.dropLast ++ ['\r'] = line := List.dropLast_append_getLast? _ returned
    have blank : isBlank '\r' = true := by decide
    constructor
    · intro blanks c mem
      rw [← whole, List.mem_append, List.mem_singleton] at mem
      rcases mem with mem | rfl
      · exact blanks c mem
      · exact blank
    · exact fun blanks c mem => blanks c ((List.dropLast_sublist line).mem mem)
  · rfl

end Text

namespace SourceView

open Text

variable {view : SourceView}

/-- The position of the last quotation mark before `limit` and not before `floor`. A floor outside
the document counts as its start. -/
def closingQuote? (view : SourceView) (floor limit : ParserPosition) :
    Option ParserPosition := do
  let stop ← view.offsetOf? limit
  let start := (view.offsetOf? floor).getD 0
  let quote ← lastWithin? '"' start stop 0 view.source
  return view.positionAt quote

/-- The searches for a quotation mark do not overflow. -/
def QuoteFits (view : SourceView) (floor limit : ParserPosition) : Prop :=
  view.searchPosition limit ≠ .overflow ∧
    ∀ stop, view.offsetOf? limit = some stop → view.searchPosition floor ≠ .overflow

theorem givesIf_searchClosingQuote? (view : SourceView) (floor limit : ParserPosition) :
    GivesIf (view.searchClosingQuote? floor limit) (view.QuoteFits floor limit)
      (view.closingQuote? floor limit) := by
  unfold searchClosingQuote? closingQuote? QuoteFits offsetOf?
  cases view.searchPosition limit with
  | overflow => exact fun result => iff_of_false (by rintro ⟨⟩) fun fits => fits.1.1 rfl
  | absent => exact .of_holds none ⟨by rintro ⟨⟩, by rintro stop ⟨⟩⟩
  | found stop =>
    cases view.searchPosition floor with
    | overflow => exact fun result =>
      iff_of_false (by rintro ⟨⟩) fun fits => fits.1.2 stop rfl rfl
    | absent | found start =>
      simp only [ColumnSearch.checked?, ColumnSearch.offset?, Option.bind_eq_bind,
        Option.bind_some, Option.pure_def, Option.map_eq_bind]
      exact .of_holds _ ⟨by rintro ⟨⟩, fun stop _ => by rintro ⟨⟩⟩

end SourceView

namespace SyntaxTree

open Text

variable {tree other : SyntaxTree} {view : SourceView}

/-! ## Pieces -/

/-- The piece of `text` at a position. -/
def Piece.at (start : ParserPosition) (text : List Char) : Piece :=
  ⟨text, start, start.advance (.ofNat (units text))⟩

/-- The pieces for the lines of a text, the first of them on parser line `line`. A line starts at
its first character that is not white space; where that stands on its line is read off the
document, and lines without such a character give no piece. -/
def furtherPieces (view : SourceView) (line : Coordinate) : List (List Char) → List Piece
  | [] => []
  | text :: rest =>
    let others := furtherPieces view (line + 1) rest
    let text := trimStart (dropReturn text)
    if text.isEmpty then others
    else
      let indent := match view.lineText? line with
        | some source => units (source.takeWhile isBlank)
        | none => 0
      .at ⟨line, .ofNat indent + view.shift.column⟩ text :: others

/-- The pieces that a text at `start` is split into: its first line as it is, and the others. -/
def splitText (view : SourceView) (start : ParserPosition) (text : String) : Piece × List Piece :=
  match splitAtFeeds text.toList with
  | first :: rest => (.at start (dropReturn first), furtherPieces view (start.line + 1) rest)
  | [] => (.at start [], [])

theorem Piece.givesIf_at? (start : ParserPosition) (text : List Char) :
    GivesIf (Piece.at? start text) (units text < UInt32.size) (.at start text) := by
  rw [Piece.at?, tally_eq]
  exact (Tally.givesIf_ofNat _).map _

/-- Number of columns that the document is indented by on a parser line. -/
def indentUnits (view : SourceView) (line : Coordinate) : Nat :=
  match view.lineText? line with
  | some source => units (source.takeWhile isBlank)
  | none => 0

theorem indentOn_eq (view : SourceView) (line : Coordinate) :
    indentOn view line = .ofNat (indentUnits view line) := by
  unfold indentOn indentUnits
  cases view.lineText? line with
  | none => rfl
  | some source =>
    have column := columnOfByte_append (source.takeWhile isBlank) (source.dropWhile isBlank)
    rwa [List.takeWhile_append_dropWhile] at column

/-- The sums fit for a line of a text that starts on line `start`. The line comes with how many
lines below that it stands. -/
structure LineFits (view : SourceView) (start : Coordinate) (line : List Char × Nat) : Prop where
  /-- it stands on a line with a number -/
  number : start.toNat + (.ofNat line.2 : Coordinate).toNat < UInt32.size
  /-- it starts in a column with a number -/
  column : indentUnits view (start + .ofNat line.2) + view.shift.column.toNat < UInt32.size
  /-- it is no longer than a line can be -/
  width : units (trimStart (dropReturn line.1)) < UInt32.size

theorem lineFits_iff {start : Coordinate} {line : List Char × Nat} :
    LineFits view start line ↔ start.toNat + (.ofNat line.2 : Coordinate).toNat < UInt32.size ∧
      indentUnits view (start + .ofNat line.2) + view.shift.column.toNat < UInt32.size ∧
      units (trimStart (dropReturn line.1)) < UInt32.size :=
  ⟨fun ⟨number, column, width⟩ => ⟨number, column, width⟩,
    fun ⟨number, column, width⟩ => ⟨number, column, width⟩⟩

/-- The sums for all pieces of a text fit. -/
structure TextFits (view : SourceView) (start : ParserPosition) (text : String) : Prop where
  /-- those for its first line -/
  first : units (dropReturn (firstLine text.toList)) < UInt32.size
  /-- those for its later lines that are not blank -/
  later : ∀ line ∈ laterLines text.toList, LineFits view start.line line

/-- The column of a piece is that of the first character of its line. -/
theorem givesIf_column (view : SourceView) (line : Coordinate) :
    GivesIf ((indentOn view line).checked?.bind (·.add? view.shift.column))
      (indentUnits view line + view.shift.column.toNat < UInt32.size)
      (.ofNat (indentUnits view line) + view.shift.column) := by
  rw [indentOn_eq]
  refine ((Tally.givesIf_ofNat (indentUnits view line)).bind
    (Coordinate.givesIf_add? _ view.shift.column)).congr
    ⟨fun ⟨fits, sum⟩ => ?_, fun sum => ⟨by omega, ?_⟩⟩
  · rwa [UInt32.toNat_ofNat_of_lt' fits] at sum
  · rwa [UInt32.toNat_ofNat_of_lt' (by omega)]

theorem givesIf_furtherPiece? (view : SourceView) (start : Coordinate) (line : List Char × Nat) :
    GivesIf (furtherPiece? view start line.2 (trimStart (dropReturn line.1)))
      (LineFits view start line)
      (.at ⟨start + .ofNat line.2,
          .ofNat (indentUnits view (start + .ofNat line.2)) + view.shift.column⟩
        (trimStart (dropReturn line.1))) := by
  have piece : furtherPiece? view start line.2 (trimStart (dropReturn line.1)) =
      (start.add? (.ofNat line.2)).bind fun number =>
        ((indentOn view number).checked?.bind (·.add? view.shift.column)).bind fun column =>
          Piece.at? ⟨number, column⟩ (trimStart (dropReturn line.1)) := by
    simp only [furtherPiece?, Option.bind_eq_bind, Option.bind_assoc]
  rw [piece]
  exact ((Coordinate.givesIf_add? _ _).bind
    ((givesIf_column view _).bind (Piece.givesIf_at? _ _))).congr lineFits_iff.symm

/-- The plain pieces, told with the indentation of the line. -/
theorem furtherPieces_cons (line : Coordinate) (text : List Char) (rest : List (List Char)) :
    furtherPieces view line (text :: rest) =
      if text.all isBlank then furtherPieces view (line + 1) rest
      else .at ⟨line, .ofNat (indentUnits view line) + view.shift.column⟩
        (trimStart (dropReturn text)) :: furtherPieces view (line + 1) rest := by
  rw [furtherPieces, isEmpty_trimStart_dropReturn]
  rfl

theorem givesIf_furtherPieces? (view : SourceView) (start : Coordinate) (number : Nat)
    (lines : List (List Char)) :
    GivesIf (furtherPieces? view start number lines)
      (∀ line ∈ (lines.zipIdx number).filter fun line => !line.1.all isBlank,
        LineFits view start line)
      (furtherPieces view (start + .ofNat number) lines) := by
  induction lines generalizing number with
  | nil => exact .of_holds [] (List.forall_mem_nil _)
  | cons text rest ih =>
    have next : start + .ofNat number + 1 = start + .ofNat (number + 1) := by
      rw [UInt32.ofNat_add, UInt32.add_assoc]
      rfl
    rw [furtherPieces?, furtherPieces_cons, List.zipIdx_cons, List.filter_cons, next,
      isEmpty_trimStart_dropReturn]
    cases blank : text.all isBlank with
    | true => exact ih (number + 1)
    | false =>
      refine ((givesIf_furtherPiece? view start (text, number)).bind
        ((ih (number + 1)).map _)).congr ?_
      simp only [Bool.not_false, if_true, List.forall_mem_cons]

theorem givesIf_splitText? (view : SourceView) (start : ParserPosition) (text : String) :
    GivesIf (splitText? view start text) (TextFits view start text)
      (splitText view start text) := by
  have whole : TextFits view start text ↔
      units (dropReturn (firstLine text.toList)) < UInt32.size ∧
        ∀ line ∈ laterLines text.toList, LineFits view start.line line :=
    ⟨fun ⟨first, later⟩ => ⟨first, later⟩, fun ⟨first, later⟩ => ⟨first, later⟩⟩
  obtain ⟨first, rest, cut⟩ := List.exists_cons_of_ne_nil (splitAtFeeds_ne_nil text.toList)
  refine GivesIf.congr ?_ whole.symm
  simp only [splitText?, splitText, firstLine, laterLines, cut]
  exact (Piece.givesIf_at? start (dropReturn first)).bind
    ((givesIf_furtherPieces? view start.line 1 rest).map _)

/-! ## Nodes -/

/-- Gives the pieces of one attribute's value their spans. The first starts behind the attribute's
name, an equals sign and a quotation mark. -/
def repairAttribute (view : SourceView) (tree : SyntaxTree) (id : NodeId) : SyntaxTree :=
  match tree.get? id with
  | some ⟨_, .attribute name, span, _, pieces⟩ =>
    let limit := tree.quoteLimit id span
    let closing := (view.closingQuote? span.start limit).getD limit
    tree.respanPieces closing (span.start.advance (.ofNat (unitLength name + 2))) pieces
  | _ => tree

/-- Gives the pieces of all attribute values their spans. -/
def repairAttributes (view : SourceView) (tree : SyntaxTree) : SyntaxTree :=
  (tree.documentOrder.filter (tree.hasKind Kind.isAttribute)).foldl (repairAttribute view) tree

/-- Splits one node into its lines. -/
def splitNode (view : SourceView) (tree : SyntaxTree) (id : NodeId) : SyntaxTree :=
  match tree.get? id with
  | none => tree
  | some node =>
    match node.kind.text? with
    | none => tree
    | some text => tree.putPieces id node (splitText view node.span.start text)

/-- Splits all strings and texts of several lines. The root stays whole. -/
def splitLiterals (view : SourceView) (tree : SyntaxTree) : SyntaxTree :=
  (tree.documentOrder.filter fun id => id != root && tree.hasKind Kind.runsOverLines id).foldl
    (splitNode view) tree

/-- The tree with its spans repaired. -/
def repair (view : SourceView) (tree : SyntaxTree) : SyntaxTree :=
  (tree.repairAttributes view).splitLiterals view

/-! ## Where the sums fit -/

/-- What stands in front of the value of an attribute is no longer than a line can be. -/
def NameFits (tree : SyntaxTree) (id : NodeId) : Prop :=
  ∀ name, tree.kind? id = some (.attribute name) → unitLength name + 2 < UInt32.size

/-- The search for the closing quotation mark of an attribute does not overflow. -/
def MarkFits (view : SourceView) (tree : SyntaxTree) (id : NodeId) : Prop :=
  ∀ node, tree.get? id = some node → node.kind.isAttribute = true →
    view.QuoteFits node.span.start (tree.quoteLimit id node.span)

/-- The sums for splitting a node fit. -/
def SplitFits (view : SourceView) (tree : SyntaxTree) (id : NodeId) : Prop :=
  ∀ node, tree.get? id = some node → ∀ text, node.kind.text? = some text →
    TextFits view node.span.start text

/-- The value of an attribute starts two columns behind its name. -/
theorem givesIf_valueColumn? (name : String) :
    GivesIf (valueColumn? name) (unitLength name + 2 < UInt32.size)
      (.ofNat (unitLength name + 2)) := by
  have two : (2 : Coordinate).toNat = 2 := rfl
  rw [valueColumn?, tally_eq, UInt32.ofNat_add]
  refine ((Tally.givesIf_ofNat (unitLength name)).bind (Coordinate.givesIf_add? _ 2)).congr
    ⟨fun ⟨fits, sum⟩ => ?_, fun sum => ⟨Nat.lt_of_le_of_lt (Nat.le_add_right ..) sum, ?_⟩⟩
  · rwa [UInt32.toNat_ofNat_of_lt' fits, two] at sum
  · rwa [UInt32.toNat_ofNat_of_lt' (Nat.lt_of_le_of_lt (Nat.le_add_right ..) sum), two]

theorem givesIf_repairAttribute? (view : SourceView) (tree : SyntaxTree) (id : NodeId) :
    GivesIf (repairAttribute? view tree id) (NameFits tree id ∧ MarkFits view tree id)
      (repairAttribute view tree id) := by
  unfold repairAttribute? repairAttribute NameFits MarkFits
  cases found : tree.get? id with
  | none =>
    refine .of_holds tree ⟨fun name is => ?_, fun _ is => absurd is.symm (Option.some_ne_none _)⟩
    rw [kind?, found] at is
    cases is
  | some node =>
    obtain ⟨shape, kind, span, parent, pieces⟩ := node
    simp only [kind?_of_get? found, Option.some.injEq, forall_eq']
    cases kind with
    | «attribute» name =>
      simp only [Kind.attribute.injEq, forall_eq', Kind.isAttribute, forall_const]
      exact (givesIf_valueColumn? name).bind
        ((view.givesIf_searchClosingQuote? span.start (tree.quoteLimit id span)).map _)
    | _ => exact .of_holds tree ⟨fun name is => (nomatch is), fun is => (nomatch is)⟩

theorem givesIf_splitNode? (view : SourceView) (tree : SyntaxTree) (id : NodeId) :
    GivesIf (splitNode? view tree id) (SplitFits view tree id) (splitNode view tree id) := by
  unfold splitNode? splitNode SplitFits
  cases found : tree.get? id with
  | none => exact .of_holds tree fun _ is => absurd is.symm (Option.some_ne_none _)
  | some node =>
    simp only [Option.some.injEq, forall_eq']
    cases texted : node.kind.text? with
    | none => exact .of_holds tree fun _ is => absurd is.symm (Option.some_ne_none _)
    | some text =>
      simp only [Option.some.injEq, forall_eq']
      exact (givesIf_splitText? view node.span.start text).map (tree.putPieces id node)

/-! ## Trees that are built -/

/-- Where no sum overflows, attributes are repaired as with word arithmetic. -/
theorem eq_repairAttributes_of_repairAttributes? (fits : tree.repairAttributes? view = some other) :
    other = tree.repairAttributes view :=
  ((GivesIf.foldlM (givesIf_repairAttribute? view) _ _ other).mp fits).2

/-- Texts are split as with word arithmetic. -/
theorem eq_splitLiterals_of_splitLiterals? (fits : tree.splitLiterals? view = some other) :
    other = tree.splitLiterals view :=
  ((GivesIf.foldlM (givesIf_splitNode? view) _ _ other).mp fits).2

theorem eq_repair_of_repair? (fits : tree.repair? view = some other) :
    other = tree.repair view := by
  obtain ⟨repaired, first, second⟩ := Option.bind_eq_some_iff.mp fits
  rw [eq_splitLiterals_of_splitLiterals? second, eq_repairAttributes_of_repairAttributes? first]
  rfl

theorem build_eq_ok_iff {raw : RawTree} : build view raw = .ok tree ↔
    ∃ laid, ofRaw raw = .ok laid ∧ laid.repair? view = some tree := by
  rw [build]
  cases ofRaw raw with
  | error error => simp
  | ok laid => cases repaired : laid.repair? view <;> simp [repaired]

theorem build_eq_refused_iff {raw : RawTree} {error : TreeError} :
    build view raw = .error (.refused error) ↔ ofRaw raw = .error error := by
  rw [build]
  cases ofRaw raw with
  | error error => simp
  | ok laid => cases repaired : laid.repair? view <;> simp [repaired]

theorem build_eq_overflow_iff {raw : RawTree} : build view raw = .error .overflow ↔
    ∃ laid, ofRaw raw = .ok laid ∧ laid.repair? view = none := by
  rw [build]
  cases ofRaw raw with
  | error error => simp
  | ok laid => cases repaired : laid.repair? view <;> simp [repaired]

/-- A tree that is built is a tree that is laid out and repaired. -/
theorem exists_of_build {raw : RawTree} (built : build view raw = .ok tree) :
    ∃ laid, ofRaw raw = .ok laid ∧ tree = laid.repair view := by
  obtain ⟨laid, reported, fits⟩ := build_eq_ok_iff.mp built
  exact ⟨laid, reported, eq_repair_of_repair? fits⟩

@[simp] theorem size_repairAttribute (view : SourceView) (tree : SyntaxTree) (id : NodeId) :
    (tree.repairAttribute view id).size = tree.size := by
  unfold repairAttribute
  split
  · exact size_respanPieces ..
  · rfl

end SyntaxTree

end LinksBinding
