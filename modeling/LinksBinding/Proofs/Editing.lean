import LinksBinding.Proofs.Narrowing
import LinksBinding.Proofs.Navigation
import LinksBinding.Proofs.Words

/-!
# A rename replaces the name

The edits of a rename are ranges, and what they change depends on what stands under the ranges in the
source. Where the parser reports names as they are written (`Spelled`), the old name stands under
each of them. No two of them overlap, since uses are whole words. So what a rename leads to is the
source with the new name in the places of the old one, and with everything between these places as it
was (`rename_replaces`).

Ranges are told in 32-bit coordinates, so what the parser has to report is told by ranges, too: a name
that is under one, and for a function a line that is under one (`SourceView.IsLine`), since the name
is looked for on that line. In a document of less than 2 ^ 32 bytes every line is.

Edits are applied from the last to the first, as the ranges in front of an edit stay what they are.
-/

namespace LinksBinding

open Text

/-- The name that the span of a node starts with: that of a variable or binder. -/
def Kind.leadingName? : Kind → Option String
  | .variable name | .binder name _ => some name
  | _ => none

theorem Kind.identifier?_of_leadingName? {kind : Kind} {name : String}
    (leads : kind.leadingName? = some name) : kind.identifier? = some name := by
  cases kind with
  | «variable» _ | binder _ _ => exact leads
  | _ => cases leads

theorem SourceView.nameRange?_of_leadingName? {view : SourceView} {tree : SyntaxTree} {id : NodeId}
    {node : SyntaxNode} {name : String} (found : tree.get? id = some node)
    (leads : node.kind.leadingName? = some name) :
    view.nameRange? tree id = some (view.run node.span.start (columnCount name)) := by
  obtain ⟨shape, kind, span, parent, children⟩ := node
  rw [nameRange?, found]
  cases kind with
  | «variable» _ | binder _ _ =>
    cases leads
    rfl
  | _ => cases leads

/-! ## Ranges with one word under them -/

section Covers

variable {lines : Nat → Option (List Char)} {range : Range} {before word after : List Char}

/-- Two ranges with one word under them are the same or do not overlap, if the word is whole under
one of them. -/
theorem Covers.eq_or_apart {range' : Range} {before' after' : List Char}
    (named : ∀ c ∈ word, isNameChar c = true)
    (covers : Covers lines range before word after)
    (covers' : Covers lines range' before' word after') (whole : IsWhole before' after') :
    range = range' ∨ range.stop ≤ range'.start ∨ range'.stop ≤ range.start := by
  by_cases level : range.start.line = range'.start.line
  · have split : before ++ word ++ after = before' ++ word ++ after' := by
      have line := covers.line
      rw [level, covers'.line, Option.some_inj] at line
      exact line.symm
    rw [Range.eq_iff, Position.eq_iff, Position.eq_iff, Position.le_iff, Position.le_iff,
      covers.level, covers'.level, level, covers.start, covers'.start, covers.stop, covers'.stop]
    rcases Text.eq_or_apart named whole split with rfl | ⟨gap, rfl⟩ | ⟨gap, rfl⟩
    · exact .inl ⟨⟨rfl, rfl⟩, rfl, rfl⟩
    · simp only [units_append, true_and]
      omega
    · simp only [units_append, true_and]
      omega
  · have level := mt UInt32.toNat_inj.mp level
    rw [Position.le_iff, Position.le_iff, covers.level, covers'.level]
    omega

/-- Ranges in order with one word under them do not overlap. -/
theorem Covers.apart_of_precedes {range' : Range} {before' after' : List Char}
    (named : ∀ c ∈ word, isNameChar c = true)
    (covers : Covers lines range before word after)
    (covers' : Covers lines range' before' word after')
    (whole : IsWhole before after ∨ IsWhole before' after') (order : range.Precedes range') :
    range.start < range'.start ∧ range.stop ≤ range'.start := by
  have places : range = range' ∨ range.stop ≤ range'.start ∨ range'.stop ≤ range.start := by
    rcases whole with whole | whole
    · rcases covers'.eq_or_apart named covers whole with same | right | left
      · exact .inl same.symm
      · exact .inr (.inr right)
      · exact .inr (.inl left)
    · exact covers.eq_or_apart named covers' whole
  have level := congrArg UInt32.toNat covers.level
  have level' := congrArg UInt32.toNat covers'.level
  have length := covers.stop
  have length' := covers'.stop
  rw [← covers.start] at length
  rw [← covers'.start] at length'
  simp only [Range.Precedes, Range.eq_iff, Position.lt_iff, Position.le_iff,
    Position.eq_iff] at places order ⊢
  omega

end Covers

/-! ## Applying edits -/

/-- The text with `new` in place of what stands between two byte offsets. -/
def replaceBytes? (text : List Char) (start stop : Nat) (new : List Char) : Option (List Char) := do
  let (before, _) ← splitAtByte? text start
  let (_, after) ← splitAtByte? text stop
  return before ++ new ++ after

theorem replaceBytes?_append (before old after new : List Char) :
    replaceBytes? (before ++ old ++ after) (bytes before) (bytes before + bytes old) new =
      some (before ++ new ++ after) := by
  have front : splitAtByte? (before ++ old ++ after) (bytes before) = some (before, old ++ after) :=
    splitAtByte?_eq_some_iff.mpr ⟨List.append_assoc .., rfl⟩
  have back : splitAtByte? (before ++ old ++ after) (bytes before + bytes old) =
      some (before ++ old, after) :=
    splitAtByte?_eq_some_iff.mpr ⟨rfl, bytes_append ..⟩
  rw [replaceBytes?, front, back]
  rfl

namespace SourceView

/-- Applies an edit to a text that is the source up to the end of the edit. -/
def applyEdit? (view : SourceView) (edit : TextEdit) (text : List Char) : Option (List Char) := do
  let start ← offsetAt? view.source edit.range.start
  let stop ← offsetAt? view.source edit.range.stop
  replaceBytes? text start stop edit.newText.toList

/-- Applies edits to the source, from the last to the first. -/
def applyEdits? (view : SourceView) (edits : List TextEdit) : Option (List Char) :=
  edits.foldr (fun edit text => text.bind (view.applyEdit? edit)) (some view.source)

end SourceView

/-- From a byte offset of a document on, a source has `old` under each of the edits, a result has
`new` in these places, and between them both are the same. -/
inductive Rewritten (document old new : List Char) :
    Nat → List TextEdit → List Char → List Char → Prop where
  /-- behind the last edit nothing is changed -/
  | done (offset : Nat) (rest : List Char) : Rewritten document old new offset [] rest rest
  /-- in front of an edit nothing is changed -/
  | edit {offset : Nat} {edit : TextEdit} {edits : List TextEdit} {source result : List Char}
      (gap : List Char)
      (starts : offsetAt? document edit.range.start = some (offset + bytes gap))
      (stops : offsetAt? document edit.range.stop = some (offset + bytes gap + bytes old))
      (behind : Rewritten document old new (offset + bytes gap + bytes old) edits source result) :
      Rewritten document old new offset (edit :: edits) (gap ++ old ++ source) (gap ++ new ++ result)

/-- Edits lead to the result if all of them have the same text. -/
theorem applyEdits?_of_rewritten {view : SourceView} {old new : List Char} {offset : Nat}
    {edits : List TextEdit} {rest result : List Char}
    (rewritten : Rewritten view.source old new offset edits rest result)
    (texts : ∀ edit ∈ edits, edit.newText.toList = new) {front : List Char}
    (ahead : bytes front = offset) (whole : view.source = front ++ rest) :
    view.applyEdits? edits = some (front ++ result) := by
  induction rewritten generalizing front with
  | done offset rest => exact congrArg some whole
  | @edit offset edit edits source result gap starts stops behind ih =>
    -- the edits behind leave everything up to the end of this one
    have rest : view.applyEdits? edits = some (front ++ gap ++ old ++ result) := by
      refine ih (fun other mem => texts other (List.mem_cons_of_mem _ mem)) ?_ ?_
      · rw [bytes_append, bytes_append, ahead]
      · simp only [whole, List.append_assoc]
    have here : view.applyEdits? (edit :: edits) =
        (view.applyEdits? edits).bind (view.applyEdit? edit) := rfl
    have replaced := replaceBytes?_append (front ++ gap) old result new
    rw [bytes_append, ahead] at replaced
    rw [here, rest, Option.bind_some, SourceView.applyEdit?, starts, stops,
      texts edit List.mem_cons_self]
    simpa only [Option.bind_eq_bind, Option.bind_some, List.append_assoc] using replaced

/-- There is a result if the edits have the word under them, in order. -/
theorem exists_rewritten {view : SourceView} {old : List Char} (new : List Char)
    {edits : List TextEdit}
    (under : ∀ edit ∈ edits, view.Underlies old edit.range)
    (apart : edits.Pairwise fun a b => a.range.stop ≤ b.range.start) {front rest : List Char}
    (whole : view.source = front ++ rest)
    (ahead : ∀ edit ∈ edits, ∀ offset,
      offsetAt? view.source edit.range.start = some offset → bytes front ≤ offset) :
    ∃ result, Rewritten view.source old new (bytes front) edits rest result := by
  induction edits generalizing front rest with
  | nil => exact ⟨rest, .done _ rest⟩
  | cons edit edits ih =>
    obtain ⟨front', back, whole', starts, stops⟩ := under edit List.mem_cons_self
    obtain ⟨first, apart⟩ := List.pairwise_cons.mp apart
    obtain ⟨gap, rfl, rfl⟩ := exists_gap_of_bytes_le
      (whole.symm.trans (whole'.trans (List.append_assoc ..)))
      (ahead edit List.mem_cons_self _ starts)
    obtain ⟨result, behind⟩ := ih (fun other mem => under other (List.mem_cons_of_mem _ mem)) apart
      whole' (fun other mem offset at' => by
        rw [bytes_append]
        exact offsetAt?_mono (first other mem) stops at')
    rw [bytes_append, bytes_append] at behind
    rw [bytes_append] at starts stops
    rw [← List.append_assoc]
    exact ⟨gap ++ new ++ result, .edit gap starts stops behind⟩

/-! ## Names as they are written -/

/-- From a position of the document to another one on its line, a name stands as a whole word of the
line. -/
def SourceView.StandsWhole (view : SourceView) (name : String) (position : Position) : Prop :=
  ∃ range before after, range.start = position ∧
    Covers (lineAt? view.source) range before name.toList after ∧ IsWhole before after

instance (view : SourceView) (name : String) (position : Position) :
    Decidable (view.StandsWhole name position) :=
  decidable_of_iff
    (∃ line ∈ lineAt? view.source position.line.toNat,
      ∃ cut ∈ (byteOfColumn? line position.character).bind (splitAtByte? line),
        ∃ after ∈ stripStart? name.toList cut.2,
          IsWhole cut.1 after ∧ units cut.1 + unitLength name < UInt32.size) <| by
    constructor
    · rintro ⟨line, text, ⟨before, rest⟩, cut, after, stripped, whole, fits⟩
      obtain ⟨rfl, width⟩ := splitAtColumn?_eq_some_iff.mp cut
      obtain rfl := stripStart?_eq_some_iff.mp stripped
      exact ⟨.onLine position.line position.character (.ofNat (unitLength name)), before, after, rfl,
        covers_onLine (by rw [List.append_assoc]; exact text) fits width.symm, whole⟩
    · rintro ⟨range, before, after, rfl, covers, whole⟩
      refine ⟨_, covers.line, (before, name.toList ++ after),
        splitAtColumn?_eq_some_iff.mpr ⟨List.append_assoc .., covers.start.symm⟩, after,
        stripStart?_eq_some_iff.mpr rfl, whole, ?_⟩
      have fits := range.stop.character.toNat_lt
      rwa [covers.stop] at fits

/-- A parser line is a line of the document: all of it is under a range, and the line table has its
text. -/
def SourceView.IsLine (view : SourceView) (number : Coordinate) : Prop :=
  ∃ range text, view.shift.editorLine? number = some range.start.line ∧
    view.lineText? number = some text ∧ Covers (lineAt? view.source) range [] text []

/-- In a document that is no longer than 32-bit offsets reach, every parser line with a text is one
of its lines. -/
theorem SourceView.isLine_of_lineText? {view : SourceView} (lined : view.Lined)
    (short : bytes view.source < UInt32.size) {number : Coordinate}
    (there : (view.lineText? number).isSome = true) : view.IsLine number := by
  obtain ⟨text, there⟩ := Option.isSome_iff_exists.mp there
  obtain ⟨line, has⟩ := hasLine_of_lineText? there
  have stands := has.stands
  have fits := LineTable.units_le_of_lineText? stands
  rw [lined] at fits
  rw [lined.lineText?_eq short] at stands
  refine ⟨.onLine line 0 (.ofNat (units text)), text, has.here, there,
    covers_onLine (by rw [List.nil_append, List.append_nil]; exact stands) ?_ rfl⟩
  rw [units, Nat.zero_add]
  exact Nat.lt_of_le_of_lt fits short

namespace Analysis

open SyntaxTree

/-- The parser reports names as they are written. -/
structure Spelled (analysis : Analysis) : Prop where
  /-- names are made of name characters -/
  names : ∀ node ∈ analysis.tree.nodes, ∀ name ∈ node.kind.identifier?,
    name.toList.all isNameChar = true
  /-- where a variable or binder starts, its name stands as a whole word -/
  words : ∀ node ∈ analysis.tree.nodes, ∀ name ∈ node.kind.leadingName?,
    analysis.view.StandsWhole name (analysis.view.shift.toEditor node.span.start)
  /-- a function declaration starts on a line of the document -/
  lines : ∀ declaration ∈ analysis.index.declarations, declaration.kind.isFunction = true →
    ∀ span ∈ analysis.tree.span? declaration.node, analysis.view.IsLine span.start.line

variable {analysis : Analysis} {range : Range}

/-- The name of a function is under its range. -/
theorem covers_of_function {id : NodeId} {node : SyntaxNode} {name : String}
    (found : analysis.tree.get? id = some node) (is : node.kind = .function name)
    (line : analysis.view.IsLine node.span.start.line)
    (named : analysis.nameRange? id = some range) :
    ∃ before after, Covers (lineAt? analysis.view.source) range before name.toList after := by
  obtain ⟨whole, text, here, there, covers⟩ := line
  obtain ⟨number, has⟩ := SourceView.hasLine_of_lineText? there
  obtain rfl := Option.some_inj.mp (has.here.symm.trans here)
  rw [nameRange?, SourceView.nameRange?, found] at named
  simp only [is] at named
  obtain ⟨before, after, marks, -⟩ := SourceView.exists_of_functionNameRange? has named
  -- the line table has the line as it is, so the name is on the line of the document
  obtain rfl := Option.some_inj.mp (has.stands.symm.trans marks.text)
  have fits : whole.stop.character.toNat < UInt32.size := whole.stop.character.toNat_lt
  have line := covers.line
  rw [covers.stop] at fits
  rw [List.nil_append, List.append_nil] at line
  simp only [units, units_append] at fits
  rw [marks.range_eq]
  exact ⟨before, after,
    covers_onLine line (by omega) (UInt32.toNat_ofNat_of_lt' (by omega))⟩

namespace Spelled

variable (spelled : analysis.Spelled)

include spelled

/-- The name of a variable or binder is a whole word under its range. -/
theorem covers_of_leadingName? {id : NodeId} {node : SyntaxNode} {name : String}
    (found : analysis.tree.get? id = some node) (leads : node.kind.leadingName? = some name)
    (named : analysis.nameRange? id = some range) :
    ∃ before after, Covers (lineAt? analysis.view.source) range before name.toList after ∧
      IsWhole before after := by
  obtain ⟨place, before, after, start, covers, whole⟩ :=
    spelled.words node (Array.mem_of_getElem? found) name leads
  obtain rfl : analysis.view.run node.span.start (columnCount name) = range :=
    Option.some_inj.mp ((SourceView.nameRange?_of_leadingName? found leads).symm.trans named)
  have fits := place.stop.character.toNat_lt
  rw [covers.stop] at fits
  have line := covers.line
  have column := covers.start
  rw [start] at line column
  rw [columnCount_eq]
  exact ⟨before, after, covers_onLine line fits column, whole⟩

end Spelled

/-! ## Renaming -/

namespace Grounded

theorem lined (grounded : analysis.Grounded) : analysis.view.Lined := by
  obtain ⟨source, viewed⟩ := grounded.viewed
  rw [viewed]
  rfl

variable (grounded : analysis.Grounded) {declaration : Declaration}
  (declared : declaration ∈ analysis.index.declarations)

include grounded declared

/-- The node of a declaration is a function or a binder of its name. -/
theorem exists_node_of_declared : ∃ node, analysis.tree.get? declaration.node = some node ∧
    (node.kind = .function declaration.name ∧ declaration.kind.isFunction = true ∨
      node.kind.leadingName? = some declaration.name) := by
  obtain ⟨node, found, ⟨is, kind⟩ | ⟨role, is, -⟩⟩ := grounded.exists_of_declared declared
  · exact ⟨node, found, .inl ⟨is, by rw [kind]; rfl⟩⟩
  · exact ⟨node, found, .inr (by rw [is]; rfl)⟩

/-- The uses of a declaration have its name. -/
theorem exists_node_of_use {occurrence : Occurrence}
    (uses : occurrence ∈ analysis.index.occurrencesOf declaration.node) :
    ∃ node, analysis.tree.get? occurrence.node = some node ∧
      node.kind.leadingName? = some declaration.name := by
  obtain ⟨view, raw, built⟩ := grounded.built
  have c := grounded.coherent
  rw [c.usesOf, List.mem_filter, beq_iff_eq] at uses
  obtain ⟨listed, target⟩ := uses
  rw [c.target occurrence listed] at target
  obtain ⟨r, resolved, here⟩ := Option.map_eq_some_iff.mp target
  have used := c.usedName occurrence listed
  obtain ⟨-, kind, is, same⟩ := BindingIndex.declaredName?_of_resolve? built used resolved
  have name := c.declaredName declaration declared
  rw [← here, is, Option.bind_some, same, Option.some_inj] at name
  obtain ⟨node, found, is⟩ := Option.map_eq_some_iff.mp used
  exact ⟨node, found, by rw [is, name]; rfl⟩

variable (spelled : analysis.Spelled)

include spelled

theorem all_isNameChar_of_declared : ∀ c ∈ declaration.name.toList, isNameChar c = true := by
  obtain ⟨node, found, kind⟩ := grounded.exists_node_of_declared declared
  have named : node.kind.identifier? = some declaration.name := by
    rcases kind with ⟨is, -⟩ | leads
    · rw [is]
      rfl
    · exact Kind.identifier?_of_leadingName? leads
  exact List.all_eq_true.mp (spelled.names node (Array.mem_of_getElem? found) _ named)

/-- The name of a declaration is under the range of its node and under those of its uses, and under
the latter as a whole word. -/
theorem covers_of_mem_referenceRanges {named : NamedRange}
    (mem : named ∈ analysis.referenceRanges declaration.node) :
    ∃ before after,
      Covers (lineAt? analysis.view.source) named.range before declaration.name.toList after ∧
      (named.isDefinition = false → IsWhole before after) := by
  rcases mem_referenceRanges_iff.mp mem with ⟨range, defines⟩ | ⟨occurrence, uses, range, -⟩
  · rw [defines]
    obtain ⟨node, found, ⟨is, function⟩ | leads⟩ := grounded.exists_node_of_declared declared
    · have line := spelled.lines declaration declared function node.span (span?_of_get? found)
      obtain ⟨before, after, covers⟩ := covers_of_function found is line range
      exact ⟨before, after, covers, nofun⟩
    · obtain ⟨before, after, covers, -⟩ := spelled.covers_of_leadingName? found leads range
      exact ⟨before, after, covers, nofun⟩
  · obtain ⟨node, found, leads⟩ := grounded.exists_node_of_use declared uses
    obtain ⟨before, after, covers, whole⟩ := spelled.covers_of_leadingName? found leads range
    exact ⟨before, after, covers, fun _ => whole⟩

/-- References in order do not overlap. -/
theorem apart_of_mem_referenceRanges {a b : NamedRange}
    (mem : a ∈ analysis.referenceRanges declaration.node)
    (mem' : b ∈ analysis.referenceRanges declaration.node) (order : a.range.Precedes b.range) :
    a.range.start < b.range.start ∧ a.range.stop ≤ b.range.start := by
  obtain ⟨before, after, covers, use⟩ :=
    grounded.covers_of_mem_referenceRanges declared spelled mem
  obtain ⟨before', after', covers', use'⟩ :=
    grounded.covers_of_mem_referenceRanges declared spelled mem'
  refine covers.apart_of_precedes (grounded.all_isNameChar_of_declared declared spelled) covers'
    ?_ order
  -- only one of two ranges can be the declaration, the other is a use
  cases defines : a.isDefinition with
  | false => exact .inl (use defines)
  | true =>
    cases defines' : b.isDefinition with
    | false => exact .inr (use' defines')
    | true =>
      have declares : ∀ named ∈ analysis.referenceRanges declaration.node,
          named.isDefinition = true → analysis.nameRange? declaration.node = some named.range := by
        intro named mem defines
        rcases mem_referenceRanges_iff.mp mem with ⟨range, -⟩ | ⟨_, -, -, uses⟩
        · exact range
        · rw [defines] at uses
          cases uses
      have same := (declares a mem defines).symm.trans (declares b mem' defines')
      exact absurd (Option.some_inj.mp same) ((Range.precedes_iff _ _).mp order).2

end Grounded

/-- The edits of a rename put a new name in the places of a declaration and of its uses. -/
structure Replaces (analysis : Analysis) (declaration : Declaration) (newName : String)
    (edit : WorkspaceEdit) : Prop where
  /-- they are for the document -/
  uri : edit.uri = analysis.uri
  /-- each puts the new name -/
  newText : ∀ change ∈ edit.edits, change.newText = newName
  /-- each stays on a line -/
  oneLine : ∀ change ∈ edit.edits, change.range.isSingleLine = true
  /-- they ascend and do not overlap -/
  ascending : edit.edits.Pairwise fun a b =>
    a.range.start < b.range.start ∧ a.range.stop ≤ b.range.start
  /-- under each is the old name -/
  oldText : ∀ change ∈ edit.edits, analysis.view.textOn? change.range = some declaration.name
  /-- they are where the name of the declaration is, and the names of the uses that refer to it -/
  places : ∀ range, (∃ change ∈ edit.edits, change.range = range) ↔
    analysis.nameRange? declaration.node = some range ∨
      ∃ occurrence ∈ analysis.index.occurrences,
        analysis.index.target? occurrence.node = some declaration.node ∧
          analysis.nameRange? occurrence.node = some range
  /-- each place is edited once -/
  once : (edit.edits.map (·.range)).Nodup
  /-- they lead to the source with the new name for the old one in these places -/
  applied : ∃ result, analysis.view.applyEdits? edit.edits = some result ∧
    Rewritten analysis.view.source declaration.name.toList newName.toList 0 edit.edits
      analysis.view.source result

namespace Grounded

variable (grounded : analysis.Grounded) (spelled : analysis.Spelled) {declaration : Declaration}
  (declared : declaration ∈ analysis.index.declarations)

include grounded spelled declared

/-- The name of a declaration underlies what a rename of it edits. -/
theorem underlies_of_mem_renameRanges
    (mem : range ∈ renameRanges (analysis.referenceRanges declaration.node)) :
    analysis.view.Underlies declaration.name.toList range := by
  obtain ⟨named, listed, rfl⟩ := mem_renameRanges_iff.mp mem
  obtain ⟨before, after, covers, -⟩ :=
    grounded.covers_of_mem_referenceRanges declared spelled listed
  exact covers.underlies

/-- What a rename edits ascends, and no two of the ranges overlap. -/
theorem apart_renameRanges : (renameRanges (analysis.referenceRanges declaration.node)).Pairwise
    fun a b => a.start < b.start ∧ a.stop ≤ b.start := by
  refine (pairwise_renameRanges _).imp_of_mem fun mem mem' order => ?_
  obtain ⟨a, listed, rfl⟩ := mem_renameRanges_iff.mp mem
  obtain ⟨b, listed', rfl⟩ := mem_renameRanges_iff.mp mem'
  exact grounded.apart_of_mem_referenceRanges declared spelled listed listed' order

end Grounded

/-- The ranges of a rename are those of the declaration and of the uses that refer to it. -/
theorem Grounded.mem_renameRanges_iff (grounded : analysis.Grounded) {id : NodeId} :
    range ∈ renameRanges (analysis.referenceRanges id) ↔
      analysis.nameRange? id = some range ∨
        ∃ occurrence ∈ analysis.index.occurrences,
          analysis.index.target? occurrence.node = some id ∧
            analysis.nameRange? occurrence.node = some range := by
  rw [Analysis.mem_renameRanges_iff]
  simp only [mem_referenceRanges_iff, grounded.coherent.usesOf, List.mem_filter, beq_iff_eq]
  constructor
  · rintro ⟨named, ⟨here, -⟩ | ⟨occurrence, ⟨listed, target⟩, here, -⟩, rfl⟩
    · exact .inl here
    · exact .inr ⟨occurrence, listed, target, here⟩
  · rintro (here | ⟨occurrence, listed, target, here⟩)
    · exact ⟨⟨range, true⟩, .inl ⟨here, rfl⟩, rfl⟩
    · exact ⟨⟨range, false⟩, .inr ⟨occurrence, ⟨listed, target⟩, here, rfl⟩, rfl⟩

/-- Where names are as they are written, a rename replaces the name of the declaration that the
position stands for, and nothing else. -/
theorem rename_replaces {position : Position} {newName : String} {edit : WorkspaceEdit}
    (grounded : analysis.Grounded) (spelled : analysis.Spelled)
    (renamed : analysis.rename position newName = .ok edit) :
    ∃ declaration, analysis.declarationAt? position = some declaration ∧
      analysis.Replaces declaration (trimString newName) edit := by
  obtain ⟨-, declaration, found, -, rfl⟩ := rename_eq_ok_iff.mp renamed
  have declared := grounded.declared_of_declarationAt? found
  have apart := grounded.apart_renameRanges spelled declared
  -- every edit puts the new name on one of the ranges
  have edits : ∀ change ∈ (renameRanges (analysis.referenceRanges declaration.node)).map
      (TextEdit.mk · (trimString newName)),
      change.range ∈ renameRanges (analysis.referenceRanges declaration.node) ∧
        change.newText = trimString newName := by
    intro change mem
    obtain ⟨range, listed, rfl⟩ := List.mem_map.mp mem
    exact ⟨listed, rfl⟩
  have under : ∀ change ∈ (renameRanges (analysis.referenceRanges declaration.node)).map
      (TextEdit.mk · (trimString newName)),
      analysis.view.Underlies declaration.name.toList change.range := fun change mem =>
    grounded.underlies_of_mem_renameRanges spelled declared (edits change mem).1
  obtain ⟨result, rewritten⟩ := exists_rewritten (trimString newName).toList under
    (List.pairwise_map.mpr (apart.imp And.right)) (List.nil_append _).symm
    fun _ _ _ _ => Nat.zero_le _
  refine ⟨declaration, found, {
    uri := rfl
    newText := fun change mem => (edits change mem).2
    oneLine := fun change mem => ?_
    ascending := List.pairwise_map.mpr apart
    oldText := fun change mem => ?_
    places := fun range => ?_
    once := ?_
    applied := ⟨result, ?_, rewritten⟩ }⟩
  · rcases grounded.mem_renameRanges_iff.mp (edits change mem).1 with here | ⟨_, -, -, here⟩ <;>
      exact SourceView.isSingleLine_of_nameRange? here
  · rw [SourceView.textOn?_of_underlies (under change mem), String.ofList_toList]
  · rw [← grounded.mem_renameRanges_iff]
    simp
  · rw [List.map_map]
    refine List.pairwise_map.mpr (apart.imp fun {a b} order same => ?_)
    have same : a = b := same
    rw [same, Position.lt_iff] at order
    omega
  · exact applyEdits?_of_rewritten rewritten (fun change mem => by rw [(edits change mem).2])
      rfl rfl

theorem spelled_nestedCalls : nestedCallsAnalysis.Spelled where
  names := by decide +kernel
  words := by decide +kernel
  lines := by
    have lines : ∀ declaration ∈ nestedCallsAnalysis.index.declarations,
        declaration.kind.isFunction = true →
        ∀ span ∈ nestedCallsAnalysis.tree.span? declaration.node,
          (nestedCallsAnalysis.view.lineText? span.start.line).isSome = true := by decide +kernel
    intro declaration declared function span stands
    exact SourceView.isLine_of_lineText? (grounded_of_ofRaw ofRaw_nestedCalls).lined
      (by decide +kernel) (lines declaration declared function span stands)

/-- A rename at a call changes the name of the function and both calls, in front of which a character
of two UTF-16 units stands. -/
theorem replaces_nestedCalls :
    nestedCallsAnalysis.Grounded ∧ nestedCallsAnalysis.Spelled ∧
      nestedCallsAnalysis.rename ⟨1, 12⟩ "g'" =
        .ok ⟨"file:///nested.links", nestedCallsRanges.map (⟨·, "g'"⟩)⟩ ∧
      (∃ declaration, nestedCallsAnalysis.declarationAt? ⟨1, 12⟩ = some declaration ∧
        nestedCallsAnalysis.Replaces declaration (trimString "g'")
          ⟨"file:///nested.links", nestedCallsRanges.map (⟨·, "g'"⟩)⟩) ∧
      nestedCallsAnalysis.view.applyEdits? (nestedCallsRanges.map (⟨·, "g'"⟩)) =
        some "fun  g'(x) { x }\nprint(\"🚀\", g'(g'(1)));\n".toList :=
  have grounded := grounded_of_ofRaw ofRaw_nestedCalls
  ⟨grounded, spelled_nestedCalls, rename_nestedCalls,
    rename_replaces grounded spelled_nestedCalls rename_nestedCalls, by decide +kernel⟩

end Analysis

end LinksBinding
