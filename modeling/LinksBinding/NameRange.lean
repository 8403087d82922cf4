import LinksBinding.SourceView
import LinksBinding.Syntax.Tree

/-!
# Where names stand

The editor range of the name that a node introduces or uses. The span of a variable or binder
starts with its name. The span of a function declaration starts with the keyword in front of the
name, and with annotations and unusual spacing the distance between the two is not fixed, so the
name is looked up in the text when it is not where the keyword would leave it.
-/

namespace LinksBinding

open Text

namespace SourceView

/-- Whether a line has `name` as the rest of a word at a column. -/
def nameStandsAt (line name : List Char) (column : Coordinate) : Bool :=
  match (byteOfColumn? line column).bind (splitAtByte? line) with
  | some (_, after) =>
    match stripStart? name after with
    | some behind => isWordEdge behind.head?
    | none => false
  | none => false

theorem nameStandsAt_iff {line name : List Char} {column : Coordinate} :
    nameStandsAt line name column = true ↔ ∃ before after, line = before ++ name ++ after ∧
      units before = column.toNat ∧ isWordEdge after.head? = true := by
  rw [nameStandsAt]
  constructor
  · intro stands
    split at stands
    · rename_i before rest split
      obtain ⟨rfl, width⟩ := splitAtColumn?_eq_some_iff.mp split
      split at stands
      · rename_i after found
        rw [stripStart?_eq_some_iff.mp found]
        exact ⟨before, after, (List.append_assoc ..).symm, width, stands⟩
      · cases stands
    · cases stands
  · rintro ⟨before, after, rfl, width, ends⟩
    rw [List.append_assoc, splitAtColumn?_eq_some_iff.mpr ⟨rfl, width⟩]
    simpa only [stripStart?_eq_some_iff.mpr rfl] using ends

/-- The range of the name of a function declaration. A function whose first line the wrapper adds
has none. -/
def functionNameRange? (view : SourceView) (span : ParserSpan) (name : String) : Option Range :=
  let length := columnCount name
  let guess := span.start.advance functionKeywordWidth
  match view.shift.editorLine? span.start.line with
  | none => none
  | some line =>
    match view.lineText? span.start.line with
    | none => some (view.run guess length)
    | some text =>
      if nameStandsAt text name.toList (view.editorColumn guess.column) then
        some (view.run guess length)
      else
        let start := (byteOfColumn? text (view.editorColumn span.start.column)).getD 0
        (findWord? text name.toList start).map fun offset =>
          .onLine line (columnOfByte text offset).word length

/-- The range of the name that a node introduces or uses. -/
def nameRange? (view : SourceView) (tree : SyntaxTree) (id : NodeId) : Option Range :=
  match tree.get? id with
  | some node =>
    match node.kind with
    | .function name => view.functionNameRange? node.span name
    | .variable name | .binder name _ =>
      some (view.run node.span.start (columnCount name))
    | _ => none
  | none => none

/-- A name stands on one line. -/
theorem exists_onLine_of_nameRange? {view : SourceView} {tree : SyntaxTree} {id : NodeId}
    {range : Range} (named : view.nameRange? tree id = some range) :
    ∃ line character length, range = .onLine line character length := by
  rw [nameRange?] at named
  split at named
  · split at named
    · rw [functionNameRange?] at named
      split at named
      · cases named
      · split at named
        · cases named
          exact ⟨_, _, _, rfl⟩
        · split at named
          · cases named
            exact ⟨_, _, _, rfl⟩
          · obtain ⟨offset, -, rfl⟩ := Option.map_eq_some_iff.mp named
            exact ⟨_, _, _, rfl⟩
    · cases named
      exact ⟨_, _, _, rfl⟩
    · cases named
      exact ⟨_, _, _, rfl⟩
    · cases named
  · cases named

theorem isSingleLine_of_nameRange? {view : SourceView} {tree : SyntaxTree} {id : NodeId}
    {range : Range} (named : view.nameRange? tree id = some range) :
    range.isSingleLine = true := by
  obtain ⟨line, character, length, rfl⟩ := exists_onLine_of_nameRange? named
  exact beq_self_eq_true line

end SourceView

end LinksBinding
