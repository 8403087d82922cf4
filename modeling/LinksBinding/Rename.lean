import LinksBinding.Identifier
import LinksBinding.Navigation
import LinksBinding.Runs

/-!
# Renaming

A rename edits the declaration under the cursor and the uses that resolve to it, and nothing else:
declarations of the same name in other scopes and undefined uses of the name stay as they are.
-/

namespace LinksBinding

open Json Text

/-- Why a rename is refused. -/
inductive RenameError where
  /-- the new name is no identifier -/
  | notAnIdentifier (name : String)
  /-- there is nothing at the position that has a declaration -/
  | nothingToRename
  /-- the name in the declaration is not where it should be -/
  | declarationNotFound
  deriving DecidableEq, Repr

/-- The wording of a refusal. -/
def RenameError.message : RenameError → String
  | .notAnIdentifier name => "'" ++ name ++ "' is not a valid identifier."
  | .nothingToRename => "You cannot rename this element."
  | .declarationNotFound => "The declaration could not be located in the source."

/-- The replacement of a range by a text. -/
structure TextEdit where
  /-- what is replaced -/
  range : Range
  /-- what takes its place -/
  newText : String
  deriving DecidableEq, Repr

/-- An edit as a value. -/
def TextEdit.toJson (e : TextEdit) : Json :=
  .object [("range", e.range.toJson), ("newText", .string e.newText)]

/-- Edits to one document. -/
structure WorkspaceEdit where
  /-- the document -/
  uri : String
  /-- its edits in document order -/
  edits : List TextEdit
  deriving DecidableEq, Repr

namespace WorkspaceEdit

/-- The edits to a document, none to a document that is left alone. -/
def editsFor (edit : WorkspaceEdit) (uri : String) : List TextEdit :=
  if uri = edit.uri then edit.edits else []

/-- The edits as a value, by document. -/
def toJson (edit : WorkspaceEdit) : Json :=
  .object [("changes", .object [(edit.uri, .ofList TextEdit.toJson edit.edits)])]

end WorkspaceEdit

namespace Analysis

/-- The range of the name at a position, if it can be renamed. -/
def prepareRename? (analysis : Analysis) (position : Position) : Option Range := do
  let id ← analysis.identifierAt? position
  let _ ← analysis.index.declarationFor? id
  analysis.nameRange? id

/-- The ranges that a rename edits: those of the references in document order, each once. -/
def renameRanges (ranges : List NamedRange) : List Range :=
  firstOfRuns (· == ·) ((NamedRange.inOrder ranges).map (·.range))

/-- Renames what the name at a position stands for. White space around the new name is left out. -/
def rename (analysis : Analysis) (position : Position) (newName : String) :
    Except RenameError WorkspaceEdit :=
  let newName := trimString newName
  if isIdentifier newName then
    match analysis.declarationAt? position with
    | none => .error .nothingToRename
    | some declaration =>
      let ranges := analysis.referenceRanges declaration.node
      if ranges.any (·.isDefinition) then
        .ok ⟨analysis.uri, (renameRanges ranges).map (⟨·, newName⟩)⟩
      else .error .declarationNotFound
  else .error (.notAnIdentifier newName)

end Analysis

end LinksBinding
