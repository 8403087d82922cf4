import LinksBinding.Json.Record
import LinksBinding.Analysis
import LinksBinding.Library

/-!
# Hovering

What is shown for the name at a position: the head of a function, the kind of a variable, or the
type of a library function. A document's own declaration goes before the library.
-/

namespace LinksBinding

open Json

/-- What is shown for a name. -/
structure Hover where
  /-- paragraphs -/
  contents : List String
  /-- the name -/
  range : Option Range
  deriving DecidableEq, Repr

/-- What is shown, as a value. -/
def Hover.toJson (h : Hover) : Json :=
  .object [("contents", .ofList .string h.contents), ("range", .ofOption Range.toJson h.range)]

/-- Reads what is shown. -/
def Hover.ofJson? (value : Json) : Option Hover := do
  match ← parts? .complete ["contents", "range"] value with
  | [contents, range] =>
    return ⟨← required? strings? contents, ← optional? Range.ofJson? range⟩
  | _ => none

namespace SyntaxTree

/-- The name that a node binds. -/
def boundName? (tree : SyntaxTree) (id : NodeId) : Option String :=
  match tree.kind? id with
  | some (.binder name _) => some name
  | _ => none

/-- How a parameter is shown: by its name, a pattern by the names that it binds, and a pattern that
binds none by an underscore. -/
def parameterText (tree : SyntaxTree) (id : NodeId) : String :=
  match tree.boundName? id with
  | some name => name
  | none =>
    match (tree.preorder id).filterMap tree.boundName? with
    | [] => "_"
    | names => "(" ++ ", ".intercalate names ++ ")"

/-- The parameters in the first parameter group of a function, as they are shown. -/
def parameterTexts (tree : SyntaxTree) (id : NodeId) : List String :=
  match (tree.children id).find? (tree.hasKind Kind.isParameters) with
  | some params => (tree.children params).map tree.parameterText
  | none => []

/-- The head of a function declaration. -/
def signature? (tree : SyntaxTree) (id : NodeId) : Option String :=
  match tree.kind? id with
  | some (.function name) =>
    some ("fun " ++ name ++ "(" ++ ", ".intercalate (tree.parameterTexts id) ++ ")")
  | _ => none

end SyntaxTree

/-- A paragraph of program text. -/
def codeParagraph (text : String) : String := "```links\n" ++ text ++ "\n```"

namespace Analysis

/-- What is shown for a declaration. -/
def declarationContents? (analysis : Analysis) (declaration : Declaration) :
    Option (List String) := do
  let text ← match declaration.kind with
    | .function => analysis.tree.signature? declaration.node
    | .binder _ => some declaration.name
  return [codeParagraph text, "(" ++ declaration.kind.describe ++ ")"]

/-- What is shown for a name without a declaration, when the library has it. -/
def libraryContents? (name : String) : Option (List String) :=
  (Library.lookUp? name).map fun function =>
    [codeParagraph (function.name ++ " : " ++ function.signature), "(library function)"]

/-- What is shown for the name at a position. -/
def hover? (analysis : Analysis) (position : Position) : Option Hover := do
  let id ← analysis.identifierAt? position
  let contents ← match analysis.index.declarationFor? id with
    | some declaration => analysis.declarationContents? declaration
    | none => ((analysis.tree.kind? id).bind Kind.identifier?).bind libraryContents?
  return ⟨contents, analysis.nameRange? id⟩

end Analysis

end LinksBinding
