import LinksBinding.Analysis
import LinksBinding.Highlight.Narrow
import LinksBinding.Runs

/-!
# Classifying a document

Gives each node to highlight its classes and each class its range. Declarations and uses are
classed by the binding index, all other nodes by what they are. A range is highlighted once; the
class that comes first in document order keeps it.
-/

namespace LinksBinding

/-- A range with its class. -/
structure Highlight where
  /-- what is highlighted -/
  range : Range
  /-- its class -/
  cls : Classification
  deriving DecidableEq, Repr

/-- The classes of a node that has no name. -/
def Kind.classes : Kind → List Classification
  | .constant (.string _) => [.stringConstant]
  | .constant (.number _) => [.numberConstant]
  | .projection _ => [.projection]
  | .constructor _ => [.variantTag]
  | .element _ => [.markupDeclaration, .markupTag]
  | .attribute _ => [.markupAttribute]
  | _ => []

/-- The class of a declaration. -/
def declarationClass (kind : DeclarationKind) (used : Bool) : Classification :=
  match kind.isFunction, used with
  | true, true => .usedFunction
  | true, false => .unusedFunction
  | false, true => .usedVariable
  | false, false => .unusedVariable

/-- The class of a use. -/
def occurrenceClass : OccurrenceKind → Classification
  | .variable => .usedVariable
  | .call | .handlerReference => .functionCall

namespace Analysis

/-- The classes of a node. -/
def classesOf (analysis : Analysis) (id : NodeId) : List Classification :=
  match analysis.index.declarationAt? id with
  | some declaration => [declarationClass declaration.kind (analysis.index.isUsed id)]
  | none =>
    match analysis.index.occurrenceAt? id with
    | some occurrence => [occurrenceClass occurrence.kind]
    | none =>
      match analysis.tree.kind? id with
      | some kind => kind.classes
      | none => []

/-- The highlighted ranges of a node. Empty ranges are left out. -/
def highlightsOf (analysis : Analysis) (id : NodeId) : List Highlight :=
  (analysis.classesOf id).filterMap fun cls => do
    let range ← analysis.view.narrow? analysis.tree id cls
    if range.start < range.stop then return ⟨range, cls⟩ else none

/-- The highlighted ranges of the document, by position. -/
def highlights (analysis : Analysis) : List Highlight :=
  let found := analysis.tree.documentOrder.flatMap analysis.highlightsOf
  firstOfRuns (fun a b => a.range == b.range)
    (found.mergeSort fun a b => a.range.precedesOrEquals b.range)

end Analysis

end LinksBinding
