import LinksBinding.Analysis
import LinksBinding.Diagnostic
import LinksBinding.Library

/-!
# Structural checks

Three checks of the names of a document, each on its own: names that are used and not defined,
names that are declared twice, and calls with the wrong number of arguments. A check gives
findings at nodes; `diagnostics` places them on the ranges of names and puts them in order.
-/

namespace LinksBinding

/-- A problem at a node. -/
structure Finding where
  /-- the node -/
  anchor : NodeId
  /-- how severe it is -/
  category : Category
  /-- the number of its kind -/
  code : Coordinate
  /-- what is wrong -/
  message : String
  /-- what to do about it -/
  hint : String
  deriving DecidableEq, Repr

/-- The finding of a kind of problem at a node. -/
def Finding.ofTemplate (anchor : NodeId) (template : MessageTemplate) (arguments : List String) :
    Finding :=
  ⟨anchor, template.category, template.code, fill template.message arguments,
    fill template.hint arguments⟩

namespace Analysis

/-! ## Undefined names -/

/-- Whether a use of a name that resolves to nothing is a problem: the name is in no library, and
it is not called or handed over while a function of that name exists anywhere in the document. -/
def isUndefined (analysis : Analysis) (occurrence : Occurrence) : Bool :=
  !Library.knows occurrence.name && !analysis.options.isExtraBuiltin occurrence.name &&
    (occurrence.kind == .variable || !analysis.index.isKnownFunction occurrence.name)

/-- The finding for an undefined name. -/
def undefinedFinding (occurrence : Occurrence) : Finding :=
  let template := match occurrence.kind with
    | .variable => MessageTemplate.undefinedVariable
    | .call | .handlerReference => MessageTemplate.undefinedFunction
  .ofTemplate occurrence.node template [occurrence.name]

/-- The names that are used and not defined, in document order. -/
def undefinedNames (analysis : Analysis) : List Finding :=
  (analysis.index.unresolved.filter analysis.isUndefined).map undefinedFinding

/-! ## Duplicate declarations -/

/-- What declarations are grouped by: the name, and where their visibility ends. -/
def groupKey (declaration : Declaration) : String × ParserPosition :=
  (declaration.name, declaration.validity.stop)

/-- The nodes of the declarations in groups. -/
def declarationGroups (analysis : Analysis) : Table (String × ParserPosition) (Array NodeId) :=
  .grouped groupKey (·.node) analysis.index.declarations

/-- The findings for a group of declarations: every member is one, if there are several. -/
def groupFindings : (String × ParserPosition) × Array NodeId → List Finding
  | ((name, _), nodes) =>
    if nodes.size > 1 then
      nodes.toList.map fun node => .ofTemplate node .duplicateDeclaration [name]
    else []

/-- The findings for groups of declarations that come in any order, in the order of their nodes. -/
def duplicatesIn (groups : List ((String × ParserPosition) × Array NodeId)) : List Finding :=
  (groups.flatMap groupFindings).mergeSort (·.anchor ≤ ·.anchor)

/-- The declarations that share their name and the end of their visibility with another. -/
def duplicateDeclarations (analysis : Analysis) : List Finding :=
  duplicatesIn analysis.declarationGroups.bindings

/-! ## Argument counts -/

/-- Whether a call is the handler of a formlet, which passes it a further argument. -/
def isPlacementHandler (tree : SyntaxTree) (call : NodeId) : Bool :=
  ((tree.parent? call).any (tree.hasKind (· == .formletPlacement))) &&
    tree.childPosition? call == some 1

/-- The finding for a call whose number of arguments is not that of the function's parameters. -/
def argumentCountFinding? (analysis : Analysis) (occurrence : Occurrence) : Option Finding := do
  let declaration ← analysis.index.declarationFor? occurrence.node
  let expected ← declaration.parameterCount
  let actual ← occurrence.argumentCount
  if occurrence.kind != .call || expected == actual ||
      occurrence.call.any (isPlacementHandler analysis.tree) then none
  else
    return .ofTemplate occurrence.node .argumentCountMismatch
      [occurrence.name, toString expected, toString actual]

/-- The calls with the wrong number of arguments, in document order. -/
def argumentCountMismatches (analysis : Analysis) : List Finding :=
  analysis.index.occurrences.filterMap analysis.argumentCountFinding?

/-! ## Diagnostics -/

/-- Where a finding is shown: on the name of its node, else on the whole node. -/
def anchorRange? (analysis : Analysis) (anchor : NodeId) : Option Range :=
  analysis.nameRange? anchor <|> analysis.range? anchor

/-- A finding as a diagnostic. -/
def toDiagnostic (analysis : Analysis) (finding : Finding) : Diagnostic :=
  .withHint finding.category finding.code finding.message finding.hint
    ((analysis.anchorRange? finding.anchor).getD ⟨⟨0, 0⟩, ⟨0, 0⟩⟩) analysis.uri

/-- The findings of all checks. -/
def findings (analysis : Analysis) : List Finding :=
  analysis.undefinedNames ++ analysis.duplicateDeclarations ++ analysis.argumentCountMismatches

/-- The problems of a document in order. -/
def diagnostics (analysis : Analysis) : List Diagnostic :=
  Diagnostic.inOrder (analysis.findings.map analysis.toDiagnostic)

/-- The diagnostics are those of the findings. -/
theorem mem_diagnostics (analysis : Analysis) (d : Diagnostic) :
    d ∈ analysis.diagnostics ↔ ∃ finding ∈ analysis.findings, analysis.toDiagnostic finding = d := by
  simp [diagnostics, Diagnostic.inOrder, List.mem_mergeSort]

end Analysis

end LinksBinding
