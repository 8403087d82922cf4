import LinksBinding.BindingIndex
import LinksBinding.NameRange
import LinksBinding.Options
import LinksBinding.Syntax.Repair

/-!
# The analysis of a document

Everything that questions about one document are answered from: its text, its repaired tree and
the binding index of that tree. An analysis is built once and never changes; a new version of the
document gets a new one.
-/

namespace LinksBinding

/-- The analysis of a document. -/
structure Analysis where
  /-- the document -/
  uri : String
  /-- its text -/
  view : SourceView
  /-- its tree -/
  tree : SyntaxTree
  /-- what its names refer to -/
  index : BindingIndex
  /-- the options it was analysed with -/
  options : Options
  deriving Repr

namespace Analysis

/-- The analysis of a document whose tree is built. -/
def ofTree (uri : String) (view : SourceView) (tree : SyntaxTree) (options : Options) : Analysis :=
  ⟨uri, view, tree, .ofTree tree options.wrapperName, options⟩

/-- The analysis of a document for which the parser reports `raw`. -/
def ofRaw (uri source : String) (raw : RawTree) (options : Options) : Except BuildFailure Analysis :=
  let view := .ofSource source options.positionShift
  (SyntaxTree.build view raw).map fun tree => ofTree uri view tree options

/-- The analysis of a document from the text of the parser's output. -/
def ofText (uri source treeText : String) (options : Options) : Except BuildFailure Analysis :=
  match RawTree.parse treeText with
  | .error error => .error (.refused error)
  | .ok raw => ofRaw uri source raw options

/-- The text of the document. -/
def source (analysis : Analysis) : String := String.ofList analysis.view.source

/-- The text of an editor line, empty past the last one. -/
def lineText (analysis : Analysis) (line : Coordinate) : String :=
  String.ofList ((analysis.view.lines.lineText? line.toNat).getD [])

/-- The range of the name that a node introduces or uses. -/
def nameRange? (analysis : Analysis) (id : NodeId) : Option Range :=
  analysis.view.nameRange? analysis.tree id

/-- The editor range of a node. -/
def range? (analysis : Analysis) (id : NodeId) : Option Range :=
  (analysis.tree.span? id).map analysis.view.shift.toEditorRange

/-- The nodes that have a name in the document, with its range, in document order. -/
def nameRanges (analysis : Analysis) : List (NodeId × Range) :=
  analysis.tree.documentOrder.filterMap fun id => (analysis.nameRange? id).map (id, ·)

/-- The last of the named nodes whose name is at a position. -/
def nodeAt? (names : List (NodeId × Range)) (position : Position) : Option NodeId :=
  (names.filter fun (_, range) => range.contains position).getLast?.map (·.1)

/-- The node whose name is at a position. Of several the last in document order is meant, so that
a binder in the head of a function goes before the function. -/
def identifierAt? (analysis : Analysis) (position : Position) : Option NodeId :=
  nodeAt? analysis.nameRanges position

/-- The declaration that the name at a position stands for. -/
def declarationAt? (analysis : Analysis) (position : Position) : Option Declaration :=
  (analysis.identifierAt? position).bind analysis.index.declarationFor?

end Analysis

end LinksBinding
