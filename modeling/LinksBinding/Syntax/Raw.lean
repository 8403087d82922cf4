import LinksBinding.Json.Printer
import LinksBinding.Json.Reader
import LinksBinding.ParserSpan
import LinksBinding.Syntax.TreeError

/-!
# The parser's output

A raw tree is what the parser writes: for each node an array of its shape, its label, its span and
its children. A leaf may leave out the children or write null for them.

`RawTree.ofJson` reads that form and reports the first defect in document order; `RawTree.toJson`
writes it. A node of leaf shape is written without children, whatever it has.
-/

namespace LinksBinding

open Json

/-- A tree as the parser reports it. -/
inductive RawTree where
  /-- a node and its children in document order -/
  | node (shape : Shape) (label : String) (span : ParserSpan) (children : List RawTree)
  deriving Repr

namespace RawTree

/-- A node of leaf shape without children. -/
def leaf (label : String) (span : ParserSpan) : RawTree := .node .leaf label span []

/-- A node of interior shape. -/
def interior (label : String) (span : ParserSpan) (children : List RawTree) : RawTree :=
  .node .interior label span children

/-- The children of a node. -/
def children : RawTree → List RawTree
  | .node _ _ _ children => children

/-- The label of a node. -/
def label : RawTree → String
  | .node _ label _ _ => label

/-- The span of a node. -/
def span : RawTree → ParserSpan
  | .node _ _ span _ => span

/-- The shape of a node. -/
def shape : RawTree → Shape
  | .node shape _ _ _ => shape

/-! ## Reading -/

/-- Reads the word for a shape. -/
def shapeOf? : Json → Option Shape
  | .string "Interior" => some .interior
  | .string "Leaf" => some .leaf
  | _ => none

/-- Reads shape, label and span of the node at `path`. -/
def headOf (path : NodePath) (shape label span : Json) :
    Except TreeError (Shape × String × ParserSpan) :=
  match shapeOf? shape with
  | none => .error (.malformedNode path .unknownShape)
  | some shape =>
    match label with
    | .string label =>
      match span with
      | .string encoded =>
        match ParserSpan.decode? encoded with
        | some span => .ok (shape, label, span)
        | none => .error (.invalidSpan path encoded)
      | _ => .error (.malformedNode path .spanNotText)
    | _ => .error (.malformedNode path .labelNotText)

mutual
/-- Reads the node at `path`. -/
def ofJsonAt (path : NodePath) (value : Json) : Except TreeError RawTree :=
  if path.length > maxTreeDepth then .error (.tooDeep path.length)
  else match value with
    | .array [shape, label, span] =>
      (headOf path shape label span).map fun (shape, label, span) => .node shape label span []
    | .array [shape, label, span, children] =>
      match headOf path shape label span with
      | .error e => .error e
      | .ok (shape, label, span) =>
        match children with
        | .null => .ok (.node shape label span [])
        | .array items => (ofJsonList path 0 items).map (.node shape label span)
        | _ => .error (.malformedNode path .childrenNotAnArray)
    | .array _ => .error (.malformedNode path .wrongLength)
    | _ => .error (.malformedNode path .notAnArray)

/-- Reads the children of the node at `path`, the first of them number `position`. -/
def ofJsonList (path : NodePath) (position : Nat) : List Json → Except TreeError (List RawTree)
  | [] => .ok []
  | item :: rest =>
    match ofJsonAt (position :: path) item with
    | .error e => .error e
    | .ok tree => (ofJsonList path (position + 1) rest).map (tree :: ·)
end

/-- Reads a tree. -/
def ofJson (value : Json) : Except TreeError RawTree := ofJsonAt [] value

/-- Reads a tree from a text. -/
def parse (text : String) : Except TreeError RawTree :=
  match Json.parse? text with
  | some value => ofJson value
  | none => .error .invalidJson

/-! ## Writing -/

/-- The word for a shape. -/
def shapeText : Shape → String
  | .interior => "Interior"
  | .leaf => "Leaf"

mutual
/-- A tree as a value. -/
def toJson : RawTree → Json
  | .node .interior label span children =>
    .array [.string (shapeText .interior), .string label, .string span.encode,
      .array (toJsonList children)]
  | .node .leaf label span _ =>
    .array [.string (shapeText .leaf), .string label, .string span.encode]

/-- Trees as values. -/
def toJsonList : List RawTree → List Json
  | [] => []
  | tree :: rest => toJson tree :: toJsonList rest
end

/-- A tree as a text. -/
def text (tree : RawTree) : String := tree.toJson.compress

/-! ## Shapes of whole trees -/

mutual
/-- The tree without the children of nodes of leaf shape: what its written form keeps. -/
def pruneLeaves : RawTree → RawTree
  | .node .leaf label span _ => .node .leaf label span []
  | .node .interior label span children => .node .interior label span (pruneLeavesList children)

/-- `pruneLeaves` for each of the trees. -/
def pruneLeavesList : List RawTree → List RawTree
  | [] => []
  | tree :: rest => pruneLeaves tree :: pruneLeavesList rest
end

mutual
/-- Number of nodes. -/
def size : RawTree → Nat
  | .node _ _ _ children => sizeOfList children + 1

/-- Number of nodes of all the trees. -/
def sizeOfList : List RawTree → Nat
  | [] => 0
  | tree :: rest => size tree + sizeOfList rest
end

mutual
/-- The most steps from the root to a node. -/
def height : RawTree → Nat
  | .node _ _ _ children => heightOfList children

/-- The most steps from a parent of the trees to one of their nodes; 0 when there is no tree. -/
def heightOfList : List RawTree → Nat
  | [] => 0
  | tree :: rest => max (height tree + 1) (heightOfList rest)
end

/-- `depth` interior nodes of one label and span around a tree, each the only child of the one
outside it. -/
def nest (label : String) (span : ParserSpan) : (depth : Nat) → RawTree → RawTree
  | 0, tree => tree
  | depth + 1, tree => nest label span depth (.interior label span [tree])

end RawTree

end LinksBinding
