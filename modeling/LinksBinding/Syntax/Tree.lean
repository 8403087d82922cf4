import LinksBinding.ParserSpan
import LinksBinding.Syntax.Kind

/-!
# Syntax trees

The tree that names are resolved in. Its nodes stand in one table and refer to one another by
number, downwards to their children and upwards to their parent, so that a scope is found by
climbing. The root is node 0, and a node comes behind its parent in the table (`IsTree` states
all of what holds of the trees that are built).

Document order is preorder. `walk` lists subtrees in that order and may leave out what lies below
chosen nodes; `preorder` is the walk that leaves out nothing. A walk works off a stack of nodes to be
visited.
-/

namespace LinksBinding

/-- The number of a node. -/
abbrev NodeId := Nat

/-- A node of a syntax tree. -/
structure SyntaxNode where
  /-- as the parser reports it -/
  shape : Shape
  /-- what the node is -/
  kind : Kind
  /-- where it stands -/
  span : ParserSpan
  /-- the node it is a child of -/
  parent : Option NodeId
  /-- its children in document order -/
  children : List NodeId
  deriving DecidableEq, Repr

/-- A syntax tree: the table of its nodes. -/
structure SyntaxTree where
  /-- the nodes by their numbers -/
  nodes : Array SyntaxNode
  deriving DecidableEq, Repr

namespace SyntaxTree

/-- The number of the root. -/
def root : NodeId := 0

/-- Number of nodes. -/
def size (tree : SyntaxTree) : Nat := tree.nodes.size

/-- A node, `none` for a number that is not in the table. -/
def get? (tree : SyntaxTree) (id : NodeId) : Option SyntaxNode := tree.nodes[id]?

/-- What a node is. -/
def kind? (tree : SyntaxTree) (id : NodeId) : Option Kind := (tree.get? id).map (·.kind)

/-- Where a node stands. -/
def span? (tree : SyntaxTree) (id : NodeId) : Option ParserSpan := (tree.get? id).map (·.span)

/-- The parent of a node. -/
def parent? (tree : SyntaxTree) (id : NodeId) : Option NodeId := (tree.get? id).bind (·.parent)

/-- The children of a node in document order. -/
def children (tree : SyntaxTree) (id : NodeId) : List NodeId :=
  match tree.get? id with
  | some node => node.children
  | none => []

/-- Whether the node exists and its kind satisfies `p`. -/
def hasKind (tree : SyntaxTree) (p : Kind → Bool) (id : NodeId) : Bool := (tree.kind? id).any p

/-! ## Changing nodes -/

/-- The tree with one node changed. -/
def modify (tree : SyntaxTree) (id : NodeId) (f : SyntaxNode → SyntaxNode) : SyntaxTree :=
  ⟨tree.nodes.modify id f⟩

/-- The tree with a node added, which takes the next free number. -/
def push (tree : SyntaxTree) (node : SyntaxNode) : SyntaxTree := ⟨tree.nodes.push node⟩

/-- The tree with another span for one node. -/
def setSpan (tree : SyntaxTree) (id : NodeId) (span : ParserSpan) : SyntaxTree :=
  tree.modify id fun node => { node with span }

theorem get?_modify (tree : SyntaxTree) (id other : NodeId) (f : SyntaxNode → SyntaxNode) :
    (tree.modify id f).get? other =
      if id = other then (tree.get? other).map f else tree.get? other := by
  simp only [get?, modify, Array.getElem?_modify]

theorem get?_push (tree : SyntaxTree) (node : SyntaxNode) (id : NodeId) :
    (tree.push node).get? id = if id = tree.size then some node else tree.get? id :=
  Array.getElem?_push

@[simp] theorem size_modify (tree : SyntaxTree) (id : NodeId) (f : SyntaxNode → SyntaxNode) :
    (tree.modify id f).size = tree.size := by
  simp [size, modify]

@[simp] theorem size_push (tree : SyntaxTree) (node : SyntaxNode) :
    (tree.push node).size = tree.size + 1 := by
  simp [size, push]

/-! ## Siblings -/

/-- The number of a node among its parent's children, counted from zero. -/
def childPosition? (tree : SyntaxTree) (id : NodeId) : Option Nat :=
  match tree.parent? id with
  | some parent => (tree.children parent).findIdx? (· == id)
  | none => none

/-- The child behind a node in its parent. -/
def nextSibling? (tree : SyntaxTree) (id : NodeId) : Option NodeId :=
  match tree.parent? id, tree.childPosition? id with
  | some parent, some position => (tree.children parent)[position + 1]?
  | _, _ => none

/-! ## Ancestors -/

/-- At most `fuel` ancestors of a node, nearest first. -/
def climb (tree : SyntaxTree) : (fuel : Nat) → NodeId → List NodeId
  | 0, _ => []
  | fuel + 1, id =>
    match tree.parent? id with
    | some parent => parent :: tree.climb fuel parent
    | none => []

/-- The ancestors of a node, nearest first. -/
def ancestors (tree : SyntaxTree) (id : NodeId) : List NodeId := tree.climb tree.size id

/-- The nearest of at most `fuel` ancestors whose kind satisfies `p`. -/
def climbTo? (tree : SyntaxTree) (p : Kind → Bool) : (fuel : Nat) → NodeId → Option NodeId
  | 0, _ => none
  | fuel + 1, id =>
    match tree.parent? id with
    | some parent => if tree.hasKind p parent then some parent else tree.climbTo? p fuel parent
    | none => none

/-- The nearest ancestor of a node whose kind satisfies `p`. -/
def nearestAncestor? (tree : SyntaxTree) (p : Kind → Bool) (id : NodeId) : Option NodeId :=
  tree.climbTo? p tree.size id

theorem climbTo?_eq_find? (tree : SyntaxTree) (p : Kind → Bool) (fuel : Nat) (id : NodeId) :
    tree.climbTo? p fuel id = (tree.climb fuel id).find? (tree.hasKind p) := by
  induction fuel generalizing id with
  | zero => rfl
  | succ fuel ih =>
    rw [climbTo?, climb]
    cases tree.parent? id with
    | none => rfl
    | some parent =>
      simp only [List.find?_cons, ih]
      cases tree.hasKind p parent <;> rfl

/-- The nearest ancestor of a kind is the first among the ancestors. -/
theorem nearestAncestor?_eq_find? (tree : SyntaxTree) (p : Kind → Bool) (id : NodeId) :
    tree.nearestAncestor? p id = (tree.ancestors id).find? (tree.hasKind p) :=
  tree.climbTo?_eq_find? p tree.size id

/-! ## Document order -/

/-- Visits at most `fuel` nodes from a stack, its top first. The children of a visited node go onto
the stack in their order, unless its kind does not satisfy `descend`. `visited` are the nodes
visited so far, the latest first. -/
def visit (tree : SyntaxTree) (descend : Kind → Bool) :
    (fuel : Nat) → (stack visited : List NodeId) → List NodeId
  | 0, _, visited => visited.reverse
  | _ + 1, [], visited => visited.reverse
  | fuel + 1, id :: stack, visited =>
    match tree.get? id with
    | some node =>
      tree.visit descend fuel (if descend node.kind then node.children ++ stack else stack)
        (id :: visited)
    | none => tree.visit descend fuel stack visited

/-- The nodes of the subtrees at `ids` in document order. What lies below a node whose kind does
not satisfy `descend` is left out. -/
def walk (tree : SyntaxTree) (descend : Kind → Bool) (ids : List NodeId) : List NodeId :=
  tree.visit descend tree.size ids []

/-- The nodes of the subtree at `id` in document order. -/
def preorder (tree : SyntaxTree) (id : NodeId) : List NodeId := tree.walk (fun _ => true) [id]

/-- All nodes that can be reached from the root, in document order. -/
def documentOrder (tree : SyntaxTree) : List NodeId := tree.preorder root

/-- What is visited comes behind what has been visited before. -/
theorem visit_eq_append (tree : SyntaxTree) (descend : Kind → Bool) (fuel : Nat)
    (stack visited : List NodeId) :
    tree.visit descend fuel stack visited = visited.reverse ++ tree.visit descend fuel stack [] := by
  induction fuel generalizing stack visited with
  | zero => simp [visit]
  | succ fuel ih =>
    cases stack with
    | nil => simp [visit]
    | cons id stack =>
      simp only [visit]
      split
      · rw [ih _ (id :: visited), ih _ [id]]
        simp
      · rw [ih]

/-! ## What holds of a tree -/

/-- What makes the table a tree: the root has no parent, every other node comes behind its parent,
and the children of a node are the nodes whose parent it is, each once. -/
structure IsTree (tree : SyntaxTree) : Prop where
  /-- there is a root, and it has no parent -/
  root : ∃ node, tree.get? root = some node ∧ node.parent = none
  /-- every other node has a parent in front of it -/
  parent : ∀ id, id ≠ SyntaxTree.root → id < tree.size → ∃ p, tree.parent? id = some p ∧ p < id
  /-- parents and children name each other -/
  linked : ∀ parent child, child ∈ tree.children parent ↔ tree.parent? child = some parent
  /-- no child is listed twice -/
  once : ∀ id, (tree.children id).Nodup

end SyntaxTree

end LinksBinding
