import LinksBinding.Proofs.Ancestry

/-!
# Trees that agree

Two trees agree up to something of their nodes, such as spans or names, when they have the same
nodes once that is forgotten. `Agree` takes the forgetting as a function on nodes. What does not
depend on what is forgotten is the same in both trees; and if no links are forgotten, the trees have
one shape, and climbing and walking take the same course in both.
-/

namespace LinksBinding

namespace SyntaxTree

variable {tree other : SyntaxTree} {forget : SyntaxNode → SyntaxNode}

/-- The trees agree in everything that `forget` leaves of a node. -/
def Agree (tree : SyntaxTree) (forget : SyntaxNode → SyntaxNode) (other : SyntaxTree) : Prop :=
  ∀ id, (other.get? id).map forget = (tree.get? id).map forget

/-- What is forgotten of a node are no links. -/
structure KeepsLinks (forget : SyntaxNode → SyntaxNode) : Prop where
  /-- parents are kept -/
  parent : ∀ node, (forget node).parent = node.parent
  /-- children are kept -/
  children : ∀ node, (forget node).children = node.children

namespace Agree

theorem refl (tree : SyntaxTree) (forget : SyntaxNode → SyntaxNode) : tree.Agree forget tree :=
  fun _ => rfl

theorem symm (h : tree.Agree forget other) : other.Agree forget tree := fun id => (h id).symm

theorem trans {third : SyntaxTree} (h : tree.Agree forget other) (h' : other.Agree forget third) :
    tree.Agree forget third :=
  fun id => (h' id).trans (h id)

/-- Trees that agree go on to agree if more is forgotten. -/
theorem coarsen (h : tree.Agree forget other) {coarser : SyntaxNode → SyntaxNode}
    (less : ∀ node, coarser (forget node) = coarser node) : tree.Agree coarser other := by
  have same : coarser ∘ forget = coarser := funext less
  intro id
  rw [← same, ← Option.map_map, h id, Option.map_map]

/-- What does not depend on what is forgotten is the same in both trees. -/
theorem eq_of_free (h : tree.Agree forget other) {α : Type} {f : Option SyntaxNode → α}
    (free : ∀ found, f (found.map forget) = f found) (id : NodeId) :
    f (other.get? id) = f (tree.get? id) := by
  rw [← free, h id, free]

theorem kind? (h : tree.Agree forget other) (free : ∀ node, (forget node).kind = node.kind)
    (id : NodeId) : other.kind? id = tree.kind? id := by
  refine h.eq_of_free (f := fun found => found.map SyntaxNode.kind) ?_ id
  rintro (_ | node)
  · rfl
  · exact congrArg some (free node)

theorem span? (h : tree.Agree forget other) (free : ∀ node, (forget node).span = node.span)
    (id : NodeId) : other.span? id = tree.span? id := by
  refine h.eq_of_free (f := fun found => found.map SyntaxNode.span) ?_ id
  rintro (_ | node)
  · rfl
  · exact congrArg some (free node)

theorem hasKind (h : tree.Agree forget other) {p : Kind → Bool}
    (free : ∀ node, p (forget node).kind = p node.kind) (id : NodeId) :
    other.hasKind p id = tree.hasKind p id := by
  refine h.eq_of_free (f := fun found => (found.map SyntaxNode.kind).any p) ?_ id
  rintro (_ | node)
  · rfl
  · exact free node

theorem size_le (h : tree.Agree forget other) : tree.size ≤ other.size := by
  refine Nat.le_of_not_lt fun short => ?_
  obtain ⟨node, found⟩ := exists_get? short
  have := h other.size
  rw [found, get?_eq_none (Nat.le_refl _)] at this
  cases this

theorem size (h : tree.Agree forget other) : other.size = tree.size :=
  Nat.le_antisymm h.symm.size_le h.size_le

/-! ## One shape -/

section Links

variable (keeps : KeepsLinks forget)

include keeps

theorem parent? (h : tree.Agree forget other) (id : NodeId) :
    other.parent? id = tree.parent? id := by
  refine h.eq_of_free (f := fun found => found.bind SyntaxNode.parent) ?_ id
  rintro (_ | node)
  · rfl
  · exact keeps.parent node

theorem children (h : tree.Agree forget other) (id : NodeId) :
    other.children id = tree.children id := by
  have same := h id
  cases found : tree.get? id with
  | none =>
    rw [found, Option.map_none, Option.map_eq_none_iff] at same
    rw [SyntaxTree.children, SyntaxTree.children, same, found]
  | some node =>
    rw [found, Option.map_some] at same
    obtain ⟨node', found', same⟩ := Option.map_eq_some_iff.mp same
    rw [children_of_get? found, children_of_get? found', ← keeps.children, same, keeps.children]

theorem childPosition? (h : tree.Agree forget other) (id : NodeId) :
    other.childPosition? id = tree.childPosition? id := by
  rw [SyntaxTree.childPosition?, SyntaxTree.childPosition?, h.parent? keeps]
  split
  · rw [h.children keeps]
  · rfl

theorem nextSibling? (h : tree.Agree forget other) (id : NodeId) :
    other.nextSibling? id = tree.nextSibling? id := by
  rw [SyntaxTree.nextSibling?, SyntaxTree.nextSibling?, h.parent? keeps, h.childPosition? keeps]
  split
  · rw [h.children keeps]
  · rfl

theorem climb (h : tree.Agree forget other) (fuel : Nat) (id : NodeId) :
    other.climb fuel id = tree.climb fuel id := by
  induction fuel generalizing id with
  | zero => rfl
  | succ fuel ih =>
    rw [SyntaxTree.climb, SyntaxTree.climb, h.parent? keeps]
    split
    · rw [ih]
    · rfl

theorem isTree (h : tree.Agree forget other) (t : tree.IsTree) : other.IsTree := by
  refine ⟨?_, fun id ne inside => ?_, fun parent child => ?_, fun id => ?_⟩
  · refine exists_root ?_ ?_
    · rw [h.size]
      exact t.root_lt_size
    · rw [h.parent? keeps, t.parent?_root]
  · rw [h.parent? keeps]
    exact t.parent id ne (by rwa [← h.size])
  · rw [h.children keeps, h.parent? keeps]
    exact t.linked parent child
  · rw [h.children keeps]
    exact t.once id

/-- The nearest ancestor of a kind is the same, if what is forgotten does not decide the kind. -/
theorem nearestAncestor? (h : tree.Agree forget other) {p : Kind → Bool}
    (free : ∀ node, p (forget node).kind = p node.kind) (id : NodeId) :
    other.nearestAncestor? p id = tree.nearestAncestor? p id := by
  have kinds : other.hasKind p = tree.hasKind p := funext (h.hasKind free)
  rw [nearestAncestor?_eq_find?, nearestAncestor?_eq_find?, ancestors, ancestors, h.size,
    h.climb keeps, kinds]

/-- A walk visits the same nodes, if what is forgotten does not decide where it descends. -/
theorem visit (h : tree.Agree forget other) {descend : Kind → Bool}
    (free : ∀ node, descend (forget node).kind = descend node.kind) (fuel : Nat)
    (stack visited : List NodeId) :
    other.visit descend fuel stack visited = tree.visit descend fuel stack visited := by
  induction fuel generalizing stack visited with
  | zero => rfl
  | succ fuel ih =>
    cases stack with
    | nil => rfl
    | cons id stack =>
      have agree := h id
      cases found : tree.get? id with
      | none =>
        rw [found, Option.map_none, Option.map_eq_none_iff] at agree
        simp only [SyntaxTree.visit, found, agree, ih]
      | some node =>
        rw [found, Option.map_some] at agree
        obtain ⟨node', found', same⟩ := Option.map_eq_some_iff.mp agree
        have kinds : descend node'.kind = descend node.kind := by rw [← free, same, free]
        have below : node'.children = node.children := by
          rw [← keeps.children, same, keeps.children]
        simp only [SyntaxTree.visit, found, found', kinds, below, ih]

theorem walk (h : tree.Agree forget other) {descend : Kind → Bool}
    (free : ∀ node, descend (forget node).kind = descend node.kind) (ids : List NodeId) :
    other.walk descend ids = tree.walk descend ids := by
  rw [SyntaxTree.walk, SyntaxTree.walk, h.size, h.visit keeps free]

theorem documentOrder (h : tree.Agree forget other) : other.documentOrder = tree.documentOrder :=
  h.walk keeps (fun _ => rfl) [SyntaxTree.root]

end Links

end Agree

end SyntaxTree

end LinksBinding
