import Mathlib.Logic.Relation
import LinksBinding.Syntax.Tree

/-!
# Ancestors in a tree

`Encloses` says that one node lies strictly above another. It is stated over the parent links alone;
this file shows what the climbing functions compute in terms of it. Every climb is given as many
steps as the table has nodes, and in a tree (`IsTree`) that is enough, because a parent comes in
front of its children in the table.

Two nodes above a third lie above one another (`Encloses.linear`), so "the nearest" of the nodes
above with some property is well defined: it is the one that no other such node lies below.
-/

namespace LinksBinding

namespace SyntaxTree

variable {tree : SyntaxTree}

/-- `outer` lies strictly above `inner`. -/
def Encloses (tree : SyntaxTree) : NodeId → NodeId → Prop :=
  Relation.TransGen fun parent child => tree.parent? child = some parent

/-! ## The table -/

theorem lt_size_of_get? {id : Nat} {node : SyntaxNode} (h : tree.get? id = some node) :
    id < tree.size :=
  (Array.getElem?_eq_some_iff.mp h).1

theorem exists_get? {id : Nat} (h : id < tree.size) : ∃ node, tree.get? id = some node :=
  ⟨tree.nodes[id], Array.getElem?_eq_getElem h⟩

theorem get?_eq_none {id : Nat} (h : tree.size ≤ id) : tree.get? id = none :=
  Array.getElem?_eq_none h

theorem lt_size_of_parent? {id parent : Nat} (h : tree.parent? id = some parent) :
    id < tree.size := by
  obtain ⟨node, found, -⟩ := Option.bind_eq_some_iff.mp h
  exact lt_size_of_get? found

theorem children_eq_nil {id : Nat} (h : tree.size ≤ id) : tree.children id = [] := by
  rw [children, get?_eq_none h]

theorem parent?_eq_none {id : Nat} (h : tree.size ≤ id) : tree.parent? id = none := by
  rw [parent?, get?_eq_none h]
  rfl

theorem children_of_get? {id : NodeId} {node : SyntaxNode} (h : tree.get? id = some node) :
    tree.children id = node.children := by
  rw [children, h]

theorem parent?_of_get? {id : NodeId} {node : SyntaxNode} (h : tree.get? id = some node) :
    tree.parent? id = node.parent := by
  rw [parent?, h]
  rfl

/-- A table that is not empty and gives its first node no parent has a root. -/
theorem exists_root (h : root < tree.size) (orphan : tree.parent? root = none) :
    ∃ node, tree.get? root = some node ∧ node.parent = none := by
  obtain ⟨node, found⟩ := exists_get? h
  exact ⟨node, found, by rw [← parent?_of_get? found, orphan]⟩

theorem kind?_of_get? {id : NodeId} {node : SyntaxNode} (h : tree.get? id = some node) :
    tree.kind? id = some node.kind := by
  rw [kind?, h]
  rfl

theorem span?_of_get? {id : NodeId} {node : SyntaxNode} (h : tree.get? id = some node) :
    tree.span? id = some node.span := by
  rw [span?, h]
  rfl

theorem hasKind_of_get? {id : NodeId} {node : SyntaxNode} (h : tree.get? id = some node)
    (p : Kind → Bool) : tree.hasKind p id = p node.kind := by
  rw [hasKind, kind?_of_get? h]
  rfl

/-- Only a node of the table is of a kind. -/
theorem exists_of_hasKind {p : Kind → Bool} {id : NodeId} (h : tree.hasKind p id = true) :
    ∃ node, tree.get? id = some node ∧ p node.kind = true := by
  cases found : tree.get? id with
  | none =>
    rw [hasKind, kind?, found] at h
    cases h
  | some node =>
    rw [hasKind_of_get? found] at h
    exact ⟨node, rfl, h⟩

theorem hasKind_beq_iff {kind : Kind} {id : NodeId} :
    tree.hasKind (· == kind) id = true ↔ tree.kind? id = some kind := by
  cases is : tree.kind? id <;> simp [hasKind, is]

/-! ## Parents -/

namespace IsTree

theorem parent?_root (h : tree.IsTree) : tree.parent? SyntaxTree.root = none := by
  obtain ⟨node, found, orphan⟩ := h.root
  rw [parent?_of_get? found, orphan]

/-- A parent comes in front of its children. -/
theorem parent_lt (h : tree.IsTree) {id parent : Nat} (up : tree.parent? id = some parent) :
    parent < id := by
  have ne : id ≠ SyntaxTree.root := by
    rintro rfl
    rw [h.parent?_root] at up
    cases up
  obtain ⟨p, same, lt⟩ := h.parent id ne (lt_size_of_parent? up)
  rw [up] at same
  cases same
  exact lt

theorem root_lt_size (h : tree.IsTree) : 0 < tree.size := by
  obtain ⟨node, found, -⟩ := h.root
  exact lt_size_of_get? found

theorem child_lt_size (h : tree.IsTree) {id child : Nat} (mem : child ∈ tree.children id) :
    child < tree.size :=
  lt_size_of_parent? ((h.linked id child).mp mem)

theorem lt_child (h : tree.IsTree) {id child : Nat} (mem : child ∈ tree.children id) :
    id < child :=
  h.parent_lt ((h.linked id child).mp mem)

end IsTree

/-! ## Enclosing nodes -/

theorem encloses_iff {outer inner : NodeId} :
    tree.Encloses outer inner ↔ ∃ parent, tree.parent? inner = some parent ∧
      (outer = parent ∨ tree.Encloses outer parent) := by
  constructor
  · intro h
    cases h with
    | single up => exact ⟨outer, up, .inl rfl⟩
    | tail above up => exact ⟨_, up, .inr above⟩
  · rintro ⟨parent, up, rfl | above⟩
    · exact .single up
    · exact .tail above up

/-- What lies above a node is its parent or lies above its parent. -/
theorem Encloses.parent_or {outer inner parent : NodeId} (h : tree.Encloses outer inner)
    (up : tree.parent? inner = some parent) : outer = parent ∨ tree.Encloses outer parent := by
  obtain ⟨same, up', above⟩ := encloses_iff.mp h
  rw [up] at up'
  cases up'
  exact above

theorem not_encloses_of_orphan {outer inner : NodeId} (up : tree.parent? inner = none) :
    ¬ tree.Encloses outer inner := by
  intro h
  obtain ⟨parent, same, -⟩ := encloses_iff.mp h
  rw [up] at same
  cases same

theorem Encloses.lt_size {outer inner : Nat} (h : tree.Encloses outer inner) :
    inner < tree.size := by
  obtain ⟨parent, up, -⟩ := encloses_iff.mp h
  exact lt_size_of_parent? up

/-- The nodes above a node lie above one another. -/
theorem Encloses.linear {a b id : NodeId} (ha : tree.Encloses a id) (hb : tree.Encloses b id) :
    a = b ∨ tree.Encloses a b ∨ tree.Encloses b a := by
  induction ha with
  | single up =>
    rcases hb.parent_or up with rfl | above
    · exact .inl rfl
    · exact .inr (.inr above)
  | tail above up ih =>
    rcases hb.parent_or up with rfl | higher
    · exact .inr (.inl above)
    · exact ih higher

namespace IsTree

theorem encloses_lt (h : tree.IsTree) {outer inner : Nat} (above : tree.Encloses outer inner) :
    outer < inner := by
  induction above with
  | single up => exact h.parent_lt up
  | tail _ up ih => exact Nat.lt_trans ih (h.parent_lt up)

/-- What lies above a node is a node of the tree. -/
theorem exists_of_encloses (h : tree.IsTree) {outer inner : Nat}
    (above : tree.Encloses outer inner) : ∃ node, tree.get? outer = some node :=
  exists_get? (Nat.lt_trans (h.encloses_lt above) above.lt_size)

theorem not_encloses_self (h : tree.IsTree) (id : NodeId) : ¬ tree.Encloses id id :=
  fun above => Nat.lt_irrefl _ (h.encloses_lt above)

/-- Nothing lies above the root. -/
theorem not_encloses_root (h : tree.IsTree) (id : NodeId) :
    ¬ tree.Encloses id SyntaxTree.root :=
  not_encloses_of_orphan h.parent?_root

/-- The root lies above every other node. -/
theorem root_encloses (h : tree.IsTree) {id : Nat} (ne : id ≠ SyntaxTree.root)
    (lt : id < tree.size) : tree.Encloses SyntaxTree.root id := by
  induction id using Nat.strongRecOn with
  | ind id ih =>
    obtain ⟨parent, up, before⟩ := h.parent id ne lt
    by_cases top : parent = SyntaxTree.root
    · exact .single (top ▸ up)
    · exact .tail (ih parent before top (Nat.lt_trans before lt)) up

end IsTree

/-! ## Climbing -/

/-- Steps beyond the root are not missed. -/
theorem IsTree.climb_eq (h : tree.IsTree) {fuel fuel' id : Nat} (enough : id ≤ fuel)
    (enough' : id ≤ fuel') : tree.climb fuel id = tree.climb fuel' id := by
  have stop : ∀ fuel, tree.climb fuel SyntaxTree.root = [] := by
    rintro (_ | fuel)
    · rfl
    · rw [climb, h.parent?_root]
  -- a parent has a smaller number, so as many steps as the number says lead to the root
  induction fuel generalizing id fuel' with
  | zero =>
    obtain rfl : id = SyntaxTree.root := Nat.le_zero.mp enough
    rw [stop, stop]
  | succ fuel ih =>
    cases fuel' with
    | zero =>
      obtain rfl : id = SyntaxTree.root := Nat.le_zero.mp enough'
      rw [stop, stop]
    | succ fuel' =>
      rw [climb, climb]
      cases up : tree.parent? id with
      | none => rfl
      | some parent =>
        have before := h.parent_lt up
        have same : tree.climb fuel parent = tree.climb fuel' parent := ih (by omega) (by omega)
        simp only [same]

/-- The ancestors of a node are its parent and the ancestors of that. -/
theorem IsTree.ancestors_eq (h : tree.IsTree) {id parent : Nat}
    (up : tree.parent? id = some parent) :
    tree.ancestors id = parent :: tree.ancestors parent := by
  have inside := lt_size_of_parent? up
  have before := h.parent_lt up
  have deeper : tree.ancestors id = tree.climb (tree.size + 1) id :=
    h.climb_eq (Nat.le_of_lt inside) (by omega)
  rw [deeper, climb, up]
  rfl

/-- Climbing goes the same way in a table in which the nodes of the tree have the same parents. -/
theorem IsTree.climb_of_parent? {other : SyntaxTree} (h : tree.IsTree)
    (same : ∀ x, x < tree.size → other.parent? x = tree.parent? x) (fuel : Nat) {id : Nat}
    (inside : id < tree.size) : other.climb fuel id = tree.climb fuel id := by
  induction fuel generalizing id with
  | zero => rfl
  | succ fuel ih =>
    rw [climb, climb, same id inside]
    split
    · rename_i parent up
      rw [ih (Nat.lt_trans (h.parent_lt up) inside)]
    · rfl

/-- A node has fewer ancestors than what lies below it. -/
theorem IsTree.length_ancestors_lt (h : tree.IsTree) {outer inner : NodeId}
    (above : tree.Encloses outer inner) :
    (tree.ancestors outer).length < (tree.ancestors inner).length := by
  induction above with
  | single up =>
    rw [h.ancestors_eq up]
    exact Nat.lt_succ_self _
  | tail _ up ih =>
    rw [h.ancestors_eq up]
    exact Nat.lt_succ_of_lt ih

/-- `a` is the nearest of the nodes above `id` whose kind satisfies `p`. -/
def IsNearest (tree : SyntaxTree) (p : Kind → Bool) (id a : NodeId) : Prop :=
  tree.Encloses a id ∧ tree.hasKind p a = true ∧
    ∀ between, tree.Encloses a between → tree.Encloses between id → tree.hasKind p between = false

/-- At most one node is the nearest. -/
theorem IsNearest.unique {p : Kind → Bool} {id a b : NodeId} (ha : tree.IsNearest p id a)
    (hb : tree.IsNearest p id b) : a = b := by
  obtain ⟨aboveA, kindA, nearA⟩ := ha
  obtain ⟨aboveB, kindB, nearB⟩ := hb
  rcases aboveA.linear aboveB with same | outer | inner
  · exact same
  · rw [nearA b outer aboveB] at kindB
    cases kindB
  · rw [nearB a inner aboveA] at kindA
    cases kindA

theorem IsTree.climbTo?_spec (h : tree.IsTree) (p : Kind → Bool) {fuel id : Nat}
    (enough : id ≤ fuel) :
    match tree.climbTo? p fuel id with
    | some a => tree.IsNearest p id a
    | none => ∀ a, tree.Encloses a id → tree.hasKind p a = false := by
  induction fuel generalizing id with
  | zero =>
    obtain rfl : id = SyntaxTree.root := Nat.le_zero.mp enough
    intro a above
    exact absurd above (h.not_encloses_root a)
  | succ fuel ih =>
    rw [climbTo?]
    cases up : tree.parent? id with
    | none =>
      intro a above
      exact absurd above (not_encloses_of_orphan up)
    | some parent =>
      have low : parent ≤ fuel := Nat.le_of_lt_succ (Nat.lt_of_lt_of_le (h.parent_lt up) enough)
      simp only
      by_cases here : tree.hasKind p parent
      · rw [if_pos here]
        refine ⟨.single up, here, fun between below above => ?_⟩
        -- nothing lies between a node and its parent
        rcases above.parent_or up with rfl | higher
        · exact absurd below (h.not_encloses_self _)
        · exact absurd (below.trans higher) (h.not_encloses_self _)
      · rw [if_neg here]
        have passed : tree.hasKind p parent = false := by simpa using here
        have outer := ih low
        cases found : tree.climbTo? p fuel parent with
        | none =>
          rw [found] at outer
          intro a above
          rcases above.parent_or up with rfl | higher
          · exact passed
          · exact outer a higher
        | some a =>
          rw [found] at outer
          obtain ⟨above, kind, near⟩ := outer
          refine ⟨.tail above up, kind, fun between below outer => ?_⟩
          rcases outer.parent_or up with rfl | higher
          · exact passed
          · exact near between below higher

/-- What the search for the nearest ancestor finds is the nearest. -/
theorem IsTree.nearestAncestor?_eq_some_iff (h : tree.IsTree) {p : Kind → Bool} {id a : Nat}
    (lt : id < tree.size) : tree.nearestAncestor? p id = some a ↔ tree.IsNearest p id a := by
  have spec := h.climbTo?_spec p (Nat.le_of_lt lt)
  rw [← nearestAncestor?] at spec
  constructor
  · intro found
    rwa [found] at spec
  · intro near
    cases found : tree.nearestAncestor? p id with
    | none =>
      rw [found] at spec
      have kind := near.2.1
      rw [spec a near.1] at kind
      cases kind
    | some b =>
      rw [found] at spec
      rw [near.unique spec]

/-- The search finds nothing exactly when no node above is of the kind. -/
theorem IsTree.nearestAncestor?_eq_none_iff (h : tree.IsTree) {p : Kind → Bool} {id : Nat}
    (lt : id < tree.size) :
    tree.nearestAncestor? p id = none ↔ ∀ a, tree.Encloses a id → tree.hasKind p a = false := by
  have spec := h.climbTo?_spec p (Nat.le_of_lt lt)
  rw [← nearestAncestor?] at spec
  constructor
  · intro found
    rwa [found] at spec
  · intro free
    cases found : tree.nearestAncestor? p id with
    | none => rfl
    | some a =>
      rw [found] at spec
      have kind := spec.2.1
      rw [free a spec.1] at kind
      cases kind

end SyntaxTree

end LinksBinding
