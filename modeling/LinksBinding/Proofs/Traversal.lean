import Mathlib.Data.List.Flatten
import Mathlib.Data.List.Nodup
import Mathlib.Data.List.Perm.Subperm
import LinksBinding.Proofs.Ancestry

/-!
# Document order

`walk` visits nodes off a stack. In a tree it lists what the recursion over the tree lists
(`IsTree.walk_eq`): a node, then the subtrees of its children one behind the other. The recursion is
`subtree`; it takes a bound on its depth for termination only, and in a tree satisfies its equation
without one (`IsTree.subtree_eq`).

What matters about a list of nodes in document order is which nodes are in it
(`IsTree.mem_subtree_iff`), that none is in it twice (`IsTree.nodup_subtree`), and that the list for
a part of the tree is a sublist of the list for all of it (`IsTree.subtree_sublist`), so that nodes
come in the same order wherever they are listed.
-/

namespace LinksBinding

namespace SyntaxTree

variable {tree : SyntaxTree}

/-- The nodes of the subtree at `id`, at most `fuel` levels of it: the node and, if it may be
descended, the subtrees of its children. -/
def subtreeWithin (tree : SyntaxTree) (descend : Kind → Bool) : (fuel : Nat) → NodeId → List NodeId
  | 0, _ => []
  | fuel + 1, id =>
    match tree.get? id with
    | some node =>
      id :: if descend node.kind then node.children.flatMap (tree.subtreeWithin descend fuel)
        else []
    | none => []

/-- The nodes of the subtree at `id`. What lies below a node whose kind does not satisfy `descend`
is left out. -/
def subtree (tree : SyntaxTree) (descend : Kind → Bool) (id : NodeId) : List NodeId :=
  tree.subtreeWithin descend tree.size id

/-! ## The recursion -/

namespace IsTree

/-- Levels beyond the last are not missed. -/
theorem subtreeWithin_eq (h : tree.IsTree) (descend : Kind → Bool) {fuel fuel' id : Nat}
    (enough : tree.size ≤ fuel + id) (enough' : tree.size ≤ fuel' + id) :
    tree.subtreeWithin descend fuel id = tree.subtreeWithin descend fuel' id := by
  induction fuel generalizing id fuel' with
  | zero =>
    have absent : tree.get? id = none := get?_eq_none (by omega)
    cases fuel' with
    | zero => rfl
    | succ fuel' => simp [subtreeWithin, absent]
  | succ fuel ih =>
    cases found : tree.get? id with
    | none => cases fuel' <;> simp [subtreeWithin, found]
    | some node =>
      have inside := lt_size_of_get? found
      cases fuel' with
      | zero => omega
      | succ fuel' =>
        have below : node.children.flatMap (tree.subtreeWithin descend fuel) =
            node.children.flatMap (tree.subtreeWithin descend fuel') := by
          apply List.flatMap_congr
          intro child mem
          have behind : id < child := h.lt_child (by rwa [children_of_get? found])
          exact ih (by omega) (by omega)
        simp only [subtreeWithin, found, below]

/-- A subtree is its node and the subtrees of the children. -/
theorem subtree_eq (h : tree.IsTree) (descend : Kind → Bool) {id : NodeId} {node : SyntaxNode}
    (found : tree.get? id = some node) :
    tree.subtree descend id =
      id :: if descend node.kind then node.children.flatMap (tree.subtree descend) else [] := by
  have deeper : tree.subtree descend id = tree.subtreeWithin descend (tree.size + 1) id :=
    h.subtreeWithin_eq descend (by omega) (by omega)
  rw [deeper]
  simp only [subtreeWithin, found]
  rfl

/-- Induction from the leaves to the root. -/
@[elab_as_elim]
theorem induction_up (h : tree.IsTree) {P : NodeId → Prop} {id : Nat} (inside : id < tree.size)
    (step : ∀ id node, tree.get? id = some node → (∀ child ∈ node.children, P child) → P id) :
    P id := by
  -- children come behind their parent, so the distance to the end of the table shrinks
  obtain ⟨gap, hgap⟩ : ∃ gap, gap = tree.size - id := ⟨_, rfl⟩
  induction gap using Nat.strongRecOn generalizing id with
  | ind gap ih =>
    obtain ⟨node, found⟩ := exists_get? inside
    refine step id node found fun child mem => ?_
    have listed : child ∈ tree.children id := by rwa [children_of_get? found]
    have behind := h.lt_child listed
    exact ih _ (by omega) (h.child_lt_size listed) rfl

/-! ## Members -/

/-- A node that encloses another has a child that is that node or encloses it. -/
theorem exists_child (h : tree.IsTree) {outer inner : NodeId} (above : tree.Encloses outer inner) :
    ∃ child ∈ tree.children outer, inner = child ∨ tree.Encloses child inner := by
  obtain ⟨child, up, path⟩ := Relation.TransGen.head'_iff.mp above
  refine ⟨child, (h.linked outer child).mpr up, ?_⟩
  rcases Relation.reflTransGen_iff_eq_or_transGen.mp path with same | below
  · exact .inl same
  · exact .inr below

/-- The subtrees of the children hold what lies below a node, as far as every node in between may
be descended, if the subtree of each child holds what it should. -/
theorem mem_children_of (h : tree.IsTree) (descend : Kind → Bool) {id x : NodeId}
    (each : ∀ child ∈ tree.children id, x ∈ tree.subtree descend child ↔
      x = child ∨ tree.Encloses child x ∧ ∀ a, (a = child ∨ tree.Encloses child a) →
        tree.Encloses a x → tree.hasKind descend a = true) :
    x ∈ (tree.children id).flatMap (tree.subtree descend) ↔
      tree.Encloses id x ∧
        ∀ a, tree.Encloses id a → tree.Encloses a x → tree.hasKind descend a = true := by
  constructor
  · intro mem
    obtain ⟨child, listed, below⟩ := List.mem_flatMap.mp mem
    have up : tree.parent? child = some id := (h.linked id child).mp listed
    -- nothing lies between a node and its child
    have between : ∀ a, tree.Encloses id a → ¬ tree.Encloses a child := by
      intro a lower higher
      rcases higher.parent_or up with rfl | outer
      · exact h.not_encloses_self _ lower
      · exact h.not_encloses_self _ (lower.trans outer)
    rcases (each child listed).mp below with rfl | ⟨above, seen⟩
    · exact ⟨.single up, fun a lower higher => absurd higher (between a lower)⟩
    · refine ⟨.head up above, fun a lower higher => ?_⟩
      rcases higher.linear above with rfl | outer | under
      · exact seen a (.inl rfl) higher
      · exact absurd outer (between a lower)
      · exact seen a (.inr under) higher
  · rintro ⟨above, seen⟩
    obtain ⟨child, listed, below⟩ := h.exists_child above
    have up : tree.parent? child = some id := (h.linked id child).mp listed
    rw [List.mem_flatMap]
    refine ⟨child, listed, (each child listed).mpr ?_⟩
    rcases below with rfl | below
    · exact .inl rfl
    · refine .inr ⟨below, fun a lower higher => seen a ?_ higher⟩
      rcases lower with rfl | lower
      · exact .single up
      · exact .head up lower

/-- A subtree holds its node and what lies below it, as far as every node from it on may be
descended. -/
theorem mem_subtree_iff (h : tree.IsTree) (descend : Kind → Bool) {id x : NodeId}
    (inside : id < tree.size) :
    x ∈ tree.subtree descend id ↔
      x = id ∨ tree.Encloses id x ∧
        ∀ a, (a = id ∨ tree.Encloses id a) → tree.Encloses a x → tree.hasKind descend a = true := by
  refine h.induction_up inside fun id node found ih => ?_
  rw [← children_of_get? found] at ih
  have below := h.mem_children_of descend ih
  rw [h.subtree_eq descend found, List.mem_cons, ← children_of_get? found,
    ← hasKind_of_get? found descend]
  refine or_congr_right ?_
  constructor
  · intro mem
    split at mem
    · rename_i mayDescend
      obtain ⟨above, seen⟩ := below.mp mem
      refine ⟨above, fun a lower higher => ?_⟩
      rcases lower with rfl | lower
      · exact mayDescend
      · exact seen a lower higher
    · cases mem
  · rintro ⟨above, seen⟩
    rw [if_pos (seen id (.inl rfl) above)]
    exact below.mpr ⟨above, fun a lower => seen a (.inr lower)⟩

/-! ## No node twice -/

/-- The subtrees of two children share no node. -/
theorem disjoint_children (h : tree.IsTree) (descend : Kind → Bool) {id a b : NodeId}
    (ha : a ∈ tree.children id) (hb : b ∈ tree.children id) (ne : a ≠ b) :
    (tree.subtree descend a).Disjoint (tree.subtree descend b) := by
  intro x inA inB
  have upA := (h.linked id a).mp ha
  have upB := (h.linked id b).mp hb
  -- a child does not lie above its sibling
  have apart : ∀ {c d : NodeId}, tree.parent? c = some id → tree.parent? d = some id →
      ¬ tree.Encloses c d := by
    intro c d upC upD above
    rcases above.parent_or upD with rfl | outer
    · exact absurd (h.parent_lt upC) (Nat.lt_irrefl _)
    · exact absurd (Nat.lt_trans (h.encloses_lt outer) (h.parent_lt upC)) (Nat.lt_irrefl _)
  rw [h.mem_subtree_iff descend (lt_size_of_parent? upA)] at inA
  rw [h.mem_subtree_iff descend (lt_size_of_parent? upB)] at inB
  rcases inA with rfl | ⟨aboveA, -⟩ <;> rcases inB with rfl | ⟨aboveB, -⟩
  · exact ne rfl
  · exact apart upB upA aboveB
  · exact apart upA upB aboveA
  · rcases aboveA.linear aboveB with same | outer | outer
    · exact ne same
    · exact apart upA upB outer
    · exact apart upB upA outer

/-- If the subtrees of the children list no node twice, neither do all of them together. -/
theorem nodup_children_of (h : tree.IsTree) (descend : Kind → Bool) {id : NodeId}
    (each : ∀ child ∈ tree.children id, (tree.subtree descend child).Nodup) :
    ((tree.children id).flatMap (tree.subtree descend)).Nodup := by
  rw [List.nodup_flatMap]
  refine ⟨each, ?_⟩
  have distinct : (tree.children id).Pairwise (· ≠ ·) := h.once id
  exact distinct.imp_of_mem fun ha hb ne => h.disjoint_children descend ha hb ne

theorem nodup_subtree (h : tree.IsTree) (descend : Kind → Bool) {id : NodeId}
    (inside : id < tree.size) : (tree.subtree descend id).Nodup := by
  refine h.induction_up inside fun id node found ih => ?_
  rw [h.subtree_eq descend found]
  split
  · rw [← children_of_get? found] at ih ⊢
    refine List.nodup_cons.mpr ⟨?_, h.nodup_children_of descend ih⟩
    intro mem
    obtain ⟨child, listed, below⟩ := List.mem_flatMap.mp mem
    have behind := h.lt_child listed
    rcases (h.mem_subtree_iff descend (h.child_lt_size listed)).mp below with rfl | ⟨above, -⟩
    · exact absurd behind (Nat.lt_irrefl _)
    · exact absurd (Nat.lt_trans behind (h.encloses_lt above)) (Nat.lt_irrefl _)
  · exact List.nodup_singleton id

theorem nodup_children_subtrees (h : tree.IsTree) (descend : Kind → Bool) (id : NodeId) :
    ((tree.children id).flatMap (tree.subtree descend)).Nodup :=
  h.nodup_children_of descend fun _ listed => h.nodup_subtree descend (h.child_lt_size listed)

theorem lt_size_of_mem_subtree (h : tree.IsTree) (descend : Kind → Bool) {id x : Nat}
    (inside : id < tree.size) (mem : x ∈ tree.subtree descend id) : x < tree.size := by
  rcases (h.mem_subtree_iff descend inside).mp mem with rfl | ⟨above, -⟩
  · exact inside
  · exact above.lt_size

/-! ## Parts of the tree -/

/-- What may be left out of a subtree leaves the order of the rest as it is. -/
theorem subtree_sublist_all (h : tree.IsTree) (descend : Kind → Bool) {id : NodeId}
    (inside : id < tree.size) :
    (tree.subtree descend id).Sublist (tree.subtree (fun _ => true) id) := by
  refine h.induction_up inside fun id node found ih => ?_
  rw [h.subtree_eq descend found, h.subtree_eq _ found, if_pos rfl]
  refine List.Sublist.cons_cons id ?_
  split
  · exact List.Sublist.flatMap_right _ ih
  · exact List.nil_sublist _

/-- A subtree is listed in one piece with the rest of the tree. -/
theorem subtree_sublist (h : tree.IsTree) {id : NodeId} (inside : id < tree.size) :
    (tree.subtree (fun _ => true) id).Sublist (tree.subtree (fun _ => true) SyntaxTree.root) := by
  induction id using Nat.strongRecOn with
  | ind id ih =>
    by_cases top : id = SyntaxTree.root
    · rw [top]
    · obtain ⟨parent, up, before⟩ := h.parent id top inside
      refine .trans ?_ (ih parent before (Nat.lt_trans before inside))
      obtain ⟨node, found⟩ := exists_get? (Nat.lt_trans before inside)
      have listed : id ∈ node.children := by
        rw [← children_of_get? found]
        exact (h.linked parent id).mpr up
      rw [h.subtree_eq _ found, if_pos rfl]
      refine .cons _ ?_
      obtain ⟨front, back, split⟩ := List.append_of_mem listed
      rw [split, List.flatMap_append, List.flatMap_cons]
      exact (List.sublist_append_left _ _).trans (List.sublist_append_right _ _)

end IsTree

/-! ## The stack -/

/-- In a list without repetition, nodes come in one order. -/
theorem not_sublist_swap {order : List NodeId} (nodup : order.Nodup) {a b : NodeId}
    (h : [a, b].Sublist order) : ¬ [b, a].Sublist order := by
  induction order with
  | nil => cases h
  | cons x rest ih =>
    obtain ⟨absent, nodup⟩ := List.nodup_cons.mp nodup
    intro h'
    cases h with
    | cons _ below =>
      cases h' with
      | cons _ below' => exact ih nodup below below'
      | cons_cons _ below' => exact absent (below.subset (by simp))
    | cons_cons _ below =>
      cases h' with
      | cons _ below' => exact absent (below'.subset (by simp))
      | cons_cons _ below' => exact absent (below.subset (by simp))

/-- A list of nodes of the table without repetition is no longer than the table. -/
theorem length_le_size {ids : List NodeId} (nodup : ids.Nodup)
    (inside : ∀ id ∈ ids, id < tree.size) : ids.length ≤ tree.size := by
  have subset : ids ⊆ List.range tree.size := fun id mem => List.mem_range.mpr (inside id mem)
  simpa using (List.subperm_of_subset nodup subset).length_le

namespace IsTree

/-- With enough fuel for all of their nodes, the subtrees at the nodes of the stack are visited one
behind the other. -/
theorem visit_eq (h : tree.IsTree) (descend : Kind → Bool) {fuel : Nat} {stack : List NodeId}
    (inside : ∀ id ∈ stack, id < tree.size)
    (enough : (stack.flatMap (tree.subtree descend)).length ≤ fuel) :
    tree.visit descend fuel stack [] = stack.flatMap (tree.subtree descend) := by
  induction fuel generalizing stack with
  | zero =>
    rw [List.length_eq_zero_iff.mp (Nat.le_zero.mp enough)]
    rfl
  | succ fuel ih =>
    cases stack with
    | nil => rfl
    | cons id stack =>
      obtain ⟨node, found⟩ := exists_get? (inside id List.mem_cons_self)
      have rest : ∀ other ∈ stack, other < tree.size := fun other mem =>
        inside other (List.mem_cons_of_mem _ mem)
      rw [List.flatMap_cons, h.subtree_eq descend found] at enough ⊢
      simp only [visit, found]
      rw [visit_eq_append]
      split
      · rename_i mayDescend
        rw [if_pos mayDescend, List.cons_append, List.length_cons, ← List.flatMap_append] at enough
        -- the children are put on the stack, in front of what is there
        rw [ih _ (Nat.le_of_succ_le_succ enough)]
        · simp
        · intro other mem
          rcases List.mem_append.mp mem with listed | mem
          · exact h.child_lt_size (by rwa [children_of_get? found])
          · exact rest other mem
      · rename_i leaveOut
        rw [if_neg leaveOut, List.cons_append, List.length_cons] at enough
        rw [ih rest (Nat.le_of_succ_le_succ enough)]
        rfl

/-- A walk lists the subtrees one behind the other, if they share no node. -/
theorem walk_eq (h : tree.IsTree) (descend : Kind → Bool) {ids : List NodeId}
    (inside : ∀ id ∈ ids, id < tree.size)
    (nodup : (ids.flatMap (tree.subtree descend)).Nodup) :
    tree.walk descend ids = ids.flatMap (tree.subtree descend) := by
  refine h.visit_eq descend inside (length_le_size nodup fun x mem => ?_)
  obtain ⟨id, listed, below⟩ := List.mem_flatMap.mp mem
  exact h.lt_size_of_mem_subtree descend (inside id listed) below

theorem walk_children (h : tree.IsTree) (descend : Kind → Bool) (id : NodeId) :
    tree.walk descend (tree.children id) = (tree.children id).flatMap (tree.subtree descend) :=
  h.walk_eq descend (fun _ listed => h.child_lt_size listed) (h.nodup_children_subtrees descend id)

/-- A walk over the children of a node lists what lies below it, as far as every node in between may
be descended. -/
theorem mem_walk_children_iff (h : tree.IsTree) (descend : Kind → Bool) {id x : NodeId} :
    x ∈ tree.walk descend (tree.children id) ↔
      tree.Encloses id x ∧
        ∀ a, tree.Encloses id a → tree.Encloses a x → tree.hasKind descend a = true := by
  rw [h.walk_children]
  exact h.mem_children_of descend fun _ listed =>
    h.mem_subtree_iff descend (h.child_lt_size listed)

theorem preorder_eq_subtree (h : tree.IsTree) {id : NodeId} (inside : id < tree.size) :
    tree.preorder id = tree.subtree (fun _ => true) id := by
  have single : [id].flatMap (tree.subtree fun _ => true) = tree.subtree (fun _ => true) id :=
    List.flatMap_singleton ..
  have nodup : ([id].flatMap (tree.subtree fun _ => true)).Nodup := by
    rw [single]
    exact h.nodup_subtree _ inside
  rw [preorder, h.walk_eq _ (by simpa using inside) nodup, single]

/-- The nodes in document order below a node: it, and those below its children. -/
theorem preorder_eq (h : tree.IsTree) {id : NodeId} {node : SyntaxNode}
    (found : tree.get? id = some node) :
    tree.preorder id = id :: node.children.flatMap tree.preorder := by
  rw [h.preorder_eq_subtree (lt_size_of_get? found), h.subtree_eq _ found, if_pos rfl]
  congr 1
  apply List.flatMap_congr
  intro child listed
  rw [h.preorder_eq_subtree (h.child_lt_size (by rwa [children_of_get? found]))]

/-! ## The whole document -/

theorem documentOrder_eq (h : tree.IsTree) :
    tree.documentOrder = tree.subtree (fun _ => true) SyntaxTree.root :=
  h.preorder_eq_subtree h.root_lt_size

theorem nodup_documentOrder (h : tree.IsTree) : tree.documentOrder.Nodup := by
  rw [h.documentOrder_eq]
  exact h.nodup_subtree _ h.root_lt_size

/-- Every node of the table is reached from the root. -/
theorem mem_documentOrder_iff (h : tree.IsTree) {id : NodeId} :
    id ∈ tree.documentOrder ↔ id < tree.size := by
  rw [h.documentOrder_eq]
  constructor
  · exact h.lt_size_of_mem_subtree _ h.root_lt_size
  · intro inside
    apply (h.mem_subtree_iff _ h.root_lt_size).mpr
    by_cases top : id = SyntaxTree.root
    · exact .inl top
    · refine .inr ⟨h.root_encloses top inside, fun a _ above => ?_⟩
      obtain ⟨node, found⟩ := h.exists_of_encloses above
      exact hasKind_of_get? found _

/-- Document order lists each node of the table once. -/
theorem documentOrder_perm (h : tree.IsTree) :
    tree.documentOrder.Perm (List.range tree.size) := by
  rw [List.perm_ext_iff_of_nodup h.nodup_documentOrder List.nodup_range]
  intro id
  rw [h.mem_documentOrder_iff, List.mem_range]

/-- In document order no node comes in front of its parent. -/
theorem pairwise_documentOrder (h : tree.IsTree) :
    tree.documentOrder.Pairwise fun a b => tree.parent? a ≠ some b := by
  rw [List.pairwise_iff_forall_sublist]
  intro a b order up
  have inside : b < tree.size := Nat.lt_trans (h.parent_lt up) (lt_size_of_parent? up)
  refine not_sublist_swap h.nodup_documentOrder order ?_
  have below : a ∈ tree.walk (fun _ => true) (tree.children b) := by
    rw [h.mem_walk_children_iff]
    refine ⟨.single up, fun c _ above => ?_⟩
    obtain ⟨node, found⟩ := h.exists_of_encloses above
    exact hasKind_of_get? found _
  obtain ⟨node, found⟩ := exists_get? inside
  rw [h.documentOrder_eq]
  refine .trans ?_ (h.subtree_sublist inside)
  rw [h.subtree_eq _ found, if_pos rfl, ← children_of_get? found, ← h.walk_children]
  exact .cons_cons b (List.singleton_sublist.mpr below)

/-- Nodes below a node come in document order wherever they are listed. -/
theorem walk_children_sublist (h : tree.IsTree) (descend : Kind → Bool) {id : NodeId}
    (inside : id < tree.size) :
    (tree.walk descend (tree.children id)).Sublist tree.documentOrder := by
  obtain ⟨node, found⟩ := exists_get? inside
  rw [h.walk_children, h.documentOrder_eq]
  refine .trans ?_ (h.subtree_sublist inside)
  rw [h.subtree_eq _ found, if_pos rfl, children_of_get? found]
  refine .cons _ (List.Sublist.flatMap_right _ fun child listed => ?_)
  exact h.subtree_sublist_all descend (h.child_lt_size (by rwa [children_of_get? found]))

end IsTree

end SyntaxTree

end LinksBinding
