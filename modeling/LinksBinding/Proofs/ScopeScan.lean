import LinksBinding.Proofs.Resolution

/-!
# What the scan of a scope returns

The declarations of a name below a scope are looked for off a stack, and for a variable what lies
below the body of a function is left out on the way. What comes back is told without a stack here:
the declarations that are seen from the scope (`IsSeen`), in preorder and each once. There is one
such list, and it is what the scan returns (`isScan_iff`).

A variable is seen through fewer nodes than a function is, and the order is the same for both, so
the declarations for a variable are some of those for a function, in the same order.
-/

namespace LinksBinding

namespace SyntaxTree

variable {tree : SyntaxTree} {scope : NodeId} {name : String} {ns : Namespace}
  {listed listed' order : List NodeId}

/-- A node declares a name below a scope and is seen from there. -/
structure IsSeen (tree : SyntaxTree) (scope : NodeId) (name : String) (ns : Namespace)
    (id : NodeId) : Prop where
  /-- it declares the name, as a function or as a binder -/
  declares : tree.kind? id = some (.function name) ∨
    ∃ role, tree.kind? id = some (.binder name role)
  /-- it lies strictly below the scope -/
  below : tree.Encloses scope id
  /-- for a variable, no function of either form lies strictly between the two -/
  inSight : ns = .value → ∀ between, tree.Encloses scope between → tree.Encloses between id →
    tree.kind? between ≠ some .lambda ∧ ∀ other, tree.kind? between ≠ some (.function other)

/-- A list has the declarations of a name that are seen from a scope, in preorder and each once. -/
structure IsScan (tree : SyntaxTree) (scope : NodeId) (name : String) (ns : Namespace)
    (listed : List NodeId) : Prop where
  /-- they come in preorder -/
  ordered : listed.Sublist tree.documentOrder
  /-- none comes twice -/
  once : listed.Nodup
  /-- they are what is seen -/
  mem_iff (id : NodeId) : id ∈ listed ↔ tree.IsSeen scope name ns id

/-! ## One list -/

/-- What is listed in the order of a list without repetition is told by its members. -/
theorem eq_of_sublist (nodup : order.Nodup) (ordered : listed.Sublist order)
    (ordered' : listed'.Sublist order) (same : ∀ id, id ∈ listed ↔ id ∈ listed') :
    listed = listed' := by
  have perm : listed.Perm listed' :=
    (List.perm_ext_iff_of_nodup (nodup.sublist ordered) (nodup.sublist ordered')).mpr same
  have follows : ∀ {part : List NodeId}, part.Sublist order →
      part.Pairwise fun a b => [a, b].Sublist order := fun ordered =>
    List.pairwise_iff_forall_sublist.mpr fun pair => pair.trans ordered
  refine perm.eq_of_pairwise (fun a b _ _ before behind => ?_) (follows ordered) (follows ordered')
  exact absurd behind (not_sublist_swap nodup before)

theorem IsScan.unique (h : tree.IsTree) (scan : tree.IsScan scope name ns listed)
    (scan' : tree.IsScan scope name ns listed') : listed = listed' :=
  eq_of_sublist h.nodup_documentOrder scan.ordered scan'.ordered fun id =>
    (scan.mem_iff id).trans (scan'.mem_iff id).symm

/-! ## The scan -/

/-- A scan goes through a tree in preorder. From what is not in the table it finds nothing. -/
theorem IsTree.localDeclarations_sublist (h : tree.IsTree) (scope : NodeId) (name : String)
    (ns : Namespace) : (tree.localDeclarations scope name ns).Sublist tree.documentOrder := by
  rcases Nat.lt_or_ge scope tree.size with inside | outside
  · exact List.filter_sublist.trans (h.walk_children_sublist ns.seesBelow inside)
  · rw [localDeclarations, h.walk_children, children_eq_nil outside]
    exact List.nil_sublist _

/-- A scan finds what is seen. -/
theorem IsTree.mem_localDeclarations_iff_isSeen (h : tree.IsTree) {id : NodeId} :
    id ∈ tree.localDeclarations scope name ns ↔ tree.IsSeen scope name ns id := by
  have through : ∀ between, ¬ tree.IsFunction between ↔ tree.kind? between ≠ some .lambda ∧
      ∀ other, tree.kind? between ≠ some (.function other) := by
    intro between
    rw [IsFunction, not_or, not_exists]
  rw [h.mem_localDeclarations_iff]
  constructor
  · rintro ⟨below, inSight, declares⟩
    exact ⟨declares, below, fun value between lower higher =>
      (through between).mp (inSight value between lower higher)⟩
  · rintro ⟨declares, below, inSight⟩
    exact ⟨below, fun value between lower higher =>
      (through between).mpr (inSight value between lower higher), declares⟩

theorem IsTree.isScan_localDeclarations (h : tree.IsTree) (scope : NodeId) (name : String)
    (ns : Namespace) : tree.IsScan scope name ns (tree.localDeclarations scope name ns) where
  ordered := h.localDeclarations_sublist scope name ns
  once := h.nodup_documentOrder.sublist (h.localDeclarations_sublist scope name ns)
  mem_iff _ := h.mem_localDeclarations_iff_isSeen

/-- What is left out below the bodies of functions leaves the order of the rest as it is. -/
theorem IsTree.localDeclarations_value_sublist (h : tree.IsTree) (scope : NodeId) (name : String) :
    (tree.localDeclarations scope name .value).Sublist
      (tree.localDeclarations scope name .function) := by
  rw [localDeclarations, localDeclarations, h.walk_children, h.walk_children]
  refine List.Sublist.filter _ (List.Sublist.flatMap_right _ fun child listed => ?_)
  exact h.subtree_sublist_all (Namespace.seesBelow .value) (h.child_lt_size listed)

/-- The scan of a scope returns the declarations that are seen from it, in preorder and each once,
and no other list has these. For a variable they are some of those for a function, in the same
order. -/
theorem isScan_iff (h : tree.IsTree) (scope : NodeId) (name : String) :
    (∀ ns listed, tree.IsScan scope name ns listed ↔
        listed = tree.localDeclarations scope name ns) ∧
      (tree.localDeclarations scope name .value).Sublist
        (tree.localDeclarations scope name .function) := by
  refine ⟨fun ns listed => ⟨fun scan => ?_, fun same => ?_⟩, h.localDeclarations_value_sublist ..⟩
  · exact scan.unique h (h.isScan_localDeclarations scope name ns)
  · exact same ▸ h.isScan_localDeclarations scope name ns

/-- A name that is declared in a document and again inside a function of it. -/
theorem isScan_shadowedTree :
    shadowedTree.IsTree ∧ shadowedTree.IsScan 0 "x" .value [3] ∧
      shadowedTree.IsScan 0 "x" .function [3, 10] ∧ [3].Sublist [3, 10] := by
  have h : shadowedTree.IsTree := isTree_of_build build_shadowing
  have scans := isScan_iff h 0 "x"
  have value : shadowedTree.localDeclarations 0 "x" .value = [3] := by decide +kernel
  have function : shadowedTree.localDeclarations 0 "x" .function = [3, 10] := by decide +kernel
  refine ⟨h, (scans.1 .value [3]).mpr value.symm, (scans.1 .function [3, 10]).mpr function.symm, ?_⟩
  rw [← value, ← function]
  exact scans.2

end SyntaxTree

end LinksBinding
