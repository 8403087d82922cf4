import LinksBinding.Proofs.Splitting

/-!
# Trees with other literals

Repairing spans moves constants, cuts strings and texts into lines, and adds leaves for the further
lines. Only literals are concerned. `Extends` says that one tree is another with such changes: what
is no literal stays what and where it is, every node keeps its parent, and new children come behind
old ones. From a node that was there before, the ways up are the same in both trees, and a walk down
passes the same nodes with new literals in between (`Extends.filter_walk_children`).

The repair of a tree extends it in this sense (`extends_repair`).
-/

namespace LinksBinding

namespace Kind

/-- Whether the node is a constant or text. -/
def isLiteral : Kind → Bool
  | .constant _ | .text _ => true
  | _ => false

/-- What holds of constants and of text holds of literals. -/
theorem forall_literal {P : Kind → Prop} (constant : ∀ literal, P (.constant literal))
    (text : ∀ content, P (.text content)) : ∀ kind, kind.isLiteral = true → P kind := by
  intro kind isLiteral
  cases kind with
  | constant literal => exact constant literal
  | text content => exact text content
  | _ => cases isLiteral

theorem isLiteral_of_isConstant {kind : Kind} (h : kind.isConstant = true) :
    kind.isLiteral = true := by
  cases kind with
  | constant literal => rfl
  | _ => cases h

theorem isLiteral_of_text? {kind : Kind} (h : kind.text?.isSome = true) :
    kind.isLiteral = true := by
  cases kind with
  | constant literal => rfl
  | text content => rfl
  | _ => cases h

theorem isLeafKind_of_isLiteral : ∀ kind : Kind, kind.isLiteral = true → kind.isLeafKind = true :=
  forall_literal (fun _ => rfl) fun _ => rfl

end Kind

namespace SyntaxTree

variable {tree other : SyntaxTree} {id : NodeId} {kind : Kind} {span : ParserSpan}

/-! ## What is no literal -/

/-- What a node is and where it stands, unless it is a literal. -/
def plainOf (node : SyntaxNode) : Option (Kind × ParserSpan) :=
  if node.kind.isLiteral then none else some (node.kind, node.span)

/-- What the node of that number is and where it stands, unless it is a literal. -/
def plain? (tree : SyntaxTree) (id : NodeId) : Option (Kind × ParserSpan) :=
  (tree.get? id).bind plainOf

theorem plain?_of_get? {node : SyntaxNode} (found : tree.get? id = some node) :
    tree.plain? id = if node.kind.isLiteral then none else some (node.kind, node.span) := by
  rw [plain?, found, Option.bind_some, plainOf]

theorem get?_of_plain? (plain : tree.plain? id = some (kind, span)) :
    ∃ node, tree.get? id = some node ∧ node.kind = kind ∧ node.span = span := by
  obtain ⟨node, found, plain⟩ := Option.bind_eq_some_iff.mp plain
  rw [plainOf] at plain
  split at plain
  · cases plain
  · cases plain
    exact ⟨node, found, rfl, rfl⟩

theorem kind?_of_plain? (plain : tree.plain? id = some (kind, span)) :
    tree.kind? id = some kind := by
  obtain ⟨node, found, rfl, -⟩ := get?_of_plain? plain
  exact kind?_of_get? found

theorem span?_of_plain? (plain : tree.plain? id = some (kind, span)) :
    tree.span? id = some span := by
  obtain ⟨node, found, -, rfl⟩ := get?_of_plain? plain
  exact span?_of_get? found

/-- Where nothing plain stands, there is nothing or a literal. -/
theorem isLiteral_of_plain? (none : tree.plain? id = none) (is : tree.kind? id = some kind) :
    kind.isLiteral = true := by
  obtain ⟨node, found, rfl⟩ := Option.map_eq_some_iff.mp is
  rw [plain?_of_get? found] at none
  split at none
  · assumption
  · cases none

theorem plain?_of_kind? (is : tree.kind? id = some kind) (plain : kind.isLiteral = false) :
    ∃ span, tree.plain? id = some (kind, span) := by
  obtain ⟨node, found, rfl⟩ := Option.map_eq_some_iff.mp is
  exact ⟨node.span, by rw [plain?_of_get? found, plain]; rfl⟩

/-- What does not tell a literal from nothing depends on the plain nodes only. -/
theorem eq_of_blind {α : Type} {g : Option Kind → α}
    (blind : ∀ kind, kind.isLiteral = true → g (some kind) = g none) (tree : SyntaxTree)
    (id : NodeId) : g (tree.kind? id) = g ((tree.plain? id).map (·.1)) := by
  cases found : tree.get? id with
  | none => rw [kind?, plain?, found]; rfl
  | some node =>
    rw [kind?_of_get? found, plain?_of_get? found]
    split
    · rename_i literal
      exact blind _ literal
    · rfl

/-! ## Extensions -/

/-- `other` is `tree` with other literals. There may be further ones among the children of a node,
and those that were there may have another text and another span. -/
structure Extends (tree other : SyntaxTree) : Prop where
  /-- the nodes of the table keep their numbers -/
  size_le : tree.size ≤ other.size
  /-- they keep their parents -/
  parent : ∀ id, id < tree.size → other.parent? id = tree.parent? id
  /-- they are listed in the same order -/
  children : ∀ id, (other.children id).filter (· < tree.size) = tree.children id
  /-- the first child remains the first, and what had no children has none -/
  first : ∀ id, (other.children id).head? = (tree.children id).head?
  /-- what is no literal remains what and where it is -/
  plain : ∀ id, other.plain? id = tree.plain? id

/-- A list is gone through without the members that give nothing. -/
theorem flatMap_filter {p : NodeId → Bool} {f : NodeId → List NodeId} {ids : List NodeId}
    (nothing : ∀ id ∈ ids, p id = false → f id = []) : (ids.filter p).flatMap f = ids.flatMap f := by
  induction ids with
  | nil => rfl
  | cons id ids ih =>
    obtain ⟨here, later⟩ := List.forall_mem_cons.mp nothing
    cases keep : p id with
    | true => rw [List.filter_cons_of_pos keep, List.flatMap_cons, List.flatMap_cons, ih later]
    | false =>
      rw [List.filter_cons_of_neg (by simp [keep]), List.flatMap_cons, here keep, ih later,
        List.nil_append]

namespace Extends

theorem trans {third : SyntaxTree} (x : tree.Extends other) (y : other.Extends third) :
    tree.Extends third where
  size_le := Nat.le_trans x.size_le y.size_le
  parent id old := (y.parent id (Nat.lt_of_lt_of_le old x.size_le)).trans (x.parent id old)
  children id := by
    rw [← x.children, ← y.children, List.filter_filter]
    refine List.filter_congr fun child _ => ?_
    rw [← Bool.decide_and]
    exact decide_eq_decide.mpr
      ⟨fun old => ⟨old, Nat.lt_of_lt_of_le old x.size_le⟩, fun both => both.1⟩
  first id := (y.first id).trans (x.first id)
  plain id := (y.plain id).trans (x.plain id)

/-- What comes later has no children. -/
theorem children_new (x : tree.Extends other) {id : Nat} (new : tree.size ≤ id) :
    other.children id = [] := by
  rw [← List.head?_eq_none_iff, x.first, children_eq_nil new, List.head?_nil]

section Kinds

variable (x : tree.Extends other) {p : Kind → Bool}

include x

theorem bind_kind? {α : Type} {f : Kind → Option α}
    (never : ∀ kind, kind.isLiteral = true → f kind = none) (id : NodeId) :
    (other.kind? id).bind f = (tree.kind? id).bind f := by
  rw [eq_of_blind (g := (·.bind f)) never, eq_of_blind (g := (·.bind f)) never, x.plain]

theorem hasKind (never : ∀ kind, kind.isLiteral = true → p kind = false) (id : NodeId) :
    other.hasKind p id = tree.hasKind p id := by
  rw [SyntaxTree.hasKind, SyntaxTree.hasKind, eq_of_blind (g := (·.any p)) never,
    eq_of_blind (g := (·.any p)) never, x.plain]

/-- What is true of all literals is true of a node if it was before. -/
theorem kind_eq (always : ∀ kind, kind.isLiteral = true → p kind = true)
    {node node' : SyntaxNode} (found : tree.get? id = some node)
    (found' : other.get? id = some node') : p node'.kind = p node.kind := by
  -- its negation is true of no literal
  have never : ∀ kind, kind.isLiteral = true → (!p kind) = false := fun kind literal => by
    rw [always kind literal, Bool.not_true]
  have same := x.hasKind never id
  rwa [hasKind_of_get? found, hasKind_of_get? found', Bool.not_inj_iff] at same

end Kinds

/-! ### Ways up -/

section Climbing

variable (x : tree.Extends other) (h : tree.IsTree) (h' : other.IsTree)

include x h h'

theorem ancestors {id : Nat} (old : id < tree.size) : other.ancestors id = tree.ancestors id := by
  -- a node has at most as many ancestors as its number says, in both tables
  have fuel : other.ancestors id = other.climb tree.size id :=
    h'.climb_eq (Nat.le_of_lt (Nat.lt_of_lt_of_le old x.size_le)) (Nat.le_of_lt old)
  rw [fuel, h.climb_of_parent? x.parent _ old, SyntaxTree.ancestors]

theorem nearestAncestor? {p : Kind → Bool}
    (never : ∀ kind, kind.isLiteral = true → p kind = false) (old : id < tree.size) :
    other.nearestAncestor? p id = tree.nearestAncestor? p id := by
  have kinds : other.hasKind p = tree.hasKind p := funext (x.hasKind never)
  rw [nearestAncestor?_eq_find?, nearestAncestor?_eq_find?, x.ancestors h h' old, kinds]

end Climbing

/-! ### Walks down -/

section Walking

variable (x : tree.Extends other) (h : tree.IsTree) (h' : other.IsTree) {descend : Kind → Bool}
  (always : ∀ kind, kind.isLiteral = true → descend kind = true)

include x h'

/-- In what stands below a new child nothing was there before. -/
theorem filter_subtree_new {id : Nat} (new : tree.size ≤ id) (inside : id < other.size) :
    (other.subtree descend id).filter (· < tree.size) = [] := by
  obtain ⟨node, found⟩ := exists_get? inside
  have childless : node.children = [] := by rw [← children_of_get? found, x.children_new new]
  rw [h'.subtree_eq descend found, childless, List.flatMap_nil, ite_self,
    List.filter_cons_of_neg (by simpa using new), List.filter_nil]

/-- Below the children of a node stands what stood there, if that is so for each child. -/
theorem filter_subtrees_of {id : NodeId}
    (each : ∀ child ∈ tree.children id,
      (other.subtree descend child).filter (· < tree.size) = tree.subtree descend child) :
    ((other.children id).flatMap (other.subtree descend)).filter (· < tree.size) =
      (tree.children id).flatMap (tree.subtree descend) := by
  rw [List.filter_flatMap, ← flatMap_filter (p := (· < tree.size)), x.children]
  · exact List.flatMap_congr each
  · intro child listed new
    exact x.filter_subtree_new h' (by simpa using new) (h'.child_lt_size listed)

include h always

/-- A subtree has what it had and literals. -/
theorem filter_subtree (old : id < tree.size) :
    (other.subtree descend id).filter (· < tree.size) = tree.subtree descend id := by
  refine h.induction_up old fun id node found ih => ?_
  have inside := lt_size_of_get? found
  obtain ⟨node', found'⟩ := exists_get? (Nat.lt_of_lt_of_le inside x.size_le)
  rw [h'.subtree_eq descend found', h.subtree_eq descend found, x.kind_eq always found found',
    List.filter_cons_of_pos (by simpa using inside)]
  split
  · rw [← children_of_get? found] at ih ⊢
    rw [← children_of_get? found', x.filter_subtrees_of h' ih]
  · rfl

/-- A walk over the children of a node passes the nodes that it passed, and literals. -/
theorem filter_walk_children (id : NodeId) :
    (other.walk descend (other.children id)).filter (· < tree.size) =
      tree.walk descend (tree.children id) := by
  rw [h'.walk_children, h.walk_children]
  exact x.filter_subtrees_of h' fun child listed =>
    x.filter_subtree h h' always (h.child_lt_size listed)

omit always

theorem filter_documentOrder :
    other.documentOrder.filter (· < tree.size) = tree.documentOrder := by
  rw [h'.documentOrder_eq, h.documentOrder_eq]
  exact x.filter_subtree h h' (fun _ _ => rfl) h.root_lt_size

end Walking

end Extends

/-! ## Repairs -/

/-- Repairing attribute values moves literals only. -/
theorem extends_repairAttributes (view : SourceView) (h : tree.IsTree) :
    tree.Extends (tree.repairAttributes view) := by
  have agree := agree_repairAttributes_constants view tree
  have children := agree.children keepsLinks_eraseConstantSpan
  refine ⟨Nat.le_of_eq agree.size.symm, fun id _ => agree.parent? keepsLinks_eraseConstantSpan id,
    fun id => ?_, fun id => by rw [children], fun id => ?_⟩
  · rw [children]
    exact List.filter_eq_self.mpr fun child listed => by simpa using h.child_lt_size listed
  · refine agree.eq_of_free (f := fun found => found.bind plainOf) ?_ id
    rintro (_ | node)
    · rfl
    · rw [Option.map_some, Option.bind_some, Option.bind_some, eraseConstantSpan]
      split
      · rename_i constant
        have literal := Kind.isLiteral_of_isConstant constant
        rw [plainOf, plainOf, if_pos literal, if_pos (by exact literal)]
      · rfl

/-- A node that is split keeps what is plain of it. -/
theorem plainOf_keepFirst (view : SourceView) (node : SyntaxNode) :
    plainOf (keepFirst view node) = plainOf node := by
  cases texted : node.kind.text? with
  | none => rw [keepFirst, texted]
  | some text =>
    have literal : node.kind.isLiteral = true := Kind.isLiteral_of_text? (by rw [texted]; rfl)
    have literal' : (keepFirst view node).kind.isLiteral = true :=
      Kind.isLiteral_of_text? (by rw [text?_keepFirst, texted]; rfl)
    rw [plainOf, plainOf, if_pos literal, if_pos literal']

theorem parent_keepFirst (view : SourceView) (node : SyntaxNode) :
    (keepFirst view node).parent = node.parent := by
  unfold keepFirst
  split <;> rfl

namespace Splits

variable {view : SourceView} {ids : List NodeId} {added : NodeId → List NodeId}

theorem parent? (s : Splits view tree other ids added) {id : Nat} (old : id < tree.size) :
    other.parent? id = tree.parent? id := by
  obtain ⟨node, found⟩ := exists_get? old
  rw [parent?_of_get? (s.old id node found), parent?_of_get? found]
  simp only
  split
  · exact parent_keepFirst view node
  · rfl

/-- Of what is listed after the splits, the nodes that were there before are the children before. -/
theorem filter_expand (s : Splits view tree other ids added) (h : tree.IsTree) (id : NodeId) :
    (expand added (tree.children id)).filter (· < tree.size) = tree.children id := by
  rw [expand, List.filter_flatMap]
  refine (List.flatMap_congr fun child listed => ?_).trans (List.flatMap_singleton' _)
  have new : ∀ leaf ∈ added child, ¬ leaf < tree.size := fun leaf mem =>
    Nat.not_lt_of_le (s.fresh child leaf mem)
  rw [List.filter_cons_of_pos (by simpa using h.child_lt_size listed),
    List.filter_eq_nil_iff.mpr (by simpa using new)]

section New

variable (s : Splits view tree other ids added) (h : tree.IsTree) (h' : other.IsTree)
  (inside : ∀ id ∈ ids, id < tree.size)

include s h h' inside

/-- What was not there before is a literal without children. -/
theorem literal_of_new {id : Nat} (new : tree.size ≤ id) {node : SyntaxNode}
    (found : other.get? id = some node) : node.kind.isLiteral = true ∧ node.children = [] := by
  obtain ⟨_, cut⟩ := s.mem_cutLeaves_of_new h h' inside new found
  exact ⟨Kind.isLiteral_of_text? (text?_cutLeaves view cut), children_cutLeaves view cut⟩

theorem children_of_new {id : Nat} (new : tree.size ≤ id) : other.children id = [] := by
  cases found : other.get? id with
  | none => rw [SyntaxTree.children, found]
  | some node => rw [children_of_get? found, (s.literal_of_new h h' inside new found).2]

theorem plain? (id : Nat) : other.plain? id = tree.plain? id := by
  by_cases old : id < tree.size
  · obtain ⟨node, found⟩ := exists_get? old
    rw [SyntaxTree.plain?, SyntaxTree.plain?, s.old id node found, found, Option.bind_some,
      Option.bind_some]
    split
    · exact plainOf_keepFirst view node
    · rfl
  · have new := Nat.le_of_not_lt old
    rw [SyntaxTree.plain?, SyntaxTree.plain?, get?_eq_none new, Option.bind_none]
    refine Option.bind_eq_none_iff.mpr fun node found => ?_
    rw [plainOf, if_pos (s.literal_of_new h h' inside new found).1]

/-- Splitting texts changes and adds literals only. -/
theorem extension : tree.Extends other where
  size_le := s.size_le
  parent _ old := s.parent? old
  children id := by
    by_cases old : id < tree.size
    · rw [s.children old, s.filter_expand h]
    · have new := Nat.le_of_not_lt old
      rw [s.children_of_new h h' inside new, children_eq_nil new, List.filter_nil]
  first id := by
    by_cases old : id < tree.size
    · -- what is added comes behind some child
      rw [s.children old, expand]
      cases tree.children id <;> rfl
    · have new := Nat.le_of_not_lt old
      rw [s.children_of_new h h' inside new, children_eq_nil new]
  plain := s.plain? h h' inside

end New

end Splits

theorem isTree_repair (view : SourceView) (h : tree.IsTree) : (tree.repair view).IsTree := by
  have isTree := (agree_repairAttributes view tree).isTree keepsLinks_eraseSpan h
  exact isTree.splitLiterals view

/-- Repairing spans changes and adds literals only. -/
theorem extends_repair (view : SourceView) (h : tree.IsTree) : tree.Extends (tree.repair view) := by
  have isTree := (agree_repairAttributes view tree).isTree keepsLinks_eraseSpan h
  obtain ⟨added, splits⟩ := splits_splitLiterals view isTree
  refine (extends_repairAttributes view h).trans
    (splits.extension isTree (isTree_repair view h) fun id mem => ?_)
  exact isTree.mem_documentOrder_iff.mp (List.mem_of_mem_filter mem)

end SyntaxTree

end LinksBinding
