import LinksBinding.Proofs.Layout

/-!
# The layout node by node

The nodes of the parser's output are listed in preorder by the ways that lead to them
(`RawTree.places`). A tree that is laid out has a node for each of these and in their order, with
the shape and the span that are reported, the kind that the label says, and the children that are
reported (`SyntaxTree.Mirrors`).

The one thing that is not reported is how a binder introduces its name. The layout carries that role
down from the nodes above; here it is what the nearest node above the binder decides
(`SyntaxTree.HasRole`).
-/

namespace LinksBinding

namespace RawTree

mutual
/-- The ways to the nodes of a tree, in preorder. -/
def places : RawTree → List (List Nat)
  | .node _ _ _ children => [] :: placesOfList 0 children

/-- The ways to the nodes of children, from their parent, in preorder. The first of the children has
the number `position`. -/
def placesOfList (position : Nat) : List RawTree → List (List Nat)
  | [] => []
  | tree :: rest => (places tree).map (position :: ·) ++ placesOfList (position + 1) rest
end

mutual
theorem length_places (tree : RawTree) : tree.places.length = tree.size := by
  match tree with
  | .node _ _ _ children =>
    rw [places, List.length_cons, length_placesOfList, size]

theorem length_placesOfList (position : Nat) (trees : List RawTree) :
    (placesOfList position trees).length = sizeOfList trees := by
  match trees with
  | [] => rfl
  | tree :: rest =>
    rw [placesOfList, List.length_append, List.length_map, length_places, length_placesOfList,
      sizeOfList]
end

/-- The nodes of a child are listed behind those of the children before it. -/
theorem getElem?_placesOfList {position : Nat} {trees : List RawTree} {k : Nat}
    {steps : List Nat} :
    (placesOfList position trees)[k]? = some steps ↔
      ∃ step below child, steps = (position + step) :: below ∧ trees[step]? = some child ∧
        ∃ inner, child.places[inner]? = some below ∧
          k = sizeOfList (trees.take step) + inner := by
  induction trees generalizing position k with
  | nil => simp [placesOfList]
  | cons tree rest ih =>
    have length : ((places tree).map (position :: ·)).length = tree.size := by
      rw [List.length_map, length_places]
    rw [placesOfList]
    constructor
    · intro listed
      by_cases here : k < tree.size
      · rw [List.getElem?_append_left (by rwa [length]), List.getElem?_map] at listed
        obtain ⟨below, found, rfl⟩ := Option.map_eq_some_iff.mp listed
        exact ⟨0, below, tree, rfl, rfl, k, found, (Nat.zero_add k).symm⟩
      · rw [List.getElem?_append_right (by omega), length] at listed
        obtain ⟨step, below, child, rfl, there, inner, listed, beyond⟩ := ih.mp listed
        refine ⟨step + 1, below, child, ?_, there, inner, listed, ?_⟩
        · rw [Nat.add_assoc, Nat.add_comm 1]
        · rw [List.take_succ_cons, sizeOfList]
          omega
    · rintro ⟨step, below, child, rfl, there, inner, listed, rfl⟩
      cases step with
      | zero =>
        cases there
        have inside : inner < tree.size := by
          rw [← length_places]
          exact (List.getElem?_eq_some_iff.mp listed).1
        rw [List.take_zero, sizeOfList, Nat.zero_add, List.getElem?_append_left (by rwa [length]),
          List.getElem?_map, listed]
        rfl
      | succ step =>
        rw [List.take_succ_cons, sizeOfList, Nat.add_assoc,
          List.getElem?_append_right (by rw [length]; exact Nat.le_add_right ..), length,
          Nat.add_sub_cancel_left]
        refine ih.mpr ⟨step, below, child, ?_, there, inner, listed, rfl⟩
        rw [Nat.add_assoc, Nat.add_comm 1]

/-- The ways that are listed are those that lead to a node, each at the number of that node. -/
theorem getElem?_places {tree : RawTree} {id : Nat} {steps : List Nat} :
    tree.places[id]? = some steps ↔
      (∃ node, tree.at? steps = some node) ∧ tree.number steps = id := by
  induction steps generalizing tree id with
  | nil =>
    cases tree with
    | node shape label span children =>
      cases id with
      | zero => simp [places, at?, number]
      | succ k =>
        rw [places, List.getElem?_cons_succ, getElem?_placesOfList]
        simp [number]
  | cons step below ih =>
    cases tree with
    | node shape label span children =>
      have inside : (RawTree.node shape label span children).places[id]? = some (step :: below) ↔
          ∃ child, children[step]? = some child ∧ ∃ inner, child.places[inner]? = some below ∧
            1 + sizeOfList (children.take step) + inner = id := by
        cases id with
        | zero =>
          simp only [places, List.getElem?_cons_zero]
          grind
        | succ k =>
          rw [places, List.getElem?_cons_succ, getElem?_placesOfList]
          grind
      rw [inside, at?, number]
      cases children[step]? with
      | none => simp
      | some child =>
        simp only [Option.some.injEq, exists_eq_left', ih, Option.bind_some]
        grind

theorem length_rootNumbers (next : NodeId) (trees : List RawTree) :
    (rootNumbers next trees).length = trees.length := by
  induction trees generalizing next with
  | nil => rfl
  | cons tree rest ih => rw [rootNumbers, List.length_cons, ih, List.length_cons]

/-- Children that are numbered one behind the other have the numbers of the nodes one step further
down. -/
theorem getElem?_rootNumbers (next : NodeId) (trees : List RawTree) (step : Nat) :
    (rootNumbers next trees)[step]? =
      (trees[step]?).map fun _ => next + sizeOfList (trees.take step) := by
  induction trees generalizing next step with
  | nil => rfl
  | cons tree rest ih =>
    cases step with
    | zero => rfl
    | succ step =>
      rw [rootNumbers, List.getElem?_cons_succ, List.getElem?_cons_succ, ih, List.take_succ_cons,
        sizeOfList, Nat.add_assoc]

end RawTree

namespace Kind

theorem withRole_withRole (kind : Kind) (role other : BinderRole) :
    (kind.withRole role).withRole other = kind.withRole other := by
  cases kind <;> rfl

/-- Binders decide no role, whichever they have. -/
theorem decidesRole?_withRole (kind : Kind) (role : BinderRole) :
    (kind.withRole role).decidesRole? = kind.decidesRole? := by
  cases kind <;> rfl

/-- Binders below a node of the kind have the role, unless a node in between decides otherwise. -/
inductive Decides : Kind → BinderRole → Prop where
  | parameters : Decides .parameters .parameter
  | generator : Decides .generator .loopVariable
  | formBinding : Decides .formBinding .formBinding
  | update : Decides .update .updateCursor
  | deletion : Decides .deletion .updateCursor
  | declaration : Decides .declaration .letBinding
  | function (name : String) : Decides (.function name) .letBinding
  | functionGroup : Decides .functionGroup .letBinding
  | lambda : Decides .lambda .letBinding

theorem decidesRole?_eq_some_iff {kind : Kind} {role : BinderRole} :
    kind.decidesRole? = some role ↔ kind.Decides role := by
  constructor
  · intro decides
    cases kind <;> cases decides <;> constructor
  · rintro ⟨⟩ <;> rfl

end Kind

namespace SyntaxTree

variable {tree : SyntaxTree}

/-! ## Roles of binders -/

/-- The node decides which role binders below it have. -/
def DecidesRole (tree : SyntaxTree) (id : NodeId) : Prop :=
  ∃ kind role, tree.kind? id = some kind ∧ kind.Decides role

/-- The role of a binder at `id`: what the nearest of the nodes above it decides that decides a
role, and that of a `var` declaration if none does. -/
def HasRole (tree : SyntaxTree) (id : NodeId) (role : BinderRole) : Prop :=
  (∃ above kind, tree.Encloses above id ∧ tree.kind? above = some kind ∧ kind.Decides role ∧
      ∀ between, tree.Encloses above between → tree.Encloses between id →
        ¬ tree.DecidesRole between) ∨
    role = .letBinding ∧ ∀ above, tree.Encloses above id → ¬ tree.DecidesRole above

theorem hasRole_of_orphan {id : NodeId} (orphan : tree.parent? id = none) :
    tree.HasRole id .letBinding :=
  .inr ⟨rfl, fun _ above => absurd above (not_encloses_of_orphan orphan)⟩

/-- Below a node that decides no role, the nodes above it decide. -/
theorem IsTree.hasRole_child (h : tree.IsTree) {id parent : NodeId} {kind : Kind}
    {role : BinderRole} (up : tree.parent? id = some parent)
    (found : tree.kind? parent = some kind) (above : tree.HasRole parent role) :
    tree.HasRole id (kind.decidesRole?.getD role) := by
  cases decides : kind.decidesRole? with
  | some decided =>
    refine .inl ⟨parent, kind, .single up, found, Kind.decidesRole?_eq_some_iff.mp decides, ?_⟩
    intro between lower higher
    rcases higher.parent_or up with rfl | outer
    · exact absurd lower (h.not_encloses_self _)
    · exact absurd (lower.trans outer) (h.not_encloses_self _)
  | none =>
    have undecided : ¬ tree.DecidesRole parent := by
      rintro ⟨kind', role', found', decides'⟩
      cases found.symm.trans found'
      rw [← Kind.decidesRole?_eq_some_iff, decides] at decides'
      cases decides'
    rcases above with ⟨decider, kind', outer, is, decides', free⟩ | ⟨rfl, free⟩
    · refine .inl ⟨decider, kind', outer.trans (.single up), is, decides', ?_⟩
      intro between lower higher
      rcases higher.parent_or up with rfl | higher
      · exact undecided
      · exact free between lower higher
    · refine .inr ⟨rfl, fun outer above => ?_⟩
      rcases above.parent_or up with rfl | above
      · exact undecided
      · exact free outer above

mutual
/-- In a run, every binder has the role that the nodes above it decide, if the first node of the run
does. -/
theorem layNode_role (ht : tree.IsTree) {path : NodePath} {role : BinderRole}
    {parent : Option NodeId} {id : NodeId} {raw : RawTree} {nodes : List SyntaxNode}
    (h : layNode path role parent id raw = .ok nodes) (held : tree.Holds id nodes)
    (above : tree.HasRole id role) (k : Nat) (node : SyntaxNode) (listed : nodes[k]? = some node) :
    ∃ role, tree.HasRole (id + k) role ∧ node.kind.withRole role = node.kind := by
  match raw with
  | .node shape label span children =>
    obtain ⟨-, kind, ids, below, -, -, laid, rfl⟩ := layNode_eq_ok h
    cases k with
    | zero =>
      cases listed
      exact ⟨role, above, Kind.withRole_withRole ..⟩
    | succ k =>
      rw [Nat.add_comm k 1, ← Nat.add_assoc]
      refine layChildren_role ht laid held.tail (kind?_of_get? held.head) ?_ above k node listed
      rw [Kind.decidesRole?_withRole]

theorem layChildren_role (ht : tree.IsTree) {path : NodePath} {role role' : BinderRole}
    {parent : NodeId} {position : Nat} {next : NodeId} {raws : List RawTree} {ids : List NodeId}
    {below : List SyntaxNode}
    (h : layChildren path role' parent position next raws = .ok (ids, below))
    (held : tree.Holds next below) {kind : Kind} (found : tree.kind? parent = some kind)
    (decided : kind.decidesRole?.getD role = role') (above : tree.HasRole parent role) (k : Nat)
    (node : SyntaxNode) (listed : below[k]? = some node) :
    ∃ role, tree.HasRole (next + k) role ∧ node.kind.withRole role = node.kind := by
  match raws with
  | [] =>
    cases h
    cases listed
  | raw :: rest =>
    obtain ⟨nodes, others, more, first, laid, rfl, rfl⟩ := layChildren_cons_eq_ok h
    by_cases here : k < nodes.length
    · rw [List.getElem?_append_left here] at listed
      have has := ht.hasRole_child (layNode_parent first held.left) found above
      rw [decided] at has
      exact layNode_role ht first held.left has k node listed
    · rw [List.getElem?_append_right (Nat.le_of_not_lt here)] at listed
      have beyond := layChildren_role ht laid held.right found decided above (k - nodes.length) node
        listed
      rwa [Nat.add_assoc, Nat.add_sub_cancel' (Nat.le_of_not_lt here)] at beyond
end

/-- Every binder of a tree that is laid out has the role that the nodes above it decide. -/
theorem exists_hasRole_ofRaw {raw : RawTree} (h : ofRaw raw = .ok tree) {id : NodeId}
    {node : SyntaxNode} (found : tree.get? id = some node) :
    ∃ role, tree.HasRole id role ∧ node.kind.withRole role = node.kind := by
  have isTree := isTree_ofRaw h
  obtain ⟨nodes, laid, rfl⟩ := ofRaw_eq_ok h
  have held := holds_toArray nodes
  have top := hasRole_of_orphan (layNode_parent laid held)
  rw [get?, List.getElem?_toArray] at found
  have has := layNode_role isTree laid held top id node found
  rwa [root, Nat.zero_add] at has

/-! ## Nodes in preorder -/

/-- The node `node` with the number `id` is what `reported` asks for, which is at `place` in the
parser's output. -/
structure Depicts (tree : SyntaxTree) (raw : RawTree) (id : NodeId) (place : List Nat)
    (node : SyntaxNode) (reported : RawTree) : Prop where
  /-- the shape is the one reported -/
  shape : node.shape = reported.shape
  /-- so is the span -/
  span : node.span = reported.span
  /-- the kind is what the label says, for a binder with the role that the nodes above decide -/
  kind : ∃ kind role, decodeLabel reported.label = .ok kind ∧ tree.HasRole id role ∧
    node.kind = kind.withRole role
  /-- there are as many children as are reported -/
  size : node.children.length = reported.children.length
  /-- each of them has the number of the child that is reported in its place -/
  child : ∀ step child, node.children[step]? = some child →
    raw.places[child]? = some (place ++ [step])

/-- `tree` holds the nodes that the parser reports as `raw`, in preorder. -/
structure Mirrors (tree : SyntaxTree) (raw : RawTree) : Prop where
  /-- parents and children refer to each other -/
  isTree : tree.IsTree
  /-- there are as many nodes as are reported -/
  size : tree.size = raw.size
  /-- all of these are listed -/
  listed : raw.places.length = raw.size
  /-- each number stands for the node that is listed at it -/
  node : ∀ id place, raw.places[id]? = some place → ∃ node reported,
    tree.get? id = some node ∧ raw.at? place = some reported ∧
      tree.Depicts raw id place node reported

/-- A tree that is laid out mirrors what is reported. -/
theorem mirrors_ofRaw {raw : RawTree} (h : ofRaw raw = .ok tree) : tree.Mirrors raw where
  isTree := isTree_ofRaw h
  size := size_ofRaw h
  listed := raw.length_places
  node id place listed := by
    obtain ⟨⟨⟨shape, label, span, children⟩, found⟩, rfl⟩ := RawTree.getElem?_places.mp listed
    obtain ⟨kind, role, parent, decoded, -, stands⟩ := get?_ofRaw h found
    obtain ⟨role', has, same⟩ := exists_hasRole_ofRaw h stands
    refine ⟨_, _, stands, found, rfl, rfl, ⟨kind, role', decoded, has, ?_⟩, ?_, ?_⟩
    · rw [← same, Kind.withRole_withRole]
    · exact RawTree.length_rootNumbers ..
    · intro step child listed
      rw [RawTree.getElem?_rootNumbers] at listed
      obtain ⟨below, there, rfl⟩ := Option.map_eq_some_iff.mp listed
      rw [RawTree.getElem?_places, RawTree.at?_child found, RawTree.number_child found there]
      exact ⟨⟨below, there⟩, rfl⟩

/-- Output for `fun f((a, _)) { for ((b, _) <- a) { var (c, _) = b } }`, with tuples for the
patterns. -/
def patterns : RawTree :=
  .interior "Fun: f" ⟨⟨1, 1⟩, ⟨1, 55⟩⟩
    [.interior "Params" ⟨⟨1, 6⟩, ⟨1, 14⟩⟩
      [.interior "TupleLit" ⟨⟨1, 7⟩, ⟨1, 13⟩⟩ [.leaf "Binder: a" ⟨⟨1, 8⟩, ⟨1, 9⟩⟩]],
    .interior "Iteration" ⟨⟨1, 17⟩, ⟨1, 53⟩⟩
      [.interior "Generator" ⟨⟨1, 22⟩, ⟨1, 33⟩⟩
        [.interior "TupleLit" ⟨⟨1, 22⟩, ⟨1, 28⟩⟩ [.leaf "Binder: b" ⟨⟨1, 23⟩, ⟨1, 24⟩⟩],
        .leaf "Variable: a" ⟨⟨1, 32⟩, ⟨1, 33⟩⟩],
      .interior "Val" ⟨⟨1, 37⟩, ⟨1, 51⟩⟩
        [.interior "TupleLit" ⟨⟨1, 41⟩, ⟨1, 47⟩⟩ [.leaf "Binder: c" ⟨⟨1, 42⟩, ⟨1, 43⟩⟩],
        .leaf "Variable: b" ⟨⟨1, 50⟩, ⟨1, 51⟩⟩]]]

/-- The tree of that output. -/
def patternsTree : SyntaxTree :=
  ⟨#[⟨.interior, .function "f", ⟨⟨1, 1⟩, ⟨1, 55⟩⟩, none, [1, 4]⟩,
    ⟨.interior, .parameters, ⟨⟨1, 6⟩, ⟨1, 14⟩⟩, some 0, [2]⟩,
    ⟨.interior, .other "TupleLit" none, ⟨⟨1, 7⟩, ⟨1, 13⟩⟩, some 1, [3]⟩,
    ⟨.leaf, .binder "a" .parameter, ⟨⟨1, 8⟩, ⟨1, 9⟩⟩, some 2, []⟩,
    ⟨.interior, .iteration, ⟨⟨1, 17⟩, ⟨1, 53⟩⟩, some 0, [5, 9]⟩,
    ⟨.interior, .generator, ⟨⟨1, 22⟩, ⟨1, 33⟩⟩, some 4, [6, 8]⟩,
    ⟨.interior, .other "TupleLit" none, ⟨⟨1, 22⟩, ⟨1, 28⟩⟩, some 5, [7]⟩,
    ⟨.leaf, .binder "b" .loopVariable, ⟨⟨1, 23⟩, ⟨1, 24⟩⟩, some 6, []⟩,
    ⟨.leaf, .variable "a", ⟨⟨1, 32⟩, ⟨1, 33⟩⟩, some 5, []⟩,
    ⟨.interior, .declaration, ⟨⟨1, 37⟩, ⟨1, 51⟩⟩, some 4, [10, 12]⟩,
    ⟨.interior, .other "TupleLit" none, ⟨⟨1, 41⟩, ⟨1, 47⟩⟩, some 9, [11]⟩,
    ⟨.leaf, .binder "c" .letBinding, ⟨⟨1, 42⟩, ⟨1, 43⟩⟩, some 10, []⟩,
    ⟨.leaf, .variable "b", ⟨⟨1, 50⟩, ⟨1, 51⟩⟩, some 9, []⟩]⟩

/-- The output is laid out, and binders inside patterns take the role that is introduced around the
pattern. -/
theorem mirrors_patterns :
    ofRaw patterns = .ok patternsTree ∧ patternsTree.Mirrors patterns ∧
      [3, 7, 11].map patternsTree.kind? = [some (.binder "a" .parameter),
        some (.binder "b" .loopVariable), some (.binder "c" .letBinding)] :=
  have laid : ofRaw patterns = .ok patternsTree := by decide +kernel
  ⟨laid, mirrors_ofRaw laid, by decide +kernel⟩

end SyntaxTree

end LinksBinding
