import LinksBinding.Proofs.Embedding
import LinksBinding.Proofs.Refusal
import LinksBinding.Proofs.Splitting

/-!
# Writing what was read

A node of leaf shape may be read with children, but is written without them. So a tree that is read,
written and read again comes back without the nodes below one of leaf shape. What is then built of
it is the same exactly if there were none, or if the tree is refused for something else
(`RawTree.rereads`).

That it comes back at all takes that its spans run forward and that it is not too deep. Both are
asked of each node when it is read (`RawTree.bounds_of_at?`). That something else is built of a tree
which has lost nodes is seen at the nodes of leaf shape: in the built tree these have children
exactly if they are reported with children (`SyntaxTree.bareLeaves_iff_of_build`).
-/

namespace LinksBinding

open Text

/-- A span that is read runs forward. -/
theorem ParserSpan.forward_of_decode? {text : String} {span : ParserSpan}
    (read : decode? text = some span) : span.Forward := by
  simp only [decode?, Option.bind_eq_bind, Option.bind_eq_some_iff] at read
  obtain ⟨-, -, start, -, stop, -, read⟩ := read
  split at read
  · rename_i forward
    cases read
    exact forward
  · cases read

/-- An error that counts no steps names one node. -/
theorem TreeError.IsFoundAt.unique {e : TreeError} {path path' : NodePath} (here : e.IsFoundAt path)
    (there : e.IsFoundAt path') (counts : ∀ depth, e ≠ .tooDeep depth) : path = path' := by
  cases e with
  | invalidJson => cases here
  | tooDeep depth => exact absurd rfl (counts depth)
  | _ => exact here.symm.trans there

namespace RawTree

variable {tree raw : RawTree} {steps : List Nat} {node : RawTree} {path : NodePath} {value : Json}

theorem follow?_children (tree : RawTree) (steps : List Nat) :
    follow? children tree steps = tree.at? steps := by
  induction steps generalizing tree with
  | nil => rfl
  | cons step steps ih =>
    obtain ⟨shape, label, span, below⟩ := tree
    rw [follow?, at?, children]
    exact congrArg _ (funext ih)

/-! ## What is asked of a node that is read -/

theorem forward_of_headOf {shape label span : Json} {head : Shape × String × ParserSpan}
    (read : headOf path shape label span = .ok head) : head.2.2.Forward := by
  unfold headOf at read
  split at read
  · cases read
  · split at read
    · split at read
      · split at read
        · rename_i decoded
          cases read
          exact ParserSpan.forward_of_decode? decoded
        · cases read
      · cases read
    · cases read

/-- A node is read if the way to it is not too long and its span runs forward. -/
theorem bounds_of_ofJsonAt (read : ofJsonAt path value = .ok tree) :
    path.length ≤ maxTreeDepth ∧ tree.span.Forward := by
  unfold ofJsonAt at read
  split at read
  · cases read
  · rename_i admitted
    refine ⟨Nat.le_of_not_lt admitted, ?_⟩
    split at read
    · obtain ⟨head, ofHead, rfl⟩ := map_eq_ok_iff.mp read
      exact forward_of_headOf ofHead
    · split at read
      · cases read
      · rename_i ofHead
        split at read
        · cases read
          exact forward_of_headOf ofHead
        · obtain ⟨below, -, rfl⟩ := map_eq_ok_iff.mp read
          exact forward_of_headOf ofHead
        · cases read
    · cases read
    · cases read

/-- So it is with all nodes of a tree that is read. -/
theorem bounds_of_at? (read : ofJson value = .ok raw) (found : raw.at? steps = some node) :
    steps.length ≤ maxTreeDepth ∧ node.span.Forward := by
  rw [← follow?_children] at found
  obtain ⟨item, -, ofItem⟩ := follow?_of_ofJsonAt read found
  have bounds := bounds_of_ofJsonAt ofItem
  rwa [List.append_nil, List.length_reverse] at bounds

mutual
/-- The height is no more than the steps of the longest way to a node. -/
theorem height_le {tree : RawTree} {n : Nat}
    (h : ∀ steps node, tree.at? steps = some node → steps.length ≤ n) : tree.height ≤ n := by
  match tree with
  | .node shape label span children =>
    rw [height]
    refine heightOfList_le fun child mem steps node found => ?_
    obtain ⟨step, found⟩ := exists_at?_of_mem mem found
    exact h (step :: steps) node found

theorem heightOfList_le {trees : List RawTree} {n : Nat}
    (h : ∀ tree ∈ trees, ∀ steps node, tree.at? steps = some node → steps.length < n) :
    heightOfList trees ≤ n := by
  match trees with
  | [] => exact Nat.zero_le n
  | tree :: rest =>
    have some : 0 < n := h tree List.mem_cons_self [] tree (by cases tree; rfl)
    have first : tree.height ≤ n - 1 := height_le fun steps node found =>
      Nat.le_sub_one_of_lt (h tree List.mem_cons_self steps node found)
    have others : heightOfList rest ≤ n :=
      heightOfList_le fun other mem => h other (List.mem_cons_of_mem _ mem)
    rw [heightOfList]
    omega
end

/-! ## What is not written -/

/-- The steps lead to something below a node of leaf shape. -/
def UnderLeaf (tree : RawTree) (steps : List Nat) : Prop :=
  ∃ front step back outer, steps = front ++ step :: back ∧ tree.at? front = some outer ∧
    outer.shape = .leaf

theorem not_underLeaf_nil : ¬ tree.UnderLeaf [] := by
  rintro ⟨front, step, back, outer, split, -⟩
  exact absurd split.symm (by simp)

/-- What is below a node is below one of leaf shape if the node has that shape or if that is so from
its child. -/
theorem underLeaf_cons {shape : Shape} {label : String} {span : ParserSpan}
    {children : List RawTree} {step : Nat} :
    (RawTree.node shape label span children).UnderLeaf (step :: steps) ↔
      shape = .leaf ∨ ∃ child, children[step]? = some child ∧ child.UnderLeaf steps := by
  constructor
  · rintro ⟨front, last, back, outer, split, found, leaf⟩
    cases front with
    | nil =>
      cases found
      exact .inl leaf
    | cons first front =>
      cases split
      obtain ⟨child, listed, found⟩ := Option.bind_eq_some_iff.mp found
      exact .inr ⟨child, listed, front, last, back, outer, rfl, found, leaf⟩
  · rintro (rfl | ⟨child, listed, front, last, back, outer, rfl, found, leaf⟩)
    · exact ⟨[], step, steps, _, rfl, rfl, rfl⟩
    · exact ⟨step :: front, last, back, outer, rfl, by rw [at?, listed]; exact found, leaf⟩

theorem shape_pruneLeaves (tree : RawTree) : tree.pruneLeaves.shape = tree.shape := by
  obtain ⟨_ | _, label, span, children⟩ := tree <;> rw [pruneLeaves] <;> rfl

theorem children_pruneLeaves_of_leaf (leaf : tree.shape = .leaf) :
    tree.pruneLeaves.children = [] := by
  obtain ⟨shape, label, span, children⟩ := tree
  cases leaf
  rw [pruneLeaves, RawTree.children]

theorem pruneLeavesList_eq_map (trees : List RawTree) :
    pruneLeavesList trees = trees.map pruneLeaves := by
  induction trees with
  | nil => rfl
  | cons tree rest ih => rw [pruneLeavesList, ih, List.map_cons]

/-- The nodes that are left are those that are not below one of leaf shape, each with what is left
below it. -/
theorem at?_pruneLeaves_eq_some_iff : tree.pruneLeaves.at? steps = some node ↔
    ¬ tree.UnderLeaf steps ∧ ∃ was, tree.at? steps = some was ∧ was.pruneLeaves = node := by
  induction steps generalizing tree with
  | nil =>
    have here : ∀ tree : RawTree, tree.at? [] = some tree := fun tree => by cases tree; rfl
    simp only [here, Option.some_inj, not_underLeaf_nil, not_false_iff, true_and, exists_eq_left']
  | cons step steps ih =>
    match tree with
    | .node .leaf label span children =>
      simp [pruneLeaves, at?, underLeaf_cons]
    | .node .interior label span children =>
      rw [pruneLeaves, at?, at?, underLeaf_cons, pruneLeavesList_eq_map, List.getElem?_map]
      cases children[step]? with
      | none => simp
      | some child => simp [ih]

/-- What is left has no children below nodes of leaf shape. -/
theorem bareLeaves_pruneLeaves (tree : RawTree) : tree.pruneLeaves.BareLeaves := by
  intro steps node found leaf
  obtain ⟨-, was, -, rfl⟩ := at?_pruneLeaves_eq_some_iff.mp found
  rw [shape_pruneLeaves] at leaf
  exact children_pruneLeaves_of_leaf leaf

theorem pruneLeaves_eq_self_iff : tree.pruneLeaves = tree ↔ tree.BareLeaves :=
  ⟨fun same => same ▸ bareLeaves_pruneLeaves tree, pruneLeaves_eq_self⟩

/-! ## What is wrong with what is left -/

/-- The fault that a node loses when it is not written with its children. -/
def lostFaults (path : NodePath) (tree : RawTree) : List TreeError :=
  faultIf
    (tree.shape = .leaf ∧ (splitLabel tree.label).1 ∈ leafTags ∧ tree.children.isEmpty = false)
    (.unexpectedChildren path tree.label)

/-- A node has the faults of what is left of it, and behind them the one that it loses. -/
theorem faults_eq_append (path : NodePath) (tree : RawTree) :
    tree.faults path = tree.pruneLeaves.faults path ++ tree.lostFaults path := by
  match tree with
  | .node .leaf label span below =>
    simp [pruneLeaves, faults, lostFaults, RawTree.label, children, shape]
  | .node .interior label span below =>
    simp [pruneLeaves, faults, lostFaults, RawTree.label, children, shape, pruneLeavesList_eq_map]

/-- The error is about a node that is lost, or says that children are too many which are lost. -/
def IsLost (tree : RawTree) (e : TreeError) : Prop :=
  ∃ steps, e.IsFoundAt steps.reverse ∧ (tree.UnderLeaf steps ∨
    ∃ node, tree.at? steps = some node ∧ node.shape = .leaf ∧
      e = .unexpectedChildren steps.reverse node.label)

/-- A fault of what is left is not lost. -/
theorem not_isLost {e : TreeError} (there : tree.pruneLeaves.at? steps = some node)
    (mem : e ∈ node.faults steps.reverse) (counts : ∀ depth, e ≠ .tooDeep depth) :
    ¬ tree.IsLost e := by
  rintro ⟨steps', named, lost⟩
  obtain rfl : steps = steps' :=
    List.reverse_injective ((isFoundAt_of_mem_faults mem).unique named counts)
  obtain ⟨kept, was, found, rfl⟩ := at?_pruneLeaves_eq_some_iff.mp there
  rcases lost with under | ⟨node, found', leaf, rfl⟩
  · exact kept under
  · cases found.symm.trans found'
    -- without children, nothing is wrong with them
    simp [faults, children_pruneLeaves_of_leaf leaf] at mem

/-- The first fault of a tree is the first of what is left of it, unless it is lost. -/
theorem firstFault_pruneLeaves_iff {e : TreeError} (first : FirstFault children faults tree e)
    (counts : ∀ depth, e ≠ .tooDeep depth) :
    FirstFault children faults tree.pruneLeaves e ↔ ¬ tree.IsLost e := by
  constructor
  · rintro ⟨steps, node, there, head, -, -⟩
    rw [follow?_children] at there
    exact not_isLost there (List.mem_of_mem_head? head) counts
  · intro kept
    obtain ⟨steps, node, there, head, named, least⟩ := first
    rw [follow?_children] at there
    have stays : tree.pruneLeaves.at? steps = some node.pruneLeaves :=
      at?_pruneLeaves_eq_some_iff.mpr
        ⟨fun under => kept ⟨steps, named, .inl under⟩, node, there, rfl⟩
    refine ⟨steps, node.pruneLeaves, by rw [follow?_children, stays], ?_, named, ?_⟩
    · rw [faults_eq_append, List.head?_append] at head
      rcases Option.or_eq_some_iff.mp head with head | ⟨-, lost⟩
      · exact head
      · obtain ⟨⟨leaf, -⟩, rfl⟩ := mem_faultIf.mp (List.mem_of_mem_head? lost)
        exact absurd ⟨steps, named, .inr ⟨node, there, leaf, rfl⟩⟩ kept
    · intro earlier before other there'
      rw [follow?_children] at there'
      obtain ⟨-, was, found, rfl⟩ := at?_pruneLeaves_eq_some_iff.mp there'
      have sound := least earlier before was (by rw [follow?_children, found])
      rw [faults_eq_append, List.append_eq_nil_iff] at sound
      exact sound.1

/-- If something is wrong with what is left, something is wrong with the tree. -/
theorem hasFault_of_pruneLeaves (fault : HasFault children faults tree.pruneLeaves) :
    HasFault children faults tree := by
  obtain ⟨steps, node, there, some⟩ := fault
  rw [follow?_children] at there
  obtain ⟨-, was, found, rfl⟩ := at?_pruneLeaves_eq_some_iff.mp there
  refine ⟨steps, was, by rw [follow?_children, found], ?_⟩
  rw [faults_eq_append, ne_eq, List.append_eq_nil_iff]
  exact fun none => some none.1

end RawTree

namespace SyntaxTree

variable {tree : SyntaxTree} {view : SourceView} {raw : RawTree}

/-! ## Leaves of the built tree -/

/-- The built tree has each node that is reported with its shape, and with children if some are
reported. -/
theorem exists_get?_of_build (built : build view raw = .ok tree) {steps : List Nat}
    {reported : RawTree} (found : raw.at? steps = some reported) :
    ∃ node, tree.get? (raw.number steps) = some node ∧ node.shape = reported.shape ∧
      (node.children = [] ↔ reported.children = []) := by
  obtain ⟨laid, repaired, ids, added, ofReported, same, -, s, -, -⟩ := splits_of_build built
  obtain ⟨shape, label, span, children⟩ := reported
  obtain ⟨kind, role, parent, -, -, stands⟩ := get?_ofRaw ofReported found
  obtain ⟨node, stands', is⟩ := Option.map_eq_some_iff.mp
    ((same (raw.number steps)).trans (congrArg (Option.map eraseSpan) stands))
  refine ⟨_, s.old _ node stands', ?_, ?_⟩
  · have shaped : node.shape = shape := congrArg SyntaxNode.shape is
    split
    · exact (shape_keepFirst view node).trans shaped
    · exact shaped
  · have numbered : node.children = RawTree.rootNumbers (raw.number steps + 1) children :=
      congrArg SyntaxNode.children is
    change expand added node.children = [] ↔ children = []
    rw [expand_eq_nil_iff, numbered, ← List.length_eq_zero_iff, RawTree.length_rootNumbers,
      List.length_eq_zero_iff]

/-- A node of the built tree is one that is reported or has no children. -/
theorem exists_at?_or_childless (built : build view raw = .ok tree) {id : NodeId}
    {node : SyntaxNode} (found : tree.get? id = some node) :
    (∃ steps reported, raw.at? steps = some reported ∧ raw.number steps = id) ∨
      node.children = [] := by
  obtain ⟨laid, repaired, ids, added, ofReported, same, isTree, s, inside, -⟩ :=
    splits_of_build built
  rcases Nat.lt_or_ge id repaired.size with old | new
  · rw [same.size, size_ofRaw ofReported, ← raw.length_places] at old
    obtain ⟨⟨reported, there⟩, number⟩ :=
      RawTree.getElem?_places.mp (List.getElem?_eq_getElem old)
    exact .inl ⟨_, reported, there, number⟩
  · obtain ⟨_, cut⟩ := s.mem_cutLeaves_of_new isTree (isTree_of_build built) inside new found
    exact .inr (children_cutLeaves view cut)

/-- Nodes of leaf shape are reported without children exactly if they have none in the built
tree. -/
theorem bareLeaves_iff_of_build (built : build view raw = .ok tree) : raw.BareLeaves ↔
    ∀ id node, tree.get? id = some node → node.shape = .leaf → node.children = [] := by
  constructor
  · intro bare id node found leaf
    rcases exists_at?_or_childless built found with ⟨steps, reported, there, rfl⟩ | childless
    · obtain ⟨node', found', shaped, childless⟩ := exists_get?_of_build built there
      cases found.symm.trans found'
      exact childless.mpr (bare steps reported there (shaped.symm.trans leaf))
    · exact childless
  · intro bare steps reported there leaf
    obtain ⟨node, found, shaped, childless⟩ := exists_get?_of_build built there
    exact childless.mp (bare _ node found (shaped.trans leaf))

/-! ## What is left of the tree -/

/-- The number that a node had before nodes below leaves were left out. -/
def numberBefore (raw : RawTree) (id : NodeId) : NodeId :=
  raw.number (raw.pruneLeaves.places[id]?.getD [])

theorem numberBefore_number {steps : List Nat} {node : RawTree}
    (there : raw.pruneLeaves.at? steps = some node) :
    numberBefore raw (raw.pruneLeaves.number steps) = raw.number steps := by
  rw [numberBefore, RawTree.getElem?_places.mpr ⟨⟨node, there⟩, rfl⟩, Option.getD_some]

/-- What is laid out of a node that is left is laid out of the same node before, with the same
children unless they are left out. -/
theorem exists_get?_of_pruneLeaves {part whole : SyntaxTree} (laid : ofRaw raw = .ok whole)
    (laid' : ofRaw raw.pruneLeaves = .ok part) {id : NodeId} {node : SyntaxNode}
    (found : part.get? id = some node) :
    ∃ other role, whole.get? (numberBefore raw id) = some other ∧
      other.kind = node.kind.withRole role ∧ other.span = node.span ∧
      (node.children = [] ∨ other.children = node.children.map (numberBefore raw)) := by
  have inside := lt_size_of_get? found
  rw [size_ofRaw laid', ← RawTree.length_places] at inside
  obtain ⟨steps, listed⟩ : ∃ steps, raw.pruneLeaves.places[id]? = some steps :=
    ⟨_, List.getElem?_eq_getElem inside⟩
  obtain ⟨⟨left, there⟩, rfl⟩ := RawTree.getElem?_places.mp listed
  obtain ⟨-, ⟨shape, label, span, children⟩, before, rfl⟩ :=
    RawTree.at?_pruneLeaves_eq_some_iff.mp there
  rw [numberBefore_number there]
  obtain ⟨kind, role, parent, decoded, -, stands⟩ := get?_ofRaw laid before
  cases shape with
  | leaf =>
    rw [RawTree.pruneLeaves] at there
    obtain ⟨kind', role', parent', decoded', -, stands'⟩ := get?_ofRaw laid' there
    cases decoded.symm.trans decoded'
    cases found.symm.trans stands'
    exact ⟨_, role, stands, (Kind.withRole_withRole ..).symm, rfl, .inl rfl⟩
  | interior =>
    rw [RawTree.pruneLeaves, RawTree.pruneLeavesList_eq_map] at there
    obtain ⟨kind', role', parent', decoded', -, stands'⟩ := get?_ofRaw laid' there
    cases decoded.symm.trans decoded'
    cases found.symm.trans stands'
    refine ⟨_, role, stands, (Kind.withRole_withRole ..).symm, rfl, .inr ?_⟩
    refine List.ext_getElem? fun step => ?_
    rw [List.getElem?_map, RawTree.getElem?_rootNumbers, RawTree.getElem?_rootNumbers,
      List.getElem?_map]
    cases listed : children[step]? with
    | none => rfl
    | some child =>
      have listed' : (children.map RawTree.pruneLeaves)[step]? = some child.pruneLeaves := by
        rw [List.getElem?_map, listed, Option.map_some]
      rw [Option.map_some, Option.map_some, Option.map_some, Option.map_some,
        ← RawTree.number_child before listed, ← RawTree.number_child there listed',
        numberBefore_number ((RawTree.at?_child there step).trans listed')]

theorem embeds_pruneLeaves {part whole : SyntaxTree} (laid : ofRaw raw = .ok whole)
    (laid' : ofRaw raw.pruneLeaves = .ok part) : Embeds (numberBefore raw) part whole where
  root := by
    have top : raw.pruneLeaves.at? [] = some raw.pruneLeaves := by cases raw.pruneLeaves; rfl
    have number : ∀ tree : RawTree, tree.number [] = root := fun tree => by cases tree; rfl
    have same := numberBefore_number top
    rwa [number, number] at same
  kind id kind is := by
    obtain ⟨node, found, rfl⟩ := Option.map_eq_some_iff.mp is
    obtain ⟨other, role, stands, same, -⟩ := exists_get?_of_pruneLeaves laid laid' found
    exact ⟨role, by rw [kind?_of_get? stands, same]⟩
  children id := by
    cases found : part.get? id with
    | none => exact .inl (by rw [children, found])
    | some node =>
      obtain ⟨other, role, stands, -, -, same⟩ := exists_get?_of_pruneLeaves laid laid' found
      rwa [children_of_get? found, children_of_get? stands]

/-- What is left of a tree needs no more room than the tree. -/
theorem hasRoom_of_pruneLeaves {part whole : SyntaxTree} (laid : ofRaw raw = .ok whole)
    (laid' : ofRaw raw.pruneLeaves = .ok part) (room : whole.HasRoom view) : part.HasRoom view := by
  refine (embeds_pruneLeaves laid laid').hasRoom (isTree_ofRaw laid') (isTree_ofRaw laid) ?_ room
  intro id inside
  obtain ⟨node, found⟩ := exists_get? inside
  obtain ⟨other, role, stands, -, same, -⟩ := exists_get?_of_pruneLeaves laid laid' found
  rw [span?_of_get? found, span?_of_get? stands, same]

end SyntaxTree

namespace RawTree

open SyntaxTree

variable {raw : RawTree} {value : Json}

/-- What becomes of a tree that was read when it is written and read again. -/
structure Rereads (view : SourceView) (raw : RawTree) : Prop where
  /-- it is read without the children of nodes of leaf shape -/
  read : ofJson raw.toJson = .ok raw.pruneLeaves
  /-- it is the same tree exactly if there are none -/
  same : raw.pruneLeaves = raw ↔ raw.BareLeaves
  /-- the nodes that are left are those that are not below one of leaf shape, each with what is left
  below it -/
  left {steps : List Nat} {node : RawTree} : raw.pruneLeaves.at? steps = some node ↔
    ¬ raw.UnderLeaf steps ∧ ∃ was, raw.at? steps = some was ∧ was.pruneLeaves = node
  /-- if it could be built it still can, and the trees are the same exactly if no node of leaf shape
  has children -/
  built {tree : SyntaxTree} : build view raw = .ok tree →
    ∃ tree', build view raw.pruneLeaves = .ok tree' ∧ (tree' = tree ↔ raw.BareLeaves)
  /-- if it was refused it still is, with the same error, unless the error is lost -/
  refused {e : TreeError} : build view raw = .error (.refused e) →
    (build view raw.pruneLeaves = .error (.refused e) ↔ ¬ raw.IsLost e)
  /-- if a sum for it overflowed, it is still not refused -/
  overflow : build view raw = .error .overflow →
    ∀ e, build view raw.pruneLeaves ≠ .error (.refused e)

/-- What is left of a tree that is laid out is laid out. -/
theorem exists_ofRaw_pruneLeaves {whole : SyntaxTree} (laid : ofRaw raw = .ok whole) :
    ∃ part, ofRaw raw.pruneLeaves = .ok part := by
  cases left : ofRaw raw.pruneLeaves with
  | ok part => exact ⟨part, rfl⟩
  | error e =>
    have fault := (fails_iff_hasFault (finds_ofRaw raw.pruneLeaves)).mp ⟨e, left⟩
    obtain ⟨e', refused⟩ :=
      (fails_iff_hasFault (finds_ofRaw raw)).mpr (hasFault_of_pruneLeaves fault)
    cases laid.symm.trans refused

/-- A tree that can be built can be built without the children of nodes of leaf shape. It is the
same tree only if there are none. -/
theorem exists_build_pruneLeaves {view : SourceView} {tree : SyntaxTree}
    (built : build view raw = .ok tree) :
    ∃ tree', build view raw.pruneLeaves = .ok tree' ∧ (tree' = tree ↔ raw.BareLeaves) := by
  obtain ⟨whole, laid, room, -⟩ := build_eq_ok_iff_hasRoom.mp built
  obtain ⟨part, laid'⟩ := exists_ofRaw_pruneLeaves laid
  have built' : build view raw.pruneLeaves = .ok (part.repair view) :=
    build_eq_ok_iff_hasRoom.mpr ⟨part, laid', hasRoom_of_pruneLeaves laid laid' room, rfl⟩
  refine ⟨_, built', fun same => ?_, fun bare => ?_⟩
  · rw [bareLeaves_iff_of_build built, ← same]
    exact (bareLeaves_iff_of_build built').mp (bareLeaves_pruneLeaves raw)
  · rw [pruneLeaves_eq_self bare] at built'
    exact Except.ok.inj (built'.symm.trans built)

/-- The written form of a tree that was read is read. -/
theorem ofJson_toJson_of_read (accepted : ofJson value = .ok raw) :
    ofJson raw.toJson = .ok raw.pruneLeaves := by
  have forward : raw.Forward := fun _ _ found => (bounds_of_at? accepted found).2
  have shallow : raw.height ≤ maxTreeDepth :=
    height_le fun _ _ found => (bounds_of_at? accepted found).1
  exact ofJsonAt_toJson forward (by rwa [List.length_nil, Nat.zero_add])

/-- A tree that was read is read again from its written form, but for the nodes below one of leaf
shape, and the same is built of it but for what these are to blame for. -/
theorem rereads (view : SourceView) (accepted : ofJson value = .ok raw) : raw.Rereads view where
  read := ofJson_toJson_of_read accepted
  same := pruneLeaves_eq_self_iff
  left := at?_pruneLeaves_eq_some_iff
  built := exists_build_pruneLeaves
  refused {e} refused := by
    have first := build_eq_error_iff.mp refused
    have counts : ∀ depth, e ≠ .tooDeep depth := by
      rintro depth rfl
      obtain ⟨steps, node, there, head, -, -⟩ := first
      rw [follow?_children] at there
      have long := length_of_tooDeep_mem_faults (List.mem_of_mem_head? head)
      rw [List.length_reverse] at long
      exact absurd (bounds_of_at? accepted there).1 (Nat.not_le_of_lt long)
    rw [build_eq_error_iff, firstFault_pruneLeaves_iff first counts]
  overflow overflows e refused := by
    obtain ⟨whole, laid, -⟩ := build_eq_overflow_iff.mp overflows
    obtain ⟨part, laid'⟩ := exists_ofRaw_pruneLeaves laid
    cases laid'.symm.trans (build_eq_refused_iff.mp refused)

/-- The value of a block of leaf shape with a variable in it. -/
def leafBlockValue : Json :=
  .array [.string "Leaf", .string "Block", .string "1:1-1:2", .array
    [.array [.string "Leaf", .string "Variable: x", .string "1:1-1:2"]]]

/-- What is read from it. -/
def leafBlock : RawTree :=
  .node .leaf "Block" ⟨⟨1, 1⟩, ⟨1, 2⟩⟩ [.leaf "Variable: x" ⟨⟨1, 1⟩, ⟨1, 2⟩⟩]

theorem ofJson_leafBlockValue : ofJson leafBlockValue = .ok leafBlock := by
  have span : ParserSpan.decode? "1:1-1:2" = some ⟨⟨1, 1⟩, ⟨1, 2⟩⟩ := by decide +kernel
  simp [ofJson, leafBlockValue, ofJsonAt, ofJsonList, headOf, shapeOf?, span, maxTreeDepth,
    leafBlock, leaf, Except.map]

/-- The tree of the block. -/
def leafBlockTree : SyntaxTree :=
  ⟨#[⟨.leaf, .block, ⟨⟨1, 1⟩, ⟨1, 2⟩⟩, none, [1]⟩,
    ⟨.leaf, .variable "x", ⟨⟨1, 1⟩, ⟨1, 2⟩⟩, some 0, []⟩]⟩

theorem build_leafBlock : build (.ofSource "x" .standard) leafBlock = .ok leafBlockTree := by
  decide +kernel

/-- The block loses its variable, and another tree is built of it. -/
theorem rereads_leafBlock :
    ofJson leafBlockValue = .ok leafBlock ∧ leafBlock.Rereads (.ofSource "x" .standard) ∧
      leafBlock.pruneLeaves.at? [0] = none ∧
      build (.ofSource "x" .standard) leafBlock = .ok leafBlockTree ∧
      ∃ tree, build (.ofSource "x" .standard) leafBlock.pruneLeaves = .ok tree ∧
        tree ≠ leafBlockTree := by
  have outcome := rereads (.ofSource "x" .standard) ofJson_leafBlockValue
  have full : ¬ leafBlock.BareLeaves := fun bare => nomatch bare [] _ rfl rfl
  obtain ⟨tree, built, same⟩ := outcome.built build_leafBlock
  exact ⟨ofJson_leafBlockValue, outcome, rfl, build_leafBlock, tree, built, mt same.mp full⟩

/-- What is read is not always read again from its written form. -/
theorem not_ofJson_toJson :
    ¬ ∀ (value : Json) (raw : RawTree), ofJson value = .ok raw → ofJson raw.toJson = .ok raw := by
  intro all
  have again := all leafBlockValue leafBlock ofJson_leafBlockValue
  -- the written form has no place for the variable
  have lost := ofJson_toJson_of_read ofJson_leafBlockValue
  have same : leafBlock = leafBlock.pruneLeaves := Except.ok.inj (again.symm.trans lost)
  cases congrArg (·.children.length) same

end RawTree

end LinksBinding
