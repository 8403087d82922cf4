import Mathlib.Data.List.Forall2
import LinksBinding.Proofs.Ancestry
import LinksBinding.Syntax.Layout

/-!
# What is laid out is a tree

The layout numbers the nodes of the parser's output in preorder and writes parents and children down
as numbers that it works out ahead of the nodes. Here the result is shown to be a tree
(`isTree_ofRaw`) in which no node has more ancestors than the layout admits (`shallow_ofRaw`), and
to hold each reported node at its preorder number (`get?_ofRaw`).

The layout of a part of the tree is a run of the table. Each statement about a layout is made of a
table that holds the run (`Holds`), so that what it says of parents and children can be read off
that table whatever stands around the run.
-/

namespace LinksBinding

/-! ## Nodes of the parser's output -/

namespace RawTree

/-- The node that child numbers lead to from the root, the first step first. -/
def at? : RawTree → List Nat → Option RawTree
  | tree, [] => some tree
  | .node _ _ _ children, step :: path => children[step]?.bind (at? · path)

/-- The number of a node in preorder. -/
def number : RawTree → List Nat → Nat
  | _, [] => 0
  | .node _ _ _ children, step :: path =>
    match children[step]? with
    | some child => 1 + sizeOfList (children.take step) + number child path
    | none => 0

/-- The numbers of trees that are numbered one behind the other, the first with `next`. -/
def rootNumbers (next : NodeId) : List RawTree → List NodeId
  | [] => []
  | tree :: rest => next :: rootNumbers (next + tree.size) rest

/-- One step further down stands a child. -/
theorem at?_child {tree : RawTree} {steps : List Nat} {shape : Shape} {label : String}
    {span : ParserSpan} {children : List RawTree}
    (h : tree.at? steps = some (.node shape label span children)) (step : Nat) :
    tree.at? (steps ++ [step]) = children[step]? := by
  induction steps generalizing tree with
  | nil =>
    cases h
    rw [List.nil_append, at?]
    cases children[step]? with
    | none => rfl
    | some child => exact at?.eq_1 child
  | cons first steps ih =>
    obtain ⟨_, _, _, below⟩ := tree
    obtain ⟨child, listed, found⟩ := Option.bind_eq_some_iff.mp h
    rw [List.cons_append, at?, listed, Option.bind_some, ih found]

/-- The nodes below a child are below its parent. -/
theorem exists_at?_of_mem {shape : Shape} {label : String} {span : ParserSpan}
    {children : List RawTree} {child : RawTree} (mem : child ∈ children) {steps : List Nat}
    {node : RawTree} (found : child.at? steps = some node) :
    ∃ step, (RawTree.node shape label span children).at? (step :: steps) = some node := by
  obtain ⟨step, listed⟩ := List.mem_iff_getElem?.mp mem
  refine ⟨step, ?_⟩
  rw [at?, listed]
  exact found

/-- A child has the number behind the subtrees of the children before it. -/
theorem number_child {tree child : RawTree} {steps : List Nat} {shape : Shape} {label : String}
    {span : ParserSpan} {children : List RawTree}
    (h : tree.at? steps = some (.node shape label span children)) {step : Nat}
    (listed : children[step]? = some child) :
    tree.number (steps ++ [step]) = tree.number steps + 1 + sizeOfList (children.take step) := by
  induction steps generalizing tree with
  | nil =>
    cases h
    simp [number, listed]
  | cons first steps ih =>
    obtain ⟨_, _, _, below⟩ := tree
    obtain ⟨inner, there, found⟩ := Option.bind_eq_some_iff.mp h
    simp only [List.cons_append, number, there, ih found]
    omega

theorem sizeOfList_append (front back : List RawTree) :
    sizeOfList (front ++ back) = sizeOfList front + sizeOfList back := by
  induction front with
  | nil => simp [sizeOfList]
  | cons tree rest ih => rw [List.cons_append, sizeOfList, sizeOfList, ih, Nat.add_assoc]

/-- The numbers of the children of a node are those of the nodes one step further down. -/
theorem forall₂_rootNumbers {tree : RawTree} {steps : List Nat} {shape : Shape} {label : String}
    {span : ParserSpan} {children : List RawTree}
    (h : tree.at? steps = some (.node shape label span children)) :
    List.Forall₂
      (fun child id => ∃ step, tree.at? (steps ++ [step]) = some child ∧
        tree.number (steps ++ [step]) = id)
      children (rootNumbers (tree.number steps + 1) children) := by
  suffices ∀ front back, children = front ++ back →
      List.Forall₂
        (fun child id => ∃ step, tree.at? (steps ++ [step]) = some child ∧
          tree.number (steps ++ [step]) = id)
        back (rootNumbers (tree.number steps + 1 + sizeOfList front) back) from this [] children rfl
  intro front back split
  induction back generalizing front with
  | nil => exact .nil
  | cons child rest ih =>
    have listed : children[front.length]? = some child := by simp [split]
    have before : children.take front.length = front := by simp [split]
    have further := ih (front ++ [child]) (by simp [split])
    rw [sizeOfList_append, sizeOfList, sizeOfList, Nat.add_zero, ← Nat.add_assoc] at further
    refine .cons ⟨front.length, ?_, ?_⟩ further
    · rw [at?_child h, listed]
    · rw [number_child h listed, before]

/-- No node ends before it starts. -/
def Forward (tree : RawTree) : Prop := ∀ path node, tree.at? path = some node → node.span.Forward

theorem forward_node {shape : Shape} {label : String} {span : ParserSpan}
    {children : List RawTree} (here : span.Forward) (below : ∀ child ∈ children, child.Forward) :
    (RawTree.node shape label span children).Forward := by
  intro path node found
  cases path with
  | nil =>
    cases found
    exact here
  | cons step path =>
    obtain ⟨child, listed, found⟩ := Option.bind_eq_some_iff.mp found
    exact below child (List.mem_of_getElem? listed) path node found

theorem forward_leaf {label : String} {span : ParserSpan} (here : span.Forward) :
    (leaf label span).Forward :=
  forward_node here (List.forall_mem_nil _)

theorem Forward.child {shape : Shape} {label : String} {span : ParserSpan}
    {children : List RawTree} {child : RawTree}
    (h : (RawTree.node shape label span children).Forward) (mem : child ∈ children) :
    child.Forward := by
  intro path node found
  obtain ⟨step, found⟩ := exists_at?_of_mem mem found
  exact h _ node found

end RawTree

namespace SyntaxTree

variable {tree : SyntaxTree}

/-! ## Runs of the table -/

/-- The members of a list relate to consecutive numbers, the first to `start`. -/
def Numbered {α : Type} (R : Nat → α → Prop) (start : Nat) (list : List α) : Prop :=
  ∀ (k : Nat) (a : α), list[k]? = some a → R (start + k) a

namespace Numbered

variable {α : Type} {R : Nat → α → Prop} {start : Nat}

theorem head {a : α} {rest : List α} (h : Numbered R start (a :: rest)) : R start a :=
  h 0 a rfl

theorem tail {a : α} {rest : List α} (h : Numbered R start (a :: rest)) :
    Numbered R (start + 1) rest := by
  intro k b found
  have := h (k + 1) b found
  rwa [Nat.add_comm k 1, ← Nat.add_assoc] at this

theorem left {front back : List α} (h : Numbered R start (front ++ back)) :
    Numbered R start front := by
  intro k a found
  refine h k a ?_
  rw [List.getElem?_append_left (List.getElem?_eq_some_iff.mp found).1]
  exact found

theorem right {front back : List α} (h : Numbered R start (front ++ back)) :
    Numbered R (start + front.length) back := by
  intro k a found
  rw [Nat.add_assoc]
  refine h (front.length + k) a ?_
  rw [List.getElem?_append_right (Nat.le_add_right ..), Nat.add_sub_cancel_left]
  exact found

end Numbered

/-- The table holds these nodes under the numbers from `start` on. -/
def Holds (tree : SyntaxTree) (start : NodeId) (nodes : List SyntaxNode) : Prop :=
  ∀ (k : Nat) (node : SyntaxNode), nodes[k]? = some node → tree.get? (start + k) = some node

namespace Holds

theorem numbered_iff {start : NodeId} {nodes : List SyntaxNode} :
    tree.Holds start nodes ↔ Numbered (fun id node => tree.get? id = some node) start nodes :=
  .rfl

theorem head {start : NodeId} {node : SyntaxNode} {rest : List SyntaxNode}
    (h : tree.Holds start (node :: rest)) : tree.get? start = some node :=
  (numbered_iff.mp h).head

theorem tail {start : NodeId} {node : SyntaxNode} {rest : List SyntaxNode}
    (h : tree.Holds start (node :: rest)) : tree.Holds (start + 1) rest :=
  (numbered_iff.mp h).tail

theorem left {start : NodeId} {front back : List SyntaxNode}
    (h : tree.Holds start (front ++ back)) : tree.Holds start front :=
  (numbered_iff.mp h).left

theorem right {start : NodeId} {front back : List SyntaxNode}
    (h : tree.Holds start (front ++ back)) : tree.Holds (start + front.length) back :=
  (numbered_iff.mp h).right

end Holds

/-! ## What a layout that succeeds consists of -/

theorem layNode_eq_ok {path : NodePath} {role : BinderRole} {parent : Option NodeId} {id : NodeId}
    {shape : Shape} {label : String} {span : ParserSpan} {children : List RawTree}
    {nodes : List SyntaxNode}
    (h : layNode path role parent id (.node shape label span children) = .ok nodes) :
    path.length ≤ maxTreeDepth ∧ ∃ kind ids below, decodeLabel label = .ok kind ∧
      (kind.isLeafKind = true → children = []) ∧
      layChildren path (kind.decidesRole?.getD role) id 0 (id + 1) children = .ok (ids, below) ∧
      nodes = ⟨shape, kind.withRole role, span, parent, ids⟩ :: below := by
  rw [layNode] at h
  split at h
  · cases h
  · rename_i shallow
    split at h
    · cases h
    · rename_i kind decoded
      split at h
      · cases h
      · rename_i leaf
        split at h
        · cases h
        · rename_i ids below laid
          cases h
          refine ⟨Nat.le_of_not_lt shallow, kind, ids, below, decoded, fun isLeaf => ?_, laid, rfl⟩
          simpa [isLeaf] using leaf

theorem layChildren_cons_eq_ok {path : NodePath} {role : BinderRole} {parent : NodeId}
    {position : Nat} {next : NodeId} {raw : RawTree} {rest : List RawTree} {ids : List NodeId}
    {below : List SyntaxNode}
    (h : layChildren path role parent position next (raw :: rest) = .ok (ids, below)) :
    ∃ nodes others more, layNode (position :: path) role (some parent) next raw = .ok nodes ∧
      layChildren path role parent (position + 1) (next + nodes.length) rest = .ok (others, more) ∧
      ids = next :: others ∧ below = nodes ++ more := by
  rw [layChildren] at h
  split at h
  · cases h
  · rename_i nodes first
    split at h
    · cases h
    · rename_i others more laid
      cases h
      exact ⟨nodes, others, more, first, laid, rfl, rfl⟩

theorem layNode_parent {path : NodePath} {role : BinderRole} {parent : Option NodeId}
    {id : NodeId} {raw : RawTree} {nodes : List SyntaxNode}
    (h : layNode path role parent id raw = .ok nodes) (held : tree.Holds id nodes) :
    tree.parent? id = parent := by
  cases raw with
  | node shape label span children =>
    obtain ⟨-, kind, ids, below, -, -, -, rfl⟩ := layNode_eq_ok h
    exact parent?_of_get? held.head

theorem layNode_length_pos {path : NodePath} {role : BinderRole} {parent : Option NodeId}
    {id : NodeId} {raw : RawTree} {nodes : List SyntaxNode}
    (h : layNode path role parent id raw = .ok nodes) : 0 < nodes.length := by
  rw [length_layNode h]
  cases raw
  exact Nat.succ_pos _

/-! ## Depth -/

mutual
/-- No node of a run has more ancestors than a path may have steps, if its first node has no more
than its path has steps. -/
theorem layNode_shallow {path : NodePath} {role : BinderRole} {parent : Option NodeId} {id : NodeId}
    {raw : RawTree} {nodes : List SyntaxNode}
    (h : layNode path role parent id raw = .ok nodes) (held : tree.Holds id nodes)
    (above : ∀ fuel, (tree.climb fuel id).length ≤ path.length) :
    ∀ k < nodes.length, ∀ fuel, (tree.climb fuel (id + k)).length ≤ maxTreeDepth := by
  match raw with
  | .node shape label span children =>
    obtain ⟨bound, kind, ids, below, -, -, laid, rfl⟩ := layNode_eq_ok h
    intro k inside fuel
    cases k with
    | zero => exact Nat.le_trans (above fuel) bound
    | succ k =>
      have inner := layChildren_shallow laid held.tail above k (Nat.lt_of_succ_lt_succ inside) fuel
      rwa [Nat.add_comm k 1, ← Nat.add_assoc]

theorem layChildren_shallow {path : NodePath} {role : BinderRole} {parent : NodeId} {position : Nat}
    {next : NodeId} {raws : List RawTree} {ids : List NodeId} {below : List SyntaxNode}
    (h : layChildren path role parent position next raws = .ok (ids, below))
    (held : tree.Holds next below)
    (above : ∀ fuel, (tree.climb fuel parent).length ≤ path.length) :
    ∀ k < below.length, ∀ fuel, (tree.climb fuel (next + k)).length ≤ maxTreeDepth := by
  match raws with
  | [] =>
    cases h
    intro k inside
    cases inside
  | raw :: rest =>
    obtain ⟨nodes, others, more, first, laid, rfl, rfl⟩ := layChildren_cons_eq_ok h
    intro k inside fuel
    by_cases here : k < nodes.length
    · refine layNode_shallow first held.left (fun fuel => ?_) k here fuel
      -- the first node of the run is a child of `parent`
      cases fuel with
      | zero => exact Nat.zero_le _
      | succ fuel =>
        rw [climb]
        split
        · rename_i up
          rw [layNode_parent first held.left] at up
          cases up
          exact Nat.succ_le_succ (above fuel)
        · exact Nat.zero_le _
    · -- past the run of the first child, numbers count from the next child on
      have beyond := layChildren_shallow laid held.right above (k - nodes.length)
        (by rw [List.length_append] at inside; omega) fuel
      rwa [Nat.add_assoc, Nat.add_sub_cancel' (Nat.le_of_not_lt here)] at beyond
end

/-! ## Links -/

/-- The children of a node name it as their parent, and none is listed twice. -/
def OwnsChildren (tree : SyntaxTree) (id : NodeId) : Prop :=
  (∀ child ∈ tree.children id, tree.parent? child = some id) ∧ (tree.children id).Nodup

/-- A node has a parent in front of it that lists it. -/
def IsAttached (tree : SyntaxTree) (id : NodeId) : Prop :=
  ∃ parent, tree.parent? id = some parent ∧ parent < id ∧ id ∈ tree.children parent

mutual
/-- In a run, every node owns its children, and every node but the first is attached. -/
theorem layNode_linked {path : NodePath} {role : BinderRole} {parent : Option NodeId} {id : NodeId}
    {raw : RawTree} {nodes : List SyntaxNode}
    (h : layNode path role parent id raw = .ok nodes) (held : tree.Holds id nodes) :
    (∀ k < nodes.length, tree.OwnsChildren (id + k)) ∧
      ∀ k, k + 1 < nodes.length → tree.IsAttached (id + (k + 1)) := by
  match raw with
  | .node shape label span children =>
    obtain ⟨-, kind, ids, below, -, -, laid, rfl⟩ := layNode_eq_ok h
    obtain ⟨owned, once, owning, attached⟩ := layChildren_linked laid held.tail
    have listed : tree.children id = ids := children_of_get? held.head
    constructor
    · intro k inside
      cases k with
      | zero =>
        rw [Nat.add_zero, OwnsChildren, listed]
        exact ⟨fun child mem => (owned child mem).1, once⟩
      | succ k =>
        rw [Nat.add_comm k 1, ← Nat.add_assoc]
        exact owning k (Nat.lt_of_succ_lt_succ inside)
    · intro k inside
      rw [Nat.add_comm k 1, ← Nat.add_assoc]
      rcases attached k (Nat.lt_of_succ_lt_succ inside) with mem | attached
      · have before : id < id + 1 + k :=
          Nat.lt_of_lt_of_le (Nat.lt_succ_self id) (Nat.le_add_right ..)
        exact ⟨id, (owned _ mem).1, before, by rwa [listed]⟩
      · exact attached

/-- In the runs of children, every node owns its children, and every node is a child of `parent` or
attached. -/
theorem layChildren_linked {path : NodePath} {role : BinderRole} {parent : NodeId} {position : Nat}
    {next : NodeId} {raws : List RawTree} {ids : List NodeId} {below : List SyntaxNode}
    (h : layChildren path role parent position next raws = .ok (ids, below))
    (held : tree.Holds next below) :
    (∀ child ∈ ids, tree.parent? child = some parent ∧ next ≤ child) ∧ ids.Nodup ∧
      (∀ k < below.length, tree.OwnsChildren (next + k)) ∧
      ∀ k < below.length, next + k ∈ ids ∨ tree.IsAttached (next + k) := by
  match raws with
  | [] =>
    cases h
    exact ⟨nofun, List.nodup_nil, nofun, nofun⟩
  | raw :: rest =>
    obtain ⟨nodes, others, more, first, laid, rfl, rfl⟩ := layChildren_cons_eq_ok h
    obtain ⟨owning, attached⟩ := layNode_linked first held.left
    obtain ⟨owned, once, owning', attached'⟩ := layChildren_linked laid held.right
    have pos := layNode_length_pos first
    refine ⟨?_, List.nodup_cons.mpr ⟨fun mem => ?_, once⟩, ?_, ?_⟩
    · intro child mem
      rcases List.mem_cons.mp mem with rfl | mem
      · exact ⟨layNode_parent first held.left, Nat.le_refl _⟩
      · exact ⟨(owned child mem).1, Nat.le_trans (Nat.le_add_right ..) (owned child mem).2⟩
    · exact absurd (owned next mem).2 (Nat.not_le_of_lt (Nat.lt_add_of_pos_right pos))
    · intro k inside
      by_cases here : k < nodes.length
      · exact owning k here
      · have := owning' (k - nodes.length) (by rw [List.length_append] at inside; omega)
        rwa [Nat.add_assoc, Nat.add_sub_cancel' (Nat.le_of_not_lt here)] at this
    · intro k inside
      by_cases here : k < nodes.length
      · cases k with
        | zero => exact .inl List.mem_cons_self
        | succ k => exact .inr (attached k here)
      · have := attached' (k - nodes.length) (by rw [List.length_append] at inside; omega)
        rw [Nat.add_assoc, Nat.add_sub_cancel' (Nat.le_of_not_lt here)] at this
        exact this.imp_left (List.mem_cons_of_mem _)
end

/-! ## Spans -/

mutual
/-- The spans of a run are those that the parser reports. -/
theorem layNode_forward {path : NodePath} {role : BinderRole} {parent : Option NodeId} {id : NodeId}
    {raw : RawTree} {nodes : List SyntaxNode}
    (h : layNode path role parent id raw = .ok nodes) (forward : raw.Forward) :
    ∀ node ∈ nodes, node.span.Forward := by
  match raw with
  | .node shape label span children =>
    obtain ⟨-, kind, ids, below, -, -, laid, rfl⟩ := layNode_eq_ok h
    intro node mem
    rcases List.mem_cons.mp mem with rfl | mem
    · exact forward [] _ rfl
    · exact layChildren_forward laid (fun child listed => forward.child listed) node mem

theorem layChildren_forward {path : NodePath} {role : BinderRole} {parent : NodeId} {position : Nat}
    {next : NodeId} {raws : List RawTree} {ids : List NodeId} {below : List SyntaxNode}
    (h : layChildren path role parent position next raws = .ok (ids, below))
    (forward : ∀ raw ∈ raws, raw.Forward) : ∀ node ∈ below, node.span.Forward := by
  match raws with
  | [] =>
    cases h
    exact fun _ mem => absurd mem List.not_mem_nil
  | raw :: rest =>
    obtain ⟨nodes, others, more, first, laid, rfl, rfl⟩ := layChildren_cons_eq_ok h
    intro node mem
    rcases List.mem_append.mp mem with mem | mem
    · exact layNode_forward first (forward raw List.mem_cons_self) node mem
    · exact layChildren_forward laid (fun other listed => forward other (.tail _ listed)) node mem
end

/-! ## Leaves -/

theorem isLeafKind_withRole (kind : Kind) (role : BinderRole) :
    (kind.withRole role).isLeafKind = kind.isLeafKind := by
  cases kind <;> rfl

mutual
/-- A run has no children for nodes of kinds that can only be leaves. -/
theorem layNode_leaf {path : NodePath} {role : BinderRole} {parent : Option NodeId} {id : NodeId}
    {raw : RawTree} {nodes : List SyntaxNode}
    (h : layNode path role parent id raw = .ok nodes) :
    ∀ node ∈ nodes, node.kind.isLeafKind = true → node.children = [] := by
  match raw with
  | .node shape label span children =>
    obtain ⟨-, kind, ids, below, -, childless, laid, rfl⟩ := layNode_eq_ok h
    intro node mem leaf
    rcases List.mem_cons.mp mem with rfl | mem
    · rw [childless ((isLeafKind_withRole kind role).symm.trans leaf), layChildren] at laid
      cases laid
      rfl
    · exact layChildren_leaf laid node mem leaf

theorem layChildren_leaf {path : NodePath} {role : BinderRole} {parent : NodeId} {position : Nat}
    {next : NodeId} {raws : List RawTree} {ids : List NodeId} {below : List SyntaxNode}
    (h : layChildren path role parent position next raws = .ok (ids, below)) :
    ∀ node ∈ below, node.kind.isLeafKind = true → node.children = [] := by
  match raws with
  | [] =>
    cases h
    exact fun _ mem => absurd mem List.not_mem_nil
  | raw :: rest =>
    obtain ⟨nodes, others, more, first, laid, rfl, rfl⟩ := layChildren_cons_eq_ok h
    intro node mem leaf
    rcases List.mem_append.mp mem with mem | mem
    · exact layNode_leaf first node mem leaf
    · exact layChildren_leaf laid node mem leaf
end

/-! ## The whole tree -/

theorem ofRaw_eq_ok {raw : RawTree} (h : ofRaw raw = .ok tree) :
    ∃ nodes, layNode [] .letBinding none root raw = .ok nodes ∧ tree = ⟨nodes.toArray⟩ := by
  rw [ofRaw] at h
  cases laid : layNode [] .letBinding none root raw with
  | error e =>
    rw [laid] at h
    cases h
  | ok nodes =>
    rw [laid] at h
    cases h
    exact ⟨nodes, rfl, rfl⟩

theorem holds_toArray (nodes : List SyntaxNode) : Holds ⟨nodes.toArray⟩ root nodes := by
  intro k node found
  simpa [get?, root] using found

theorem size_toArray (nodes : List SyntaxNode) : size ⟨nodes.toArray⟩ = nodes.length := by
  simp [size]

/-- A tree that is laid out is a tree. -/
theorem isTree_ofRaw {raw : RawTree} (h : ofRaw raw = .ok tree) : tree.IsTree := by
  obtain ⟨nodes, laid, rfl⟩ := ofRaw_eq_ok h
  have held := holds_toArray nodes
  have orphan := layNode_parent laid held
  obtain ⟨owning, attached⟩ := layNode_linked laid held
  have attached_of : ∀ id, id ≠ root → id < size ⟨nodes.toArray⟩ →
      IsAttached ⟨nodes.toArray⟩ id := by
    intro id ne inside
    obtain ⟨k, rfl⟩ := Nat.exists_eq_succ_of_ne_zero ne
    have := attached k (by rwa [← size_toArray])
    rwa [root, Nat.zero_add] at this
  refine ⟨?_, ?_, ?_, ?_⟩
  · refine exists_root ?_ orphan
    rw [size_toArray]
    exact layNode_length_pos laid
  · intro id ne inside
    obtain ⟨parent, up, before, -⟩ := attached_of id ne inside
    exact ⟨parent, up, before⟩
  · intro parent child
    constructor
    · intro listed
      by_cases inside : parent < nodes.length
      · have := (owning parent inside).1
        rw [root, Nat.zero_add] at this
        exact this child listed
      · rw [children_eq_nil (by rw [size_toArray]; exact Nat.le_of_not_lt inside)] at listed
        cases listed
    · intro up
      have ne : child ≠ root := by
        rintro rfl
        rw [orphan] at up
        cases up
      obtain ⟨same, up', -, listed⟩ := attached_of child ne (lt_size_of_parent? up)
      rw [up] at up'
      cases up'
      exact listed
  · intro id
    by_cases inside : id < nodes.length
    · have := (owning id inside).2
      rwa [root, Nat.zero_add] at this
    · rw [children_eq_nil (by rw [size_toArray]; exact Nat.le_of_not_lt inside)]
      exact List.nodup_nil

/-- No node has more ancestors than a path may have steps. -/
def Shallow (tree : SyntaxTree) : Prop :=
  ∀ fuel id, (tree.climb fuel id).length ≤ maxTreeDepth

theorem climb_of_orphan {id : NodeId} (orphan : tree.parent? id = none) (fuel : Nat) :
    tree.climb fuel id = [] := by
  cases fuel with
  | zero => rfl
  | succ fuel => rw [climb, orphan]

theorem shallow_ofRaw {raw : RawTree} (h : ofRaw raw = .ok tree) : tree.Shallow := by
  obtain ⟨nodes, laid, rfl⟩ := ofRaw_eq_ok h
  have held := holds_toArray nodes
  intro fuel id
  by_cases inside : id < nodes.length
  · have top : ∀ fuel, (climb ⟨nodes.toArray⟩ fuel root).length ≤ ([] : NodePath).length := by
      intro fuel
      have empty := climb_of_orphan (layNode_parent laid held) fuel
      exact Nat.le_of_eq (congrArg List.length empty)
    have := layNode_shallow laid held top id inside fuel
    rwa [root, Nat.zero_add] at this
  · rw [climb_of_orphan (parent?_eq_none (by rw [size_toArray]; exact Nat.le_of_not_lt inside))]
    exact Nat.zero_le _

theorem forward_ofRaw {raw : RawTree} (h : ofRaw raw = .ok tree) (forward : raw.Forward)
    {id : NodeId} {node : SyntaxNode} (found : tree.get? id = some node) : node.span.Forward := by
  obtain ⟨nodes, laid, rfl⟩ := ofRaw_eq_ok h
  refine layNode_forward laid forward node ?_
  rw [get?, List.getElem?_toArray] at found
  exact List.mem_of_getElem? found

/-- A node of a kind that can only be a leaf has no children. -/
theorem leaf_ofRaw {raw : RawTree} (h : ofRaw raw = .ok tree) {id : NodeId} {node : SyntaxNode}
    (found : tree.get? id = some node) (leaf : node.kind.isLeafKind = true) :
    node.children = [] := by
  obtain ⟨nodes, laid, rfl⟩ := ofRaw_eq_ok h
  refine layNode_leaf laid node ?_ leaf
  rw [get?, List.getElem?_toArray] at found
  exact List.mem_of_getElem? found

/-! ## Where the reported nodes are -/

theorem layChildren_ids {path : NodePath} {role : BinderRole} {parent : NodeId} {position : Nat}
    {next : NodeId} {raws : List RawTree} {ids : List NodeId} {below : List SyntaxNode}
    (h : layChildren path role parent position next raws = .ok (ids, below)) :
    ids = RawTree.rootNumbers next raws := by
  induction raws generalizing position next ids below with
  | nil =>
    cases h
    rfl
  | cons raw rest ih =>
    obtain ⟨nodes, others, more, first, laid, rfl, rfl⟩ := layChildren_cons_eq_ok h
    rw [RawTree.rootNumbers, ih laid, length_layNode first]

/-- A child is laid out behind those before it. -/
theorem layChildren_getElem? {path : NodePath} {role : BinderRole} {parent : NodeId}
    {position : Nat} {next : NodeId} {raws : List RawTree} {ids : List NodeId}
    {below : List SyntaxNode}
    (h : layChildren path role parent position next raws = .ok (ids, below))
    (held : tree.Holds next below) {step : Nat} {child : RawTree}
    (listed : raws[step]? = some child) :
    ∃ path' role' parent' nodes,
      layNode path' role' parent' (next + RawTree.sizeOfList (raws.take step)) child = .ok nodes ∧
        tree.Holds (next + RawTree.sizeOfList (raws.take step)) nodes := by
  induction raws generalizing position next ids below step with
  | nil => cases listed
  | cons raw rest ih =>
    obtain ⟨nodes, others, more, first, laid, rfl, rfl⟩ := layChildren_cons_eq_ok h
    cases step with
    | zero =>
      cases listed
      exact ⟨_, _, _, nodes, first, held.left⟩
    | succ step =>
      rw [List.take_succ_cons, RawTree.sizeOfList, ← length_layNode first, ← Nat.add_assoc]
      exact ih laid held.right listed

theorem layNode_at? {path : NodePath} {role : BinderRole} {parent : Option NodeId} {id : NodeId}
    {raw : RawTree} {nodes : List SyntaxNode}
    (h : layNode path role parent id raw = .ok nodes) (held : tree.Holds id nodes)
    {steps : List Nat} {shape : Shape} {label : String} {span : ParserSpan}
    {children : List RawTree} (found : raw.at? steps = some (.node shape label span children)) :
    ∃ kind role' parent', decodeLabel label = .ok kind ∧ (kind.isLeafKind = true → children = []) ∧
      tree.get? (id + raw.number steps) = some ⟨shape, kind.withRole role', span, parent',
        RawTree.rootNumbers (id + raw.number steps + 1) children⟩ := by
  induction steps generalizing path role parent id raw nodes with
  | nil =>
    cases raw with
    | node =>
      cases found
      obtain ⟨-, kind, ids, below, decoded, leaf, laid, rfl⟩ := layNode_eq_ok h
      refine ⟨kind, role, parent, decoded, leaf, ?_⟩
      rw [RawTree.number, Nat.add_zero, ← layChildren_ids laid]
      exact held.head
  | cons step steps ih =>
    cases raw with
    | node =>
      obtain ⟨-, kind, ids, below, -, -, laid, rfl⟩ := layNode_eq_ok h
      obtain ⟨child, listed, found⟩ := Option.bind_eq_some_iff.mp found
      obtain ⟨path', role', parent', nodes, first, held'⟩ :=
        layChildren_getElem? laid held.tail listed
      simp only [RawTree.number, listed]
      rw [← Nat.add_assoc, ← Nat.add_assoc]
      exact ih first held' found

/-- The table holds each reported node under its number in preorder, with the kind that its label
names and the children that are reported for it. -/
theorem get?_ofRaw {raw : RawTree} (h : ofRaw raw = .ok tree) {steps : List Nat} {shape : Shape}
    {label : String} {span : ParserSpan} {children : List RawTree}
    (found : raw.at? steps = some (.node shape label span children)) :
    ∃ kind role parent, decodeLabel label = .ok kind ∧ (kind.isLeafKind = true → children = []) ∧
      tree.get? (raw.number steps) = some ⟨shape, kind.withRole role, span, parent,
        RawTree.rootNumbers (raw.number steps + 1) children⟩ := by
  obtain ⟨nodes, laid, rfl⟩ := ofRaw_eq_ok h
  have := layNode_at? laid (holds_toArray nodes) found
  rwa [root, Nat.zero_add] at this

end SyntaxTree

end LinksBinding
