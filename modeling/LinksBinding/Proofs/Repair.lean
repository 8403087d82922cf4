import Mathlib.Data.List.Range
import LinksBinding.Proofs.Agreement
import LinksBinding.Proofs.Layout
import LinksBinding.Proofs.PlainRepair
import LinksBinding.Proofs.Traversal

/-!
# Repairing keeps the tree

The two passes that repair spans change the table of a laid-out tree in place. The first writes
spans of constants only, so that the tree agrees with the one before in all but these. The second
adds leaves behind the table and links them in behind the node they are cut off (`Grafts`). Both
keep the table a tree, add no level to it, and leave no span that ends before it starts; so the same
is true of every tree that is built.
-/

namespace LinksBinding

namespace SyntaxTree

variable {tree other : SyntaxTree}

/-- No node of the tree ends before it starts. -/
def Forward (tree : SyntaxTree) : Prop :=
  ∀ id node, tree.get? id = some node → node.span.Forward

/-! ## Changing spans -/

/-- A node without its span. -/
def eraseSpan (node : SyntaxNode) : SyntaxNode := { node with span := default }

theorem keepsLinks_eraseSpan : KeepsLinks eraseSpan := ⟨fun _ => rfl, fun _ => rfl⟩

/-- A node without its span if it is a constant. -/
def eraseConstantSpan (node : SyntaxNode) : SyntaxNode :=
  if node.kind.isConstant then eraseSpan node else node

theorem keepsLinks_eraseConstantSpan : KeepsLinks eraseConstantSpan := by
  constructor <;>
  · intro node
    unfold eraseConstantSpan
    split <;> rfl

theorem eraseSpan_eraseConstantSpan (node : SyntaxNode) :
    eraseSpan (eraseConstantSpan node) = eraseSpan node := by
  unfold eraseConstantSpan
  split <;> rfl

theorem agree_setSpan {id : NodeId} (constant : tree.hasKind Kind.isConstant id = true)
    (span : ParserSpan) : tree.Agree eraseConstantSpan (tree.setSpan id span) := by
  intro x
  rw [setSpan, get?_modify]
  split
  · rename_i here
    obtain ⟨node, found, constant⟩ := exists_of_hasKind constant
    rw [← here, found, Option.map_some, Option.map_some, Option.map_some, eraseConstantSpan,
      eraseConstantSpan, if_pos constant, if_pos constant]
    rfl
  · rfl

theorem Forward.setSpan (h : tree.Forward) (id : NodeId) {span : ParserSpan}
    (forward : span.Forward) : (tree.setSpan id span).Forward := by
  intro x node found
  rw [SyntaxTree.setSpan, get?_modify] at found
  split at found
  · obtain ⟨before, -, rfl⟩ := Option.map_eq_some_iff.mp found
    exact forward
  · exact h x node found

/-! ## Attribute values -/

theorem agree_respanPieces (closing : ParserPosition) (tree : SyntaxTree)
    (cursor : ParserPosition) (pieces : List NodeId) :
    tree.Agree eraseConstantSpan (tree.respanPieces closing cursor pieces) := by
  induction pieces generalizing tree cursor with
  | nil => exact .refl tree eraseConstantSpan
  | cons piece rest ih =>
    rw [respanPieces]
    split
    · rename_i constant
      exact (agree_setSpan constant _).trans (ih _ _)
    · exact ih _ _

theorem Forward.respanPieces (h : tree.Forward) (closing cursor : ParserPosition)
    (pieces : List NodeId) : (tree.respanPieces closing cursor pieces).Forward := by
  induction pieces generalizing tree cursor with
  | nil => exact h
  | cons piece rest ih =>
    rw [SyntaxTree.respanPieces]
    split
    · exact ih (h.setSpan piece (ParserPosition.le_max_right _ _)) _
    · exact ih h _

theorem agree_repairAttribute (view : SourceView) (tree : SyntaxTree) (id : NodeId) :
    tree.Agree eraseConstantSpan (tree.repairAttribute view id) := by
  unfold repairAttribute
  split
  · exact agree_respanPieces _ tree _ _
  · exact .refl tree eraseConstantSpan

theorem Forward.repairAttribute (h : tree.Forward) (view : SourceView) (id : NodeId) :
    (tree.repairAttribute view id).Forward := by
  unfold SyntaxTree.repairAttribute
  split
  · exact h.respanPieces _ _ _
  · exact h

/-- Repairing any attributes changes the spans of constants only. -/
theorem agree_foldl_repairAttribute (view : SourceView) (tree : SyntaxTree) (ids : List NodeId) :
    tree.Agree eraseConstantSpan (ids.foldl (repairAttribute view) tree) :=
  List.foldlRecOn _ _ (.refl tree eraseConstantSpan) fun changed same id _ =>
    same.trans (changed.agree_repairAttribute view id)

/-- Repairing attribute values changes the spans of constants only. -/
theorem agree_repairAttributes_constants (view : SourceView) (tree : SyntaxTree) :
    tree.Agree eraseConstantSpan (tree.repairAttributes view) :=
  agree_foldl_repairAttribute view tree _

/-- Repairing attribute values changes spans only. -/
theorem agree_repairAttributes (view : SourceView) (tree : SyntaxTree) :
    tree.Agree eraseSpan (tree.repairAttributes view) :=
  (agree_repairAttributes_constants view tree).coarsen eraseSpan_eraseConstantSpan

theorem Forward.repairAttributes (h : tree.Forward) (view : SourceView) :
    (tree.repairAttributes view).Forward :=
  List.foldlRecOn _ _ h fun _ forward id _ => forward.repairAttribute view id

/-! ## Adding leaves -/

theorem size_foldl_push (tree : SyntaxTree) (leaves : List SyntaxNode) :
    (leaves.foldl push tree).size = tree.size + leaves.length := by
  induction leaves generalizing tree with
  | nil => rfl
  | cons leaf leaves ih => rw [List.foldl_cons, ih, size_push, List.length_cons]; omega

theorem get?_foldl_push (tree : SyntaxTree) (leaves : List SyntaxNode) (x : Nat) :
    (leaves.foldl push tree).get? x =
      if x < tree.size then tree.get? x else leaves[x - tree.size]? := by
  induction leaves generalizing tree with
  | nil =>
    split
    · rfl
    · rename_i beyond
      exact get?_eq_none (Nat.le_of_not_lt beyond)
  | cons leaf leaves ih =>
    rw [List.foldl_cons, ih, size_push, get?_push]
    rcases Nat.lt_trichotomy x tree.size with inside | rfl | beyond
    · rw [if_pos (by omega), if_neg (Nat.ne_of_lt inside), if_pos inside]
    · simp
    · rw [if_neg (by omega), if_neg (by omega)]
      obtain ⟨k, rfl⟩ := Nat.exists_eq_add_of_lt beyond
      rw [show tree.size + k + 1 - (tree.size + 1) = k by omega,
        show tree.size + k + 1 - tree.size = k + 1 by omega, List.getElem?_cons_succ]

theorem nodup_insertBehind {id : NodeId} {added children : List NodeId} (once : children.Nodup)
    (onceAdded : added.Nodup) (fresh : children.Disjoint added) :
    (insertBehind id added children).Nodup := by
  induction children with
  | nil => exact List.nodup_nil
  | cons child rest ih =>
    obtain ⟨absent, once⟩ := List.nodup_cons.mp once
    rw [List.disjoint_cons_left] at fresh
    rw [insertBehind]
    split
    · rw [List.nodup_cons, List.mem_append, List.nodup_append']
      refine ⟨not_or.mpr ⟨fresh.1, absent⟩, onceAdded, once, ?_⟩
      exact fun other mem listed => fresh.2 listed mem
    · rw [List.nodup_cons, mem_insertBehind]
      exact ⟨not_or.mpr ⟨absent, fun mem => fresh.1 mem.2⟩, ih once fresh.2⟩

/-- `other` has `count` leaves more than `tree`, which follow `id` among the children of `parent`.
Nothing is said of kinds and spans. -/
structure Grafts (tree other : SyntaxTree) (id parent : NodeId) (count : Nat) : Prop where
  /-- the leaves take the next free numbers -/
  size : other.size = tree.size + count
  /-- all other nodes keep their parents -/
  parent_old : ∀ x, x < tree.size → other.parent? x = tree.parent? x
  /-- the leaves are children of `parent` -/
  parent_new : ∀ x, tree.size ≤ x → x < tree.size + count → other.parent? x = some parent
  /-- they are listed behind `id` -/
  children_parent :
    other.children parent = insertBehind id (List.range' tree.size count) (tree.children parent)
  /-- all other lists of children stay -/
  children_other : ∀ x, x ≠ parent → other.children x = tree.children x

namespace Grafts

variable {id parent : NodeId} {count : Nat}

theorem size_le (g : tree.Grafts other id parent count) : tree.size ≤ other.size := by
  rw [g.size]
  exact Nat.le_add_right ..

/-- What has a parent and was not there before is a leaf. -/
theorem lt_of_parent? (g : tree.Grafts other id parent count) {x p : Nat}
    (up : other.parent? x = some p) : x < tree.size + count := by
  rw [← g.size]
  exact lt_size_of_parent? up

/-- Parents and children still name each other. -/
theorem linked (g : tree.Grafts other id parent count) (h : tree.IsTree)
    (up : tree.parent? id = some parent) (p child : Nat) :
    child ∈ other.children p ↔ other.parent? child = some p := by
  by_cases here : p = parent
  · rw [here, g.children_parent, mem_insertBehind, h.linked, h.linked, List.mem_range'_1]
    by_cases old : child < tree.size
    · rw [g.parent_old child old]
      exact ⟨fun mem => mem.resolve_right fun mem => absurd mem.2.1 (Nat.not_le_of_lt old), .inl⟩
    · have absent := parent?_eq_none (Nat.le_of_not_lt old)
      constructor
      · rintro (mem | ⟨-, from_, below⟩)
        · rw [absent] at mem
          cases mem
        · exact g.parent_new child from_ below
      · exact fun up' => .inr ⟨up, Nat.le_of_not_lt old, g.lt_of_parent? up'⟩
  · rw [g.children_other p here, h.linked]
    by_cases old : child < tree.size
    · rw [g.parent_old child old]
    · -- a leaf is no child of another node than `parent`, and had no parent before
      constructor
      · exact fun up' => absurd (lt_size_of_parent? up') old
      · intro up'
        rw [g.parent_new child (Nat.le_of_not_lt old) (g.lt_of_parent? up')] at up'
        cases up'
        exact absurd rfl here

theorem isTree (g : tree.Grafts other id parent count) (h : tree.IsTree)
    (up : tree.parent? id = some parent) : other.IsTree := by
  have before : parent < tree.size := Nat.lt_trans (h.parent_lt up) (lt_size_of_parent? up)
  refine ⟨?_, fun x ne inside => ?_, g.linked h up, fun x => ?_⟩
  · refine exists_root (Nat.lt_of_lt_of_le h.root_lt_size g.size_le) ?_
    exact (g.parent_old _ h.root_lt_size).trans h.parent?_root
  · by_cases old : x < tree.size
    · rw [g.parent_old x old]
      exact h.parent x ne old
    · rw [g.size] at inside
      exact ⟨parent, g.parent_new x (Nat.le_of_not_lt old) inside,
        Nat.lt_of_lt_of_le before (Nat.le_of_not_lt old)⟩
  · by_cases here : x = parent
    · rw [here, g.children_parent]
      refine nodup_insertBehind (h.once parent) List.nodup_range' fun child listed mem => ?_
      have inside := h.child_lt_size listed
      exact absurd (List.mem_range'_1.mp mem).1 (Nat.not_le_of_lt inside)
    · rw [g.children_other x here]
      exact h.once x

/-- Climbing from a node that was there before goes as before. -/
theorem climb_old (g : tree.Grafts other id parent count) (h : tree.IsTree) (fuel : Nat) {x : Nat}
    (old : x < tree.size) : other.climb fuel x = tree.climb fuel x :=
  h.climb_of_parent? g.parent_old fuel old

/-- A leaf has the ancestors of the node that it follows. -/
theorem climb_new (g : tree.Grafts other id parent count) (h : tree.IsTree)
    (up : tree.parent? id = some parent) (fuel : Nat) {x : Nat} (new : tree.size ≤ x)
    (inside : x < tree.size + count) : other.climb fuel x = tree.climb fuel id := by
  cases fuel with
  | zero => rfl
  | succ fuel =>
    have before : parent < tree.size := Nat.lt_trans (h.parent_lt up) (lt_size_of_parent? up)
    simp only [climb, g.parent_new x new inside, up, g.climb_old h fuel before]

theorem shallow (g : tree.Grafts other id parent count) (h : tree.IsTree)
    (up : tree.parent? id = some parent) (shallow : tree.Shallow) : other.Shallow := by
  intro fuel x
  by_cases old : x < tree.size
  · rw [g.climb_old h fuel old]
    exact shallow fuel x
  · by_cases inside : x < tree.size + count
    · rw [g.climb_new h up fuel (Nat.le_of_not_lt old) inside]
      exact shallow fuel id
    · rw [climb_of_orphan (parent?_eq_none (by rw [g.size]; exact Nat.le_of_not_lt inside))]
      exact Nat.zero_le _

end Grafts

/-! ## Splitting texts -/

section Split

variable (view : SourceView) {id parent : Nat} {node : SyntaxNode} {text : String}

theorem splitNode_eq (found : tree.get? id = some node) (texted : node.kind.text? = some text)
    (up : node.parent = some parent) :
    tree.splitNode view id =
      (((splitText view node.span.start text).2.map (leafFor node)).foldl push
        (tree.modify id (keepPiece (splitText view node.span.start text).1))).modify parent
        (adopt id (List.range' tree.size (splitText view node.span.start text).2.length)) := by
  simp only [splitNode, putPieces, found, texted, up]

/-- What each number of the table stands for after a split. -/
theorem get?_splitNode (h : tree.IsTree) (found : tree.get? id = some node)
    (texted : node.kind.text? = some text) (up : node.parent = some parent) (x : Nat) :
    (tree.splitNode view id).get? x =
      if x = parent then
        (tree.get? x).map
          (adopt id (List.range' tree.size (splitText view node.span.start text).2.length))
      else if x = id then some (keepPiece (splitText view node.span.start text).1 node)
      else if x < tree.size then tree.get? x
      else ((splitText view node.span.start text).2.map (leafFor node))[x - tree.size]? := by
  have before : parent < id := h.parent_lt (by rw [parent?_of_get? found, up])
  have inside : id < tree.size := lt_size_of_get? found
  rw [splitNode_eq view found texted up, get?_modify, get?_foldl_push, size_modify, get?_modify]
  by_cases here : x = parent
  · rw [here, if_pos rfl, if_pos rfl, if_pos (Nat.lt_trans before inside),
      if_neg (Nat.ne_of_gt before)]
  · rw [if_neg (Ne.symm here), if_neg here]
    by_cases self : x = id
    · rw [self, if_pos inside, if_pos rfl, if_pos rfl, found]
      rfl
    · rw [if_neg (Ne.symm self), if_neg self]

/-- Splitting a node adds the leaves for its further pieces. -/
theorem grafts_splitNode (h : tree.IsTree) (found : tree.get? id = some node)
    (texted : node.kind.text? = some text) (up : node.parent = some parent) :
    tree.Grafts (tree.splitNode view id) id parent
      (splitText view node.span.start text).2.length := by
  have before : parent < id := h.parent_lt (by rw [parent?_of_get? found, up])
  have inside : id < tree.size := lt_size_of_get? found
  have eq := get?_splitNode view h found texted up
  refine ⟨?_, fun x old => ?_, fun x new below => ?_, ?_, fun x ne => ?_⟩
  · rw [splitNode_eq view found texted up, size_modify, size_foldl_push, size_modify,
      List.length_map]
  · rw [parent?, eq]
    by_cases here : x = parent
    · rw [if_pos here, Option.bind_map]
      rfl
    · rw [if_neg here]
      by_cases self : x = id
      · rw [if_pos self, self, parent?_of_get? found]
        rfl
      · rw [if_neg self, if_pos old]
        rfl
  · rw [parent?, eq, if_neg (by omega), if_neg (by omega), if_neg (by omega)]
    rw [List.getElem?_map, List.getElem?_eq_getElem (by omega)]
    exact up
  · obtain ⟨owner, owned⟩ := exists_get? (Nat.lt_trans before inside)
    rw [children, eq, if_pos rfl, owned, children_of_get? owned]
    rfl
  · rw [children, eq, if_neg ne]
    by_cases self : x = id
    · rw [if_pos self, self, children_of_get? found]
      rfl
    · rw [if_neg self]
      by_cases old : x < tree.size
      · rw [if_pos old]
        rfl
      · rw [if_neg old, children_eq_nil (Nat.le_of_not_lt old), List.getElem?_map]
        cases (splitText view node.span.start text).2[x - tree.size]? <;> rfl

theorem forward_at (start : ParserPosition) (text : List Char) :
    (Piece.at start text).span.Forward :=
  start.le_advance _

theorem forward_furtherPieces (line : Coordinate) (lines : List (List Char)) :
    ∀ piece ∈ furtherPieces view line lines, piece.span.Forward := by
  induction lines generalizing line with
  | nil => nofun
  | cons text rest ih =>
    intro piece mem
    rw [furtherPieces] at mem
    split at mem
    · exact ih _ piece mem
    · rcases List.mem_cons.mp mem with rfl | mem
      · exact forward_at _ _
      · exact ih _ piece mem

/-- No piece of a split text ends before it starts. -/
theorem forward_splitText (start : ParserPosition) (text : String) :
    (splitText view start text).1.span.Forward ∧
      ∀ piece ∈ (splitText view start text).2, piece.span.Forward := by
  unfold splitText
  split
  · exact ⟨forward_at _ _, forward_furtherPieces view _ _⟩
  · exact ⟨forward_at _ _, nofun⟩

theorem Forward.splitNode (forward : tree.Forward) (h : tree.IsTree)
    (found : tree.get? id = some node) (texted : node.kind.text? = some text)
    (up : node.parent = some parent) : (tree.splitNode view id).Forward := by
  obtain ⟨first, others⟩ := forward_splitText view node.span.start text
  intro x changed stands
  rw [get?_splitNode view h found texted up] at stands
  split at stands
  · obtain ⟨before, was, rfl⟩ := Option.map_eq_some_iff.mp stands
    exact forward x before was
  · split at stands
    · cases stands
      exact first
    · split at stands
      · exact forward x changed stands
      · rw [List.getElem?_map] at stands
        obtain ⟨piece, listed, rfl⟩ := Option.map_eq_some_iff.mp stands
        exact others piece (List.mem_of_getElem? listed)

/-- A node other than the root is split or left alone. -/
theorem splitNode_cases (h : tree.IsTree) (ne : id ≠ root) :
    tree.splitNode view id = tree ∨ ∃ node text parent, tree.get? id = some node ∧
      node.kind.text? = some text ∧ node.parent = some parent := by
  cases found : tree.get? id with
  | none => exact .inl (by rw [splitNode, found])
  | some node =>
    cases texted : node.kind.text? with
    | none => exact .inl (by simp only [splitNode, found, texted])
    | some text =>
      obtain ⟨parent, up, -⟩ := h.parent id ne (lt_size_of_get? found)
      rw [parent?_of_get? found] at up
      exact .inr ⟨node, text, parent, rfl, texted, up⟩

theorem IsTree.splitNode (h : tree.IsTree) (ne : id ≠ SyntaxTree.root) :
    (tree.splitNode view id).IsTree := by
  rcases splitNode_cases view h ne with same | ⟨node, text, parent, found, texted, up⟩
  · rw [same]
    exact h
  · exact (grafts_splitNode view h found texted up).isTree h (by rw [parent?_of_get? found, up])

end Split

/-- What holds of a tree and is kept by splitting a node other than the root holds when all texts
are split. -/
theorem splitLiterals_induction {P : SyntaxTree → Prop} (view : SourceView) (start : P tree)
    (step : ∀ (changed : SyntaxTree) (id : NodeId), P changed → id ≠ root →
      P (changed.splitNode view id)) : P (tree.splitLiterals view) := by
  refine List.foldlRecOn _ _ start fun changed holds id mem => step changed id holds ?_
  have candidate := (List.mem_filter.mp mem).2
  rw [Bool.and_eq_true] at candidate
  exact bne_iff_ne.mp candidate.1

theorem IsTree.splitLiterals (view : SourceView) (h : tree.IsTree) :
    (tree.splitLiterals view).IsTree :=
  splitLiterals_induction view h fun _ _ changed ne => changed.splitNode view ne

/-- Splitting texts keeps a tree, adds no level to it, and leaves no span that ends before it
starts if there was none. -/
theorem splitLiterals_keeps (view : SourceView) (h : tree.IsTree) (shallow : tree.Shallow) :
    (tree.splitLiterals view).IsTree ∧ (tree.splitLiterals view).Shallow ∧
      (tree.Forward → (tree.splitLiterals view).Forward) := by
  refine splitLiterals_induction
    (P := fun changed => changed.IsTree ∧ changed.Shallow ∧ (tree.Forward → changed.Forward))
    view ⟨h, shallow, fun forward => forward⟩ ?_
  rintro changed id ⟨h, shallow, forward⟩ ne
  -- candidates were collected before any of them was split, but each step needs only a tree
  rcases splitNode_cases view h ne with same | ⟨node, text, parent, found, texted, up⟩
  · rw [same]
    exact ⟨h, shallow, forward⟩
  · have grafts := grafts_splitNode view h found texted up
    have up' : changed.parent? id = some parent := by rw [parent?_of_get? found, up]
    exact ⟨grafts.isTree h up', grafts.shallow h up' shallow,
      fun start => (forward start).splitNode view h found texted up⟩

/-! ## Trees that are built -/

theorem isTree_repairAttributes {raw : RawTree} (view : SourceView) (h : ofRaw raw = .ok tree) :
    (tree.repairAttributes view).IsTree :=
  (agree_repairAttributes view tree).isTree keepsLinks_eraseSpan (isTree_ofRaw h)

theorem shallow_repairAttributes {raw : RawTree} (view : SourceView) (h : ofRaw raw = .ok tree) :
    (tree.repairAttributes view).Shallow := by
  intro fuel id
  rw [(agree_repairAttributes view tree).climb keepsLinks_eraseSpan]
  exact shallow_ofRaw h fuel id

/-- Every tree that is built is a tree. -/
theorem isTree_of_build {view : SourceView} {raw : RawTree} (h : build view raw = .ok tree) :
    tree.IsTree := by
  obtain ⟨laid, reported, rfl⟩ := exists_of_build h
  exact (splitLiterals_keeps view (isTree_repairAttributes view reported)
    (shallow_repairAttributes view reported)).1

/-- No node of a tree that is built has more ancestors than a path may have steps. -/
theorem shallow_of_build {view : SourceView} {raw : RawTree} (h : build view raw = .ok tree) :
    tree.Shallow := by
  obtain ⟨laid, reported, rfl⟩ := exists_of_build h
  exact (splitLiterals_keeps view (isTree_repairAttributes view reported)
    (shallow_repairAttributes view reported)).2.1

/-- No node of a tree that is built ends before it starts, if none does in the parser's output. -/
theorem forward_of_build {view : SourceView} {raw : RawTree} (h : build view raw = .ok tree)
    (forward : raw.Forward) : tree.Forward := by
  obtain ⟨laid, reported, rfl⟩ := exists_of_build h
  refine (splitLiterals_keeps view (isTree_repairAttributes view reported)
    (shallow_repairAttributes view reported)).2.2 ?_
  have start : laid.Forward := fun _ _ found => forward_ofRaw reported forward found
  exact start.repairAttributes view

/-- What every operation on a built tree relies on. -/
structure WellFormed (tree : SyntaxTree) : Prop extends tree.IsTree where
  /-- document order lists every node of the table once -/
  complete : tree.documentOrder.Perm (List.range tree.size)
  /-- a node comes in front of the subtrees of its children, which keep their order -/
  recursive : ∀ id node, tree.get? id = some node →
    tree.preorder id = id :: node.children.flatMap tree.preorder
  /-- no node ends before it starts -/
  forward : ∀ id node, tree.get? id = some node → node.span.start ≤ node.span.stop

/-- A tree that is built from output whose spans run forward is well-formed, whatever the document
and the shift are. -/
theorem wellFormed_of_build {source : String} {shift : PositionShift} {raw : RawTree}
    (h : build (.ofSource source shift) raw = .ok tree) (forward : raw.Forward) :
    tree.WellFormed :=
  have isTree := isTree_of_build h
  { isTree with
    complete := isTree.documentOrder_perm
    recursive := fun _ _ found => isTree.preorder_eq found
    forward := forward_of_build h forward }

/-- Output for an element with an attribute of two pieces and a text of two lines. -/
def markup : RawTree :=
  .interior "Xml: a" ⟨⟨1, 1⟩, ⟨2, 10⟩⟩
    [.interior "XmlAttr: href" ⟨⟨1, 4⟩, ⟨1, 15⟩⟩
      [.leaf "Constant: \"x\"" ⟨⟨1, 1⟩, ⟨1, 1⟩⟩, .leaf "Variable: y" ⟨⟨1, 12⟩, ⟨1, 13⟩⟩],
    .leaf "TextNode: one\n  two" ⟨⟨1, 16⟩, ⟨2, 6⟩⟩]

/-- The tree of that output: its constant has a new span, and its text is split in two. -/
def markupTree : SyntaxTree :=
  ⟨#[⟨.interior, .element "a", ⟨⟨1, 1⟩, ⟨2, 10⟩⟩, none, [1, 4, 5]⟩,
    ⟨.interior, .attribute "href", ⟨⟨1, 4⟩, ⟨1, 15⟩⟩, some 0, [2, 3]⟩,
    ⟨.leaf, .constant (.string "\"x\""), ⟨⟨1, 10⟩, ⟨1, 12⟩⟩, some 1, []⟩,
    ⟨.leaf, .variable "y", ⟨⟨1, 12⟩, ⟨1, 13⟩⟩, some 1, []⟩,
    ⟨.leaf, .text "one", ⟨⟨1, 16⟩, ⟨1, 19⟩⟩, some 0, []⟩,
    ⟨.leaf, .text "two", ⟨⟨2, 3⟩, ⟨2, 6⟩⟩, some 0, []⟩]⟩

theorem forward_markup : markup.Forward := by
  refine RawTree.forward_node (by decide) ?_
  simp only [List.forall_mem_cons]
  refine ⟨RawTree.forward_node (by decide) ?_, RawTree.forward_leaf (by decide),
    List.forall_mem_nil _⟩
  simp only [List.forall_mem_cons]
  exact ⟨RawTree.forward_leaf (by decide), RawTree.forward_leaf (by decide),
    List.forall_mem_nil _⟩

theorem wellFormed_markupTree :
    build (.ofSource "<a href=\"x{y}\">one\n  two</a>\n" .standard) markup = .ok markupTree ∧
      markup.Forward ∧ markupTree.WellFormed :=
  have built : build (.ofSource "<a href=\"x{y}\">one\n  two</a>\n" .standard) markup =
      .ok markupTree := by decide +kernel
  ⟨built, forward_markup, wellFormed_of_build built forward_markup⟩

end SyntaxTree

end LinksBinding
