import Mathlib.Algebra.GroupWithZero.Nat
import Mathlib.Logic.Function.Basic
import LinksBinding.Proofs.Repair

/-!
# What splitting texts leaves behind

Splitting works on a table that earlier splits have changed: the children of a parent are those that
the splits so far have left, and the table has grown. `Splits` describes the table after any number
of splits in terms of the table before the first. A node that is not split stays as it is, a node
that is split keeps the first line of its text, and in every list of children a split node is
followed by the leaves that are cut off it.
-/

namespace LinksBinding

open Text

namespace Kind

/-- Number of leaves that are cut off the text of a node: one for each line behind the first that is
not blank. -/
def furtherLines (kind : Kind) : Nat :=
  match kind.text? with
  | some content =>
    ((splitAtFeeds content.toList).tail.filter fun line =>
      !(trimStart (dropReturn line)).isEmpty).length
  | none => 0

/-- Nothing is cut off a text of one line. -/
theorem furtherLines_eq_zero {kind : Kind} (h : kind.runsOverLines = false) :
    kind.furtherLines = 0 := by
  unfold furtherLines
  split
  · rename_i content texted
    have oneLine : '\n' ∉ content.toList := by simpa [runsOverLines, texted] using h
    have whole : splitAtFeeds content.toList = [content.toList] := by
      rw [splitAtFeeds, List.splitOn_eq_splitOnP]
      refine List.splitOnP_eq_singleton fun c mem => beq_false_of_ne ?_
      rintro rfl
      exact oneLine mem
    rw [whole]
    rfl
  · rfl

theorem furtherLines_withRole (kind : Kind) (role : BinderRole) :
    (kind.withRole role).furtherLines = kind.furtherLines := by
  cases kind <;> rfl

theorem text?_withText {kind : Kind} {before : String} (texted : kind.text? = some before)
    (content : String) : (kind.withText content).text? = some content := by
  unfold withText
  split
  · rfl
  · rfl
  · unfold text? at texted
    split at texted <;> simp_all

theorem isLeafKind_withText (kind : Kind) (content : String) :
    (kind.withText content).isLeafKind = kind.isLeafKind := by
  unfold withText
  split <;> rfl

end Kind

namespace SyntaxTree

variable {tree : SyntaxTree}

/-! ## Pieces of a node -/

section Pieces

variable (view : SourceView)

/-- The node with the first line of its text only. -/
def keepFirst (node : SyntaxNode) : SyntaxNode :=
  match node.kind.text? with
  | some text => keepPiece (splitText view node.span.start text).1 node
  | none => node

/-- The leaves for the other lines of the text of a node. -/
def cutLeaves (node : SyntaxNode) : List SyntaxNode :=
  match node.kind.text? with
  | some text => (splitText view node.span.start text).2.map (leafFor node)
  | none => []

theorem length_furtherPieces (line : Coordinate) (lines : List (List Char)) :
    (furtherPieces view line lines).length =
      (lines.filter fun line => !(trimStart (dropReturn line)).isEmpty).length := by
  induction lines generalizing line with
  | nil => rfl
  | cons text rest ih =>
    rw [furtherPieces]
    by_cases blank : (trimStart (dropReturn text)).isEmpty
    · simp [blank, ih]
    · simp [blank, ih]

theorem length_cutLeaves (node : SyntaxNode) :
    (cutLeaves view node).length = node.kind.furtherLines := by
  unfold cutLeaves Kind.furtherLines
  split
  · rename_i text _
    rw [List.length_map, splitText]
    cases splitAtFeeds text.toList with
    | nil => rfl
    | cons first rest => exact length_furtherPieces view _ rest
  · rfl

/-- A node that is cut keeps being a text. -/
theorem text?_keepFirst (node : SyntaxNode) :
    (keepFirst view node).kind.text?.isSome = node.kind.text?.isSome := by
  unfold keepFirst
  split
  · rename_i text texted
    rw [texted, keepPiece, Kind.text?_withText texted]
    rfl
  · rfl

/-- A node that is cut stays a leaf if it can only be one. -/
theorem isLeafKind_keepFirst (node : SyntaxNode) :
    (keepFirst view node).kind.isLeafKind = node.kind.isLeafKind := by
  unfold keepFirst
  split
  · exact Kind.isLeafKind_withText node.kind _
  · rfl

theorem shape_keepFirst (node : SyntaxNode) : (keepFirst view node).shape = node.shape := by
  unfold keepFirst
  split <;> rfl

theorem text?_cutLeaves {node leaf : SyntaxNode} (mem : leaf ∈ cutLeaves view node) :
    leaf.kind.text?.isSome = true := by
  unfold cutLeaves at mem
  split at mem
  · rename_i text texted
    obtain ⟨piece, -, rfl⟩ := List.mem_map.mp mem
    rw [leafFor, Kind.text?_withText texted]
    rfl
  · cases mem

theorem children_cutLeaves {node leaf : SyntaxNode} (mem : leaf ∈ cutLeaves view node) :
    leaf.children = [] := by
  unfold cutLeaves at mem
  split at mem
  · obtain ⟨piece, -, rfl⟩ := List.mem_map.mp mem
    rfl
  · cases mem

end Pieces

/-! ## Lists of children -/

/-- The children with what is added behind each of them. -/
def expand (added : NodeId → List NodeId) (children : List NodeId) : List NodeId :=
  children.flatMap fun child => child :: added child

theorem length_expand (added : NodeId → List NodeId) (children : List NodeId) :
    (expand added children).length = (children.map fun child => 1 + (added child).length).sum := by
  rw [expand, List.length_flatMap]
  congr 2
  funext child
  rw [List.length_cons, Nat.add_comm]

theorem expand_eq_nil_iff {added : NodeId → List NodeId} {children : List NodeId} :
    expand added children = [] ↔ children = [] := by
  cases children with
  | nil => exact iff_of_true rfl rfl
  | cons child rest => exact iff_of_false (List.cons_ne_nil _ _) (List.cons_ne_nil _ _)

theorem insertBehind_append {id : NodeId} {front : List NodeId} (absent : id ∉ front)
    (added back : List NodeId) :
    insertBehind id added (front ++ back) = front ++ insertBehind id added back := by
  induction front with
  | nil => rfl
  | cons other rest ih =>
    rw [List.mem_cons, not_or] at absent
    obtain ⟨ne, absent⟩ := absent
    rw [List.cons_append, insertBehind, if_neg (Ne.symm ne), ih absent, List.cons_append]

theorem expand_update {id : NodeId} {children : List NodeId} (absent : id ∉ children)
    (added : NodeId → List NodeId) (leaves : List NodeId) :
    expand (Function.update added id leaves) children = expand added children := by
  refine List.flatMap_congr fun child listed => ?_
  rw [Function.update_of_ne]
  rintro rfl
  exact absent listed

/-- Leaves that are linked in behind a child are added behind that child. -/
theorem insertBehind_expand {id : NodeId} {added : NodeId → List NodeId}
    (fresh : ∀ child, id ∉ added child) (none : added id = []) {children : List NodeId}
    (once : children.Nodup) (listed : id ∈ children) (leaves : List NodeId) :
    insertBehind id leaves (expand added children) =
      expand (Function.update added id leaves) children := by
  induction children with
  | nil => cases listed
  | cons child rest ih =>
    obtain ⟨absent, once⟩ := List.nodup_cons.mp once
    rw [expand, expand, List.flatMap_cons, List.flatMap_cons, ← expand, ← expand]
    by_cases here : child = id
    · -- nothing has been added behind `id` yet, and it does not occur again
      subst here
      rw [expand_update absent, none, Function.update_self, List.cons_append, insertBehind,
        if_pos rfl]
      rfl
    · have below : id ∈ rest := (List.mem_cons.mp listed).resolve_left (Ne.symm here)
      have front : id ∉ child :: added child := by
        rw [List.mem_cons, not_or]
        exact ⟨Ne.symm here, fresh child⟩
      rw [insertBehind_append front, ih once below, Function.update_of_ne here]

/-! ## Any number of splits -/

/-- `other` is `tree` with the texts of the nodes `ids` split, `added id` being the leaves that are
cut off a node. -/
structure Splits (view : SourceView) (tree other : SyntaxTree) (ids : List NodeId)
    (added : NodeId → List NodeId) : Prop where
  /-- the nodes of the table keep their numbers -/
  size_le : tree.size ≤ other.size
  /-- they change only in their texts and in what is added to their children -/
  old : ∀ id node, tree.get? id = some node → other.get? id =
    some { (if id ∈ ids then keepFirst view node else node) with
      children := expand added node.children }
  /-- what is cut off a node are its further lines -/
  cut : ∀ id ∈ ids, ∀ node, tree.get? id = some node →
    (added id).map other.get? = (cutLeaves view node).map some
  /-- the leaves take new numbers -/
  fresh : ∀ id, ∀ leaf ∈ added id, tree.size ≤ leaf
  /-- only the nodes `ids` are split -/
  untouched : ∀ id, id ∉ ids → added id = []

namespace Splits

variable {view : SourceView} {mid : SyntaxTree} {ids : List NodeId} {added : NodeId → List NodeId}

theorem refl (view : SourceView) (tree : SyntaxTree) : Splits view tree tree [] fun _ => [] where
  size_le := Nat.le_refl _
  old id node found := by
    have same : expand (fun _ => []) node.children = node.children := List.flatMap_singleton' _
    rw [found, same]
    rfl
  cut := nofun
  fresh := nofun
  untouched _ _ := rfl

/-- What has something added behind it has been split. -/
theorem split_of_added (s : Splits view tree mid ids added) {id leaf : NodeId}
    (mem : leaf ∈ added id) : id ∈ ids := by
  by_contra absent
  rw [s.untouched id absent] at mem
  cases mem

/-- What has been cut off stands in the table. -/
theorem exists_leaf (s : Splits view tree mid ids added) (inside : ∀ id ∈ ids, id < tree.size)
    {id leaf : NodeId} (mem : leaf ∈ added id) :
    ∃ node node', tree.get? id = some node ∧ mid.get? leaf = some node' ∧
      node' ∈ cutLeaves view node := by
  have split : id ∈ ids := s.split_of_added mem
  obtain ⟨node, found⟩ := exists_get? (inside id split)
  have listed : mid.get? leaf ∈ (cutLeaves view node).map some := by
    rw [← s.cut id split node found]
    exact List.mem_map_of_mem mem
  obtain ⟨node', cut, stands⟩ := List.mem_map.mp listed
  exact ⟨node, node', found, stands.symm, cut⟩

section Step

variable (s : Splits view tree mid ids added) {id parent : Nat} {node : SyntaxNode} {text : String}
  (new : id ∉ ids) (found : tree.get? id = some node)

include s new found

/-- A node that has not been split is what it was but for its children. -/
theorem get?_of_new :
    mid.get? id = some { node with children := expand added node.children } := by
  rw [s.old id node found, if_neg new]

variable (hm : mid.IsTree) (texted : node.kind.text? = some text) (up : node.parent = some parent)

include hm texted up

theorem size_step :
    (mid.splitNode view id).size = mid.size + (cutLeaves view node).length := by
  rw [(grafts_splitNode view hm (s.get?_of_new new found) texted up).size, cutLeaves, texted,
    List.length_map]

/-- What each number stands for after one more split. -/
theorem get?_step (x : Nat) :
    (mid.splitNode view id).get? x =
      if x = parent then
        (mid.get? x).map (adopt id (List.range' mid.size (cutLeaves view node).length))
      else if x = id then
        some { keepFirst view node with children := expand added node.children }
      else if x < mid.size then mid.get? x
      else (cutLeaves view node)[x - mid.size]? := by
  have leaves : (splitText view node.span.start text).2.map
      (leafFor { node with children := expand added node.children }) = cutLeaves view node := by
    rw [cutLeaves, texted]
    rfl
  have length : (splitText view node.span.start text).2.length = (cutLeaves view node).length := by
    rw [← leaves, List.length_map]
  have first : keepPiece (splitText view node.span.start text).1
      { node with children := expand added node.children } =
        { keepFirst view node with children := expand added node.children } := by
    rw [keepFirst, texted]
    rfl
  rw [get?_splitNode view hm (s.get?_of_new new found) texted up, ← first, ← leaves,
    List.length_map]

/-- One more split changes the nodes of the table as it should: the one that is split, and the list
of children that it is in. -/
theorem old_step (h : tree.IsTree) {x : NodeId} {was : SyntaxNode}
    (before : tree.get? x = some was) :
    (mid.splitNode view id).get? x =
      some { (if x ∈ ids ++ [id] then keepFirst view was else was) with
        children := expand (Function.update added id
          (List.range' mid.size (cutLeaves view node).length)) was.children } := by
  have up' : tree.parent? id = some parent := by rw [parent?_of_get? found, up]
  have ne : parent ≠ id := Nat.ne_of_lt (h.parent_lt up')
  have splitIff : x ≠ id → (x ∈ ids ++ [id] ↔ x ∈ ids) := fun ne => by simp [ne]
  rw [s.get?_step new found hm texted up]
  by_cases above : x = parent
  · subst above
    have listed : id ∈ was.children := by
      rw [← children_of_get? before]
      exact (h.linked x id).mpr up'
    have once : was.children.Nodup := by
      rw [← children_of_get? before]
      exact h.once x
    have freshId : ∀ child, id ∉ added child := fun child mem =>
      Nat.not_le_of_lt (lt_size_of_get? found) (s.fresh child id mem)
    have linked := insertBehind_expand freshId (s.untouched id new) once listed
    rw [if_pos rfl, s.old x was before, Option.map_some]
    simp only [adopt, splitIff ne, linked]
  · have absent : id ∉ was.children := by
      rw [← children_of_get? before, h.linked, up']
      exact fun same => above (Option.some_inj.mp same).symm
    rw [if_neg above, expand_update absent]
    by_cases here : x = id
    · subst here
      cases found.symm.trans before
      rw [if_pos rfl, if_pos (by simp)]
    · rw [if_neg here, if_pos (Nat.lt_of_lt_of_le (lt_size_of_get? before) s.size_le),
        s.old x was before]
      simp only [splitIff here]

/-- What is behind the first nodes of the table is neither the node that is split nor its parent. -/
theorem get?_step_of_le (h : tree.IsTree) {leaf : Nat} (high : tree.size ≤ leaf) :
    (mid.splitNode view id).get? leaf =
      if leaf < mid.size then mid.get? leaf else (cutLeaves view node)[leaf - mid.size]? := by
  have low := lt_size_of_get? found
  have lower : parent < id := h.parent_lt (by rw [parent?_of_get? found, up])
  rw [s.get?_step new found hm texted up, if_neg, if_neg]
  · exact Nat.ne_of_gt (Nat.lt_of_lt_of_le low high)
  · exact Nat.ne_of_gt (Nat.lt_of_lt_of_le (Nat.lt_trans lower low) high)

/-- The leaves of one more split are what is cut off its node. -/
theorem cut_step (h : tree.IsTree) :
    (List.range' mid.size (cutLeaves view node).length).map (mid.splitNode view id).get? =
      (cutLeaves view node).map some := by
  refine List.ext_getElem? fun k => ?_
  rw [List.getElem?_map, List.getElem?_map]
  by_cases cut : k < (cutLeaves view node).length
  · rw [List.getElem?_range' cut, Nat.one_mul, Option.map_some,
      s.get?_step_of_le new found hm texted up h (Nat.le_trans s.size_le (Nat.le_add_right ..)),
      if_neg (by omega), Nat.add_sub_cancel_left, List.getElem?_eq_getElem cut]
    rfl
  · rw [List.getElem?_eq_none (by rw [List.length_range']; omega),
      List.getElem?_eq_none (Nat.le_of_not_lt cut)]
    rfl

/-- Another node is split. -/
theorem step (h : tree.IsTree) (inside : ∀ id ∈ ids, id < tree.size) :
    Splits view tree (mid.splitNode view id) (ids ++ [id])
      (Function.update added id (List.range' mid.size (cutLeaves view node).length)) where
  size_le := by
    rw [s.size_step new found hm texted up]
    exact Nat.le_trans s.size_le (Nat.le_add_right ..)
  old x was before := s.old_step new found hm texted up h before
  cut x split was before := by
    by_cases here : x = id
    · subst here
      cases found.symm.trans before
      rw [Function.update_self]
      exact s.cut_step new found hm texted up h
    · -- leaves that were cut off before stand where they stood
      have split : x ∈ ids := by simpa [here] using split
      rw [Function.update_of_ne here, ← s.cut x split was before]
      refine List.map_congr_left fun leaf mem => ?_
      obtain ⟨-, node', -, stands, -⟩ := s.exists_leaf inside mem
      rw [s.get?_step_of_le new found hm texted up h (s.fresh x leaf mem),
        if_pos (lt_size_of_get? stands)]
  fresh x leaf mem := by
    by_cases here : x = id
    · subst here
      rw [Function.update_self] at mem
      exact Nat.le_trans s.size_le (List.mem_range'_1.mp mem).1
    · rw [Function.update_of_ne here] at mem
      exact s.fresh x leaf mem
  untouched x absent := by
    rw [List.mem_append, List.mem_singleton, not_or] at absent
    rw [Function.update_of_ne absent.2]
    exact s.untouched x absent.1

end Step

theorem children (s : Splits view tree mid ids added) {id : NodeId} (inside : id < tree.size) :
    mid.children id = expand added (tree.children id) := by
  obtain ⟨node, found⟩ := exists_get? inside
  rw [children_of_get? (s.old id node found), children_of_get? found]

/-- A node without a text is what it was. -/
theorem kind? (s : Splits view tree mid ids added) {id : NodeId} {node : SyntaxNode}
    (found : tree.get? id = some node) (textless : node.kind.text? = none) :
    mid.kind? id = some node.kind := by
  have same : keepFirst view node = node := by rw [keepFirst, textless]
  rw [kind?_of_get? (s.old id node found), same]
  split <;> rfl

/-- What is true of no text is true of a node after the splits if it was before. -/
theorem hasKind (s : Splits view tree mid ids added) {p : Kind → Bool}
    (textless : ∀ kind, kind.text?.isSome = true → p kind = false) {id : NodeId}
    (inside : id < tree.size) : mid.hasKind p id = tree.hasKind p id := by
  obtain ⟨node, found⟩ := exists_get? inside
  rw [hasKind_of_get? (s.old id node found), hasKind_of_get? found]
  split
  · cases texted : node.kind.text? with
    | none => rw [keepFirst, texted]
    | some text =>
      rw [textless node.kind (by rw [texted]; rfl)]
      exact textless _ (by rw [text?_keepFirst, texted]; rfl)
  · rfl

/-- The leaves are texts. -/
theorem hasKind_leaf (s : Splits view tree mid ids added) (inside : ∀ id ∈ ids, id < tree.size)
    {p : Kind → Bool} (textless : ∀ kind, kind.text?.isSome = true → p kind = false)
    {id leaf : NodeId} (mem : leaf ∈ added id) : mid.hasKind p leaf = false := by
  obtain ⟨node, node', -, stands, cut⟩ := s.exists_leaf inside mem
  rw [hasKind_of_get? stands]
  exact textless _ (text?_cutLeaves view cut)

/-- What was not there before has been cut off some node. -/
theorem exists_added (s : Splits view tree mid ids added) (h : tree.IsTree) (hm : mid.IsTree)
    (inside : ∀ id ∈ ids, id < tree.size) {x : Nat} (new : tree.size ≤ x) (below : x < mid.size) :
    ∃ id, x ∈ added id := by
  induction x using Nat.strongRecOn with
  | ind x ih =>
    obtain ⟨parent, up, before⟩ :=
      hm.parent x (Nat.ne_of_gt (Nat.lt_of_lt_of_le h.root_lt_size new)) below
    have listed : x ∈ mid.children parent := (hm.linked parent x).mpr up
    by_cases old : parent < tree.size
    · rw [s.children old, expand, List.mem_flatMap] at listed
      obtain ⟨child, mem, is⟩ := listed
      rcases List.mem_cons.mp is with rfl | cut
      · exact absurd (h.child_lt_size mem) (Nat.not_lt_of_le new)
      · exact ⟨child, cut⟩
    · -- a leaf that has been cut off has no children
      obtain ⟨id, mem⟩ := ih parent before (Nat.le_of_not_lt old) (Nat.lt_trans before below)
      obtain ⟨node, leaf, -, stands, cut⟩ := s.exists_leaf inside mem
      rw [children_of_get? stands, children_cutLeaves view cut] at listed
      cases listed

/-- It is one of the leaves that are cut off a node. -/
theorem mem_cutLeaves_of_new (s : Splits view tree mid ids added) (h : tree.IsTree)
    (hm : mid.IsTree) (inside : ∀ id ∈ ids, id < tree.size) {x : Nat} {leaf : SyntaxNode}
    (new : tree.size ≤ x) (found : mid.get? x = some leaf) : ∃ node, leaf ∈ cutLeaves view node := by
  obtain ⟨_, mem⟩ := s.exists_added h hm inside new (lt_size_of_get? found)
  obtain ⟨node, leaf, -, stands, cut⟩ := s.exists_leaf inside mem
  cases found.symm.trans stands
  exact ⟨node, cut⟩

theorem length_added (s : Splits view tree mid ids added) {id : NodeId} {node : SyntaxNode}
    (found : tree.get? id = some node)
    (split : node.kind.runsOverLines = true → id ∈ ids) :
    (added id).length = node.kind.furtherLines := by
  by_cases mem : id ∈ ids
  · have := congrArg List.length (s.cut id mem node found)
    rwa [List.length_map, List.length_map, length_cutLeaves] at this
  · rw [s.untouched id mem, Kind.furtherLines_eq_zero (Bool.eq_false_iff.mpr (mt split mem))]
    rfl

end Splits

/-- Splitting one node after the other splits them all. -/
theorem splits_foldl (view : SourceView) (h : tree.IsTree) {ids : List NodeId} (once : ids.Nodup)
    (texts : ∀ id ∈ ids, id ≠ root ∧ tree.hasKind Kind.runsOverLines id = true) :
    (ids.foldl (splitNode view) tree).IsTree ∧
      ∃ added, Splits view tree (ids.foldl (splitNode view) tree) ids added := by
  -- from the back, because `Splits` compares the result with the tree before all splits
  induction ids using List.reverseRecOn with
  | nil => exact ⟨h, _, .refl view tree⟩
  | append_singleton ids id ih =>
    have all : ∀ other ∈ ids, other ∈ ids ++ [id] := fun _ mem => List.mem_append_left _ mem
    obtain ⟨ne, runsOver⟩ := texts id (by simp)
    rw [List.nodup_append'] at once
    have new : id ∉ ids := fun mem => once.2.2 mem (by simp)
    obtain ⟨hm, added, s⟩ := ih once.1 fun other mem => texts other (all other mem)
    have inside : ∀ other ∈ ids ++ [id], other < tree.size := by
      intro other mem
      obtain ⟨node, found, -⟩ := exists_of_hasKind (texts other mem).2
      exact lt_size_of_get? found
    obtain ⟨node, found, runsOver⟩ := exists_of_hasKind runsOver
    obtain ⟨text, texted, -⟩ := (Option.any_eq_true ..).mp runsOver
    obtain ⟨parent, up, -⟩ := h.parent id ne (lt_size_of_get? found)
    rw [parent?_of_get? found] at up
    rw [List.foldl_append, List.foldl_cons, List.foldl_nil]
    exact ⟨hm.splitNode view ne, _, s.step new found hm texted up h fun other mem =>
      inside other (all other mem)⟩

/-- Splitting all texts splits the nodes other than the root whose text runs over several lines. -/
theorem splits_splitLiterals (view : SourceView) (h : tree.IsTree) :
    ∃ added, Splits view tree (tree.splitLiterals view)
      (tree.documentOrder.filter fun id => id != root && tree.hasKind Kind.runsOverLines id)
      added := by
  refine (splits_foldl view h (h.nodup_documentOrder.filter _) fun id mem => ?_).2
  have candidate := (List.mem_filter.mp mem).2
  rw [Bool.and_eq_true] at candidate
  exact ⟨bne_iff_ne.mp candidate.1, candidate.2⟩

/-- A tree that is built is the tree that is laid out, with spans repaired and texts split. -/
theorem splits_of_build {view : SourceView} {raw : RawTree} (h : build view raw = .ok tree) :
    ∃ laid repaired ids added, ofRaw raw = .ok laid ∧ laid.Agree eraseSpan repaired ∧
      repaired.IsTree ∧ Splits view repaired tree ids added ∧
      (∀ id ∈ ids, id < repaired.size) ∧
      ∀ id node, id ≠ root → repaired.get? id = some node → node.kind.runsOverLines = true →
        id ∈ ids := by
  obtain ⟨laid, reported, rfl⟩ := exists_of_build h
  have isTree := isTree_repairAttributes view reported
  obtain ⟨added, s⟩ := splits_splitLiterals view isTree
  refine ⟨laid, _, _, added, reported, laid.agree_repairAttributes view, isTree, s, ?_, ?_⟩
  · intro id mem
    exact isTree.mem_documentOrder_iff.mp (List.mem_filter.mp mem).1
  · intro id node ne found runsOver
    refine List.mem_filter.mpr ⟨isTree.mem_documentOrder_iff.mpr (lt_size_of_get? found), ?_⟩
    rw [Bool.and_eq_true, hasKind_of_get? found]
    exact ⟨bne_iff_ne.mpr ne, runsOver⟩

/-- In a tree that is built, a node of a kind that can only be a leaf has no children. -/
theorem leaf_of_build {view : SourceView} {raw : RawTree} (h : build view raw = .ok tree)
    {id : NodeId} {node : SyntaxNode} (found : tree.get? id = some node)
    (leaf : node.kind.isLeafKind = true) : node.children = [] := by
  obtain ⟨laid, repaired, ids, added, reported, same, isTree, s, inside, -⟩ := splits_of_build h
  rcases Nat.lt_or_ge id repaired.size with old | new
  · obtain ⟨was, before⟩ := exists_get? old
    cases found.symm.trans (s.old id was before)
    have leaf : was.kind.isLeafKind = true := by
      rw [← leaf]
      split
      · exact (isLeafKind_keepFirst view was).symm
      · rfl
    obtain ⟨node, stands, is⟩ := Option.map_eq_some_iff.mp
      ((same.kind? (fun _ => rfl) id).symm.trans (kind?_of_get? before))
    have childless : was.children = [] := by
      rw [← children_of_get? before, same.children keepsLinks_eraseSpan, children_of_get? stands]
      exact leaf_ofRaw reported stands (by rw [is, leaf])
    rw [childless]
    rfl
  · obtain ⟨_, cut⟩ := s.mem_cutLeaves_of_new isTree (isTree_of_build h) inside new found
    exact children_cutLeaves view cut

end SyntaxTree

end LinksBinding
