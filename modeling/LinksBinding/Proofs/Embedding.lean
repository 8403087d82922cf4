import LinksBinding.Proofs.Correspondence
import LinksBinding.Proofs.Room

/-!
# Parts of a tree

A tree may be found within another one, its nodes in other places of the table, each with all of its
children or with none (`Embeds`). The repair then gives a node the same span in both trees, and all
sums for the repair of the part fit if those for the repair of the whole do (`Embeds.hasRoom`).

The span of a constant in the value of an attribute is told from the spans that the pieces of the
value are laid out with and from where the value ends (`span?_repairAttributes_of_piece`). Where it
ends depends on the next sibling of the attribute, which may be a piece of the value around it. So
the spans are compared from the root downwards, all the children of a node at once.
-/

namespace LinksBinding

namespace Kind

variable (kind : Kind) (role : BinderRole)

@[simp] theorem isConstant_withRole : (kind.withRole role).isConstant = kind.isConstant := by
  cases kind <;> rfl

@[simp] theorem isAttribute_withRole : (kind.withRole role).isAttribute = kind.isAttribute := by
  cases kind <;> rfl

@[simp] theorem text?_withRole : (kind.withRole role).text? = kind.text? := by
  cases kind <;> rfl

@[simp] theorem runsOverLines_withRole :
    (kind.withRole role).runsOverLines = kind.runsOverLines := by
  rw [runsOverLines, text?_withRole, runsOverLines]

end Kind

namespace SyntaxTree

variable {tree part whole : SyntaxTree} {view : SourceView} {place : NodeId → NodeId}

/-! ## Repairing values -/

section Values

variable {closing cursor : ParserPosition}

theorem span?_setSpan (tree : SyntaxTree) (id : NodeId) (span : ParserSpan) (x : NodeId) :
    (tree.setSpan id span).span? x =
      if x = id then (tree.span? x).map fun _ => span else tree.span? x := by
  rw [span?, setSpan, get?_modify, span?]
  by_cases here : x = id
  · rw [if_pos here, if_pos here.symm, Option.map_map, Option.map_map]
    rfl
  · rw [if_neg here, if_neg (Ne.symm here)]

theorem span?_respanPieces_of_notMem {pieces : List NodeId} {x : NodeId} (absent : x ∉ pieces) :
    (tree.respanPieces closing cursor pieces).span? x = tree.span? x := by
  rw [span?, get?_respanPieces_of_notMem absent, span?]

/-- The spans that the pieces of a value are given depend on the kinds and spans of the pieces
alone. -/
theorem span?_respanPieces_map {pieces : List NodeId} (once : (pieces.map place).Nodup)
    (kinds : ∀ piece ∈ pieces,
      whole.hasKind Kind.isConstant (place piece) = part.hasKind Kind.isConstant piece)
    (spans : ∀ piece ∈ pieces, whole.span? (place piece) = part.span? piece) :
    ∀ piece ∈ pieces, (whole.respanPieces closing cursor (pieces.map place)).span? (place piece) =
      (part.respanPieces closing cursor pieces).span? piece := by
  induction pieces generalizing part whole cursor with
  | nil => exact List.forall_mem_nil _
  | cons first rest ih =>
    rw [List.map_cons] at once ⊢
    obtain ⟨absent', once'⟩ := List.nodup_cons.mp once
    have absent : first ∉ rest := fun mem => absent' (List.mem_map_of_mem mem)
    obtain ⟨kind, kinds⟩ := List.forall_mem_cons.mp kinds
    obtain ⟨span, spans⟩ := List.forall_mem_cons.mp spans
    cases is : part.hasKind Kind.isConstant first with
    | true =>
      rw [is] at kind
      have limit : whole.pieceLimit closing (rest.map place) = part.pieceLimit closing rest := by
        cases rest with
        | nil => rfl
        | cons next rest =>
          simp only [pieceLimit, List.map_cons, List.head?_cons, Option.bind_some,
            spans next List.mem_cons_self]
      rw [respanPieces_constant kind, respanPieces_constant is, limit]
      generalize (⟨cursor, (part.pieceLimit closing rest).max cursor⟩ : ParserSpan) = given
      refine List.forall_mem_cons.mpr ⟨?_, ih once' (fun piece mem => ?_) fun piece mem => ?_⟩
      · rw [span?_respanPieces_of_notMem absent', span?_respanPieces_of_notMem absent,
          span?_setSpan, if_pos rfl, span?_setSpan, if_pos rfl, span]
      · rw [(agree_setSpan kind given).hasKind_isConstant,
          (agree_setSpan is given).hasKind_isConstant]
        exact kinds piece mem
      · rw [span?_setSpan, if_neg fun same : place piece = place first =>
            absent' (same ▸ List.mem_map_of_mem mem),
          span?_setSpan, if_neg fun same : piece = first => absent (same ▸ mem)]
        exact spans piece mem
    | false =>
      rw [is] at kind
      rw [respanPieces, respanPieces, if_neg (by rw [kind]; exact Bool.false_ne_true),
        if_neg (by rw [is]; exact Bool.false_ne_true), span]
      refine List.forall_mem_cons.mpr ⟨?_, ih once' kinds spans⟩
      rw [span?_respanPieces_of_notMem absent', span?_respanPieces_of_notMem absent, span]

end Values

/-- The pieces of a value get their spans from those that they are laid out with, once it is known
where the value ends. -/
theorem span?_repairAttributes_of_piece (h : tree.IsTree) {id : NodeId} {node : SyntaxNode}
    {name : String} (found : tree.get? id = some node) (is : node.kind = .attribute name) :
    ∀ piece ∈ node.children, (tree.repairAttributes view).span? piece =
      (tree.respanPieces ((tree.repairAttributes view).valueEnd view id node.span)
        (valueStart node.span name) node.children).span? piece := by
  have listed : ∀ piece ∈ node.children, tree.parent? piece = some id := by
    intro piece mem
    rwa [← h.linked, children_of_get? found]
  have isAttribute : tree.hasKind Kind.isAttribute id = true := by
    rw [hasKind_of_get? found, is]
    rfl
  obtain ⟨front, back, whole⟩ := exists_eq_append_of_attribute h isAttribute
  -- the tree when it is the turn of the attribute
  generalize reached : front.foldl (repairAttribute view) tree = turn
  have same : tree.Agree eraseConstantSpan turn :=
    reached ▸ agree_foldl_repairAttribute view tree front
  have rest : turn.Agree eraseConstantSpan (tree.repairAttributes view) :=
    reached ▸ agree_foldl_repairAttributes whole
  have stands : turn.get? id = some node := by
    rw [same.get?_of_free (by rw [hasKind_of_get? found, is]; rfl), found]
  have ends : (tree.repairAttributes view).valueEnd view id node.span =
      turn.valueEnd view id node.span := by
    refine valueEnd_congr rest (fun next beside => ?_) _
    have up := parent?_of_nextSibling? (same.isTree keepsLinks_eraseConstantSpan h) beside
    rw [same.parent? keepsLinks_eraseConstantSpan, same.parent? keepsLinks_eraseConstantSpan] at up
    rw [← reached]
    exact get?_repairAttributes_of_beside whole h up
  intro piece mem
  rw [span?, get?_repairAttributes_of_piece whole h (listed piece mem), reached,
    repairAttribute_eq stands is, ends]
  have once := h.once id
  rw [children_of_get? found, ← List.map_id' node.children] at once
  have spans : ∀ piece ∈ node.children, turn.span? piece = tree.span? piece := by
    intro piece mem
    rw [span?, ← reached, get?_foldl_of_piece whole h (listed piece mem), span?]
  rw [← span?_respanPieces_map once (fun x _ => same.hasKind_isConstant x) spans piece mem,
    List.map_id']
  rfl

/-! ## Siblings -/

/-- Only the root has no parent. -/
theorem IsTree.eq_root_of_orphan (h : tree.IsTree) {id : NodeId} (inside : id < tree.size)
    (orphan : tree.parent? id = none) : id = SyntaxTree.root := by
  by_contra ne
  obtain ⟨parent, up, -⟩ := h.parent id ne inside
  cases orphan.symm.trans up

theorem nextSibling?_of_orphan {id : NodeId} (orphan : tree.parent? id = none) :
    tree.nextSibling? id = none := by
  rw [nextSibling?, orphan]

theorem nextSibling?_of_parent? {id parent : NodeId} (up : tree.parent? id = some parent) :
    tree.nextSibling? id = ((tree.children parent).findIdx? (· == id)).bind fun position =>
      (tree.children parent)[position + 1]? := by
  simp only [nextSibling?, childPosition?, up]
  cases (tree.children parent).findIdx? (· == id) <;> rfl

theorem lt_size_of_nextSibling? (h : tree.IsTree) {id next : Nat}
    (beside : tree.nextSibling? id = some next) : next < tree.size := by
  cases up : tree.parent? id with
  | none => cases (nextSibling?_of_orphan up).symm.trans beside
  | some parent => exact lt_size_of_parent? ((parent?_of_nextSibling? h beside).trans up)

theorem findIdx?_map_of_inj {ids : List NodeId} {id : NodeId}
    (inj : ∀ other ∈ ids, place other = place id → other = id) :
    (ids.map place).findIdx? (· == place id) = ids.findIdx? (· == id) := by
  induction ids with
  | nil => rfl
  | cons first rest ih =>
    obtain ⟨here, inj⟩ := List.forall_mem_cons.mp inj
    have same : (place first == place id) = (first == id) := by
      rw [Bool.eq_iff_iff, beq_iff_eq, beq_iff_eq]
      exact ⟨here, congrArg place⟩
    rw [List.map_cons, List.findIdx?_cons, List.findIdx?_cons, same, ih inj]

/-! ## Parts -/

/-- Each node of `part` has a place in `whole`, where a node of its kind has the same children or it
has none. -/
structure Embeds (place : NodeId → NodeId) (part whole : SyntaxTree) : Prop where
  /-- the root stays the root -/
  root : place root = SyntaxTree.root
  /-- the kind is the same, though a binder may introduce its name in another way -/
  kind : ∀ id kind, part.kind? id = some kind →
    ∃ role, whole.kind? (place id) = some (kind.withRole role)
  /-- there are all children or none -/
  children : ∀ id, part.children id = [] ∨
    whole.children (place id) = (part.children id).map place

namespace Embeds

variable {part' whole' : SyntaxTree}

/-- What becomes of spans does not matter. -/
theorem of_agree (x : Embeds place part whole) (same : part.Agree eraseSpan part')
    (same' : whole.Agree eraseSpan whole') : Embeds place part' whole' where
  root := x.root
  kind id kind is := by
    rw [same.kind? fun _ => rfl] at is
    rw [same'.kind? fun _ => rfl]
    exact x.kind id kind is
  children id := by
    rw [same.children keepsLinks_eraseSpan, same'.children keepsLinks_eraseSpan]
    exact x.children id

theorem hasKind (x : Embeds place part whole) {p : Kind → Bool}
    (free : ∀ kind role, p (kind.withRole role) = p kind) {id : Nat} (inside : id < part.size) :
    whole.hasKind p (place id) = part.hasKind p id := by
  obtain ⟨node, found⟩ := exists_get? inside
  obtain ⟨role, is⟩ := x.kind id node.kind (kind?_of_get? found)
  rw [SyntaxTree.hasKind, is, hasKind_of_get? found]
  exact free node.kind role

theorem kind?_attribute (x : Embeds place part whole) {id : NodeId} {name : String}
    (is : part.kind? id = some (.attribute name)) :
    whole.kind? (place id) = some (.attribute name) := by
  obtain ⟨role, is⟩ := x.kind id _ is
  exact is

/-- A node with children has the same children in the whole. -/
theorem children_eq (x : Embeds place part whole) (h : part.IsTree) {id parent : NodeId}
    (up : part.parent? id = some parent) :
    whole.children (place parent) = (part.children parent).map place := by
  have listed := (h.linked parent id).mpr up
  exact (x.children parent).resolve_left (List.ne_nil_of_mem listed)

theorem parent? (x : Embeds place part whole) (h : part.IsTree) (h' : whole.IsTree)
    {id parent : NodeId} (up : part.parent? id = some parent) :
    whole.parent? (place id) = some (place parent) := by
  rw [← h'.linked, x.children_eq h up]
  exact List.mem_map_of_mem ((h.linked parent id).mpr up)

/-- A sibling in the whole is one in the part. -/
theorem nextSibling? (x : Embeds place part whole) (h : part.IsTree) (h' : whole.IsTree) {id : Nat}
    (inside : id < part.size) :
    whole.nextSibling? (place id) = (part.nextSibling? id).map place := by
  cases up : part.parent? id with
  | none =>
    obtain rfl := h.eq_root_of_orphan inside up
    rw [x.root, nextSibling?_of_orphan h.parent?_root, nextSibling?_of_orphan h'.parent?_root]
    rfl
  | some parent =>
    have listed := (h.linked parent id).mpr up
    have eq := x.children_eq h up
    have once := h'.once (place parent)
    rw [eq] at once
    rw [nextSibling?_of_parent? (x.parent? h h' up), nextSibling?_of_parent? up, eq,
      findIdx?_map_of_inj fun y mem same => List.inj_on_of_nodup_map once mem listed same,
      Option.map_bind]
    exact Option.bind_congr fun position _ => List.getElem?_map

theorem quoteLimit (x : Embeds place part whole) (h : part.IsTree) (h' : whole.IsTree) {id : Nat}
    (inside : id < part.size)
    (beside : ∀ next, part.nextSibling? id = some next → whole.span? (place next) = part.span? next)
    (span : ParserSpan) : whole.quoteLimit (place id) span = part.quoteLimit id span := by
  rw [SyntaxTree.quoteLimit, SyntaxTree.quoteLimit, x.nextSibling? h h' inside]
  cases stands : part.nextSibling? id with
  | none => rfl
  | some next => rw [Option.map_some, Option.bind_some, Option.bind_some, beside next stands]

/-! ## Spans of the part -/

variable (x : Embeds place part whole) (h : part.IsTree) (h' : whole.IsTree)
  (spans : ∀ id < part.size, whole.span? (place id) = part.span? id)

include x spans

theorem exists_get? {id : NodeId} {node : SyntaxNode} (found : part.get? id = some node) :
    ∃ other role, whole.get? (place id) = some other ∧ other.kind = node.kind.withRole role ∧
      other.span = node.span := by
  obtain ⟨role, is⟩ := x.kind id node.kind (kind?_of_get? found)
  obtain ⟨other, found', is⟩ := Option.map_eq_some_iff.mp is
  have span := spans id (lt_size_of_get? found)
  rw [span?_of_get? found, span?_of_get? found', Option.some_inj] at span
  exact ⟨other, role, found', is, span⟩

include h h'

/-- In the value of an attribute, the repair gives the same spans in both trees if the next sibling
of the attribute has the same span by then. -/
theorem span?_repairAttributes_of_piece {parent : Nat} {node : SyntaxNode} {name : String}
    (found : part.get? parent = some node) (is : node.kind = .attribute name)
    (beside : ∀ next, part.nextSibling? parent = some next →
      (whole.repairAttributes view).span? (place next) = (part.repairAttributes view).span? next) :
    ∀ piece ∈ node.children, (whole.repairAttributes view).span? (place piece) =
      (part.repairAttributes view).span? piece := by
  obtain ⟨other, role, found', kind, span⟩ := x.exists_get? spans found
  have is' : other.kind = .attribute name := by
    rw [kind, is]
    rfl
  intro piece listed
  have below : ∀ piece ∈ node.children, part.parent? piece = some parent := by
    intro piece mem
    rwa [← h.linked, children_of_get? found]
  have children : other.children = node.children.map place := by
    rw [← children_of_get? found, ← children_of_get? found', x.children_eq h (below piece listed)]
  have same := agree_repairAttributes view part
  have same' := agree_repairAttributes view whole
  have limit := (x.of_agree same same').quoteLimit (same.isTree keepsLinks_eraseSpan h)
    (same'.isTree keepsLinks_eraseSpan h') (by rw [same.size]; exact lt_size_of_get? found)
    (fun next stands => beside next (by rwa [← same.nextSibling? keepsLinks_eraseSpan])) node.span
  have ends : (whole.repairAttributes view).valueEnd view (place parent) node.span =
      (part.repairAttributes view).valueEnd view parent node.span := by
    rw [valueEnd, valueEnd, limit]
  rw [SyntaxTree.span?_repairAttributes_of_piece h found is piece listed,
    SyntaxTree.span?_repairAttributes_of_piece h' found' is' (place piece)
      (by rw [children]; exact List.mem_map_of_mem listed), span, children, ends]
  have once := h'.once (place parent)
  rw [children_of_get? found', children] at once
  exact span?_respanPieces_map once
    (fun piece mem => x.hasKind Kind.isConstant_withRole (lt_size_of_parent? (below piece mem)))
    (fun piece mem => spans piece (lt_size_of_parent? (below piece mem))) piece listed

/-- Elsewhere it leaves the spans as they are. -/
theorem span?_repairAttributes_of_kept {id : Nat} (inside : id < part.size)
    (kept : ∀ parent, part.parent? id = some parent →
      part.hasKind Kind.isAttribute parent = false) :
    (whole.repairAttributes view).span? (place id) = (part.repairAttributes view).span? id := by
  have kept' : ∀ parent, whole.parent? (place id) = some parent →
      whole.hasKind Kind.isAttribute parent = false := by
    intro parent' up'
    cases up : part.parent? id with
    | none =>
      rw [h.eq_root_of_orphan inside up, x.root, h'.parent?_root] at up'
      cases up'
    | some parent =>
      cases up'.symm.trans (x.parent? h h' up)
      rw [x.hasKind Kind.isAttribute_withRole (Nat.lt_trans (h.parent_lt up) inside)]
      exact kept parent up
  have same : (part.repairAttributes view).get? id = part.get? id :=
    get?_repairAttributes h fun parent up is => by cases is.symm.trans (kept parent up)
  have same' : (whole.repairAttributes view).get? (place id) = whole.get? (place id) :=
    get?_repairAttributes h' fun parent up is => by cases is.symm.trans (kept' parent up)
  rw [span?, same', span?, same]
  exact spans id inside

/-- The repair gives the nodes of the part the spans that it gives them in the whole. -/
theorem span?_repairAttributes : ∀ id < part.size,
    (whole.repairAttributes view).span? (place id) = (part.repairAttributes view).span? id := by
  have below : ∀ parent id, part.parent? id = some parent →
      (whole.repairAttributes view).span? (place id) =
        (part.repairAttributes view).span? id := by
    intro (parent : Nat)
    induction parent using Nat.strongRecOn with
    | ind parent ih =>
      intro id up
      cases is : part.hasKind Kind.isAttribute parent with
      | true =>
        obtain ⟨⟨shape, kind, span, above, children⟩, found, is⟩ := exists_of_hasKind is
        cases kind <;> cases is
        -- the attribute ends in front of its next sibling, another child of the node above
        refine x.span?_repairAttributes_of_piece h h' spans found rfl (fun next beside => ?_) id ?_
        · cases up' : part.parent? parent with
          | none => cases (nextSibling?_of_orphan up').symm.trans beside
          | some grandparent =>
            exact ih grandparent (h.parent_lt up') next
              ((parent?_of_nextSibling? h beside).trans up')
        · rw [← children_of_get? found, h.linked, up]
      | false =>
        refine x.span?_repairAttributes_of_kept h h' spans (lt_size_of_parent? up) ?_
        intro other up'
        cases up.symm.trans up'
        exact is
  intro id inside
  cases up : part.parent? id with
  | none =>
    exact x.span?_repairAttributes_of_kept h h' spans inside fun parent up' => by
      cases up.symm.trans up'
  | some parent => exact below parent id up

/-- A part of a tree needs no more room than the tree. -/
theorem hasRoom (room : whole.HasRoom view) : part.HasRoom view := by
  have same := agree_repairAttributes view part
  have same' := agree_repairAttributes view whole
  have isTree := same.isTree keepsLinks_eraseSpan h
  have isTree' := same'.isTree keepsLinks_eraseSpan h'
  have y : Embeds place (part.repairAttributes view) (whole.repairAttributes view) :=
    x.of_agree same same'
  have repaired : ∀ id < (part.repairAttributes view).size,
      (whole.repairAttributes view).span? (place id) = (part.repairAttributes view).span? id := by
    rw [same.size]
    exact x.span?_repairAttributes h h' spans
  refine ⟨fun id name is => room.names (place id) name (x.kind?_attribute is), ?_, ?_⟩
  · intro id node found is
    obtain ⟨other, role, found', kind, span⟩ := y.exists_get? repaired found
    have fits := room.marks (place id) other found' (by rw [kind, Kind.isAttribute_withRole, is])
    rwa [span, y.quoteLimit isTree isTree' (lt_size_of_get? found) fun next stands =>
      repaired next (lt_size_of_nextSibling? isTree stands)] at fits
  · intro id ne runs node found text texted
    obtain ⟨other, role, found', kind, span⟩ := y.exists_get? repaired found
    have inside := lt_size_of_get? found
    have ne' : place id ≠ SyntaxTree.root := by
      obtain ⟨parent, up, -⟩ := isTree.parent id ne inside
      intro top
      have up' := y.parent? isTree isTree' up
      rw [top, isTree'.parent?_root] at up'
      cases up'
    have runs' := y.hasKind Kind.runsOverLines_withRole inside
    have fits := room.texts (place id) ne' (runs'.trans runs) other found' text
      (by rw [kind, Kind.text?_withRole, texted])
    rwa [span] at fits

end Embeds

end SyntaxTree

end LinksBinding
