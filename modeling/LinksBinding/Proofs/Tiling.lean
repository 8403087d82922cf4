import LinksBinding.Proofs.Repair

/-!
# The values of attributes

The constants in the value of an attribute get the room that the pieces around them leave. `Tiled`
says so of the pieces one by one, in the terms in which a repair goes through them: a value that is
tiled is not changed by another repair, and a repair leaves a value tiled.

A repair reads spans that repairs write. A constant ends where the next piece starts, which may be a
constant without a place of its own yet. The quotation mark that closes an attribute inside another
one is looked for in front of a sibling that the other has placed. Attributes are repaired in
document order, so an attribute comes behind its parent, and a repair changes nothing that an
earlier one has read. Therefore all values are tiled in the end (`tiles_repairAttributes`), and
repairing them once more changes nothing (`repairAttributes_repairAttributes`).
-/

namespace LinksBinding

open Text

/-! ## The closing quotation mark -/

section Search

variable {target : Char} {start stop offset : Nat} {text : List Char}

theorem lastWithin?_eq_none (absent : lastWithin? target start stop offset text = none)
    {front back : List Char} (split : text = front ++ target :: back)
    (behind : start ≤ offset + bytes front) : stop ≤ offset + bytes front := by
  induction text generalizing offset front with
  | nil => cases front <;> cases split
  | cons c rest ih =>
    rw [lastWithin?] at absent
    split at absent
    · cases absent
    · rename_i below
      split at absent
      · cases absent
      · rename_i outside
        rcases List.cons_eq_append_iff.mp split with ⟨rfl, here⟩ | ⟨front, rfl, further⟩
        · cases here
          exact Nat.le_of_not_lt fun before => outside ⟨rfl, behind, before⟩
        · rw [bytes, ← Nat.add_assoc] at behind ⊢
          exact ih below further behind

/-- What the search finds is the last of the characters that stand in front of `stop`. -/
theorem exists_of_lastWithin? {found : Nat}
    (is : lastWithin? target start stop offset text = some found) :
    ∃ front back, text = front ++ target :: back ∧ found = offset + bytes front ∧
      start ≤ found ∧ found < stop ∧
      ∀ front' back', text = front' ++ target :: back' → offset + bytes front' < stop →
        bytes front' ≤ bytes front := by
  induction text generalizing offset with
  | nil => cases is
  | cons c rest ih =>
    rw [lastWithin?] at is
    split at is
    · rename_i below
      cases is
      obtain ⟨front, back, rfl, rfl, behind, before, last⟩ := ih below
      refine ⟨c :: front, back, rfl, by rw [bytes, Nat.add_assoc], behind, before, ?_⟩
      intro front' back' split before'
      rcases List.cons_eq_append_iff.mp split with ⟨rfl, -⟩ | ⟨front', rfl, further⟩
      · exact Nat.zero_le _
      · rw [bytes, ← Nat.add_assoc] at before'
        exact Nat.add_le_add_left (last front' back' further before') _
    · rename_i below
      split at is
      · rename_i here
        cases is
        obtain ⟨rfl, behind, before⟩ := here
        refine ⟨[], rest, rfl, rfl, behind, before, fun front' back' split before' => ?_⟩
        rcases List.cons_eq_append_iff.mp split with ⟨rfl, -⟩ | ⟨front', rfl, further⟩
        · exact Nat.le_refl _
        · -- a further one in front of `stop` would have been found
          rw [bytes, ← Nat.add_assoc] at before'
          have beyond := lastWithin?_eq_none below further (by omega)
          omega
      · cases is

end Search

/-- `position` is that of the last quotation mark of the document in front of `limit` and not in
front of `floor`, or `limit` if there is none. Where `limit` is no place in the document, there is
none; where `floor` is no place in it, every quotation mark counts as behind it. -/
inductive SourceView.ClosesAt (view : SourceView) (floor limit : ParserPosition) :
    (position : ParserPosition) → Prop where
  /-- there is such a quotation mark -/
  | quote {front back : List Char} {stop : Nat} (source : view.source = front ++ '"' :: back)
      (limited : view.offsetOf? limit = some stop) (before : bytes front < stop)
      (behind : ∀ start, view.offsetOf? floor = some start → start ≤ bytes front)
      (last : ∀ front' back', view.source = front' ++ '"' :: back' → bytes front' < stop →
        bytes front' ≤ bytes front) :
      view.ClosesAt floor limit (view.positionAt (bytes front))
  /-- there is none -/
  | limit (absent : ∀ front back stop, view.source = front ++ '"' :: back →
      view.offsetOf? limit = some stop → bytes front < stop →
      ∃ start, view.offsetOf? floor = some start ∧ bytes front < start) :
      view.ClosesAt floor limit limit

theorem SourceView.closesAt_closingQuote? (view : SourceView) (floor limit : ParserPosition) :
    view.ClosesAt floor limit ((view.closingQuote? floor limit).getD limit) := by
  rw [closingQuote?]
  cases limited : view.offsetOf? limit with
  | none => exact .limit fun _ _ _ _ at' => by rw [limited] at at'; cases at'
  | some stop =>
    simp only [Option.bind_eq_bind, Option.bind_some]
    cases quote : lastWithin? '"' ((view.offsetOf? floor).getD 0) stop 0 view.source with
    | none =>
      refine .limit fun front back stop' source at' before => ?_
      cases limited.symm.trans at'
      cases floored : view.offsetOf? floor with
      | none =>
        rw [floored] at quote
        have beyond := lastWithin?_eq_none quote source (Nat.zero_le _)
        omega
      | some start =>
        rw [floored] at quote
        refine ⟨start, rfl, Nat.lt_of_not_le fun behind => ?_⟩
        have beyond := lastWithin?_eq_none quote source (by rw [Nat.zero_add]; exact behind)
        omega
    | some found =>
      obtain ⟨front, back, source, rfl, behind, before, last⟩ := exists_of_lastWithin? quote
      rw [Nat.zero_add] at behind before
      simp only [Nat.zero_add] at last
      simp only [Option.bind_some, Option.pure_def, Option.getD_some, Nat.zero_add]
      refine .quote source limited before (fun start floored => ?_) last
      rwa [floored] at behind

namespace SyntaxTree

variable {tree other : SyntaxTree} {view : SourceView}

/-! ## Tiled values -/

/-- Where a constant ends at the earliest that the pieces `rest` follow: where the first of them
starts, or at the end of the value. -/
def pieceLimit (tree : SyntaxTree) (closing : ParserPosition) (rest : List NodeId) :
    ParserPosition :=
  match rest.head?.bind tree.span? with
  | some span => span.start
  | none => closing

theorem pieceLimit_cons {closing : ParserPosition} {next : NodeId} {rest : List NodeId}
    {span : ParserSpan} (stands : tree.span? next = some span) :
    tree.pieceLimit closing (next :: rest) = span.start := by
  rw [pieceLimit, List.head?_cons, Option.bind_some, stands]

/-- Each constant among the pieces starts where the piece before it ends, the first piece at
`cursor`, and ends where the next piece starts, the last one at `closing`; but no constant ends
before it starts. -/
inductive Tiled (tree : SyntaxTree) (closing : ParserPosition) :
    (cursor : ParserPosition) → (pieces : List NodeId) → Prop where
  /-- there are no more pieces -/
  | nil (cursor : ParserPosition) : Tiled tree closing cursor []
  /-- a constant has its place -/
  | constant {cursor : ParserPosition} {piece : NodeId} {rest : List NodeId}
      (is : tree.hasKind Kind.isConstant piece = true)
      (stands : tree.span? piece = some ⟨cursor, (tree.pieceLimit closing rest).max cursor⟩)
      (behind : Tiled tree closing ((tree.pieceLimit closing rest).max cursor) rest) :
      Tiled tree closing cursor (piece :: rest)
  /-- any other piece stands where it likes -/
  | free {cursor : ParserPosition} {piece : NodeId} {rest : List NodeId} {span : ParserSpan}
      (is : tree.hasKind Kind.isConstant piece = false) (stands : tree.span? piece = some span)
      (behind : Tiled tree closing span.stop rest) : Tiled tree closing cursor (piece :: rest)

theorem ext_get? (same : ∀ id, other.get? id = tree.get? id) : other = tree := by
  cases tree
  cases other
  exact congrArg mk (Array.ext_getElem? same)

theorem setSpan_eq_self {id : NodeId} {span : ParserSpan} (stands : tree.span? id = some span) :
    tree.setSpan id span = tree := by
  refine ext_get? fun x => ?_
  rw [setSpan, get?_modify]
  split
  · rename_i here
    obtain ⟨node, found, rfl⟩ := Option.map_eq_some_iff.mp stands
    rw [← here, found]
    rfl
  · rfl

theorem Agree.hasKind_isConstant (h : tree.Agree eraseConstantSpan other) (id : NodeId) :
    other.hasKind Kind.isConstant id = tree.hasKind Kind.isConstant id :=
  (h.coarsen eraseSpan_eraseConstantSpan).hasKind (fun _ => rfl) id

section Respan

variable {closing cursor : ParserPosition} {piece : NodeId} {rest : List NodeId}

theorem respanPieces_constant (is : tree.hasKind Kind.isConstant piece = true) :
    tree.respanPieces closing cursor (piece :: rest) =
      (tree.setSpan piece ⟨cursor, (tree.pieceLimit closing rest).max cursor⟩).respanPieces closing
        ((tree.pieceLimit closing rest).max cursor) rest := by
  rw [respanPieces, if_pos is]
  rfl

theorem respanPieces_free {span : ParserSpan} (is : tree.hasKind Kind.isConstant piece = false)
    (stands : tree.span? piece = some span) :
    tree.respanPieces closing cursor (piece :: rest) =
      tree.respanPieces closing span.stop rest := by
  rw [respanPieces, if_neg (by rw [is]; exact Bool.false_ne_true), stands]

/-- A value that is tiled is not changed by a repair. -/
theorem Tiled.respanPieces_eq {pieces : List NodeId} (tiled : tree.Tiled closing cursor pieces) :
    tree.respanPieces closing cursor pieces = tree := by
  induction tiled with
  | nil => rfl
  | constant is stands _ ih => rw [respanPieces_constant is, setSpan_eq_self stands, ih]
  | free is stands _ ih => rw [respanPieces_free is stands, ih]

/-- Whether a value is tiled depends on its pieces alone. -/
theorem Tiled.congr {pieces : List NodeId}
    (spans : ∀ piece ∈ pieces, other.span? piece = tree.span? piece)
    (kinds : ∀ piece, other.hasKind Kind.isConstant piece = tree.hasKind Kind.isConstant piece)
    (tiled : tree.Tiled closing cursor pieces) : other.Tiled closing cursor pieces := by
  induction tiled with
  | nil cursor => exact .nil cursor
  | @constant cursor piece rest is stands _ ih =>
    obtain ⟨here, spans⟩ := List.forall_mem_cons.mp spans
    have limit : other.pieceLimit closing rest = tree.pieceLimit closing rest := by
      cases rest with
      | nil => rfl
      | cons next rest =>
        simp only [pieceLimit, List.head?_cons, Option.bind_some, spans next List.mem_cons_self]
    refine .constant (by rw [kinds, is]) ?_ ?_
    · rw [limit, here, stands]
    · rw [limit]
      exact ih spans
  | free is stands _ ih =>
    obtain ⟨here, spans⟩ := List.forall_mem_cons.mp spans
    exact .free (by rw [kinds, is]) (by rw [here, stands]) (ih spans)

end Respan

/-! ## Repairing one value -/

/-- What is no constant stays as it is where spans of constants change. -/
theorem Agree.get?_of_free (h : tree.Agree eraseConstantSpan other) {id : NodeId}
    (free : tree.hasKind Kind.isConstant id = false) : other.get? id = tree.get? id := by
  have same := h id
  cases found : tree.get? id with
  | none =>
    rw [found, Option.map_none, Option.map_eq_none_iff] at same
    exact same
  | some node =>
    rw [hasKind_of_get? found] at free
    rw [found, Option.map_some, eraseConstantSpan, if_neg (by rw [free]; exact Bool.false_ne_true)]
      at same
    obtain ⟨node', found', same⟩ := Option.map_eq_some_iff.mp same
    rw [found', ← same]
    have kind : node'.kind.isConstant = false := by
      rw [eraseConstantSpan] at same
      split at same <;> rw [← same] at free <;> exact free
    rw [eraseConstantSpan, if_neg (by rw [kind]; exact Bool.false_ne_true)]

theorem get?_setSpan_of_ne {id x : NodeId} (ne : x ≠ id) (span : ParserSpan) :
    (tree.setSpan id span).get? x = tree.get? x := by
  rw [setSpan, get?_modify, if_neg (Ne.symm ne)]

/-- Only the pieces of a value are given spans. -/
theorem get?_respanPieces_of_notMem {closing cursor : ParserPosition} {pieces : List NodeId}
    {x : NodeId} (absent : x ∉ pieces) :
    (tree.respanPieces closing cursor pieces).get? x = tree.get? x := by
  induction pieces generalizing tree cursor with
  | nil => rfl
  | cons piece rest ih =>
    rw [List.mem_cons, not_or] at absent
    rw [respanPieces]
    split
    · rw [ih absent.2, get?_setSpan_of_ne absent.1]
    · exact ih absent.2

theorem span?_setSpan_self {id : NodeId} (inside : id < tree.size) (span : ParserSpan) :
    (tree.setSpan id span).span? id = some span := by
  obtain ⟨node, found⟩ := exists_get? inside
  rw [span?, setSpan, get?_modify, if_pos rfl, found]
  rfl

/-- Behind a constant, the limit that it was given is where the next piece starts by then. -/
theorem Tiled.pieceLimit_max {closing cursor : ParserPosition} {rest : List NodeId}
    (tiled : other.Tiled closing ((tree.pieceLimit closing rest).max cursor) rest)
    (frees : ∀ piece, other.hasKind Kind.isConstant piece = false →
      other.span? piece = tree.span? piece) :
    (other.pieceLimit closing rest).max cursor = (tree.pieceLimit closing rest).max cursor := by
  cases tiled with
  | nil => rfl
  | constant is stands _ =>
    rw [pieceLimit_cons stands]
    exact ParserPosition.max_eq_left (ParserPosition.le_max_right ..)
  | free is stands _ => rw [pieceLimit_cons stands, pieceLimit_cons ((frees _ is).symm.trans stands)]

/-- A repair leaves a value tiled. -/
theorem tiled_respanPieces {closing cursor : ParserPosition} {pieces : List NodeId}
    (once : pieces.Nodup) (inside : ∀ piece ∈ pieces, piece < tree.size) :
    (tree.respanPieces closing cursor pieces).Tiled closing cursor pieces := by
  induction pieces generalizing tree cursor with
  | nil => exact .nil cursor
  | cons piece rest ih =>
    obtain ⟨absent, once⟩ := List.nodup_cons.mp once
    obtain ⟨here, inside⟩ := List.forall_mem_cons.mp inside
    cases is : tree.hasKind Kind.isConstant piece with
    | true =>
      rw [respanPieces_constant is]
      generalize placing : (tree.pieceLimit closing rest).max cursor = stop
      have below : ((tree.setSpan piece ⟨cursor, stop⟩).respanPieces closing stop rest).Tiled
          closing stop rest := ih once (by rw [size_setSpan]; exact inside)
      have frees : tree.Agree eraseConstantSpan
          ((tree.setSpan piece ⟨cursor, stop⟩).respanPieces closing stop rest) :=
        (agree_setSpan is _).trans (agree_respanPieces closing _ stop rest)
      have stands : ((tree.setSpan piece ⟨cursor, stop⟩).respanPieces closing stop rest).span?
          piece = some ⟨cursor, stop⟩ := by
        rw [span?, get?_respanPieces_of_notMem absent]
        exact span?_setSpan_self here _
      generalize (tree.setSpan piece ⟨cursor, stop⟩).respanPieces closing stop rest = other
        at below frees stands ⊢
      subst placing
      have limit := below.pieceLimit_max fun x free => ?_
      · exact .constant (by rw [frees.hasKind_isConstant, is]) (by rw [limit, stands])
          (by rw [limit]; exact below)
      · rw [span?, span?, frees.get?_of_free (by rwa [← frees.hasKind_isConstant])]
    | false =>
      obtain ⟨node, found⟩ := exists_get? here
      have stands := span?_of_get? found
      rw [respanPieces_free is stands]
      refine .free ?_ ?_ (ih once inside)
      · rw [(agree_respanPieces closing tree _ rest).hasKind_isConstant, is]
      · rw [span?, get?_respanPieces_of_notMem absent]
        exact stands

/-! ## Repairing one attribute -/

/-- Where the value of an attribute starts: behind its name, an equals sign and a quotation mark. -/
def valueStart (span : ParserSpan) (name : String) : ParserPosition :=
  span.start.advance (.ofNat (unitLength name + 2))

/-- Where the value of an attribute ends: at the quotation mark that closes it, or else where the
search for that stops. -/
def valueEnd (view : SourceView) (tree : SyntaxTree) (id : NodeId) (span : ParserSpan) :
    ParserPosition :=
  (view.closingQuote? span.start (tree.quoteLimit id span)).getD (tree.quoteLimit id span)

/-- If the node is an attribute, its value is tiled. -/
def IsSettled (view : SourceView) (tree : SyntaxTree) (id : NodeId) : Prop :=
  ∀ node name, tree.get? id = some node → node.kind = .attribute name →
    tree.Tiled (tree.valueEnd view id node.span) (valueStart node.span name) node.children

theorem repairAttribute_eq {id : NodeId} {node : SyntaxNode} {name : String}
    (found : tree.get? id = some node) (is : node.kind = .attribute name) :
    tree.repairAttribute view id = tree.respanPieces (tree.valueEnd view id node.span)
      (valueStart node.span name) node.children := by
  obtain ⟨shape, kind, span, parent, pieces⟩ := node
  obtain rfl : kind = .attribute name := is
  rw [repairAttribute, found]
  rfl

/-- A repair changes nothing of an attribute that is settled. -/
theorem IsSettled.repairAttribute_eq_self {id : NodeId} (settled : tree.IsSettled view id) :
    tree.repairAttribute view id = tree := by
  rw [repairAttribute]
  split
  · rename_i found
    exact (settled _ _ found rfl).respanPieces_eq
  · rfl

/-- A repair changes only what is below the attribute. -/
theorem get?_repairAttribute_of_ne (h : tree.IsTree) {id x : NodeId}
    (apart : tree.parent? x ≠ some id) : (tree.repairAttribute view id).get? x = tree.get? x := by
  rw [repairAttribute]
  split
  · rename_i found
    refine get?_respanPieces_of_notMem fun listed => apart ?_
    rwa [← h.linked, children_of_get? found]
  · rfl

theorem parent?_of_nextSibling? (h : tree.IsTree) {id next : NodeId}
    (beside : tree.nextSibling? id = some next) : tree.parent? next = tree.parent? id := by
  rw [nextSibling?] at beside
  split at beside
  · rename_i up _
    rw [up, ← h.linked]
    exact List.mem_of_getElem? beside
  · cases beside

/-- Where the search for the closing quote stops depends on the next sibling alone. -/
theorem quoteLimit_congr (same : tree.Agree eraseConstantSpan other) {id : NodeId}
    (beside : ∀ next, tree.nextSibling? id = some next → other.get? next = tree.get? next)
    (span : ParserSpan) : other.quoteLimit id span = tree.quoteLimit id span := by
  rw [quoteLimit, quoteLimit, same.nextSibling? keepsLinks_eraseConstantSpan]
  cases stands : tree.nextSibling? id with
  | none => rfl
  | some next => simp only [Option.bind_some, span?, beside next stands]

/-- So does where the value of an attribute ends. -/
theorem valueEnd_congr (same : tree.Agree eraseConstantSpan other) {id : NodeId}
    (beside : ∀ next, tree.nextSibling? id = some next → other.get? next = tree.get? next)
    (span : ParserSpan) : other.valueEnd view id span = tree.valueEnd view id span := by
  rw [valueEnd, valueEnd, quoteLimit_congr same beside]

/-- An attribute is settled if it and its value are what they are in another tree where it is. -/
theorem IsSettled.congr (h : tree.IsTree) (same : tree.Agree eraseConstantSpan other) {id : NodeId}
    (apart : ∀ x, tree.parent? x = some id ∨ tree.parent? x = tree.parent? id →
      other.get? x = tree.get? x) (settled : tree.IsSettled view id) : other.IsSettled view id := by
  intro node name found is
  have here : other.get? id = tree.get? id := apart id (.inr rfl)
  rw [valueEnd_congr same (fun next beside => apart next (.inr (parent?_of_nextSibling? h beside)))]
  refine (settled node name (here.symm.trans found) is).congr (fun piece listed => ?_)
    same.hasKind_isConstant
  rw [span?, span?, apart piece (.inl _)]
  rwa [← h.linked, children_of_get? (here.symm.trans found)]

/-- A repair settles the attribute. -/
theorem isSettled_repairAttribute (h : tree.IsTree) (id : NodeId) :
    (tree.repairAttribute view id).IsSettled view id := by
  intro node name found is
  have self : tree.parent? id ≠ some id := fun up => Nat.lt_irrefl _ (h.parent_lt up)
  rw [get?_repairAttribute_of_ne h self] at found
  rw [valueEnd_congr (tree.agree_repairAttribute view id) fun next beside =>
    get?_repairAttribute_of_ne h (by rwa [parent?_of_nextSibling? h beside]),
    repairAttribute_eq found is]
  rw [← children_of_get? found]
  exact tiled_respanPieces (h.once id) fun _ listed => h.child_lt_size listed

/-- The repair of an attribute that is not around it leaves another settled. -/
theorem IsSettled.repairAttribute (h : tree.IsTree) {id repaired : NodeId} (ne : repaired ≠ id)
    (apart : tree.parent? id ≠ some repaired) (settled : tree.IsSettled view id) :
    (tree.repairAttribute view repaired).IsSettled view id := by
  refine settled.congr h (tree.agree_repairAttribute view repaired) fun x near => ?_
  refine get?_repairAttribute_of_ne h ?_
  rcases near with below | beside
  · rw [below]
    exact fun same => ne (Option.some_inj.mp same).symm
  · rwa [beside]

/-! ## Repairing all attributes -/

/-- Attributes that are repaired one after the other, none after one inside it, are settled. -/
theorem isSettled_foldl (h : tree.IsTree) {ids : List NodeId} (once : ids.Nodup)
    (order : ids.Pairwise fun a b => tree.parent? a ≠ some b) :
    ∀ id ∈ ids, (ids.foldl (repairAttribute view) tree).IsSettled view id := by
  -- from the back, because the last repair has to leave settled what those before it settled
  induction ids using List.reverseRecOn with
  | nil => exact List.forall_mem_nil _
  | append_singleton ids last ih =>
    rw [List.nodup_append'] at once
    rw [List.pairwise_append] at order
    obtain ⟨once, -, new⟩ := once
    obtain ⟨order, -, above⟩ := order
    have same := agree_foldl_repairAttribute view tree ids
    have isTree : (ids.foldl (SyntaxTree.repairAttribute view) tree).IsTree :=
      same.isTree keepsLinks_eraseConstantSpan h
    rw [List.foldl_append, List.foldl_cons, List.foldl_nil]
    intro id mem
    rcases List.mem_append.mp mem with mem | mem
    · refine (ih once order id mem).repairAttribute isTree ?_ ?_
      · rintro rfl
        exact new mem List.mem_cons_self
      · rw [same.parent? keepsLinks_eraseConstantSpan]
        exact above id mem last List.mem_cons_self
    · obtain rfl := List.mem_singleton.mp mem
      exact isSettled_repairAttribute isTree id

/-- Repairing attributes that are not around a node leaves the node as it is. -/
theorem get?_foldl_repairAttribute (h : tree.IsTree) {ids : List NodeId} {x : NodeId}
    (apart : ∀ id ∈ ids, tree.parent? x ≠ some id) :
    (ids.foldl (repairAttribute view) tree).get? x = tree.get? x := by
  induction ids generalizing tree with
  | nil => rfl
  | cons id ids ih =>
    obtain ⟨here, apart⟩ := List.forall_mem_cons.mp apart
    have same := tree.agree_repairAttribute view id
    rw [List.foldl_cons, ih (same.isTree keepsLinks_eraseConstantSpan h) fun other mem => by
      rw [same.parent? keepsLinks_eraseConstantSpan]
      exact apart other mem]
    exact get?_repairAttribute_of_ne h here

section Order

variable {front back : List NodeId} {id : NodeId}
  (whole : tree.documentOrder.filter (tree.hasKind Kind.isAttribute) = front ++ id :: back)

include whole

theorem repairAttributes_eq_foldl : tree.repairAttributes view =
    (id :: back).foldl (repairAttribute view) (front.foldl (repairAttribute view) tree) := by
  rw [repairAttributes, whole, List.foldl_append]

/-- From there on, constants get spans and nothing else changes. -/
theorem agree_foldl_repairAttributes : (front.foldl (repairAttribute view) tree).Agree
    eraseConstantSpan (tree.repairAttributes view) := by
  rw [repairAttributes_eq_foldl whole]
  exact agree_foldl_repairAttribute view _ (id :: back)

/-- What is around an attribute is repaired in front of it. -/
theorem parent?_ne_of_behind (h : tree.IsTree) {behind : NodeId} (mem : behind ∈ id :: back) :
    tree.parent? id ≠ some behind := by
  have order := h.pairwise_documentOrder.filter (tree.hasKind Kind.isAttribute)
  rw [whole] at order
  rcases List.mem_cons.mp mem with rfl | mem
  · exact fun up => Nat.lt_irrefl _ (h.parent_lt up)
  · exact (List.pairwise_cons.mp (List.pairwise_append.mp order).2.1).1 behind mem

/-- When an attribute is repaired, its siblings have the spans that they keep. -/
theorem get?_repairAttributes_of_beside (h : tree.IsTree) {x : NodeId}
    (beside : tree.parent? x = tree.parent? id) :
    (tree.repairAttributes view).get? x = (front.foldl (repairAttribute view) tree).get? x := by
  have same := agree_foldl_repairAttribute view tree front
  rw [repairAttributes_eq_foldl whole]
  refine get?_foldl_repairAttribute (same.isTree keepsLinks_eraseConstantSpan h) fun _ mem => ?_
  rw [same.parent? keepsLinks_eraseConstantSpan, beside]
  exact parent?_ne_of_behind whole h mem

/-- The pieces of its value are as they were laid out by then. -/
theorem get?_foldl_of_piece (h : tree.IsTree) {piece : NodeId}
    (up : tree.parent? piece = some id) :
    (front.foldl (repairAttribute view) tree).get? piece = tree.get? piece := by
  have once := h.nodup_documentOrder.filter (tree.hasKind Kind.isAttribute)
  rw [whole] at once
  refine get?_foldl_repairAttribute h fun other mem up' => ?_
  obtain rfl := Option.some_inj.mp (up.symm.trans up')
  exact (List.nodup_append'.mp once).2.2 mem List.mem_cons_self

/-- They keep the spans that its repair gives them. -/
theorem get?_repairAttributes_of_piece (h : tree.IsTree) {piece : NodeId}
    (up : tree.parent? piece = some id) :
    (tree.repairAttributes view).get? piece =
      ((front.foldl (repairAttribute view) tree).repairAttribute view id).get? piece := by
  have once := h.nodup_documentOrder.filter (tree.hasKind Kind.isAttribute)
  rw [whole] at once
  have same := (agree_foldl_repairAttribute view tree front).trans
    (agree_repairAttribute view (front.foldl (repairAttribute view) tree) id)
  rw [repairAttributes_eq_foldl whole, List.foldl_cons]
  refine get?_foldl_repairAttribute (same.isTree keepsLinks_eraseConstantSpan h) fun _ mem up' => ?_
  rw [same.parent? keepsLinks_eraseConstantSpan, up] at up'
  cases up'
  exact (List.nodup_cons.mp (List.nodup_append'.mp once).2.1).1 mem

end Order

/-- An attribute is one of those that are repaired, one after the other. -/
theorem exists_eq_append_of_attribute (h : tree.IsTree) {id : NodeId}
    (is : tree.hasKind Kind.isAttribute id = true) : ∃ front back,
      tree.documentOrder.filter (tree.hasKind Kind.isAttribute) = front ++ id :: back := by
  obtain ⟨node, found, -⟩ := exists_of_hasKind is
  exact List.append_of_mem
    (List.mem_filter.mpr ⟨h.mem_documentOrder_iff.mpr (lt_size_of_get? found), is⟩)

/-- After the repair of all attributes, each of them is settled. -/
theorem isSettled_repairAttributes (h : tree.IsTree) (id : NodeId) :
    (tree.repairAttributes view).IsSettled view id := by
  intro node name found is
  have same := agree_repairAttributes view tree
  have isAttribute : tree.hasKind Kind.isAttribute id = true := by
    rw [← same.hasKind (fun _ => rfl), hasKind_of_get? found, is]
    rfl
  have inside : id < tree.size := by
    rw [← same.size]
    exact lt_size_of_get? found
  refine isSettled_foldl h (h.nodup_documentOrder.filter _) (h.pairwise_documentOrder.filter _) id
    ?_ node name found is
  exact List.mem_filter.mpr ⟨h.mem_documentOrder_iff.mpr inside, isAttribute⟩

/-- A node that is no constant in the value of an attribute is what it was. -/
theorem get?_repairAttributes (h : tree.IsTree) {id : NodeId}
    (kept : ∀ parent, tree.parent? id = some parent → tree.hasKind Kind.isAttribute parent = true →
      tree.hasKind Kind.isConstant id = false) :
    (tree.repairAttributes view).get? id = tree.get? id := by
  cases is : tree.hasKind Kind.isConstant id with
  | false => exact (agree_repairAttributes_constants view tree).get?_of_free is
  | true =>
    refine (List.foldlRecOn _ _ (motive := fun (changed : SyntaxTree) =>
      tree.Agree eraseConstantSpan changed ∧ changed.get? id = tree.get? id) ⟨.refl _ _, rfl⟩ ?_).2
    rintro changed ⟨same, here⟩ repaired mem
    refine ⟨same.trans (changed.agree_repairAttribute view repaired), ?_⟩
    rw [get?_repairAttribute_of_ne (same.isTree keepsLinks_eraseConstantSpan h), here]
    rw [same.parent? keepsLinks_eraseConstantSpan]
    intro up
    rw [kept repaired up (List.mem_filter.mp mem).2] at is
    cases is

/-- Whether the search for a closing quote overflows depends on the attribute and its next sibling
alone. -/
theorem markFits_congr (h : tree.IsTree) (same : tree.Agree eraseConstantSpan other) {id : NodeId}
    (apart : ∀ x, tree.parent? x = tree.parent? id → other.get? x = tree.get? x) :
    MarkFits view other id ↔ MarkFits view tree id := by
  simp only [MarkFits, apart id rfl]
  refine forall₂_congr fun node _ => ?_
  rw [quoteLimit_congr same fun next beside => apart next (parent?_of_nextSibling? h beside)]

/-- Attributes are repaired if their names are not too long and no search for a closing quote
overflows in the tree that is left. -/
theorem givesIf_repairAttributes? (view : SourceView) (h : tree.IsTree) :
    GivesIf (tree.repairAttributes? view)
      (∀ id ∈ tree.documentOrder.filter (tree.hasKind Kind.isAttribute),
        NameFits tree id ∧ MarkFits view (tree.repairAttributes view) id)
      (tree.repairAttributes view) := by
  refine GivesIf.foldlM_of_told (givesIf_repairAttribute? view) fun front id back whole => ?_
  have same := agree_foldl_repairAttribute view tree front
  have isTree := same.isTree keepsLinks_eraseConstantSpan h
  have rest : (front.foldl (repairAttribute view) tree).Agree eraseConstantSpan
      (tree.repairAttributes view) := agree_foldl_repairAttributes whole
  refine and_congr ?_ (markFits_congr isTree rest fun x beside => ?_).symm
  · simp only [NameFits, (same.coarsen eraseSpan_eraseConstantSpan).kind? (fun _ => rfl) id]
  · rw [same.parent? keepsLinks_eraseConstantSpan, same.parent? keepsLinks_eraseConstantSpan]
      at beside
    exact get?_repairAttributes_of_beside whole h beside

/-! ## What a repair leaves -/

/-- `span` is the place of a constant between the pieces `before` and `after` of a value that goes
from `opening` to `closing`. -/
structure FitsBetween (tree : SyntaxTree) (opening closing : ParserPosition)
    (before after : List NodeId) (span : ParserSpan) : Prop where
  /-- it does not end before it starts -/
  forward : span.start ≤ span.stop
  /-- as the first piece it starts where the value does -/
  first : before = [] → span.start = opening
  /-- behind another piece it starts where that ends -/
  behind : ∀ previous ∈ before.getLast?,
    ∃ left, tree.span? previous = some left ∧ span.start = left.stop
  /-- in front of a constant it ends where that starts -/
  abuts : ∀ next ∈ after.head?, tree.hasKind Kind.isConstant next = true →
    ∃ right, tree.span? next = some right ∧ span.stop = right.start
  /-- in front of any other piece it ends where that starts, or else empty -/
  reaches : ∀ next ∈ after.head?, tree.hasKind Kind.isConstant next = false →
    ∃ right, tree.span? next = some right ∧ span.stop = right.start.max span.start
  /-- as the last piece it ends where the value does, or else empty -/
  last : after = [] → span.stop = closing.max span.start

/-- `other` is `tree` with the values of its attributes tiled by the constants in them. -/
structure TilesValues (view : SourceView) (tree other : SyntaxTree) : Prop where
  /-- nothing changes of a node but its span -/
  nodes : tree.Agree eraseSpan other
  /-- no span changes but those of constants in the values of attributes -/
  kept : ∀ id, (∀ parent, tree.parent? id = some parent →
    tree.hasKind Kind.isAttribute parent = true → tree.hasKind Kind.isConstant id = false) →
      other.get? id = tree.get? id
  /-- each of these has its place between its siblings -/
  tiled : ∀ id node name, other.get? id = some node → node.kind = .attribute name →
    ∃ closing, view.ClosesAt node.span.start (other.quoteLimit id node.span) closing ∧
      ∀ before piece after, node.children = before ++ piece :: after →
        other.hasKind Kind.isConstant piece = true → ∃ span, other.span? piece = some span ∧
          other.FitsBetween (node.span.start.advance (.ofNat (unitLength name + 2))) closing
            before after span

namespace Tiled

variable {opening closing : ParserPosition} {piece : NodeId} {before after : List NodeId}

theorem behind (tiled : tree.Tiled closing opening (piece :: after)) :
    ∃ span, tree.span? piece = some span ∧ tree.Tiled closing span.stop after := by
  cases tiled with
  | constant is stands behind => exact ⟨_, stands, behind⟩
  | free is stands behind => exact ⟨_, stands, behind⟩

theorem fits_first (tiled : tree.Tiled closing opening (piece :: after))
    (is : tree.hasKind Kind.isConstant piece = true) :
    ∃ span, tree.span? piece = some span ∧ tree.FitsBetween opening closing [] after span := by
  cases tiled with
  | free is' => cases is.symm.trans is'
  | constant _ stands behind =>
    refine ⟨_, stands, ParserPosition.le_max_right .., fun _ => rfl, nofun, ?_, ?_, ?_⟩
    · intro next head is
      obtain ⟨rest, rfl⟩ := List.head?_eq_some_iff.mp head
      cases behind with
      | constant _ stands' _ => exact ⟨_, stands', rfl⟩
      | free is' => cases is.symm.trans is'
    · intro next head is
      obtain ⟨rest, rfl⟩ := List.head?_eq_some_iff.mp head
      cases behind with
      | constant is' => cases is.symm.trans is'
      | free _ stands' _ => exact ⟨_, stands', by rw [pieceLimit_cons stands']⟩
    · rintro rfl
      rfl

/-- In a tiled value each constant has its place. -/
theorem fits (tiled : tree.Tiled closing opening (before ++ piece :: after))
    (is : tree.hasKind Kind.isConstant piece = true) :
    ∃ span, tree.span? piece = some span ∧ tree.FitsBetween opening closing before after span := by
  induction before generalizing opening with
  | nil => exact tiled.fits_first is
  | cons first before ih =>
    obtain ⟨left, stands, tiled⟩ := tiled.behind
    obtain ⟨span, stands', fits⟩ := ih tiled
    refine ⟨span, stands', { fits with first := nofun, behind := fun previous last => ?_ }⟩
    cases before with
    | nil =>
      cases last
      exact ⟨left, stands, fits.first rfl⟩
    | cons second before => exact fits.behind previous last

end Tiled

/-- Repairing the attributes of a tree tiles their values, and comes to this unless a sum
overflows. -/
theorem tiles_repairAttributes (view : SourceView) (h : tree.IsTree) :
    TilesValues view tree (tree.repairAttributes view) ∧
      ∀ other, tree.repairAttributes? view = some other → other = tree.repairAttributes view := by
  refine ⟨⟨agree_repairAttributes view tree, fun _ => get?_repairAttributes h, ?_⟩,
    fun _ => eq_repairAttributes_of_repairAttributes?⟩
  intro id node name found is
  refine ⟨_, view.closesAt_closingQuote? _ _, fun before piece after split constant => ?_⟩
  have tiled := (isSettled_repairAttributes h id : IsSettled view _ id) node name found is
  rw [split] at tiled
  exact tiled.fits constant

/-- A link with an attribute that has another one among the pieces of its value, in front of a
constant. -/
def nestedValueView : SourceView :=
  .ofSource "<a h=\"xw\x7by\x7d\x7bi=\"u\"\x7dz\">t</a>\n" .standard

/-- Output for the link. -/
def nestedValue : RawTree :=
  .interior "Xml: a" ⟨⟨1, 1⟩, ⟨1, 27⟩⟩
    [.interior "XmlAttr: h" ⟨⟨1, 4⟩, ⟨1, 21⟩⟩
      [.leaf "Constant: \"x\"" ⟨⟨1, 1⟩, ⟨1, 1⟩⟩, .leaf "Constant: \"w\"" ⟨⟨1, 1⟩, ⟨1, 1⟩⟩,
      .leaf "Variable: y" ⟨⟨1, 10⟩, ⟨1, 11⟩⟩,
      .interior "XmlAttr: i" ⟨⟨1, 13⟩, ⟨1, 18⟩⟩ [.leaf "Constant: \"u\"" ⟨⟨1, 1⟩, ⟨1, 1⟩⟩],
      .leaf "Constant: \"z\"" ⟨⟨1, 1⟩, ⟨1, 1⟩⟩],
    .leaf "TextNode: t" ⟨⟨1, 22⟩, ⟨1, 23⟩⟩]

/-- The tree of that output. -/
def nestedValueTree : SyntaxTree :=
  ⟨#[⟨.interior, .element "a", ⟨⟨1, 1⟩, ⟨1, 27⟩⟩, none, [1, 8]⟩,
    ⟨.interior, .attribute "h", ⟨⟨1, 4⟩, ⟨1, 21⟩⟩, some 0, [2, 3, 4, 5, 7]⟩,
    ⟨.leaf, .constant (.string "\"x\""), ⟨⟨1, 1⟩, ⟨1, 1⟩⟩, some 1, []⟩,
    ⟨.leaf, .constant (.string "\"w\""), ⟨⟨1, 1⟩, ⟨1, 1⟩⟩, some 1, []⟩,
    ⟨.leaf, .variable "y", ⟨⟨1, 10⟩, ⟨1, 11⟩⟩, some 1, []⟩,
    ⟨.interior, .attribute "i", ⟨⟨1, 13⟩, ⟨1, 18⟩⟩, some 1, [6]⟩,
    ⟨.leaf, .constant (.string "\"u\""), ⟨⟨1, 1⟩, ⟨1, 1⟩⟩, some 5, []⟩,
    ⟨.leaf, .constant (.string "\"z\""), ⟨⟨1, 1⟩, ⟨1, 1⟩⟩, some 1, []⟩,
    ⟨.leaf, .text "t", ⟨⟨1, 22⟩, ⟨1, 23⟩⟩, some 0, []⟩]⟩

theorem isTree_nestedValueTree : nestedValueTree.IsTree :=
  have laid : ofRaw nestedValue = .ok nestedValueTree := by decide +kernel
  isTree_ofRaw laid

/-- The five pieces of the outer value follow one another, the first of them empty, and the inner
value ends at its own quotation mark. -/
theorem tiles_nestedValueTree :
    nestedValueTree.IsTree ∧
      TilesValues nestedValueView nestedValueTree
        (nestedValueTree.repairAttributes nestedValueView) ∧
      [2, 3, 4, 5, 6, 7].filterMap (nestedValueTree.repairAttributes nestedValueView).span? =
        [⟨⟨1, 7⟩, ⟨1, 7⟩⟩, ⟨⟨1, 7⟩, ⟨1, 10⟩⟩, ⟨⟨1, 10⟩, ⟨1, 11⟩⟩, ⟨⟨1, 13⟩, ⟨1, 18⟩⟩,
          ⟨⟨1, 16⟩, ⟨1, 17⟩⟩, ⟨⟨1, 18⟩, ⟨1, 20⟩⟩] :=
  ⟨isTree_nestedValueTree, (tiles_repairAttributes nestedValueView isTree_nestedValueTree).1,
    by decide +kernel⟩

/-- A link whose second attribute is reported to start past the end of its line. -/
def strayStartView : SourceView := .ofSource "<a b=\"x\"\n   c=y>t</a>\n" .standard

/-- Output for that link. -/
def strayStart : RawTree :=
  .interior "Xml: a" ⟨⟨1, 1⟩, ⟨2, 13⟩⟩
    [.interior "XmlAttr: b" ⟨⟨1, 4⟩, ⟨1, 9⟩⟩ [.leaf "Constant: \"x\"" ⟨⟨1, 1⟩, ⟨1, 1⟩⟩],
    .interior "XmlAttr: c" ⟨⟨1, 20⟩, ⟨2, 7⟩⟩ [.leaf "Constant: \"y\"" ⟨⟨1, 1⟩, ⟨1, 1⟩⟩],
    .leaf "TextNode: t" ⟨⟨2, 8⟩, ⟨2, 9⟩⟩]

/-- The tree of that output. -/
def strayStartTree : SyntaxTree :=
  ⟨#[⟨.interior, .element "a", ⟨⟨1, 1⟩, ⟨2, 13⟩⟩, none, [1, 3, 5]⟩,
    ⟨.interior, .attribute "b", ⟨⟨1, 4⟩, ⟨1, 9⟩⟩, some 0, [2]⟩,
    ⟨.leaf, .constant (.string "\"x\""), ⟨⟨1, 1⟩, ⟨1, 1⟩⟩, some 1, []⟩,
    ⟨.interior, .attribute "c", ⟨⟨1, 20⟩, ⟨2, 7⟩⟩, some 0, [4]⟩,
    ⟨.leaf, .constant (.string "\"y\""), ⟨⟨1, 1⟩, ⟨1, 1⟩⟩, some 3, []⟩,
    ⟨.leaf, .text "t", ⟨⟨2, 8⟩, ⟨2, 9⟩⟩, some 0, []⟩]⟩

/-- A quotation mark of the document stands at a position that is not in front of `floor` and in
front of `limit`. -/
def QuoteBetween (view : SourceView) (floor limit position : ParserPosition) : Prop :=
  floor ≤ position ∧ position < limit ∧
    ∃ front back, view.source = front ++ '"' :: back ∧ position = view.positionAt (bytes front)

/-- The last constant of a value does not always end at a quotation mark behind the start of the
attribute, or else at its limit. If the attribute starts at no place in the document, a quotation
mark in front of it is taken. -/
theorem not_closes_behind_start :
    ¬ ∀ (view : SourceView) (tree : SyntaxTree), tree.IsTree →
      ∀ id node name before piece, (tree.repairAttributes view).get? id = some node →
        node.kind = .attribute name → node.children = before ++ [piece] →
        (tree.repairAttributes view).hasKind Kind.isConstant piece = true →
        ∃ span limit closing, (tree.repairAttributes view).span? piece = some span ∧
          (tree.repairAttributes view).quoteLimit id node.span = limit ∧
          span.stop = closing.max span.start ∧
          (QuoteBetween view node.span.start limit closing ∧
              (∀ position, QuoteBetween view node.span.start limit position →
                position ≤ closing) ∨
            closing = limit ∧ ∀ position, ¬ QuoteBetween view node.span.start limit position) := by
  intro closesBehindStart
  have laid : ofRaw strayStart = .ok strayStartTree := by decide +kernel
  obtain ⟨span, _, closing, stands, rfl, stop,
      ⟨⟨behind, -, front, back, source, rfl⟩, -⟩ | ⟨rfl, -⟩⟩ :=
    closesBehindStart strayStartView strayStartTree (isTree_ofRaw laid) 3 _ "c" [] 4 rfl rfl rfl rfl
  · -- both quotation marks stand in front of the reported start
    have early : ∀ k < strayStartView.source.length, strayStartView.source[k]? = some '"' →
        ¬ (⟨1, 20⟩ : ParserPosition) ≤
          strayStartView.positionAt (bytes (strayStartView.source.take k)) := by
      decide +kernel
    refine early front.length ?_ ?_ ?_
    · rw [source]
      simp
    · rw [source]
      simp
    · rw [source, List.take_left]
      exact behind
  · have here : (strayStartTree.repairAttributes strayStartView).span? 4 =
        some ⟨⟨1, 23⟩, ⟨1, 23⟩⟩ := by decide +kernel
    cases here.symm.trans stands
    revert stop
    decide +kernel

/-- Repairing the attributes of a tree once more changes nothing, and no sum overflows by which the
first repair did not stop. -/
theorem repairAttributes_repairAttributes (view : SourceView) (h : tree.IsTree) :
    (tree.repairAttributes view).repairAttributes view = tree.repairAttributes view ∧
      ∀ other, tree.repairAttributes? view = some other →
        other.repairAttributes? view = some other := by
  have fixed : (tree.repairAttributes view).repairAttributes view = tree.repairAttributes view :=
    List.foldl_fixed' (fun id => (isSettled_repairAttributes h id).repairAttribute_eq_self) _
  refine ⟨fixed, fun other done => ?_⟩
  obtain ⟨fits, rfl⟩ := (givesIf_repairAttributes? view h other).mp done
  have same := agree_repairAttributes view tree
  have gives := givesIf_repairAttributes? view (same.isTree keepsLinks_eraseSpan h)
  refine (gives _).mpr ⟨fun id mem => ?_, fixed.symm⟩
  rw [same.documentOrder keepsLinks_eraseSpan] at mem
  have attributes : (tree.repairAttributes view).hasKind Kind.isAttribute =
      tree.hasKind Kind.isAttribute := funext fun id => same.hasKind (fun _ => rfl) id
  rw [attributes] at mem
  obtain ⟨name, mark⟩ := fits id mem
  rw [fixed]
  exact ⟨by rwa [NameFits, same.kind? fun _ => rfl], mark⟩

/-- A second repair changes nothing of the nested values, unlike the first. -/
theorem repairAttributes_nestedValueTree :
    nestedValueTree.IsTree ∧
      (nestedValueTree.repairAttributes nestedValueView).repairAttributes nestedValueView =
        nestedValueTree.repairAttributes nestedValueView ∧
      nestedValueTree.repairAttributes nestedValueView ≠ nestedValueTree :=
  ⟨isTree_nestedValueTree,
    (repairAttributes_repairAttributes nestedValueView isTree_nestedValueTree).1,
    by decide +kernel⟩

end SyntaxTree

end LinksBinding
