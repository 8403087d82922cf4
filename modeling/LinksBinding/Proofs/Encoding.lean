import LinksBinding.Proofs.Layout

/-!
# Reading what is written

A tree that is written as a value is read back from it (`RawTree.ofJson_toJson`). What is lost are
the children of nodes of leaf shape, which have no place in the written form.

The text of a span holds four numbers with a mark between each two. The marks are no digits, so
cutting the text at them gives the numbers back, and there is nothing in it to trim. The last thing
that is asked of a span is that it runs forward, and so a span that does not is the only one that is
not read back (`ParserSpan.decode?_encode`).
-/

namespace LinksBinding

open Text

/-! ## Positions and spans -/

/-- No digit is white space. -/
theorem isBlank_of_isAsciiDigit {c : Char} (digit : isAsciiDigit c = true) : isBlank c = false := by
  simp only [isAsciiDigit, Bool.and_eq_true, decide_eq_true_eq, Char.le_def,
    UInt32.le_iff_toNat_le] at digit
  have low : 48 ≤ c.toNat := digit.1
  have high : c.toNat ≤ 57 := digit.2
  -- the digits lie between the second and the third range of the blanks
  rw [isBlank, blankRanges, inRanges, if_neg (by omega), if_neg (by omega), inRanges,
    if_neg (by omega), if_neg (by omega), inRanges, if_pos (by omega)]

namespace ParserPosition

theorem mem_encode {p : ParserPosition} {c : Char} (mem : c ∈ p.encode) :
    isAsciiDigit c = true ∨ c = ':' := by
  rcases List.mem_append.mp mem with mem | mem
  · exact .inl (isAsciiDigit_of_mem_digits mem)
  · rcases List.mem_cons.mp mem with rfl | mem
    · exact .inr rfl
    · exact .inl (isAsciiDigit_of_mem_digits mem)

theorem isBlank_of_mem_encode {p : ParserPosition} {c : Char} (mem : c ∈ p.encode) :
    isBlank c = false := by
  rcases mem_encode mem with digit | rfl
  · exact isBlank_of_isAsciiDigit digit
  · decide

theorem decodeCoordinate?_digits (n : Coordinate) : decodeCoordinate? (digits n.toNat) = some n := by
  have solid : ∀ c ∈ digits n.toNat, isBlank c = false :=
    fun c mem => isBlank_of_isAsciiDigit (isAsciiDigit_of_mem_digits mem)
  rw [decodeCoordinate?, trim_eq_self solid, readBelow?_digits n.toNat_lt, Option.map_some,
    UInt32.ofNat_toNat]

/-- Every position is read back from its written form. -/
theorem decode?_encode (p : ParserPosition) : decode? p.encode = some p := by
  have free : ':' ∉ digits p.line.toNat :=
    fun mem => absurd (isAsciiDigit_of_mem_digits mem) (by decide)
  simp only [decode?, trim_eq_self fun c => isBlank_of_mem_encode (p := p) (c := c)]
  simp only [encode, cutAt_append free, decodeCoordinate?_digits, Option.bind_eq_bind,
    Option.bind_some]
  rfl

end ParserPosition

namespace ParserSpan

/-- A span is read back from its written form if it runs forward. One that does not is refused. -/
theorem decode?_encode (span : ParserSpan) :
    decode? span.encode = if span.Forward then some span else none := by
  have free : '-' ∉ span.start.encode := by
    intro mem
    rcases ParserPosition.mem_encode mem with digit | same
    · exact absurd digit (by decide)
    · cases same
  have solid : ∀ c ∈ span.start.encode ++ '-' :: span.stop.encode, isBlank c = false := by
    intro c mem
    rcases List.mem_append.mp mem with mem | mem
    · exact ParserPosition.isBlank_of_mem_encode mem
    · rcases List.mem_cons.mp mem with rfl | mem
      · decide
      · exact ParserPosition.isBlank_of_mem_encode mem
  simp only [decode?, encode, String.toList_ofList, trim_eq_self solid, cutAt_append free,
    ParserPosition.decode?_encode, Option.bind_eq_bind, Option.bind_some]
  rfl

end ParserSpan

namespace RawTree

/-! ## Trees -/

/-- A node of leaf shape has no children. -/
def BareLeaves (tree : RawTree) : Prop :=
  ∀ path node, tree.at? path = some node → node.shape = .leaf → node.children = []

theorem BareLeaves.child {shape : Shape} {label : String} {span : ParserSpan}
    {children : List RawTree} {child : RawTree}
    (h : (RawTree.node shape label span children).BareLeaves) (mem : child ∈ children) :
    child.BareLeaves := by
  intro path node found
  obtain ⟨step, found⟩ := exists_at?_of_mem mem found
  exact h _ node found

mutual
/-- Where nodes of leaf shape have no children, none are taken away. -/
theorem pruneLeaves_eq_self {tree : RawTree} (bare : tree.BareLeaves) :
    tree.pruneLeaves = tree := by
  match tree with
  | .node .leaf label span children =>
    have childless : children = [] := bare [] _ rfl rfl
    rw [childless, pruneLeaves]
  | .node .interior label span children =>
    rw [pruneLeaves, pruneLeavesList_eq_self fun child mem => bare.child mem]

theorem pruneLeavesList_eq_self {trees : List RawTree} (bare : ∀ tree ∈ trees, tree.BareLeaves) :
    pruneLeavesList trees = trees := by
  match trees with
  | [] => rfl
  | tree :: rest =>
    rw [pruneLeavesList, pruneLeaves_eq_self (bare tree List.mem_cons_self),
      pruneLeavesList_eq_self fun other mem => bare other (List.mem_cons_of_mem _ mem)]
end

theorem shapeOf?_shapeText (shape : Shape) : shapeOf? (.string (shapeText shape)) = some shape := by
  cases shape <;> rfl

/-- Shape, label and span of a node are read back if the span runs forward. -/
theorem headOf_written (path : NodePath) (shape : Shape) (label : String) {span : ParserSpan}
    (forward : span.Forward) :
    headOf path (.string (shapeText shape)) (.string label) (.string span.encode) =
      .ok (shape, label, span) := by
  simp only [headOf, shapeOf?_shapeText, ParserSpan.decode?_encode, if_pos forward]

mutual
/-- A tree whose nodes run forward is read back at any place, as far as its depth is admitted
there. -/
theorem ofJsonAt_toJson {tree : RawTree} {path : NodePath} (forward : tree.Forward)
    (fits : path.length + tree.height ≤ maxTreeDepth) :
    ofJsonAt path tree.toJson = .ok tree.pruneLeaves := by
  have admitted : ¬ path.length > maxTreeDepth := by omega
  match tree with
  | .node .leaf label span children =>
    have here : span.Forward := forward [] _ rfl
    rw [toJson, ofJsonAt, if_neg admitted, pruneLeaves]
    simp only [headOf_written path .leaf label here]
    rfl
  | .node .interior label span children =>
    have here : span.Forward := forward [] _ rfl
    rw [height] at fits
    have below : ofJsonList path 0 (toJsonList children) = .ok (pruneLeavesList children) :=
      ofJsonList_toJsonList (fun child mem => forward.child mem) fits
    rw [toJson, ofJsonAt, if_neg admitted, pruneLeaves]
    simp only [headOf_written path .interior label here, below]
    rfl

theorem ofJsonList_toJsonList {trees : List RawTree} {path : NodePath} {position : Nat}
    (forward : ∀ tree ∈ trees, tree.Forward)
    (fits : path.length + heightOfList trees ≤ maxTreeDepth) :
    ofJsonList path position (toJsonList trees) = .ok (pruneLeavesList trees) := by
  match trees with
  | [] => rfl
  | tree :: rest =>
    rw [heightOfList] at fits
    have first : ofJsonAt (position :: path) tree.toJson = .ok tree.pruneLeaves := by
      refine ofJsonAt_toJson (forward tree List.mem_cons_self) ?_
      rw [List.length_cons]
      omega
    have others : ofJsonList path (position + 1) (toJsonList rest) = .ok (pruneLeavesList rest) :=
      ofJsonList_toJsonList (fun other mem => forward other (List.mem_cons_of_mem _ mem)) (by omega)
    rw [toJsonList, ofJsonList, pruneLeavesList]
    simp only [first, others]
    rfl
end

/-- A tree is read back from its written form, but for the children of nodes of leaf shape, which
are not written. This takes that no span ends before it starts and that no node lies too deep. It
rests on the form of spans, from which exactly those that run forward are read back. -/
theorem ofJson_toJson {tree : RawTree} (forward : tree.Forward)
    (shallow : tree.height ≤ maxTreeDepth) :
    ofJson tree.toJson = .ok tree.pruneLeaves ∧
      (tree.BareLeaves → ofJson tree.toJson = .ok tree) ∧
      ∀ span : ParserSpan,
        ParserSpan.decode? span.encode = if span.start ≤ span.stop then some span else none := by
  have read : ofJson tree.toJson = .ok tree.pruneLeaves :=
    ofJsonAt_toJson forward (by rwa [List.length_nil, Nat.zero_add])
  refine ⟨read, fun bare => ?_, ParserSpan.decode?_encode⟩
  rw [read, pruneLeaves_eq_self bare]

/-- Output in which a node of leaf shape has a child, with the greatest position there is. -/
def overfull : RawTree :=
  .interior "Val" ⟨⟨0, 0⟩, ⟨4294967295, 4294967295⟩⟩
    [.leaf "Binder: x" ⟨⟨1, 5⟩, ⟨1, 6⟩⟩,
    .node .leaf "Constant: 1" ⟨⟨1, 9⟩, ⟨1, 10⟩⟩ [.leaf "Variable: y" ⟨⟨1, 9⟩, ⟨1, 10⟩⟩]]

/-- Of the output all is read back but that child. -/
theorem ofJson_overfull :
    overfull.Forward ∧ overfull.height ≤ maxTreeDepth ∧
      ofJson overfull.toJson = .ok (.interior "Val" ⟨⟨0, 0⟩, ⟨4294967295, 4294967295⟩⟩
        [.leaf "Binder: x" ⟨⟨1, 5⟩, ⟨1, 6⟩⟩, .leaf "Constant: 1" ⟨⟨1, 9⟩, ⟨1, 10⟩⟩]) ∧
      ParserSpan.decode? (ParserSpan.encode ⟨⟨2, 1⟩, ⟨1, 7⟩⟩) = none := by
  have forward : overfull.Forward := by
    simp only [overfull, interior, leaf]
    refine forward_node (by decide) ?_
    simp only [List.forall_mem_cons, List.not_mem_nil, false_implies, implies_true, and_true]
    refine ⟨forward_node (by decide) nofun, forward_node (by decide) ?_⟩
    simp only [List.forall_mem_cons, List.not_mem_nil, false_implies, implies_true, and_true]
    exact forward_node (by decide) nofun
  have shallow : overfull.height ≤ maxTreeDepth := by decide
  obtain ⟨read, -, spans⟩ := ofJson_toJson forward shallow
  exact ⟨forward, shallow, read, spans ⟨⟨2, 1⟩, ⟨1, 7⟩⟩⟩

end RawTree

end LinksBinding
