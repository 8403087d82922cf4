import LinksBinding.Proofs.Extension
import LinksBinding.Proofs.Index
import LinksBinding.Proofs.Resolution

/-!
# Repairing spans keeps what names refer to

The repair of a laid-out tree moves and adds literals (`extends_repair`). A literal declares nothing
and uses no name, it bounds no scope, and it confines no declaration. It is a leaf, so nothing that
resolution asks for the span of is a literal. New literals stand behind others, so the first child
of a call or of the placement of a formlet remains the first. Hence names are resolved as before.

The index goes through the document in the same order with literals in between, which enter nothing.
So the two indexes are the same up to the numbers of parameters and arguments (`repair_keeps_index`).
-/

namespace LinksBinding

/-- The declaration without its number of parameters. -/
def Declaration.uncounted (declaration : Declaration) : Declaration :=
  { declaration with parameterCount := none }

/-- The use without its number of arguments. -/
def Occurrence.uncounted (occurrence : Occurrence) : Occurrence :=
  { occurrence with argumentCount := none }

namespace BindingIndex

/-- The index without the numbers of parameters and arguments. -/
def uncounted (index : BindingIndex) : BindingIndex :=
  { index with
    declarationEntries := index.declarationEntries.map Declaration.uncounted
    occurrenceEntries := index.occurrenceEntries.map Occurrence.uncounted }

/-- The indexes differ at most in the numbers of parameters and arguments. -/
structure AgreeUncounted (before after : BindingIndex) : Prop where
  /-- the same declarations in the same order -/
  declarations : after.declarations.map Declaration.uncounted =
    before.declarations.map Declaration.uncounted
  /-- the same uses in the same order -/
  occurrences : after.occurrences.map Occurrence.uncounted =
    before.occurrences.map Occurrence.uncounted
  /-- the uses refer to the same declarations -/
  resolved : after.resolved = before.resolved
  /-- the same uses refer to none -/
  unresolved : after.unresolved.map Occurrence.uncounted =
    before.unresolved.map Occurrence.uncounted
  /-- all the tables are the same -/
  uncounted : after.uncounted = before.uncounted

end BindingIndex

namespace SyntaxTree

variable {tree other : SyntaxTree} {wrapper name : String} {id scope : NodeId}

/-- No literal of the tree has children. -/
def LiteralLeaves (tree : SyntaxTree) : Prop :=
  ∀ id node, tree.get? id = some node → node.kind.isLiteral = true → node.children = []

theorem literalLeaves_ofRaw {raw : RawTree} (h : ofRaw raw = .ok tree) : tree.LiteralLeaves :=
  fun _ node found literal => leaf_ofRaw h found (Kind.isLeafKind_of_isLiteral node.kind literal)

/-- What lies above another node is no literal. -/
theorem LiteralLeaves.exists_plain? (leaves : tree.LiteralLeaves) (h : tree.IsTree)
    (above : tree.Encloses scope id) : ∃ kind span, tree.plain? scope = some (kind, span) := by
  obtain ⟨child, listed, -⟩ := h.exists_child above
  obtain ⟨node, found⟩ := h.exists_of_encloses above
  rw [children_of_get? found] at listed
  refine ⟨node.kind, node.span, ?_⟩
  rw [plain?_of_get? found, if_neg]
  intro literal
  rw [leaves scope node found literal] at listed
  cases listed

namespace Extends

section Resolution

variable (x : tree.Extends other) (h : tree.IsTree) (h' : other.IsTree)
  (leaves : tree.LiteralLeaves)

include x h h'

theorem enclosingScope? (old : id < tree.size) :
    other.enclosingScope? id = tree.enclosingScope? id := by
  have never : ∀ kind : Kind, kind.isLiteral = true → kind.isScopeBoundary = false :=
    Kind.forall_literal (fun _ => rfl) fun _ => rfl
  rw [SyntaxTree.enclosingScope?, SyntaxTree.enclosingScope?, x.nearestAncestor? h h' never old]

theorem confinement? (old : id < tree.size) : other.confinement? id = tree.confinement? id := by
  have iteration : other.nearestAncestor? Kind.isIteration id =
      tree.nearestAncestor? Kind.isIteration id :=
    x.nearestAncestor? h h' (Kind.forall_literal (fun _ => rfl) fun _ => rfl) old
  have formlet : other.nearestAncestor? Kind.isFormlet id =
      tree.nearestAncestor? Kind.isFormlet id :=
    x.nearestAncestor? h h' (Kind.forall_literal (fun _ => rfl) fun _ => rfl) old
  have formBinding : other.nearestAncestor? Kind.isFormBinding id =
      tree.nearestAncestor? Kind.isFormBinding id :=
    x.nearestAncestor? h h' (Kind.forall_literal (fun _ => rfl) fun _ => rfl) old
  have changesRows : other.nearestAncestor? Kind.changesRows id =
      tree.nearestAncestor? Kind.changesRows id :=
    x.nearestAncestor? h h' (Kind.forall_literal (fun _ => rfl) fun _ => rfl) old
  have parents : (tree.nearestAncestor? Kind.isFormBinding id).bind other.parent? =
      (tree.nearestAncestor? Kind.isFormBinding id).bind tree.parent? := by
    refine Option.bind_congr fun binding near => x.parent binding ?_
    have above := ((h.nearestAncestor?_eq_some_iff old).mp near).1
    exact Nat.lt_trans (h.encloses_lt above) old
  have role : (other.kind? id).bind Kind.role? = (tree.kind? id).bind Kind.role? :=
    x.bind_kind? (Kind.forall_literal (fun _ => rfl) fun _ => rfl) id
  rw [confinement?_eq, confinement?_eq, role, iteration, formlet, formBinding, changesRows, parents]

/-- A scope has the declarations of a name that it had. -/
theorem localDeclarations (scope : NodeId) (name : String) (ns : Namespace) :
    other.localDeclarations scope name ns = tree.localDeclarations scope name ns := by
  have declares : ∀ id, other.declares name id = tree.declares name id :=
    x.hasKind (Kind.forall_literal (fun _ => rfl) fun _ => rfl)
  have always : ∀ kind, kind.isLiteral = true → ns.seesBelow kind = true := by
    cases ns <;> exact Kind.forall_literal (fun _ => rfl) fun _ => rfl
  rw [SyntaxTree.localDeclarations, SyntaxTree.localDeclarations,
    ← x.filter_walk_children h h' always, List.filter_filter]
  refine List.filter_congr fun id _ => ?_
  rw [declares, Bool.eq_iff_iff, Bool.and_eq_true, decide_eq_true_eq]
  refine ⟨fun is => ⟨is, ?_⟩, fun both => both.1⟩
  obtain ⟨node, found, -⟩ := exists_of_hasKind is
  exact lt_size_of_get? found

include leaves

omit h' in
/-- What lies above another node stays where it is. -/
theorem span?_of_encloses (above : tree.Encloses scope id) :
    other.span? scope = tree.span? scope := by
  obtain ⟨kind, span, plain⟩ := leaves.exists_plain? h above
  rw [span?_of_plain? plain, span?_of_plain? ((x.plain scope).trans plain)]

variable {kind : Kind} {span : ParserSpan} (plain : tree.plain? id = some (kind, span))

include plain

theorem validityScope? (above : tree.Encloses scope id) :
    other.validityScope? id scope = tree.validityScope? id scope := by
  have old : id < tree.size := above.lt_size
  have construct : (tree.confinement? id).bind other.span? =
      (tree.confinement? id).bind tree.span? :=
    Option.bind_congr fun construct confined =>
      x.span?_of_encloses h leaves (h.encloses_of_confinement? old confined)
  rw [SyntaxTree.validityScope?, SyntaxTree.validityScope?, x.confinement? h h' old, construct,
    x.span?_of_encloses h leaves above, span?_of_plain? plain,
    span?_of_plain? ((x.plain id).trans plain)]

theorem candidate? (above : tree.Encloses scope id) (use : ParserSpan) :
    other.candidate? scope use id = tree.candidate? scope use id := by
  have plain' := (x.plain id).trans plain
  have binding : other.bindingSpan? id = tree.bindingSpan? id := by
    rw [bindingSpan?_eq, bindingSpan?_eq, span?_of_plain? plain, span?_of_plain? plain',
      kind?_of_plain? plain, kind?_of_plain? plain']
  rw [SyntaxTree.candidate?, SyntaxTree.candidate?, binding, span?_of_plain? plain,
    span?_of_plain? plain', x.span?_of_encloses h leaves above,
    x.validityScope? h h' leaves plain above]

omit plain

theorem candidates (scope : NodeId) (name : String) (ns : Namespace) (use : ParserSpan) :
    other.candidates scope name ns use = tree.candidates scope name ns use := by
  rw [SyntaxTree.candidates, SyntaxTree.candidates, x.localDeclarations h h']
  refine List.filterMap_congr fun id listed => ?_
  obtain ⟨above, -, declares⟩ := h.mem_localDeclarations_iff.mp listed
  obtain ⟨kind, is, declared⟩ := declaredName?_eq_some_iff.mpr declares
  -- what declares a name is no literal, so its span and its binding span stay
  have notLiteral : kind.isLiteral = false := by
    cases kind with
    | constant literal => cases declared
    | text content => cases declared
    | _ => rfl
  obtain ⟨span, plain⟩ := plain?_of_kind? is notLiteral
  exact x.candidate? h h' leaves plain above use

theorem lookUp? (wrapper name : String) (ns : Namespace) (use : ParserSpan) (fuel : Nat)
    (old : id < tree.size) :
    other.lookUp? wrapper name ns use fuel id = tree.lookUp? wrapper name ns use fuel id := by
  induction fuel generalizing id with
  | zero => rfl
  | succ fuel ih =>
    rw [SyntaxTree.lookUp?, SyntaxTree.lookUp?, x.enclosingScope? h h' old]
    cases around : tree.enclosingScope? id with
    | none => rfl
    | some scope =>
      have above := ((h.enclosingScope?_eq_some_iff old).mp around).encloses h old
      have last : other.isWrapper wrapper scope = tree.isWrapper wrapper scope := by
        rw [isWrapper, isWrapper, x.hasKind (Kind.forall_literal (fun _ => rfl) fun _ => rfl)]
      simp only [x.candidates h h' leaves, last, ih (Nat.lt_trans (h.encloses_lt above) old)]

/-- A variable refers to what it referred to. -/
theorem resolve? (wrapper : String) (ns : Namespace)
    (plain : tree.plain? id = some (.variable name, span)) :
    other.resolve? wrapper ns id = tree.resolve? wrapper ns id := by
  have plain' := (x.plain id).trans plain
  obtain ⟨node, found, -⟩ := get?_of_plain? plain
  rw [resolve?_of_variable wrapper ns (kind?_of_plain? plain) (span?_of_plain? plain),
    resolve?_of_variable wrapper ns (kind?_of_plain? plain') (span?_of_plain? plain'),
    x.lookUp? h h' leaves wrapper name ns span maxScopeClimb (lt_size_of_get? found)]

end Resolution

end Extends

/-! ## Uses by their place -/

/-- A node comes first among the children of its parent exactly if it is the first of them. -/
theorem IsTree.childPosition?_eq_zero_iff (h : tree.IsTree) {parent : NodeId}
    (up : tree.parent? id = some parent) :
    tree.childPosition? id = some 0 ↔ (tree.children parent).head? = some id := by
  have listed : id ∈ tree.children parent := (h.linked parent id).mpr up
  rw [childPosition?, up]
  cases siblings : tree.children parent with
  | nil =>
    rw [siblings] at listed
    cases listed
  | cons first rest => simp [siblings, List.findIdx?_cons]

/-- A node has a position among the children of its parent. -/
theorem IsTree.exists_childPosition? (h : tree.IsTree) {parent : NodeId}
    (up : tree.parent? id = some parent) : ∃ position, tree.childPosition? id = some position := by
  have listed : id ∈ tree.children parent := (h.linked parent id).mpr up
  rw [childPosition?, up, ← Option.isSome_iff_exists, List.findIdx?_isSome, List.any_eq_true]
  exact ⟨id, listed, beq_self_eq_true id⟩

/-! ## Entries -/

/-- A literal declares nothing. -/
theorem declarationOf?_of_plain? (none : tree.plain? id = none) :
    tree.declarationOf? wrapper id = Option.none := by
  cases made : tree.declarationOf? wrapper id with
  | none => rfl
  | some declaration =>
    rcases kind?_of_declarationOf? made with ⟨is, -⟩ | ⟨role, is, -⟩
    · cases isLiteral_of_plain? none is
    · cases isLiteral_of_plain? none is

/-- A literal uses no name. -/
theorem occurrenceOf?_of_plain? (none : tree.plain? id = none) :
    tree.occurrenceOf? wrapper id = Option.none := by
  cases made : tree.occurrenceOf? wrapper id with
  | none => rfl
  | some occurrence =>
    obtain ⟨name, is, -⟩ := occurrenceOf?_eq_some_iff.mp made
    cases isLiteral_of_plain? none is

namespace Extends

section Entries

variable (x : tree.Extends other) (h : tree.IsTree) (h' : other.IsTree)
  (leaves : tree.LiteralLeaves)

include x h h' leaves

/-- A name is used for what it was used for, and belongs to the call that it belonged to. -/
theorem useOf (old : id < tree.size) :
    (other.useOf id).1 = (tree.useOf id).1 ∧ (other.useOf id).2.1 = (tree.useOf id).2.1 := by
  cases up : tree.parent? id with
  | none =>
    rw [SyntaxTree.useOf, SyntaxTree.useOf, x.parent id old, up]
    exact ⟨rfl, rfl⟩
  | some parent =>
    have up' := (x.parent id old).trans up
    obtain ⟨kind, span, plain⟩ := leaves.exists_plain? h (.single up)
    obtain ⟨position, here⟩ := h.exists_childPosition? up
    obtain ⟨position', here'⟩ := h'.exists_childPosition? up'
    have first : position' = 0 ↔ position = 0 := by
      have := (h'.childPosition?_eq_zero_iff up').trans
        (x.first parent ▸ (h.childPosition?_eq_zero_iff up).symm)
      simpa [here, here'] using this
    rw [useOf_eq up, useOf_eq up', kind?_of_plain? plain,
      kind?_of_plain? ((x.plain parent).trans plain), here, here']
    -- the number of a further child may change, but stays greater than zero
    cases position with
    | zero =>
      rw [first.mpr rfl]
      cases kind <;> exact ⟨rfl, rfl⟩
    | succ n =>
      obtain ⟨m, rfl⟩ : ∃ m, position' = m + 1 :=
        Nat.exists_eq_succ_of_ne_zero (mt first.mp (Nat.succ_ne_zero n))
      cases kind <;> exact ⟨rfl, rfl⟩

theorem declarationValidity? {kind : Kind} {span : ParserSpan}
    (plain : tree.plain? id = some (kind, span)) :
    other.declarationValidity? id = tree.declarationValidity? id := by
  obtain ⟨node, found, -⟩ := get?_of_plain? plain
  have old := lt_size_of_get? found
  rw [SyntaxTree.declarationValidity?, SyntaxTree.declarationValidity?, x.enclosingScope? h h' old]
  refine Option.bind_congr fun scope around => x.validityScope? h h' leaves plain ?_
  exact ((h.enclosingScope?_eq_some_iff old).mp around).encloses h old

/-- A node declares what it declared. -/
theorem declarationOf? (wrapper : String) (id : NodeId) :
    (other.declarationOf? wrapper id).map Declaration.uncounted =
      (tree.declarationOf? wrapper id).map Declaration.uncounted := by
  cases plain : tree.plain? id with
  | none =>
    rw [declarationOf?_of_plain? plain, declarationOf?_of_plain? ((x.plain id).trans plain)]
  | some found =>
    obtain ⟨kind, span⟩ := found
    rw [SyntaxTree.declarationOf?, SyntaxTree.declarationOf?, kind?_of_plain? plain,
      kind?_of_plain? ((x.plain id).trans plain), x.declarationValidity? h h' leaves plain]
    cases kind with
    | function name =>
      by_cases left : id = root ∨ name = wrapper
      · simp only [if_pos left]
      · simp only [if_neg left, Option.map_map]
        rfl
    | _ => rfl

/-- A node uses the name that it used, and means what it meant. -/
theorem occurrenceOf? (wrapper : String) (id : NodeId) :
    (other.occurrenceOf? wrapper id).map Occurrence.uncounted =
      (tree.occurrenceOf? wrapper id).map Occurrence.uncounted := by
  cases plain : tree.plain? id with
  | none =>
    rw [occurrenceOf?_of_plain? plain, occurrenceOf?_of_plain? ((x.plain id).trans plain)]
  | some found =>
    obtain ⟨kind, span⟩ := found
    rw [SyntaxTree.occurrenceOf?, SyntaxTree.occurrenceOf?, kind?_of_plain? plain,
      kind?_of_plain? ((x.plain id).trans plain)]
    split
    · rename_i name is
      cases is
      obtain ⟨node, found, -⟩ := get?_of_plain? plain
      obtain ⟨use, call⟩ := x.useOf h h' leaves (lt_size_of_get? found)
      simp only [Option.map_some, Occurrence.uncounted, use, call,
        x.resolve? h h' leaves wrapper _ plain]
    · rfl

end Entries

end Extends

end SyntaxTree

namespace BindingIndex

open SyntaxTree

variable {tree other : SyntaxTree} {wrapper : String} {index index' : BindingIndex}

/-! ## The index without counts -/

theorem uncounted_addDeclaration (index : BindingIndex) (declaration : Declaration) :
    (index.addDeclaration declaration).uncounted =
      index.uncounted.addDeclaration declaration.uncounted := by
  simp [addDeclaration, uncounted, Declaration.uncounted]

theorem uncounted_addOccurrence (index : BindingIndex) (occurrence : Occurrence) :
    (index.addOccurrence occurrence).uncounted =
      index.uncounted.addOccurrence occurrence.uncounted := by
  have target : occurrence.uncounted.target? = occurrence.target? := rfl
  rw [addOccurrence, addOccurrence, target]
  cases occurrence.target? <;> simp [uncounted, Occurrence.uncounted]

/-- What is entered for a node does not depend on counts. -/
theorem uncounted_enter (tree : SyntaxTree) (wrapper : String) (index : BindingIndex) (id : NodeId) :
    (enter tree wrapper index id).uncounted =
      match (tree.occurrenceOf? wrapper id).map Occurrence.uncounted with
      | some occurrence => index.uncounted.addOccurrence occurrence
      | none =>
        match (tree.declarationOf? wrapper id).map Declaration.uncounted with
        | some declaration => index.uncounted.addDeclaration declaration
        | none => index.uncounted := by
  rw [enter]
  cases tree.occurrenceOf? wrapper id with
  | some occurrence => exact uncounted_addOccurrence index occurrence
  | none =>
    cases tree.declarationOf? wrapper id with
    | some declaration => exact uncounted_addDeclaration index declaration
    | none => rfl

/-- Going through nodes that declare and use the same gives the same up to counts. -/
theorem uncounted_foldl_enter
    (declared : ∀ id, (other.declarationOf? wrapper id).map Declaration.uncounted =
      (tree.declarationOf? wrapper id).map Declaration.uncounted)
    (used : ∀ id, (other.occurrenceOf? wrapper id).map Occurrence.uncounted =
      (tree.occurrenceOf? wrapper id).map Occurrence.uncounted)
    (ids : List NodeId) (same : index'.uncounted = index.uncounted) :
    (ids.foldl (enter other wrapper) index').uncounted =
      (ids.foldl (enter tree wrapper) index).uncounted := by
  induction ids generalizing index index' with
  | nil => exact same
  | cons id ids ih =>
    refine ih ?_
    rw [uncounted_enter, uncounted_enter, declared, used, same]

/-- Numbers without a node enter nothing. -/
theorem foldl_enter_filter (tree : SyntaxTree) (wrapper : String) (ids : List NodeId)
    (index : BindingIndex) :
    (ids.filter (· < tree.size)).foldl (enter tree wrapper) index =
      ids.foldl (enter tree wrapper) index := by
  induction ids generalizing index with
  | nil => rfl
  | cons id ids ih =>
    by_cases inside : id < tree.size
    · rw [List.filter_cons_of_pos (by simpa using inside), List.foldl_cons, List.foldl_cons, ih]
    · have absent := get?_eq_none (Nat.le_of_not_lt inside)
      have nothing : enter tree wrapper index id = index := by
        rw [enter, occurrenceOf?_eq_none wrapper absent, declarationOf?_eq_none wrapper absent]
      rw [List.filter_cons_of_neg (by simpa using inside), List.foldl_cons, nothing, ih]

/-- An extension has the index that the tree has, up to counts. -/
theorem uncounted_ofTree (x : tree.Extends other) (h : tree.IsTree) (h' : other.IsTree)
    (leaves : tree.LiteralLeaves) (wrapper : String) :
    (ofTree other wrapper).uncounted = (ofTree tree wrapper).uncounted := by
  -- the tree may go through the document of its extension: it has no nodes for the new numbers
  rw [ofTree, ofTree, ← x.filter_documentOrder h h', foldl_enter_filter]
  exact uncounted_foldl_enter (x.declarationOf? h h' leaves wrapper)
    (x.occurrenceOf? h h' leaves wrapper) other.documentOrder rfl

theorem declarations_uncounted (index : BindingIndex) :
    index.uncounted.declarations = index.declarations.map Declaration.uncounted :=
  Array.toList_map ..

theorem occurrences_uncounted (index : BindingIndex) :
    index.uncounted.occurrences = index.occurrences.map Occurrence.uncounted :=
  Array.toList_map ..

theorem unresolved_uncounted (index : BindingIndex) :
    index.uncounted.unresolved = index.unresolved.map Occurrence.uncounted := by
  rw [unresolved, unresolved, occurrencesAt, occurrencesAt, List.map_filterMap]
  refine List.filterMap_congr fun slot _ => ?_
  exact Array.getElem?_map ..

/-- Indexes that are the same without counts agree in every list. -/
theorem agreeUncounted_of_eq (same : index'.uncounted = index.uncounted) :
    index.AgreeUncounted index' where
  declarations := by rw [← declarations_uncounted, same, declarations_uncounted]
  occurrences := by rw [← occurrences_uncounted, same, occurrences_uncounted]
  resolved := by
    change index'.uncounted.resolved = index.uncounted.resolved
    rw [same]
  unresolved := by rw [← unresolved_uncounted, same, unresolved_uncounted]
  uncounted := same

/-! ## The index of a repaired tree -/

/-- A literal at the root is the whole tree, and it is neither moved nor split. -/
theorem repair_of_literal (h : tree.IsTree) (leaves : tree.LiteralLeaves)
    (literal : tree.hasKind Kind.isLiteral root = true) (view : SourceView) :
    tree.repair view = tree := by
  obtain ⟨node, found, literal⟩ := exists_of_hasKind literal
  have order : tree.documentOrder = [root] := by
    rw [h.documentOrder_eq, h.subtree_eq _ found, leaves root node found literal]
    rfl
  have never : ∀ kind : Kind, kind.isLiteral = true → kind.isAttribute = false :=
    Kind.forall_literal (fun _ => rfl) fun _ => rfl
  have noAttribute : tree.hasKind Kind.isAttribute root = false := by
    rw [hasKind_of_get? found, never node.kind literal]
  simp [repair, repairAttributes, splitLiterals, order, noAttribute]

/-- The index of a tree with its spans repaired has the declarations and uses of the index of the
tree as it was laid out, and each use refers to what it refers to there. A literal at the root stays
as it is. The repair comes to this tree unless a sum overflows. -/
theorem repair_keeps_index {raw : RawTree} (laid : SyntaxTree.ofRaw raw = .ok tree)
    (view : SourceView) (wrapper : String) :
    (ofTree tree wrapper).AgreeUncounted (ofTree (tree.repair view) wrapper) ∧
      (tree.hasKind Kind.isLiteral root = true → tree.repair view = tree) ∧
      ∀ other, tree.repair? view = some other → other = tree.repair view := by
  have h := isTree_ofRaw laid
  have leaves := literalLeaves_ofRaw laid
  refine ⟨agreeUncounted_of_eq ?_, fun literal => repair_of_literal h leaves literal view,
    fun _ => eq_repair_of_repair?⟩
  exact uncounted_ofTree (extends_repair view h) h (isTree_repair view h) leaves wrapper

/-- Output for a declaration, and an element with an attribute of two pieces, of which one uses what
is declared, and a text of two lines. -/
def link : RawTree :=
  .interior "Fun: top" ⟨⟨0, 1⟩, ⟨4, 2⟩⟩ [.interior "Block" ⟨⟨0, 1⟩, ⟨4, 2⟩⟩
    [.interior "Val" ⟨⟨1, 1⟩, ⟨1, 11⟩⟩
      [.leaf "Binder: y" ⟨⟨1, 5⟩, ⟨1, 6⟩⟩, .leaf "Constant: 1" ⟨⟨1, 9⟩, ⟨1, 10⟩⟩],
    .interior "Xml: a" ⟨⟨2, 1⟩, ⟨3, 10⟩⟩
      [.interior "XmlAttr: href" ⟨⟨2, 4⟩, ⟨2, 15⟩⟩
        [.leaf "Constant: \"x\"" ⟨⟨2, 1⟩, ⟨2, 1⟩⟩, .leaf "Variable: y" ⟨⟨2, 12⟩, ⟨2, 13⟩⟩],
      .leaf "TextNode: one\n  two" ⟨⟨2, 16⟩, ⟨3, 6⟩⟩]]]

/-- The document, and where the parser's positions are in it. -/
def linkView : SourceView :=
  .ofSource "var y = 1;\n<a href=\"x{y}\">one\n  two</a>\n" .standard

/-- The tree of that output as it is laid out. -/
def linkTree : SyntaxTree :=
  ⟨#[⟨.interior, .function "top", ⟨⟨0, 1⟩, ⟨4, 2⟩⟩, none, [1]⟩,
    ⟨.interior, .block, ⟨⟨0, 1⟩, ⟨4, 2⟩⟩, some 0, [2, 5]⟩,
    ⟨.interior, .declaration, ⟨⟨1, 1⟩, ⟨1, 11⟩⟩, some 1, [3, 4]⟩,
    ⟨.leaf, .binder "y" .letBinding, ⟨⟨1, 5⟩, ⟨1, 6⟩⟩, some 2, []⟩,
    ⟨.leaf, .constant (.number "1"), ⟨⟨1, 9⟩, ⟨1, 10⟩⟩, some 2, []⟩,
    ⟨.interior, .element "a", ⟨⟨2, 1⟩, ⟨3, 10⟩⟩, some 1, [6, 9]⟩,
    ⟨.interior, .attribute "href", ⟨⟨2, 4⟩, ⟨2, 15⟩⟩, some 5, [7, 8]⟩,
    ⟨.leaf, .constant (.string "\"x\""), ⟨⟨2, 1⟩, ⟨2, 1⟩⟩, some 6, []⟩,
    ⟨.leaf, .variable "y", ⟨⟨2, 12⟩, ⟨2, 13⟩⟩, some 6, []⟩,
    ⟨.leaf, .text "one\n  two", ⟨⟨2, 16⟩, ⟨3, 6⟩⟩, some 5, []⟩]⟩

/-- The constant is moved and the text is split, and the use refers to the declaration before and
after. -/
theorem repair_keeps_index_linkTree :
    SyntaxTree.ofRaw link = .ok linkTree ∧
      (linkTree.repair linkView).span? 7 = some ⟨⟨2, 10⟩, ⟨2, 12⟩⟩ ∧
      (linkTree.repair linkView).size = linkTree.size + 1 ∧
      (ofTree linkTree "top").target? 8 = some 3 ∧
      (ofTree linkTree "top").AgreeUncounted (ofTree (linkTree.repair linkView) "top") :=
  have laid : SyntaxTree.ofRaw link = .ok linkTree := by decide +kernel
  ⟨laid, by decide +kernel, by decide +kernel, by decide +kernel,
    (repair_keeps_index laid linkView "top").1⟩

end BindingIndex

end LinksBinding
