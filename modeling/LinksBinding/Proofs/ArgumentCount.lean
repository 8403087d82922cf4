import LinksBinding.Checks
import LinksBinding.Proofs.Index
import LinksBinding.Proofs.Splitting

/-!
# Counting arguments

The arguments of a call and the parameters of a function are counted as children of a node of the
built tree, where a text of several lines is several children. `width` is the number of children
that nodes of the parser's output become. It is what is counted (`argumentCount_eq_width`), and it
is the number of the nodes exactly when nothing is cut off any of them.
-/

namespace LinksBinding

namespace RawTree

/-- Number of leaves that are cut off a node. -/
def furtherLines (tree : RawTree) : Nat :=
  match decodeLabel tree.label with
  | .ok kind => kind.furtherLines
  | .error _ => 0

/-- Number of children that nodes become when their texts are split. -/
def width (trees : List RawTree) : Nat := (trees.map fun tree => 1 + tree.furtherLines).sum

/-- Whether a node is a group of parameters. -/
def isParameters (tree : RawTree) : Bool :=
  match decodeLabel tree.label with
  | .ok kind => kind.isParameters
  | .error _ => false

theorem length_le_width (trees : List RawTree) : trees.length ≤ width trees := by
  induction trees with
  | nil => exact Nat.le_refl _
  | cons tree rest ih =>
    rw [width, List.map_cons, List.sum_cons, ← width, List.length_cons]
    omega

/-- Nodes are as many as their children in the repaired tree when nothing is cut off them. -/
theorem width_eq_length_iff {trees : List RawTree} :
    width trees = trees.length ↔ ∀ tree ∈ trees, tree.furtherLines = 0 := by
  induction trees with
  | nil => simp [width]
  | cons tree rest ih =>
    have below := length_le_width rest
    rw [width, List.map_cons, List.sum_cons, ← width, List.length_cons, List.forall_mem_cons, ← ih]
    omega

end RawTree

namespace SyntaxTree

variable {tree : SyntaxTree} {view : SourceView} {raw : RawTree}

/-! ## Reported nodes in the built tree -/

/-- What is true of no text, and true of binders in any role or none, is true of a node of the built
tree if it is true of what its label says. -/
theorem hasKind_of_build (built : build view raw = .ok tree) {steps : List Nat} {shape : Shape}
    {label : String} {span : ParserSpan} {children : List RawTree}
    (found : raw.at? steps = some (.node shape label span children)) {kind : Kind}
    (decoded : decodeLabel label = .ok kind) {p : Kind → Bool}
    (textless : ∀ kind, kind.text?.isSome = true → p kind = false)
    (roleless : ∀ kind role, p (kind.withRole role) = p kind) :
    tree.hasKind p (raw.number steps) = p kind := by
  obtain ⟨laid, repaired, ids, added, reported, same, -, s, -, -⟩ := splits_of_build built
  obtain ⟨kind', role, parent, decoded', -, stands⟩ := get?_ofRaw reported found
  cases decoded.symm.trans decoded'
  have inside : raw.number steps < repaired.size := by
    rw [same.size]
    exact lt_size_of_get? stands
  rw [s.hasKind textless inside, same.hasKind fun _ => rfl, hasKind_of_get? stands, roleless]

/-- A node of the built tree is what its label says, if that is neither a text nor a binder. -/
theorem kind?_of_build (built : build view raw = .ok tree) {steps : List Nat} {shape : Shape}
    {label : String} {span : ParserSpan} {children : List RawTree}
    (found : raw.at? steps = some (.node shape label span children)) {kind : Kind}
    (decoded : decodeLabel label = .ok kind) (textless : kind.text? = none)
    (roleless : ∀ role, kind.withRole role = kind) :
    tree.kind? (raw.number steps) = some kind := by
  obtain ⟨laid, repaired, ids, added, reported, same, -, s, -, -⟩ := splits_of_build built
  obtain ⟨kind', role, parent, decoded', -, stands⟩ := get?_ofRaw reported found
  cases decoded.symm.trans decoded'
  obtain ⟨node, found', is⟩ := Option.map_eq_some_iff.mp
    ((same.kind? (fun _ => rfl) _).trans (kind?_of_get? stands))
  rw [roleless] at is
  rw [s.kind? found' (by rw [is, textless]), is]

/-- `id` stands for a child that is reported below the node that `steps` lead to, and `leaves` have
been cut off it. -/
structure StandsFor (tree : SyntaxTree) (raw : RawTree) (steps : List Nat) (child : RawTree)
    (id : NodeId) (leaves : List NodeId) : Prop where
  reported : ∃ step, raw.at? (steps ++ [step]) = some child ∧ raw.number (steps ++ [step]) = id
  length : leaves.length = child.furtherLines
  texts : ∀ leaf ∈ leaves, ∀ p : Kind → Bool, (∀ kind, kind.text?.isSome = true → p kind = false) →
    tree.hasKind p leaf = false

/-- In the built tree, the children of a node are those that are reported for it, each followed by
what is cut off it. -/
theorem children_of_build (built : build view raw = .ok tree) {steps : List Nat} {shape : Shape}
    {label : String} {span : ParserSpan} {children : List RawTree}
    (found : raw.at? steps = some (.node shape label span children)) :
    ∃ added, tree.children (raw.number steps) =
        expand added (RawTree.rootNumbers (raw.number steps + 1) children) ∧
      List.Forall₂ (fun child id => tree.StandsFor raw steps child id (added id)) children
        (RawTree.rootNumbers (raw.number steps + 1) children) := by
  obtain ⟨laid, repaired, splitIds, added, reported, same, h, s, inside, all⟩ :=
    splits_of_build built
  obtain ⟨kind, role, parent, -, -, stands⟩ := get?_ofRaw reported found
  refine ⟨added, ?_, ?_⟩
  · have old : raw.number steps < repaired.size := by
      rw [same.size]
      exact lt_size_of_get? stands
    rw [s.children old, same.children keepsLinks_eraseSpan, children_of_get? stands]
  · refine (RawTree.forall₂_rootNumbers found).imp fun child id below => ⟨below, ?_, ?_⟩
    · obtain ⟨step, listed, rfl⟩ := below
      obtain ⟨shape', label', span', children'⟩ := child
      obtain ⟨kind', role', parent', decoded, -, stands'⟩ := get?_ofRaw reported listed
      obtain ⟨node, found', is⟩ := Option.map_eq_some_iff.mp
        ((same.kind? (fun _ => rfl) _).trans (kind?_of_get? stands'))
      have below : raw.number (steps ++ [step]) ≠ root := by
        rw [RawTree.at?_child found] at listed
        rw [RawTree.number_child found listed]
        exact Nat.ne_of_gt (Nat.lt_of_lt_of_le (Nat.succ_pos _) (Nat.le_add_right ..))
      rw [s.length_added found' (all _ node below found'), is, Kind.furtherLines_withRole,
        RawTree.furtherLines, RawTree.label, decoded]
    · exact fun leaf mem p textless => s.hasKind_leaf inside textless mem

theorem length_expand_of_standsFor {steps : List Nat} {children : List RawTree} {ids : List NodeId}
    {added : NodeId → List NodeId}
    (stand : List.Forall₂ (fun child id => tree.StandsFor raw steps child id (added id))
      children ids) :
    (expand added ids).length = RawTree.width children := by
  rw [length_expand, RawTree.width]
  congr 1
  induction stand with
  | nil => rfl
  | cons first _ ih => rw [List.map_cons, List.map_cons, first.length, ih]

/-- A node has as many children as those reported for it become. -/
theorem length_children_of_build (built : build view raw = .ok tree) {steps : List Nat}
    {shape : Shape} {label : String} {span : ParserSpan} {children : List RawTree}
    (found : raw.at? steps = some (.node shape label span children)) :
    (tree.children (raw.number steps)).length = RawTree.width children := by
  obtain ⟨added, eq, stand⟩ := children_of_build built found
  rw [eq, length_expand_of_standsFor stand]

/-! ## Parameters -/

theorem isParameters_textless (kind : Kind) (h : kind.text?.isSome = true) :
    kind.isParameters = false := by
  cases kind <;> first | rfl | cases h

/-- The first parameter group that is reported is the first in the built tree. -/
theorem find?_parameters_of_build (built : build view raw = .ok tree) {steps : List Nat}
    {children : List RawTree} {params : RawTree} {ids : List NodeId} {added : NodeId → List NodeId}
    (stand : List.Forall₂ (fun child id => tree.StandsFor raw steps child id (added id))
      children ids)
    (first : children.find? RawTree.isParameters = some params) :
    ∃ step, raw.at? (steps ++ [step]) = some params ∧
      (expand added ids).find? (tree.hasKind Kind.isParameters) =
        some (raw.number (steps ++ [step])) := by
  induction stand with
  | nil => cases first
  | @cons child id rest ids here _ ih =>
    obtain ⟨step, listed, rfl⟩ := here.reported
    have same : tree.hasKind Kind.isParameters (raw.number (steps ++ [step])) =
        child.isParameters := by
      obtain ⟨shape, label, span, children⟩ := child
      obtain ⟨laid, -, -, -, reported, -⟩ := splits_of_build built
      obtain ⟨kind, -, -, decoded, -⟩ := get?_ofRaw reported listed
      rw [hasKind_of_build built listed decoded isParameters_textless (by rintro (_ | _) _ <;> rfl),
        RawTree.isParameters, RawTree.label, decoded]
    rw [expand, List.flatMap_cons, List.cons_append, ← expand, List.find?_cons, same]
    rw [List.find?_cons] at first
    cases is : child.isParameters with
    | true =>
      rw [is] at first
      cases first
      exact ⟨step, listed, rfl⟩
    | false =>
      rw [is] at first
      -- what is cut off an earlier child is a text and no parameter group
      have none : (added (raw.number (steps ++ [step]))).find? (tree.hasKind Kind.isParameters) =
          none := by
        rw [List.find?_eq_none]
        intro leaf mem
        rw [here.texts leaf mem _ isParameters_textless]
        exact Bool.false_ne_true
      rw [List.find?_append, none, Option.none_or]
      exact ih first

/-- The parameters of a function are counted as their children in the built tree. -/
theorem parameterCount?_of_build (built : build view raw = .ok tree) {steps : List Nat}
    {shape : Shape} {label : String} {span : ParserSpan} {children : List RawTree}
    {params : RawTree}
    (found : raw.at? steps = some (.node shape label span children))
    (first : children.find? RawTree.isParameters = some params) :
    tree.parameterCount? (raw.number steps) = some (RawTree.width params.children) := by
  obtain ⟨added, eq, stand⟩ := children_of_build built found
  obtain ⟨step, listed, isFirst⟩ := find?_parameters_of_build built stand first
  obtain ⟨shape', label', span', inner⟩ := params
  rw [parameterCount?, eq, isFirst, Option.map_some, length_children_of_build built listed]
  rfl

/-! ## Calls -/

/-- The use of a name as the function of a call. -/
theorem useOf_callee {callee call : NodeId} {rest : List NodeId}
    (up : tree.parent? callee = some call) (isCall : tree.kind? call = some .call)
    (first : tree.children call = callee :: rest) :
    tree.useOf callee = (.call, some call, some rest.length) := by
  have position : tree.childPosition? callee = some 0 := by
    simp only [childPosition?, up, first]
    rw [List.findIdx?_cons, beq_self_eq_true]
    rfl
  simp only [useOf, up, isCall, position, first, List.length_cons, Nat.add_sub_cancel]

/-- A variable that a call starts with is an occurrence of the index: the function that is called,
with as many arguments as the others become children. -/
theorem occurrenceOf?_callee (built : build view raw = .ok tree) (wrapper : String)
    {steps : List Nat} {shape : Shape} {label name : String} {span : ParserSpan} {callee : RawTree}
    {arguments : List RawTree}
    (called : raw.at? steps = some (.node shape label span (callee :: arguments)))
    (isCall : decodeLabel label = .ok .call)
    (named : decodeLabel callee.label = .ok (.variable name)) :
    tree.occurrenceOf? wrapper (raw.number steps + 1) =
      some ⟨raw.number steps + 1, name, .call, some (raw.number steps),
        some (RawTree.width arguments),
        tree.resolve? wrapper .function (raw.number steps + 1)⟩ := by
  obtain ⟨shape', label', span', inner⟩ := callee
  have h := isTree_of_build built
  have first : raw.at? (steps ++ [0]) = some (.node shape' label' span' inner) :=
    RawTree.at?_child called 0
  have number : raw.number (steps ++ [0]) = raw.number steps + 1 := RawTree.number_child called rfl
  have isVariable : tree.kind? (raw.number steps + 1) = some (.variable name) := by
    rw [← number]
    exact kind?_of_build built first named rfl fun _ => rfl
  have calls : tree.kind? (raw.number steps) = some .call :=
    kind?_of_build built called isCall rfl fun _ => rfl
  obtain ⟨added, eq, stand⟩ := children_of_build built called
  rw [RawTree.rootNumbers] at eq stand
  obtain ⟨here, others⟩ := List.forall₂_cons.mp stand
  -- nothing is cut off a variable, so the arguments follow it at once
  have whole : RawTree.furtherLines (.node shape' label' span' inner) = 0 := by
    rw [RawTree.label] at named
    rw [RawTree.furtherLines, RawTree.label, named]
    rfl
  have none : added (raw.number steps + 1) = [] :=
    List.length_eq_zero_iff.mp (here.length.trans whole)
  rw [expand, List.flatMap_cons, none, List.singleton_append, ← expand] at eq
  have up : tree.parent? (raw.number steps + 1) = some (raw.number steps) :=
    (h.linked _ _).mp (by rw [eq]; exact List.mem_cons_self)
  simp only [occurrenceOf?, isVariable, useOf_callee up calls eq, length_expand_of_standsFor others]
  rfl

end SyntaxTree

/-! ## Findings -/

namespace Analysis

open SyntaxTree

variable {uri source : String} {raw : RawTree} {options : Options} {analysis : Analysis}

theorem ofRaw_eq_ok (h : ofRaw uri source raw options = .ok analysis) :
    ∃ tree, build (.ofSource source options.positionShift) raw = .ok tree ∧
      analysis = ofTree uri (.ofSource source options.positionShift) tree options := by
  rw [ofRaw] at h
  cases built : build (.ofSource source options.positionShift) raw with
  | error e =>
    rw [built] at h
    cases h
  | ok tree =>
    rw [built] at h
    cases h
    exact ⟨tree, rfl, rfl⟩

/-- A call is a finding if it has a declaration with another number of parameters, unless it handles
a formlet. -/
theorem argumentCountFinding?_eq_some_iff {occurrence : Occurrence} {finding : Finding} :
    analysis.argumentCountFinding? occurrence = some finding ↔
      ∃ declaration expected actual,
        analysis.index.declarationFor? occurrence.node = some declaration ∧
        declaration.parameterCount = some expected ∧ occurrence.argumentCount = some actual ∧
        occurrence.kind = .call ∧ expected ≠ actual ∧
        (∀ call, occurrence.call = some call → isPlacementHandler analysis.tree call = false) ∧
        Finding.ofTemplate occurrence.node .argumentCountMismatch
          [occurrence.name, toString expected, toString actual] = finding := by
  simp only [argumentCountFinding?, Option.bind_eq_bind, Option.bind_eq_some_iff]
  constructor
  · rintro ⟨declaration, declared, expected, parameters, actual, arguments, found⟩
    split at found
    · cases found
    · rename_i passed
      simp only [Bool.or_eq_true, bne_iff_ne, beq_iff_eq, not_or, not_not] at passed
      obtain ⟨⟨calls, differ⟩, complete⟩ := passed
      refine ⟨declaration, expected, actual, declared, parameters, arguments, calls, differ, ?_,
        Option.some_inj.mp found⟩
      intro call is
      simpa [is] using complete
  · rintro ⟨declaration, expected, actual, declared, parameters, arguments, calls, differ, complete,
      rfl⟩
    refine ⟨declaration, declared, expected, parameters, actual, arguments, ?_⟩
    have passed : occurrence.call.any (isPlacementHandler analysis.tree) = false := by
      cases is : occurrence.call with
      | none => rfl
      | some call => exact complete call is
    simp [calls, differ, passed]

theorem anchor_of_argumentCountFinding? {occurrence : Occurrence} {finding : Finding}
    (h : analysis.argumentCountFinding? occurrence = some finding) :
    finding.anchor = occurrence.node := by
  obtain ⟨_, _, _, -, -, -, -, -, -, rfl⟩ := argumentCountFinding?_eq_some_iff.mp h
  rfl

/-- A call of a declared function is a finding when the counts differ, unless it handles a
formlet. -/
theorem argumentCountFinding?_isSome_iff {occurrence : Occurrence} {declaration : Declaration}
    {expected actual : Nat} {call : NodeId}
    (declared : analysis.index.declarationFor? occurrence.node = some declaration)
    (parameters : declaration.parameterCount = some expected)
    (arguments : occurrence.argumentCount = some actual) (calls : occurrence.kind = .call)
    (at_ : occurrence.call = some call) :
    (analysis.argumentCountFinding? occurrence).isSome = true ↔
      expected ≠ actual ∧ isPlacementHandler analysis.tree call = false := by
  simp only [argumentCountFinding?, declared, parameters, arguments, calls, at_,
    Option.bind_eq_bind, Option.bind_some, Option.any_some]
  by_cases same : expected = actual
  · simp [same]
  · cases isPlacementHandler analysis.tree call <;> simp [same]

/-- At the node of an occurrence there is a mismatch when that occurrence is one. -/
theorem exists_mismatch_iff {tree : SyntaxTree} (h : tree.IsTree)
    (index : analysis.index = .ofTree tree options.wrapperName) {id : NodeId}
    {occurrence : Occurrence}
    (made : tree.occurrenceOf? options.wrapperName id = some occurrence) :
    (∃ finding ∈ analysis.argumentCountMismatches, finding.anchor = id) ↔
      (analysis.argumentCountFinding? occurrence).isSome = true := by
  constructor
  · rintro ⟨finding, listed, rfl⟩
    obtain ⟨other, mem, found⟩ := List.mem_filterMap.mp listed
    rw [index] at mem
    rw [anchor_of_argumentCountFinding? found, BindingIndex.occurrenceOf?_of_mem mem] at made
    cases made
    rw [found]
    rfl
  · intro found
    obtain ⟨finding, found⟩ := Option.isSome_iff_exists.mp found
    refine ⟨finding, List.mem_filterMap.mpr ⟨occurrence, ?_, found⟩, ?_⟩
    · rw [index]
      exact BindingIndex.mem_occurrences_of h made
    · rw [anchor_of_argumentCountFinding? found, node_of_occurrenceOf? made]

/-- What the index has as the number of arguments of a call is the number of children that they
become, which is their number exactly when nothing is cut off any of them. A call of a declared
function is reported exactly when its arguments and the parameters become different numbers of
children and it does not handle a formlet. -/
theorem argumentCount_eq_width (analysed : ofRaw uri source raw options = .ok analysis)
    {steps : List Nat} {shape : Shape} {label name : String} {span : ParserSpan} {callee : RawTree}
    {arguments : List RawTree}
    (called : raw.at? steps = some (.node shape label span (callee :: arguments)))
    (isCall : decodeLabel label = .ok .call)
    (named : decodeLabel callee.label = .ok (.variable name)) :
    ∃ occurrence, analysis.index.occurrenceAt? (raw.number steps + 1) = some occurrence ∧
      occurrence.kind = .call ∧ occurrence.call = some (raw.number steps) ∧
      occurrence.argumentCount = some (RawTree.width arguments) ∧
      (occurrence.argumentCount = some arguments.length ↔
        ∀ argument ∈ arguments, argument.furtherLines = 0) ∧
      ∀ steps' shape' label' name' span' children params declaration,
        raw.at? steps' = some (.node shape' label' span' children) →
        decodeLabel label' = .ok (.function name') →
        children.find? RawTree.isParameters = some params →
        analysis.index.declarationFor? occurrence.node = some declaration →
        declaration.node = raw.number steps' →
        ((∃ finding ∈ analysis.argumentCountMismatches, finding.anchor = occurrence.node) ↔
          RawTree.width params.children ≠ RawTree.width arguments ∧
            isPlacementHandler analysis.tree (raw.number steps) = false) := by
  obtain ⟨tree, built, rfl⟩ := ofRaw_eq_ok analysed
  have h := isTree_of_build built
  have made := occurrenceOf?_callee built options.wrapperName called isCall named
  refine ⟨_, (BindingIndex.occurrenceAt?_ofTree h _).trans made, rfl, rfl, rfl, ?_, ?_⟩
  · rw [Option.some_inj]
    exact RawTree.width_eq_length_iff
  · intro steps' shape' label' name' span' children params declaration found isFunction first
      declared node
    rw [exists_mismatch_iff h rfl made]
    refine argumentCountFinding?_isSome_iff declared ?_ rfl rfl rfl
    have isDeclaration := BindingIndex.declarationOf?_of_declarationFor? h declared
    rw [node] at isDeclaration
    have is : tree.kind? (raw.number steps') = some (.function name') :=
      kind?_of_build built found isFunction rfl fun _ => rfl
    rw [parameterCount_of_declarationOf? is isDeclaration]
    exact parameterCount?_of_build built found first

/-- Output for a function of one parameter, and a call that passes it a string of two lines. -/
def twoLineCall : RawTree :=
  .interior "Fun: dummy_wrapper" ⟨⟨0, 1⟩, ⟨4, 2⟩⟩ [.interior "Block" ⟨⟨0, 1⟩, ⟨4, 2⟩⟩
    [.interior "Fun: f" ⟨⟨1, 1⟩, ⟨1, 15⟩⟩
      [.interior "Params" ⟨⟨1, 6⟩, ⟨1, 9⟩⟩ [.leaf "Binder: x" ⟨⟨1, 7⟩, ⟨1, 8⟩⟩],
      .interior "Block" ⟨⟨1, 10⟩, ⟨1, 15⟩⟩ [.leaf "Variable: x" ⟨⟨1, 12⟩, ⟨1, 13⟩⟩]],
    .interior "FunCall" ⟨⟨2, 1⟩, ⟨3, 8⟩⟩
      [.leaf "Variable: f" ⟨⟨2, 1⟩, ⟨2, 2⟩⟩,
      .leaf "Constant: \"one\n  two\"" ⟨⟨2, 3⟩, ⟨3, 7⟩⟩]]]

/-- The tree of that output. The string is two children of the call. -/
def twoLineTree : SyntaxTree :=
  ⟨#[⟨.interior, .function "dummy_wrapper", ⟨⟨0, 1⟩, ⟨4, 2⟩⟩, none, [1]⟩,
    ⟨.interior, .block, ⟨⟨0, 1⟩, ⟨4, 2⟩⟩, some 0, [2, 7]⟩,
    ⟨.interior, .function "f", ⟨⟨1, 1⟩, ⟨1, 15⟩⟩, some 1, [3, 5]⟩,
    ⟨.interior, .parameters, ⟨⟨1, 6⟩, ⟨1, 9⟩⟩, some 2, [4]⟩,
    ⟨.leaf, .binder "x" .parameter, ⟨⟨1, 7⟩, ⟨1, 8⟩⟩, some 3, []⟩,
    ⟨.interior, .block, ⟨⟨1, 10⟩, ⟨1, 15⟩⟩, some 2, [6]⟩,
    ⟨.leaf, .variable "x", ⟨⟨1, 12⟩, ⟨1, 13⟩⟩, some 5, []⟩,
    ⟨.interior, .call, ⟨⟨2, 1⟩, ⟨3, 8⟩⟩, some 1, [8, 9, 10]⟩,
    ⟨.leaf, .variable "f", ⟨⟨2, 1⟩, ⟨2, 2⟩⟩, some 7, []⟩,
    ⟨.leaf, .constant (.string "\"one"), ⟨⟨2, 3⟩, ⟨2, 7⟩⟩, some 7, []⟩,
    ⟨.leaf, .constant (.string "two\""), ⟨⟨3, 3⟩, ⟨3, 7⟩⟩, some 7, []⟩]⟩

theorem ofRaw_twoLineCall :
    ofRaw "file:///call.links" "fun f(x) { x }\nf(\"one\n  two\");\n" twoLineCall {} =
      .ok (ofTree "file:///call.links" (.ofSource "fun f(x) { x }\nf(\"one\n  two\");\n" .standard)
        twoLineTree {}) := by
  have built : build (.ofSource "fun f(x) { x }\nf(\"one\n  two\");\n" .standard) twoLineCall =
      .ok twoLineTree := by decide +kernel
  rw [ofRaw, built, Except.map]

theorem occurrenceAt?_twoLineTree :
    (BindingIndex.ofTree twoLineTree "dummy_wrapper").occurrenceAt? 8 =
      some ⟨8, "f", .call, some 7, some 2, some ⟨2, 0, ⟨⟨1, 1⟩, ⟨4, 2⟩⟩⟩⟩ := by
  decide +kernel

theorem at?_twoLineCall :
    twoLineCall.at? [0, 1] = some (.interior "FunCall" ⟨⟨2, 1⟩, ⟨3, 8⟩⟩
      [.leaf "Variable: f" ⟨⟨2, 1⟩, ⟨2, 2⟩⟩,
      .leaf "Constant: \"one\n  two\"" ⟨⟨2, 3⟩, ⟨3, 7⟩⟩]) :=
  rfl

theorem at?_twoLineFunction :
    twoLineCall.at? [0, 0] = some (.interior "Fun: f" ⟨⟨1, 1⟩, ⟨1, 15⟩⟩
      [.interior "Params" ⟨⟨1, 6⟩, ⟨1, 9⟩⟩ [.leaf "Binder: x" ⟨⟨1, 7⟩, ⟨1, 8⟩⟩],
      .interior "Block" ⟨⟨1, 10⟩, ⟨1, 15⟩⟩ [.leaf "Variable: x" ⟨⟨1, 12⟩, ⟨1, 13⟩⟩]]) :=
  rfl

/-- The call passes one argument, has two counted, and is reported. -/
theorem mismatch_twoLineCall :
    RawTree.width [.leaf "Constant: \"one\n  two\"" ⟨⟨2, 3⟩, ⟨3, 7⟩⟩] = 2 ∧
      ∃ analysis, ofRaw "file:///call.links" "fun f(x) { x }\nf(\"one\n  two\");\n" twoLineCall {} =
        .ok analysis ∧
      ∃ occurrence, analysis.index.occurrenceAt? (twoLineCall.number [0, 1] + 1) = some occurrence ∧
        occurrence.argumentCount = some 2 ∧
        ∃ finding ∈ analysis.argumentCountMismatches, finding.anchor = occurrence.node := by
  have two : RawTree.width [.leaf "Constant: \"one\n  two\"" ⟨⟨2, 3⟩, ⟨3, 7⟩⟩] = 2 := by
    decide +kernel
  obtain ⟨occurrence, made, -, -, count, -, reported⟩ :=
    argumentCount_eq_width ofRaw_twoLineCall at?_twoLineCall rfl rfl
  have number : twoLineCall.number [0, 1] + 1 = 8 := rfl
  have node : occurrence.node = 8 := by
    rw [number, ofTree, occurrenceAt?_twoLineTree] at made
    cases made
    rfl
  refine ⟨two, _, ofRaw_twoLineCall, occurrence, made, count.trans (congrArg some two), ?_⟩
  have declared : (BindingIndex.ofTree twoLineTree "dummy_wrapper").declarationFor? 8 =
      some ⟨2, "f", .function, ⟨⟨1, 1⟩, ⟨4, 2⟩⟩, some 1⟩ := by
    decide +kernel
  refine (reported [0, 0] _ _ _ _ _ _ _ at?_twoLineFunction rfl rfl (node ▸ declared) rfl).mpr ?_
  constructor
  · decide +kernel
  · decide +kernel

/-- The number of arguments that is counted is not always the number of arguments that is passed. -/
theorem not_argumentCount_eq_length :
    ¬ ∀ (uri source : String) (raw : RawTree) (options : Options) (analysis : Analysis),
      ofRaw uri source raw options = .ok analysis →
      ∀ (steps : List Nat) (shape : Shape) (label name : String) (span : ParserSpan)
        (callee : RawTree) (arguments : List RawTree) (occurrence : Occurrence),
        raw.at? steps = some (.node shape label span (callee :: arguments)) →
        decodeLabel label = .ok .call → decodeLabel callee.label = .ok (.variable name) →
        analysis.index.occurrenceAt? (raw.number steps + 1) = some occurrence →
        occurrence.argumentCount = some arguments.length := by
  intro countsReported
  have counted := countsReported _ _ _ _ _ ofRaw_twoLineCall [0, 1] _ _ _ _ _ _ _
    at?_twoLineCall rfl rfl occurrenceAt?_twoLineTree
  cases counted

end Analysis

end LinksBinding
