import LinksBinding.Proofs.Index
import LinksBinding.Proofs.Resolution

/-!
# The index is coherent

The index of a tree lists what is declared and used in it, each once and in document order, and all
its answers agree with one another and with the resolver (`coherent_of_build`).

The resolver finds declarations by scanning scopes, the index by going through the document. The two
differ in one thing. A function inside the document that has the name of the wrapper is no
declaration of the index, yet the resolver finds it. What a use refers to is a declaration of the
index in all other cases, and in these only (`reaches_target_iff`).
-/

namespace LinksBinding

/-- Whether nodes of the kind are declarations of the document. The wrapper is none. -/
def Kind.isDeclared (wrapper : String) : Kind → Bool
  | .function name => name != wrapper
  | .binder _ _ => true
  | _ => false

/-- What declares a name is a declaration of the document, unless it is the wrapper. -/
theorem Kind.isDeclared_iff {wrapper name : String} {kind : Kind}
    (named : kind.declaredName? = some name) :
    kind.isDeclared wrapper = true ↔ kind ≠ .function wrapper := by
  cases kind with
  | function other => simp [isDeclared]
  | binder other role => simp [isDeclared]
  | _ => cases named

/-- Whether the node is the use of a name. -/
def Kind.isVariable : Kind → Bool
  | .variable _ => true
  | _ => false

namespace SyntaxTree

variable {tree : SyntaxTree} {wrapper : String}

/-- Every node but the root has a scope around it, and so it is visible somewhere. -/
theorem IsTree.declarationValidity?_eq_none_iff (h : tree.IsTree) {id : NodeId}
    (inside : id < tree.size) : tree.declarationValidity? id = none ↔ id = SyntaxTree.root := by
  have top : tree.enclosingScope? id = none ↔ id = SyntaxTree.root :=
    IsTree.enclosingScope?_eq_none_iff
  rw [← top, declarationValidity?]
  constructor
  · intro none
    by_contra around
    obtain ⟨scope, around⟩ := Option.ne_none_iff_exists'.mp around
    have above := ((h.enclosingScope?_eq_some_iff inside).mp around).encloses h inside
    obtain ⟨node, found⟩ := exists_get? inside
    obtain ⟨outer, found'⟩ := h.exists_of_encloses above
    rw [around, Option.bind_some, validityScope?, span?_of_get? found, span?_of_get? found'] at none
    simp only [Option.bind_eq_bind, Option.bind_some] at none
    split at none <;> cases none
  · intro around
    rw [around, Option.bind_none]

/-- A node is declared in the index exactly if it is not the root and of a kind that is declared. -/
theorem IsTree.isSome_declarationOf? (h : tree.IsTree) {id : NodeId} (inside : id < tree.size) :
    (tree.declarationOf? wrapper id).isSome =
      (id != SyntaxTree.root && tree.hasKind (Kind.isDeclared wrapper) id) := by
  have valid : (tree.declarationValidity? id).isSome = (id != SyntaxTree.root) := by
    rw [Bool.eq_iff_iff, Option.isSome_iff_ne_none, bne_iff_ne]
    exact not_congr (h.declarationValidity?_eq_none_iff inside)
  obtain ⟨node, found⟩ := exists_get? inside
  rw [declarationOf?, kind?_of_get? found, hasKind_of_get? found]
  -- a function at the root is passed over, a binder there would have no scope to be visible from
  cases kind : node.kind with
  | function name =>
    by_cases left : id = SyntaxTree.root ∨ name = wrapper
    · rcases left with top | same <;> simp [Kind.isDeclared, *]
    · obtain ⟨below, counts⟩ := not_or.mp left
      simp [Kind.isDeclared, below, counts, valid]
  | binder name role => simp [Kind.isDeclared, valid]
  | _ => simp [Kind.isDeclared]

/-- The name of a declaration is the one that its node declares. -/
theorem declaredName?_of_declarationOf? {id : NodeId} {declaration : Declaration}
    (made : tree.declarationOf? wrapper id = some declaration) :
    (tree.kind? id).bind Kind.declaredName? = some declaration.name := by
  rcases kind?_of_declarationOf? made with ⟨is, -⟩ | ⟨role, is, -⟩
  · rw [is]
    rfl
  · rw [is]
    rfl

/-- A node is a use of a name exactly if it is a variable. -/
theorem isSome_occurrenceOf? (tree : SyntaxTree) (wrapper : String) (id : NodeId) :
    (tree.occurrenceOf? wrapper id).isSome = tree.hasKind Kind.isVariable id := by
  rw [occurrenceOf?, hasKind]
  cases tree.kind? id with
  | none => rfl
  | some kind => cases kind <;> rfl

end SyntaxTree

/-- Entries that name the nodes they are made from come in the order of these nodes. -/
theorem map_filterMap_node {α : Type} {entry : NodeId → Option α} {node : α → NodeId}
    (own : ∀ id a, entry id = some a → node a = id) (order : List NodeId) :
    (order.filterMap entry).map node = order.filter fun id => (entry id).isSome := by
  induction order with
  | nil => rfl
  | cons id rest ih =>
    cases made : entry id with
    | none => rw [List.filterMap_cons_none made, ih, List.filter_cons_of_neg (by simp [made])]
    | some a =>
      rw [List.filterMap_cons_some made, List.map_cons, ih, own id a made,
        List.filter_cons_of_pos (by simp [made])]

namespace BindingIndex

open SyntaxTree

variable {tree : SyntaxTree} {wrapper : String}

/-- The index has what the tree declares and uses, and its answers agree with one another and with
the resolver. -/
structure Coherent (index : BindingIndex) (tree : SyntaxTree) (wrapper : String) : Prop where
  /-- document order has every node of the tree once -/
  order : tree.documentOrder.Perm (List.range tree.size)
  /-- the declarations are the binders and the functions other than the wrapper, without the root,
  in document order -/
  declared : index.declarations.map (·.node) =
    tree.documentOrder.filter fun id => id != root && tree.hasKind (Kind.isDeclared wrapper) id
  /-- each is listed once -/
  declaredOnce : (index.declarations.map (·.node)).Nodup
  /-- each has the name that its node declares -/
  declaredName : ∀ declaration ∈ index.declarations,
    (tree.kind? declaration.node).bind Kind.declaredName? = some declaration.name
  /-- the uses are the variables in document order -/
  used : index.occurrences.map (·.node) = tree.documentOrder.filter (tree.hasKind Kind.isVariable)
  /-- each is listed once -/
  usedOnce : (index.occurrences.map (·.node)).Nodup
  /-- each has the name that stands at its node -/
  usedName : ∀ occurrence ∈ index.occurrences,
    tree.kind? occurrence.node = some (.variable occurrence.name)
  /-- unresolved are the uses for which the resolver finds nothing -/
  unresolved : index.unresolved = index.occurrences.filter fun occurrence =>
    (tree.resolve? wrapper occurrence.kind.namespace occurrence.node).isNone
  /-- the others refer to what the resolver finds -/
  target : ∀ occurrence ∈ index.occurrences, index.target? occurrence.node =
    (tree.resolve? wrapper occurrence.kind.namespace occurrence.node).map (·.declaration)
  /-- it is visible where the resolver says -/
  resolvedIn : ∀ occurrence ∈ index.occurrences, occurrence.resolvedIn =
    (tree.resolve? wrapper occurrence.kind.namespace occurrence.node).map (·.validity)
  /-- the uses of a declaration are those that refer to it -/
  usesOf : ∀ d, index.occurrencesOf d =
    index.occurrences.filter fun occurrence => index.target? occurrence.node == some d
  /-- a declaration is used if it has uses -/
  isUsed : ∀ d, index.isUsed d = true ↔ index.occurrencesOf d ≠ []
  /-- the uses of a name are those that refer to a declaration and have the name -/
  usesNamed : ∀ name, index.occurrencesNamed name = index.occurrences.filter fun occurrence =>
    (index.target? occurrence.node).isSome && occurrence.name == name
  /-- the declarations of a name are those that have the name -/
  declarationsNamed : ∀ name,
    index.declarationsNamed name = index.declarations.filter (·.name == name)
  /-- the declaration at a node is the one that names the node -/
  declarationAt : ∀ id declaration, index.declarationAt? id = some declaration ↔
    declaration ∈ index.declarations ∧ declaration.node = id
  /-- the use at a node is the one that names the node -/
  occurrenceAt : ∀ id occurrence, index.occurrenceAt? id = some occurrence ↔
    occurrence ∈ index.occurrences ∧ occurrence.node = id
  /-- no declaration is a use -/
  disjoint : ∀ declaration ∈ index.declarations, ∀ occurrence ∈ index.occurrences,
    declaration.node ≠ occurrence.node

/-! ## What the index lists -/

/-- The nodes of the declarations stand in document order. -/
theorem map_node_declarations_ofTree (h : tree.IsTree) :
    (ofTree tree wrapper).declarations.map (·.node) =
      tree.documentOrder.filter fun id =>
        id != root && tree.hasKind (Kind.isDeclared wrapper) id := by
  rw [declarations_ofTree, map_filterMap_node fun _ _ => node_of_declarationOf?]
  exact List.filter_congr fun id mem => h.isSome_declarationOf? (h.mem_documentOrder_iff.mp mem)

/-- The nodes of the uses stand in document order. -/
theorem map_node_occurrences_ofTree (tree : SyntaxTree) (wrapper : String) :
    (ofTree tree wrapper).occurrences.map (·.node) =
      tree.documentOrder.filter (tree.hasKind Kind.isVariable) := by
  rw [occurrences_ofTree, map_filterMap_node fun _ _ => node_of_occurrenceOf?]
  exact List.filter_congr fun id _ => isSome_occurrenceOf? tree wrapper id

/-- A declaration of the index is at a node exactly if it is in the list and names the node. -/
theorem declarationAt?_eq_some_iff (h : tree.IsTree) {id : NodeId} {declaration : Declaration} :
    (ofTree tree wrapper).declarationAt? id = some declaration ↔
      declaration ∈ (ofTree tree wrapper).declarations ∧ declaration.node = id := by
  rw [declarationAt?_ofTree h]
  constructor
  · intro made
    have listed : declaration ∈ (ofTree tree wrapper).declarations.filter (·.node == id) := by
      rw [filter_declarations_ofTree h, made]
      exact List.mem_singleton_self _
    exact ⟨List.mem_of_mem_filter listed, node_of_declarationOf? made⟩
  · rintro ⟨mem, rfl⟩
    exact declarationOf?_of_mem mem

/-- A use of the index is at a node exactly if it is in the list and names the node. -/
theorem occurrenceAt?_eq_some_iff (h : tree.IsTree) {id : NodeId} {occurrence : Occurrence} :
    (ofTree tree wrapper).occurrenceAt? id = some occurrence ↔
      occurrence ∈ (ofTree tree wrapper).occurrences ∧ occurrence.node = id := by
  rw [occurrenceAt?_ofTree h]
  constructor
  · intro made
    exact ⟨mem_occurrences_of h made, node_of_occurrenceOf? made⟩
  · rintro ⟨mem, rfl⟩
    exact occurrenceOf?_of_mem mem

section Use

variable {occurrence : Occurrence} (mem : occurrence ∈ (ofTree tree wrapper).occurrences)

include mem

/-- A use of the index has the name that stands at its node. -/
theorem kind?_of_mem : tree.kind? occurrence.node = some (.variable occurrence.name) := by
  obtain ⟨name, is, made⟩ := occurrenceOf?_eq_some_iff.mp (occurrenceOf?_of_mem mem)
  rw [is, made]

/-- What a use of the index refers to is what the resolver finds. -/
theorem resolution_of_mem :
    occurrence.resolution = tree.resolve? wrapper occurrence.kind.namespace occurrence.node := by
  obtain ⟨name, -, made⟩ := occurrenceOf?_eq_some_iff.mp (occurrenceOf?_of_mem mem)
  rw [made]

/-- The index knows of each use what the use refers to. -/
theorem target?_of_mem (h : tree.IsTree) :
    (ofTree tree wrapper).target? occurrence.node = occurrence.target? := by
  rw [target?_ofTree h, occurrenceOf?_of_mem mem, Option.bind_some]

/-- No declaration of the index is a use. -/
theorem node_ne_of_mem {declaration : Declaration}
    (mem' : declaration ∈ (ofTree tree wrapper).declarations) :
    declaration.node ≠ occurrence.node := by
  intro same
  have made := declarationOf?_of_mem mem'
  rw [same, declarationOf?_eq_none_of_occurrenceOf? (occurrenceOf?_of_mem mem)] at made
  cases made

end Use

/-- The index of a tree is coherent, wherever the tree comes from. -/
theorem coherent_ofTree (h : tree.IsTree) (wrapper : String) :
    (ofTree tree wrapper).Coherent tree wrapper := by
  have consistent := consistent_ofTree tree wrapper
  have declared : (ofTree tree wrapper).declarations.map (·.node) = _ :=
    map_node_declarations_ofTree h
  have used := map_node_occurrences_ofTree tree wrapper
  exact {
    order := h.documentOrder_perm
    declared := declared
    declaredOnce := declared ▸ h.nodup_documentOrder.filter _
    declaredName := fun _ mem => declaredName?_of_declarationOf? (declarationOf?_of_mem mem)
    used := used
    usedOnce := used ▸ h.nodup_documentOrder.filter _
    usedName := fun _ mem => kind?_of_mem mem
    unresolved := by
      rw [consistent.unresolved]
      refine List.filter_congr fun occurrence mem => ?_
      rw [Occurrence.isResolved, resolution_of_mem mem, Option.not_isSome]
    target := fun occurrence mem => by
      rw [target?_of_mem mem h, Occurrence.target?, resolution_of_mem mem]
    resolvedIn := fun occurrence mem => by
      rw [Occurrence.resolvedIn, resolution_of_mem mem]
    usesOf := fun d => by
      rw [consistent.occurrencesOf]
      exact List.filter_congr fun occurrence mem => by rw [target?_of_mem mem h]
    isUsed := consistent.isUsed_iff
    usesNamed := fun name => by
      rw [consistent.occurrencesNamed]
      exact List.filter_congr fun occurrence mem => by
        rw [target?_of_mem mem h, Occurrence.isResolved_eq]
    declarationsNamed := consistent.declarationsNamed
    declarationAt := fun _ _ => declarationAt?_eq_some_iff h
    occurrenceAt := fun _ _ => occurrenceAt?_eq_some_iff h
    disjoint := fun _ mem _ mem' => node_ne_of_mem mem' mem }

/-- The index of a tree that is built is coherent. -/
theorem coherent_of_build {view : SourceView} {raw : RawTree} (built : build view raw = .ok tree)
    (wrapper : String) : (ofTree tree wrapper).Coherent tree wrapper :=
  coherent_ofTree (isTree_of_build built) wrapper

/-- The index of the document with a shadowed name has three declarations and one use. -/
theorem coherent_shadowedTree :
    build (.ofSource "var x = 1;\nfun f() { x; var x = 2; }\n" .standard) shadowing =
        .ok shadowedTree ∧
      (ofTree shadowedTree "top").declarations.map (·.node) = [3, 5, 10] ∧
      (ofTree shadowedTree "top").occurrences.map (·.node) = [8] ∧
      (ofTree shadowedTree "top").Coherent shadowedTree "top" :=
  ⟨build_shadowing, by decide +kernel, by decide +kernel, coherent_of_build build_shadowing "top"⟩

/-! ## What nodes stand for -/

section Stand

variable {index : BindingIndex}

/-- What a use stands for is the declaration of the index that it refers to. -/
theorem Coherent.declarationFor?_eq_some_iff (c : index.Coherent tree wrapper)
    {occurrence : Occurrence} (mem : occurrence ∈ index.occurrences)
    {declaration : Declaration} : index.declarationFor? occurrence.node = some declaration ↔
      declaration ∈ index.declarations ∧
        index.target? occurrence.node = some declaration.node := by
  rw [declarationFor?, c.declarationAt]
  refine and_congr_right fun declared => ?_
  cases index.target? occurrence.node with
  | none =>
    -- a use that refers to nothing does not declare its own node
    simpa using c.disjoint declaration declared occurrence mem
  | some target => simp [eq_comm]

/-- What a node stands for is a declaration of the index. -/
theorem Coherent.mem_of_declarationFor? (c : index.Coherent tree wrapper) {id : NodeId}
    {declaration : Declaration} (stands : index.declarationFor? id = some declaration) :
    declaration ∈ index.declarations :=
  ((c.declarationAt _ _).mp stands).1

end Stand

/-- A declaration stands for itself. -/
theorem declarationFor?_of_declared (h : tree.IsTree) {declaration : Declaration}
    (declared : declaration ∈ (ofTree tree wrapper).declarations) :
    (ofTree tree wrapper).declarationFor? declaration.node = some declaration := by
  have made := declarationOf?_of_mem declared
  -- the node of a declaration is no use, so it refers to nothing
  have noUse : tree.occurrenceOf? wrapper declaration.node = none := by
    rw [Option.eq_none_iff_forall_not_mem]
    intro occurrence used
    rw [declarationOf?_eq_none_of_occurrenceOf? used] at made
    cases made
  rw [declarationFor?, target?_ofTree h, noUse, Option.bind_none, Option.getD_none]
  exact (declarationAt?_eq_some_iff h).mpr ⟨declared, rfl⟩

/-! ## What uses refer to -/

/-- The declaration at `d` is in the index, has the name of a use, and is found from the use. -/
def Reaches (index : BindingIndex) (occurrence : Occurrence) (d : NodeId) : Prop :=
  ∃ declaration, index.declarationAt? d = some declaration ∧ declaration.node = d ∧
    declaration.name = occurrence.name ∧ index.declarationFor? occurrence.node = some declaration

/-- What the resolver finds for a name is not the root and declares the name. -/
theorem declaredName?_of_resolve? {view : SourceView} {raw : RawTree}
    (built : build view raw = .ok tree) {ns : Namespace} {id : NodeId} {name : String}
    (is : tree.kind? id = some (.variable name)) {r : Resolution}
    (resolved : tree.resolve? wrapper ns id = some r) :
    r.declaration ≠ root ∧ ∃ kind, tree.kind? r.declaration = some kind ∧
      kind.declaredName? = some name := by
  obtain ⟨node, found, kind⟩ := Option.map_eq_some_iff.mp is
  have named : node.kind.identifier? = some name := by rw [kind, Kind.identifier?]
  obtain ⟨-, ⟨visible, -⟩, -⟩ := denotes_of_resolve? built found named resolved
  refine ⟨fun top => ?_, declaredName?_eq_some_iff.mpr visible.declares⟩
  exact (isTree_of_build built).not_encloses_root r.scope (top ▸ visible.below)

/-- From a use that refers to a declaration, this declaration is reached in the index, unless it is
a function with the name of the wrapper. -/
theorem reaches_target_iff {view : SourceView} {raw : RawTree} (built : build view raw = .ok tree)
    {occurrence : Occurrence} (mem : occurrence ∈ (ofTree tree wrapper).occurrences) {d : NodeId}
    (target : (ofTree tree wrapper).target? occurrence.node = some d) :
    (ofTree tree wrapper).Reaches occurrence d ↔ tree.kind? d ≠ some (.function wrapper) := by
  have h := isTree_of_build built
  have means := target
  rw [target?_of_mem mem h, Occurrence.target?, resolution_of_mem mem] at means
  obtain ⟨r, resolved, rfl⟩ := Option.map_eq_some_iff.mp means
  obtain ⟨below, kind, is, named⟩ := declaredName?_of_resolve? built (kind?_of_mem mem) resolved
  obtain ⟨node, found, rfl⟩ := Option.map_eq_some_iff.mp is
  -- the index has a declaration at the node exactly if the node is of a kind that is declared
  have declared : (tree.declarationOf? wrapper r.declaration).isSome = true ↔
      tree.kind? r.declaration ≠ some (.function wrapper) := by
    rw [h.isSome_declarationOf? (lt_size_of_get? found), hasKind_of_get? found, is, ne_eq,
      Option.some_inj, ← ne_eq, ← Kind.isDeclared_iff named, bne_iff_ne.mpr below, Bool.true_and]
  rw [← declared, Option.isSome_iff_exists]
  constructor
  · rintro ⟨declaration, here, -⟩
    exact ⟨declaration, (declarationAt?_ofTree h _).symm.trans here⟩
  · rintro ⟨declaration, made⟩
    have here := (declarationAt?_ofTree h _).trans made
    have same := declaredName?_of_declarationOf? made
    rw [is, Option.bind_some, named, Option.some_inj] at same
    refine ⟨declaration, here, node_of_declarationOf? made, same.symm, ?_⟩
    rw [declarationFor?, target, Option.getD_some, here]

/-- From the use in the function, the declaration outside is reached. -/
theorem reaches_target_shadowedTree :
    build (.ofSource "var x = 1;\nfun f() { x; var x = 2; }\n" .standard) shadowing =
        .ok shadowedTree ∧
      ⟨8, "x", .variable, none, none, some ⟨3, 0, ⟨⟨1, 5⟩, ⟨3, 2⟩⟩⟩⟩ ∈
        (ofTree shadowedTree "top").occurrences ∧
      (ofTree shadowedTree "top").target? 8 = some 3 ∧
      (ofTree shadowedTree "top").Reaches
        ⟨8, "x", .variable, none, none, some ⟨3, 0, ⟨⟨1, 5⟩, ⟨3, 2⟩⟩⟩⟩ 3 :=
  have mem : ⟨8, "x", .variable, none, none, some ⟨3, 0, ⟨⟨1, 5⟩, ⟨3, 2⟩⟩⟩⟩ ∈
      (ofTree shadowedTree "top").occurrences := by decide +kernel
  have target : (ofTree shadowedTree "top").target? 8 = some 3 := by decide +kernel
  ⟨build_shadowing, mem, target, (reaches_target_iff build_shadowing mem target).mpr (by decide)⟩

/-- Output for a document with a function that has the name of the wrapper, and a call of it. -/
def wrapperInside : RawTree :=
  .interior "Fun: top" ⟨⟨0, 1⟩, ⟨3, 2⟩⟩ [.interior "Block" ⟨⟨0, 1⟩, ⟨3, 2⟩⟩
    [.interior "Fun: top" ⟨⟨1, 1⟩, ⟨1, 16⟩⟩
      [.leaf "Params" ⟨⟨1, 8⟩, ⟨1, 10⟩⟩,
      .interior "Block" ⟨⟨1, 11⟩, ⟨1, 16⟩⟩ [.leaf "Constant: 1" ⟨⟨1, 13⟩, ⟨1, 14⟩⟩]],
    .interior "FunCall" ⟨⟨2, 1⟩, ⟨2, 6⟩⟩ [.leaf "Variable: top" ⟨⟨2, 1⟩, ⟨2, 4⟩⟩]]]

/-- The tree of that output. -/
def wrapperInsideTree : SyntaxTree :=
  ⟨#[⟨.interior, .function "top", ⟨⟨0, 1⟩, ⟨3, 2⟩⟩, none, [1]⟩,
    ⟨.interior, .block, ⟨⟨0, 1⟩, ⟨3, 2⟩⟩, some 0, [2, 6]⟩,
    ⟨.interior, .function "top", ⟨⟨1, 1⟩, ⟨1, 16⟩⟩, some 1, [3, 4]⟩,
    ⟨.leaf, .parameters, ⟨⟨1, 8⟩, ⟨1, 10⟩⟩, some 2, []⟩,
    ⟨.interior, .block, ⟨⟨1, 11⟩, ⟨1, 16⟩⟩, some 2, [5]⟩,
    ⟨.leaf, .constant (.number "1"), ⟨⟨1, 13⟩, ⟨1, 14⟩⟩, some 4, []⟩,
    ⟨.interior, .call, ⟨⟨2, 1⟩, ⟨2, 6⟩⟩, some 1, [7]⟩,
    ⟨.leaf, .variable "top", ⟨⟨2, 1⟩, ⟨2, 4⟩⟩, some 6, []⟩]⟩

theorem build_wrapperInside :
    build (.ofSource "fun top() { 1 }\ntop();\n" .standard) wrapperInside =
      .ok wrapperInsideTree := by
  decide +kernel

/-- A use can refer to a declaration that is not reached. -/
theorem not_reaches_target :
    ¬ ∀ (view : SourceView) (raw : RawTree) (tree : SyntaxTree) (wrapper : String)
      (occurrence : Occurrence) (d : NodeId), build view raw = .ok tree →
      occurrence ∈ (ofTree tree wrapper).occurrences →
      (ofTree tree wrapper).target? occurrence.node = some d →
      (ofTree tree wrapper).Reaches occurrence d := by
  intro all
  -- the call refers to the function, which the index leaves out
  have absent : (ofTree wrapperInsideTree "top").declarationAt? 2 = none := by decide +kernel
  obtain ⟨declaration, here, -⟩ := all _ wrapperInside wrapperInsideTree "top"
    ⟨7, "top", .call, some 6, some 0, some ⟨2, 0, ⟨⟨1, 1⟩, ⟨3, 2⟩⟩⟩⟩ 2 build_wrapperInside
    (by decide +kernel) (by decide +kernel)
  rw [absent] at here
  cases here

end BindingIndex

end LinksBinding
