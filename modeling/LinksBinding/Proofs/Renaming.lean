import LinksBinding.Proofs.Agreement
import LinksBinding.Proofs.Index
import LinksBinding.Proofs.Repair
import LinksBinding.Proofs.Resolution

/-!
# Renaming a declaration

A rename changes the names of a declaration and of the uses that refer to it, and leaves the rest
of the tree. If nothing else has the new name, every name keeps its meaning
(`renameDeclaration_keeps`).

The two trees agree in all but names, so scopes are searched in the same order and a declaration is
tested in the same way. What differs are the declarations that a scope has for a name. A use of the
renamed declaration is left with it alone, and any other use of its old name loses it. Either way
the use loses only declarations that it does not refer to, and this changes neither which scope is
the first with a candidate nor which candidate is the latest (`lookUp?_filter`).
-/

namespace LinksBinding

open Text

/-- The kind with another name, if it has one. -/
def Kind.rename (name : String) : Kind → Kind
  | .function _ => .function name
  | .variable _ => .variable name
  | .binder _ role => .binder name role
  | kind => kind

/-- The declaration with another name, if it is the one at `node`. -/
def Declaration.renamed (node : NodeId) (name : String) (declaration : Declaration) : Declaration :=
  if declaration.node = node then { declaration with name } else declaration

/-- The use with another name, if it refers to `declaration`. -/
def Occurrence.renamed (declaration : NodeId) (name : String) (occurrence : Occurrence) :
    Occurrence :=
  if occurrence.target? = some declaration then { occurrence with name } else occurrence

@[simp] theorem Occurrence.node_renamed (declaration : NodeId) (name : String)
    (occurrence : Occurrence) : (occurrence.renamed declaration name).node = occurrence.node := by
  unfold renamed
  split <;> rfl

@[simp] theorem Occurrence.resolution_renamed (declaration : NodeId) (name : String)
    (occurrence : Occurrence) :
    (occurrence.renamed declaration name).resolution = occurrence.resolution := by
  unfold renamed
  split <;> rfl

namespace SyntaxTree

variable {tree other : SyntaxTree}

/-- A node without its name. -/
def eraseName (node : SyntaxNode) : SyntaxNode := { node with kind := node.kind.rename "" }

theorem keepsLinks_eraseName : KeepsLinks eraseName := ⟨fun _ => rfl, fun _ => rfl⟩

/-! ## Trees that agree in all but names -/

namespace Agree

variable (h : tree.Agree eraseName other)

include h

theorem enclosingScope? (id : NodeId) : other.enclosingScope? id = tree.enclosingScope? id := by
  have free : ∀ node, (eraseName node).kind.isScopeBoundary = node.kind.isScopeBoundary := by
    rintro ⟨_, (_ | _), _, _, _⟩ <;> rfl
  rw [SyntaxTree.enclosingScope?, SyntaxTree.enclosingScope?,
    h.nearestAncestor? keepsLinks_eraseName free]

theorem confinement? (id : NodeId) : other.confinement? id = tree.confinement? id := by
  have iteration : ∀ id, other.nearestAncestor? Kind.isIteration id =
      tree.nearestAncestor? Kind.isIteration id :=
    h.nearestAncestor? keepsLinks_eraseName (by rintro ⟨_, (_ | _), _, _, _⟩ <;> rfl)
  have formlet : ∀ id, other.nearestAncestor? Kind.isFormlet id =
      tree.nearestAncestor? Kind.isFormlet id :=
    h.nearestAncestor? keepsLinks_eraseName (by rintro ⟨_, (_ | _), _, _, _⟩ <;> rfl)
  have formBinding : ∀ id, other.nearestAncestor? Kind.isFormBinding id =
      tree.nearestAncestor? Kind.isFormBinding id :=
    h.nearestAncestor? keepsLinks_eraseName (by rintro ⟨_, (_ | _), _, _, _⟩ <;> rfl)
  have changesRows : ∀ id, other.nearestAncestor? Kind.changesRows id =
      tree.nearestAncestor? Kind.changesRows id :=
    h.nearestAncestor? keepsLinks_eraseName (by rintro ⟨_, (_ | _), _, _, _⟩ <;> rfl)
  have parents : other.parent? = tree.parent? := funext (h.parent? keepsLinks_eraseName)
  have role : (other.kind? id).bind Kind.role? = (tree.kind? id).bind Kind.role? := by
    refine h.eq_of_free (f := fun found => (found.map SyntaxNode.kind).bind Kind.role?) ?_ id
    rintro (_ | ⟨_, (_ | _), _, _, _⟩) <;> rfl
  rw [confinement?_eq, confinement?_eq, role, iteration, formlet, formBinding, changesRows, parents]

theorem validityScope? (id scope : NodeId) :
    other.validityScope? id scope = tree.validityScope? id scope := by
  have spans : other.span? = tree.span? := funext (h.span? fun _ => rfl)
  rw [SyntaxTree.validityScope?, SyntaxTree.validityScope?, h.confinement?, spans]

theorem declarationValidity? (id : NodeId) :
    other.declarationValidity? id = tree.declarationValidity? id := by
  have validity : other.validityScope? id = tree.validityScope? id := funext (h.validityScope? id)
  rw [SyntaxTree.declarationValidity?, SyntaxTree.declarationValidity?, h.enclosingScope?, validity]

theorem parameterCount? (id : NodeId) : other.parameterCount? id = tree.parameterCount? id := by
  have children : other.children = tree.children := funext (h.children keepsLinks_eraseName)
  have parameters : other.hasKind Kind.isParameters = tree.hasKind Kind.isParameters :=
    funext (h.hasKind (by rintro ⟨_, (_ | _), _, _, _⟩ <;> rfl))
  rw [SyntaxTree.parameterCount?, SyntaxTree.parameterCount?, children, parameters]

/-- A name is used for the same thing in both trees. -/
theorem useOf (id : NodeId) : other.useOf id = tree.useOf id := by
  have up' := h.parent? keepsLinks_eraseName id
  cases up : tree.parent? id with
  | none => rw [SyntaxTree.useOf, SyntaxTree.useOf, up', up]
  | some parent =>
    rw [useOf_eq up, useOf_eq (up'.trans up), h.children keepsLinks_eraseName,
      h.childPosition? keepsLinks_eraseName]
    refine h.eq_of_free (f := fun found => useBelow parent (tree.children parent).length
      (found.map SyntaxNode.kind) (tree.childPosition? id)) ?_ parent
    rintro (_ | ⟨_, (_ | _), _, _, _⟩) <;> rfl

end Agree

/-! ## Losing candidates -/

/-- The latest candidate remains the latest when others are lost. -/
theorem latest?_filter {candidates : List Candidate} {found : Candidate} {p : Candidate → Bool}
    (h : latest? candidates = some found) (kept : p found = true) :
    latest? (candidates.filter p) = some found := by
  induction candidates generalizing found with
  | nil => cases h
  | cons candidate rest ih =>
    rw [latest?] at h
    split at h
    · rename_i later latest
      split at h
      · rename_i le
        cases h
        have below := ih latest kept
        by_cases stays : p candidate = true
        · rw [List.filter_cons_of_pos stays]
          simp only [latest?, below, le, if_true]
        · rw [List.filter_cons_of_neg stays, below]
      · rename_i notLe
        cases h
        rw [List.filter_cons_of_pos kept, latest?]
        split
        · rename_i other latest'
          -- what is latest of those that stay is not later than the latest of all
          have le := le_of_latest? latest other (List.mem_of_mem_filter (latest?_mem latest'))
          rw [if_neg fun le' => notLe (ParserPosition.le_trans le' le)]
        · rfl
    · rename_i none
      cases h
      rw [latest?_eq_none_iff.mp none, List.filter_cons_of_pos kept]
      rfl

section Losing

variable (h : tree.Agree eraseName other)
  (lengths : ∀ id, other.bindingSpan? id = tree.bindingSpan? id)

include h lengths

/-- A declaration is tested in the same way if its name takes the same room. -/
theorem Agree.candidate? (scope : NodeId) (use : ParserSpan) (id : NodeId) :
    other.candidate? scope use id = tree.candidate? scope use id := by
  have spans : other.span? = tree.span? := funext (h.span? fun _ => rfl)
  rw [SyntaxTree.candidate?, SyntaxTree.candidate?, lengths, spans, h.validityScope?]

theorem Agree.candidates_filter {scope : NodeId} {name name' : String} {ns : Namespace}
    {p : NodeId → Bool}
    (locals : other.localDeclarations scope name' ns =
      (tree.localDeclarations scope name ns).filter p) (use : ParserSpan) :
    other.candidates scope name' ns use =
      (tree.candidates scope name ns use).filter (p ·.declaration) := by
  have tests : other.candidate? scope use = tree.candidate? scope use :=
    funext (h.candidate? lengths scope use)
  rw [candidates, candidates, locals, tests, List.filterMap_filter, List.filter_filterMap]
  refine List.filterMap_congr fun id _ => ?_
  cases tested : tree.candidate? scope use id with
  | none => simp
  | some candidate =>
    rw [← declaration_of_candidate? tested]
    rfl

/-- A use that loses only declarations that it does not refer to keeps its meaning. -/
theorem Agree.lookUp?_filter {wrapper name name' : String} {ns : Namespace} {p : NodeId → Bool}
    (wrappers : ∀ scope, other.isWrapper wrapper scope = tree.isWrapper wrapper scope)
    (locals : ∀ scope, other.localDeclarations scope name' ns =
      (tree.localDeclarations scope name ns).filter p) (use : ParserSpan) {fuel : Nat} {id : NodeId}
    (meant : ∀ r, tree.lookUp? wrapper name ns use fuel id = some r → p r.declaration = true) :
    other.lookUp? wrapper name' ns use fuel id = tree.lookUp? wrapper name ns use fuel id := by
  induction fuel generalizing id with
  | zero => rfl
  | succ fuel ih =>
    rw [lookUp?] at meant
    rw [lookUp?, lookUp?, h.enclosingScope?]
    cases around : tree.enclosingScope? id with
    | none => rfl
    | some scope =>
      simp only [around] at meant
      simp only [h.candidates_filter lengths (locals scope)]
      cases latest : latest? (tree.candidates scope name ns use) with
      | some found =>
        simp only [latest] at meant
        have kept := meant _ rfl
        rw [latest?_filter latest kept]
      | none =>
        simp only [latest] at meant
        rw [latest?_eq_none_iff.mp latest, List.filter_nil, latest?, wrappers]
        by_cases last : tree.isWrapper wrapper scope = true
        · simp only [last, if_true]
        · simp only [last] at meant ⊢
          exact ih meant

end Losing

/-- A name that no node has is declared nowhere. -/
theorem declares_of_fresh {name : String}
    (fresh : ∀ id node, tree.get? id = some node → node.kind.identifier? ≠ some name)
    (id : NodeId) : tree.declares name id = false := by
  rw [Bool.eq_false_iff]
  intro declares
  obtain ⟨node, found, declared⟩ := exists_of_hasKind declares
  refine fresh id node found ?_
  cases kind : node.kind <;> simp_all [Kind.declaredName?, Kind.identifier?]

/-! ## The renamed tree -/

/-- The tree with another name for the nodes `ids`. -/
def renamed (tree : SyntaxTree) (ids : List NodeId) (name : String) : SyntaxTree :=
  ⟨tree.nodes.mapIdx fun id node =>
    if id ∈ ids then { node with kind := node.kind.rename name } else node⟩

theorem get?_renamed (ids : List NodeId) (name : String) (id : NodeId) :
    (tree.renamed ids name).get? id = (tree.get? id).map fun node =>
      if id ∈ ids then { node with kind := node.kind.rename name } else node := by
  simp only [get?, renamed, Array.getElem?_mapIdx]

theorem kind?_renamed (ids : List NodeId) (name : String) (id : NodeId) :
    (tree.renamed ids name).kind? id =
      (tree.kind? id).map fun kind => if id ∈ ids then kind.rename name else kind := by
  rw [kind?, get?_renamed, kind?, Option.map_map, Option.map_map]
  congr 1
  funext node
  simp only [Function.comp]
  split <;> rfl

/-- A variable has been one before. -/
theorem variable_of_renamed {ids : List NodeId} {name used : String} {id : NodeId}
    (is : (tree.renamed ids name).kind? id = some (.variable used)) :
    ∃ before, tree.kind? id = some (.variable before) := by
  rw [kind?_renamed] at is
  obtain ⟨kind, before, is⟩ := Option.map_eq_some_iff.mp is
  split at is
  · cases kind <;> cases is
    exact ⟨_, before⟩
  · exact ⟨used, by rw [before, is]⟩

/-- A renaming leaves all but names. -/
theorem agree_renamed (tree : SyntaxTree) (ids : List NodeId) (name : String) :
    tree.Agree eraseName (tree.renamed ids name) := by
  intro id
  rw [get?_renamed, Option.map_map]
  congr 1
  funext node
  simp only [Function.comp]
  split
  · rw [eraseName, eraseName]
    cases node.kind <;> rfl
  · rfl

/-- The tree in which a declaration and the uses that refer to it have another name. -/
def renameDeclaration (tree : SyntaxTree) (wrapper : String) (declaration : NodeId)
    (name : String) : SyntaxTree :=
  tree.renamed (declaration ::
    ((BindingIndex.ofTree tree wrapper).occurrencesOf declaration).map (·.node)) name

theorem agree_renameDeclaration (tree : SyntaxTree) (wrapper : String) (declaration : NodeId)
    (name : String) : tree.Agree eraseName (tree.renameDeclaration wrapper declaration name) :=
  agree_renamed tree _ name

theorem mem_occurrencesOf_iff (h : tree.IsTree) {wrapper : String} {declaration id : NodeId} :
    id ∈ ((BindingIndex.ofTree tree wrapper).occurrencesOf declaration).map (·.node) ↔
      ∃ occurrence, tree.occurrenceOf? wrapper id = some occurrence ∧
        occurrence.target? = some declaration := by
  rw [(BindingIndex.consistent_ofTree tree wrapper).occurrencesOf, List.mem_map]
  constructor
  · rintro ⟨occurrence, mem, rfl⟩
    obtain ⟨mem, refers⟩ := List.mem_filter.mp mem
    exact ⟨occurrence, BindingIndex.occurrenceOf?_of_mem mem, beq_iff_eq.mp refers⟩
  · rintro ⟨occurrence, made, refers⟩
    exact ⟨occurrence, List.mem_filter.mpr ⟨BindingIndex.mem_occurrences_of h made,
      beq_iff_eq.mpr refers⟩, node_of_occurrenceOf? made⟩

theorem kind?_renameDeclaration_self (tree : SyntaxTree) (wrapper : String) (declaration : NodeId)
    (name : String) :
    (tree.renameDeclaration wrapper declaration name).kind? declaration =
      (tree.kind? declaration).map (Kind.rename name) := by
  rw [renameDeclaration, kind?_renamed]
  simp

/-- A variable has the new name exactly if it refers to the declaration. -/
theorem kind?_renameDeclaration_of_variable (h : tree.IsTree) {wrapper : String}
    {declaration id : NodeId} {occurrence : Occurrence} (name : String) (ne : id ≠ declaration)
    (made : tree.occurrenceOf? wrapper id = some occurrence) :
    (tree.renameDeclaration wrapper declaration name).kind? id = some (.variable
      (if occurrence.target? = some declaration then name else occurrence.name)) := by
  have changed : id ∈ declaration ::
      ((BindingIndex.ofTree tree wrapper).occurrencesOf declaration).map (·.node) ↔
      occurrence.target? = some declaration := by
    rw [List.mem_cons, mem_occurrencesOf_iff h, made]
    simp [ne]
  obtain ⟨used, is, eq⟩ := occurrenceOf?_eq_some_iff.mp made
  have same : occurrence.name = used := by rw [eq]
  rw [renameDeclaration, kind?_renamed, is, Option.map_some, same]
  by_cases refers : occurrence.target? = some declaration
  · rw [if_pos (changed.mpr refers), if_pos refers, Kind.rename]
  · rw [if_neg (mt changed.mp refers), if_neg refers]

/-- Of the other nodes only variables have another name. -/
theorem kind?_renameDeclaration_of_ne (h : tree.IsTree) (wrapper : String) {declaration id : NodeId}
    (name : String) (ne : id ≠ declaration) :
    (tree.renameDeclaration wrapper declaration name).kind? id = tree.kind? id ∨
      ∃ used used', tree.kind? id = some (.variable used) ∧
        (tree.renameDeclaration wrapper declaration name).kind? id = some (.variable used') := by
  by_cases isUse : ∃ used, tree.kind? id = some (.variable used)
  · obtain ⟨used, is⟩ := isUse
    have made : tree.occurrenceOf? wrapper id = some _ :=
      occurrenceOf?_eq_some_iff.mpr ⟨used, is, rfl⟩
    exact .inr ⟨used, _, is, kind?_renameDeclaration_of_variable h name ne made⟩
  · left
    have unchanged : id ∉ declaration ::
        ((BindingIndex.ofTree tree wrapper).occurrencesOf declaration).map (·.node) := by
      rw [List.mem_cons, mem_occurrencesOf_iff h, not_or]
      refine ⟨ne, ?_⟩
      rintro ⟨occurrence, made, -⟩
      obtain ⟨used, is, -⟩ := occurrenceOf?_eq_some_iff.mp made
      exact isUse ⟨used, is⟩
    rw [renameDeclaration, kind?_renamed]
    simp [unchanged]

/-! ## Names after a renaming -/

section Renaming

variable {wrapper name : String} {d : Declaration} (h : tree.IsTree)
  (declared : tree.declarationOf? wrapper d.node = some d)

include declared

theorem not_variable_of_declared (used : String) : tree.kind? d.node ≠ some (.variable used) := by
  intro is
  rcases kind?_of_declarationOf? declared with ⟨is', -⟩ | ⟨role, is', -⟩ <;>
  · rw [is] at is'
    cases is'

include h

/-- After a renaming, the renamed declaration declares the new name, and the others what they
declared before. -/
theorem declares_renameDeclaration (other : String) (id : NodeId) :
    (tree.renameDeclaration wrapper d.node name).declares other id =
      if id = d.node then name == other else tree.declares other id := by
  rw [declares, hasKind]
  split
  · rename_i here
    rw [here, kind?_renameDeclaration_self]
    rcases kind?_of_declarationOf? declared with ⟨is, -⟩ | ⟨role, is, -⟩ <;>
    · rw [is]
      simp [Kind.rename, Kind.declaredName?]
  · rename_i ne
    rw [declares, hasKind]
    rcases kind?_renameDeclaration_of_ne h wrapper name ne with same | ⟨used, used', is, is'⟩
    · rw [same]
    · rw [is, is']
      rfl

/-- The wrapper function remains the only wrapper. -/
theorem isWrapper_renameDeclaration (notWrapper : name ≠ wrapper) (scope : NodeId) :
    (tree.renameDeclaration wrapper d.node name).isWrapper wrapper scope =
      tree.isWrapper wrapper scope := by
  rw [Bool.eq_iff_iff, isWrapper_iff, isWrapper_iff]
  refine or_congr_right ?_
  by_cases here : scope = d.node
  · rw [here, kind?_renameDeclaration_self]
    rcases kind?_of_declarationOf? declared with ⟨is, -, -, ne⟩ | ⟨role, is, -⟩
    · simp [is, Kind.rename, notWrapper, ne]
    · simp [is, Kind.rename]
  · rcases kind?_renameDeclaration_of_ne h wrapper name here with same | ⟨used, used', is, is'⟩
    · rw [same]
    · simp [is, is']

/-- The new name introduces the declaration where the old one did, if it takes the same room. -/
theorem bindingSpan?_renameDeclaration
    (fits : d.kind = .function → unitLength name = unitLength d.name) (id : NodeId) :
    (tree.renameDeclaration wrapper d.node name).bindingSpan? id = tree.bindingSpan? id := by
  rw [bindingSpan?_eq, bindingSpan?_eq,
    (agree_renameDeclaration tree wrapper d.node name).span? fun _ => rfl]
  by_cases here : id = d.node
  · rw [here, kind?_renameDeclaration_self]
    rcases kind?_of_declarationOf? declared with ⟨is, isFunction, -⟩ | ⟨role, is, -⟩
    · simp only [is, Option.map_some, Kind.rename, fits isFunction]
    · simp only [is, Option.map_some, Kind.rename]
  · rcases kind?_renameDeclaration_of_ne h wrapper name here with same | ⟨used, used', is, is'⟩
    · rw [same]
    · rw [is, is']

/-- A scope has those declarations for a name that it had for another, as far as they are kept. -/
theorem localDeclarations_renameDeclaration {used used' : String} {p : NodeId → Bool}
    (kept : ∀ id, (if id = d.node then name == used' else tree.declares used' id) =
      (p id && tree.declares used id)) (scope : NodeId) (ns : Namespace) :
    (tree.renameDeclaration wrapper d.node name).localDeclarations scope used' ns =
      (tree.localDeclarations scope used ns).filter p := by
  have agree := agree_renameDeclaration tree wrapper d.node name
  have sees : ∀ node, ns.seesBelow (eraseName node).kind = ns.seesBelow node.kind := by
    rintro ⟨_, (_ | _), _, _, _⟩ <;> cases ns <;> rfl
  rw [localDeclarations, localDeclarations, agree.children keepsLinks_eraseName,
    agree.walk keepsLinks_eraseName sees, List.filter_filter]
  refine List.filter_congr fun id _ => ?_
  rw [declares_renameDeclaration h declared, kept]

/-- A name that is looked up after the renaming, with some declarations lost, means what it meant if
that is kept. -/
theorem lookUp?_renameDeclaration (notWrapper : name ≠ wrapper)
    (fits : d.kind = .function → unitLength name = unitLength d.name) {used used' : String}
    {p : NodeId → Bool}
    (kept : ∀ id, (if id = d.node then name == used' else tree.declares used' id) =
      (p id && tree.declares used id)) {ns : Namespace} {use : ParserSpan} {fuel : Nat}
    {id : NodeId}
    (meant : ∀ r, tree.lookUp? wrapper used ns use fuel id = some r → p r.declaration = true) :
    (tree.renameDeclaration wrapper d.node name).lookUp? wrapper used' ns use fuel id =
      tree.lookUp? wrapper used ns use fuel id :=
  (agree_renameDeclaration tree wrapper d.node name).lookUp?_filter
    (bindingSpan?_renameDeclaration h declared fits)
    (isWrapper_renameDeclaration h declared notWrapper)
    (fun scope => localDeclarations_renameDeclaration h declared kept scope ns) use meant

/-- What is found at the renamed declaration is found there under the new name. -/
theorem lookUp?_renameDeclaration_self
    (fresh : ∀ id node, tree.get? id = some node → node.kind.identifier? ≠ some name)
    (notWrapper : name ≠ wrapper)
    (fits : d.kind = .function → unitLength name = unitLength d.name) {used : String}
    {ns : Namespace} {use : ParserSpan} {fuel : Nat} {id : NodeId} {r : Resolution}
    (resolved : tree.lookUp? wrapper used ns use fuel id = some r)
    (target : r.declaration = d.node) :
    (tree.renameDeclaration wrapper d.node name).lookUp? wrapper name ns use fuel id = some r := by
  have declares : tree.declares used d.node = true := by
    rw [← target]
    exact declares_of_lookUp? resolved
  have undeclared := declares_of_fresh fresh
  rw [← resolved]
  -- the renamed declaration is all that is left of the candidates for the name
  refine lookUp?_renameDeclaration h declared notWrapper fits (p := (· == d.node)) (fun x => ?_) ?_
  · by_cases here : x = d.node
    · simp [here, declares]
    · simp [here, undeclared]
  · intro r' resolved'
    cases resolved.symm.trans resolved'
    simp [target]

/-- A name other than the new one that does not lead to the renamed declaration is found where it
was found. -/
theorem lookUp?_renameDeclaration_of_ne (notWrapper : name ≠ wrapper)
    (fits : d.kind = .function → unitLength name = unitLength d.name) {used : String}
    {ns : Namespace} {use : ParserSpan} {fuel : Nat} {id : NodeId} (apart : name ≠ used)
    (others : ∀ r, tree.lookUp? wrapper used ns use fuel id = some r → r.declaration ≠ d.node) :
    (tree.renameDeclaration wrapper d.node name).lookUp? wrapper used ns use fuel id =
      tree.lookUp? wrapper used ns use fuel id := by
  -- the renamed declaration is all that is lost of the candidates for the name
  refine lookUp?_renameDeclaration h declared notWrapper fits (p := (· != d.node)) (fun x => ?_) ?_
  · by_cases here : x = d.node
    · simp [here, apart]
    · simp [here]
  · intro r resolved
    simpa using others r resolved

/-- A variable refers to what it referred to before the renaming. -/
theorem resolve?_renameDeclaration
    (fresh : ∀ id node, tree.get? id = some node → node.kind.identifier? ≠ some name)
    (notWrapper : name ≠ wrapper)
    (fits : d.kind = .function → unitLength name = unitLength d.name) {id : NodeId}
    {occurrence : Occurrence} (made : tree.occurrenceOf? wrapper id = some occurrence) :
    (tree.renameDeclaration wrapper d.node name).resolve? wrapper occurrence.kind.namespace id =
      occurrence.resolution := by
  obtain ⟨used, is, rfl⟩ := occurrenceOf?_eq_some_iff.mp made
  have ne : id ≠ d.node := by
    rintro rfl
    exact not_variable_of_declared declared used is
  obtain ⟨node, found, named⟩ := Option.map_eq_some_iff.mp is
  have stands : tree.span? id = some node.span := span?_of_get? found
  have agree := agree_renameDeclaration tree wrapper d.node name
  have stands' := (agree.span? (fun _ => rfl) id).trans stands
  have is' := kind?_renameDeclaration_of_variable h name ne made
  have before := resolve?_of_variable wrapper (tree.useOf id).1.namespace is stands
  rw [resolve?_of_variable wrapper _ is' stands']
  split
  · rename_i refers
    simp only [Occurrence.target?, Option.map_eq_some_iff] at refers
    obtain ⟨r, resolved, target⟩ := refers
    rw [before] at resolved
    rw [lookUp?_renameDeclaration_self h declared fresh notWrapper fits resolved target, before,
      resolved]
  · rename_i others
    simp only [Occurrence.target?, Option.map_eq_some_iff, not_exists, not_and, before] at others
    have apart : name ≠ used := by
      rintro rfl
      exact fresh id node found (by rw [named]; rfl)
    rw [lookUp?_renameDeclaration_of_ne h declared notWrapper fits apart others, before]

/-- What a node declares has the new name if it is what is renamed. -/
theorem declarationOf?_renameDeclaration (notWrapper : name ≠ wrapper) (id : NodeId) :
    (tree.renameDeclaration wrapper d.node name).declarationOf? wrapper id =
      (tree.declarationOf? wrapper id).map (.renamed d.node name) := by
  have agree := agree_renameDeclaration tree wrapper d.node name
  by_cases here : id = d.node
  · have is' := tree.kind?_renameDeclaration_self wrapper d.node name
    have before := declared
    rw [here, declared, Option.map_some, Declaration.renamed, if_pos rfl]
    rcases kind?_of_declarationOf? declared with ⟨is, -, ne, ne'⟩ | ⟨role, is, -⟩
    · rw [is, Option.map_some, Kind.rename] at is'
      simp only [declarationOf?, is, ne, ne', or_self, if_false] at before
      obtain ⟨validity, valid, eq⟩ := Option.map_eq_some_iff.mp before
      simp only [declarationOf?, is', ne, notWrapper, or_self, if_false, agree.declarationValidity?,
        agree.parameterCount?, valid, Option.map_some]
      exact congrArg (fun declaration : Declaration => some { declaration with name }) eq
    · rw [is, Option.map_some, Kind.rename] at is'
      simp only [declarationOf?, is] at before
      obtain ⟨validity, valid, eq⟩ := Option.map_eq_some_iff.mp before
      simp only [declarationOf?, is', agree.declarationValidity?, valid, Option.map_some]
      exact congrArg (fun declaration : Declaration => some { declaration with name }) eq
  · have same : (tree.renameDeclaration wrapper d.node name).declarationOf? wrapper id =
        tree.declarationOf? wrapper id := by
      rw [declarationOf?, declarationOf?, agree.declarationValidity?, agree.parameterCount?]
      rcases kind?_renameDeclaration_of_ne h wrapper name here with same | ⟨used, used', is, is'⟩
      · rw [same]
      · rw [is, is']
    rw [same]
    cases found : tree.declarationOf? wrapper id with
    | none => rfl
    | some declaration =>
      rw [Option.map_some, Declaration.renamed, if_neg]
      rwa [node_of_declarationOf? found]

/-- What a node uses has the new name if it refers to what is renamed. -/
theorem occurrenceOf?_renameDeclaration
    (fresh : ∀ id node, tree.get? id = some node → node.kind.identifier? ≠ some name)
    (notWrapper : name ≠ wrapper)
    (fits : d.kind = .function → unitLength name = unitLength d.name) (id : NodeId) :
    (tree.renameDeclaration wrapper d.node name).occurrenceOf? wrapper id =
      (tree.occurrenceOf? wrapper id).map (.renamed d.node name) := by
  have agree := agree_renameDeclaration tree wrapper d.node name
  cases made : tree.occurrenceOf? wrapper id with
  | none =>
    rw [Option.map_none, Option.eq_none_iff_forall_ne_some]
    intro occurrence made'
    obtain ⟨used, is', -⟩ := occurrenceOf?_eq_some_iff.mp made'
    obtain ⟨before, is⟩ := variable_of_renamed is'
    rw [occurrenceOf?_eq_some_iff.mpr ⟨before, is, rfl⟩] at made
    cases made
  | some occurrence =>
    have ne : id ≠ d.node := by
      obtain ⟨used, is, -⟩ := occurrenceOf?_eq_some_iff.mp made
      rintro rfl
      exact not_variable_of_declared declared used is
    have means := resolve?_renameDeclaration h declared fresh notWrapper fits made
    refine occurrenceOf?_eq_some_iff.mpr
      ⟨_, kind?_renameDeclaration_of_variable h name ne made, ?_⟩
    rw [agree.useOf]
    obtain ⟨used, is, rfl⟩ := occurrenceOf?_eq_some_iff.mp made
    rw [means, Occurrence.renamed]
    split <;> rfl

end Renaming

section Renamed

variable {index after : BindingIndex} (h : index.Consistent) (h' : after.Consistent)
  {declaration : NodeId} {name : String}
  (renamed : after.occurrences = index.occurrences.map (.renamed declaration name))

include h h' renamed

/-- What is unresolved stays unresolved under another name of something else. -/
theorem unresolved_of_renamed : after.unresolved = index.unresolved := by
  have unchanged : ∀ occurrence ∈ index.occurrences.filter (!·.isResolved),
      occurrence.renamed declaration name = occurrence := by
    intro occurrence mem
    have free := (List.mem_filter.mp mem).2
    rw [Occurrence.renamed, if_neg]
    intro refers
    obtain ⟨r, resolved, -⟩ := Option.map_eq_some_iff.mp refers
    simp [Occurrence.isResolved, resolved] at free
  have free : (fun occurrence : Occurrence => !occurrence.isResolved) ∘ .renamed declaration name =
      fun occurrence => !occurrence.isResolved := by
    funext occurrence
    simp [Occurrence.isResolved]
  rw [h'.unresolved, renamed, List.filter_map, free, h.unresolved]
  exact (List.map_congr_left unchanged).trans (List.map_id' _)

/-- Another name for a use changes nothing of what it refers to. -/
theorem target?_of_renamed (id : NodeId) : after.target? id = index.target? id := by
  have here : (fun occurrence : Occurrence => (occurrence.node, occurrence.target?)) ∘
      .renamed declaration name = fun occurrence => (occurrence.node, occurrence.target?) := by
    funext occurrence
    simp [Occurrence.target?]
  rw [h'.target?_eq, h.target?_eq, renamed, List.map_map, here]

end Renamed

/-- Renaming a declaration to a name that no node has renames its entry in the index and those of
the uses that refer to it. All else in the index stays: which nodes are declared and used, as what,
where they are visible, what is referred to, and what remains unresolved. A function has to keep the
length of its name, because that is where its body begins to see it. -/
theorem renameDeclaration_keeps {view : SourceView} {raw : RawTree}
    (built : build view raw = .ok tree) {wrapper name : String} {d : Declaration}
    (declared : d ∈ (BindingIndex.ofTree tree wrapper).declarations)
    (fresh : ∀ id node, tree.get? id = some node → node.kind.identifier? ≠ some name)
    (notWrapper : name ≠ wrapper)
    (fits : d.kind = .function → unitLength name = unitLength d.name) :
    let index := BindingIndex.ofTree tree wrapper
    let after := BindingIndex.ofTree (tree.renameDeclaration wrapper d.node name) wrapper
    after.declarations = index.declarations.map (.renamed d.node name) ∧
      after.occurrences = index.occurrences.map (.renamed d.node name) ∧
      after.unresolved = index.unresolved ∧ ∀ id, after.target? id = index.target? id := by
  intro index after
  have h := isTree_of_build built
  have made := BindingIndex.declarationOf?_of_mem declared
  have order : (tree.renameDeclaration wrapper d.node name).documentOrder = tree.documentOrder :=
    (agree_renameDeclaration tree wrapper d.node name).documentOrder keepsLinks_eraseName
  have declarations : after.declarations = index.declarations.map (.renamed d.node name) := by
    simp only [after, index, BindingIndex.declarations_ofTree, order, List.map_filterMap]
    exact List.filterMap_congr fun id _ => declarationOf?_renameDeclaration h made notWrapper id
  have occurrences : after.occurrences = index.occurrences.map (.renamed d.node name) := by
    simp only [after, index, BindingIndex.occurrences_ofTree, order, List.map_filterMap]
    exact List.filterMap_congr fun id _ =>
      occurrenceOf?_renameDeclaration h made fresh notWrapper fits id
  have consistent := BindingIndex.consistent_ofTree tree wrapper
  have consistent' := BindingIndex.consistent_ofTree
    (tree.renameDeclaration wrapper d.node name) wrapper
  exact ⟨declarations, occurrences, unresolved_of_renamed consistent consistent' occurrences,
    target?_of_renamed consistent consistent' occurrences⟩

theorem fresh_shadowedTree (id : NodeId) (node : SyntaxNode)
    (found : shadowedTree.get? id = some node) : node.kind.identifier? ≠ some "y" := by
  have all : ∀ node ∈ shadowedTree.nodes.toList, node.kind.identifier? ≠ some "y" := by decide
  exact all node (Array.mem_toList_iff.mpr (Array.mem_of_getElem? found))

/-- The outer declaration is renamed with the use in the function, and the inner one is left. -/
theorem renameDeclaration_shadowedTree :
    (⟨3, "x", .binder .letBinding, ⟨⟨1, 5⟩, ⟨3, 2⟩⟩, none⟩ : Declaration) ∈
        (BindingIndex.ofTree shadowedTree "top").declarations ∧
      (BindingIndex.ofTree (shadowedTree.renameDeclaration "top" 3 "y") "top").occurrences =
        (BindingIndex.ofTree shadowedTree "top").occurrences.map (.renamed 3 "y") ∧
      (BindingIndex.ofTree (shadowedTree.renameDeclaration "top" 3 "y") "top").target? 8 =
        (BindingIndex.ofTree shadowedTree "top").target? 8 :=
  have declared : (⟨3, "x", .binder .letBinding, ⟨⟨1, 5⟩, ⟨3, 2⟩⟩, none⟩ : Declaration) ∈
      (BindingIndex.ofTree shadowedTree "top").declarations := by decide +kernel
  have kept := renameDeclaration_keeps build_shadowing declared fresh_shadowedTree (by decide) nofun
  ⟨declared, kept.2.1, kept.2.2.2 8⟩

end SyntaxTree

end LinksBinding
