import LinksBinding.Proofs.Renaming

/-!
# Later binders

What a name refers to does not depend on what is bound behind it. Take two trees that are the same
but for the names of binders. If the binders that end before a use bind its name in the one tree
exactly where they do in the other, then the use refers to the same declaration in both, found in
the same scope and visible in the same place (`resolve?_eq_of_bindsAlike`).

A scan for declarations meets the later binders too, and it meets different ones in the two trees.
What remains after the test of every declaration that was met is the same nevertheless: a binder that
is met in one tree only ends behind the start of the use, and so it fails the test
(`candidates_eq`). From there on the search has nothing to tell the trees apart by.
-/

namespace LinksBinding

open Text

/-- The kind without the name that it introduces as a binder. -/
def Kind.unbound : Kind → Kind
  | .binder _ role => .binder "" role
  | kind => kind

namespace SyntaxTree

variable {tree other : SyntaxTree}

/-- A node without the name that it introduces as a binder. -/
def eraseBinderName (node : SyntaxNode) : SyntaxNode := { node with kind := node.kind.unbound }

/-- A node is a binder of that name. -/
def Binds (tree : SyntaxTree) (name : String) (id : NodeId) : Prop :=
  ∃ role, tree.kind? id = some (.binder name role)

/-- The binders that end before `use` starts bind the name in both trees or in neither. -/
def BindsAlike (tree other : SyntaxTree) (name : String) (use : ParserSpan) : Prop :=
  ∀ id span, tree.span? id = some span → span.stop ≤ use.start →
    (other.Binds name id ↔ tree.Binds name id)

/-- Trees agree if their tables are the same after the forgetting. -/
theorem Agree.of_nodes {forget : SyntaxNode → SyntaxNode}
    (same : other.nodes.map forget = tree.nodes.map forget) : tree.Agree forget other := by
  intro id
  rw [get?, get?, ← Array.getElem?_map, same, Array.getElem?_map]

/-- What introduces its name behind the start of a use is no candidate for it. -/
theorem candidate?_eq_none {scope id : NodeId} {use binding : ParserSpan}
    (introduces : tree.bindingSpan? id = some binding) (late : ¬ binding.stop ≤ use.start) :
    tree.candidate? scope use id = none := by
  rw [Option.eq_none_iff_forall_ne_some]
  intro candidate tested
  obtain ⟨binding', _, _, introduces', -, -, -, before, -⟩ := candidate?_eq_some_iff.mp tested
  cases introduces.symm.trans introduces'
  exact late before

/-- A search depends on which scopes are around a node, on where it ends, and on the candidates of
each scope. -/
theorem lookUp?_congr {wrapper name : String} {ns : Namespace} {use : ParserSpan}
    (scopes : ∀ id, other.enclosingScope? id = tree.enclosingScope? id)
    (wrappers : ∀ scope, other.isWrapper wrapper scope = tree.isWrapper wrapper scope)
    (offered : ∀ scope, other.candidates scope name ns use = tree.candidates scope name ns use)
    (fuel : Nat) (id : NodeId) :
    other.lookUp? wrapper name ns use fuel id = tree.lookUp? wrapper name ns use fuel id := by
  induction fuel generalizing id with
  | zero => rfl
  | succ fuel ih =>
    rw [lookUp?, lookUp?, scopes]
    cases tree.enclosingScope? id with
    | none => rfl
    | some scope => simp only [offered, wrappers, ih]

section Bound

variable (agree : tree.Agree eraseBinderName other)

include agree

/-- The trees agree in all but names. -/
theorem agree_eraseName : tree.Agree eraseName other := by
  refine agree.coarsen fun node => ?_
  obtain ⟨_, kind, _, _, _⟩ := node
  cases kind <;> rfl

/-- A node is the same in both trees, or it is a binder that has another name. -/
theorem eq_or_binder (id : NodeId) :
    other.get? id = tree.get? id ∨ ∃ shape bound bound' role span parent children,
      tree.get? id = some ⟨shape, .binder bound role, span, parent, children⟩ ∧
      other.get? id = some ⟨shape, .binder bound' role, span, parent, children⟩ := by
  have same := agree id
  cases found : tree.get? id with
  | none =>
    rw [found, Option.map_none, Option.map_eq_none_iff] at same
    exact .inl same
  | some node =>
    rw [found, Option.map_some] at same
    obtain ⟨⟨_, kind', _, _, _⟩, found', same⟩ := Option.map_eq_some_iff.mp same
    obtain ⟨shape, kind, span, parent, children⟩ := node
    simp only [eraseBinderName, SyntaxNode.mk.injEq] at same
    obtain ⟨rfl, kinds, rfl, rfl, rfl⟩ := same
    cases kind with
    | binder bound role =>
      cases kind' <;> cases kinds
      exact .inr ⟨_, bound, _, role, _, _, _, rfl, found'⟩
    | _ =>
      cases kind' <;> cases kinds
      exact .inl found'

/-- A declaration introduces its name in the same place, because functions keep theirs. -/
theorem bindingSpan?_of_agree (id : NodeId) : other.bindingSpan? id = tree.bindingSpan? id := by
  rw [bindingSpan?, bindingSpan?]
  rcases eq_or_binder agree id with same | ⟨_, _, _, _, _, _, _, found, found'⟩
  · rw [same]
  · rw [found, found', Option.map_some, Option.map_some]

theorem isWrapper_of_agree (wrapper : String) (scope : NodeId) :
    other.isWrapper wrapper scope = tree.isWrapper wrapper scope := by
  rw [isWrapper, isWrapper, hasKind, hasKind, kind?, kind?]
  rcases eq_or_binder agree scope with same | ⟨_, _, _, _, _, _, _, found, found'⟩
  · rw [same]
  · rw [found, found']
    rfl

variable {name : String} {use : ParserSpan} (alike : tree.BindsAlike other name use)

include alike

/-- A scope offers the same candidates to the use in both trees. -/
theorem candidates_eq (scope : NodeId) (ns : Namespace) :
    other.candidates scope name ns use = tree.candidates scope name ns use := by
  have names := agree_eraseName agree
  have sees : ∀ node, ns.seesBelow (eraseName node).kind = ns.seesBelow node.kind := by
    rintro ⟨_, (_ | _), _, _, _⟩ <;> cases ns <;> rfl
  have tests : other.candidate? scope use = tree.candidate? scope use :=
    funext (names.candidate? (bindingSpan?_of_agree agree) scope use)
  rw [candidates, candidates, localDeclarations, localDeclarations,
    names.children keepsLinks_eraseName, names.walk keepsLinks_eraseName sees, tests,
    List.filterMap_filter, List.filterMap_filter]
  refine List.filterMap_congr fun id _ => ?_
  rcases eq_or_binder agree id with same | ⟨_, bound, bound', role, span, _, _, found, found'⟩
  · rw [declares, declares, hasKind, hasKind, kind?, kind?, same]
  · by_cases before : span.stop ≤ use.start
    · -- an earlier binder has the name in both trees or in neither
      have named := alike id span (span?_of_get? found) before
      simp only [Binds, kind?_of_get? found, kind?_of_get? found', Option.some.injEq,
        Kind.binder.injEq, exists_and_left, exists_eq', and_true] at named
      rw [declares, declares, hasKind_of_get? found, hasKind_of_get? found']
      simp only [Kind.declaredName?, beq_iff_eq, Option.some.injEq, named]
    · -- a later binder is no candidate, whatever its name
      have introduces : tree.bindingSpan? id = some span := by
        rw [bindingSpan?, found, Option.map_some]
      simp only [candidate?_eq_none introduces before, ite_self]

end Bound

/-- A name refers to the same in two trees that are the same but for the names of binders, if the
binders that end before it bind its name alike. Binders behind it may have any names. -/
theorem resolve?_eq_of_bindsAlike (agree : tree.Agree eraseBinderName other) {id : NodeId}
    {node : SyntaxNode} {name : String} (found : tree.get? id = some node)
    (found' : other.get? id = some node) (named : node.kind.identifier? = some name)
    (alike : tree.BindsAlike other name node.span) (wrapper : String) (ns : Namespace) :
    other.resolve? wrapper ns id = tree.resolve? wrapper ns id := by
  have searched := lookUp?_congr (agree_eraseName agree).enclosingScope?
    (isWrapper_of_agree agree wrapper) (candidates_eq agree alike · ns) maxScopeClimb id
  simp only [resolve?, found, found', named, Option.bind_eq_bind, Option.bind_some, searched]

/-- The document with another name for the declaration that comes after the use. -/
def unshadowedTree : SyntaxTree := shadowedTree.renamed [10] "y"

/-- The use in the function refers to the declaration outside, whether or not the later declaration
takes its name. -/
theorem resolve?_unshadowedTree :
    shadowedTree.Agree eraseBinderName unshadowedTree ∧
      shadowedTree.BindsAlike unshadowedTree "x" ⟨⟨2, 11⟩, ⟨2, 12⟩⟩ ∧
      shadowedTree.Binds "x" 10 ∧ ¬ unshadowedTree.Binds "x" 10 ∧
      unshadowedTree.resolve? "top" .value 8 = shadowedTree.resolve? "top" .value 8 ∧
      shadowedTree.resolve? "top" .value 8 = some ⟨3, 0, ⟨⟨1, 5⟩, ⟨3, 2⟩⟩⟩ := by
  have agree : shadowedTree.Agree eraseBinderName unshadowedTree := .of_nodes (by decide +kernel)
  have here : shadowedTree.kind? 10 = some (.binder "x" .letBinding) := rfl
  have there : unshadowedTree.kind? 10 = some (.binder "y" .letBinding) := by decide +kernel
  have alike : shadowedTree.BindsAlike unshadowedTree "x" ⟨⟨2, 11⟩, ⟨2, 12⟩⟩ := by
    intro id span stands before
    have other : id ≠ 10 := by
      rintro rfl
      cases stands
      exact absurd before (by decide)
    rw [Binds, Binds, unshadowedTree, kind?_renamed]
    simp [other]
  have found' : unshadowedTree.get? 8 =
      some ⟨.leaf, .variable "x", ⟨⟨2, 11⟩, ⟨2, 12⟩⟩, some 7, []⟩ := by decide +kernel
  refine ⟨agree, alike, ⟨_, here⟩, ?_, ?_, by decide +kernel⟩
  · rintro ⟨role, is⟩
    rw [there] at is
    simp at is
  · exact resolve?_eq_of_bindsAlike agree rfl found' rfl alike "top" .value

end SyntaxTree

end LinksBinding
