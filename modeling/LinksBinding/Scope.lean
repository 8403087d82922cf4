import LinksBinding.Syntax.Tree
import LinksBinding.Text.Columns

/-!
# Scopes

Links binds names in sequence: a declaration is visible from where it is written to the end of its
scope, and a use never sees a declaration that comes after it. Scopes are the bodies of functions
and groups of functions. A name is looked up in the scope around its use, then in the scope around
that one, out to the wrapper function or the root; of the declarations that are visible in the
first scope with any, the latest is meant.

Loop variables, form bindings and update cursors are visible only inside the construct that
introduces them.
-/

namespace LinksBinding

open Text

/-- What a name is looked up as. -/
inductive Namespace where
  /-- a variable: what is declared inside a nested function is out of sight -/
  | value
  /-- a function that is called or handed over: declarations inside nested functions are seen -/
  | function
  deriving DecidableEq, Repr

/-- Whether declarations below a node of a kind are seen from the scope around it. -/
def Namespace.seesBelow : Namespace → Kind → Bool
  | .value, kind => !kind.opensBody
  | .function, _ => true

/-- What a use of a name refers to. -/
structure Resolution where
  /-- the declaration -/
  declaration : NodeId
  /-- the scope it was found in -/
  scope : NodeId
  /-- where it is visible from that scope -/
  validity : ParserSpan
  deriving DecidableEq, Repr

namespace SyntaxTree

/-- The most scopes that are searched for one name. -/
def maxScopeClimb : Nat := 10000

/-- The nearest scope around a node. The root stands in where there is none, and nothing is around
the root. -/
def enclosingScope? (tree : SyntaxTree) (id : NodeId) : Option NodeId :=
  if id = root then none else some ((tree.nearestAncestor? Kind.isScopeBoundary id).getD root)

/-- Whether no scope around this one is searched: it is the root or the wrapper function. -/
def isWrapper (tree : SyntaxTree) (wrapper : String) (scope : NodeId) : Bool :=
  scope == root || tree.hasKind (· == .function wrapper) scope

/-- Whether a node declares that name. -/
def declares (tree : SyntaxTree) (name : String) (id : NodeId) : Bool :=
  tree.hasKind (·.declaredName? == some name) id

/-- The declarations of a name below a scope that are seen from it, in document order. -/
def localDeclarations (tree : SyntaxTree) (scope : NodeId) (name : String) (ns : Namespace) :
    List NodeId :=
  (tree.walk ns.seesBelow (tree.children scope)).filter (tree.declares name)

/-! ## Where a declaration is visible -/

/-- The part of a declaration that introduces its name. Of a function that is the keyword and the
name, so that its body can refer to it. -/
def bindingSpan? (tree : SyntaxTree) (id : NodeId) : Option ParserSpan :=
  (tree.get? id).map fun node =>
    match node.kind with
    | .function name =>
      let stop := node.span.start.advance (functionKeywordWidth + columnCount name)
      ⟨node.span.start, stop.min node.span.stop⟩
    | _ => node.span

/-- The construct that a declaration is confined to. -/
def confinement? (tree : SyntaxTree) (id : NodeId) : Option NodeId :=
  match tree.kind? id with
  | some (.binder _ .loopVariable) => tree.nearestAncestor? Kind.isIteration id
  | some (.binder _ .formBinding) =>
    tree.nearestAncestor? Kind.isFormlet id <|>
      (tree.nearestAncestor? Kind.isFormBinding id).bind tree.parent?
  | some (.binder _ .updateCursor) => tree.nearestAncestor? Kind.changesRows id
  | _ => none

/-- Where a declaration is visible from a scope: in the construct it is confined to, else from its
start to the end of the scope. -/
def validityScope? (tree : SyntaxTree) (id scope : NodeId) : Option ParserSpan := do
  let span ← tree.span? id
  match (tree.confinement? id).bind tree.span? with
  | some construct => return construct
  | none =>
    let outer ← tree.span? scope
    return ⟨span.start, outer.stop.max span.start⟩

/-- Where a declaration is visible from the scope around it. -/
def declarationValidity? (tree : SyntaxTree) (id : NodeId) : Option ParserSpan :=
  (tree.enclosingScope? id).bind (tree.validityScope? id)

/-- Number of parameters in the first parameter group of a function. -/
def parameterCount? (tree : SyntaxTree) (id : NodeId) : Option Nat :=
  ((tree.children id).find? (tree.hasKind Kind.isParameters)).map fun params =>
    (tree.children params).length

/-! ## Resolution -/

/-- A declaration that a use can refer to. -/
structure Candidate where
  /-- the declaration -/
  declaration : NodeId
  /-- where its name is introduced -/
  introducedAt : ParserPosition
  /-- where it is visible -/
  validity : ParserSpan
  deriving DecidableEq, Repr

/-- A declaration as a candidate for a use: when it introduces its name before the use starts,
lies within the scope, and is visible where the use starts. -/
def candidate? (tree : SyntaxTree) (scope : NodeId) (occurrence : ParserSpan) (id : NodeId) :
    Option Candidate := do
  let binding ← tree.bindingSpan? id
  let span ← tree.span? id
  let outer ← tree.span? scope
  let validity ← tree.validityScope? id scope
  if binding.precedes occurrence && outer.containsSpan span &&
      validity.containsPosition occurrence.start then
    return ⟨id, binding.start, validity⟩
  else none

/-- The candidates that a scope offers to a use, in document order. -/
def candidates (tree : SyntaxTree) (scope : NodeId) (name : String) (ns : Namespace)
    (occurrence : ParserSpan) : List Candidate :=
  (tree.localDeclarations scope name ns).filterMap (tree.candidate? scope occurrence)

/-- The candidate that is introduced latest; of several introduced at one place the last. -/
def latest? : List Candidate → Option Candidate
  | [] => none
  | candidate :: rest =>
    match latest? rest with
    | some later =>
      if candidate.introducedAt ≤ later.introducedAt then some later else some candidate
    | none => some candidate

/-- Looks a name up in at most `fuel` scopes around node `id`. -/
def lookUp? (tree : SyntaxTree) (wrapper name : String) (ns : Namespace)
    (occurrence : ParserSpan) : (fuel : Nat) → (id : NodeId) → Option Resolution
  | 0, _ => none
  | fuel + 1, id =>
    match tree.enclosingScope? id with
    | none => none
    | some scope =>
      match latest? (tree.candidates scope name ns occurrence) with
      | some found => some ⟨found.declaration, scope, found.validity⟩
      | none =>
        if tree.isWrapper wrapper scope then none
        else tree.lookUp? wrapper name ns occurrence fuel scope

/-- The declaration that the name of a node refers to. -/
def resolve? (tree : SyntaxTree) (wrapper : String) (ns : Namespace) (id : NodeId) :
    Option Resolution := do
  let node ← tree.get? id
  let name ← node.kind.identifier?
  tree.lookUp? wrapper name ns node.span maxScopeClimb id

theorem latest?_eq_none_iff {candidates : List Candidate} :
    latest? candidates = none ↔ candidates = [] := by
  cases candidates with
  | nil => simp [latest?]
  | cons candidate rest =>
    simp only [latest?, reduceCtorEq, iff_false]
    split
    · split <;> simp
    · simp

theorem latest?_mem {candidates : List Candidate} {found : Candidate}
    (h : latest? candidates = some found) : found ∈ candidates := by
  induction candidates with
  | nil => cases h
  | cons candidate rest ih =>
    rw [latest?] at h
    split at h
    · rename_i later eq
      split at h
      · cases h
        exact List.mem_cons_of_mem _ (ih eq)
      · cases h
        exact List.mem_cons_self
    · cases h
      exact List.mem_cons_self

end SyntaxTree

end LinksBinding
