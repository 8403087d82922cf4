import LinksBinding.Scope
import LinksBinding.Table

/-!
# The binding index

What each name in a document refers to, worked out once for a tree: its declarations and its uses
in document order, each use with the declaration it resolves to. The index is built in one pass over
the document. Each declaration and each use that is met is entered into the tables that questions
about names, nodes and declarations are answered from.

The wrapper function is no declaration of the document, and neither is the root.
-/

namespace LinksBinding

/-- How a declaration introduces its name. -/
inductive DeclarationKind where
  /-- as a binder -/
  | binder (role : BinderRole)
  /-- as a function -/
  | function
  deriving DecidableEq, Repr

namespace DeclarationKind

/-- Whether a function is declared. -/
def isFunction : DeclarationKind → Bool
  | function => true
  | binder _ => false

/-- What is declared, in words. -/
def describe : DeclarationKind → String
  | binder .letBinding => "variable"
  | binder .parameter => "parameter"
  | binder .loopVariable => "loop variable"
  | binder .formBinding => "form binding"
  | binder .updateCursor => "update cursor"
  | function => "function"

end DeclarationKind

/-- A declaration of a name. -/
structure Declaration where
  /-- the binder or function -/
  node : NodeId
  /-- the name -/
  name : String
  /-- how it is introduced -/
  kind : DeclarationKind
  /-- where it is visible from the scope around it -/
  validity : ParserSpan
  /-- number of parameters, of a function that has a parameter group -/
  parameterCount : Option Nat
  deriving DecidableEq, Repr

/-- What a name is used for. -/
inductive OccurrenceKind where
  /-- as a variable -/
  | variable
  /-- as the function of a call -/
  | call
  /-- as the function that handles a formlet -/
  | handlerReference
  deriving DecidableEq, Repr

/-- What the name is looked up as. -/
def OccurrenceKind.namespace : OccurrenceKind → Namespace
  | .variable => .value
  | .call | .handlerReference => .function

/-- A use of a name. -/
structure Occurrence where
  /-- the variable node -/
  node : NodeId
  /-- the name -/
  name : String
  /-- what it is used for -/
  kind : OccurrenceKind
  /-- the call, when its function is named here -/
  call : Option NodeId
  /-- number of arguments of that call -/
  argumentCount : Option Nat
  /-- what it refers to -/
  resolution : Option Resolution
  deriving DecidableEq, Repr

namespace Occurrence

/-- Where the declaration that is meant is visible. -/
def resolvedIn (occurrence : Occurrence) : Option ParserSpan :=
  occurrence.resolution.map (·.validity)

/-- Whether a declaration is meant. -/
def isResolved (occurrence : Occurrence) : Bool := occurrence.resolution.isSome

/-- The declaration that is meant. -/
def target? (occurrence : Occurrence) : Option NodeId :=
  occurrence.resolution.map (·.declaration)

theorem isResolved_eq (occurrence : Occurrence) :
    occurrence.isResolved = occurrence.target?.isSome := by
  simp [isResolved, target?]

end Occurrence

namespace SyntaxTree

/-- The declaration that a node is. -/
def declarationOf? (tree : SyntaxTree) (wrapper : String) (id : NodeId) : Option Declaration :=
  match tree.kind? id with
  | some (.function name) =>
    if id = root ∨ name = wrapper then none
    else (tree.declarationValidity? id).map fun validity =>
      ⟨id, name, .function, validity, tree.parameterCount? id⟩
  | some (.binder name role) =>
    (tree.declarationValidity? id).map fun validity => ⟨id, name, .binder role, validity, none⟩
  | _ => none

/-- What the name at a variable node is used for, by its place below its parent, with the call and
the number of its arguments if it is a call. -/
def useOf (tree : SyntaxTree) (id : NodeId) : OccurrenceKind × Option NodeId × Option Nat :=
  match tree.parent? id with
  | none => (.variable, none, none)
  | some parent =>
    match tree.kind? parent, tree.childPosition? id with
    | some .call, some 0 => (.call, some parent, some ((tree.children parent).length - 1))
    | some .formletPlacement, some (_ + 1) => (.handlerReference, none, none)
    | _, _ => (.variable, none, none)

/-- The use of a name that a node is. -/
def occurrenceOf? (tree : SyntaxTree) (wrapper : String) (id : NodeId) : Option Occurrence :=
  match tree.kind? id with
  | some (.variable name) =>
    let (kind, call, argumentCount) := tree.useOf id
    some ⟨id, name, kind, call, argumentCount, tree.resolve? wrapper kind.namespace id⟩
  | _ => none

end SyntaxTree

/-- What the names of a document refer to. Declarations and uses stand in the order of the document;
the tables hold their slots, which are their places in that order. -/
structure BindingIndex where
  /-- the declarations -/
  declarationEntries : Array Declaration
  /-- the uses -/
  occurrenceEntries : Array Occurrence
  /-- the slots of the declarations of a name -/
  declarationsByName : Table String (Array Nat)
  /-- the slot of the declaration that a node is -/
  declarationByNode : Table NodeId Nat
  /-- the slots of the uses of a name that refer to a declaration -/
  occurrencesByName : Table String (Array Nat)
  /-- the slot of the use that a node is -/
  occurrenceByNode : Table NodeId Nat
  /-- the slots of the uses of a declaration -/
  usesByDeclaration : Table NodeId (Array Nat)
  /-- the slots of the uses that refer to no declaration -/
  unresolvedSlots : Array Nat
  /-- the declaration that a use refers to -/
  resolved : Table NodeId NodeId
  deriving Repr

namespace BindingIndex

/-! ## Building -/

/-- The index of nothing. -/
def empty : BindingIndex := ⟨#[], #[], .empty, .empty, .empty, .empty, .empty, #[], .empty⟩

/-- The index with a further declaration. -/
def addDeclaration (index : BindingIndex) (declaration : Declaration) : BindingIndex :=
  let slot := index.declarationEntries.size
  { index with
    declarationEntries := index.declarationEntries.push declaration
    declarationsByName := index.declarationsByName.collect declaration.name slot
    declarationByNode := index.declarationByNode.insert declaration.node slot }

/-- The index with a further use. -/
def addOccurrence (index : BindingIndex) (occurrence : Occurrence) : BindingIndex :=
  let slot := index.occurrenceEntries.size
  let entered := { index with
    occurrenceEntries := index.occurrenceEntries.push occurrence
    occurrenceByNode := index.occurrenceByNode.insert occurrence.node slot }
  match occurrence.target? with
  | some declaration =>
    { entered with
      resolved := index.resolved.insert occurrence.node declaration
      usesByDeclaration := index.usesByDeclaration.collect declaration slot
      occurrencesByName := index.occurrencesByName.collect occurrence.name slot }
  | none => { entered with unresolvedSlots := index.unresolvedSlots.push slot }

/-- The index with what a node declares or uses. -/
def enter (tree : SyntaxTree) (wrapper : String) (index : BindingIndex) (id : NodeId) :
    BindingIndex :=
  match tree.occurrenceOf? wrapper id with
  | some occurrence => index.addOccurrence occurrence
  | none =>
    match tree.declarationOf? wrapper id with
    | some declaration => index.addDeclaration declaration
    | none => index

/-- The index of a tree. -/
def ofTree (tree : SyntaxTree) (wrapper : String) : BindingIndex :=
  tree.documentOrder.foldl (enter tree wrapper) empty

/-! ## Questions -/

/-- The declarations in document order. -/
def declarations (index : BindingIndex) : List Declaration := index.declarationEntries.toList

/-- The uses in document order. -/
def occurrences (index : BindingIndex) : List Occurrence := index.occurrenceEntries.toList

/-- The declarations at slots. -/
def declarationsAt (index : BindingIndex) (slots : Array Nat) : List Declaration :=
  slots.toList.filterMap (index.declarationEntries[·]?)

/-- The uses at slots. -/
def occurrencesAt (index : BindingIndex) (slots : Array Nat) : List Occurrence :=
  slots.toList.filterMap (index.occurrenceEntries[·]?)

/-- The declaration that a node is. -/
def declarationAt? (index : BindingIndex) (id : NodeId) : Option Declaration :=
  (index.declarationByNode.get? id).bind (index.declarationEntries[·]?)

/-- The use that a node is. -/
def occurrenceAt? (index : BindingIndex) (id : NodeId) : Option Occurrence :=
  (index.occurrenceByNode.get? id).bind (index.occurrenceEntries[·]?)

/-- The declaration that the use at a node refers to. -/
def target? (index : BindingIndex) (id : NodeId) : Option NodeId := index.resolved.get? id

/-- The declaration that a node stands for: what a use refers to, or the declaration itself. -/
def declarationFor? (index : BindingIndex) (id : NodeId) : Option Declaration :=
  index.declarationAt? ((index.target? id).getD id)

/-- The uses of a declaration in document order. -/
def occurrencesOf (index : BindingIndex) (declaration : NodeId) : List Occurrence :=
  index.occurrencesAt (index.usesByDeclaration.collected declaration)

/-- Whether a declaration is used. -/
def isUsed (index : BindingIndex) (declaration : NodeId) : Bool :=
  (index.usesByDeclaration.get? declaration).any (!·.isEmpty)

/-- The declarations of a name in document order. -/
def declarationsNamed (index : BindingIndex) (name : String) : List Declaration :=
  index.declarationsAt (index.declarationsByName.collected name)

/-- The uses of a name that refer to a declaration, in document order. -/
def occurrencesNamed (index : BindingIndex) (name : String) : List Occurrence :=
  index.occurrencesAt (index.occurrencesByName.collected name)

/-- The uses that refer to no declaration, in document order. -/
def unresolved (index : BindingIndex) : List Occurrence :=
  index.occurrencesAt index.unresolvedSlots

/-- Whether a function of that name is declared anywhere in the document. -/
def isKnownFunction (index : BindingIndex) (name : String) : Bool :=
  (index.declarationsNamed name).any (·.kind.isFunction)

end BindingIndex

end LinksBinding
