import LinksBinding.Coordinate

/-!
# Kinds of syntax nodes

What a node of a Links syntax tree is. Kinds matter to name resolution in three ways: some open a
scope, some introduce a binder in a particular role, and some can only be leaves.
-/

namespace LinksBinding

/-- Whether the parser reports a node as one with parts or as a leaf. -/
inductive Shape where
  | interior
  | leaf
  deriving DecidableEq, Repr

/-- Columns that the keyword of a function declaration takes, with the space behind it. -/
def functionKeywordWidth : Coordinate := 4

/-- How a binder introduces its name. -/
inductive BinderRole where
  /-- by a `var` declaration -/
  | letBinding
  /-- as a parameter of a function -/
  | parameter
  /-- as the variable of a loop -/
  | loopVariable
  /-- as the result of an expression inside a formlet -/
  | formBinding
  /-- as the row that an update or deletion runs over -/
  | updateCursor
  deriving DecidableEq, Repr

/-- A constant, with its source text. -/
inductive Literal where
  /-- a string, with its quotes; a piece of a string keeps those that stand on its line -/
  | string (text : String)
  /-- a number -/
  | number (text : String)
  /-- anything else that is printed as a constant -/
  | other (text : String)
  deriving DecidableEq, Repr

/-- The source text of a constant. -/
def Literal.text : Literal → String
  | .string text | .number text | .other text => text

/-- What a node is. -/
inductive Kind where
  /-- a function declaration -/
  | function (name : String)
  /-- a group of functions that may call one another -/
  | functionGroup
  /-- an anonymous function -/
  | lambda
  /-- a group of parameters -/
  | parameters
  /-- a block of statements -/
  | block
  /-- a `var` declaration -/
  | declaration
  /-- the application of a function -/
  | call
  /-- a loop -/
  | iteration
  /-- the part of a loop that draws from a list -/
  | generator
  /-- a formlet -/
  | formlet
  /-- the binding of an expression inside a formlet -/
  | formBinding
  /-- a formlet together with its handler -/
  | formletPlacement
  /-- an update of database rows -/
  | update
  /-- a deletion of database rows -/
  | deletion
  /-- the selection of a record field -/
  | projection (field : String)
  /-- the application of a variant tag -/
  | constructor (tag : String)
  /-- an element of markup -/
  | element (tag : String)
  /-- an attribute of an element -/
  | attribute (name : String)
  /-- the use of a name -/
  | variable (name : String)
  /-- the introduction of a name -/
  | binder (name : String) (role : BinderRole)
  /-- a constant -/
  | constant (literal : Literal)
  /-- text between markup -/
  | text (text : String)
  /-- anything else -/
  | other (tag : String) (payload : Option String)
  deriving DecidableEq, Repr

namespace Kind

/-- Whether the node bounds a scope: functions of every form, and groups of them. -/
def isScopeBoundary : Kind → Bool
  | .function _ | .functionGroup | .lambda => true
  | _ => false

/-- Whether the node holds the body of a function. A group of functions holds none of its own. -/
def opensBody : Kind → Bool
  | .function _ | .lambda => true
  | _ => false

/-- Whether the node can only be a leaf. -/
def isLeafKind : Kind → Bool
  | .variable _ | .binder _ _ | .constant _ | .text _ => true
  | _ => false

/-- The name that the node introduces or uses. -/
def identifier? : Kind → Option String
  | .function name | .variable name | .binder name _ => some name
  | _ => none

/-- The name that the node declares. -/
def declaredName? : Kind → Option String
  | .function name | .binder name _ => some name
  | _ => none

/-- Whether the node is the use, introduction or declaration of a name. -/
def isIdentifier (kind : Kind) : Bool := kind.identifier?.isSome

/-- Whether the node is a constant. -/
def isConstant : Kind → Bool
  | .constant _ => true
  | _ => false

/-- Whether the node is a loop. -/
def isIteration (kind : Kind) : Bool := kind == .iteration

/-- Whether the node is a formlet. -/
def isFormlet (kind : Kind) : Bool := kind == .formlet

/-- Whether the node binds the result of an expression inside a formlet. -/
def isFormBinding (kind : Kind) : Bool := kind == .formBinding

/-- Whether the node changes database rows. -/
def changesRows (kind : Kind) : Bool := kind == .update || kind == .deletion

/-- Whether the node is a group of parameters. -/
def isParameters : Kind → Bool
  | .parameters => true
  | _ => false

/-- The role of binders below this node, when the node decides it. Constructs that introduce
binders decide for their own role; a `var` declaration and a scope boundary shut out what lies
above them. -/
def decidesRole? : Kind → Option BinderRole
  | .parameters => some .parameter
  | .generator => some .loopVariable
  | .formBinding => some .formBinding
  | .update | .deletion => some .updateCursor
  | .declaration | .function _ | .functionGroup | .lambda => some .letBinding
  | _ => none

/-- The kind with its role replaced, if it is a binder. -/
def withRole (role : BinderRole) : Kind → Kind
  | .binder name _ => .binder name role
  | kind => kind

end Kind

end LinksBinding
