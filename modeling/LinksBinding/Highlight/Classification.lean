/-!
# Classes of highlighted text

What a highlighted stretch of a document is, from the reader's point of view.
-/

namespace LinksBinding

/-- The class of a highlighted stretch. -/
inductive Classification where
  /-- a variable that is used, or its use -/
  | usedVariable
  /-- a variable without a use -/
  | unusedVariable
  /-- a function that is used -/
  | usedFunction
  /-- a function without a use -/
  | unusedFunction
  /-- the name in a call -/
  | functionCall
  /-- a string -/
  | stringConstant
  /-- a number -/
  | numberConstant
  /-- the field in the selection of a record field -/
  | projection
  /-- the tag of a variant -/
  | variantTag
  /-- the tag that opens an element -/
  | markupDeclaration
  /-- the tag that closes an element -/
  | markupTag
  /-- the name of an attribute -/
  | markupAttribute
  deriving DecidableEq, Repr

namespace Classification

/-- Every class. -/
def all : List Classification :=
  [usedVariable, unusedVariable, usedFunction, unusedFunction, functionCall, stringConstant,
    numberConstant, projection, variantTag, markupDeclaration, markupTag, markupAttribute]

/-- The name of a class. -/
def name : Classification → String
  | usedVariable => "usedVariable"
  | unusedVariable => "unusedVariable"
  | usedFunction => "usedFunction"
  | unusedFunction => "unusedFunction"
  | functionCall => "functionCall"
  | stringConstant => "stringConstant"
  | numberConstant => "numberConstant"
  | projection => "projection"
  | variantTag => "variantTag"
  | markupDeclaration => "markupDeclaration"
  | markupTag => "markupTag"
  | markupAttribute => "markupAttribute"

/-- Whether the class concerns a name that is declared or used. -/
def concernsName : Classification → Bool
  | usedVariable | unusedVariable | usedFunction | unusedFunction => true
  | _ => false

end Classification

end LinksBinding
