import LinksBinding.Syntax.Label
import LinksBinding.Text.Decimal

/-!
# Why a tree is refused

A tree is read and built as a whole or not at all. Every defect but one names the node it was
found at by the child numbers that lead there from the root.

A tree that is not refused may still not be built: its spans are repaired by sums of coordinates,
and a sum that overflows stops that.
-/

namespace LinksBinding

open Text

/-- The most steps that may lead from the root of a tree to a node. -/
def maxTreeDepth : Nat := 2000

/-- The way from the root to a node: child numbers, the last step first. -/
abbrev NodePath := List Nat

/-- The written form of a path. -/
def NodePath.text (path : NodePath) : String :=
  String.ofList ('$' :: path.reverse.flatMap fun step => '/' :: digits step)

/-- In what way a value is not a node. -/
inductive NodeDefect where
  | notAnArray
  | wrongLength
  | unknownShape
  | labelNotText
  | spanNotText
  | childrenNotAnArray
  deriving DecidableEq, Repr

/-- The wording of a node defect. -/
def NodeDefect.message : NodeDefect → String
  | .notAnArray => "expected an array [kind, label, span, children]"
  | .wrongLength => "expected 3 or 4 elements"
  | .unknownShape => "node kind must be \"Interior\" or \"Leaf\""
  | .labelNotText => "label must be a string"
  | .spanNotText => "span must be a string"
  | .childrenNotAnArray => "children must be an array"

/-- Why a tree is refused. -/
inductive TreeError where
  /-- the text is no JSON -/
  | invalidJson
  /-- a value is not a node -/
  | malformedNode (path : NodePath) (defect : NodeDefect)
  /-- a span cannot be read, or ends before it starts -/
  | invalidSpan (path : NodePath) (span : String)
  /-- a label cannot be read -/
  | invalidLabel (path : NodePath) (label : String) (reason : LabelError)
  /-- a node that can only be a leaf has children -/
  | unexpectedChildren (path : NodePath) (label : String)
  /-- a node lies too deep, at `depth` steps below the root -/
  | tooDeep (depth : Nat)
  deriving DecidableEq, Repr

/-- The wording of a tree error. -/
def TreeError.message : TreeError → String
  | .invalidJson => "invalid tree JSON"
  | .malformedNode path defect => "malformed node at " ++ path.text ++ ": " ++ defect.message
  | .invalidSpan path span => "invalid span '" ++ span ++ "' at " ++ path.text
  | .invalidLabel path label reason =>
    "invalid label '" ++ label ++ "' at " ++ path.text ++ ": " ++ reason.message
  | .unexpectedChildren path label =>
    "leaf label '" ++ label ++ "' at " ++ path.text ++ " has children"
  | .tooDeep depth =>
    "tree nesting depth " ++ toString depth ++ " exceeds the limit of " ++ toString maxTreeDepth

/-- Why no tree is built. -/
inductive BuildFailure where
  /-- the tree is refused -/
  | refused (error : TreeError)
  /-- a sum of coordinates overflows -/
  | overflow
  deriving DecidableEq, Repr

/-- The wording of a failure. -/
def BuildFailure.message : BuildFailure → String
  | .refused error => error.message
  | .overflow => "attempt to add with overflow"

end LinksBinding
