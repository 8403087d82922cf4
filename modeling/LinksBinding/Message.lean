import LinksBinding.Coordinate
import LinksBinding.Text.Decimal
import LinksBinding.Text.Trim

/-!
# Diagnostic messages

The kinds of problem that are reported, with their codes and wording. Wordings are templates in
which a placeholder, a number in braces, stands for an argument.

`fill` replaces the placeholders one number after the other, each time in the whole text as it
has become, so an argument that looks like a later placeholder is itself replaced.
-/

namespace LinksBinding

open Text

/-- How severe a problem is, in the words of the analysis. -/
inductive Category where
  | warning
  | error
  | suggestion
  | message
  deriving DecidableEq, Repr

/-- How severe a problem is, in the grades that editors know. -/
inductive Severity where
  | error
  | warning
  | information
  | hint
  deriving DecidableEq, Repr

/-- The number of a severity. -/
def Severity.number : Severity → Nat
  | .error => 1
  | .warning => 2
  | .information => 3
  | .hint => 4

/-- The severity of a number. -/
def Severity.ofNumber? : Nat → Option Severity
  | 1 => some .error
  | 2 => some .warning
  | 3 => some .information
  | 4 => some .hint
  | _ => none

theorem Severity.ofNumber?_number (s : Severity) : ofNumber? s.number = some s := by
  cases s <;> rfl

/-- The grade that editors are told. -/
def Category.severity : Category → Severity
  | .error => .error
  | .warning => .warning
  | .suggestion => .hint
  | .message => .information

/-- The wording of one kind of problem. -/
structure MessageTemplate where
  /-- the number of the kind -/
  code : Coordinate
  /-- how severe it is -/
  category : Category
  /-- what is wrong -/
  message : String
  /-- what to do about it -/
  hint : String
  deriving DecidableEq, Repr

namespace MessageTemplate

/-- A variable is used where none of that name is visible. -/
def undefinedVariable : MessageTemplate where
  code := 1001
  category := .error
  message := "Variable '\x7b0\x7d' is not defined."
  hint := "Declare '\x7b0\x7d' with 'var' before this point, or bind it as a parameter."

/-- A function is called where none of that name is known. -/
def undefinedFunction : MessageTemplate where
  code := 1002
  category := .error
  message := "Function '\x7b0\x7d' is not defined."
  hint := "Define 'fun \x7b0\x7d' in an enclosing scope or check the spelling."

/-- A name is declared twice in one scope. -/
def duplicateDeclaration : MessageTemplate where
  code := 2001
  category := .warning
  message := "'\x7b0\x7d' is declared more than once in the same scope."
  hint := "Later uses of '\x7b0\x7d' bind to the most recent declaration; rename one of them if " ++
    "that is not intended."

/-- A function is called with another number of arguments than it has parameters. -/
def argumentCountMismatch : MessageTemplate where
  code := 3001
  category := .error
  message := "Function '\x7b0\x7d' expects \x7b1\x7d argument(s) but was called with \x7b2\x7d."
  hint := "Change the call to pass \x7b1\x7d argument(s), or update the parameters of '\x7b0\x7d'."

/-- Running the document ended in an error. -/
def runtimeError : MessageTemplate where
  code := 4001
  category := .error
  message := "Runtime error: \x7b0\x7d"
  hint := "Reported by running the document with the Links interpreter."

/-- Every kind of problem. -/
def all : List MessageTemplate :=
  [undefinedVariable, undefinedFunction, duplicateDeclaration, argumentCountMismatch, runtimeError]

/-- The kind of problem with that code. -/
def ofCode? (code : Coordinate) : Option MessageTemplate := all.find? (·.code == code)

end MessageTemplate

namespace Text

/-- `text` with every occurrence of the non-empty `target` replaced, from left to right. `skip`
characters, the rest of an occurrence that is replaced already, are left out first. -/
def replaceAfter (target replacement : List Char) : (skip : Nat) → List Char → List Char
  | _, [] => []
  | skip + 1, _ :: rest => replaceAfter target replacement skip rest
  | 0, c :: rest =>
    if target.isPrefixOf (c :: rest) then
      replacement ++ replaceAfter target replacement (target.length - 1) rest
    else c :: replaceAfter target replacement 0 rest

/-- `text` with every occurrence of the non-empty `target` replaced, from left to right. -/
def replaceAll (target replacement text : List Char) : List Char :=
  replaceAfter target replacement 0 text

end Text

/-- The placeholder of argument `index`. -/
def placeholder (index : Nat) : List Char := '\x7b' :: digits index ++ ['\x7d']

/-- Replaces the placeholders of the arguments in turn, the first of them numbered `index`. -/
def fillFrom (index : Nat) (text : List Char) : (arguments : List (List Char)) → List Char
  | [] => text
  | argument :: rest =>
    fillFrom (index + 1) (replaceAll (placeholder index) argument text) rest

/-- A template with its placeholders replaced by the arguments. -/
def fill (template : String) (arguments : List String) : String :=
  String.ofList (fillFrom 0 template.toList (arguments.map String.toList))

end LinksBinding
