import LinksBinding.Highlight.Classify
import LinksBinding.Library

/-!
# Semantic tokens

The highlighted ranges in the form that editors take them in: five numbers for each, of which the
first two place it relative to the one before. `encodeTokens` writes that form.

Tokens are expected in document order; where one comes before its predecessor all the same, the
distance is zero.
-/

namespace LinksBinding

/-- The kind of a token. -/
inductive TokenType where
  | variable
  | function
  | string
  | number
  | property
  | enumMember
  | type
  deriving DecidableEq, Repr

namespace TokenType

/-- Every kind, in the order of their numbers. -/
def all : List TokenType :=
  [.variable, .function, .string, .number, .property, .enumMember, .type]

/-- The name of a kind. -/
def name : TokenType → String
  | .variable => "variable"
  | .function => "function"
  | .string => "string"
  | .number => "number"
  | .property => "property"
  | .enumMember => "enumMember"
  | .type => "type"

/-- The number of a kind. -/
def index : TokenType → Coordinate
  | .variable => 0
  | .function => 1
  | .string => 2
  | .number => 3
  | .property => 4
  | .enumMember => 5
  | .type => 6

/-- The kind of a number. -/
def ofIndex? (index : Nat) : Option TokenType := all[index]?

end TokenType

/-- Marks a token as a declaration. -/
def declarationFlag : Coordinate := 1

/-- Marks a token as unused. -/
def unusedFlag : Coordinate := 2

/-- Marks a token as a library function. -/
def libraryFlag : Coordinate := 4

/-- The names of the flags, by their bits. -/
def modifierNames : List String := ["declaration", "unused", "defaultLibrary"]

/-- The kind and flags of the tokens of a class. -/
def Classification.token : Classification → TokenType × Coordinate
  | usedVariable => (.variable, 0)
  | unusedVariable => (.variable, unusedFlag)
  | usedFunction => (.function, declarationFlag)
  | unusedFunction => (.function, declarationFlag ||| unusedFlag)
  | functionCall => (.function, 0)
  | stringConstant => (.string, 0)
  | numberConstant => (.number, 0)
  | projection => (.property, 0)
  | variantTag => (.enumMember, 0)
  | markupDeclaration => (.type, 0)
  | markupTag => (.type, 0)
  | markupAttribute => (.property, 0)

/-- A stretch of one line with its kind and flags. -/
structure Token where
  /-- its line -/
  line : Coordinate
  /-- its first column -/
  start : Coordinate
  /-- number of columns -/
  length : Coordinate
  /-- its kind -/
  kind : TokenType
  /-- its flags -/
  modifiers : Coordinate
  deriving DecidableEq, Repr

/-- The numbers for tokens behind a token that starts at `previous`. -/
def encodeTokensFrom (previous : Position) : List Token → List Coordinate
  | [] => []
  | token :: rest =>
    let lines := token.line.satSub previous.line
    let columns := if lines = 0 then token.start.satSub previous.character else token.start
    lines :: columns :: token.length :: token.kind.index :: token.modifiers ::
      encodeTokensFrom ⟨token.line, token.start⟩ rest

/-- The numbers for the tokens of a document. -/
def encodeTokens (tokens : List Token) : List Coordinate := encodeTokensFrom ⟨0, 0⟩ tokens

namespace Analysis

/-- The ranges of the calls that only the library answers. -/
def libraryCalls (analysis : Analysis) : List Range :=
  (analysis.index.unresolved.filter fun occurrence =>
    occurrence.kind == .call && Library.knows occurrence.name).filterMap fun occurrence =>
      analysis.nameRange? occurrence.node

/-- The token of a highlighted range; there is none for a range of several lines. -/
def token? (libraryCalls : List Range) (highlight : Highlight) : Option Token :=
  let range := highlight.range
  if range.isSingleLine then
    let (kind, modifiers) := highlight.cls.token
    let fromLibrary := highlight.cls == .functionCall && libraryCalls.contains range
    some ⟨range.start.line, range.start.character, range.stop.character - range.start.character,
      kind, if fromLibrary then modifiers ||| libraryFlag else modifiers⟩
  else none

/-- The tokens of a document. -/
def tokens (analysis : Analysis) : List Token :=
  analysis.highlights.filterMap (token? analysis.libraryCalls)

/-- The numbers that editors take the tokens of a document as. -/
def semanticTokens (analysis : Analysis) : List Coordinate := encodeTokens analysis.tokens

end Analysis

end LinksBinding
