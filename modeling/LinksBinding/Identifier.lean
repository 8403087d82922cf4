import LinksBinding.Text.CharClass

/-!
# Identifiers

Which texts can be the name of a variable or function. An identifier starts with a letter or an
underscore, goes on with name characters, and is no keyword.
-/

namespace LinksBinding

open Text

/-- The reserved words. -/
def keywords : List String :=
  ["alien", "as", "case", "client", "database", "default", "delete", "do", "else", "false",
    "for", "form", "formlet", "from", "fun", "if", "in", "insert", "linfun", "module", "mutual",
    "native", "nil", "on", "op", "orderby", "page", "query", "readonly", "receive", "returning",
    "server", "set", "sig", "switch", "table", "true", "typename", "update", "values", "var",
    "where", "with", "yields"]

/-- Whether a word is reserved. -/
def isKeyword (name : String) : Bool := keywords.contains name

/-- Whether an identifier can start with this character. -/
def startsName (c : Char) : Bool := isLetter c || c == '_'

/-- Whether a text is an identifier. -/
def isIdentifier (name : String) : Bool :=
  match name.toList with
  | [] => false
  | first :: rest => startsName first && rest.all isNameChar && !isKeyword name

/-- What starts a name also continues one. -/
theorem isNameChar_of_startsName {c : Char} (h : startsName c = true) : isNameChar c = true := by
  simp only [startsName, Bool.or_eq_true] at h
  simp only [isNameChar, isAlphanumeric, Bool.or_eq_true]
  grind

end LinksBinding
