import LinksBinding.Json.Basic
import LinksBinding.Text.Decimal

/-!
# Writing JSON

Two written forms of a value: `compress` on one line without spaces, `pretty` with one item or
field a line, indented by two spaces for each level. Both escape quotes, backslashes and control
characters, and leave all other characters as they are.
-/

namespace LinksBinding.Json

open Text

/-- A hexadecimal digit. -/
def hexDigit (n : Nat) : Char := Nat.digitChar n

/-- How a character is written in a string. -/
def escapeChar (c : Char) : List Char :=
  match c with
  | '"' => ['\\', '"']
  | '\\' => ['\\', '\\']
  | '\n' => ['\\', 'n']
  | '\r' => ['\\', 'r']
  | '\t' => ['\\', 't']
  | '\x08' => ['\\', 'b']
  | '\x0c' => ['\\', 'f']
  | c =>
    if c.toNat < 0x20 then
      ['\\', 'u', '0', '0', hexDigit (c.toNat / 16), hexDigit (c.toNat % 16)]
    else [c]

/-- The written form of a string. -/
def quote (text : String) : String :=
  String.ofList ('"' :: text.toList.flatMap escapeChar ++ ['"'])

/-- The written form of an integer. -/
def integerText : Int → String
  | .ofNat n => String.ofList (digits n)
  | .negSucc n => String.ofList ('-' :: digits (n + 1))

mutual
/-- Appends the one-line form of a value. -/
def compressTo (out : String) : Json → String
  | .null => out ++ "null"
  | .unreadable => out ++ "null"
  | .bool true => out ++ "true"
  | .bool false => out ++ "false"
  | .integer value => out ++ integerText value
  | .decimal literal => out ++ literal
  | .string value => out ++ quote value
  | .array items => compressItems (out ++ "[") true items
  | .object fields => compressFields (out ++ "\x7b") true fields

/-- Appends the items of an array and its closing bracket. -/
def compressItems (out : String) (first : Bool) : List Json → String
  | [] => out ++ "]"
  | item :: rest => compressItems (compressTo (if first then out else out ++ ",") item) false rest

/-- Appends the fields of an object and its closing brace. -/
def compressFields (out : String) (first : Bool) : List (String × Json) → String
  | [] => out ++ "\x7d"
  | (name, value) :: rest =>
    let out := (if first then out else out ++ ",") ++ quote name ++ ":"
    compressFields (compressTo out value) false rest
end

/-- The one-line form of a value. -/
def compress (value : Json) : String := compressTo "" value

/-- A new line at nesting level `level`. -/
def newLine (level : Nat) : String := String.ofList ('\n' :: List.replicate (2 * level) ' ')

mutual
/-- Appends the indented form of a value at nesting level `level`. -/
def prettyTo (level : Nat) (out : String) : Json → String
  | .array [] => out ++ "[]"
  | .object [] => out ++ "\x7b\x7d"
  | .array (item :: rest) =>
    prettyItems level (prettyTo (level + 1) (out ++ "[" ++ newLine (level + 1)) item) rest
  | .object ((name, value) :: rest) =>
    let out := out ++ "\x7b" ++ newLine (level + 1) ++ quote name ++ ": "
    prettyFields level (prettyTo (level + 1) out value) rest
  | .null => out ++ "null"
  | .unreadable => out ++ "null"
  | .bool true => out ++ "true"
  | .bool false => out ++ "false"
  | .integer value => out ++ integerText value
  | .decimal literal => out ++ literal
  | .string value => out ++ quote value

/-- Appends the further items of an array and its closing bracket. -/
def prettyItems (level : Nat) (out : String) : List Json → String
  | [] => out ++ newLine level ++ "]"
  | item :: rest =>
    prettyItems level (prettyTo (level + 1) (out ++ "," ++ newLine (level + 1)) item) rest

/-- Appends the further fields of an object and its closing brace. -/
def prettyFields (level : Nat) (out : String) : List (String × Json) → String
  | [] => out ++ newLine level ++ "\x7d"
  | (name, value) :: rest =>
    let out := out ++ "," ++ newLine (level + 1) ++ quote name ++ ": "
    prettyFields level (prettyTo (level + 1) out value) rest
end

/-- The indented form of a value. -/
def pretty (value : Json) : String := prettyTo 0 "" value

end LinksBinding.Json
