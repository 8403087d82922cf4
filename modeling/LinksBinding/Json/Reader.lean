import LinksBinding.Json.Basic
import LinksBinding.Text.Decimal
import LinksBinding.Text.Trim

/-!
# Reading JSON

`Json.read?` reads a text by the grammar of RFC 8259 and nothing beyond it: no comment, no trailing
comma, no text behind the value. What the grammar admits and no value stands for is `unreadable`.

`Json.parse?` is the stricter reader for a value that must be understood as a whole: everything in
it readable, and at most `maxDepth` arrays and objects inside one another.
-/

namespace LinksBinding.Json

open Text

/-- The most arrays and objects that may be nested in a value. -/
def maxDepth : Nat := 127

/-- White space between tokens. -/
def isSpace (c : Char) : Bool := c == ' ' || c == '\t' || c == '\n' || c == '\r'

/-- The text from its first token on. -/
def skipSpace (text : List Char) : List Char := text.dropWhile isSpace

/-! ## Strings -/

/-- The value of a hexadecimal digit. -/
def hexValue? (c : Char) : Option Nat :=
  if '0' ≤ c && c ≤ '9' then some (c.toNat - '0'.toNat)
  else if 'a' ≤ c && c ≤ 'f' then some (c.toNat - 'a'.toNat + 10)
  else if 'A' ≤ c && c ≤ 'F' then some (c.toNat - 'A'.toNat + 10)
  else none

/-- The UTF-16 unit that four hexadecimal digits name. -/
def hexUnit? (a b c d : Char) : Option Nat := do
  let a ← hexValue? a
  let b ← hexValue? b
  let c ← hexValue? c
  let d ← hexValue? d
  return ((a * 16 + b) * 16 + c) * 16 + d

/-- The character that a short escape stands for. -/
def shortEscape? : Char → Option Char
  | '"' => some '"'
  | '\\' => some '\\'
  | '/' => some '/'
  | 'b' => some '\x08'
  | 'f' => some '\x0c'
  | 'n' => some '\n'
  | 'r' => some '\r'
  | 't' => some '\t'
  | _ => none

/-- The part of a string that is read already. -/
structure Scanned where
  /-- its characters, last first -/
  reversed : List Char := []
  /-- the first half of a surrogate pair whose second half must follow -/
  high : Option Nat := none
  /-- whether every surrogate so far has its partner -/
  paired : Bool := true

namespace Scanned

/-- Adds a character; a surrogate waiting for its partner has none then. -/
def push (s : Scanned) (c : Char) : Scanned := ⟨c :: s.reversed, none, s.paired && s.high.isNone⟩

/-- Adds a UTF-16 unit. -/
def pushUnit (s : Scanned) (unit : Nat) : Scanned :=
  match s.high with
  | some high =>
    if 0xDC00 ≤ unit && unit ≤ 0xDFFF then
      let code := 0x10000 + (high - 0xD800) * 0x400 + (unit - 0xDC00)
      ⟨Char.ofNat code :: s.reversed, none, s.paired⟩
    else ⟨s.reversed, if 0xD800 ≤ unit && unit ≤ 0xDBFF then some unit else none, false⟩
  | none =>
    if 0xD800 ≤ unit && unit ≤ 0xDBFF then ⟨s.reversed, some unit, s.paired⟩
    else if 0xDC00 ≤ unit && unit ≤ 0xDFFF then ⟨s.reversed, none, false⟩
    else ⟨Char.ofNat unit :: s.reversed, none, s.paired⟩

/-- The string, `none` when a surrogate has no partner. -/
def toString? (s : Scanned) : Option String :=
  if s.paired && s.high.isNone then some (String.ofList s.reversed.reverse) else none

end Scanned

/-- Reads the rest of a string whose opening quote is read, with the text behind it. The string is
`none` when half of a surrogate pair stands alone in it. -/
def readString? (scanned : Scanned) : List Char → Option (Option String × List Char)
  | [] => none
  | '"' :: rest => some (scanned.toString?, rest)
  | '\\' :: 'u' :: a :: b :: c :: d :: rest =>
    match hexUnit? a b c d with
    | some unit => readString? (scanned.pushUnit unit) rest
    | none => none
  | '\\' :: escape :: rest =>
    match shortEscape? escape with
    | some c => readString? (scanned.push c) rest
    | none => none
  | c :: rest => if c.toNat < 0x20 || c == '\\' then none else readString? (scanned.push c) rest

/-! ## Numbers -/

/-- The bits of a double that hold its leading digits. -/
def doubleBits : Nat := 53

/-- The double nearest to a natural number, of two equally near ones the one with the even last
bit. -/
def nearestDouble (n : Nat) : Nat :=
  let shift := n.log2 + 1 - doubleBits
  let kept := n >>> shift
  let lost := 2 * (n - kept <<< shift)
  let unit := 1 <<< shift
  (if unit < lost || (unit == lost && kept % 2 == 1) then kept + 1 else kept) <<< shift

/-- The greatest exponent whose power of ten is a finite double. -/
def maxExponent : Nat := 308

/-- Whether the product of `significand` and a power of ten, both taken as doubles, is no finite
double: whether it reaches the middle between the greatest finite double and the next power of
two. -/
def exceedsDouble (significand : Nat) (exponent : Int) : Bool :=
  match exponent with
  | .ofNat e =>
    significand != 0 &&
      (maxExponent < e ||
        1 <<< 1024 - 1 <<< 970 ≤ nearestDouble significand * nearestDouble (Nat.pow 10 e))
  | .negSucc _ => false

/-- Puts digits behind a significand for as long as it fits a word of 64 bits: the significand, and
the digits that are left out. -/
def absorbDigits (significand : Nat) : List Char → Nat × List Char
  | [] => (significand, [])
  | c :: rest =>
    let next := significand * 10 + (c.toNat - '0'.toNat)
    if next < UInt64.size then absorbDigits next rest else (significand, c :: rest)

/-- Whether a number is beyond the range of a double, by its digits in front of the point and
behind it, and its exponent. Digits that its significand has no room for are left out. -/
def isBeyondDouble (whole fraction : List Char) (exponent : Int) : Bool :=
  let (significand, dropped) := absorbDigits 0 whole
  let (significand, ignored) := absorbDigits significand fraction
  exceedsDouble significand (exponent + dropped.length - (fraction.length - ignored.length : Nat))

/-- The value of a run of decimal digits. -/
def digitsValue (text : List Char) : Nat := Nat.ofDigitChars 10 text 0

/-- The exponent part of a number, if there is one, and the text behind it: the characters of the
part and the exponent. `none` for a part without digits. -/
def readExponent? (text : List Char) : Option (List Char × Int × List Char) :=
  match text with
  | e :: rest =>
    if e == 'e' || e == 'E' then
      let (sign, unsigned) := match rest with
        | '+' :: more => (['+'], more)
        | '-' :: more => (['-'], more)
        | _ => ([], rest)
      let power := unsigned.takeWhile isAsciiDigit
      let behind := unsigned.dropWhile isAsciiDigit
      if power.isEmpty then none
      else
        let value : Int := digitsValue power
        some (e :: sign ++ power, if sign = ['-'] then -value else value, behind)
    else some ([], 0, text)
  | [] => some ([], 0, [])

/-- The fraction part of a number, if there is one, and the text behind it: its digits. `none` for
a point without digits. -/
def readFraction? (text : List Char) : Option (List Char × List Char) :=
  match text with
  | '.' :: rest =>
    let fraction := rest.takeWhile isAsciiDigit
    if fraction.isEmpty then none else some (fraction, rest.dropWhile isAsciiDigit)
  | _ => some ([], text)

/-- Reads a number. A negative zero is no integer. -/
def readNumber? (text : List Char) : Option (Json × List Char) := do
  let (negative, unsigned) := match text with
    | '-' :: rest => (true, rest)
    | _ => (false, text)
  let whole := unsigned.takeWhile isAsciiDigit
  if whole.isEmpty || (whole.length > 1 && whole.head? == some '0') then none
  let (fraction, rest) ← readFraction? (unsigned.dropWhile isAsciiDigit)
  let (power, exponent, rest) ← readExponent? rest
  let mantissa := digitsValue (whole ++ fraction)
  if isBeyondDouble whole fraction exponent then
    return (.unreadable, rest)
  else if fraction.isEmpty && power.isEmpty && !(negative && mantissa == 0) then
    return (.integer (if negative then -mantissa else mantissa), rest)
  else
    let sign := if negative then ['-'] else []
    let point := if fraction.isEmpty then [] else '.' :: fraction
    return (.decimal (String.ofList (sign ++ whole ++ point ++ power)), rest)

/-! ## Values -/

/-- The object with these fields, the last field first. It is unreadable when a field name is. -/
def objectOf (reversed : List (Option String × Json)) : Json :=
  match reversed.reverse.mapM fun (name, value) => name.map fun name => (name, value) with
  | some fields => .object fields
  | none => .unreadable

mutual
/-- Reads one value and returns the text behind it. The recursion stops at `fuel` calls, of which
each character of the text needs at most two. -/
def readValue? : (fuel : Nat) → List Char → Option (Json × List Char)
  | 0, _ => none
  | fuel + 1, text =>
    match skipSpace text with
    | '"' :: rest =>
      match readString? {} rest with
      | some (some value, rest) => some (.string value, rest)
      | some (none, rest) => some (.unreadable, rest)
      | none => none
    | '[' :: rest =>
      match skipSpace rest with
      | ']' :: rest => some (.array [], rest)
      | rest => readItems? fuel [] rest
    | '\x7b' :: rest =>
      match skipSpace rest with
      | '\x7d' :: rest => some (.object [], rest)
      | rest => readFields? fuel [] rest
    | 'n' :: 'u' :: 'l' :: 'l' :: rest => some (.null, rest)
    | 't' :: 'r' :: 'u' :: 'e' :: rest => some (.bool true, rest)
    | 'f' :: 'a' :: 'l' :: 's' :: 'e' :: rest => some (.bool false, rest)
    | rest => readNumber? rest

/-- Reads the items of an array up to its closing bracket. `done` holds the earlier items, last
first. -/
def readItems? : (fuel : Nat) → (done : List Json) → List Char → Option (Json × List Char)
  | 0, _, _ => none
  | fuel + 1, done, text =>
    match readValue? fuel text with
    | some (value, rest) =>
      match skipSpace rest with
      | ',' :: rest => readItems? fuel (value :: done) rest
      | ']' :: rest => some (.array (value :: done).reverse, rest)
      | _ => none
    | none => none

/-- Reads the fields of an object up to its closing brace. `done` holds the earlier fields, last
first. -/
def readFields? :
    (fuel : Nat) → (done : List (Option String × Json)) → List Char → Option (Json × List Char)
  | 0, _, _ => none
  | fuel + 1, done, text =>
    match skipSpace text with
    | '"' :: rest =>
      match readString? {} rest with
      | some (name, rest) =>
        match skipSpace rest with
        | ':' :: rest =>
          match readValue? fuel rest with
          | some (value, rest) =>
            match skipSpace rest with
            | ',' :: rest => readFields? fuel ((name, value) :: done) rest
            | '\x7d' :: rest => some (objectOf ((name, value) :: done), rest)
            | _ => none
          | none => none
        | _ => none
      | none => none
    | _ => none
end

/-- Reads a text that holds one value and nothing else. -/
def read? (text : String) : Option Json :=
  let chars := text.toList
  match readValue? (2 * chars.length + 2) chars with
  | some (value, rest) => if (skipSpace rest).isEmpty then some value else none
  | none => none

/-- Reads a text that holds one value, all of it readable and nested at most `maxDepth` deep. -/
def parse? (text : String) : Option Json :=
  (read? text).filter fun value => value.isReadable && value.depth ≤ maxDepth

end LinksBinding.Json
