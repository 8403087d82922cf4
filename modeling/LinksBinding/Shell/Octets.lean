import LinksBinding.Text.Decimal
import LinksBinding.Text.Utf8

/-!
# Octets

Scripts, files and arguments are runs of bytes, which need not be text. They are written here as
lists of characters, one for each byte: the character whose number the byte is. So scripts can be
read by pattern matching, and nothing is lost of what is no text.

Characters are classified and compared as in the plain locale, where only those below 128 are
letters.
-/

namespace LinksBinding.Shell

open Text

/-- A run of bytes, each as the character whose number it is. -/
abbrev Octets := List Char

/-- The octets of a text. -/
def octets (text : String) : Octets := (encodeUtf8 text).map fun b => Char.ofNat b.toNat

namespace Octets

/-- The bytes of octets. -/
def toBytes (data : Octets) : Bytes := data.map fun c => .ofNat c.toNat

/-- The text of octets. -/
def toText (data : Octets) : String := decodeUtf8 data.toBytes

/-- Whether octets come before others in ascending order, or are the same. -/
def notAfter (a b : Octets) : Bool := !decide (b < a)

end Octets

/-- Octets as a key to compare with names. -/
def nameOf (data : Octets) : String := .ofList data

/-! ## Characters -/

/-- White space between the words of a line. -/
def isGap (c : Char) : Bool := c == ' ' || c == '\t'

/-- White space of any kind. -/
def isSpace (c : Char) : Bool :=
  c == ' ' || c == '\t' || c == '\n' || c == '\r' || c == '\x0b' || c == '\x0c'

/-- What the name of a variable starts with. -/
def startsName (c : Char) : Bool := c.isAlpha || c == '_'

/-- What the name of a variable goes on with. -/
def isNamePart (c : Char) : Bool := c.isAlphanum || c == '_'

/-- Whether octets are the name of a variable. -/
def isName (data : Octets) : Bool := data.head?.any startsName && data.all isNamePart

/-- Whether a character is an octal digit. -/
def isOctalDigit (c : Char) : Bool := '0' ≤ c && c ≤ '7'

/-- The value of a digit in some base up to 36. -/
def digitValue? (c : Char) : Option Nat :=
  if '0' ≤ c && c ≤ '9' then some (c.toNat - '0'.toNat)
  else if 'a' ≤ c && c ≤ 'z' then some (c.toNat - 'a'.toNat + 10)
  else if 'A' ≤ c && c ≤ 'Z' then some (c.toNat - 'A'.toNat + 10)
  else none

/-- Whether a character is a digit of a base. -/
def isDigitOf (base : Nat) (c : Char) : Bool := (digitValue? c).any (· < base)

/-- Whether a character is punctuation. -/
def isPunctuation (c : Char) : Bool := '!' ≤ c && c ≤ '~' && !c.isAlphanum

/-- Whether a character is a control character. -/
def isControl (c : Char) : Bool := c < ' ' || c == '\x7f'

/-- Whether a character belongs to a class, by the name of the class; `none` for no name. -/
def classMember? (name : String) (c : Char) : Option Bool :=
  match name with
  | "alpha" => some c.isAlpha
  | "digit" => some c.isDigit
  | "alnum" => some c.isAlphanum
  | "upper" => some c.isUpper
  | "lower" => some c.isLower
  | "space" => some (isSpace c)
  | "blank" => some (isGap c)
  | "punct" => some (isPunctuation c)
  | "cntrl" => some (isControl c)
  | "print" => some (' ' ≤ c && c ≤ '~')
  | "graph" => some ('!' ≤ c && c ≤ '~')
  | "xdigit" => some (isDigitOf 16 c)
  | _ => none

/-- All characters that a byte can be, in order. -/
def allOctets : Octets := (List.range 256).map Char.ofNat

/-! ## Numbers -/

/-- The written form of a number. -/
def decimal (n : Int) : Octets := (toString n).toList

/-- The number that digits of a base are, as far as there are any. -/
def numberIn (base : Nat) (digits : Octets) : Nat :=
  digits.foldl (fun n c => n * base + (digitValue? c).getD 0) 0

/-- The digits of a number in a base. -/
def digitsIn (base n : Nat) : Octets := Nat.toDigits base n

/-- A number that is cut to a signed word of 64 bits. -/
def wrapWord (n : Int) : Int := n.bmod UInt64.size

/-- The least number that a signed word of 64 bits holds. -/
def leastWord : Int := -(1 <<< 63)

/-- The greatest number that a signed word of 64 bits holds. -/
def greatestWord : Int := (1 <<< 63) - 1

/-- The natural number that octets are. -/
def natOf? (data : Octets) : Option Nat := readDigits? data

/-- The number that octets are, with an optional sign and white space around it. -/
def intOf? (data : Octets) : Option Int :=
  let body := (data.dropWhile isSpace).reverse.dropWhile isSpace |>.reverse
  match body with
  | '-' :: rest => (readDigits? rest).map fun n => -(n : Int)
  | '+' :: rest => (readDigits? rest).map Int.ofNat
  | rest => (readDigits? rest).map Int.ofNat

/-! ## Lines and pieces -/

/-- Octets with a separator between them. -/
def joinWith (separator : Octets) (pieces : List Octets) : Octets := separator.intercalate pieces

/-- Octets with blanks between them. -/
def joined (pieces : List Octets) : Octets := joinWith [' '] pieces

/-- Lines without their line feeds, last first: `line` is the line that is begun, its last character
first. -/
def gatherLines (closing : Char) (done : List Octets) (line : Octets) : Octets → List Octets
  | [] => if line.isEmpty then done else line.reverse :: done
  | c :: rest =>
    if c == closing then gatherLines closing (line.reverse :: done) [] rest
    else gatherLines closing done (c :: line) rest

/-- The records of octets, each closed by a character that is left out. What is not closed is a
record too, unless it is empty. -/
def recordsOf (closing : Char) (data : Octets) : List Octets :=
  (gatherLines closing [] [] data).reverse

/-- The lines of octets, without their line feeds. -/
def linesOf (data : Octets) : List Octets := recordsOf '\n' data

/-- Lines with a line feed behind each. -/
def unlines (lines : List Octets) : Octets := lines.flatMap (· ++ ['\n'])

/-- Whether octets end in a line feed. -/
def isClosed (data : Octets) : Bool := data.getLast? == some '\n'

/-- Octets without the line feeds at their end. -/
def dropFinalFeeds (data : Octets) : Octets := (data.reverse.dropWhile (· == '\n')).reverse

/-- The words of octets between white space. -/
def wordsOf (data : Octets) : List Octets := (data.splitOnP isSpace).filter (!·.isEmpty)

/-- Whether octets begin with others. -/
def startsWith (start data : Octets) : Bool := start.isPrefixOf data

/-- Whether octets end with others. -/
def endsWith (ending data : Octets) : Bool := ending.isSuffixOf data

/-- Where octets first occur in others. -/
def indexIn? (piece : Octets) : Octets → Option Nat
  | [] => if piece.isEmpty then some 0 else none
  | c :: rest =>
    if piece.isPrefixOf (c :: rest) then some 0 else (indexIn? piece rest).map (· + 1)

/-- Octets in front of a character and behind it. -/
def cutAtChar? (c : Char) (data : Octets) : Option (Octets × Octets) :=
  match data.dropWhile (· != c) with
  | _ :: rest => some (data.takeWhile (· != c), rest)
  | [] => none

end LinksBinding.Shell
