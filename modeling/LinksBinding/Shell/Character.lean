import LinksBinding.Shell.CharWidth
import LinksBinding.Shell.LetterCase
import LinksBinding.Shell.Octets
import LinksBinding.Text.CharClass

/-!
# Characters in octets

Programs that edit or count text read octets as characters, as far as they are some: a character may
have several octets. Octets that belong to no character are kept as strays, so that nothing is lost
when characters are written as octets again. The command language itself, and programs that deal
with bytes, never look at characters.
-/

namespace LinksBinding.Shell

open Text

/-- The number of the stray for the octet 0. Only octets from 128 on can be strays, so all strays are
among the last 128 characters that there are, which nobody writes. -/
def firstStray : Nat := 0x10FF00

/-- Whether a character stands for an octet that belongs to no character. -/
def isStray (c : Char) : Bool := firstStray + 0x80 ≤ c.toNat

/-- What stands for an octet that belongs to no character. -/
def strayFor (octet : Char) : Char := Char.ofNat (firstStray + octet.toNat)

/-- The octets of a character. -/
def octetsOfChar (c : Char) : Octets :=
  if c < '\x80' then [c]
  else if isStray c then [Char.ofNat (c.toNat - firstStray)]
  else octets (String.singleton c)

/-- The octets of characters. -/
def ofCharacters (text : List Char) : Octets :=
  if text.all (· < '\x80') then text else text.flatMap octetsOfChar

/-- How many octets follow the first one of a character. -/
def followers (first : Char) : Nat :=
  if first < '\xC2' then 0 else if first < '\xE0' then 1 else if first < '\xF0' then 2 else 3

/-- The number in several octets, of which all but the first hold six bits of it and the first holds
those that are left to it. -/
def numberInOctets (first : Char) (rest : Octets) : Nat :=
  rest.foldl (fun n c => n * 64 + c.toNat % 64) (first.toNat % (1 <<< (6 - rest.length)))

/-- The characters of octets, last first: `done` are those in front. Octets are one character if the
character is written as they are. -/
def gatherCharacters (done : List Char) : (fuel : Nat) → Octets → List Char
  | 0, _ | _, [] => done
  | fuel + 1, c :: rest =>
    if c < '\x80' then gatherCharacters (c :: done) fuel rest
    else
      let behind := rest.take (followers c)
      let whole := Char.ofNat (numberInOctets c behind)
      if octetsOfChar whole == c :: behind then
        gatherCharacters (whole :: done) fuel (rest.drop behind.length)
      else gatherCharacters (strayFor c :: done) fuel rest

/-- The characters of octets. -/
def characters (data : Octets) : List Char :=
  if data.all (· < '\x80') then data
  else (gatherCharacters [] (data.length + 1) data).reverse

/-! ## Kinds of characters -/

/-- Whether a character is a control character. -/
def isControlCharacter (c : Char) : Bool :=
  isControl c || ('\x80' ≤ c && c < '\xA0') || c == '\u2028' || c == '\u2029'

/-- Whether a character can be printed. -/
def isPrinted (c : Char) : Bool := !isControlCharacter c && !isStray c

/-- Whether a character is white space where a line may be broken. -/
def isSpaceCharacter (c : Char) : Bool :=
  if c < '\x80' then isSpace c
  else isBlank c && !(['\x85', '\xA0', '\u2007', '\u202F'].contains c)

/-- Whether a character is a letter or a digit. -/
def isLetterOrDigit (c : Char) : Bool :=
  if c < '\x80' then c.isAlphanum else isLetter c || Text.isDigit c

/-- Whether a character is a part of a word. -/
def isWordPart (c : Char) : Bool := isLetterOrDigit c || c == '_'

/-- Whether a character belongs to a class, by the name of the class. -/
def isInClass (name : String) (c : Char) : Bool :=
  if c < '\x80' then (classMember? name c).getD false
  else match name with
    | "alpha" | "alnum" => isLetterOrDigit c
    | "upper" => smallForm c != c
    | "lower" => capitalForm c != c
    | "space" => isSpaceCharacter c
    | "blank" => isSpaceCharacter c && !isControlCharacter c
    | "cntrl" => isControlCharacter c
    | "print" => isPrinted c
    | "graph" => isPrinted c && !isSpaceCharacter c
    | "punct" => isPrinted c && !isSpaceCharacter c && !isLetterOrDigit c
    | _ => false

/-- How many columns a character takes. -/
def widthOf (c : Char) : Nat :=
  if !isPrinted c || inRanges weightlessRanges c.toNat then 0
  else if inRanges wideRanges c.toNat then 2
  else 1

end LinksBinding.Shell
