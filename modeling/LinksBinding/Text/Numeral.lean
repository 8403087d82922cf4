import LinksBinding.Text.Trim

/-!
# Numerals with fractions

Whether the text of a constant is a number. Accepted are decimal numerals with an optional sign,
fraction and exponent, in which the digits before or after the point may be missing but not both,
and the words for infinity and not-a-number in any case.
-/

namespace LinksBinding.Text

/-- The lower case of an ASCII letter. -/
def asciiLower (c : Char) : Char := c.toLower

/-- The words that count as numbers. -/
def numberWords : List String := ["inf", "infinity", "nan"]

/-- Whether the text is the exponent part of a numeral, or empty. -/
def isExponentPart : List Char → Bool
  | [] => true
  | e :: rest =>
    let power := match rest with
      | '+' :: more | '-' :: more => more
      | _ => rest
    (e == 'e' || e == 'E') && !power.isEmpty && power.all isAsciiDigit

/-- Whether the text is a numeral without a sign. -/
def isUnsignedNumeral (text : List Char) : Bool :=
  let whole := text.takeWhile isAsciiDigit
  match text.dropWhile isAsciiDigit with
  | '.' :: rest =>
    let fraction := rest.takeWhile isAsciiDigit
    !(whole.isEmpty && fraction.isEmpty) && isExponentPart (rest.dropWhile isAsciiDigit)
  | rest => !whole.isEmpty && isExponentPart rest

/-- Whether the text is a number. -/
def isNumeral (text : List Char) : Bool :=
  let unsigned := match text with
    | '+' :: rest | '-' :: rest => rest
    | _ => text
  isUnsignedNumeral unsigned || numberWords.contains (String.ofList (unsigned.map asciiLower))

end LinksBinding.Text
