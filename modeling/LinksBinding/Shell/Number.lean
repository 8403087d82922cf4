import LinksBinding.Shell.Octets

/-!
# Numbers with fractions

Reading and writing doubles. A finite double is a natural number times a power of two, so its
decimal forms are found in exact arithmetic: a form with some number of places is the multiple of
the last place that is nearest, and of two equally near ones the even one.
-/

namespace LinksBinding.Shell

open Text

/-! ## Reading -/

/-- The decimal number at the start of a text without a sign, and what follows: its digits as one
number, and the power of ten that goes with it. `none` without a digit. -/
def readScientific? (text : Octets) : Option ((Nat × Int) × Octets) :=
  let whole := text.takeWhile Char.isDigit
  let rest := text.drop whole.length
  let (fraction, rest) := match rest with
    | '.' :: more =>
      let fraction := more.takeWhile Char.isDigit
      if whole.isEmpty && fraction.isEmpty then ([], rest)
      else (fraction, more.drop fraction.length)
    | _ => ([], rest)
  if whole.isEmpty && fraction.isEmpty then none
  else
    let mantissa := numberIn 10 (whole ++ fraction)
    let (power, rest) := match rest with
      | e :: more =>
        if e == 'e' || e == 'E' then
          let (negative, unsigned) := match more with
            | '-' :: more => (true, more)
            | '+' :: more => (false, more)
            | more => (false, more)
          let digits := unsigned.takeWhile Char.isDigit
          if digits.isEmpty then ((0 : Int), rest)
          else
            let n : Int := numberIn 10 (digits.take 6)
            (if negative then -n else n, unsigned.drop digits.length)
        else (0, rest)
      | [] => (0, rest)
    some ((mantissa, power - fraction.length), rest)

/-- A natural number times a power of ten as a double. -/
def scientific (mantissa : Nat) (power : Int) : Float :=
  if power < 0 then Float.ofScientific mantissa true power.natAbs
  else if 400 < power && mantissa != 0 then 1.0 / 0.0
  else Float.ofScientific mantissa false power.natAbs

/-- The names of numbers without digits. -/
def namedNumber? (text : Octets) : Option (Float × Octets) :=
  let lower := text.map Char.toLower
  if "infinity".toList.isPrefixOf lower then some (1.0 / 0.0, text.drop 8)
  else if "inf".toList.isPrefixOf lower then some (1.0 / 0.0, text.drop 3)
  else if "nan".toList.isPrefixOf lower then some (0.0 / 0.0, text.drop 3)
  else none

/-- The number at the start of a text, behind white space and a sign, and what follows. `none`
without a number. -/
def readFloat? (text : Octets) : Option (Float × Octets) :=
  let body := text.dropWhile isSpace
  let (negative, unsigned) := match body with
    | '-' :: rest => (true, rest)
    | '+' :: rest => (false, rest)
    | rest => (false, rest)
  let found : Option (Float × Octets) := match unsigned with
    | '0' :: x :: c :: rest =>
      if (x == 'x' || x == 'X') && isDigitOf 16 c then
        let digits := (c :: rest).takeWhile (isDigitOf 16)
        some (Float.ofNat (numberIn 16 digits), (c :: rest).drop digits.length)
      else (readScientific? unsigned).map fun ((m, e), rest) => (scientific m e, rest)
    | _ =>
      ((readScientific? unsigned).map fun ((m, e), rest) => (scientific m e, rest)) <|>
        namedNumber? unsigned
  found.map fun (n, rest) => (if negative then -n else n, rest)

/-! ## Writing -/

/-- A double as what it stands for. -/
inductive Decoded where
  /-- `mantissa · 2 ^ exponent`, with its sign -/
  | finite (negative : Bool) (mantissa : Nat) (exponent : Int)
  /-- a number beyond all others -/
  | infinite (negative : Bool)
  /-- no number -/
  | none (negative : Bool)
  deriving DecidableEq, Repr

/-- Decodes a double. -/
def decodeFloat (x : Float) : Decoded :=
  let bits := x.toBits.toNat
  let negative := 1 <<< 63 ≤ bits
  let exponent := (bits >>> 52) % 2048
  let fraction := bits % (1 <<< 52)
  if exponent == 2047 then if fraction == 0 then .infinite negative else .none negative
  else if exponent == 0 then .finite negative fraction (-1074)
  else .finite negative (fraction + 1 <<< 52) (exponent - 1075)

/-- `mantissa · 2 ^ exponent` as a fraction. -/
def asFraction (mantissa : Nat) (exponent : Int) : Nat × Nat :=
  if exponent < 0 then (mantissa, 1 <<< exponent.natAbs) else (mantissa <<< exponent.natAbs, 1)

/-- The natural number nearest to a fraction, of two equally near ones the even one. -/
def roundFraction (num den : Nat) : Nat :=
  let whole := num / den
  let twice := 2 * (num % den)
  if den < twice || (twice == den && whole % 2 == 1) then whole + 1 else whole

/-- A fraction times a power of ten, rounded. -/
def roundScaled (num den : Nat) (power : Int) : Nat :=
  if power < 0 then roundFraction num (den * Nat.pow 10 power.natAbs)
  else roundFraction (num * Nat.pow 10 power.natAbs) den

/-- The digits of a number with a point in front of the last `places`. -/
def pointed (n places : Nat) (alternate : Bool) : Octets :=
  let figures := digits n
  let figures := List.replicate (places + 1 - figures.length) '0' ++ figures
  let whole := figures.take (figures.length - places)
  let fraction := figures.drop (figures.length - places)
  if places == 0 && !alternate then whole else whole ++ '.' :: fraction

/-- The power of ten of the first digit of a fraction that is not zero. -/
def leadingPower (num den : Nat) : Int :=
  let guess : Int := (digits num).length - (digits den).length
  let reached :=
    if guess < 0 then den ≤ num * Nat.pow 10 guess.natAbs
    else den * Nat.pow 10 guess.natAbs ≤ num
  if reached then guess else guess - 1

/-- The digits of a fraction, `places + 1` of them, as one number, and the power of ten of the first
one. -/
def leadingDigits (num den places : Nat) : Nat × Int :=
  if num == 0 then (0, 0)
  else
    let power := leadingPower num den
    let n := roundScaled num den (places - power)
    if Nat.pow 10 (places + 1) ≤ n then (n / 10, power + 1) else (n, power)

/-- An exponent with its sign and at least two digits. -/
def exponentText (mark : Char) (power : Int) : Octets :=
  let figures := digits power.natAbs
  mark :: (if power < 0 then '-' else '+') :: List.replicate (2 - figures.length) '0' ++ figures

/-- A fraction with its point behind the first digit. -/
def scientificText (mark : Char) (num den places : Nat) (alternate : Bool) : Octets :=
  let (n, power) := leadingDigits num den places
  pointed n places alternate ++ exponentText mark power

/-- Text without the zeros at its end, and without a point there. -/
def dropFinalZeros (text : Octets) : Octets :=
  if text.contains '.' then
    match text.reverse.dropWhile (· == '0') with
    | '.' :: rest => rest.reverse
    | rest => rest.reverse
  else text

/-- A fraction with so many digits that count, in the shorter of both forms. -/
def generalText (mark : Char) (num den figures : Nat) (alternate : Bool) : Octets :=
  let figures := max figures 1
  let (n, power) := leadingDigits num den (figures - 1)
  let trim (text : Octets) : Octets := if alternate then text else dropFinalZeros text
  if power < -4 || (figures : Int) ≤ power then
    trim (pointed n (figures - 1) alternate) ++ exponentText mark power
  else
    let places := (figures - 1 - power).toNat
    trim (pointed (roundScaled num den places) places alternate)

/-- The text of a double without its sign, by a conversion of formats; and whether it is negative,
and whether it has digits. -/
def floatText (conversion : Char) (precision : Option Nat) (alternate : Bool) (x : Float) :
    Octets × Bool × Bool :=
  let upper := conversion.isUpper
  let shown (text : String) : Octets := if upper then text.toList.map Char.toUpper else text.toList
  match decodeFloat x with
  | .infinite negative => (shown "inf", negative, false)
  | .none negative => (shown "nan", negative, false)
  | .finite negative mantissa exponent =>
    let (num, den) := asFraction mantissa exponent
    let places := precision.getD 6
    let mark := if upper then 'E' else 'e'
    let text := match conversion.toLower with
      | 'f' => pointed (roundScaled num den places) places alternate
      | 'e' => scientificText mark num den places alternate
      | _ => generalText mark num den places alternate
    (text, negative, true)

end LinksBinding.Shell
