import LinksBinding.Shell.Number

/-!
# Writing by a format

What `echo` and `printf` write: escapes are resolved, and directives of a format replaced by
arguments. A format is used again until no argument is left.
-/

namespace LinksBinding.Shell

/-! ## Escapes -/

/-- The character of an escape by one letter. -/
def shortEscape? : Char → Option Char
  | 'a' => some '\x07'
  | 'b' => some '\x08'
  | 'e' => some '\x1b'
  | 'f' => some '\x0c'
  | 'n' => some '\n'
  | 'r' => some '\r'
  | 't' => some '\t'
  | 'v' => some '\x0b'
  | '\\' => some '\\'
  | _ => none

/-- The octal digits at the start of a text, at most `limit`, as a character, and what follows. -/
def octalEscape (limit : Nat) (text : Octets) : Char × Octets :=
  let figures := (text.take limit).takeWhile isOctalDigit
  (Char.ofNat (numberIn 8 figures % 256), text.drop figures.length)

/-- How escapes are written. -/
structure EscapeForm where
  /-- whether a zero stands in front of up to three octal digits -/
  zero : Bool := false
  /-- whether hexadecimal digits and quotes can be escaped -/
  wide : Bool := false

/-- What the escape behind a backslash stands for, and what follows. What is no escape is the
backslash itself. -/
def escapeAt (form : EscapeForm) (text : Octets) : Octets × Octets :=
  match text with
  | [] => (['\\'], [])
  | c :: rest =>
    match shortEscape? c with
    | some d => ([d], rest)
    | none =>
      if isOctalDigit c then
        let (d, rest) := if form.zero && c == '0' then octalEscape 3 rest else octalEscape 3 text
        ([d], rest)
      else if form.wide && (c == '"' || c == '\'') then ([c], rest)
      else if form.wide && c == 'x' && rest.head?.any (isDigitOf 16) then
        let figures := (rest.take 2).takeWhile (isDigitOf 16)
        ([Char.ofNat (numberIn 16 figures)], rest.drop figures.length)
      else (['\\'], text)

/-- A text with its escapes resolved, behind `front`, whose last character comes first; and whether
output goes on behind it. -/
def unescapeFrom (form : EscapeForm) :
    (fuel : Nat) → (front : Octets) → Octets → Octets × Bool
  | 0, front, _ | _, front, [] => (front.reverse, true)
  | fuel + 1, front, '\\' :: rest =>
    if rest.head? == some 'c' then (front.reverse, false)
    else
      let (data, rest) := escapeAt form rest
      unescapeFrom form fuel (data.reverse ++ front) rest
  | fuel + 1, front, c :: rest => unescapeFrom form fuel (c :: front) rest

/-- A text with its escapes resolved, and whether output goes on behind it. -/
def unescape (form : EscapeForm) (text : Octets) : Octets × Bool :=
  unescapeFrom form (text.length + 1) [] text

/-- What the command `echo` of scripts writes. -/
def echoText (arguments : List Octets) : Octets :=
  let bare := arguments.head?.map nameOf == some "-n"
  let (data, goesOn) :=
    unescape { zero := true } (joined (if bare then arguments.drop 1 else arguments))
  if bare || !goesOn then data else data ++ ['\n']

/-- Whether a word is a word of options of the program `echo`. -/
def isEchoOption (word : Octets) : Bool :=
  match word with
  | '-' :: c :: rest => (c :: rest).all fun c => c == 'n' || c == 'e' || c == 'E'
  | _ => false

/-- What the program `echo` writes: it resolves escapes only if it is told to. -/
def plainEchoText (arguments : List Octets) : Octets :=
  let options := arguments.takeWhile isEchoOption
  let letters := options.flatten.filter (· != '-')
  let data := joined (arguments.drop options.length)
  let escapes := (letters.filter (· != 'n')).getLast? == some 'e'
  let (data, goesOn) := if escapes then unescape ⟨true, true⟩ data else (data, true)
  if letters.contains 'n' || !goesOn then data else data ++ ['\n']

/-! ## Directives -/

/-- A directive of a format. -/
structure Directive where
  /-- its flags -/
  flags : Octets := []
  /-- the least number of bytes that it writes -/
  width : Nat := 0
  /-- the number of places, digits or bytes of its argument that it writes -/
  precision : Option Nat := none
  /-- what it writes of its argument -/
  conversion : Char

namespace Directive

/-- Whether a directive has a flag. -/
def has (d : Directive) (flag : Char) : Bool := d.flags.contains flag

/-- Text brought to the width of a directive. -/
def fill (d : Directive) (data : Octets) : Octets :=
  let missing := List.replicate (d.width - data.length) ' '
  if d.has '-' then data ++ missing else missing ++ data

/-- Figures behind a sign, brought to the width of a directive: zeros that fill it stand behind the
sign. -/
def fillNumber (d : Directive) (zeros : Bool) (sign figures : Octets) : Octets :=
  if zeros && d.has '0' && !d.has '-' then
    sign ++ List.replicate (d.width - sign.length - figures.length) '0' ++ figures
  else d.fill (sign ++ figures)

/-- The sign of a number. -/
def signOf (d : Directive) (negative : Bool) : Octets :=
  if negative then ['-'] else if d.has '+' then ['+'] else if d.has ' ' then [' '] else []

/-- Figures brought to the precision of a directive. -/
def padFigures (d : Directive) (figures : Octets) : Octets :=
  List.replicate (d.precision.getD 1 - figures.length) '0' ++ figures

/-- Writes a number with its sign. -/
def integer (d : Directive) (n : Int) : Octets :=
  let figures := if n == 0 && d.precision == some 0 then [] else Text.digits n.natAbs
  d.fillNumber d.precision.isNone (d.signOf (n < 0)) (d.padFigures figures)

/-- Writes a natural number in the base of a directive. -/
def natural (d : Directive) (n : Nat) : Octets :=
  let base := match d.conversion with
    | 'o' => 8
    | 'x' | 'X' => 16
    | _ => 10
  let figures := if n == 0 && d.precision == some 0 then [] else digitsIn base n
  let figures := d.padFigures figures
  let figures :=
    if d.conversion == 'o' && d.has '#' && figures.head? != some '0' then '0' :: figures
    else figures
  let lead : Octets := if d.has '#' && base == 16 && n != 0 then ['0', 'x'] else []
  let shown := d.fillNumber d.precision.isNone lead figures
  if d.conversion == 'X' then shown.map Char.toUpper else shown

/-- Writes a number with a fraction. -/
def real (d : Directive) (x : Float) : Octets :=
  let (figures, negative, finite) := floatText d.conversion d.precision (d.has '#') x
  d.fillNumber finite (d.signOf negative) figures

/-- Writes a text. -/
def text (d : Directive) (data : Octets) : Octets :=
  d.fill (match d.precision with
    | some limit => data.take limit
    | none => data)

end Directive

/-- Whether a character is a flag of a directive. -/
def isFlag (c : Char) : Bool := c == '-' || c == '0' || c == '+' || c == ' ' || c == '#'

/-! ## Arguments as numbers -/

/-- What is wrong with an argument. -/
inductive ArgumentError where
  /-- it is no number -/
  | notNumeric
  /-- something stands behind the number -/
  | notComplete
  /-- it is too large -/
  | outOfRange
  deriving DecidableEq, Repr

/-- The wording of an argument error. -/
def ArgumentError.message : ArgumentError → String
  | .notNumeric => "expected numeric value"
  | .notComplete => "not completely converted"
  | .outOfRange => "Numerical result out of range"

/-- The number that an argument is, or that it starts with, and what is wrong with it. -/
def argumentInt (signed : Bool) (data : Octets) : Int × Option ArgumentError :=
  match data with
  | [] => (0, none)
  | '\'' :: c :: _ | '"' :: c :: _ => (c.toNat, none)
  | data =>
    let body := data.dropWhile isSpace
    let (negative, figures) := match body with
      | '-' :: rest => (true, rest)
      | '+' :: rest => (false, rest)
      | rest => (false, rest)
    let (base, start) := match figures with
      | '0' :: x :: c :: rest =>
        if (x == 'x' || x == 'X') && isDigitOf 16 c then (16, c :: rest) else (8, figures)
      | '0' :: _ => (8, figures)
      | _ => (10, figures)
    let digits := start.takeWhile (isDigitOf base)
    let rest := start.drop digits.length
    let n : Int := if negative then -(numberIn base digits : Int) else numberIn base digits
    let least : Int := if signed then leastWord else -(UInt64.size : Int)
    let most : Int := if signed then greatestWord else UInt64.size - 1
    let clamped := max least (min most n)
    if digits.isEmpty then (0, some .notNumeric)
    else if clamped != n then (if signed then clamped else most, some .outOfRange)
    else (clamped, if rest.isEmpty then none else some .notComplete)

/-- The number with a fraction that an argument is, and what is wrong with it. -/
def argumentFloat (data : Octets) : Float × Option ArgumentError :=
  match data with
  | [] => (0, none)
  | '\'' :: c :: _ | '"' :: c :: _ => (Float.ofNat c.toNat, none)
  | data =>
    match readFloat? data with
    | some (x, rest) => (x, if rest.isEmpty then none else some .notComplete)
    | none => (0, some .notNumeric)

/-! ## Formats -/

/-- What a format has written, and what it has found wrong. -/
structure Formatted where
  /-- what is written, last piece first -/
  pieces : List Octets := []
  /-- messages, last first -/
  messages : List Octets := []
  /-- the arguments that are left -/
  arguments : List Octets
  /-- whether an argument was asked for -/
  asked : Bool := false
  /-- whether nothing more is written -/
  stopped : Bool := false
  /-- whether the format cannot be used -/
  broken : Bool := false

namespace Formatted

/-- Writes a piece. -/
def write (f : Formatted) (data : Octets) : Formatted := { f with pieces := data :: f.pieces }

/-- Takes the next argument. -/
def next (f : Formatted) : Octets × Formatted :=
  (f.arguments.headD [], { f with arguments := f.arguments.drop 1, asked := true })

/-- Tells what is wrong with an argument. -/
def blame (f : Formatted) (data : Octets) : Option ArgumentError → Formatted
  | none => f
  | some error => { f with messages := (data ++ octets (": " ++ error.message)) :: f.messages }

/-- Stops at a directive that is none. -/
def reject (f : Formatted) (message : Octets) : Formatted :=
  { f with messages := message :: f.messages, stopped := true, broken := true }

/-- All that is written. -/
def data (f : Formatted) : Octets := f.pieces.reverse.flatten

end Formatted

/-- A number of a directive: digits, or a star for an argument; and what follows. -/
def directiveNumber (text : Octets) (f : Formatted) : Option Int × Octets × Formatted :=
  match text with
  | '*' :: rest =>
    let (data, f) := f.next
    let (n, error) := argumentInt true data
    (some n, rest, f.blame data error)
  | _ =>
    let figures := text.takeWhile Char.isDigit
    (if figures.isEmpty then none else some (numberIn 10 figures), text.drop figures.length, f)

/-- The most bytes that the width of a directive asks for. -/
def widestDirective : Nat := 1 <<< 20

/-- Writes what a directive says, whose conversion is read. -/
def applyDirective (wide : Bool) (d : Directive) (shown : Octets) (f : Formatted) : Formatted :=
  match d.conversion with
  | 'd' | 'i' =>
    let (data, f) := f.next
    let (n, error) := argumentInt true data
    (f.blame data error).write (d.integer n)
  | 'u' | 'o' | 'x' | 'X' =>
    let (data, f) := f.next
    let (n, error) := argumentInt false data
    (f.blame data error).write (d.natural (n.emod UInt64.size).toNat)
  | 'e' | 'E' | 'f' | 'F' | 'g' | 'G' =>
    let (data, f) := f.next
    let (x, error) := argumentFloat data
    (f.blame data error).write (d.real x)
  | 'c' =>
    let (data, f) := f.next
    f.write (d.fill (if data.isEmpty then [Char.ofNat 0] else data.take 1))
  | 's' =>
    let (data, f) := f.next
    f.write (d.text data)
  | 'b' =>
    let (data, f) := f.next
    let (data, goesOn) := unescape { zero := true, wide } data
    { f.write (d.text data) with stopped := !goesOn }
  | _ => f.reject (shown ++ octets ": invalid directive")

/-- Reads a directive behind its percent sign and writes what it says; and what follows it. -/
def formatDirective (wide : Bool) (text : Octets) (f : Formatted) : Formatted × Octets :=
  let flags := text.takeWhile isFlag
  let (width, rest, f) := directiveNumber (text.drop flags.length) f
  let (precision, rest, f) := match rest with
    | '.' :: rest =>
      let (precision, rest, f) := directiveNumber rest f
      (some (precision.getD 0), rest, f)
    | rest => (none, rest, f)
  let negative := width.any (· < 0)
  let width := min (width.getD 0).natAbs widestDirective
  let precision := precision.bind fun n => if n < 0 then none else some n.toNat
  match rest with
  | conversion :: rest =>
    let shown := '%' :: text.take (text.length - rest.length)
    (applyDirective wide
      ⟨if negative then '-' :: flags else flags, width, precision, conversion⟩ shown f, rest)
  | [] => (f.reject (octets "missing format character"), [])

/-- One pass over a format. -/
def formatOnce (wide : Bool) : (fuel : Nat) → Octets → Formatted → Formatted
  | 0, _, f | _, [], f => f
  | fuel + 1, c :: rest, f =>
    if f.stopped then f
    else match c, rest with
      | '%', '%' :: rest => formatOnce wide fuel rest (f.write ['%'])
      | '%', rest =>
        let (f, rest) := formatDirective wide rest f
        formatOnce wide fuel rest f
      | '\\', 'c' :: rest =>
        if wide then { f with stopped := true }
        else formatOnce wide fuel rest (f.write ['\\', 'c'])
      | '\\', rest =>
        let (data, rest) := escapeAt { wide } rest
        formatOnce wide fuel rest (f.write data)
      | c, rest => formatOnce wide fuel rest (f.write [c])

/-- All passes over a format: it is used until all arguments are. -/
def formatAll (wide : Bool) (format : Octets) : (fuel : Nat) → Formatted → Formatted
  | 0, f => f
  | fuel + 1, f =>
    let f := formatOnce wide (format.length + 1) format { f with asked := false }
    if f.stopped || !f.asked || f.arguments.isEmpty then f else formatAll wide format fuel f

/-- Writes arguments by a format. -/
def formatArguments (wide : Bool) (format : Octets) (arguments : List Octets) : Formatted :=
  formatAll wide format (arguments.length + 1) { arguments }

end LinksBinding.Shell
