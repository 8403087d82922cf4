import LinksBinding.Shell.Regex
import LinksBinding.Shell.Utility.Options
import LinksBinding.Shell.Writing

/-!
# Numbers and waiting

The programs that count, calculate and wait: `seq`, `expr` and `sleep`.
-/

namespace LinksBinding.Shell

open Session

/-! ## Sequences -/

/-- A number as it is written. -/
structure WrittenNumber where
  /-- its digits without the point -/
  mantissa : Int
  /-- how many of them stand behind the point -/
  places : Nat
  /-- how many places are shown -/
  precision : Nat
  /-- how many characters it takes -/
  width : Nat

/-- Ten, as many times as a factor. -/
def tenTimes (count : Nat) : Nat := numberIn 10 ('1' :: List.replicate count '0')

/-- The number that octets are. -/
def writtenNumber? (text : Octets) : Option WrittenNumber := do
  let negative := text.head? == some '-'
  let body := if negative || text.head? == some '+' then text.drop 1 else text
  let sign : Int := if negative then -1 else 1
  let signWidth := if negative then 1 else 0
  match body with
  | '0' :: x :: rest =>
    if (x == 'x' || x == 'X') && !rest.isEmpty && rest.all (isDigitOf 16) then
      return ⟨sign * numberIn 16 rest, 0, 0, signWidth + body.length⟩
  | _ => pure ()
  let whole := body.takeWhile Char.isDigit
  let rest := body.drop whole.length
  let (part, rest) := match rest with
    | '.' :: rest => (rest.takeWhile Char.isDigit, rest.dropWhile Char.isDigit)
    | rest => ([], rest)
  if whole.isEmpty && part.isEmpty then none
  let exponent ← match rest with
    | [] => some 0
    | e :: rest => if e == 'e' || e == 'E' then intOf? rest else none
  let digits := numberIn 10 (whole ++ part)
  let width := signWidth + body.length + if whole.isEmpty then 1 else 0
  let places : Int := part.length - exponent
  if exponent.natAbs > 400 then none
  if 0 ≤ places then
    return ⟨sign * digits, places.toNat, places.toNat, width⟩
  else return ⟨sign * digits * tenTimes (-places).toNat, 0, 0, width⟩

namespace WrittenNumber

/-- The digits of the number with more places. -/
def scaled (n : WrittenNumber) (places : Nat) : Int := n.mantissa * tenTimes (places - n.places)

end WrittenNumber

/-- The written form of a number with a point in front of its last places, of which some are shown;
zeros in front fill it up to a width. -/
def decimalText (n : Int) (places precision width : Nat) : Octets :=
  let shown := n.natAbs / tenTimes (places - precision)
  let figures := Text.digits shown
  let figures := List.replicate (precision + 1 - figures.length) '0' ++ figures
  let whole := figures.take (figures.length - precision)
  let part := figures.drop (figures.length - precision)
  let body := if precision == 0 then whole else whole ++ '.' :: part
  let sign := if n < 0 then ['-'] else []
  sign ++ List.replicate (width - sign.length - body.length) '0' ++ body

/-- The conversions of a format; `none` for one that is missing at its end. -/
def directives : (fuel : Nat) → Octets → List (Option Char)
  | 0, _ | _, [] => []
  | fuel + 1, '%' :: '%' :: rest => directives fuel rest
  | fuel + 1, '%' :: rest =>
    let rest := rest.dropWhile fun c => (octets "-+ #0'123456789.").contains c
    let rest := if rest.head? == some 'L' then rest.drop 1 else rest
    rest.head? :: directives fuel (rest.drop 1)
  | fuel + 1, _ :: rest => directives fuel rest

/-- Why a format is no format for a number. -/
def formatError? (format : Octets) : Option Octets :=
  let shown := octets "format " ++ cited format
  match directives (format.length + 1) format with
  | [] => some (shown ++ octets " has no % directive")
  | [some c] =>
    if (octets "aefgAEFG").contains c then none
    else some (shown ++ octets " has unknown %" ++ [c] ++ octets " directive")
  | [none] => some (shown ++ octets " ends in %")
  | _ => some (shown ++ octets " has too many % directives")

/-- Words with those that look like negative numbers kept from being options. -/
def withNegatives : List Octets → List Octets
  | [] => []
  | word :: rest =>
    match word with
    | '-' :: c :: _ =>
      if c.isDigit || c == '.' then ['-', '-'] :: word :: rest
      else if word == ['-', '-'] then word :: rest
      else if word == ['-', 's'] || word == ['-', 'f'] then
        match rest with
        | value :: rest => word :: value :: withNegatives rest
        | [] => [word]
      else word :: withNegatives rest
    | _ => ['-', '-'] :: word :: rest

/-- Writes several pieces with a separator between them, some at a time. -/
def putPieces (separator : Octets) (piece : Nat → Octets) (count : Nat) :
    (fuel : Nat) → (index : Nat) → Session Unit
  | 0, _ => return ()
  | fuel + 1, index => do
    if index < count && (← goesOn) then
      let size := min 500 (count - index)
      let pieces := (List.range size).map fun n =>
        (if index + n == 0 then [] else separator) ++ piece (index + n)
      put pieces.flatten
      putPieces separator piece count fuel (index + size)

/-- The longest sequence that is written. -/
def longestSequence : Nat := 2000000

/-- The program `seq`. -/
def seq : Program := fun _ words =>
  withArguments "seq"
    { plain := "w", valued := "sf",
      long := [("separator", 's'), ("format", 'f'), ("equal-width", 'w')], ordered := true }
    (withNegatives words) fun a => do
      let numbers := a.operands.map fun text => (text, writtenNumber? text)
      let one : WrittenNumber := ⟨1, 0, 0, 1⟩
      match numbers.find? fun (_, n) => n.isNone with
      | some (text, _) =>
        failUsage "seq" 1 (octets "invalid floating point argument: " ++ cited text)
      | none =>
        let go (first step last : WrittenNumber) (stepText : Octets) : Session Unit := do
          if step.mantissa == 0 then
            failUsage "seq" 1 (octets "invalid Zero increment value: " ++ cited stepText)
          else
            let places := max first.places (max step.places last.places)
            let (low, stride, high) := (first.scaled places, step.scaled places, last.scaled places)
            let count := if 0 < stride then (high - low) / stride else (low - high) / -stride
            let count := min (count + 1).toNat longestSequence
            let precision := max first.precision step.precision
            let firstWidth := first.width + (precision - first.precision) +
              if first.precision == 0 && precision != 0 then 1 else 0
            let lastWidth := last.width + precision - last.precision +
              (if last.precision == 0 && precision != 0 then 1 else 0) -
              if last.precision != 0 && precision == 0 then 1 else 0
            let width := if a.has 'w' then max firstWidth lastWidth else 0
            let piece (index : Nat) : Octets :=
              let n := low + stride * index
              match a.value? 'f' with
              | some format =>
                let format := format.filter (· != 'L')
                (formatArguments true format [decimalText n places places 0]).data
              | none => decimalText n places precision width
            if count != 0 then
              putPieces ((a.value? 's').getD ['\n']) piece count (count + 1) 0
              put ['\n']
        match (a.value? 'f').bind formatError? with
        | some text => failWith "seq" 1 text
        | none =>
          match numbers with
          | [] => failUsage "seq" 1 (octets "missing operand")
          | [(_, some last)] => go one one last []
          | [(_, some first), (_, some last)] => go first one last []
          | [(_, some first), (text, some step), (_, some last)] => go first step last text
          | _ =>
            failUsage "seq" 1 (octets "extra operand " ++ cited (a.operands.getD 3 []))

/-! ## Expressions -/

/-- What is wrong with an expression. -/
inductive ExprError where
  /-- an operand is missing behind a word -/
  | missingArgument (word : Octets)
  /-- a word is too much -/
  | unexpected (word : Octets)
  /-- a bracket is missing behind a word -/
  | missingBracket (word : Octets)
  /-- an operand is no number -/
  | noNumber
  /-- something is divided by zero -/
  | divisionByZero
  /-- an expression of a match cannot be read -/
  | badPattern (error : RegexError)

/-- The wording of a mistake. -/
def ExprError.message : ExprError → Octets
  | .missingArgument word =>
    octets "syntax error: missing argument after " ++ cited word
  | .unexpected word => octets "syntax error: unexpected argument " ++ cited word
  | .missingBracket word => octets "syntax error: expecting ')' after " ++ cited word
  | .noNumber => octets "non-integer argument"
  | .divisionByZero => octets "division by zero"
  | .badPattern error => octets error.message

/-- Reads a part of an expression: the words in front, last first, and those that are left. -/
abbrev ExprReader := StateT (List Octets × List Octets) (Except ExprError)

namespace ExprReader

/-- The number that a value is. -/
def number? (value : Octets) : Option Int :=
  match value with
  | '-' :: rest => (natOf? rest).map fun n => -(n : Int)
  | value => (natOf? value).map Int.ofNat

/-- Whether a value counts as nothing. -/
def isNothing (value : Octets) : Bool := value.isEmpty || number? value == some 0

/-- Takes the next word. -/
def take : ExprReader Octets := do
  match ← get with
  | (front, word :: rest) =>
    set (word :: front, rest)
    return word
  | (front, []) => throw (.missingArgument (front.headD []))

/-- Takes the next word if it is one of several. -/
def takeOneOf (words : List String) : ExprReader (Option String) := do
  match (← get).2 with
  | word :: _ =>
    if words.contains (nameOf word) then
      let _ ← take
      return some (nameOf word)
    else return none
  | [] => return none

/-- The value of a match: what the first group has matched, or else how much is matched. -/
def matchValue (text pattern : Octets) : ExprReader Octets := do
  let form : RegexForm := { extended := false, watched := false }
  match readRegex form pattern with
  | .error error => throw (.badPattern error)
  | .ok e =>
    let hasGroups := (indexIn? ['\\', '('] pattern).isSome
    let subject := Subject.of form text
    match e.matchAt? subject 0 with
    | some (ending, groups) =>
      return if hasGroups then Match.text ⟨0, ending, groups⟩ subject.chars 1
        else Text.digits ending
    | none => return if hasGroups then [] else ['0']

/-- Calculates with two numbers. -/
def calculate (operator : String) (left right : Octets) : ExprReader Octets := do
  match number? left, number? right with
  | some a, some b =>
    match operator with
    | "+" => return decimal (a + b)
    | "-" => return decimal (a - b)
    | "*" => return decimal (a * b)
    | _ =>
      if b == 0 then throw .divisionByZero
      else return decimal (if operator == "/" then a.tdiv b else a.tmod b)
  | _, _ => throw .noNumber

/-- Compares two values: as numbers if both are some. -/
def compare (operator : String) (left right : Octets) : Octets :=
  let order := match number? left, number? right with
    | some a, some b => Ord.compare a b
    | _, _ => if left == right then .eq else if left < right then .lt else .gt
  let holds : Bool := match operator with
    | "<" => order == .lt
    | "<=" => order != .gt
    | "=" | "==" => order == .eq
    | "!=" => order != .eq
    | ">=" => order != .lt
    | _ => order == .gt
  if holds then ['1'] else ['0']

mutual
/-- Reads the operands of an operator of some rank, the weakest first. -/
def readRank (fuel : Nat) (rank : Nat) : ExprReader Octets :=
  match fuel with
  | 0 => return []
  | fuel + 1 => do
    match rank with
    | 0 | 1 | 2 | 3 | 4 | 5 =>
      let left ← readRank fuel (rank + 1)
      readMore fuel rank left
    | _ => readOperand fuel

/-- Goes on with operators of a rank. -/
def readMore (fuel : Nat) (rank : Nat) (left : Octets) : ExprReader Octets :=
  match fuel with
  | 0 => return left
  | fuel + 1 => do
    let operators := match rank with
      | 0 => ["|"]
      | 1 => ["&"]
      | 2 => ["<", "<=", "=", "==", "!=", ">=", ">"]
      | 3 => ["+", "-"]
      | 4 => ["*", "/", "%"]
      | _ => [":"]
    match ← takeOneOf operators with
    | none => return left
    | some operator =>
      let right ← readRank fuel (rank + 1)
      let value ← match rank with
        | 0 =>
          pure (if !isNothing left then left else if isNothing right then ['0'] else right)
        | 1 => pure (if isNothing left || isNothing right then ['0'] else left)
        | 2 => pure (compare operator left right)
        | 5 => matchValue left right
        | _ => calculate operator left right
      readMore fuel rank value

/-- Reads an operand. -/
def readOperand (fuel : Nat) : ExprReader Octets :=
  match fuel with
  | 0 => return []
  | fuel + 1 => do
    let word ← take
    match nameOf word with
    | "(" =>
      let value ← readRank fuel 0
      match (← takeOneOf [")"]), ← get with
      | some _, _ => return value
      | none, (front, []) => throw (.missingBracket (front.headD []))
      | none, (_, word :: _) => throw (.unexpected word)
    | ")" => throw (.unexpected word)
    | "+" => take
    | "length" =>
      let value ← readOperand fuel
      return Text.digits (characters value).length
    | "match" =>
      let text ← readOperand fuel
      matchValue text (← readOperand fuel)
    | "index" =>
      let text := characters (← readOperand fuel)
      let wanted := characters (← readOperand fuel)
      return Text.digits (((text.findIdx? wanted.contains).map (· + 1)).getD 0)
    | "substr" =>
      let text := characters (← readOperand fuel)
      let first ← readOperand fuel
      let size ← readOperand fuel
      match number? first, number? size with
      | some first, some size =>
        return if first ≤ 0 || size ≤ 0 then []
          else ofCharacters ((text.drop (first.toNat - 1)).take size.toNat)
      | _, _ => return []
    | _ => return word
end

end ExprReader

/-- The program `expr`. -/
def expr : Program := fun _ words => do
  let words := if words.head? == some ['-', '-'] then words.drop 1 else words
  if words.isEmpty then failUsage "expr" 2 (octets "missing operand")
  else
    match (ExprReader.readRank (20 * words.length + 20) 0).run ([], words) with
    | .error error => failWith "expr" 2 error.message
    | .ok (_, _, word :: _) => failWith "expr" 2 (ExprError.unexpected word).message
    | .ok (value, _, []) =>
      put (value ++ ['\n'])
      setStatus (if ExprReader.isNothing value then 1 else 0)

/-! ## Waiting -/

/-- The duration that octets are, in microseconds; `none` for one without end. -/
def duration? (text : Octets) : Option (Option Nat) := do
  if ["inf", "infinity"].contains (nameOf (text.map Char.toLower)) then return none
  let unit : Nat := match text.getLast? with
    | some 'm' => 60
    | some 'h' => 3600
    | some 'd' => 86400
    | _ => 1
  let hasUnit := text.getLast?.any fun c => c == 's' || c == 'm' || c == 'h' || c == 'd'
  let n ← writtenNumber? (if hasUnit then text.dropLast else text)
  if n.mantissa < 0 then none
  else return some (n.mantissa.toNat * unit * 1000000 / tenTimes n.places)

/-- The program `sleep`. -/
def sleep : Program := fun _ words =>
  withArguments "sleep" { plain := "" } words fun a => do
    let durations := a.operands.map fun text => (text, duration? text)
    let wrong := durations.filter fun (_, d) => d.isNone
    if durations.isEmpty then failUsage "sleep" 1 (octets "missing operand")
    else if !wrong.isEmpty then
      for (text, _) in wrong do
        programError "sleep" (octets "invalid time interval " ++ cited text)
      putErrorLine (octets "Try 'sleep --help' for more information.")
      setStatus 1
    else
      for (_, d) in durations do
        match d with
        | some (some time) => pause time
        | _ => stall

end LinksBinding.Shell
