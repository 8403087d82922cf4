import LinksBinding.Shell.Octets
import LinksBinding.Text.Trim

/-!
# Arithmetic

The value of an expression over signed words of 64 bits. It is read into a tree first, by
precedence, and the tree is evaluated with the variables of a script, which it may change. What is
divided by zero has no value, and neither has a variable that holds no number.
-/

namespace LinksBinding.Shell

/-! ## Expressions -/

/-- Operators with two operands that are both evaluated. -/
inductive ArithmeticOp where
  | add | subtract | multiply | divide | remainder
  | shiftLeft | shiftRight
  | less | lessEqual | greater | greaterEqual | equal | notEqual
  | bitAnd | bitXor | bitOr
  deriving DecidableEq, Repr

/-- An expression. -/
inductive Arithmetic where
  /-- a number -/
  | number (n : Int)
  /-- the value of a variable -/
  | value (name : String)
  /-- a number with its sign changed -/
  | negate (e : Arithmetic)
  /-- 1 for zero, 0 for all else -/
  | invert (e : Arithmetic)
  /-- a number with all its bits changed -/
  | complement (e : Arithmetic)
  /-- two operands joined -/
  | join (op : ArithmeticOp) (left right : Arithmetic)
  /-- whether both operands are not zero; the second counts only behind the first -/
  | both (left right : Arithmetic)
  /-- whether an operand is not zero; the second counts only without the first -/
  | either (left right : Arithmetic)
  /-- one of two values -/
  | choose (condition yes no : Arithmetic)
  /-- gives a variable a value, joined with its old one if there is an operator -/
  | assign (name : String) (op : Option ArithmeticOp) (e : Arithmetic)

/-- Why an expression has no value. -/
inductive ArithmeticError where
  /-- something is divided by zero -/
  | divisionByZero
  /-- a number, a variable or a bracket is missing -/
  | missingOperand
  /-- something stands behind the expression -/
  | trailing
  /-- a bracket is not closed -/
  | missingBracket
  /-- the second half of a choice is missing -/
  | missingColon
  /-- a variable holds no number -/
  | illegalNumber (text : Octets)
  deriving DecidableEq, Repr

/-- The wording of an error in an expression. -/
def ArithmeticError.message (expression : Octets) : ArithmeticError → Octets
  | .illegalNumber text => octets "Illegal number: " ++ text
  | error =>
    let reason := match error with
      | .divisionByZero => "division by zero"
      | .missingOperand => "expecting primary"
      | .missingBracket => "expecting ')'"
      | .missingColon => "expecting ':'"
      | _ => "expecting EOF"
    octets ("arithmetic expression: " ++ reason ++ ": \"") ++ expression ++ ['"']

/-! ## Numbers -/

/-- The number at the start of a text, in the base that its first digits name, and what follows. -/
def readNumeral (text : Octets) : Nat × Octets :=
  match text with
  | '0' :: x :: c :: rest =>
    if (x == 'x' || x == 'X') && isDigitOf 16 c then
      let digits := (c :: rest).takeWhile (isDigitOf 16)
      (numberIn 16 digits, (c :: rest).drop digits.length)
    else octal text
  | '0' :: _ => octal text
  | _ =>
    let digits := text.takeWhile Char.isDigit
    (numberIn 10 digits, text.drop digits.length)
where
  /-- The octal number at the start of a text. -/
  octal (text : Octets) : Nat × Octets :=
    let digits := text.takeWhile isOctalDigit
    (numberIn 8 digits, text.drop digits.length)

/-- A number brought into the range of a signed word. -/
def clampWord (n : Int) : Int := max leastWord (min greatestWord n)

/-- The number that the value of a variable is. -/
def wordOf? (text : Octets) : Option Int :=
  let body := text.dropWhile isSpace
  let (negative, digits) := match body with
    | '-' :: rest => (true, rest)
    | '+' :: rest => (false, rest)
    | rest => (false, rest)
  let (n, rest) := readNumeral digits
  let signed : Int := if negative then -n else n
  if body.isEmpty then some 0
  else if rest.length == digits.length || !rest.all isSpace || signed != clampWord signed then none
  else some signed

/-! ## Reading -/

/-- An operator with two operands that a text starts with: how strongly it binds, and what
follows. -/
def infixAt? (text : Octets) : Option (Nat × ArithmeticOp × Octets) :=
  match text with
  | '<' :: '<' :: '=' :: _ | '>' :: '>' :: '=' :: _ => none
  | '<' :: '<' :: rest => some (8, .shiftLeft, rest)
  | '>' :: '>' :: rest => some (8, .shiftRight, rest)
  | '<' :: '=' :: rest => some (7, .lessEqual, rest)
  | '>' :: '=' :: rest => some (7, .greaterEqual, rest)
  | '<' :: rest => some (7, .less, rest)
  | '>' :: rest => some (7, .greater, rest)
  | '=' :: '=' :: rest => some (6, .equal, rest)
  | '!' :: '=' :: rest => some (6, .notEqual, rest)
  | '&' :: '&' :: _ | '|' :: '|' :: _ => none
  | c :: '=' :: rest =>
    if c == '+' || c == '-' || c == '*' || c == '/' || c == '%' || c == '&' || c == '^' || c == '|'
    then none
    else single? c ('=' :: rest)
  | c :: rest => single? c rest
  | [] => none
where
  /-- An operator of one sign. -/
  single? (c : Char) (rest : Octets) : Option (Nat × ArithmeticOp × Octets) :=
    match c with
    | '*' => some (10, .multiply, rest)
    | '/' => some (10, .divide, rest)
    | '%' => some (10, .remainder, rest)
    | '+' => some (9, .add, rest)
    | '-' => some (9, .subtract, rest)
    | '&' => some (5, .bitAnd, rest)
    | '^' => some (4, .bitXor, rest)
    | '|' => some (3, .bitOr, rest)
    | _ => none

/-- An operator that gives a variable a value, and what follows it. -/
def assignmentAt? (text : Octets) : Option (Option ArithmeticOp × Octets) :=
  match text with
  | '=' :: '=' :: _ => none
  | '=' :: rest => some (none, rest)
  | '+' :: '=' :: rest => some (some .add, rest)
  | '-' :: '=' :: rest => some (some .subtract, rest)
  | '*' :: '=' :: rest => some (some .multiply, rest)
  | '/' :: '=' :: rest => some (some .divide, rest)
  | '%' :: '=' :: rest => some (some .remainder, rest)
  | '&' :: '=' :: rest => some (some .bitAnd, rest)
  | '^' :: '=' :: rest => some (some .bitXor, rest)
  | '|' :: '=' :: rest => some (some .bitOr, rest)
  | '<' :: '<' :: '=' :: rest => some (some .shiftLeft, rest)
  | '>' :: '>' :: '=' :: rest => some (some .shiftRight, rest)
  | _ => none

/-- The text from the next sign on. -/
def skipSpaces (text : Octets) : Octets := text.dropWhile isSpace

/-- What is read of an expression, and the text behind it. -/
abbrev ReadArithmetic := Except ArithmeticError (Arithmetic × Octets)

mutual
/-- Reads an operand with the signs in front of it. -/
def readOperand (fuel : Nat) (text : Octets) : ReadArithmetic :=
  match fuel with
  | 0 => .error .missingOperand
  | fuel + 1 =>
    match skipSpaces text with
    | '-' :: rest => (readOperand fuel rest).map fun (e, rest) => (.negate e, rest)
    | '+' :: rest => readOperand fuel rest
    | '!' :: rest => (readOperand fuel rest).map fun (e, rest) => (.invert e, rest)
    | '~' :: rest => (readOperand fuel rest).map fun (e, rest) => (.complement e, rest)
    | '(' :: rest => do
      let (e, rest) ← readAssignment fuel rest
      match skipSpaces rest with
      | ')' :: rest => .ok (e, rest)
      | _ => .error .missingBracket
    | c :: rest =>
      if c.isDigit then
        let (n, rest) := readNumeral (c :: rest)
        .ok (.number (clampWord n), rest)
      else if startsName c then
        let name := (c :: rest).takeWhile isNamePart
        .ok (.value (nameOf name), (c :: rest).drop name.length)
      else .error .missingOperand
    | [] => .error .missingOperand

/-- Goes on with operators that bind at least as strongly as `least`. -/
def readInfix (fuel : Nat) (least : Nat) (left : Arithmetic) (text : Octets) : ReadArithmetic :=
  match fuel with
  | 0 => .error .missingOperand
  | fuel + 1 =>
    match infixAt? (skipSpaces text) with
    | some (level, op, rest) =>
      if level < least then .ok (left, text)
      else do
        let (right, rest) ← readOperand fuel rest
        let (right, rest) ← readInfix fuel (level + 1) right rest
        readInfix fuel least (.join op left right) rest
    | none => .ok (left, text)

/-- Reads operands of which all must hold. -/
def readBoth (fuel : Nat) (text : Octets) : ReadArithmetic :=
  match fuel with
  | 0 => .error .missingOperand
  | fuel + 1 => do
    let (left, rest) ← readOperand fuel text
    let (left, rest) ← readInfix fuel 0 left rest
    match skipSpaces rest with
    | '&' :: '&' :: rest =>
      let (right, rest) ← readBoth fuel rest
      .ok (.both left right, rest)
    | _ => .ok (left, rest)

/-- Reads operands of which one must hold. -/
def readEither (fuel : Nat) (text : Octets) : ReadArithmetic :=
  match fuel with
  | 0 => .error .missingOperand
  | fuel + 1 => do
    let (left, rest) ← readBoth fuel text
    match skipSpaces rest with
    | '|' :: '|' :: rest =>
      let (right, rest) ← readEither fuel rest
      .ok (.either left right, rest)
    | _ => .ok (left, rest)

/-- Reads a choice between two values, or a value. -/
def readArithmeticChoice (fuel : Nat) (text : Octets) : ReadArithmetic :=
  match fuel with
  | 0 => .error .missingOperand
  | fuel + 1 => do
    let (condition, rest) ← readEither fuel text
    match skipSpaces rest with
    | '?' :: rest =>
      let (yes, rest) ← readAssignment fuel rest
      match skipSpaces rest with
      | ':' :: rest =>
        let (no, rest) ← readArithmeticChoice fuel rest
        .ok (.choose condition yes no, rest)
      | _ => .error .missingColon
    | _ => .ok (condition, rest)

/-- Reads an expression that may give a variable a value. -/
def readAssignment (fuel : Nat) (text : Octets) : ReadArithmetic :=
  match fuel with
  | 0 => .error .missingOperand
  | fuel + 1 =>
    let text := skipSpaces text
    let name := if text.head?.any startsName then text.takeWhile isNamePart else []
    match name, assignmentAt? (skipSpaces (text.drop name.length)) with
    | _ :: _, some (op, rest) => do
      let (e, rest) ← readAssignment fuel rest
      .ok (.assign (nameOf name) op e, rest)
    | _, _ => readArithmeticChoice fuel text
end

/-- Reads the whole of an expression. Nothing at all is zero. -/
def readArithmetic (text : Octets) : Except ArithmeticError Arithmetic := do
  if text.all isSpace then return .number 0
  let (e, rest) ← readAssignment (8 * text.length + 16) text
  if (skipSpaces rest).isEmpty then return e else throw .trailing

/-! ## Evaluating -/

/-- The number of a truth value. -/
def truth (holds : Bool) : Int := if holds then 1 else 0

/-- A word without its sign. -/
def unsignedWord (n : Int) : Nat := (n.emod UInt64.size).toNat

/-- Joins two numbers by an operator. -/
def ArithmeticOp.apply (op : ArithmeticOp) (a b : Int) : Except ArithmeticError Int :=
  let bits (f : Nat → Nat → Nat) : Except ArithmeticError Int :=
    .ok (wrapWord (f (unsignedWord a) (unsignedWord b)))
  match op with
  | .add => .ok (wrapWord (a + b))
  | .subtract => .ok (wrapWord (a - b))
  | .multiply => .ok (wrapWord (a * b))
  | .divide => if b = 0 then .error .divisionByZero else .ok (wrapWord (a.tdiv b))
  | .remainder => if b = 0 then .error .divisionByZero else .ok (wrapWord (a.tmod b))
  | .shiftLeft => .ok (wrapWord (a * (1 <<< (unsignedWord b % 64) : Nat)))
  | .shiftRight => .ok (a.fdiv (1 <<< (unsignedWord b % 64) : Nat))
  | .less => .ok (truth (a < b))
  | .lessEqual => .ok (truth (a ≤ b))
  | .greater => .ok (truth (b < a))
  | .greaterEqual => .ok (truth (b ≤ a))
  | .equal => .ok (truth (a == b))
  | .notEqual => .ok (truth (a != b))
  | .bitAnd => bits (· &&& ·)
  | .bitXor => bits (· ^^^ ·)
  | .bitOr => bits (· ||| ·)

/-- The values that an expression has given to variables, the latest first. -/
abbrev Assigned := List (String × Int)

/-- Evaluates an expression with the values of variables. -/
def Arithmetic.eval (lookup : String → Octets) :
    Arithmetic → StateT Assigned (Except ArithmeticError) Int
  | .number n => return n
  | .value name => value name
  | .negate e => return wrapWord (-(← e.eval lookup))
  | .invert e => return truth ((← e.eval lookup) == 0)
  | .complement e => return wrapWord (-(← e.eval lookup) - 1)
  | .join op left right => do
    let a ← left.eval lookup
    let b ← right.eval lookup
    op.apply a b
  | .both left right => do
    if (← left.eval lookup) == 0 then return 0 else return truth ((← right.eval lookup) != 0)
  | .either left right => do
    if (← left.eval lookup) != 0 then return 1 else return truth ((← right.eval lookup) != 0)
  | .choose condition yes no => do
    if (← condition.eval lookup) != 0 then yes.eval lookup else no.eval lookup
  | .assign name op e => do
    let n ← match op with
      | none => e.eval lookup
      | some op => do
        let old ← value name
        let new ← e.eval lookup
        op.apply old new
    modify ((name, n) :: ·)
    return n
where
  /-- The value of a variable. -/
  value (name : String) : StateT Assigned (Except ArithmeticError) Int := do
    match (← get).lookup name with
    | some n => return n
    | none =>
      let text := lookup name
      match wordOf? text with
      | some n => return n
      | none => throw (.illegalNumber text)

/-- The value of the text of an expression, and the values that it gives to variables. -/
def evaluate (lookup : String → Octets) (text : Octets) :
    Except ArithmeticError (Int × Assigned) := do
  let e ← readArithmetic text
  (e.eval lookup).run []

end LinksBinding.Shell
