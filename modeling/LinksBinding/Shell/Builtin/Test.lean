import LinksBinding.Shell.World

/-!
# Conditions

The command `test`: conditions on strings, numbers and files. Its arguments are read into a
condition first. What counts as an operator depends on what stands behind it, as an operator can be
an operand too.
-/

namespace LinksBinding.Shell

/-- A condition. -/
inductive Condition where
  /-- one that never holds -/
  | never
  /-- a string is not empty -/
  | nonempty (text : Octets)
  /-- an operator with one operand -/
  | one (operator : Char) (operand : Octets)
  /-- an operator between two operands -/
  | two (operator : String) (left right : Octets)
  /-- a condition does not hold -/
  | not (condition : Condition)
  /-- both hold -/
  | both (left right : Condition)
  /-- one of two holds -/
  | either (left right : Condition)

/-- Why arguments are no condition. -/
inductive ConditionError where
  /-- a word behind the condition -/
  | unexpected (word : Octets)
  /-- an operator without an operand -/
  | missingOperand (operator : Octets)
  /-- a bracket that is not closed -/
  | openBracket
  /-- an operand that is no number -/
  | noNumber (operand : Octets)

/-- The wording of a mistake. -/
def ConditionError.message : ConditionError → Octets
  | .unexpected word => word ++ octets ": unexpected operator"
  | .missingOperand operator => operator ++ octets ": argument expected"
  | .openBracket => octets "closing paren expected"
  | .noNumber operand => octets "Illegal number: " ++ operand

/-! ## Reading conditions -/

/-- What a word can mean in a condition. -/
inductive ConditionWord where
  /-- nothing, as there is no word -/
  | missing
  /-- an operand -/
  | operand
  /-- an operator with one operand -/
  | one (operator : Char)
  /-- an operator with two operands -/
  | two (operator : String)
  /-- a negation -/
  | not
  /-- both of two conditions -/
  | both
  /-- one of two conditions -/
  | either
  /-- an opening bracket -/
  | opens
  /-- a closing bracket -/
  | closes
  deriving DecidableEq

/-- The operators with two operands. -/
def binaryOperators : List String :=
  ["=", "!=", "<", ">", "-eq", "-ne", "-ge", "-gt", "-le", "-lt", "-nt", "-ot", "-ef"]

/-- The operator that a word is. -/
def operatorOf? (word : Octets) : Option ConditionWord :=
  let name := nameOf word
  if binaryOperators.contains name then some (.two name)
  else match word with
    | ['-', 'a'] => some .both
    | ['-', 'o'] => some .either
    | ['-', c] => if (octets "rwxefdcbpugkhLSGOnzts").contains c then some (.one c) else none
    | ['!'] => some .not
    | ['('] => some .opens
    | [')'] => some .closes
    | _ => none

/-- What the first of several words means. -/
def firstMeaning : List Octets → ConditionWord
  | [] => .missing
  | word :: rest =>
    match operatorOf? word with
    | some (.one operator) =>
      let isOperand := match rest with
        | [] => true
        | [_] => false
        | next :: _ =>
          match operatorOf? next with
          | some (.two _) => true
          | _ => false
      if isOperand then .operand else .one operator
    | some .opens => if rest.isEmpty then .operand else .opens
    | some operator => operator
    | none => .operand

/-- A condition, and the words from the last one on that belongs to it. -/
abbrev ReadCondition := Except ConditionError (Condition × List Octets)

mutual
/-- Reads alternatives. -/
def readAlternatives (fuel : Nat) (words : List Octets) : ReadCondition :=
  match fuel with
  | 0 => .ok (.never, words)
  | fuel + 1 => do
    let (left, words) ← readConjunction fuel words
    if firstMeaning (words.drop 1) == .either then
      let (right, words) ← readAlternatives fuel (words.drop 2)
      return (.either left right, words)
    else return (left, words)

/-- Reads conditions that must all hold. -/
def readConjunction (fuel : Nat) (words : List Octets) : ReadCondition :=
  match fuel with
  | 0 => .ok (.never, words)
  | fuel + 1 => do
    let (left, words) ← readNegation fuel words
    if firstMeaning (words.drop 1) == .both then
      let (right, words) ← readConjunction fuel (words.drop 2)
      return (.both left right, words)
    else return (left, words)

/-- Reads a condition that may be negated. -/
def readNegation (fuel : Nat) (words : List Octets) : ReadCondition :=
  match fuel with
  | 0 => .ok (.never, words)
  | fuel + 1 => do
    if firstMeaning words == .not then
      let behind := words.drop 1
      let (condition, words) ← if behind.isEmpty then pure (.never, words)
        else readNegation fuel behind
      return (.not condition, words)
    else readPrimary fuel words

/-- Reads a condition without operators between conditions. -/
def readPrimary (fuel : Nat) (words : List Octets) : ReadCondition :=
  match fuel with
  | 0 => .ok (.never, words)
  | fuel + 1 => do
    match firstMeaning words, words with
    | .opens, _ :: behind =>
      if firstMeaning behind == .closes then return (.never, behind)
      else
        let (condition, words) ← readAlternatives fuel behind
        if firstMeaning (words.drop 1) == .closes then return (condition, words.drop 1)
        else throw .openBracket
    | .one operator, word :: behind =>
      match behind with
      | operand :: _ => return (.one operator operand, behind)
      | [] => throw (.missingOperand word)
    | _, word :: behind =>
      match firstMeaning behind, behind with
      | .two operator, sign :: rest =>
        match rest with
        | operand :: _ => return (.two operator word operand, rest)
        | [] => throw (.missingOperand sign)
      | _, _ => return (.nonempty word, words)
    | _, [] => return (.never, [])
end

/-- The condition that words are; a negation and brackets around few words come first. -/
def readCondition (words : List Octets) : Except ConditionError Condition := do
  let whole (words : List Octets) : Except ConditionError Condition := do
    let (condition, left) ← readAlternatives (4 * words.length + 8) words
    match left with
    | word :: _ :: _ => throw (.unexpected word)
    | _ => return condition
  let inner (words : List Octets) : Except ConditionError Condition :=
    if words.isEmpty then .ok .never else whole words
  let bracketed := words.head? == some ['('] && words.getLast? == some [')']
  match words with
  | [] => return .never
  | [first, second, third] =>
    match operatorOf? second with
    | some (.two operator) => return .two operator first third
    | _ =>
      if bracketed then inner [second]
      else if first == ['!'] then return .not (← inner [second, third])
      else whole words
  | [first, second, third, fourth] =>
    if bracketed then inner [second, third]
    else if first == ['!'] then return .not (← inner [second, third, fourth])
    else whole words
  | words => whole words

/-! ## Evaluating conditions -/

namespace Session

/-- The number that an operand is. -/
def operandNumber (operand : Octets) : Except ConditionError Int :=
  match intOf? operand with
  | some n => if leastWord ≤ n && n ≤ greatestWord then .ok n else .error (.noNumber operand)
  | none => .error (.noNumber operand)

/-- What a path leads to, its last link not followed unless `follow` is set. -/
def look? (follow : Bool) (path : Octets) : Session (Option (Place × Node)) := do
  return (← lookAt follow path).toOption

/-- Whether an operator holds of a file. -/
def fileHolds (operator : Char) (path : Octets) : Session Bool := do
  if path.isEmpty then return false
  let found ← look? (operator != 'h' && operator != 'L') path
  let files := (← get).files
  match found.map (·.2) with
  | none => return false
  | some node =>
    match operator with
    | 'e' | 'r' | 'w' | 'O' | 'G' => return true
    | 'f' =>
      return match node with
        | .file _ | .program _ => true
        | _ => false
    | 'd' => return node == .directory
    | 'x' =>
      return match node with
        | .file number => (files.content number).executable
        | .directory | .program _ => true
        | _ => false
    | 's' =>
      return match node with
        | .file number => !(files.content number).data.isEmpty
        | .directory | .program _ => true
        | _ => false
    | 'c' =>
      return match node with
        | .device _ => true
        | _ => false
    | 'h' | 'L' =>
      return match node with
        | .link _ => true
        | _ => false
    | _ => return false

/-- When a file was changed, if there is one. -/
def changedAt? (path : Octets) : Session (Option Nat) := do
  match ← look? true path with
  | some (_, .file number) => return some ((← get).files.content number).changed
  | some _ => return some 0
  | none => return none

/-- Whether an operator holds between two operands. -/
def pairHolds (operator : String) (left right : Octets) : Session (Except ConditionError Bool) := do
  let numbers (holds : Int → Int → Bool) : Except ConditionError Bool := do
    let a ← operandNumber left
    let b ← operandNumber right
    return holds a b
  match operator with
  | "=" => return .ok (left == right)
  | "!=" => return .ok (left != right)
  | "<" => return .ok (left < right)
  | ">" => return .ok (right < left)
  | "-eq" => return numbers (· == ·)
  | "-ne" => return numbers (· != ·)
  | "-ge" => return numbers (· ≥ ·)
  | "-gt" => return numbers (· > ·)
  | "-le" => return numbers (· ≤ ·)
  | "-lt" => return numbers (· < ·)
  | "-ef" =>
    match ← look? true left, ← look? true right with
    | some (a, _), some (b, _) => return .ok (a == b)
    | _, _ => return .ok false
  | _ =>
    match ← changedAt? left, ← changedAt? right with
    | some a, some b => return .ok (if operator == "-nt" then b < a else a < b)
    | _, _ => return .ok false

/-- Whether a condition holds. Every part is looked at, even if the others decide. -/
def holds : Condition → Session (Except ConditionError Bool)
  | .never => return .ok false
  | .nonempty text => return .ok !text.isEmpty
  | .one operator operand => do
    match operator with
    | 'n' => return .ok !operand.isEmpty
    | 'z' => return .ok operand.isEmpty
    | 't' => return (operandNumber operand).map fun _ => false
    | operator => return .ok (← fileHolds operator operand)
  | .two operator left right => pairHolds operator left right
  | .not condition => return (← holds condition).map (!·)
  | .both left right => do
    let a ← holds left
    let b ← holds right
    return a.bind fun a => b.map (a && ·)
  | .either left right => do
    let a ← holds left
    let b ← holds right
    return a.bind fun a => b.map (a || ·)

/-- The status of a condition: 0 if it holds and 1 if not. `complaint` tells about a mistake. -/
def testCondition (complaint : Octets → Session Unit) (words : List Octets) : Session Unit := do
  let result ← match readCondition words with
    | .ok condition => holds condition
    | .error error => pure (.error error)
  match result with
  | .ok true => setStatus 0
  | .ok false => setStatus 1
  | .error error => complaint error.message

/-- The words of a condition in square brackets, without the closing one. -/
def withoutBracket? (words : List Octets) : Option (List Octets) :=
  if words.getLast? == some [']'] then some words.dropLast else none

/-- The builtin `test`. -/
def test (words : List Octets) : Session Unit := testCondition refuse words

/-- The builtin `[`. -/
def testInBrackets (words : List Octets) : Session Unit :=
  match withoutBracket? words with
  | some words => testCondition refuse words
  | none => refuse (octets "missing ]")

end Session

end LinksBinding.Shell
