import LinksBinding.Shell.Character
import LinksBinding.Shell.World

/-!
# Options of programs

How programs read their arguments: words of option letters, which may stand in front of the
operands, between them or behind them; letters with a value; and long names, which may be cut short
as long as one name is meant.
-/

namespace LinksBinding.Shell

/-- The options that a program knows. -/
structure OptionTable where
  /-- the letters of options without a value -/
  plain : String
  /-- the letters of options with a value -/
  valued : String := ""
  /-- long names, and the letters that they stand for -/
  long : List (String × Char) := []
  /-- whether the first operand ends the options -/
  ordered : Bool := false
  /-- the status of a program whose arguments are refused -/
  refusal : Nat := 1

/-- Why arguments are refused. -/
inductive OptionError where
  /-- a letter that is no option -/
  | unknownLetter (letter : Char)
  /-- an option without its value -/
  | missingValue (letter : Char)
  /-- a name that is no option -/
  | unknownName (name : Octets)
  /-- a name with a value that it cannot have -/
  | needlessValue (name : String)
  /-- a name without its value -/
  | missingNameValue (name : String)

/-- The wording of an option error. -/
def OptionError.message : OptionError → Octets
  | .unknownLetter letter => octets "invalid option -- '" ++ [letter, '\'']
  | .missingValue letter => octets "option requires an argument -- '" ++ [letter, '\'']
  | .unknownName name => octets "unrecognized option '" ++ name ++ ['\'']
  | .needlessValue name => octets ("option '--" ++ name ++ "' doesn't allow an argument")
  | .missingNameValue name => octets ("option '--" ++ name ++ "' requires an argument")

/-- Options with their values, and operands. -/
structure Arguments where
  /-- letters with values, in order -/
  options : List (Char × Octets) := []
  /-- all else, in order -/
  operands : List Octets := []

namespace Arguments

/-- Whether an option is given. -/
def has (a : Arguments) (letter : Char) : Bool := a.options.any (·.1 == letter)

/-- The last value of an option. -/
def value? (a : Arguments) (letter : Char) : Option Octets := a.options.reverse.lookup letter

/-- All values of an option. -/
def values (a : Arguments) (letter : Char) : List Octets :=
  a.options.filterMap fun (c, value) => if c == letter then some value else none

/-- The last of several options that is given. -/
def last? (a : Arguments) (letters : List Char) : Option Char :=
  (a.options.reverse.find? fun (c, _) => letters.contains c).map (·.1)

end Arguments

namespace OptionTable

/-- The long name that a name stands for. -/
def named? (table : OptionTable) (name : Octets) : Option (String × Char) :=
  let fits := table.long.filter fun (long, _) => startsWith name long.toList
  (table.long.find? fun (long, _) => long == nameOf name) <|>
    match fits with
    | (long, letter) :: rest => if rest.all (·.2 == letter) then some (long, letter) else none
    | [] => none

/-- Reads a word of letters, with the words behind it: the options, and the words that are left. -/
def readLetters (table : OptionTable) (behind : List Octets) :
    Octets → Except OptionError (List (Char × Octets) × List Octets)
  | [] => .ok ([], behind)
  | letter :: rest =>
    if table.plain.toList.contains letter then
      (table.readLetters behind rest).map fun (options, behind) => ((letter, []) :: options, behind)
    else if table.valued.toList.contains letter then
      match rest, behind with
      | [], [] => .error (.missingValue letter)
      | [], value :: behind => .ok ([(letter, value)], behind)
      | value, behind => .ok ([(letter, value)], behind)
    else .error (.unknownLetter letter)

/-- Reads a long name, with the words behind it. -/
def readName (table : OptionTable) (behind : List Octets) (word : Octets) :
    Except OptionError (List (Char × Octets) × List Octets) :=
  let (name, value) := match cutAtChar? '=' word with
    | some (name, value) => (name, some value)
    | none => (word, none)
  match table.named? name with
  | none => .error (.unknownName (octets "--" ++ name))
  | some (long, letter) =>
    if table.valued.toList.contains letter then
      match value, behind with
      | some value, behind => .ok ([(letter, value)], behind)
      | none, value :: behind => .ok ([(letter, value)], behind)
      | none, [] => .error (.missingNameValue long)
    else if value.isSome then .error (.needlessValue long)
    else .ok ([(letter, [])], behind)

/-- Reads arguments. -/
def readWords (table : OptionTable) : (fuel : Nat) → List Octets → Except OptionError Arguments
  | 0, words => .ok { operands := words }
  | _ + 1, [] => .ok {}
  | fuel + 1, word :: rest => do
    match word with
    | ['-', '-'] => return { operands := rest }
    | '-' :: '-' :: name =>
      let (options, rest) ← table.readName rest name
      let others ← table.readWords fuel rest
      return { others with options := options ++ others.options }
    | '-' :: letter :: letters =>
      let (options, rest) ← table.readLetters rest (letter :: letters)
      let others ← table.readWords fuel rest
      return { others with options := options ++ others.options }
    | word =>
      if table.ordered then return { operands := word :: rest }
      else
        let others ← table.readWords fuel rest
        return { others with operands := word :: others.operands }

end OptionTable

/-! ## Programs -/

/-- Runs a program with its arguments, the first of which is its name, and waits for it; or tells
why it cannot be run. -/
abbrev Invoke := List Octets → Session (Option PathError)

/-- What a program does with its arguments; it may run others. -/
abbrev Program := Invoke → List Octets → Session Unit

/-- A message of a program. -/
def programError (name : String) (text : Octets) : Session Unit :=
  Session.putErrorLine (octets (name ++ ": ") ++ text)

/-- A failure of a program with a message. -/
def failWith (name : String) (status : Nat) (text : Octets) : Session Unit := do
  programError name text
  Session.setStatus status

/-- A failure of a program with a message and a hint. -/
def failUsage (name : String) (status : Nat) (text : Octets) : Session Unit := do
  programError name text
  let hint := octets ("Try '" ++ name ++ " --help' for more information.")
  if name == "cmp" || name == "diff" then programError name hint else Session.putErrorLine hint
  Session.setStatus status

/-- Reads the arguments of a program and goes on with them. -/
def withArguments (name : String) (table : OptionTable) (words : List Octets)
    (next : Arguments → Session Unit) : Session Unit :=
  match table.readWords (words.length + 1) words with
  | .ok arguments => next arguments
  | .error error => failUsage name table.refusal error.message

/-- An octet by its number. -/
def octalForm (c : Char) : Octets :=
  let figures := digitsIn 8 c.toNat
  '\\' :: List.replicate (3 - figures.length) '0' ++ figures

/-- Octets that cannot be printed, as they are shown outside quotes. -/
def shownUnprintable (c : Char) : Octets :=
  match c with
  | '\n' => ['\\', 'n']
  | '\t' => ['\\', 't']
  | '\r' => ['\\', 'r']
  | c => octalForm c

/-- Characters behind an opening quote, up to the closing one. Those that cannot be printed stand in
quotes of their own: `printing` tells whether the ones in front can be. -/
def quotedFrom (printing : Bool) : List Char → Octets
  | [] => ['\'']
  | c :: rest =>
    if isPrinted c then
      let shown := if c == '\'' then octets "'\\''" else octetsOfChar c
      (if printing then shown else octets "''" ++ shown) ++ quotedFrom true rest
    else
      (if printing then octets "'$'" else []) ++ (octetsOfChar c).flatMap shownUnprintable ++
        quotedFrom false rest

/-- The name of a file in the quotes that the command language would read it in. -/
def quotedName (data : Octets) : Octets :=
  let text := characters data
  if text.contains '\'' && text.all fun c => isPrinted c && !(octets "\"$\x60\\!").contains c then
    '"' :: data ++ ['"']
  else '\'' :: quotedFrom true text

/-- The name of a file as messages show it: in quotes if it could be misread. -/
def shownName (data : Octets) : Octets :=
  let special := octets " !\"$&'()*;<=>?[^\x60|\\:"
  let misleading := (characters data).any fun c => special.contains c || !isPrinted c
  let first := data.head?.all fun c => c == '~' || c == '#'
  let brace := data == ['\x7b'] || data == ['\x7d']
  if misleading || first || brace then quotedName data else data

/-- A character in a word that a message cites. -/
def citedChar (c : Char) : Octets :=
  match c with
  | '\\' => ['\\', '\\']
  | '\x07' => ['\\', 'a']
  | '\x08' => ['\\', 'b']
  | '\x0c' => ['\\', 'f']
  | '\n' => ['\\', 'n']
  | '\r' => ['\\', 'r']
  | '\t' => ['\\', 't']
  | '\x0b' => ['\\', 'v']
  | '’' => '\\' :: octets "’"
  | c => if isPrinted c then octetsOfChar c else (octetsOfChar c).flatMap octalForm

/-- A word that a message cites. -/
def cited (data : Octets) : Octets :=
  octets "‘" ++ (characters data).flatMap citedChar ++ octets "’"

/-- Reads the input that a path names: a file, or the input of the program for a dash. -/
def readInput (path : Octets) : Session (Except PathError Octets) := do
  if path == ['-'] then return .ok (← Session.readAll 0) else Session.readFile path

/-- The paths of operands, or a dash for none. -/
def inputPaths (operands : List Octets) : List Octets :=
  if operands.isEmpty then [['-']] else operands

/-- Reads all inputs that paths name, each with its path. What cannot be read is told in a message,
and the status is then 1. -/
def readInputs (name : String) (describe : Octets → Octets) (paths : List Octets) :
    Session (List (Octets × Octets)) := do
  let mut found := #[]
  for path in paths do
    match ← readInput path with
    | .ok data => found := found.push (path, data)
    | .error error =>
      programError name (describe path ++ octets (": " ++ error.message))
      Session.setStatus 1
  return found.toList

/-- Reads all inputs that operands name, joined. -/
def readJoined (name : String) (operands : List Octets) : Session Octets := do
  let inputs ← readInputs name shownName (inputPaths operands)
  return inputs.flatMap (·.2)

end LinksBinding.Shell
