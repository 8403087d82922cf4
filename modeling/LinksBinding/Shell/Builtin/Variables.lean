import LinksBinding.Shell.Fields
import LinksBinding.Shell.World

/-!
# Variables, parameters and options

The builtins that change what a script has at hand: its variables, its parameters and its options.
-/

namespace LinksBinding.Shell

open Text

/-- A builtin, with the words behind its name. -/
abbrev Builtin := List Octets → Session Unit

/-- Octets in quotes that the command language reads back. -/
def quoteWord (data : Octets) : Octets :=
  let pieces := data.splitOn '\''
  joinWith (octets "\"'\"") (pieces.map fun piece => '\'' :: piece ++ ['\''])

/-- A word of option letters that a builtin takes: the letters, and the words behind them; or the
letter that it does not take. -/
def readFlags (known : String) : List Octets → Except Char (List Char × List Octets)
  | ['-', '-'] :: rest => .ok ([], rest)
  | ('-' :: c :: letters) :: rest =>
    match (c :: letters).find? fun letter => !known.toList.contains letter with
    | some letter => .error letter
    | none => (readFlags known rest).map fun (more, rest) => (c :: letters ++ more, rest)
  | words => .ok ([], words)

namespace Session

/-- Reads the option letters of a builtin and goes on with them and the words behind them. -/
def withFlags (known : String) (words : List Octets)
    (next : List Char → List Octets → Session Unit) : Session Unit :=
  match readFlags known words with
  | .ok (flags, rest) => next flags rest
  | .error letter => refuse (octets "Illegal option -" ++ [letter])

/-- A number that a builtin is given. -/
def withNumber (word : Octets) (next : Nat → Session Unit) : Session Unit :=
  match natOf? word with
  | some n => if n < 1 <<< 31 then next n else refuse (octets "Illegal number: " ++ word)
  | none => refuse (octets "Illegal number: " ++ word)

/-! ## Variables -/

/-- All variables in the order of their names. -/
def sortedVariables : Session (List (String × Variable)) := do
  return (← process).assigned.mergeSort fun (a, _) (b, _) => a ≤ b

/-- Lists the variables of a kind behind a word. -/
def listVariables (word : String) (chosen : Variable → Bool) : Session Unit := do
  for (name, v) in ← sortedVariables do
    if chosen v then
      let value := match v.value with
        | some value => '=' :: quoteWord value
        | none => []
      put (octets (word ++ name) ++ value ++ ['\n'])

/-- Goes on with the name and the value of an assignment, if the name can be the name of a
variable. -/
def withAssignment (word : Octets) (next : String → Option Octets → Session Unit) : Session Unit :=
  let (name, value) := match cutAtChar? '=' word with
    | some (name, value) => (name, some value)
    | none => (word, none)
  if isName name then next (nameOf name) value else refuse (name ++ octets ": bad variable name")

/-- Marks variables, and gives them values. -/
def markVariables (word : String) (chosen : Variable → Bool) (mark : Variable → Variable) :
    Builtin := fun words =>
  withFlags "p" words fun flags names => do
    if flags.contains 'p' || names.isEmpty then listVariables word chosen
    else
      for text in names do
        if ← goesOn then
          withAssignment text fun name value => do
            let assigned ← match value with
              | some value => assign name value
              | none => pure true
            if assigned then setVariable name (mark ((← assigned? name).getD { value := none }))

/-- The builtin `export`. -/
def exportVariables : Builtin := markVariables "export " (·.exported) ({ · with exported := true })

/-- The builtin `readonly`. -/
def keepVariables : Builtin := markVariables "readonly " (·.constant) ({ · with constant := true })

/-- Keeps a variable as it is, to be put back behind the innermost call. -/
def saveVariable (name : String) : Session Unit := do
  let old ← assigned? name
  modifyProcess fun process =>
    { process with
      locals := match process.locals with
        | saved :: rest =>
          if saved.any (·.1 == name) then saved :: rest else ((name, old) :: saved) :: rest
        | [] => [] }

/-- Puts variables back as they were. -/
def restoreVariables (saved : List (String × Option Variable)) : Session Unit := do
  for (name, old) in saved do
    match old with
    | some v => setVariable name v
    | none => dropVariable name

/-- The builtin `local`. -/
def makeLocal : Builtin := fun words => do
  if (← process).locals.isEmpty then refuse (octets "not in a function")
  else
    for word in words do
      if ← goesOn then
        if word != ['-'] then
          withAssignment word fun name value => do
            saveVariable name
            match value with
            | some value => let _ ← assign name value
            | none => return ()

/-- The builtin `unset`. -/
def unset : Builtin := fun words =>
  withFlags "vf" words fun flags names => do
    for text in names do
      if ← goesOn then
        let name := nameOf text
        if flags.contains 'f' then
          modifyProcess fun process =>
            { process with functions := process.functions.filter (·.1 != name) }
        else if !isName text then refuse (text ++ octets ": bad variable name")
        else
          match ← assigned? name with
          | some { constant := true, .. } => refuse (text ++ octets ": is read only")
          | _ => dropVariable name

/-! ## Options -/

/-- The options of scripts: their letters and names. -/
def scriptOptions : List (Char × String) :=
  [('e', "errexit"), ('f', "noglob"), ('I', "ignoreeof"), ('i', "interactive"), ('m', "monitor"),
    ('n', "noexec"), ('s', "stdin"), ('x', "xtrace"), ('v', "verbose"), ('V', "vi"),
    ('E', "emacs"), ('C', "noclobber"), ('a', "allexport"), ('b', "notify"), ('u', "nounset"),
    ('p', "privileged"), ('1', "nolog"), ('2', "debug")]

/-- The letters of the options that are set, as the script sees them. -/
def shownOptions (options : List Char) : Octets :=
  (scriptOptions.reverse.map (·.1)).filter options.contains

/-- Sets or clears an option. -/
def setOption (letter : Char) (value : Bool) : Session Unit :=
  modifyProcess fun process =>
    let others := process.options.filter (· != letter)
    { process with options := if value then letter :: others else others }

/-- Lists the options. -/
def listOptions (value : Bool) : Session Unit := do
  let options := (← process).options
  if value then put (octets "Current option settings\n")
  for (letter, name) in scriptOptions do
    let isSet := options.contains letter
    if value then
      let padding := List.replicate (16 - name.length) ' '
      put (octets name ++ padding ++ octets (if isSet then "on\n" else "off\n"))
    else put (octets (if isSet then "set -o " else "set +o ") ++ octets name ++ ['\n'])

/-- Sets options by their letters, some of which take a name from the words behind; returns the
words that are left, or the text of a mistake. -/
def setLetters (value : Bool) (behind : List Octets) :
    Octets → Session (Except Octets (List Octets))
  | [] => return .ok behind
  | 'o' :: rest =>
    match behind with
    | [] => do
      listOptions value
      setLetters value [] rest
    | name :: behind => do
      match scriptOptions.find? fun (_, long) => long == nameOf name with
      | some (letter, _) =>
        setOption letter value
        setLetters value behind rest
      | none => return .error (octets "Illegal option -o " ++ name)
  | letter :: rest => do
    if scriptOptions.any fun (known, _) => known == letter && !known.isDigit then
      setOption letter value
      setLetters value behind rest
    else return .error (octets "Illegal option -" ++ [letter])

/-- Sets the options in front of words. Returns the words behind them, and whether these are
parameters even if there are none; or the text of a mistake. -/
def setOptions : (fuel : Nat) → List Octets → Session (Except Octets (List Octets × Bool))
  | 0, words => return .ok (words, false)
  | fuel + 1, words => do
    match words with
    | ['-', '-'] :: rest => return .ok (rest, true)
    | ['-'] :: rest => do
      setOption 'x' false
      setOption 'v' false
      return .ok (rest, false)
    | ['+'] :: rest => return .ok (rest, false)
    | (sign :: letters) :: rest =>
      if sign == '-' || sign == '+' then
        match ← setLetters (sign == '-') rest letters with
        | .ok rest => setOptions fuel rest
        | .error text => return .error text
      else return .ok (words, false)
    | words => return .ok (words, false)

/-- Sets the parameters. -/
def setParameters (parameters : List Octets) : Session Unit := do
  modifyProcess ({ · with parameters, letters := 0 })
  setVariable "OPTIND" { value := some ['1'] }

/-- The builtin `set`. -/
def configure : Builtin := fun words => do
  if words.isEmpty then listVariables "" (·.value.isSome)
  else
    match ← setOptions (words.length + 1) words with
    | .ok (parameters, always) =>
      if always || !parameters.isEmpty then setParameters parameters
    | .error text => refuse text

/-- The builtin `shift`. -/
def shift : Builtin := fun words =>
  withNumber (words.headD ['1']) fun count => do
    let parameters := (← process).parameters
    if parameters.length < count then refuse (octets "can't shift that many")
    else modifyProcess ({ · with parameters := parameters.drop count, letters := 0 })

/-! ## Options of the script's own -/

/-- What an option of the script is, by the letters that it takes. -/
inductive OwnOption where
  /-- one that it does not take -/
  | unknown
  /-- one without a value -/
  | plain
  /-- one with a value -/
  | valued

/-- What a letter is among the letters that are taken; a colon stands behind those with values. -/
def ownOption (letter : Char) : Octets → OwnOption
  | [] => .unknown
  | [c] => if c == letter then .plain else .unknown
  | c :: ':' :: rest => if c == letter then .valued else ownOption letter rest
  | c :: rest => if c == letter then .plain else ownOption letter rest

/-- Reads the next option of the script. -/
def nextOption (known : Octets) (name : String) (words : List Octets) : Session Unit := do
  let process ← process
  let index := ((← value? "OPTIND").bind natOf?).getD 1
  let index := if index > words.length + 1 then 1 else index
  let current := if index ≤ 1 then none else words[index - 2]?
  let silent := known.head? == some ':'
  let report (letter : Char) (index : Nat) (letters : Nat) : Session Unit := do
    setVariable "OPTIND" { value := some (digits index) }
    let _ ← assign name [letter]
    modifyProcess ({ · with letters })
  let begun := current.map fun word => word.drop process.letters
  let (text, index, found) :=
    match begun with
    | some (c :: rest) =>
      if process.letters > 0 then (c :: rest, index, true)
      else ([], index, false)
    | _ => ([], index, false)
  let (text, index, found, ended) :=
    if found then (text, index, true, false)
    else
      match words[index - 1]? with
      | some ['-', '-'] => ([], index + 1, false, true)
      | some ('-' :: c :: rest) => (c :: rest, index + 1, true, false)
      | _ => ([], index, false, true)
  match text, found && !ended with
  | letter :: rest, true =>
    let word := (words[index - 2]?).getD []
    let behind := if rest.isEmpty then 0 else word.length - rest.length
    match if letter == ':' then .unknown else ownOption letter known with
    | .unknown =>
      if silent then setVariable "OPTARG" { value := some [letter] }
      else
        putErrorLine (octets "Illegal option -" ++ [letter])
        dropVariable "OPTARG"
      report '?' index behind
    | .plain =>
      setVariable "OPTARG" { value := some [] }
      report letter index behind
    | .valued =>
      match rest, words[index - 1]? with
      | [], none =>
        if silent then
          setVariable "OPTARG" { value := some [letter] }
          report ':' index 0
        else
          putErrorLine (octets "No arg for -" ++ [letter] ++ octets " option")
          dropVariable "OPTARG"
          report '?' index 0
      | [], some value =>
        setVariable "OPTARG" { value := some value }
        report letter (index + 1) 0
      | value, _ =>
        setVariable "OPTARG" { value := some value }
        report letter index 0
  | _, _ =>
    report '?' index 0
    setStatus 1

/-- The builtin `getopts`. -/
def getopts : Builtin := fun words => do
  match words with
  | known :: name :: rest =>
    let parameters := (← process).parameters
    let words := if rest.isEmpty then parameters else rest
    if isName name then nextOption known (nameOf name) words
    else refuse (name ++ octets ": bad variable name")
  | _ => refuse (octets "Usage: getopts optstring var [arg...]")

/-! ## Reading lines -/

/-- The characters of a line that is read, and whether they are quoted. A backslash quotes what
stands behind it. -/
def unquoteLine : Octets → List Marked
  | '\\' :: '\n' :: rest => unquoteLine rest
  | ['\\'] => []
  | '\\' :: c :: rest => (c, true) :: unquoteLine rest
  | c :: rest => (c, false) :: unquoteLine rest
  | [] => []

/-- Whether a line ends in a backslash that takes the line feed away. -/
def goesOnBehind (line : Octets) : Bool :=
  isClosed line && ((line.dropLast.reverse.takeWhile (· == '\\')).length % 2 == 1)

/-- Reads a line that may go on behind backslashes: its text, and whether it is closed. -/
def readLogicalLine (raw : Bool) : (fuel : Nat) → Octets → Session (Octets × Bool)
  | 0, before => return (before, true)
  | fuel + 1, before => do
    let (line, _) ← readLine 0
    let line := line.filter (· != Char.ofNat 0)
    if !raw && goesOnBehind line then readLogicalLine raw fuel (before ++ line)
    else if isClosed line then return (before ++ line.dropLast, true)
    else return (before ++ line, false)

/-- What a line is split at. -/
structure Separators where
  /-- the separators -/
  all : Octets

namespace Separators

/-- Whether a character separates. -/
def separates (s : Separators) (c : Marked) : Bool := !c.2 && s.all.contains c.1

/-- Whether a character is a blank that separates. -/
def isBlank (s : Separators) (c : Marked) : Bool :=
  s.separates c && (c.1 == ' ' || c.1 == '\t' || c.1 == '\n')

/-- Text without the separators behind it: all of them behind a single field, or else only
blanks. -/
def lastField (s : Separators) (text : List Marked) : List Marked :=
  let tail := (text.reverse.takeWhile s.separates)
  let front := text.take (text.length - tail.length)
  let signs := (tail.filter fun c => !s.isBlank c).length
  if signs ≤ 1 && !front.any s.separates then front
  else if signs == 0 then front
  else (text.reverse.dropWhile s.isBlank).reverse

/-- Splits text into some number of fields, the last of which takes all that is left. -/
def split (s : Separators) : (count : Nat) → List Marked → List Octets
  | 0, _ => []
  | 1, text => [(s.lastField (text.dropWhile s.isBlank)).map (·.1)]
  | count + 1, text =>
    let text := text.dropWhile s.isBlank
    let field := text.takeWhile fun c => !s.separates c
    let rest := (text.drop field.length).dropWhile s.isBlank
    let rest := match rest with
      | c :: behind =>
        if s.separates c && !s.isBlank c then behind.dropWhile s.isBlank else rest
      | [] => []
    field.map (·.1) :: s.split count rest

end Separators

/-- Gives variables values as long as that succeeds. -/
def assignAll : List (Octets × Octets) → Session Unit
  | [] => return ()
  | (name, value) :: rest => do
    if !isName name then refuse (name ++ octets ": bad variable name")
    else if ← assign (nameOf name) value then assignAll rest

/-- The builtin `read`. -/
def read : Builtin := fun words => do
  let (flags, names) := match words with
    | ['-', 'r'] :: ['-', 'p'] :: _ :: rest => (['r'], rest)
    | ['-', 'r', 'p'] :: _ :: rest => (['r'], rest)
    | ['-', 'p'] :: _ :: rest => ([], rest)
    | words => ([], words)
  withFlags "r" names fun more names => do
    let raw := (flags ++ more).contains 'r'
    if names.isEmpty then refuse (octets "arg count")
    else
      let (line, closed) ← readLogicalLine raw 100000 []
      let text := if raw then line.map (·, false) else unquoteLine line
      let fields := Separators.split ⟨← separators⟩ names.length text
      setStatus (if closed then 0 else 1)
      assignAll (names.zip fields)

end Session

end LinksBinding.Shell
