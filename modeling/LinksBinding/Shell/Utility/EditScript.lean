import LinksBinding.Shell.Regex
import LinksBinding.Shell.Utility.Options

/-!
# Scripts of the stream editor

What a script of the program `sed` consists of, and how it is read: commands, each with the lines
that it is for. A mistake is told with the place where reading has stopped.
-/

namespace LinksBinding.Shell

open Text

/-- A line, or lines, that a command is for. -/
inductive Address where
  /-- a line by its number -/
  | line (number : Nat)
  /-- every so many lines from one on -/
  | every (first step : Nat)
  /-- the last line -/
  | last
  /-- lines that match an expression, or the last one that was used -/
  | matching (expression : Option Regex) (form : RegexForm)

/-- The end of a range of lines. -/
inductive RangeEnd where
  /-- a line like this -/
  | at (address : Address)
  /-- so many lines further on -/
  | further (count : Nat)
  /-- the next line with a number that is a multiple -/
  | multiple (of : Nat)

/-- The lines that a command is for. -/
structure Selection where
  /-- the line, or the first line of a range -/
  first : Option Address := none
  /-- the end of a range -/
  ending : Option RangeEnd := none
  /-- whether the command is for all other lines -/
  negated : Bool := false

/-- A part of the text that takes the place of a match. -/
inductive Replacement where
  /-- text -/
  | text (data : Octets)
  /-- what a group has matched; group 0 is the whole match -/
  | group (number : Nat)
  /-- letters change their case from here on -/
  | letters (mode : Char)

/-- A replacement of matches. -/
structure Substitution where
  /-- what is replaced; `none` for the last expression that was used -/
  expression : Option Regex
  /-- how the expression is written -/
  form : RegexForm
  /-- what takes its place -/
  replacement : List Replacement
  /-- whether all matches are replaced -/
  all : Bool := false
  /-- the number of the first match that is replaced -/
  first : Nat := 1
  /-- whether the line is written if there is a replacement -/
  prints : Bool := false
  /-- the file that the line is written to then -/
  file : Option Octets := none

/-- What a command does. -/
inductive EditAction where
  /-- the commands up to one at some place are for some lines only -/
  | opens (close : Nat)
  /-- nothing -/
  | closes
  /-- text is written behind the line -/
  | append (text : Octets)
  /-- text is written in front of the line -/
  | insert (text : Octets)
  /-- text takes the place of the line -/
  | change (text : Octets)
  /-- the script goes on at a label, or at its end -/
  | jump (label : Option Octets)
  /-- the script goes on elsewhere if there was a replacement, or if there was none -/
  | jumpIf (replaced : Bool) (label : Option Octets)
  /-- a place to go on at -/
  | label (name : Octets)
  /-- the line is dropped -/
  | delete
  /-- the first line of several is dropped -/
  | deleteFirst
  /-- something with the text that is kept: `h`, `H`, `g`, `G` or `x` -/
  | keep (letter : Char)
  /-- the next line takes the place of the line -/
  | next
  /-- the next line is added -/
  | addNext
  /-- the line is written -/
  | print
  /-- the first line of several is written -/
  | printFirst
  /-- the line is written so that all is seen -/
  | list (width : Option Nat)
  /-- the number of the line is written -/
  | number
  /-- the name of the file is written -/
  | fileName
  /-- the script ends, after the line is written or not -/
  | quit (status : Nat) (prints : Bool)
  /-- a file is written behind the line, or a line of it -/
  | readFile (path : Octets) (single : Bool)
  /-- the line is written to a file, or the first of several -/
  | writeFile (path : Octets) (single : Bool)
  /-- matches are replaced -/
  | substitute (s : Substitution)
  /-- characters are replaced -/
  | exchange (pairs : List (Char × Char))
  /-- the line is emptied -/
  | empty

/-- A command. -/
structure EditCommand where
  /-- the lines that it is for -/
  selection : Selection
  /-- what it does -/
  action : EditAction

instance : Inhabited EditCommand := ⟨{}, .closes⟩

/-! ## Reading -/

/-- How far a script is read. -/
structure EditReading where
  /-- the text that is left -/
  rest : Octets
  /-- how much is read -/
  place : Nat := 0
  /-- whether expressions are in the extended form -/
  extended : Bool
  /-- the commands -/
  commands : Array EditCommand := #[]
  /-- the places of braces that are open, innermost first -/
  braces : List Nat := []
  /-- whether lines are not written by themselves -/
  quiet : Bool := false

/-- Why a script cannot be read. -/
inductive EditError where
  /-- a mistake at a place -/
  | at (place : Nat) (message : Octets)
  /-- a mistake that no place is told of -/
  | general (message : String)

/-- Reads a part of a script, or tells why it cannot be read. -/
abbrev EditReader := StateT EditReading (Except EditError)

namespace EditReader

/-- Stops with a message at the place that is read. -/
def fail {α : Type} (text : String) : EditReader α := do throw (.at (← get).place (octets text))

/-- Reads a character. -/
def take : EditReader (Option Char) := do
  let s ← get
  match s.rest with
  | [] => return none
  | c :: rest =>
    set { s with rest, place := s.place + 1 }
    return some c

/-- The next character. -/
def peek : EditReader (Option Char) := return (← get).rest.head?

/-- Passes over a number of characters. -/
def skip (count : Nat) : EditReader Unit :=
  modify fun s => { s with rest := s.rest.drop count, place := s.place + min count s.rest.length }

/-- Reads the characters of a kind that come next. -/
def takeWhile (p : Char → Bool) : EditReader Octets := do
  let data := (← get).rest.takeWhile p
  skip data.length
  return data

/-- Passes over blanks. -/
def skipBlanks : EditReader Unit := do let _ ← takeWhile isGap

/-- Reads a number, if there is one. -/
def takeNumber : EditReader (Option Nat) := do
  let digits ← takeWhile Char.isDigit
  return if digits.isEmpty then none else some (numberIn 10 digits)

/-- What a backslash in front of a character leaves of both in delimited text. -/
def unescaped (delimiter : Char) (isExpression : Bool) (c : Char) : Octets :=
  if c == 'n' && isExpression then ['\n']
  else if c == '\n' || (c == delimiter && (isExpression || c != '&')) then [c]
  else ['\\', c]

/-- Where in an expression its text is. -/
inductive ExpressionPlace where
  /-- outside brackets -/
  | outside
  /-- between brackets -/
  | inSet
  /-- in the name of a class between brackets, which this sign and a bracket close -/
  | inName (sign : Char)

/-- The text up to a delimiter, and how much is read; `none` if it does not come. A delimiter between
the brackets of an expression does not count. -/
def cutAt (delimiter : Char) (isExpression : Bool) :
    (fuel : Nat) → ExpressionPlace → Octets → Option (Octets × Nat)
  | 0, _, _ | _, _, [] => none
  | fuel + 1, place, c :: rest =>
    let further (text : Octets) (count : Nat) (place : ExpressionPlace) : Option (Octets × Nat) :=
      (cutAt delimiter isExpression fuel place ((c :: rest).drop count)).map
        fun (behind, read) => (text ++ behind, count + read)
    let asItIs (text : Octets) (place : ExpressionPlace) : Option (Octets × Nat) :=
      further text text.length place
    if c == '\n' then none
    else match place, c, rest with
      | .inName sign, c, d :: _ =>
        if c == sign && d == ']' then asItIs [c, d] .inSet else asItIs [c] (.inName sign)
      | .inSet, ']', _ => asItIs [c] .outside
      | .inSet, '\\', 'n' :: _ => further ['\n'] 2 .inSet
      | .inSet, '[', sign :: _ =>
        if sign == ':' || sign == '.' || sign == '=' then asItIs [c, sign] (.inName sign)
        else asItIs [c] .inSet
      | .inSet, _, _ | .inName _, _, _ => asItIs [c] place
      | .outside, c, rest =>
        if c == delimiter then some ([], 1)
        else match c, rest with
          | '\\', d :: _ => further (unescaped delimiter isExpression d) 2 .outside
          | '\\', [] => none
          | '[', rest =>
            if !isExpression then asItIs [c] .outside
            else match rest with
              | '^' :: ']' :: _ => asItIs ['[', '^', ']'] .inSet
              | '^' :: _ => asItIs ['[', '^'] .inSet
              | ']' :: _ => asItIs ['[', ']'] .inSet
              | _ => asItIs [c] .inSet
          | c, _ => asItIs [c] .outside

/-- Reads the text up to a delimiter. -/
def takeDelimited (delimiter : Char) (isExpression : Bool) (error : String) :
    EditReader Octets := do
  let s ← get
  match cutAt delimiter isExpression (s.rest.length + 1) .outside s.rest with
  | some (text, count) =>
    skip count
    return text
  | none =>
    skip (s.rest.takeWhile (· != '\n')).length
    fail error

/-- The character that a backslash in front of a letter stands for. -/
def letterEscape? : Char → Option Char
  | 'a' => some '\x07'
  | 'f' => some '\x0c'
  | 'n' => some '\n'
  | 'r' => some '\r'
  | 't' => some '\t'
  | 'v' => some '\x0b'
  | _ => none

/-- The octet that a backslash with a letter and digits or a sign behind it stands for, and how much
of the text behind the letter belongs to it. -/
def codedOctet? (letter : Char) (rest : Octets) : Option (Char × Nat) :=
  let coded (base most : Nat) : Option (Char × Nat) :=
    let digits := (rest.take most).takeWhile (isDigitOf base)
    if digits.isEmpty then none
    else some (Char.ofNat (numberIn base digits % 256), digits.length)
  match letter with
  | 'd' => coded 10 3
  | 'o' => coded 8 3
  | 'x' => coded 16 2
  | 'c' => rest.head?.map fun c => (Char.ofNat (c.toUpper.toNat ^^^ 0x40), 1)
  | letter => (letterEscape? letter).map (·, 0)

/-- A text with octets in the place of what stands for them. -/
def withOctets : (fuel : Nat) → Octets → Octets
  | 0, text => text
  | fuel + 1, '\\' :: c :: rest =>
    match codedOctet? c rest with
    | some (octet, count) => octet :: withOctets fuel (rest.drop count)
    | none => '\\' :: c :: withOctets fuel rest
  | fuel + 1, c :: rest => c :: withOctets fuel rest
  | _, [] => []

/-- Reads an expression; an empty one stands for the last that was used. -/
def expressionOf (form : RegexForm) (text : Octets) : EditReader (Option Regex) := do
  if text.isEmpty then return none
  else
    match readRegex form (withOctets text.length text) with
    | .ok e => return some e
    | .error .misplacedClass => throw (.general RegexError.misplacedClass.message)
    | .error error => fail error.message

/-- The form of expressions with the letters that stand behind them. -/
def formOf (letters : Octets) : EditReader RegexForm := do
  let extended := (← get).extended
  return {
    extended
    strict := true
    anyCase := letters.contains 'I' || letters.contains 'i'
    lines := letters.contains 'M' || letters.contains 'm' }

/-- Reads an address, if there is one. -/
def takeAddress : EditReader (Option Address) := do
  match ← peek with
  | some '$' =>
    skip 1
    return some .last
  | some '/' =>
    skip 1
    expression '/'
  | some '\\' =>
    skip 1
    match ← take with
    | some c => expression c
    | none => fail "unterminated address regex"
  | some c =>
    if c.isDigit then
      let first := (← takeNumber).getD 0
      if (← peek) == some '~' then
        skip 1
        return some (.every first ((← takeNumber).getD 0))
      else return some (.line first)
    else return none
  | none => return none
where
  /-- Reads an expression up to its delimiter. -/
  expression (delimiter : Char) : EditReader (Option Address) := do
    let text ← takeDelimited delimiter true "unterminated address regex"
    let letters ← takeWhile fun c => c == 'I' || c == 'M'
    let form ← formOf letters
    return some (.matching (← expressionOf form text) form)

/-- Reads the end of a range. -/
def takeRangeEnd : EditReader RangeEnd := do
  skipBlanks
  match ← peek with
  | some '+' =>
    skip 1
    return .further ((← takeNumber).getD 0)
  | some '~' =>
    skip 1
    return .multiple ((← takeNumber).getD 0)
  | _ =>
    match ← takeAddress with
    | some address => return .at address
    | none =>
      skip 1
      fail "unexpected \x60,'"

/-- Reads the lines that a command is for. -/
def takeSelection : EditReader Selection := do
  match ← peek with
  | some '+' | some '~' =>
    skip 1
    let _ ← takeNumber
    fail "invalid usage of +N or ~N as first address"
  | _ => pure ()
  let first ← takeAddress
  skipBlanks
  let mut ending := none
  if first.isSome && (← peek) == some ',' then
    skip 1
    ending := some (← takeRangeEnd)
  skipBlanks
  match first, ending with
  | some (.line 0), some (.at (.matching ..)) => pure ()
  | some (.line 0), _ =>
    skip 1
    fail "invalid usage of line address 0"
  | _, _ => pure ()
  let mut negated := false
  if (← peek) == some '!' then
    skip 1
    skipBlanks
    negated := true
    if (← peek) == some '!' then
      skip 1
      fail "multiple \x60!'s"
  return { first, ending, negated }

/-- Passes over the end of a command. -/
def endCommand : EditReader Unit := do
  skipBlanks
  match ← peek with
  | none | some '\x7d' | some '#' => return ()
  | some '\n' | some ';' => skip 1
  | some '\r' => skip 1
  | some _ =>
    skip 1
    fail "extra characters after command"

/-- Text with the backslashes in front of characters taken away, up to the end of a line that no
backslash stands in front of; and how much is read. -/
def textLines : Octets → Octets × Nat
  | [] => ([], 0)
  | ['\\'] => ([], 1)
  | '\\' :: c :: rest =>
    let (text, count) := textLines rest
    (c :: text, count + 2)
  | '\n' :: _ => ([], 1)
  | c :: rest =>
    let (text, count) := textLines rest
    (c :: text, count + 1)

/-- Reads the text of a command that writes some. -/
def takeText : EditReader Octets := do
  skipBlanks
  let s ← get
  if s.rest.isEmpty then fail "expected \\ after \x60a', \x60c' or \x60i'"
  match s.rest with
  | ['\\'] =>
    skip 1
    return []
  | '\\' :: rest =>
    let blanks := rest.takeWhile isGap
    match rest.drop blanks.length with
    | '\n' :: _ => skip (blanks.length + 2)
    | [] => skip (blanks.length + 1)
    | _ => skip 1
  | _ => pure ()
  let (text, count) := textLines (← get).rest
  skip count
  return text ++ ['\n']

/-- Reads a name up to the end of the line. -/
def takePath : EditReader Octets := do
  skipBlanks
  let path ← takeWhile (· != '\n')
  if path.isEmpty then fail "missing filename in r/R/w/W commands"
  skip 1
  return path

/-- Reads the label that a command goes on at. -/
def takeLabel : EditReader (Option Octets) := do
  skipBlanks
  let label ← takeWhile fun c => !isSpace c && c != ';' && c != '\x7d'
  endCommand
  return if label.isEmpty then none else some label

/-- The parts of the text that takes the place of a match; `begun` is text in front of it, its last
character first. -/
def replacementOf (begun : Octets) : (fuel : Nat) → Octets → List Replacement
  | 0, _ => []
  | fuel + 1, data =>
    let close (rest : List Replacement) : List Replacement :=
      if begun.isEmpty then rest else .text begun.reverse :: rest
    match data with
    | [] => close []
    | '&' :: rest => close (.group 0 :: replacementOf [] fuel rest)
    | '\\' :: c :: rest =>
      if c.isDigit then
        close (.group (c.toNat - '0'.toNat) :: replacementOf [] fuel rest)
      else if (octets "ULEul").contains c then
        close (.letters c :: replacementOf [] fuel rest)
      else
        match codedOctet? c rest with
        | some (octet, count) => replacementOf (octet :: begun) fuel (rest.drop count)
        | none => replacementOf (c :: begun) fuel rest
    | c :: rest => replacementOf (c :: begun) fuel rest

/-- The number of groups of an expression; `inSet` tells whether a set of characters is open. -/
def groupCount (extended : Bool) : (inSet : Bool) → Octets → Nat
  | true, c :: rest => groupCount extended (c != ']') rest
  | false, '[' :: '^' :: ']' :: rest => groupCount extended true rest
  | false, '[' :: ']' :: rest => groupCount extended true rest
  | false, '[' :: rest => groupCount extended true rest
  | false, '\\' :: '(' :: rest => (if extended then 0 else 1) + groupCount extended false rest
  | false, '\\' :: _ :: rest => groupCount extended false rest
  | false, '(' :: rest => (if extended then 1 else 0) + groupCount extended false rest
  | false, _ :: rest => groupCount extended false rest
  | _, [] => 0

/-- Reads the letters behind a replacement. -/
def takeFlags : (fuel : Nat) → (letters : Octets) → Substitution →
    EditReader (Octets × Substitution)
  | 0, letters, s => return (letters, s)
  | fuel + 1, letters, s => do
    match ← peek with
    | some 'g' =>
      skip 1
      if s.all then fail "multiple \x60g' options to \x60s' command"
      takeFlags fuel letters { s with all := true }
    | some 'p' =>
      skip 1
      if s.prints then fail "multiple \x60p' options to \x60s' command"
      takeFlags fuel letters { s with prints := true }
    | some 'w' =>
      skip 1
      let path ← takePath
      return (letters, { s with file := some path })
    | some 'e' =>
      skip 1
      takeFlags fuel letters s
    | some c =>
      if c == 'i' || c == 'I' || c == 'm' || c == 'M' then
        skip 1
        takeFlags fuel (c :: letters) s
      else if c.isDigit then
        let n := (← takeNumber).getD 0
        if n == 0 then fail "number option to \x60s' command may not be zero"
        else if letters.contains '1' then fail "multiple number options to \x60s' command"
        else takeFlags fuel ('1' :: letters) { s with first := n }
      else if isGap c || c == '\n' || c == ';' || c == '\x7d' || c == '#' || c == '\r' then
        if isGap c then
          skipBlanks
          match ← peek with
          | some d =>
            if d.isDigit || (octets "gpwiIemM").contains d then takeFlags fuel letters s
            else
              endCommand
              return (letters, s)
          | none => return (letters, s)
        else
          endCommand
          return (letters, s)
      else
        skip 1
        fail "unknown option to \x60s'"
    | none => return (letters, s)

/-- Reads a replacement of matches. -/
def takeSubstitution : EditReader EditAction := do
  let error := "unterminated \x60s' command"
  match ← take with
  | none => fail error
  | some delimiter =>
    let text ← takeDelimited delimiter true error
    let replacement ← takeDelimited delimiter false error
    let parts := replacementOf [] (replacement.length + 1) replacement
    let plain : Substitution := { expression := none, form := ← formOf [], replacement := parts }
    let (letters, s) ← takeFlags ((← get).rest.length + 1) [] plain
    let form ← formOf letters
    let expression ← expressionOf form text
    let highest := parts.foldl
      (fun n part => match part with
        | .group k => max n k
        | _ => n)
      0
    if !text.isEmpty && groupCount form.extended false text < highest then
      fail ("invalid reference \\" ++ toString highest ++ " on \x60s' command's RHS")
    return .substitute { s with expression, form }

/-- The characters of an exchange. -/
def exchanged : (fuel : Nat) → Octets → Octets
  | 0, text => text
  | fuel + 1, '\\' :: c :: rest =>
    if c == '\\' then '\\' :: exchanged fuel rest
    else match codedOctet? c rest with
      | some (octet, count) => octet :: exchanged fuel (rest.drop count)
      | none => '\\' :: exchanged fuel (c :: rest)
  | fuel + 1, c :: rest => c :: exchanged fuel rest
  | _, [] => []

/-- Reads an exchange of characters. -/
def takeExchange : EditReader EditAction := do
  let error := "unterminated \x60y' command"
  match ← take with
  | none => fail error
  | some delimiter =>
    let takeCharacters : EditReader (List Char) := do
      let text ← takeDelimited delimiter false error
      return characters (exchanged text.length text)
    let first ← takeCharacters
    let second ← takeCharacters
    if first.length != second.length then
      skip 1
      fail "strings for \x60y' command are different lengths"
    endCommand
    return .exchange (first.zip second)

/-- Reads what a command does, by its letter. -/
def takeAction (letter : Char) (selection : Selection) : EditReader EditAction := do
  let single (action : EditAction) : EditReader EditAction := do
    endCommand
    return action
  let onlyOne : EditReader Unit := do
    if selection.ending.isSome then fail "command only uses one address"
  match letter with
  | '\x7b' =>
    modify fun s => { s with braces := s.commands.size :: s.braces }
    return .opens 0
  | '\x7d' =>
    let s ← get
    match s.braces with
    | [] => fail "unexpected \x60\x7d'"
    | place :: rest =>
      if selection.first.isSome then fail "\x60\x7d' doesn't want any addresses"
      let close := s.commands.size
      set { s with
        braces := rest
        commands := s.commands.modify place ({ · with action := .opens close }) }
      single .closes
  | 'a' => return .append (← takeText)
  | 'i' => return .insert (← takeText)
  | 'c' => return .change (← takeText)
  | ':' =>
    if selection.first.isSome then fail ": doesn't want any addresses"
    skipBlanks
    let label ← takeWhile fun c => !isSpace c && c != ';'
    if label.isEmpty then fail "\":\" lacks a label"
    let _ ← takeWhile fun c => isSpace c || c == ';'
    return .label label
  | 'b' => return .jump (← takeLabel)
  | 't' => return .jumpIf true (← takeLabel)
  | 'T' => return .jumpIf false (← takeLabel)
  | 'd' => single .delete
  | 'D' => single .deleteFirst
  | 'h' | 'H' | 'g' | 'G' | 'x' => single (.keep letter)
  | 'n' => single .next
  | 'N' => single .addNext
  | 'p' => single .print
  | 'P' => single .printFirst
  | 'l' =>
    skipBlanks
    let width ← takeNumber
    single (.list width)
  | '=' => single .number
  | 'F' => single .fileName
  | 'z' => single .empty
  | 'q' | 'Q' =>
    onlyOne
    skipBlanks
    let status := (← takeNumber).getD 0
    single (.quit (status % 256) (letter == 'q'))
  | 'r' => return .readFile (← takePath) false
  | 'R' => return .readFile (← takePath) true
  | 'w' => return .writeFile (← takePath) false
  | 'W' => return .writeFile (← takePath) true
  | 's' => takeSubstitution
  | 'y' => takeExchange
  | c => fail (octetText c)
where
  /-- The message about a letter that is no command. -/
  octetText (c : Char) : String := "unknown command: \x60" ++ String.singleton c ++ "'"

/-- Reads the commands of a script. -/
def takeCommands : (fuel : Nat) → EditReader Unit
  | 0 => return ()
  | fuel + 1 => do
    let _ ← takeWhile fun c => isSpace c || c == ';'
    match ← peek with
    | none => return ()
    | some '#' =>
      let s ← get
      if s.place == 0 && s.rest[1]? == some 'n' then set { s with quiet := true }
      let _ ← takeWhile (· != '\n')
      takeCommands fuel
    | some _ =>
      let selection ← takeSelection
      match ← take with
      | none => fail "missing command"
      | some letter =>
        let action ← takeAction letter selection
        modify fun s =>
          { s with commands := s.commands.push ⟨selection, action⟩ }
        takeCommands fuel

end EditReader

/-- A script that is read: its commands, and whether lines are not written by themselves. -/
structure EditScript where
  /-- its commands -/
  commands : Array EditCommand
  /-- whether lines are not written by themselves -/
  quiet : Bool

/-- Whether a label is defined in commands. -/
def hasLabel (commands : Array EditCommand) (name : Octets) : Bool :=
  commands.any fun command =>
    match command.action with
    | .label other => other == name
    | _ => false

/-- A label that a command goes on at and that is not defined. -/
def missingLabel? (commands : Array EditCommand) : Option Octets :=
  commands.toList.findSome? fun command =>
    match command.action with
    | .jump (some name) | .jumpIf _ (some name) =>
      if hasLabel commands name then none else some name
    | _ => none

/-- The number of the piece that a place of a script lies in, and the place in it. Pieces are
numbered from 1 on, and a line feed stands between them. -/
def placeInPieces (place : Nat) : List Octets → Nat × Nat
  | [] => (1, place)
  | piece :: rest =>
    if place ≤ piece.length || rest.isEmpty then (1, place)
    else
      let (number, place) := placeInPieces (place - piece.length - 1) rest
      (number + 1, place)

/-- The wording of a mistake in a script, and the status of the program then. -/
def EditError.told (pieces : List Octets) : EditError → Octets × Nat
  | .at place message =>
    let (number, place) := placeInPieces place pieces
    (octets "-e expression #" ++ digits number ++ octets ", char " ++ digits place ++
      octets ": " ++ message, 1)
  | .general message => (octets message, 4)

/-- The script that several pieces make, each of which stands on lines of its own; or what is wrong
with it and the status of the program then. -/
def readEditScript (extended : Bool) (pieces : List Octets) :
    Except (Octets × Nat) EditScript :=
  let text := joinWith ['\n'] pieces
  match (EditReader.takeCommands (text.length + 1)).run { rest := text, extended } with
  | .error error => .error (error.told pieces)
  | .ok (_, s) =>
    if !s.braces.isEmpty then
      .error (octets "-e expression #1, char 0: unmatched \x60\x7b'", 1)
    else match missingLabel? s.commands with
      | some name => .error (octets "can't find label for jump to \x60" ++ name ++ ['\''], 1)
      | none => .ok ⟨s.commands, s.quiet⟩

end LinksBinding.Shell
