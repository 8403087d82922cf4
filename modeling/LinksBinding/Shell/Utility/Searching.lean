import LinksBinding.Shell.Regex
import LinksBinding.Shell.Utility.Options

/-!
# Searching lines

The program `grep`: it writes the lines of files that match a pattern, or parts of them, or only
tells that there are some.
-/

namespace LinksBinding.Shell

open Session

/-- The options of `grep`. -/
def grepTable : OptionTable :=
  { plain := "EFGPivwxcLlqsonHhrRzabyUT", valued := "efmABCdD8",
    long := [("extended-regexp", 'E'), ("fixed-strings", 'F'), ("basic-regexp", 'G'),
      ("perl-regexp", 'P'), ("ignore-case", 'i'), ("invert-match", 'v'), ("word-regexp", 'w'),
      ("line-regexp", 'x'), ("count", 'c'), ("files-without-match", 'L'),
      ("files-with-matches", 'l'), ("quiet", 'q'), ("silent", 'q'), ("no-messages", 's'),
      ("only-matching", 'o'), ("line-number", 'n'), ("with-filename", 'H'), ("no-filename", 'h'),
      ("recursive", 'r'), ("regexp", 'e'), ("file", 'f'), ("max-count", 'm'),
      ("after-context", 'A'), ("before-context", 'B'), ("context", 'C'), ("text", 'a'),
      ("byte-offset", 'b'), ("include", 'd'), ("exclude", 'D'), ("null-data", 'z'),
      ("color", '8'), ("colour", '8')] }

/-- What lines are searched for. -/
structure Wanted where
  /-- the expressions, one of which must match -/
  expressions : List Regex
  /-- how they are written -/
  form : RegexForm
  /-- whether a match must be a whole word -/
  words : Bool
  /-- whether a match must be the whole line -/
  lines : Bool

namespace Wanted

/-- Whether a match may stand where it is. -/
def admits (wanted : Wanted) (subject : Subject) (found : Match) : Bool :=
  (!wanted.lines || (found.start == 0 && found.ending == subject.chars.size)) &&
    (!wanted.words || (!subject.isWordBefore found.start && !subject.isWord found.ending))

/-- The matches of an expression from a place on that end at some place or before it; `length` goes
down to find shorter ones. -/
def shorter? (wanted : Wanted) (subject : Subject) (e : Regex) (start : Nat) :
    (length : Nat) → Option Match
  | 0 => none
  | length + 1 =>
    let cut : Subject := { subject with chars := subject.chars.extract 0 (start + length) }
    match e.matchAt? cut start with
    | some (ending, groups) =>
      if ending == start + length && wanted.admits subject ⟨start, ending, groups⟩ then
        some ⟨start, ending, groups⟩
      else wanted.shorter? subject e start length
    | none => wanted.shorter? subject e start length

/-- The match of an expression at a place, if there is one that may stand there. -/
def matchAt? (wanted : Wanted) (subject : Subject) (start : Nat) (e : Regex) : Option Match :=
  match e.matchAt? subject start with
  | none => none
  | some (ending, groups) =>
    if wanted.admits subject ⟨start, ending, groups⟩ then some ⟨start, ending, groups⟩
    else if wanted.words then wanted.shorter? subject e start (ending - start)
    else none

/-- The longest of several matches. -/
def longest : List Match → Option Match
  | [] => none
  | found :: rest =>
    match longest rest with
    | some other => if found.ending < other.ending then some other else some found
    | none => some found

/-- The first match from a place on, within some number of places. -/
def find? (wanted : Wanted) (subject : Subject) : (count : Nat) → Nat → Option Match
  | 0, _ => none
  | count + 1, start =>
    match longest (wanted.expressions.filterMap (wanted.matchAt? subject start)) with
    | some found => some found
    | none => wanted.find? subject count (start + 1)

/-- The first match in a line. -/
def findIn? (wanted : Wanted) (subject : Subject) (start : Nat) : Option Match :=
  wanted.find? subject (subject.chars.size + 1 - start) start

/-- All matches in a line that are not empty. -/
def allIn (wanted : Wanted) (subject : Subject) : (fuel : Nat) → Nat → List Match
  | 0, _ => []
  | fuel + 1, start =>
    match wanted.findIn? subject start with
    | none => []
    | some found =>
      if found.ending == found.start then wanted.allIn subject fuel (found.start + 1)
      else found :: wanted.allIn subject fuel found.ending

end Wanted

/-- An expression that matches a text as it is. -/
def literalRegex (text : Octets) : Regex :=
  (characters text).foldr (fun c e => .append (.set (.single c)) e) .empty

/-- A pattern with classes of digits and groups that are not counted, in the extended form. -/
def withoutShortClasses : Octets → Octets
  | '\\' :: 'd' :: rest => octets "[0-9]" ++ withoutShortClasses rest
  | '\\' :: 'D' :: rest => octets "[^0-9]" ++ withoutShortClasses rest
  | '\\' :: c :: rest => '\\' :: c :: withoutShortClasses rest
  | '(' :: '?' :: ':' :: rest => '(' :: withoutShortClasses rest
  | c :: rest => c :: withoutShortClasses rest
  | [] => []

/-- The marks in front of a line that is written. -/
structure LineLabel where
  /-- the path of the file, if it is shown -/
  path : Option Octets
  /-- whether the number of the line is shown -/
  numbered : Bool
  /-- whether the place of its first byte is shown -/
  placed : Bool

/-- The text of a label; `mark` stands behind each part. -/
def LineLabel.text (label : LineLabel) (mark : Char) (number place : Nat) : Octets :=
  (match label.path with
    | some path => path ++ [mark]
    | none => []) ++
    (if label.numbered then Text.digits number ++ [mark] else []) ++
    if label.placed then Text.digits place ++ [mark] else []

/-- A line of a file, its number and the place of its first byte. -/
structure NumberedLine where
  /-- the line -/
  text : Octets
  /-- its number -/
  number : Nat
  /-- the place of its first byte -/
  place : Nat

/-- The lines of some data with their numbers and places. -/
def numberedLines (lines : List Octets) : List NumberedLine :=
  (lines.foldl
    (fun (done, number, place) text =>
      (⟨text, number, place⟩ :: done, number + 1, place + text.length + 1))
    (([] : List NumberedLine), 1, 0)).1.reverse

/-- Writes lines that are chosen and those around them; `last` is the number of the last line that
is written. -/
def writeAround (label : LineLabel) (before after : Nat) (chosen : List Nat) :
    List NumberedLine → (last : Nat) → List Octets → List Octets
  | [], _, done => done
  | line :: rest, last, done =>
    let isChosen := chosen.contains line.number
    let near := chosen.any fun n => n ≤ line.number + before && line.number ≤ n + after
    if near then
      let gap : List Octets := if last != 0 && last + 1 < line.number then [octets "--\n"] else []
      let text := label.text (if isChosen then ':' else '-') line.number line.place ++ line.text ++
        ['\n']
      writeAround label before after chosen rest line.number (text :: gap ++ done)
    else writeAround label before after chosen rest last done

/-- The paths of all files below paths. -/
def filesBelow (files : FileSystem) (directory : Place) : (fuel : Nat) → List Octets → List Octets
  | 0, paths => paths
  | fuel + 1, paths =>
    paths.flatMap fun path =>
      match files.find true directory path with
      | .ok (place, .directory) =>
        let start := if path.getLast? == some '/' then path else path ++ ['/']
        filesBelow files directory fuel ((files.namesIn place).map (start ++ ·))
      | _ => [path]

/-- Reads the patterns of a search, or tells why they cannot be read; also returns repetitions of
nothing that are passed over. -/
def readWanted (a : Arguments) (patterns : List Octets) :
    Except RegexError (Wanted × List String) := do
  let extended := a.last? ['E', 'F', 'G', 'P']
  let form : RegexForm :=
    { extended := extended == some 'E' || extended == some 'P', anyCase := a.has 'i' || a.has 'y' }
  let found ← patterns.mapM fun pattern =>
    if extended == some 'F' then .ok (literalRegex pattern, [])
    else if extended == some 'P' then readWatchedRegex form (withoutShortClasses pattern)
    else readWatchedRegex form pattern
  return (⟨found.map (·.1), form, a.has 'w', a.has 'x'⟩, found.flatMap (·.2))

/-- Searches the lines of one file: whether there are some. -/
def grepIn (a : Arguments) (wanted : Wanted) (label : LineLabel) (path data : Octets) :
    Session Bool := do
  let closing := if a.has 'z' then '\x00' else '\n'
  let lines := numberedLines (recordsOf closing data)
  let subjectOf (line : NumberedLine) : Subject := .of wanted.form line.text
  let hits := lines.filter fun line => (wanted.findIn? (subjectOf line) 0).isSome != a.has 'v'
  let number? (letter : Char) : Option Nat := (a.value? letter).bind natOf?
  let hits := match number? 'm' with
    | some most => hits.take most
    | none => hits
  let found := !hits.isEmpty
  let named := label.path.elim [] (· ++ [':'])
  let tellBinary : Session Unit :=
    putErrorLine (octets "grep: " ++ path ++ octets ": binary file matches")
  let anything := a.has 'a' || a.has 'z'
  let write (pieces : List Octets) : Session Unit := do
    let shown := pieces.takeWhile fun piece => anything || !(characters piece).any isStray
    put shown.flatten
    if shown.length < pieces.length then tellBinary
  if a.has 'q' then return found
  else if a.has 'l' then
    if found then put (path ++ ['\n'])
  else if a.has 'L' then
    if !found then put (path ++ ['\n'])
  else if a.has 'c' then put (named ++ Text.digits hits.length ++ ['\n'])
  else if data.contains '\x00' && !anything && found then tellBinary
  else if a.has 'o' then
    if !a.has 'v' then
      write <| hits.flatMap fun line =>
        let subject := subjectOf line
        (wanted.allIn subject (line.text.length + 1) 0).map fun found =>
          let before := (Match.piece subject.chars 0 found.start).length
          label.text ':' line.number (line.place + before) ++ found.text subject.chars 0 ++ ['\n']
  else
    let around := (number? 'C').getD 0
    let before := (number? 'B').getD around
    let after := (number? 'A').getD around
    if before == 0 && after == 0 then
      write <| hits.map fun line =>
        label.text ':' line.number line.place ++ line.text ++ [closing]
    else write (writeAround label before after (hits.map (·.number)) lines 0 []).reverse
  return found

/-- Words in which a number behind a dash is written as lines of context. -/
def withOldContext (words : List Octets) : List Octets :=
  words.map fun word =>
    match word with
    | '-' :: rest => if !rest.isEmpty && rest.all Char.isDigit then '-' :: 'C' :: rest else word
    | word => word

/-- Searches lines, with options in front of those that are given. -/
def grepWith (letters : String) : Program := fun _ words => do
  let usage : Session Unit := do
    putErrorLine (octets "Usage: grep [OPTION]... PATTERNS [FILE]...")
    putErrorLine (octets "Try 'grep --help' for more information.")
    setStatus 2
  let words := words.filter fun word => nameOf word != "--color"
  let words := (if letters == "" then [] else [octets letters]) ++ withOldContext words
  match grepTable.readWords (words.length + 1) words with
  | .error error => do
    programError "grep" error.message
    usage
  | .ok a =>
    let given := a.values 'e'
    let mut fromFiles := #[]
    for path in a.values 'f' do
      match ← readInput path with
      | .ok data => fromFiles := fromFiles ++ (linesOf data).toArray
      | .error error => failWith "grep" 2 (path ++ octets (": " ++ error.message))
    let explicit := a.has 'e' || a.has 'f'
    match explicit, a.operands with
    | false, [] => usage
    | explicit, operands =>
      let patterns :=
        if explicit then given.flatMap (·.splitOn '\n') ++ fromFiles.toList
        else (operands.headD []).splitOn '\n'
      let operands := if explicit then operands else operands.drop 1
      match readWanted a patterns with
      | .error error => failWith "grep" 2 (octets error.message)
      | .ok (wanted, ignored) =>
        for sign in ignored do
          programError "grep" (octets ("warning: " ++ sign ++ " at start of expression"))
        let world ← get
        let recursive := a.has 'r' || a.has 'R'
        let paths :=
          if recursive then
            filesBelow world.files world.process.directory 20
              (if operands.isEmpty then [['.']] else operands)
          else inputPaths operands
        let several := (1 < paths.length || recursive || a.has 'H') && !a.has 'h'
        let mut any := false
        let mut failed := (← process).status == 2
        for path in paths do
          let shown := if path == ['-'] then octets "(standard input)" else path
          let shown := if recursive && operands.isEmpty then shown.drop 2 else shown
          match ← readInput path with
          | .ok data =>
            let label : LineLabel := ⟨if several then some shown else none, a.has 'n', a.has 'b'⟩
            let found ← grepIn a wanted label shown data
            any := any || (found != a.has 'L')
          | .error error =>
            failed := true
            if !a.has 's' then programError "grep" (path ++ octets (": " ++ error.message))
        setStatus (if failed && !(a.has 'q' && any) then 2 else if any then 0 else 1)

/-- Searches lines. -/
def grep : Program := grepWith ""

end LinksBinding.Shell
