import LinksBinding.Shell.Pattern
import LinksBinding.Shell.Permissions
import LinksBinding.Shell.Utility.Paths

/-!
# Finding files

The program `find`: it goes through directories and what is in them, in the order of their names,
and evaluates an expression for every file. Parts of an expression can do something with the file.
-/

namespace LinksBinding.Shell

open Text Session

/-! ## Expressions -/

/-- A number that something is compared with. -/
inductive Compared where
  /-- it is more -/
  | more (n : Nat)
  /-- it is less -/
  | less (n : Nat)
  /-- it is the same -/
  | same (n : Nat)

/-- Whether a number compares as it should. -/
def Compared.holds (n : Nat) : Compared → Bool
  | .more m => m < n
  | .less m => n < m
  | .same m => n == m

/-- An expression about a file. -/
inductive Finding where
  /-- always holds -/
  | always
  /-- never holds -/
  | never
  /-- the name matches a pattern -/
  | named (folds : Bool) (pattern : Octets)
  /-- the path matches a pattern -/
  | onPath (folds : Bool) (pattern : Octets)
  /-- it is of one of some types -/
  | ofType (letters : Octets)
  /-- nothing is in it -/
  | empty
  /-- it may be read, written or run -/
  | allows (letter : Char)
  /-- it has these permissions -/
  | permitted (sign : Option Char) (mode : Nat)
  /-- it has some size, in units -/
  | sized (unit : Nat) (size : Compared)
  /-- it was changed some units of time ago -/
  | changed (unit : Nat) (age : Compared)
  /-- it was changed later than another file -/
  | newer (path : Octets)
  /-- writes the path and an octet -/
  | print (closing : Char)
  /-- writes what is known of it by a format -/
  | printBy (format : Octets)
  /-- runs a program with the path -/
  | run (words : List Octets)
  /-- runs a program once with the paths of all files -/
  | gather (number : Nat)
  /-- takes it away -/
  | delete
  /-- does not go into it -/
  | prune
  /-- goes no further -/
  | quit
  /-- the other does not hold -/
  | not (other : Finding)
  /-- both hold -/
  | both (left right : Finding)
  /-- one of them holds -/
  | either (left right : Finding)
  /-- the second one holds, whatever the first one does -/
  | afterwards (left right : Finding)

/-- Why an expression cannot be read. -/
inductive FindingError where
  /-- a word that is no part of an expression -/
  | unknown (word : Octets)
  /-- a part without what belongs to it -/
  | missing (word : Octets)
  /-- a path behind the expression -/
  | latePath (word : Octets)
  /-- a type that is none -/
  | unknownType (letters : Octets)
  /-- a number that is none -/
  | wrongNumber (word text : Octets)
  /-- a depth that is none -/
  | wrongDepth (word text : Octets)
  /-- an operator with nothing in front of it -/
  | nothingBefore (word : Octets)
  /-- an operator with nothing behind it -/
  | nothingBehind (word : Octets)
  /-- a parenthesis that is not closed -/
  | openParenthesis
  /-- a parenthesis that was not opened -/
  | closingParenthesis
  /-- an expression that ends too early -/
  | ended

/-- The wording of such a mistake. -/
def FindingError.message : FindingError → Octets
  | .unknown word => octets "unknown predicate \x60" ++ word ++ ['\'']
  | .missing word => octets "missing argument to \x60" ++ word ++ ['\'']
  | .latePath word => octets "paths must precede expression: \x60" ++ word ++ ['\'']
  | .unknownType letters => octets "Unknown argument to -type: " ++ letters
  | .wrongNumber word text =>
    octets "non-numeric argument to " ++ word ++ octets ": \x60" ++ text ++ ['\'']
  | .wrongDepth word text =>
    octets "Expected a positive decimal integer argument to " ++ word ++ octets ", but got " ++
      cited text
  | .nothingBefore word =>
    octets "invalid expression; you have used a binary operator '" ++ word ++
      octets "' with nothing before it."
  | .nothingBehind word => octets "expected an expression after '" ++ word ++ ['\'']
  | .openParenthesis =>
    octets ("invalid expression; I was expecting to find a ')' somewhere but did not see one.")
  | .closingParenthesis => octets "you have too many ')'"
  | .ended => octets "invalid expression"

/-- What holds for a whole search, and the programs that are run at its end. -/
structure SearchPlan where
  /-- how deep it goes -/
  deepest : Option Nat := none
  /-- how deep files are that are looked at -/
  shallowest : Nat := 0
  /-- whether directories come behind what is in them -/
  late : Bool := false
  /-- whether something is done with files, so that their paths are not written -/
  acts : Bool := false
  /-- programs that are run with all paths -/
  gathered : Array (List Octets) := #[]

/-- Reads the words of an expression. -/
abbrev FindingReader := StateT (List Octets × SearchPlan) (Except FindingError)

namespace FindingReader

/-- The next word, if there is one. -/
def peek : FindingReader (Option Octets) := return (← get).1.head?

/-- Passes over a word. -/
def skip : FindingReader Unit := modify fun (words, plan) => (words.drop 1, plan)

/-- Changes the plan. -/
def change (f : SearchPlan → SearchPlan) : FindingReader Unit :=
  modify fun (words, plan) => (words, f plan)

/-- The word that belongs to a part. -/
def argument (word : Octets) : FindingReader Octets := do
  match ← peek with
  | some text =>
    skip
    return text
  | none => throw (.missing word)

/-- The depth that belongs to a part. -/
def depth (word : Octets) : FindingReader Nat := do
  let text ← argument word
  match natOf? text with
  | some n => return n
  | none => throw (.wrongDepth word text)

/-- The number that belongs to a part, with a sign in front of it and a letter behind it. -/
def compared (word : Octets) (letters : Octets) : FindingReader (Compared × Option Char) := do
  let text ← argument word
  let letter := text.getLast?.filter letters.contains
  let figures := if letter.isSome then text.dropLast else text
  let (form, figures) : (Nat → Compared) × Octets := match figures with
    | '+' :: rest => (.more, rest)
    | '-' :: rest => (.less, rest)
    | rest => (.same, rest)
  match natOf? figures with
  | some n => return (form n, letter)
  | none => throw (.wrongNumber word text)

/-- The words of a program up to the one that ends them, and whether that is a plus sign behind a
place for the path. -/
def programWords (word : Octets) : FindingReader (List Octets × Bool) := do
  let words := (← get).1
  let place := octets "\x7b\x7d"
  let rec split (front : List Octets) : List Octets → Option (List Octets × Bool × List Octets)
    | [] => none
    | [';'] :: rest => some (front.reverse, false, rest)
    | ['+'] :: rest =>
      if front.head? == some place then some ((front.drop 1).reverse, true, rest)
      else split (['+'] :: front) rest
    | next :: rest => split (next :: front) rest
  match split [] words with
  | some (program, many, rest) =>
    modify fun (_, plan) => (rest, plan)
    if program.isEmpty then throw (.missing word)
    return (program, many)
  | none => throw (.missing word)

/-- Marks that something is done with files. -/
def acting (finding : Finding) : FindingReader Finding := do
  change ({ · with acts := true })
  return finding

/-- The permissions that octets name. -/
def permissions (word : Octets) : FindingReader Finding := do
  let text ← argument word
  let (sign, rest) := match text with
    | '-' :: rest => (some '-', rest)
    | '/' :: rest => (some '/', rest)
    | rest => (none, rest)
  let octal := !rest.isEmpty && rest.all isOctalDigit
  match if octal then some (numberIn 8 rest) else applyClauses 0 rest with
  | some mode => return .permitted sign mode
  | none => throw (.wrongNumber word text)

/-- A part that is no operator, whose word is read. -/
def readPart (word : Octets) : FindingReader Finding := do
  match nameOf word with
  | "-name" => return .named false (← argument word)
  | "-iname" => return .named true (← argument word)
  | "-path" | "-wholename" => return .onPath false (← argument word)
  | "-ipath" | "-iwholename" => return .onPath true (← argument word)
  | "-type" =>
    let letters := (← argument word).filter (· != ',')
    if letters.isEmpty || !letters.all fun c => (octets "bcdpfls").contains c then
      throw (.unknownType letters)
    return .ofType letters
  | "-empty" => return .empty
  | "-readable" => return .allows 'r'
  | "-writable" => return .allows 'w'
  | "-executable" => return .allows 'x'
  | "-perm" => permissions word
  | "-size" =>
    let (size, letter) ← compared word (octets "cwbkMG")
    let unit := match letter with
      | some 'c' => 1
      | some 'w' => 2
      | some 'k' => 1024
      | some 'M' => 1 <<< 20
      | some 'G' => 1 <<< 30
      | _ => 512
    return .sized unit size
  | "-mtime" | "-ctime" | "-atime" => return .changed 86400000000 (← compared word []).1
  | "-mmin" | "-cmin" | "-amin" => return .changed 60000000 (← compared word []).1
  | "-newer" => return .newer (← argument word)
  | "-true" => return .always
  | "-false" => return .never
  | "-print" => acting (.print '\n')
  | "-print0" => acting (.print (Char.ofNat 0))
  | "-printf" => acting (.printBy (← argument word))
  | "-exec" | "-execdir" =>
    let (program, many) ← programWords word
    let number := (← get).2.gathered.size
    if many then change fun plan => { plan with gathered := plan.gathered.push program }
    acting (if many then .gather number else .run program)
  | "-delete" =>
    change ({ · with late := true })
    acting .delete
  | "-quit" => return .quit
  | "-prune" => return .prune
  | "-depth" | "-d" =>
    change ({ · with late := true })
    return .always
  | "-maxdepth" =>
    let n ← depth word
    change ({ · with deepest := some n })
    return .always
  | "-mindepth" =>
    let n ← depth word
    change ({ · with shallowest := n })
    return .always
  | "-mount" | "-xdev" | "-noleaf" | "-follow" | "-daystart" => return .always
  | _ => throw (if word.head? == some '-' then .unknown word else .latePath word)

/-- What an operator between two expressions makes of them. -/
def operator? (word : Octets) : Option (Nat × (Finding → Finding → Finding)) :=
  match nameOf word with
  | "," => some (0, .afterwards)
  | "-o" | "-or" => some (1, .either)
  | "-a" | "-and" => some (2, .both)
  | _ => none

mutual

/-- Reads an expression whose operators bind at least as tightly as a rank says. -/
def readRank (fuel rank : Nat) : FindingReader Finding :=
  match fuel with
  | 0 => throw .ended
  | fuel + 1 => do
    let first ← if rank == 3 then readSingle fuel else readRank fuel (rank + 1)
    if rank == 3 then return first else readMore fuel rank first

/-- Reads what follows an expression, with operators of a rank. -/
def readMore (fuel rank : Nat) (left : Finding) : FindingReader Finding :=
  match fuel with
  | 0 => throw .ended
  | fuel + 1 => do
    match ← peek with
    | none => return left
    | some word =>
      match operator? word with
      | some (found, join) =>
        if found == rank then
          skip
          if (← peek).isNone then throw (.nothingBehind word)
          let right ← readRank fuel (rank + 1)
          readMore fuel rank (join left right)
        else return left
      | none =>
        if word == [')'] || rank != 2 then return left
        else
          let right ← readRank fuel (rank + 1)
          readMore fuel rank (.both left right)

/-- Reads an expression without operators between others. -/
def readSingle (fuel : Nat) : FindingReader Finding :=
  match fuel with
  | 0 => throw .ended
  | fuel + 1 => do
    match ← peek with
    | none => throw .ended
    | some word =>
      skip
      match nameOf word with
      | "!" | "-not" =>
        if (← peek).isNone then throw (.nothingBehind word)
        return .not (← readSingle fuel)
      | "(" =>
        let inner ← readRank fuel 0
        match ← peek with
        | some [')'] =>
          skip
          return inner
        | _ => throw .openParenthesis
      | ")" => throw .closingParenthesis
      | _ =>
        if (operator? word).isSome then throw (.nothingBefore word)
        readPart word
end

/-- Reads a whole expression. -/
def readAll : FindingReader Finding := do
  if (← peek).isNone then return .always
  let finding ← readRank (20 * (← get).1.length + 20) 0
  match ← peek with
  | some _ => throw .closingParenthesis
  | none => return finding

end FindingReader

/-! ## Searching -/

/-- A file that is found. -/
structure FoundFile where
  /-- the path of the directory that the search has started in -/
  start : Octets
  /-- its path -/
  path : Octets
  /-- where it is -/
  place : Place
  /-- what it is -/
  node : Node
  /-- how many directories it is below the start -/
  depth : Nat

/-- What is known during a search. -/
structure SearchState where
  /-- whether the search does not go into the file -/
  pruned : Bool := false
  /-- whether the search is over -/
  stopped : Bool := false
  /-- the paths for programs that are run with all of them, last first -/
  gathered : List (Nat × Octets) := []

/-- Searches for files. -/
abbrev Searcher := StateT SearchState Session

/-- What is known of a file by a letter. -/
def foundFact (facts : FileFacts) (file : FoundFile) : Char → Option Octets
  | '%' => some ['%']
  | 'p' => some file.path
  | 'f' => some (lastName file.path)
  | 'h' => some (if file.path.contains '/' then frontOf file.path else ['.'])
  | 'P' => some ((file.path.drop file.start.length).dropWhile (· == '/'))
  | 'H' => some file.start
  | 's' => some (digits facts.size)
  | 'd' => some (digits file.depth)
  | 'm' => some (digitsIn 8 facts.mode)
  | 'M' => some (typeLetter file.node :: modeLetters facts.mode)
  | 'y' => some [if typeLetter file.node == '-' then 'f' else typeLetter file.node]
  | 'u' | 'g' => some (octets "root")
  | 'U' | 'G' => some ['0']
  | 'l' => some (match file.node with
    | .link path => path
    | _ => [])
  | _ => none

/-- What is known of a file by a format. -/
def foundText (facts : FileFacts) (file : FoundFile) : Octets → Octets
  | '%' :: letter :: rest =>
    (foundFact facts file letter).getD ['%', letter] ++ foundText facts file rest
  | '\\' :: letter :: rest =>
    (match letter with
      | 'n' => ['\n']
      | 't' => ['\t']
      | '0' => [Char.ofNat 0]
      | '\\' => ['\\']
      | letter => ['\\', letter]) ++ foundText facts file rest
  | c :: rest => c :: foundText facts file rest
  | [] => []

/-- Whether a text matches a pattern, with or without regard to case. -/
def matchesName (folds : Bool) (pattern text : Octets) : Bool :=
  let fold (data : Octets) : Octets := if folds then data.map Char.toLower else data
  matchesGlob (globOf ((fold pattern).map (·, false))) (fold text)

/-- Puts a path in the place of each pair of braces. -/
def withPath (path : Octets) : Octets → Octets
  | '\x7b' :: '\x7d' :: rest => path ++ withPath path rest
  | c :: rest => c :: withPath path rest
  | [] => []

/-- Whether an expression holds of a file; what it says is done with the file. -/
def evaluateFinding (invoke : Invoke) (file : FoundFile) : Finding → Searcher Bool
  | .always => return true
  | .never => return false
  | .named folds pattern => return matchesName folds pattern (lastName file.path)
  | .onPath folds pattern => return matchesName folds pattern file.path
  | .ofType letters =>
    return letters.contains (if typeLetter file.node == '-' then 'f' else typeLetter file.node)
  | .empty => do
    let files := (← getThe World).files
    match file.node with
    | .directory => return (files.namesIn file.place).isEmpty
    | .file number => return (files.content number).data.isEmpty
    | _ => return false
  | .allows letter => do
    let facts := factsOf (← getThe World).files file.node
    return letter != 'x' || facts.mode &&& 73 != 0
  | .permitted sign mode => do
    let facts := factsOf (← getThe World).files file.node
    return match sign with
      | some '-' => facts.mode &&& mode == mode
      | some _ => mode == 0 || facts.mode &&& mode != 0
      | none => facts.mode == mode
  | .sized unit size => do
    let facts := factsOf (← getThe World).files file.node
    return size.holds ((facts.size + unit - 1) / unit)
  | .changed unit age => do
    let world ← getThe World
    let facts := factsOf world.files file.node
    return age.holds ((world.process.clock - facts.changed) / unit)
  | .newer path => do
    match ← find path with
    | .ok (_, node) =>
      let files := (← getThe World).files
      return (factsOf files node).changed < (factsOf files file.node).changed
    | .error _ => return false
  | .print closing => do
    put (file.path ++ [closing])
    return true
  | .printBy format => do
    let facts := factsOf (← getThe World).files file.node
    put (foundText facts file format)
    return true
  | .run words => do
    let words := words.map (withPath file.path)
    match ← invoke words with
    | some error =>
      programError "find" (cited (words.headD []) ++ octets (": " ++ error.message))
      setStatus 0
      return false
    | none =>
      let status := (← process).status
      if !(← goesOn) then modify ({ · with stopped := true })
      setStatus 0
      return status == 0
  | .gather number => do
    modify fun s => { s with gathered := (number, file.path) :: s.gathered }
    return true
  | .delete => do
    if file.path == ['.'] then return true
    let files := (← getThe World).files
    if file.node == .directory && !(files.namesIn file.place).isEmpty then
      programError "find"
        (octets "cannot delete " ++ cited file.path ++
          octets (": " ++ PathError.notEmpty.message))
      return false
    modifyFiles (·.remove file.place)
    return true
  | .prune => do
    modify ({ · with pruned := true })
    return true
  | .quit => do
    modify ({ · with stopped := true })
    return true
  | .not other => return !(← evaluateFinding invoke file other)
  | .both left right => do
    if ← evaluateFinding invoke file left then
      if (← get).stopped then return false else evaluateFinding invoke file right
    else return false
  | .either left right => do
    if ← evaluateFinding invoke file left then return true
    else if (← get).stopped then return false
    else evaluateFinding invoke file right
  | .afterwards left right => do
    let _ ← evaluateFinding invoke file left
    if (← get).stopped then return false else evaluateFinding invoke file right

/-- Goes through a file and what is in it. -/
def searchFile (plan : SearchPlan) (look : FoundFile → Searcher Unit) :
    (fuel : Nat) → FoundFile → Searcher Unit
  | 0, _ => return ()
  | fuel + 1, file => do
    let seen := plan.shallowest ≤ file.depth
    modify ({ · with pruned := false })
    if seen && !plan.late && !(← get).stopped then look file
    let enters := file.node == .directory && plan.deepest.all (file.depth < ·) &&
      (plan.late || !(← get).pruned)
    if enters then
      let files := (← getThe World).files
      for name in files.namesIn file.place do
        if !(← get).stopped then
          let place := file.place ++ [name]
          if let some node := (← getThe World).files.nodeAt? place then
            let front := if file.path.getLast? == some '/' then file.path else file.path ++ ['/']
            searchFile plan look fuel
              { file with path := front ++ name, place, node, depth := file.depth + 1 }
    if seen && plan.late && !(← get).stopped then look file

/-- Whether a word begins the expression. -/
def beginsFinding (word : Octets) : Bool :=
  match word with
  | ['('] | ['!'] | [')'] | [','] => true
  | '-' :: _ :: _ => true
  | _ => false

/-- The program `find`. -/
def findFiles : Program := fun invoke words => do
  let words := words.dropWhile fun word => ["-P", "-L", "-H"].contains (nameOf word)
  let starts := words.takeWhile fun word => !beginsFinding word
  let places := if starts.isEmpty then [['.']] else starts
  match FindingReader.readAll.run (words.drop starts.length, {}) with
  | .error error => failWith "find" 1 error.message
  | .ok (finding, _, plan) =>
    let finding := if plan.acts then finding else .both finding (.print '\n')
    let look (file : FoundFile) : Searcher Unit := do
      let _ ← evaluateFinding invoke file finding
    let mut state : SearchState := {}
    let mut failed := false
    for start in places do
      if !state.stopped then
        match ← lookAt false start with
        | .error error =>
          programError "find" (cited start ++ octets (": " ++ error.message))
          failed := true
        | .ok (place, node) =>
          let depth := (← get).files.nodes.length + 1
          let ((), after) ←
            (searchFile plan look depth ⟨start, start, place, node, 0⟩).run state
          state := after
    for number in List.range plan.gathered.size do
      let paths := state.gathered.reverse.filterMap fun (n, path) =>
        if n == number then some path else none
      if !paths.isEmpty && (← goesOn) then
        let words := plan.gathered.getD number []
        match ← invoke (words ++ paths) with
        | some error =>
          programError "find" (cited (words.headD []) ++ octets (": " ++ error.message))
          failed := true
        | none => if (← process).status != 0 then failed := true
    if ← goesOn then setStatus (if failed then 1 else 0)

end LinksBinding.Shell
