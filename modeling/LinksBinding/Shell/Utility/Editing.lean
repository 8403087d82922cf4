import LinksBinding.Shell.Utility.EditScript

/-!
# The stream editor

The program `sed`: it reads one line after the other, carries out the commands of a script on each
and writes what is left of it.
-/

namespace LinksBinding.Shell

open Session Text

/-! ## Lines -/

/-- A line, and whether it was closed. -/
abbrev InputLine := Octets × Bool

/-- Where lines come from. -/
inductive LineSource where
  /-- nowhere -/
  | nothing
  /-- the lines of a file that are left -/
  | lines (lines : List InputLine)
  /-- the input of the program -/
  | input

/-- What is written behind a line. -/
inductive Queued where
  /-- text -/
  | text (data : Octets)
  /-- a file -/
  | file (path : Octets)
  /-- a line -/
  | line (data : Octets)

/-- What is set for a run of the editor. -/
structure EditSetting where
  /-- the commands -/
  commands : Array EditCommand
  /-- whether lines are not written by themselves -/
  quiet : Bool
  /-- whether each file has lines of its own -/
  separate : Bool
  /-- whether files are changed, and what is added to the names of the files as they were -/
  inPlace : Option Octets
  /-- what closes a line -/
  closing : Char
  /-- how long a line may be when all of it is shown -/
  width : Nat

/-- The state of the editor. -/
structure EditState where
  /-- the line -/
  line : Octets := []
  /-- whether the line was closed -/
  closed : Bool := true
  /-- the text that is kept -/
  kept : Octets := []
  /-- the number of the line -/
  number : Nat := 0
  /-- whether there was a replacement in the line -/
  replaced : Bool := false
  /-- what is written behind the line, last first -/
  queue : List Queued := []
  /-- for each command whether its range is open, and the number of its last line -/
  ranges : Array (Option (Option Nat))
  /-- the expression that was used last -/
  expression : Option (Regex × RegexForm) := none
  /-- the next line -/
  ahead : Option InputLine := none
  /-- where lines come from -/
  source : LineSource := .nothing
  /-- the file that lines come from -/
  path : Octets := ['-']
  /-- the files that are left -/
  paths : List Octets
  /-- files that lines are read from one at a time, with what is left of them -/
  readers : List (Octets × List Octets) := []
  /-- files that lines are written to -/
  writers : List (Octets × Nat) := []
  /-- what is to be written to the file that is changed, last piece first -/
  changed : List Octets := []
  /-- whether the last line that was written is not closed -/
  unclosed : Bool := false

/-- Does something with the state of the editor. -/
abbrev Editor := StateT EditState Session

namespace Editor

/-- The lines of data, and whether each is closed. -/
def inputLines (closing : Char) (data : Octets) : List InputLine :=
  let lines := recordsOf closing data
  let whole := data.getLast? == some closing
  lines.zipIdx.map fun (line, n) => (line, whole || n + 1 < lines.length)

/-- A text without the sign that closes it, and whether there was one. -/
def withoutClosing (closing : Char) (data : Octets) : InputLine :=
  if data.getLast? == some closing then (data.dropLast, true) else (data, false)

/-- Writes data as it is. -/
def putRaw (setting : EditSetting) (data : Octets) : Editor Unit := do
  if setting.inPlace.isSome then modify fun s => { s with changed := data :: s.changed }
  else put data

/-- Writes data behind what is written, whose last line is closed first. -/
def putBehind (setting : EditSetting) (data : Octets) : Editor Unit := do
  if (← get).unclosed then putRaw setting [setting.closing]
  modify ({ · with unclosed := false })
  putRaw setting data

/-- Writes a line. -/
def putLine (setting : EditSetting) (line : Octets) (closed : Bool) : Editor Unit := do
  putBehind setting (if closed then line ++ [setting.closing] else line)
  modify ({ · with unclosed := !closed })

/-- Writes the file that is changed. -/
def keepChanges (setting : EditSetting) : Editor Unit := do
  let s ← get
  match setting.inPlace with
  | none => return ()
  | some suffix =>
    if s.path != ['-'] then
      if !suffix.isEmpty then
        match ← Session.readFile s.path with
        | .ok data => let _ ← Session.writeFile .write (s.path ++ suffix) data
        | .error _ => pure ()
      let _ ← Session.writeFile .write s.path s.changed.reverse.flatten
  set { s with changed := [], unclosed := false, path := ['-'] }

/-- Opens the next file that can be read; tells whether there is one. -/
def openNext (setting : EditSetting) : (paths : List Octets) → Editor Bool
  | [] => do
    modify ({ · with paths := [], source := .nothing })
    return false
  | path :: rest => do
    if path == ['-'] && setting.inPlace.isNone then
      modify ({ · with paths := rest, source := .input, path })
      return true
    else
      match ← Session.readFile path with
      | .ok data =>
        modify
          ({ · with paths := rest, source := .lines (inputLines setting.closing data), path })
        return true
      | .error error =>
        let text := match error with
          | .isDirectory =>
            if setting.inPlace.isSome then
              octets "couldn't edit " ++ path ++ octets ": not a regular file"
            else octets "couldn't read " ++ path ++ octets ": Is a directory"
          | error => octets "can't read " ++ path ++ octets (": " ++ error.message)
        let text := if error == .isDirectory && setting.inPlace.isNone then
          octets "read error on " ++ path ++ octets ": Is a directory" else text
        programError "sed" text
        Session.setStatus (if error == .isDirectory then 4 else 2)
        openNext setting rest

/-- The next line of the file that is read. -/
def takeLine (setting : EditSetting) : Editor (Option InputLine) := do
  match (← get).source with
  | .nothing => return none
  | .lines [] => return none
  | .lines (line :: rest) =>
    modify ({ · with source := .lines rest })
    return some line
  | .input =>
    let (data, _) ← Session.readUntil 0 (· == setting.closing) noLimit
    return if data.isEmpty then none else some (withoutClosing setting.closing data)

/-- Looks for the line behind the line, in the next files too unless each has lines of its own. -/
def lookAhead (setting : EditSetting) : (fuel : Nat) → Editor Unit
  | 0 => return ()
  | fuel + 1 => do
    match ← takeLine setting with
    | some line => modify ({ · with ahead := some line })
    | none =>
      modify ({ · with ahead := none })
      if !setting.separate then
        if ← openNext setting (← get).paths then lookAhead setting fuel

/-- The start of the ranges of commands. -/
def freshRanges (commands : Array EditCommand) : Array (Option (Option Nat)) :=
  commands.map fun command =>
    match command.selection.first, command.selection.ending with
    | some (.line 0), some _ => some none
    | _, _ => none

/-- Goes on with the next file that has lines. -/
def startFile (setting : EditSetting) : (fuel : Nat) → Editor Unit
  | 0 => return ()
  | fuel + 1 => do
    keepChanges setting
    if ← openNext setting (← get).paths then
      if setting.separate then
        modify ({ · with number := 0, ranges := freshRanges setting.commands })
      lookAhead setting ((← get).paths.length + 1)
      if (← get).ahead.isNone && setting.separate then startFile setting fuel

/-- Writes what is to be written behind the line. -/
def putQueue (setting : EditSetting) : Editor Unit := do
  let queue := (← get).queue
  modify ({ · with queue := [] })
  for item in queue.reverse do
    match item with
    | .text data => putBehind setting data
    | .line data => putLine setting data true
    | .file path =>
      let found ← if nameOf path == "/dev/stdin" then (.ok <$> Session.readAll 0 : Session _)
        else Session.readFile path
      match found with
      | .ok data => if !data.isEmpty then putBehind setting data
      | .error _ => pure ()

/-- Reads the next line, in the place of the line or behind it; tells whether there is one. -/
def nextLine (setting : EditSetting) (adds : Bool) : Editor Bool := do
  if (← get).ahead.isNone && setting.separate then startFile setting ((← get).paths.length + 1)
  let s ← get
  match s.ahead with
  | none => return false
  | some (line, closed) =>
    set { s with
      line := if adds then s.line ++ setting.closing :: line else line
      closed
      number := s.number + 1
      replaced := false }
    lookAhead setting (s.paths.length + 1)
    return true

/-! ## Selections -/

/-- The expression that is meant, which is the one that was used last if none is given. -/
def meant (expression : Option Regex) (form : RegexForm) : Editor (Option (Regex × RegexForm)) := do
  match expression with
  | some e =>
    modify ({ · with expression := some (e, form) })
    return some (e, form)
  | none => return (← get).expression

/-- Whether an address is that of the line. -/
def isAt (address : Address) : Editor Bool := do
  let s ← get
  match address with
  | .line number => return s.number == number
  | .every first step =>
    return if step == 0 then s.number == first
      else first ≤ s.number && (s.number - first) % step == 0
  | .last => return s.ahead.isNone
  | .matching expression form =>
    match ← meant expression form with
    | some (e, form) => return e.occursIn form s.line
    | none => return false

/-- Whether a command is for the line. -/
def selects (index : Nat) (selection : Selection) : Editor Bool := do
  let s ← get
  let setRange (range : Option (Option Nat)) : Editor Unit :=
    modify fun s => { s with ranges := s.ranges.setIfInBounds index range }
  let chosen ← match selection.first, selection.ending with
    | none, _ => pure true
    | some first, none => isAt first
    | some first, some ending =>
      match s.ranges.getD index none with
      | none =>
        if ← isAt first then
          let stop := match ending with
            | .at (.line number) => some number
            | .further count => some (s.number + count)
            | .multiple of =>
              some (if of == 0 then s.number else (s.number / of + 1) * of)
            | .at _ => none
          if stop.all (s.number < ·) then setRange (some stop)
          pure true
        else pure false
      | some (some stop) =>
        if stop ≤ s.number then setRange none
        pure (s.number ≤ stop)
      | some none =>
        match ending with
        | .at address => if ← isAt address then setRange none
        | _ => pure ()
        pure true
  return chosen != selection.negated

/-! ## Replacements -/

/-- How letters change their case. -/
structure LetterMode where
  /-- all of them -/
  all : Char := 'E'
  /-- the next one -/
  next : Option Char := none

/-- A letter in a case. -/
def letterIn (mode : Char) (c : Char) : Char :=
  if mode == 'U' || mode == 'u' then capitalForm c
  else if mode == 'L' || mode == 'l' then smallForm c
  else c

/-- Text with its letters changed. -/
def changeLetters (mode : LetterMode) (data : Octets) : Octets × LetterMode :=
  if data.isEmpty || (mode.next.isNone && mode.all == 'E') then (data, mode)
  else
    let text := characters data
    let first := text.take 1 |>.map (letterIn (mode.next.getD mode.all))
    (ofCharacters (first ++ (text.drop 1).map (letterIn mode.all)), { mode with next := none })

/-- The text that takes the place of a match. -/
def replacementText (chars : Array Char) (found : Match) (parts : List Replacement) : Octets :=
  let (pieces, _) := parts.foldl
    (fun (pieces, mode) part =>
      let add (data : Octets) : List Octets × LetterMode :=
        let (data, mode) := changeLetters mode data
        (data :: pieces, mode)
      match part with
      | .text data => add data
      | .group number => add (found.text chars number)
      | .letters c =>
        (pieces, if c == 'u' || c == 'l' then { mode with next := some c } else { all := c }))
    (([] : List Octets), ({} : LetterMode))
  pieces.reverse.flatten

/-- Replaces matches from a place on: `count` are passed over, and `done` is the text so far, last
piece first. An empty match directly behind another match does not count. -/
def replaceFrom (s : Substitution) (e : Regex) (subject : Subject) :
    (fuel : Nat) → (place : Nat) → (behind : Option Nat) → (count : Nat) → (done : List Octets) →
      (any : Bool) → Octets × Bool
  | 0, place, _, _, done, any =>
    ((Match.piece subject.chars place subject.chars.size :: done).reverse.flatten, any)
  | fuel + 1, place, behind, count, done, any =>
    let size := subject.chars.size
    let found := if size < place then none else e.find? subject place
    match found with
    | none => ((Match.piece subject.chars place size :: done).reverse.flatten, any)
    | some found =>
      let done := Match.piece subject.chars place found.start :: done
      let next := Match.piece subject.chars found.start (found.start + 1)
      if found.start == found.ending && behind == some found.start then
        replaceFrom s e subject fuel (found.start + 1) none count (next :: done) any
      else
        let count := count + 1
        let old := Match.piece subject.chars found.start found.ending
        let replaces := s.first ≤ count
        let new := if replaces then replacementText subject.chars found s.replacement else old
        let (done, place, behind) :=
          if found.start == found.ending then (next :: new :: done, found.ending + 1, none)
          else (new :: done, found.ending, some found.ending)
        if replaces && !s.all then
          ((Match.piece subject.chars place size :: done).reverse.flatten, true)
        else replaceFrom s e subject fuel place behind count done (any || replaces)

/-! ## Commands -/

/-- The first line of a text of several. -/
def firstLine (text : Octets) : Octets := text.takeWhile (· != '\n')

/-- Writes a line to a file. -/
def putTo (setting : EditSetting) (path line : Octets) (closed : Bool) : Editor Unit := do
  if nameOf path == "/dev/stdout" then putLine setting line closed
  else if nameOf path == "/dev/stderr" then putErrorLine line
  else
    match (← get).writers.lookup path with
    | some index =>
      let _ ← Session.writeTo index (if closed then line ++ ['\n'] else line)
    | none => return ()

/-- How a character is shown. -/
def shownChar (c : Char) : Octets :=
  match c with
  | '\\' => ['\\', '\\']
  | '\x07' => ['\\', 'a']
  | '\x08' => ['\\', 'b']
  | '\x0c' => ['\\', 'f']
  | '\n' => ['\\', 'n']
  | '\r' => ['\\', 'r']
  | '\t' => ['\\', 't']
  | '\x0b' => ['\\', 'v']
  | c =>
    if ' ' ≤ c && c ≤ '~' then [c]
    else
      let figures := digitsIn 8 c.toNat
      '\\' :: List.replicate (3 - figures.length) '0' ++ figures

/-- A text with all of it shown, in lines of a width. -/
def shownLine (width : Nat) (text : Octets) : Octets :=
  let (pieces, _) := text.foldl
    (fun (pieces, column) c =>
      let shown := shownChar c
      if 1 < width && width - 1 < column + shown.length then
        (shown :: ['\\', '\n'] :: pieces, shown.length)
      else (shown :: pieces, column + shown.length))
    (([] : List Octets), 0)
  pieces.reverse.flatten ++ ['$']

/-- What comes behind a command. -/
inductive EditCourse where
  /-- the command at a place -/
  | at (index : Nat)
  /-- the next line, behind the line that is written or not -/
  | cycle (prints : Bool)
  /-- the commands again, on what is left of the line -/
  | again
  /-- nothing -/
  | stop

/-- Where a label is, or the end of the script. -/
def placeOf (commands : Array EditCommand) (label : Option Octets) : Nat :=
  match label with
  | none => commands.size
  | some name =>
    (commands.findIdx? fun command =>
      match command.action with
      | .label other => other == name
      | _ => false).getD commands.size

/-- Carries out a command that is for the line. -/
def perform (setting : EditSetting) (index : Nat) (command : EditCommand) : Editor EditCourse := do
  let s ← get
  match command.action with
  | .opens _ | .closes | .label _ => return .at (index + 1)
  | .append text =>
    set { s with queue := .text text :: s.queue }
    return .at (index + 1)
  | .insert text =>
    putBehind setting text
    return .at (index + 1)
  | .change text =>
    let isOpen := (s.ranges.getD index none).isSome && !command.selection.negated
    if !isOpen then putBehind setting text
    return .cycle false
  | .jump label => return .at (placeOf setting.commands label)
  | .jumpIf replaced label =>
    if replaced then
      set { s with replaced := false }
      return .at (if s.replaced then placeOf setting.commands label else index + 1)
    else
      set { s with replaced := false }
      return .at (if s.replaced then index + 1 else placeOf setting.commands label)
  | .delete => return .cycle false
  | .deleteFirst =>
    if s.line.contains '\n' then
      set { s with line := (s.line.dropWhile (· != '\n')).drop 1 }
      return .again
    else return .cycle false
  | .keep letter =>
    match letter with
    | 'h' => set { s with kept := s.line }
    | 'H' => set { s with kept := s.kept ++ '\n' :: s.line }
    | 'g' => set { s with line := s.kept }
    | 'G' => set { s with line := s.line ++ '\n' :: s.kept }
    | _ => set { s with line := s.kept, kept := s.line }
    return .at (index + 1)
  | .next =>
    if s.ahead.isNone && (!setting.separate || s.paths.isEmpty) then return .cycle true
    else
      if !setting.quiet then putLine setting s.line s.closed
      putQueue setting
      if ← nextLine setting false then return .at (index + 1) else return .stop
  | .addNext =>
    if s.ahead.isNone && (!setting.separate || s.paths.isEmpty) then return .cycle true
    else
      putQueue setting
      if ← nextLine setting true then return .at (index + 1) else return .stop
  | .print =>
    putLine setting s.line s.closed
    return .at (index + 1)
  | .printFirst =>
    putLine setting (firstLine s.line) true
    return .at (index + 1)
  | .list width =>
    putBehind setting (shownLine (width.getD setting.width) s.line ++ ['\n'])
    return .at (index + 1)
  | .number =>
    putBehind setting (Text.digits s.number ++ ['\n'])
    return .at (index + 1)
  | .fileName =>
    putBehind setting (s.path ++ ['\n'])
    return .at (index + 1)
  | .quit status prints =>
    if prints then
      if !setting.quiet then putLine setting s.line s.closed
      putQueue setting
    Session.setStatus status
    return .stop
  | .readFile path single =>
    if single then
      let lines ← match s.readers.lookup path with
        | some lines => pure lines
        | none =>
          match ← Session.readFile path with
          | .ok data => pure (linesOf data)
          | .error _ => pure []
      let queue := match lines with
        | line :: _ => .line line :: s.queue
        | [] => s.queue
      set { s with
        queue
        readers := (path, lines.drop 1) :: s.readers.filter (·.1 != path) }
    else set { s with queue := .file path :: s.queue }
    return .at (index + 1)
  | .writeFile path single =>
    if single then putTo setting path (firstLine s.line) true
    else putTo setting path s.line s.closed
    return .at (index + 1)
  | .substitute sub =>
    match ← meant sub.expression sub.form with
    | none =>
      programError "sed"
        (octets "-e expression #1, char 0: no previous regular expression")
      Session.setStatus 1
      return .stop
    | some (e, form) =>
      let subject : Subject := .of form s.line
      let (line, replaced) :=
        replaceFrom sub e subject (2 * s.line.length + 4) 0 none 0 [] false
      if replaced then
        modify ({ · with line, replaced := true })
        if sub.prints then putLine setting line s.closed
        if let some path := sub.file then putTo setting path line s.closed
      return .at (index + 1)
  | .exchange pairs =>
    set { s with
      line := ofCharacters ((characters s.line).map fun c => (pairs.lookup c).getD c) }
    return .at (index + 1)
  | .empty =>
    set { s with line := [] }
    return .at (index + 1)

/-- Carries out the commands from one at some place on, on this line and all further ones. -/
def runFrom (setting : EditSetting) : (fuel : Nat) → (index : Nat) → Editor Unit
  | 0, _ => Session.stall
  | fuel + 1, index => do
    let course ← match setting.commands[index]? with
      | none => pure (.cycle true)
      | some command =>
        if ← selects index command.selection then perform setting index command
        else
          match command.action with
          | .opens close => pure (.at close)
          | _ => pure (.at (index + 1))
    match course with
    | .at index => runFrom setting fuel index
    | .again =>
      putQueue setting
      runFrom setting fuel 0
    | .cycle prints =>
      if prints && !setting.quiet then putLine setting (← get).line (← get).closed
      putQueue setting
      if ← nextLine setting false then runFrom setting fuel 0
    | .stop => return ()

/-- The most commands that the editor carries out. -/
def maxCommands : Nat := 2000000

/-- The files that commands write to. -/
def writtenFiles (commands : Array EditCommand) : List Octets :=
  (commands.toList.filterMap fun command =>
    match command.action with
    | .writeFile path _ => some path
    | .substitute s => s.file
    | _ => none).eraseDups

/-- Edits all files. -/
def runAll (setting : EditSetting) : Editor Unit := do
  for path in writtenFiles setting.commands do
    if nameOf path != "/dev/stdout" && nameOf path != "/dev/stderr" then
      match ← Session.openPath .write path with
      | .ok index => modify fun s => { s with writers := (path, index) :: s.writers }
      | .error error =>
        programError "sed" (octets "couldn't open file " ++ path ++ octets (": " ++ error.message))
        Session.setStatus 4
  if !setting.separate then
    lookAhead setting ((← get).paths.length + 1)
  if ← nextLine setting false then runFrom setting maxCommands 0
  keepChanges setting

end Editor

/-! ## The program -/

/-- The options of `sed`. -/
def sedTable : OptionTable :=
  { plain := "nErszu", valued := "efl",
    long := [("quiet", 'n'), ("silent", 'n'), ("expression", 'e'), ("file", 'f'),
      ("regexp-extended", 'E'), ("separate", 's'), ("null-data", 'z'), ("unbuffered", 'u'),
      ("line-length", 'l')] }

/-- A word that asks for files to be changed: what is added to the names of the files as they
were. -/
def changeSuffix? (word : Octets) : Option Octets :=
  if startsWith (octets "--in-place=") word then some (word.drop 11)
  else if nameOf word == "--in-place" then some []
  else
    match word with
    | '-' :: letters =>
      let front := letters.takeWhile fun c => c == 'n' || c == 'E' || c == 'r' || c == 's'
      match letters.drop front.length with
      | 'i' :: suffix => some suffix
      | _ => none
    | _ => none

/-- The letters in front of the one that asks for files to be changed. -/
def lettersBeside (word : Octets) : List Octets :=
  match word with
  | '-' :: letters =>
    let front := letters.takeWhile (· != 'i')
    if front.isEmpty || startsWith ['-'] letters then [] else ['-' :: front]
  | _ => []

/-- Reads a script that stands in a file. -/
def scriptIn (path : Octets) : Session (Option Octets) := do
  match ← readInput path with
  | .ok data => return some (if isClosed data then data.dropLast else data)
  | .error error =>
    programError "sed" (octets "couldn't open file " ++ path ++ octets (": " ++ error.message))
    return none

/-- The program `sed`. -/
def sed : Program := fun _ words => do
  let options := words.takeWhile fun word => nameOf word != "--"
  let suffix := options.findSome? changeSuffix?
  let words := words.flatMap fun word =>
    if (changeSuffix? word).isSome && suffix.isSome then lettersBeside word else [word]
  let words := words.filter fun word => nameOf word != "--posix" && nameOf word != "--debug"
  withArguments "sed" sedTable words fun a => do
    let given := a.options.filter fun (c, _) => c == 'e' || c == 'f'
    let mut scripts := #[]
    let mut missing := false
    for (letter, value) in given do
      if letter == 'e' then scripts := scripts.push value
      else
        match ← scriptIn value with
        | some text => scripts := scripts.push text
        | none => missing := true
    let paths := if given.isEmpty then a.operands.drop 1 else a.operands
    if missing then setStatus 4
    else if given.isEmpty && a.operands.isEmpty then
      putErrorLine (octets "Usage: sed [OPTION]... \x7bscript-only-if-no-other-script\x7d " ++
        octets "[input-file]...")
      setStatus 1
    else
      let pieces := if given.isEmpty then a.operands.take 1 else scripts.toList
      match readEditScript (a.has 'E' || a.has 'r') pieces with
      | .error (message, status) => failWith "sed" status message
      | .ok script =>
        let setting : EditSetting :=
          { commands := script.commands
            quiet := a.has 'n' || script.quiet
            separate := a.has 's' || suffix.isSome
            inPlace := suffix
            closing := if a.has 'z' then Char.ofNat 0 else '\n'
            width := ((a.value? 'l').bind natOf?).getD 70 }
        let start : EditState :=
          { ranges := Editor.freshRanges script.commands, paths := inputPaths paths }
        let _ ← StateT.run (Editor.runAll setting) start

end LinksBinding.Shell
