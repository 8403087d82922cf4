import LinksBinding.Shell.Children
import LinksBinding.Shell.Utility.Numbers

/-!
# Running other programs

The programs that run others: with arguments that are read (`xargs`), with other variables (`env`),
for a limited time (`timeout`), or under conditions that make no difference here (`nice` and the
like).
-/

namespace LinksBinding.Shell

open Text Session

/-! ## Arguments that are read -/

/-- Items that are read, by lines, and the quote that was left open, if one was. -/
structure ReadItems where
  /-- the items of each line that is not blank -/
  lines : List (List Octets) := []
  /-- a quote without its partner -/
  unmatched : Option Char := none

/-- What is known while items are read. -/
structure ItemState where
  /-- whether a whole line is one item -/
  whole : Bool
  /-- whether a blank at the end of a line joins it with the next one -/
  joins : Bool
  /-- the item that is begun, last octet first -/
  item : Option Octets := none
  /-- the items of the line, last first -/
  line : List Octets := []
  /-- the lines, last first -/
  lines : List (List Octets) := []
  /-- the octet in front -/
  last : Char := '\n'

namespace ItemState

/-- Puts an octet into the item. -/
def push (s : ItemState) (c : Char) : ItemState :=
  { s with item := some (c :: s.item.getD []), last := 'x' }

/-- Ends the item. -/
def endItem (s : ItemState) : ItemState :=
  match s.item with
  | some item => { s with item := none, line := item.reverse :: s.line }
  | none => s

/-- Ends the line. -/
def endLine (s : ItemState) : ItemState :=
  let s := s.endItem
  if s.line.isEmpty then s else { s with line := [], lines := s.line.reverse :: s.lines }

/-- Passes over a blank between items, or takes it as a part of one. -/
def blank (s : ItemState) (c : Char) : ItemState :=
  if s.whole then if s.item.isSome then s.push c else s
  else { s.endItem with last := c }

/-- Passes over a line feed. -/
def feed (s : ItemState) : ItemState :=
  if s.joins && isGap s.last then { s.endItem with last := '\n' }
  else { s.endLine with last := '\n' }

/-- The items. -/
def items (s : ItemState) : List (List Octets) := s.endLine.lines.reverse

end ItemState

/-- Reads items between white space. A quote holds all up to its partner together, and a backslash
takes the octet behind it as it is. -/
def readItems (s : ItemState) : (quote : Option Char) → Octets → ReadItems
  | none, [] =>
    { lines := ItemState.items { s with item := s.item.filter (!·.isEmpty) } }
  | some quote, [] =>
    { lines := ItemState.items { s with item := none }, unmatched := some quote }
  | some quote, c :: rest =>
    if c == quote then readItems s none rest
    else if c == '\n' then
      { lines := ItemState.items { s with item := none }, unmatched := some quote }
    else readItems (s.push c) (some quote) rest
  | none, '\\' :: c :: rest => readItems (s.push c) none rest
  | none, c :: rest =>
    if c == '\'' || c == '"' then
      readItems { s with item := some (s.item.getD []), last := 'x' } (some c) rest
    else if c == '\n' then readItems s.feed none rest
    else if isGap c then readItems (s.blank c) none rest
    else if c == '\\' then readItems s none rest
    else readItems (s.push c) none rest

/-- Puts a piece in the place of another one wherever it stands. -/
def replacePiece (piece other : Octets) : (fuel : Nat) → Octets → Octets
  | 0, data => data
  | _ + 1, [] => []
  | fuel + 1, c :: rest =>
    if !piece.isEmpty && startsWith piece (c :: rest) then
      other ++ replacePiece piece other fuel ((c :: rest).drop piece.length)
    else c :: replacePiece piece other fuel rest

/-- The first elements of a list, the next ones, and so on. -/
def groupsOf {α : Type} (size : Nat) : (fuel : Nat) → List α → List (List α)
  | 0, _ | _, [] => []
  | fuel + 1, list => list.take size :: groupsOf size fuel (list.drop size)

/-- The octet that a delimiter is written as. -/
def delimiterOf (text : Octets) : Char :=
  match text with
  | ['\\', 'n'] => '\n'
  | ['\\', 't'] => '\t'
  | ['\\', 'r'] => '\r'
  | '\\' :: figures => Char.ofNat (numberIn 8 figures)
  | text => text.headD '\n'

/-- How `xargs` forms commands. -/
structure ItemPlan where
  /-- how many items a command gets -/
  most : Option Nat
  /-- how many lines of items a command gets -/
  lines : Option Nat
  /-- what every item is put in place of -/
  piece : Option Octets

/-- The commands for items. -/
def ItemPlan.commands (plan : ItemPlan) (words : List Octets) (lines : List (List Octets))
    (always : Bool) : List (List Octets) :=
  match plan.piece with
  | some piece =>
    lines.flatten.map fun item =>
      words.take 1 ++ (words.drop 1).map fun word => replacePiece piece item (word.length + 1) word
  | none =>
    let groups := match plan.lines, plan.most with
      | some count, _ => (groupsOf count (lines.length + 1) lines).map (·.flatten)
      | none, some count =>
        let items := lines.flatten
        groupsOf count (items.length + 1) items
      | none, none => if lines.isEmpty then [] else [lines.flatten]
    let groups := if groups.isEmpty && always then [[]] else groups
    groups.map (words ++ ·)

/-- The status of a program that cannot be run. -/
def statusNotRun (error : PathError) : Nat :=
  match error with
  | .missing | .notDirectory => 127
  | _ => 126

/-- Carries out the commands that `xargs` forms. Returns the status of all, and whether it has come
to the end of them. -/
def runItems (invoke : Invoke) (shows : Bool) : (status : Nat) → List (List Octets) →
    Session (Nat × Bool)
  | status, [] => return (status, true)
  | status, words :: rest => do
    if shows then putErrorLine (joined words)
    let name := words.headD []
    match ← invoke words with
    | some error =>
      programError "xargs" (name ++ octets (": " ++ error.message))
      return (statusNotRun error, false)
    | none =>
      if !(← goesOn) then return (status, false)
      let ended := (← process).status
      if ended == 255 then
        programError "xargs" (name ++ octets ": exited with status 255; aborting")
        return (124, false)
      else if ended > 128 && (signalOf? (ended - 128)).isSome then
        programError "xargs" (name ++ octets ": terminated by signal " ++ digits (ended - 128))
        return (125, false)
      else runItems invoke shows (if ended == 0 then status else 123) rest

/-- Options whose value may be left out, with it. -/
def completeItemOption (word : Octets) : List Octets :=
  match word with
  | ['-', 'i'] => [octets "-I\x7b\x7d"]
  | '-' :: 'i' :: piece => ['-' :: 'I' :: piece]
  | ['-', 'l'] => [octets "-L1"]
  | '-' :: 'l' :: count => ['-' :: 'L' :: count]
  | '-' :: 'e' :: _ => []
  | word => [word]

/-- The program `xargs`. -/
def xargs : Program := fun invoke words => do
  let front := words.takeWhile fun word => word.head? == some '-'
  let words := front.flatMap completeItemOption ++ words.drop front.length
  withArguments "xargs"
    { plain := "0rtpxo", valued := "nILdPsEa",
      long := [("null", '0'), ("no-run-if-empty", 'r'), ("verbose", 't'), ("exit", 'x'),
        ("max-args", 'n'), ("max-lines", 'L'), ("replace", 'I'), ("delimiter", 'd'),
        ("max-procs", 'P'), ("max-chars", 's'), ("eof", 'E'), ("arg-file", 'a')],
      ordered := true } words fun a => do
    let count? (letter : Char) : Option Nat := (a.value? letter).bind natOf?
    let wrong := ['n', 'L', 's'].filterMap fun letter =>
      match a.value? letter with
      | some text =>
        match natOf? text with
        | none =>
          some (octets "invalid number \"" ++ text ++ octets "\" for -" ++ [letter] ++
            octets " option")
        | some 0 =>
          some (octets "value 0 for -" ++ [letter] ++ octets " option should be >= 1")
        | some _ => none
      | none => none
    match wrong with
    | text :: _ => failUsage "xargs" 1 text
    | [] =>
      let last := a.last? ['n', 'L', 'I']
      let piece := if last == some 'I' then a.value? 'I' else none
      let plan : ItemPlan :=
        { most := if last == some 'n' then count? 'n' else none
          lines := if last == some 'L' then count? 'L' else none
          piece }
      let read ← match a.value? 'a' with
        | some path => readFile path
        | none => pure (.ok (← readAll 0))
      match read with
      | .error error =>
        failWith "xargs" 1
          (octets "Cannot open input file " ++ cited ((a.value? 'a').getD []) ++
            octets (": " ++ error.message))
      | .ok data =>
        let items : ReadItems :=
          if a.has '0' || a.has 'd' then
            let closing := if a.has '0' then Char.ofNat 0 else delimiterOf ((a.value? 'd').getD [])
            { lines := (recordsOf closing data).map ([·]) }
          else
            readItems { whole := piece.isSome, joins := plan.lines.isSome } none data
        let items := match a.value? 'E' with
          | some stop =>
            let kept := items.lines.flatten.takeWhile (· != stop)
            { items with lines := if kept.isEmpty then [] else [kept] }
          | none => items
        let words := if a.operands.isEmpty then [octets "echo"] else a.operands
        let always := !a.has 'r' && items.unmatched.isNone
        let saved := (← process).descriptors
        connect 0 (← openDescription { endpoint := .null })
        let (status, atEnd) ←
          runItems invoke (a.has 't') 0 (plan.commands words items.lines always)
        if ← goesOn then
          modifyProcess ({ · with descriptors := saved })
          setStatus status
          match items.unmatched, atEnd with
          | some quote, true =>
            let kind := if quote == '"' then "double" else "single"
            failWith "xargs" 1 (octets ("unmatched " ++ kind ++
              " quote; by default quotes are special to xargs unless you use the -0 option"))
          | _, _ => return ()

/-! ## Other variables -/

/-- Where a variable stands among those that programs see. -/
def placeAmongVariables (name : String) : Nat :=
  match name.toList with
  | [] => 0
  | first :: rest => (rest.foldl (fun n c => n + c.toNat) (first.toNat * 17)) % 39

/-- The variables that programs see. -/
def seenVariables : Session (List (String × Octets)) := do
  let seen := (← process).assigned.reverse.filterMap fun (name, v) =>
    if v.exported then v.value.map fun value => (name, value) else none
  return seen.mergeSort fun (a, _) (b, _) => placeAmongVariables a ≤ placeAmongVariables b

/-- Runs a program in the place of another one, which tells if it cannot be run. -/
def runInstead (invoke : Invoke) (name doing : String) (quote : Octets → Octets)
    (words : List Octets) : Session Unit := do
  match ← invoke words with
  | none => return ()
  | some error =>
    failWith name (statusNotRun error)
      (octets doing ++ quote (words.headD []) ++ octets (": " ++ error.message))

/-- The program `env`. -/
def env : Program := fun invoke words => do
  let words := if words.head? == some ['-'] then ['-', 'i'] :: words.drop 1 else words
  withArguments "env"
    { refusal := 125, plain := "i0v", valued := "uCS",
      long := [("ignore-environment", 'i'), ("null", '0'), ("unset", 'u'), ("chdir", 'C'),
        ("split-string", 'S'), ("debug", 'v')],
      ordered := true } words fun a => do
    if a.has 'i' then
      let path ← value? "PATH"
      modifyProcess ({ · with assigned := [] })
      if let some path := path then setVariable "PATH" { value := some path }
    for name in a.values 'u' do dropVariable (nameOf name)
    let before := (← seenVariables).map (·.1)
    let operands := (a.values 'S').flatMap wordsOf ++ a.operands
    let assignments := operands.takeWhile (·.contains '=')
    for word in assignments do
      if let some (name, value) := cutAtChar? '=' word then
        setVariable (nameOf name) { value := some value, exported := true }
    match operands.drop assignments.length with
    | [] =>
      let closing := if a.has '0' then Char.ofNat 0 else '\n'
      let given := assignments.filterMap fun word =>
        (cutAtChar? '=' word).map fun (name, _) => nameOf name
      let (others, seen) := (← seenVariables).partition fun (name, _) => !before.contains name
      let others := given.eraseDups.filterMap fun name =>
        (others.lookup name).map fun value => (name, value)
      for (name, value) in seen ++ others do
        put (octets (name ++ "=") ++ value ++ [closing])
    | words =>
      match a.value? 'C' with
      | some path =>
        match ← find path with
        | .ok (place, .directory) =>
          modifyProcess ({ · with directory := place })
          runInstead invoke "env" "" cited words
        | .ok _ =>
          failWith "env" 125 (octets "cannot change directory to " ++ quotedName path ++
            octets (": " ++ PathError.notDirectory.message))
        | .error error =>
          failWith "env" 125 (octets "cannot change directory to " ++ quotedName path ++
            octets (": " ++ error.message))
      | none => runInstead invoke "env" "" cited words

/-- The program `printenv`. -/
def printenv : Program := fun _ words =>
  withArguments "printenv"
    { refusal := 2, plain := "0", long := [("null", '0')], ordered := true } words fun a => do
    let closing := if a.has '0' then Char.ofNat 0 else '\n'
    let seen ← seenVariables
    if a.operands.isEmpty then
      for (name, value) in seen do put (octets (name ++ "=") ++ value ++ [closing])
    for name in a.operands do
      match seen.lookup (nameOf name) with
      | some value => put (value ++ [closing])
      | none => setStatus 1

/-! ## Under other conditions -/

/-- Carries out something for a time at most. Returns whether it has come to its end before. -/
def within (duration : Nat) (act : Session Unit) : Session Bool := do
  let before ← process
  let pid := (← get).lastPid + 1
  let limit := before.clock + duration
  withHalfBudget act
  if (← process).clock ≤ limit then return true
  else
    Session.cut pid limit true
    modifyProcess fun _ => before
    advanceTo limit
    return false

/-- The program `timeout`. -/
def timeout : Program := fun invoke words =>
  withArguments "timeout"
    { refusal := 125, plain := "fpv", valued := "sk",
      long := [("foreground", 'f'), ("preserve-status", 'p'), ("verbose", 'v'), ("signal", 's'),
        ("kill-after", 'k')],
      ordered := true } words fun a => do
    let signal := (signalNamed? ((a.value? 's').getD (octets "TERM"))).getD "TERM"
    match a.operands with
    | [] | [_] =>
      putErrorLine (octets "Try 'timeout --help' for more information.")
      setStatus 125
    | time :: words =>
      match duration? time with
      | none => failUsage "timeout" 125 (octets "invalid time interval " ++ cited time)
      | some duration =>
        let limit := match duration with
          | some 0 | none => forever
          | some duration => duration
        let inTime ← within limit
          (runInstead invoke "timeout" "failed to run command " cited words)
        if !inTime && (← goesOn) then
          if signal == "KILL" then dieBy signal
          else setStatus (if a.has 'p' then 128 + signalNumber signal else 124)

/-- A number with a sign as the only letters of an option, as an option with a value. -/
def niceOption (word : Octets) : Octets :=
  match word with
  | '-' :: rest => if (intOf? rest).isSome then '-' :: 'n' :: rest else word
  | word => word

/-- The program `nice`. -/
def nice : Program := fun invoke words =>
  withArguments "nice"
    { refusal := 125, plain := "", valued := "n", long := [("adjustment", 'n')], ordered := true }
    (words.map niceOption) fun a => do
    match a.operands with
    | [] => put ['0', '\n']
    | words => runInstead invoke "nice" "" cited words

/-- The program `nohup`. -/
def nohup : Program := fun invoke words =>
  withArguments "nohup" { refusal := 125, plain := "", ordered := true } words fun a => do
    match a.operands with
    | [] => failUsage "nohup" 125 (octets "missing operand")
    | words => runInstead invoke "nohup" "failed to run command " quotedName words

/-- The program `stdbuf`. -/
def stdbuf : Program := fun invoke words =>
  withArguments "stdbuf"
    { refusal := 125, plain := "", valued := "ioe",
      long := [("input", 'i'), ("output", 'o'), ("error", 'e')], ordered := true } words fun a => do
    match a.operands with
    | [] => failUsage "stdbuf" 125 (octets "missing operand")
    | words => runInstead invoke "stdbuf" "failed to run command " cited words

/-- The program `setsid`. -/
def setsid : Program := fun invoke words =>
  withArguments "setsid"
    { plain := "cfw", long := [("ctty", 'c'), ("fork", 'f'), ("wait", 'w')], ordered := true }
    words fun a => do
    match a.operands with
    | [] => failUsage "setsid" 1 (octets "no command specified")
    | words => runInstead invoke "setsid" "failed to execute " id words

end LinksBinding.Shell
