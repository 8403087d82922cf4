import LinksBinding.Shell.Arithmetic
import LinksBinding.Shell.Builtin.Jobs
import LinksBinding.Shell.Builtin.Places
import LinksBinding.Shell.Builtin.Test
import LinksBinding.Shell.Reader
import LinksBinding.Shell.Utility.Table
import LinksBinding.Shell.Writing

/-!
# Running scripts

Carries out the commands of a script, with the expansion of their words, their redirections, and the
builtins that carry out commands themselves.

All functions take fuel, and a world has a budget of commands: a script that uses them up does not
end.
-/

namespace LinksBinding.Shell

open Text

namespace Session

/-! ## Names of commands -/

/-- Builtins whose mistakes end the script. -/
def specialBuiltins : List String :=
  [".", ":", "break", "continue", "eval", "exec", "exit", "export", "local", "readonly", "return",
    "set", "shift", "times", "trap", "unset"]

/-- All other builtins. -/
def regularBuiltins : List String :=
  ["alias", "bg", "cd", "chdir", "command", "echo", "false", "fg", "getopts", "hash", "jobs",
    "kill", "printf", "pwd", "read", "test", "[", "true", "type", "ulimit", "umask", "unalias",
    "wait"]

/-- Tells that a program cannot be run, and sets the status. -/
def tellNotRun (name : Octets) (error : PathError) : Session Unit := do
  match error with
  | .missing | .notDirectory =>
    complain (name ++ octets ": not found")
    setStatus 127
  | error =>
    complain (name ++ octets (": " ++ error.message))
    setStatus (if name.isEmpty then 127 else 126)

/-- Describes what a name stands for, in a sentence or only by the name or path itself. -/
def describeName (sentence : Bool) (name : Octets) : Session Unit := do
  let say (short long : Octets) : Session Unit :=
    put ((if sentence then name ++ octets " is " ++ long else short) ++ ['\n'])
  let process ← process
  if Token.reservedWords.contains (nameOf name) then say name (octets "a shell keyword")
  else if let some text := process.aliases.lookup name then
    say (octets "alias " ++ (aliasLine name text).dropLast) (octets "an alias for " ++ text)
  else if specialBuiltins.contains (nameOf name) then say name (octets "a special shell builtin")
  else if process.functions.any (·.1 == nameOf name) then say name (octets "a shell function")
  else if regularBuiltins.contains (nameOf name) then say name (octets "a shell builtin")
  else
    let found ← findProgram name
    let usable ← match found with
      | .ok (path, node) => pure ((← runnable node).toOption.map fun _ => path)
      | .error _ => pure none
    match usable with
    | some path => say path path
    | none =>
      if sentence then put (name ++ octets ": not found\n")
      setStatus 127

/-! ## Parameters -/

/-- Parameters in one text. -/
def joinedParameters : Session Octets := do
  let separator := match ← value? "IFS" with
    | none => [' ']
    | some text => text.take 1
  return joinWith separator (← process).parameters

/-- The value of a parameter, if it is set. -/
def parameter? (name : String) : Session (Option Octets) := do
  let process ← process
  match name with
  | "@" | "*" =>
    if process.parameters.isEmpty then return none else return some (← joinedParameters)
  | "#" => return some (digits process.parameters.length)
  | "?" => return some (digits process.status)
  | "-" => return some (shownOptions process.options)
  | "$" => return some (digits process.scriptPid)
  | "!" => return process.lastJob.map digits
  | "0" => return some process.name
  | name =>
    match natOf? name.toList with
    | some n => return process.parameters[n - 1]?
    | none => value? name

/-- Stops at a parameter that is not set, if the script is to. -/
def requireParameter (name : String) (value : Option Octets) : Session Unit := do
  if value.isNone && name != "@" && name != "*" && (← hasOption 'u') then
    refuse (octets (name ++ ": parameter not set"))

/-- The marks of a value. -/
def valueMarks (quoted : Bool) (value : Octets) : List Mark :=
  if quoted then [.quotes, .text value true] else [.expansion value]

/-- The marks of a parameter. -/
def parameterMarks (splits : Bool) (name : String) (quoted : Bool) : Session (List Mark) := do
  if splits && (name == "@" || name == "*") && !(quoted && name == "*") then
    let marks := (← process).parameters.map (valueMarks quoted)
    return [Mark.boundary quoted].intercalate marks
  else
    let value ← parameter? name
    requireParameter name value
    return match value with
      | some value => valueMarks quoted value
      | none => if quoted then [.quotes] else []

/-- The marks of an expression over integers. -/
def arithmeticMarks (text : Octets) (quoted : Bool) : Session (List Mark) := do
  let assigned := (← process).assigned
  let lookup (name : String) : Octets :=
    ((assigned.lookup name).bind (·.value)).getD []
  match evaluate lookup text with
  | .error error =>
    refuse (error.message text)
    return []
  | .ok (n, changes) =>
    for (name, value) in changes.reverse do
      let _ ← assign name (decimal value)
    return valueMarks quoted (decimal n)

/-- The home directory of a user, or the word itself. -/
def homeOf (user : Octets) : Session Octets := do
  if user.isEmpty then return (← value? "HOME").getD ['~']
  else if nameOf user == "root" then return octets "/root"
  else return '~' :: user

/-- The arguments that marks stand for. -/
def argumentsOfMarks (marks : List Mark) : Session (List Octets) := do
  let fields := fieldsOf (← separators) marks
  if ← hasOption 'f' then return fields.map fun field => field.map (·.1)
  else if !fields.any isPattern then return fields.map fun field => field.map (·.1)
  else
    let world ← get
    let home := octets world.home.1
    let look (path : Octets) : Option (Place × Node) :=
      let path :=
        if home.head? != some '/' && (path == home || startsWith (home ++ ['/']) path) then
          pathOf world.home.2 ++ path.drop home.length
        else path
      (world.files.find false world.process.directory path).toOption
    return fields.flatMap (argumentsOf world.files look)

/-! ## Redirections -/

/-- The wording of a redirection that fails. -/
def redirectionMessage (use : FileUse) (path : Octets) (error : PathError) : Octets :=
  let reads := use == .read
  let reason := match error with
    | .missing | .notDirectory => if reads then "No such file" else "Directory nonexistent"
    | error => error.message
  octets (if reads then "cannot open " else "cannot create ") ++ path ++ octets (": " ++ reason)

/-- Connects a descriptor with a file. Fails with a message. -/
def redirectToFile (number : Nat) (use : FileUse) (path : Octets) : Session Bool := do
  let kept ←
    if use == .write && (← hasOption 'C') then
      match ← look? true path with
      | some (_, .device _) | none => pure false
      | some _ => pure true
    else pure false
  let opened ← if kept then pure (.error .exists) else openPath use path
  match opened with
  | .ok index =>
    connect number index
    return true
  | .error error =>
    complain (redirectionMessage use path error)
    return false

/-- Connects a descriptor with what another one is connected with, or with nothing. Fails with a
message. -/
def redirectToDescriptor (number : Nat) (word : Octets) : Session Bool := do
  match word with
  | ['-'] =>
    disconnect number
    return true
  | [c] =>
    if c.isDigit then
      match (← process).descriptors.lookup (c.toNat - '0'.toNat) with
      | some index =>
        connect number index
        return true
      | none =>
        complain (word ++ octets ": Bad file descriptor")
        return false
    else bad
  | _ => bad
where
  /-- Refuses the word. -/
  bad : Session Bool := do
    refuse (octets "Syntax error: Bad fd number")
    return false

/-! ## Loops -/

/-- Behind the body of a loop: whether the loop goes on. -/
def nextRound? : Session Bool := do
  match (← process).flow with
  | .onward => return true
  | .nextRound 0 | .nextRound 1 =>
    modifyProcess ({ · with flow := .onward })
    return true
  | .nextRound (count + 1) =>
    modifyProcess ({ · with flow := .nextRound count })
    return false
  | .behindLoops 0 | .behindLoops 1 =>
    modifyProcess ({ · with flow := .onward })
    return false
  | .behindLoops (count + 1) =>
    modifyProcess ({ · with flow := .behindLoops count })
    return false
  | _ => return false

/-- Leaves a number of loops, or goes on with the next round of one. -/
def leaveLoops (words : List Octets) (flow : Nat → Flow) : Session Unit := do
  let word := words.headD ['1']
  withNumber word fun count => do
    if count == 0 then refuse (octets "Illegal number: " ++ word)
    else
      let loops := (← process).loops
      if loops > 0 then modifyProcess ({ · with flow := flow (min count loops) })

/-- Leaves a function or the script with a status. -/
def leaveWith (words : List Octets) (before : Nat) (flow : Flow) : Session Unit := do
  match words with
  | [] => modifyProcess ({ · with status := before, flow })
  | word :: _ => withNumber word fun n => modifyProcess ({ · with status := n % 256, flow })

/-! ## Simple builtins -/

/-- Writes the output of a builtin. -/
def putChecked (data : Octets) : Session Unit := do
  if !data.isEmpty then
    if !(← write 1 data) then
      let name := ((← process).command).getD []
      complain (name ++ octets ": I/O error")
      setStatus 1

/-- The builtin `printf`. -/
def printFormatted : Builtin := fun words => do
  let words := if words.head?.map nameOf == some "--" then words.drop 1 else words
  match words with
  | [] => refuse (octets "usage: printf format [arg ...]")
  | format :: arguments =>
    let f := formatArguments false format arguments
    for message in f.messages.reverse do complain message
    setStatus (if f.broken then 2 else if f.messages.isEmpty then 0 else 1)
    putChecked f.data

/-- The builtin `hash`. -/
def hash : Builtin := fun words =>
  withFlags "r" words fun _ names => do
    for name in names do
      if !(specialBuiltins ++ regularBuiltins).contains (nameOf name) then
        match ← findProgram name with
        | .ok _ => pure ()
        | .error _ =>
          complain (name ++ octets ": not found")
          setStatus 1

/-- The builtins that carry out no commands themselves. -/
def simpleBuiltin? (name : String) : Option Builtin :=
  match name with
  | ":" | "true" => some fun _ => return ()
  | "false" => some fun _ => setStatus 1
  | "echo" => some fun words => putChecked (echoText words)
  | "printf" => some printFormatted
  | "test" => some test
  | "[" => some testInBrackets
  | "export" => some exportVariables
  | "readonly" => some keepVariables
  | "local" => some makeLocal
  | "unset" => some unset
  | "set" => some configure
  | "shift" => some shift
  | "getopts" => some getopts
  | "read" => some read
  | "cd" | "chdir" => some changeDirectory
  | "pwd" => some printDirectory
  | "alias" => some defineAliases
  | "unalias" => some dropAliases
  | "umask" => some setMask
  | "ulimit" => some showLimits
  | "times" => some showTimes
  | "trap" => some trapSignals
  | "kill" => some kill
  | "wait" => some wait
  | "jobs" => some listJobs
  | "hash" => some hash
  | "type" => some fun words => for word in words do describeName true word
  | "fg" | "bg" => some fun _ => refuse (octets "No current job")
  | "break" => some fun words => leaveLoops words .behindLoops
  | "continue" => some fun words => leaveLoops words .nextRound
  | _ => none

/-! ## Starting scripts -/

/-- What a script is read from. -/
inductive ScriptSource where
  /-- an argument -/
  | argument (text : Octets)
  /-- a file -/
  | file (path : Octets)
  /-- the input -/
  | input

/-- How a script is started. -/
structure Start where
  /-- what it is read from -/
  source : ScriptSource
  /-- its name -/
  name : Octets
  /-- its parameters -/
  parameters : List Octets

/-- The letters in a word of options that are set at the start, and how many names they take. -/
def startLetters (letters : Octets) : Octets × Bool :=
  (letters.filter fun c => c != 'c' && c != 'l', letters.contains 'c')

/-- Reads the options that a script is started with: whether it is an argument, and the words behind
the options; or the text of a mistake. -/
def readStart : (fuel : Nat) → (isArgument : Bool) → List Octets →
    Session (Except Octets (Bool × List Octets))
  | 0, isArgument, words => return .ok (isArgument, words)
  | fuel + 1, isArgument, words => do
    match words with
    | ['-'] :: rest | ['-', '-'] :: rest => return .ok (isArgument, rest)
    | (sign :: letters) :: rest =>
      if sign == '-' || sign == '+' then
        let (others, found) := startLetters letters
        match ← setLetters (sign == '-') rest others with
        | .ok rest => readStart fuel (isArgument || found) rest
        | .error text => return .error text
      else return .ok (isArgument, words)
    | words => return .ok (isArgument, words)

/-- How the words behind a name start a script, or the text of a mistake. -/
def startOf (name : Octets) (words : List Octets) : Session (Except Octets Start) := do
  match ← readStart (words.length + 1) false words with
  | .error text => return .error text
  | .ok (true, []) => return .error (octets "-c requires an argument")
  | .ok (true, script :: rest) => return .ok ⟨.argument script, rest.headD name, rest.drop 1⟩
  | .ok (false, words) =>
    match words, ← hasOption 's' with
    | path :: rest, false => return .ok ⟨.file path, path, rest⟩
    | rest, _ =>
      setOption 's' true
      return .ok ⟨.input, name, rest⟩

/-- Makes the process one that nothing is left of but what a new script sees. -/
def renew (name : Octets) : Session Unit := do
  let seen := (← process).assigned.filter fun (_, v) => v.exported && v.value.isSome
  modifyProcess fun process =>
    { pid := process.pid
      clock := process.clock
      directory := process.directory
      mask := process.mask
      descriptors := process.descriptors
      waiting := process.waiting
      traps := process.traps.filter fun (_, action) => action.isEmpty
      isChild := process.isChild
      assigned := seen.map fun (name, v) => (name, { v with constant := false })
      name
      line := 0 }
  let parent := (← get).births.lookup (← process).pid
  let here ← shownPath (← process).directory
  setVariable "PWD" { value := some here, exported := true }
  for (name, text) in [("IFS", " \t\n"), ("OPTIND", "1"), ("PS1", "# "), ("PS2", "> "),
      ("PS4", "+ ")] do
    setVariable name { value := some (octets text) }
  setVariable "PPID" { value := some (digits ((parent.map (·.1)).getD (firstPid - 1))) }
  if (← value? "PATH").isNone then
    setVariable "PATH"
      { value := some (octets "/usr/local/sbin:/usr/local/bin:/usr/sbin:/usr/bin:/sbin:/bin") }

/-- The program and the argument that the first line of a script names, if it does. -/
def interpreterOf? (data : Octets) : Option (List Octets) :=
  match data with
  | '#' :: '!' :: rest =>
    let line := (rest.takeWhile (· != '\n')).dropWhile isGap
    let path := line.takeWhile fun c => !isGap c
    let argument := (line.drop path.length).dropWhile isGap
    let argument := (argument.reverse.dropWhile isGap).reverse
    if path.isEmpty then none else some (path :: if argument.isEmpty then [] else [argument])
  | _ => none

/-- Writes the trace of a command. -/
def trace (index : Option Nat) (assignments : List (String × Octets)) (words : List Octets) :
    Session Unit := do
  let mark := (← value? "PS4").getD []
  let pieces := assignments.map (fun (name, value) => octets (name ++ "=") ++ value) ++ words
  match index with
  | some index => let _ ← writeTo index (mark ++ joined pieces ++ ['\n'])
  | none => return ()

/-- Ends the script if a command that nobody looks at has failed and the script is to end then. -/
def checkFailure (tested : Bool) : Session Unit := do
  let process ← process
  if !tested && process.status != 0 && process.flow == .onward && process.options.contains 'e' then
    finish process.status

/-- The end of a process without anything to be done at it. -/
def settleFlow : Session Unit :=
  modifyProcess fun process =>
    { process with flow := if process.flow == .killed then .killed else .ended }

/-! ## Running -/

mutual
/-- The marks of the parts of a word. Text without quotes can be split if `splitsText` is set; what
parts expand to is split if `splits` is. -/
def expand (fuel : Nat) (splits splitsText : Bool) (parts : Word) : Session (List Mark) :=
  match fuel with
  | 0 => do
    stall
    return []
  | fuel + 1 => do
    let mut marks := #[]
    for part in parts do
      if ← goesOn then marks := marks ++ (← expandPart fuel splits splitsText part)
    return marks.toList

/-- The marks of a part of a word. -/
def expandPart (fuel : Nat) (splits splitsText : Bool) (part : Part) : Session (List Mark) :=
  match fuel with
  | 0 => do
    stall
    return []
  | fuel + 1 => do
    match part with
    | .literal text true => return [.quotes, .text text true]
    | .literal text false => return if splitsText then [.expansion text] else [.text text false]
    | .value name quoted => parameterMarks splits name quoted
    | .length name quoted =>
      let value ← parameter? name
      requireParameter name value
      return valueMarks quoted (digits ((value.map List.length).getD 0))
    | .fallback name nonempty kind word quoted =>
      let value ← parameter? name
      let isMissing := value.isNone || (nonempty && value == some [])
      let other : Session (List Mark) := do
        let marks ← expand fuel splits (splits && !quoted) word
        return if quoted then .quotes :: marks else marks
      match kind with
      | .useWord => if isMissing then other else parameterMarks splits name quoted
      | .useIfSet =>
        if isMissing then return if quoted then [.quotes] else [] else other
      | .assignWord =>
        if isMissing then
          let text := unsplit (← expand fuel false false word)
          if !(← goesOn) then return []
          else if isName name.toList then
            let _ ← assign name text
            return valueMarks quoted text
          else
            refuse (octets (name ++ ": bad variable name"))
            return []
        else parameterMarks splits name quoted
      | .complain =>
        if isMissing then
          let text := unsplit (← expand fuel false false word)
          let reason :=
            if !word.isEmpty then text
            else octets (if nonempty then "parameter not set or null" else "parameter not set")
          refuse (octets (name ++ ": ") ++ reason)
          return []
        else parameterMarks splits name quoted
    | .trimmed name side longest pattern quoted =>
      let value ← parameter? name
      requireParameter name value
      let glob := globOf (markedText (← expand fuel false false pattern))
      let value := value.getD []
      return valueMarks quoted <|
        match side with
        | .start => dropMatchedStart glob longest value
        | .ending => dropMatchedEnd glob longest value
    | .badParameter =>
      refuse (octets "Bad substitution")
      return []
    | .arithmetic expression quoted =>
      let text := unsplit (← expand fuel false false expression)
      if ← goesOn then arithmeticMarks text quoted else return []
    | .output script quoted => return valueMarks quoted (← outputOf fuel script)
    | .home user => return [.text (← homeOf user) true]

/-- The text of a word that is not split. -/
def expandText (fuel : Nat) (word : Word) : Session Octets :=
  match fuel with
  | 0 => do
    stall
    return []
  | fuel + 1 => return unsplit (← expand fuel false false word)

/-- The arguments that words stand for. Assignments among them are not split if `declares` is set,
or if the first word is the name of a builtin that declares variables. -/
def expandWords (fuel : Nat) (words : List Word) : Session (List Octets) :=
  match fuel with
  | 0 => do
    stall
    return []
  | fuel + 1 => do
    let mut found := #[]
    for word in words do
      if ← goesOn then
        let command := (found.filter fun w => nameOf w != "command")[0]?
        let declares := command.any fun w => ["export", "readonly", "local"].contains (nameOf w)
        match if declares then assignment? word else none with
        | some (name, value) =>
          found := found.push (octets (name ++ "=") ++ (← expandText fuel value))
        | none =>
          found := found ++ (← argumentsOfMarks (← expand fuel true false word))
    return found.toList

/-- The output of a script, without the line feeds at its end. -/
def outputOf (fuel : Nat) (script : Command) : Session Octets :=
  match fuel with
  | 0 => do
    stall
    return []
  | fuel + 1 => do
    let number ← newBuffer (some (2 * pipeBytes))
    let index ← openDescription { endpoint := .buffer number, readable := false }
    let child ← inChild false do
      connect 1 index
      run fuel false script
      endProcess fuel
    let buffer := ((← get).buffers[number]?).getD {}
    advanceTo (max child.clock buffer.heldUntil)
    noticeJobs
    receiveSent
    if child.flow == .killed && (← goesOn) then tellSignal child.status
    modifyProcess ({ · with substituted := some child.status, status := child.status })
    return dropFinalFeeds (buffer.data.filter (· != Char.ofNat 0))

/-- Does what redirections say. Fails with a message. -/
def redirect (fuel : Nat) (redirections : List Redirection) : Session Bool :=
  match fuel with
  | 0 => do
    stall
    return false
  | fuel + 1 => do
    let mut succeeds := true
    for redirection in redirections do
      if succeeds then
        match redirection with
        | .connect number (.file use path) =>
          let path ← expandText fuel path
          succeeds ← if ← goesOn then redirectToFile number use path else pure false
        | .connect number (.descriptor word) =>
          let word ← expandText fuel word
          succeeds ← if ← goesOn then redirectToDescriptor number word else pure false
        | .connect number (.document document) =>
          let word := (← get).documents.getD document []
          let text := unsplit (← expand fuel false false word)
          let index ← openDescription
            { endpoint := .stream [((← process).clock, text)] (some 0), writable := false }
          connect number index
          succeeds ← goesOn
    return succeeds

/-- Carries out a command. Its failure is looked at if `tested` is set. -/
def run (fuel : Nat) (tested : Bool) (command : Command) : Session Unit :=
  match fuel with
  | 0 => stall
  | fuel + 1 => do
    let world ← get
    if world.process.flow != .onward || world.process.options.contains 'n' then return ()
    match command with
    | .nothing => return ()
    | .simple line assignments words redirections =>
      if world.budget == 0 then stall
      else
        set { world with
          budget := world.budget - 1
          process := { world.process with line } }
        runSimple fuel tested assignments words redirections
        runTraps fuel
        checkFailure tested
    | .redirected line body redirections =>
      modifyProcess ({ · with line })
      let saved := world.process.descriptors
      if ← redirect fuel redirections then followed do run fuel tested body
      else if ← goesOn then setStatus 2
      modifyProcess ({ · with descriptors := saved })
    | .subshell line body =>
      modifyProcess ({ · with line })
      if world.process.isLast && world.process.traps.isEmpty then
        run fuel tested body
        if ← goesOn then finish (← process).status
      else
        let child ← inChild false do
          run fuel tested body
          endProcess fuel
        settle child
        runTraps fuel
        checkFailure tested
    | .group body => run fuel tested body
    | .pipeline commands =>
      let (_, ending, status) ← runStages fuel tested none commands
      advanceTo ending
      noticeJobs
      receiveSent
      if ← goesOn then setStatus status
      runTraps fuel
      checkFailure tested
    | .negation body =>
      followed do run fuel true body
      if ← goesOn then setStatus (if (← process).status == 0 then 1 else 0)
    | .andThen left right =>
      followed do run fuel true left
      if (← process).status == 0 then run fuel tested right
    | .orElse left right =>
      followed do run fuel true left
      if (← process).status != 0 then run fuel tested right
    | .sequence left right =>
      followed do run fuel tested left
      run fuel tested right
    | .background body =>
      let index ← openDescription { endpoint := .null }
      let child ← withHalfBudget do
        inChild true do
          pause 1
          connect 0 index
          let start ← process
          modify fun world => { world with origins := ⟨start, body, []⟩ :: world.origins }
          run fuel false body
          endProcess fuel
      addJob child
    | .forEach line name words body =>
      modifyProcess ({ · with line })
      let items ← match words with
        | some words => expandWords fuel words
        | none => pure (← process).parameters
      if ← goesOn then
        let loops := (← process).loops
        modifyProcess ({ · with loops := loops + 1, status := 0 })
        followed do runForEach fuel tested name body items
        modifyProcess ({ · with loops })
    | .loop whileSuccess condition body =>
      let loops := world.process.loops
      modifyProcess ({ · with loops := loops + 1 })
      followed do runLoop fuel tested whileSuccess condition body 0
      modifyProcess ({ · with loops })
    | .choice condition yes no =>
      followed do run fuel true condition
      if ← goesOn then
        if (← process).status == 0 then run fuel tested yes
        else
          match no with
          | .nothing => setStatus 0
          | no => run fuel tested no
    | .select line word clauses =>
      modifyProcess ({ · with line })
      let text ← expandText fuel word
      if ← goesOn then runSelect fuel tested text clauses
    | .function name body =>
      modifyProcess fun process =>
        { process with
          functions := (name, body) :: process.functions.filter (·.1 != name)
          status := 0 }

/-- Carries out the body of a loop for each of several values. -/
def runForEach (fuel : Nat) (tested : Bool) (name : String) (body : Command) (items : List Octets) :
    Session Unit :=
  match fuel with
  | 0 => stall
  | fuel + 1 => do
    match items with
    | [] => return ()
    | item :: rest =>
      if ← assign name item then
        run fuel tested body
        if ← nextRound? then runForEach fuel tested name body rest

/-- Carries out the rounds of a loop; `last` is the status of the last one. -/
def runLoop (fuel : Nat) (tested whileSuccess : Bool) (condition body : Command) (last : Nat) :
    Session Unit :=
  match fuel with
  | 0 => stall
  | fuel + 1 => do
    run fuel true condition
    if ← goesOn then
      if ((← process).status == 0) == whileSuccess then
        run fuel tested body
        let status := (← process).status
        if ← nextRound? then runLoop fuel tested whileSuccess condition body status
      else setStatus last
    else if ← nextRound? then runLoop fuel tested whileSuccess condition body last

/-- Carries out the first clause with a pattern that a text matches. -/
def runSelect (fuel : Nat) (tested : Bool) (text : Octets) (clauses : List (List Word × Command)) :
    Session Unit :=
  match fuel with
  | 0 => stall
  | fuel + 1 => do
    match clauses with
    | [] => setStatus 0
    | (patterns, body) :: rest =>
      let mut fits := false
      for pattern in patterns do
        if !fits && (← goesOn) then
          fits := matchesGlob (globOf (markedText (← expand fuel false false pattern))) text
      if ← goesOn then
        if fits then
          match body with
          | .nothing => setStatus 0
          | body => run fuel tested body
        else runSelect fuel tested text rest

/-- Carries out the commands of a pipeline, whose input is given. Returns the end of the first one,
the end of all and the status of the last one. -/
def runStages (fuel : Nat) (tested : Bool) (input : Option Nat) (commands : List Command) :
    Session (Nat × Nat × Nat) :=
  match fuel with
  | 0 => do
    stall
    return (forever, forever, 137)
  | fuel + 1 => do
    let stage (output : Option Nat) (command : Command) : Session Process :=
      inChild false do
        if let some index := input then connect 0 index
        if let some index := output then connect 1 index
        run fuel tested command
        endProcess fuel
    match commands with
    | [] => return ((← process).clock, (← process).clock, 0)
    | [last] =>
      let child ← stage none last
      if child.flow == .killed then tellSignal child.status
      return (child.clock, child.clock, child.status)
    | first :: rest =>
      let number ← newBuffer (some pipeBytes)
      let output ← openDescription { endpoint := .buffer number, readable := false }
      let child ← withHalfBudget do stage (some output) first
      if child.flow == .killed && child.clock < forever then tellSignal child.status
      let next ← openDescription { endpoint := ← streamOf number, writable := false }
      let (readerEnding, ending, status) ← runStages fuel tested (some next) rest
      let own ← breakPipe number child.pid child.clock readerEnding
      return (own, max own ending, status)

/-- Carries out a simple command: expands its words, redirects, assigns and calls. -/
def runSimple (fuel : Nat) (tested : Bool) (assignments : List (String × Word)) (words : List Word)
    (redirections : List Redirection) : Session Unit :=
  match fuel with
  | 0 => stall
  | fuel + 1 => do
    pause 1
    let isLast := (← process).isLast
    modifyProcess ({ · with substituted := none, isLast := false })
    let before := (← process).status
    let arguments ← expandWords fuel words
    checkSize arguments
    if !(← goesOn) then return ()
    let saved := (← process).descriptors
    let tracing := saved.lookup 2
    let name := arguments.head?.map nameOf
    let isSpecial := name.all fun name => specialBuiltins.contains name
    let functions := (← process).functions
    let isFunction := name.any fun name => !isSpecial && functions.any (·.1 == name)
    let redirected ← redirect fuel redirections
    if !redirected then
      if ← goesOn then
        modifyProcess fun process =>
          { process with
            status := 2
            flow := if isSpecial && !arguments.isEmpty then .failed else .onward
            descriptors := saved }
      return ()
    let old := (← process).assigned
    let mut assigned := #[]
    for (name, word) in assignments do
      if ← goesOn then
        let value ← expandText fuel word
        if ← goesOn then
          let _ ← assign name value
          assigned := assigned.push (name, value)
    if !(← goesOn) then return ()
    if (← hasOption 'x') && !(assigned.isEmpty && arguments.isEmpty) then
      trace tracing assigned.toList arguments
    match arguments with
    | [] =>
      setStatus (((← process).substituted).getD 0)
      modifyProcess ({ · with descriptors := saved })
    | command :: rest =>
      modifyProcess fun process =>
        { process with
          status := before
          assigned := process.assigned.map fun (name, v) =>
            if assigned.any (·.1 == name) && !isSpecial then (name, { v with exported := true })
            else (name, v) }
      if isFunction then callFunction fuel tested (nameOf command) rest
      else if (specialBuiltins ++ regularBuiltins).contains (nameOf command) then
        callBuiltin fuel tested isSpecial before (nameOf command) rest
      else if isLast && (← process).traps.isEmpty then
        runProgram fuel arguments
        settleFlow
      else
        let child ← inChild false do runProgram fuel arguments
        settle child
      let keeps := isSpecial || assigned.isEmpty
      if !keeps then
        for (name, _) in assigned do
          match old.lookup name with
          | some v => setVariable name v
          | none => dropVariable name
      if command != octets "exec" || !(← goesOn) then
        modifyProcess ({ · with descriptors := saved })

/-- Calls a function. -/
def callFunction (fuel : Nat) (tested : Bool) (name : String) (parameters : List Octets) :
    Session Unit :=
  match fuel with
  | 0 => stall
  | fuel + 1 => do
    let caller ← process
    match caller.functions.lookup name with
    | none => return ()
    | some body =>
      if caller.calls == 1000 then
        refuse (octets "Maximum function recursion depth (1000) reached")
      else
        modifyProcess fun process =>
          { process with
            parameters
            letters := 0
            calls := process.calls + 1
            loops := 0
            locals := [] :: process.locals }
        run fuel tested body
        restoreVariables ((← process).locals.headD [])
        modifyProcess fun process =>
          { process with
            parameters := caller.parameters
            letters := caller.letters
            calls := caller.calls
            loops := caller.loops
            locals := caller.locals
            flow := if process.flow == .returned then .onward else process.flow }

/-- Calls a builtin. Mistakes of a special one end the script; `before` is the status before it. -/
def callBuiltin (fuel : Nat) (tested isSpecial : Bool) (before : Nat) (name : String)
    (words : List Octets) : Session Unit :=
  match fuel with
  | 0 => stall
  | fuel + 1 => do
    let outer := (← process).command
    modifyProcess ({ · with command := some (octets name) })
    match simpleBuiltin? name with
    | some builtin =>
      setStatus 0
      builtin words
    | none =>
      match name with
      | "exit" => leaveWith words (((← process).leaving).getD before) .ended
      | "return" => leaveWith words before .returned
      | "eval" => runText fuel tested false false (joined words)
      | "." => runFile fuel words
      | "exec" =>
        if !words.isEmpty then
          modifyProcess ({ · with traps := [] })
          match ← runFound fuel words with
          | none => settleFlow
          | some error =>
            modifyProcess ({ · with command := some (octets name) })
            tellNotRun (words.headD []) error
            settleFlow
        else setStatus 0
      | "command" => runPlainly fuel tested before outer words
      | _ => return ()
    modifyProcess fun process =>
      { process with
        command := outer
        flow := if process.flow == .failed && !isSpecial then .onward else process.flow }

/-- Carries out a command that is no function, or tells what it is. -/
def runPlainly (fuel : Nat) (tested : Bool) (before : Nat) (outer : Option Octets)
    (words : List Octets) : Session Unit :=
  match fuel with
  | 0 => stall
  | fuel + 1 =>
    withFlags "pvV" words fun flags words => do
      setStatus 0
      modifyProcess ({ · with command := outer })
      if flags.contains 'v' || flags.contains 'V' then
        for word in words do describeName (flags.contains 'V') word
      else
        match words with
        | [] => return ()
        | name :: rest =>
          if (specialBuiltins ++ regularBuiltins).contains (nameOf name) then
            callBuiltin fuel tested false before (nameOf name) rest
          else
            let child ← inChild false do runProgram fuel words
            settle child

/-- Carries out the commands of a file. -/
def runFile (fuel : Nat) (words : List Octets) : Session Unit :=
  match fuel with
  | 0 => stall
  | fuel + 1 => do
    match words with
    | [] => refuse (octets "filename argument required")
    | path :: _ =>
      let fronts := ((← value? "PATH").getD []).splitOn ':'
      let places :=
        if path.contains '/' then [path]
        else fronts.map fun front => if front.isEmpty then path else front ++ ['/'] ++ path
      let mut found := none
      for place in places do
        if found.isNone then
          match ← readFile place with
          | .ok data => found := some (place, data)
          | .error .isDirectory => found := some (place, [])
          | .error _ => pure ()
      match found with
      | none =>
        if path.contains '/' then refuse (octets "cannot open " ++ path ++ octets ": No such file")
        else refuse (path ++ octets ": not found")
      | some (place, data) =>
        let loops := (← process).loops
        modifyProcess ({ · with command := some place, loops := 0 })
        runText fuel false false false data
        modifyProcess fun process =>
          { process with
            loops
            flow := if process.flow == .returned then .onward else process.flow }

/-- Carries out the commands of a text one after the other. What is read is shown if `shows` is set
and the script has the option for it; `ends` tells whether the process ends with the text. -/
def runText (fuel : Nat) (tested shows ends : Bool) (text : Octets) : Session Unit :=
  match fuel with
  | 0 => stall
  | fuel + 1 => do
    let world ← get
    runFrom fuel tested shows (ends && !isClosed text) true
      { rest := text, documents := world.documents, aliases := world.process.aliases }

/-- Goes on with the commands of a text. -/
def runFrom (fuel : Nat) (tested shows ends isFirst : Bool) (reading : Reading) : Session Unit :=
  match fuel with
  | 0 => stall
  | fuel + 1 => do
    let world ← get
    let result := readComplete.run
      { reading with documents := world.documents, aliases := world.process.aliases }
    let showRead (rest : Octets) : Session Unit := do
      if shows && (← hasOption 'v') then
        putError (reading.rest.take (reading.rest.length - rest.length))
    match result with
    | .error (line, error) =>
      showRead []
      modifyProcess ({ · with line })
      refuse (octets ("Syntax error: " ++ error.message))
    | .ok (none, _) =>
      showRead []
      if isFirst then setStatus 0
    | .ok (some command, reading) =>
      showRead reading.rest
      modify ({ · with documents := reading.documents })
      modifyProcess ({ · with isLast := ends && reading.rest.isEmpty })
      run fuel tested command
      let isStill := isFirst && command matches .nothing
      if ← goesOn then runFrom fuel tested shows ends isStill reading

/-- Does what is to be done on the signals that have come. -/
def runTraps (fuel : Nat) : Session Unit :=
  match fuel with
  | 0 => stall
  | fuel + 1 => do
    let revived := (← get).revived
    if !revived.isEmpty then
      modify fun world => { world with revived := [] }
      for pid in revived.eraseDups do revive fuel pid
    receiveSent
    let before ← process
    if before.signals.isEmpty || before.flow != .onward then return ()
    modifyProcess ({ · with signals := [] })
    for name in before.signals.reverse do
      if ← goesOn then
        modifyProcess ({ · with leaving := some before.status })
        runText fuel true false false ((before.traps.lookup name).getD [])
        if ← goesOn then setStatus before.status
    modifyProcess ({ · with leaving := before.leaving })

/-- Carries out a process in the background once more, with the signals that are sent to it. -/
def revive (fuel pid : Nat) : Session Unit :=
  match fuel with
  | 0 => stall
  | fuel + 1 => do
    let world ← get
    match world.origins.find? fun origin => origin.process.pid == pid with
    | none => return ()
    | some ⟨start, body, signals⟩ =>
      cut pid start.clock true
      modify fun world =>
        { world with
          process := start
          sent := signals ++ world.sent.filter fun signal => signal.pid != pid }
      hold false pid start.descriptors start.clock
      withHalfBudget do
        run fuel false body
        endProcess fuel
      let child ← process
      modify fun after =>
        { after with
          process := { world.process with
            jobs := world.process.jobs.map fun job =>
              if job.pid == pid then
                { job with ending := child.clock, status := child.status, traps := child.traps }
              else job } }

/-- Does what is to be done at the end of the process. -/
def endProcess (fuel : Nat) : Session Unit :=
  match fuel with
  | 0 => stall
  | fuel + 1 => do
    let before ← process
    if before.flow != .killed then
      match before.traps.lookup "EXIT" with
      | none => return ()
      | some action =>
        modifyProcess fun process =>
          { process with
            traps := process.traps.filter (·.1 != "EXIT")
            leaving := some before.status
            flow := .onward }
        runText fuel true false false action
        let after ← process
        if after.flow != .killed && after.flow != .ended then setStatus before.status
        settleFlow

/-- Runs a program in the place of the process, or tells why it cannot be run. -/
def runFound (fuel : Nat) (words : List Octets) : Session (Option PathError) :=
  match fuel with
  | 0 => do
    stall
    return none
  | fuel + 1 => do
    match words with
    | [] => return none
    | name :: rest =>
      match ← findProgram name with
      | .error error => return some error
      | .ok (path, node) =>
        match ← runnable node with
        | .error error => return some error
        | .ok (.inl program) =>
          setStatus 0
          if shellNames.contains program then runShell fuel name rest
          else
            match programs.lookup program with
            | some program => program (invoke fuel) rest
            | none => pure ()
          stallIfStarved
          return none
        | .ok (.inr number) =>
          match interpreterOf? ((← get).files.content number).data with
          | some front => runFound fuel (front ++ path :: rest)
          | none => do
            runShell fuel name (path :: rest)
            return none

/-- Runs a program in the place of the process; a message tells why it cannot be run. -/
def runProgram (fuel : Nat) (words : List Octets) : Session Unit :=
  match fuel with
  | 0 => stall
  | fuel + 1 => do
    match ← runFound fuel words with
    | none => return ()
    | some error => tellNotRun (words.headD []) error

/-- Runs a program for another one. -/
def invoke (fuel : Nat) (words : List Octets) : Session (Option PathError) :=
  match fuel with
  | 0 => do
    stall
    return none
  | fuel + 1 => do
    match ← findProgram (words.headD []) with
    | .error error => return some error
    | .ok (_, node) =>
      match ← runnable node with
      | .error error => return some error
      | .ok _ =>
        let child ← inChild false do runProgram fuel words
        advanceTo child.clock
        if ← goesOn then setStatus child.status
        return none

/-- Runs a script in the place of the process. -/
def runShell (fuel : Nat) (name : Octets) (words : List Octets) : Session Unit :=
  match fuel with
  | 0 => stall
  | fuel + 1 => do
    renew name
    match ← startOf name words with
    | .error text => refuse text
    | .ok start =>
      let text ← match start.source with
        | .argument text => pure (some text)
        | .input => pure (some (← readAll 0))
        | .file path =>
          match ← readFile path with
          | .ok data => pure (some data)
          | .error .isDirectory => pure (some [])
          | .error error =>
            refuse (redirectionMessage .read path error)
            pure none
      match text with
      | none => return ()
      | some text =>
        modifyProcess ({ · with name := start.name, parameters := start.parameters })
        let isArgument := match start.source with
          | .argument _ => true
          | _ => false
        runText fuel false (!isArgument) isArgument text
        endProcess fuel
        settleFlow
end

end Session

end LinksBinding.Shell
