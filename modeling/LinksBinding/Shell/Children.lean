import LinksBinding.Shell.World

/-!
# Processes of processes

A process starts others: it waits for them, or reads what they write, or leaves them in the
background. As they are carried out one after the other, a process can come to its end later than
another one allows, which has read enough or has sent a signal: then what it does after that time is
taken back.
-/

namespace LinksBinding.Shell

/-! ## Signals -/

/-- Signals and their numbers. -/
def signalNumbers : List (String × Nat) :=
  [("HUP", 1), ("INT", 2), ("QUIT", 3), ("ILL", 4), ("TRAP", 5), ("ABRT", 6), ("BUS", 7),
    ("FPE", 8), ("KILL", 9), ("USR1", 10), ("SEGV", 11), ("USR2", 12), ("PIPE", 13), ("ALRM", 14),
    ("TERM", 15), ("STKFLT", 16), ("CHLD", 17), ("CONT", 18), ("STOP", 19), ("TSTP", 20),
    ("TTIN", 21), ("TTOU", 22), ("URG", 23), ("XCPU", 24), ("XFSZ", 25), ("VTALRM", 26),
    ("PROF", 27), ("WINCH", 28), ("IO", 29), ("PWR", 30), ("SYS", 31)]

/-- The names of all signals in the order of their numbers, as a list of them shows them. -/
def listedSignals : List String :=
  let named := signalNumbers.map fun (name, _) => if name == "STKFLT" then "16" else name
  let near (front sign : String) (n : Nat) : String :=
    if n == 0 then front else front ++ sign ++ toString n
  "0" :: named ++ ["32", "33"] ++ (List.range 16).map (near "RTMIN" "+") ++
    (List.range 15).reverse.map (near "RTMAX" "-")

/-- The signal of a number. -/
def signalOf? (number : Nat) : Option String :=
  (signalNumbers.find? (·.2 == number)).map (·.1)

/-- The number of a signal. -/
def signalNumber (name : String) : Nat := (signalNumbers.lookup name).getD 0

/-- The signal that a word names, by its name or number; `EXIT` is the end of a process. -/
def signalNamed? (word : Octets) : Option String :=
  match natOf? word with
  | some 0 => some "EXIT"
  | some number => signalOf? number
  | none =>
    let name := nameOf (word.map Char.toUpper)
    let name := if name.startsWith "SIG" then (name.drop 3).toString else name
    if name == "EXIT" || (signalNumbers.lookup name).isSome then some name else none

/-- Signals that a process does not mind. -/
def isHarmless (name : String) : Bool := ["CHLD", "CONT", "URG", "WINCH"].contains name

/-- Signals that make a process wait. -/
def isStopping (name : String) : Bool := ["STOP", "TSTP", "TTIN", "TTOU"].contains name

/-- How the end of a process by a signal is told; nothing for some signals. -/
def signalMessage (name : String) : String :=
  match name with
  | "HUP" => "Hangup"
  | "QUIT" => "Quit"
  | "ILL" => "Illegal instruction"
  | "TRAP" => "Trace/breakpoint trap"
  | "ABRT" => "Aborted"
  | "BUS" => "Bus error"
  | "FPE" => "Floating point exception"
  | "KILL" => "Killed"
  | "USR1" => "User defined signal 1"
  | "SEGV" => "Segmentation fault"
  | "USR2" => "User defined signal 2"
  | "ALRM" => "Alarm clock"
  | "TERM" => "Terminated"
  | _ => ""

namespace Session

/-- Carries out something in a process of its own and returns that process at its end. The clock of
the process that starts it stays as it is. -/
def inChild (background : Bool) (act : Session Unit) : Session Process := do
  let parent ← process
  let pid ← newPid
  let child : Process :=
    { parent with
      pid
      waiting := if background then [] else (parent.pid, parent.descriptors) :: parent.waiting
      traps := parent.traps.filter fun (_, action) => action.isEmpty
      jobs := []
      signals := []
      isChild := true
      isLast := true }
  modify ({ · with process := child })
  hold true pid child.descriptors child.clock
  act
  let child ← process
  modify ({ · with process := parent })
  return child

/-- Carries out something that may use no more than half of the budget: others do not wait for its
end. -/
def withHalfBudget {α : Type} (act : Session α) : Session α := do
  let kept := (← get).budget / 2
  modify fun world => { world with budget := world.budget - kept }
  let result ← act
  modify fun world => { world with budget := world.budget + kept }
  return result

/-- What a pipe gives to its reader: all that was written to it. -/
def streamOf (number : Nat) : Session Endpoint := do
  match (← get).buffers[number]? with
  | none => return .null
  | some buffer =>
    let closed := if buffer.heldUntil < forever then some buffer.heldUntil else none
    return .stream (buffer.inOrder.map fun chunk => (chunk.time, chunk.data)) closed

/-! ## The end of processes -/

/-- The processes that come from a process, with their starts. -/
def descendants (births : List (Nat × Nat × Nat)) :
    (fuel : Nat) → (pid : Nat) → List (Nat × Nat)
  | 0, _ => []
  | fuel + 1, pid =>
    births.flatMap fun (child, parent, start) =>
      if parent == pid then (child, start) :: descendants births fuel child else []

/-- Takes back what a process does after a time. Processes that it has started go on if it started
them before, unless all end with it. -/
def cut (pid time : Nat) (together : Bool) : Session Unit :=
  modify fun world =>
    let births := world.births.filter fun (child, _, _) => pid < child
    let below := descendants births births.length pid
    let gone := pid :: (below.filter fun (_, start) => together || time < start).map (·.1)
    { world with
      buffers := world.buffers.map fun buffer =>
        { buffer with
          chunks := buffer.chunks.filter fun chunk =>
            chunk.time ≤ time || !gone.contains chunk.writer
          holds := buffer.holds.map fun (holder, held) =>
            (holder, if gone.contains holder then min held time else held) } }

/-- The writers of chunks, each with the time of its first one. -/
def firstWrites (chunks : List Chunk) : List (Nat × Nat) :=
  chunks.foldl
    (fun found chunk =>
      if found.any (·.1 == chunk.writer) then found else found ++ [(chunk.writer, chunk.time)])
    []

/-- Ends the writers of a pipe that write to it when nobody reads it any more: `pid` is the process
that was started to write to the pipe, and `ending` its end. Returns its end. -/
def breakPipe (number pid ending readerEnding : Nat) : Session Nat := do
  match (← get).buffers[number]? with
  | none => return ending
  | some buffer =>
    if forever ≤ readerEnding then return ending
    let chunks := buffer.inOrder
    let last := chunks.foldl (fun time chunk => max time chunk.time) 0
    let late := chunks.filter fun chunk => readerEnding < chunk.time
    let isFull := buffer.limit.isSome && pipeCapacity < buffer.size
    let endings := firstWrites late
    for (writer, time) in endings do cut writer time false
    match endings.lookup pid with
    | some time => return min ending time
    | none =>
      if isFull && forever ≤ ending then
        let time := max readerEnding last
        cut pid time true
        return time
      else return ending

/-- The processes that a process comes from. -/
def ancestors (births : List (Nat × Nat × Nat)) : (fuel : Nat) → (pid : Nat) → List Nat
  | 0, _ => []
  | fuel + 1, pid =>
    match births.find? fun (child, _, _) => child == pid with
    | some (_, parent, _) => parent :: ancestors births fuel parent
    | none => []

/-- Ends the process by a signal. -/
def dieBy (name : String) : Session Unit :=
  modifyProcess ({ · with status := 128 + signalNumber name, flow := .killed })

/-- Takes a signal that comes to the process. -/
def receive (name : String) : Session Unit := do
  match (← process).traps.lookup name with
  | some [] => return ()
  | some _ => modifyProcess fun process => { process with signals := name :: process.signals }
  | none =>
    if isHarmless name then return ()
    else if isStopping name then stall
    else dieBy name

/-- Takes the signals that other processes have sent to the process up to its time. One that ends
the process does so when it is sent. -/
def receiveSent : Session Unit := do
  let world ← get
  if world.sent.isEmpty then return ()
  let process := world.process
  let (due, rest) := world.sent.partition fun signal =>
    signal.pid == process.pid && signal.time ≤ process.clock
  set { world with sent := rest }
  for signal in due.reverse do
    if (← Session.process).flow != .killed then
      receive signal.name
      if (← Session.process).flow == .killed then
        modifyProcess ({ · with clock := signal.time })
        cut process.pid signal.time false

/-- Sends a signal to a process. Fails if there is no such process. The name `EXIT` stands for no
signal at all. -/
def send (pid : Nat) (name : String) : Session Bool := do
  let world ← get
  let process := world.process
  if name == "EXIT" then
    return pid == process.pid || process.jobs.any (fun job => job.pid == pid && !job.noticed) ||
      (ancestors world.births world.births.length process.pid).contains pid
  else if pid == process.pid then
    receive name
    return true
  else if (ancestors world.births world.births.length process.pid).contains pid then
    set { world with sent := ⟨pid, process.clock, name⟩ :: world.sent }
    return true
  else
    match process.jobs.find? (·.pid == pid) with
    | none => return false
    | some job =>
      if job.noticed then return false
      let action := if name == "KILL" then none else job.traps.lookup name
      let isIgnored := action.any (·.isEmpty) || (isHarmless name && action.isNone)
      if process.clock < job.ending && !isIgnored then
        if action.isSome then
          set { world with
            origins := world.origins.map fun (origin : Origin) =>
              if origin.process.pid == pid then
                { origin with signals := ⟨pid, process.clock, name⟩ :: origin.signals }
              else origin
            revived := pid :: world.revived }
          return true
        cut pid process.clock false
        let job := { job with ending := process.clock, status := 128 + signalNumber name }
        modifyProcess fun process =>
          { process with
            jobs := process.jobs.map fun other => if other.pid == pid then job else other }
      return true

/-- Tells that a process was ended by a signal. -/
def tellSignal (status : Nat) : Session Unit := do
  match signalOf? (status - 128) with
  | some name =>
    let message := signalMessage name
    if status > 128 && !message.isEmpty then putErrorLine (octets message)
  | none => return ()

/-- Takes notice of the processes in the background that have ended. -/
def noticeJobs : Session Unit :=
  modifyProcess fun process =>
    if process.jobs.isEmpty then process
    else
      { process with
        jobs := process.jobs.map fun job =>
          { job with noticed := job.noticed || job.ending ≤ process.clock } }

/-- Keeps a process in the background, under the first number that is not in use. -/
def addJob (child : Process) : Session Unit :=
  modifyProcess fun process =>
    let used := process.jobs.filter fun job => !(job.noticed && job.awaited)
    let number := ((List.range (used.length + 1)).find? fun n =>
      used.all (·.number != n + 1)).getD 0 + 1
    let job : Job :=
      { number, pid := child.pid, ending := child.clock, status := child.status,
        traps := child.traps }
    { process with
      jobs := job :: process.jobs.filter (·.number != number)
      lastJob := some child.pid
      status := 0 }

/-- Goes on behind a process that was waited for. -/
def settle (child : Process) : Session Unit := do
  advanceTo child.clock
  noticeJobs
  receiveSent
  if ← goesOn then
    setStatus child.status
    if child.flow == .killed then tellSignal child.status

end Session

end LinksBinding.Shell
