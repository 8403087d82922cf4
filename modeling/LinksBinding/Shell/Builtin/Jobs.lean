import LinksBinding.Shell.Builtin.Variables
import LinksBinding.Shell.Children

/-!
# Jobs and signals

The builtins that wait for processes in the background, send signals and say what is done on them.
-/

namespace LinksBinding.Shell

open Text

namespace Session

/-! ## Signals -/

/-- The order of a signal among the others; the end of the process comes first. -/
def signalRank (name : String) : Nat := if name == "EXIT" then 0 else signalNumber name

/-- Sets what is done on a signal; `none` for what is done anyway. -/
def setTrap (name : String) (action : Option Octets) : Session Unit :=
  modifyProcess fun process =>
    let others := process.traps.filter (·.1 != name)
    { process with
      traps := match action with
        | some action => (name, action) :: others
        | none => others }

/-- The builtin `trap`. -/
def trapSignals : Builtin := fun words =>
  withFlags "" words fun _ words => do
    match words with
    | [] =>
      let traps := (← process).traps.mergeSort fun (a, _) (b, _) => signalRank a ≤ signalRank b
      for (name, action) in traps do
        put (octets "trap -- " ++ quoteWord action ++ octets (" " ++ name ++ "\n"))
    | first :: rest =>
      let (action, names) :=
        if rest.isEmpty || (natOf? first).isSome then (none, words)
        else if first == ['-'] then (none, rest)
        else (some first, rest)
      for word in names do
        if (← process).status == 0 then
          match signalNamed? word with
          | some name => setTrap name action
          | none =>
            putErrorLine (octets "trap: " ++ word ++ octets ": bad trap")
            setStatus 1

/-- How the builtin `kill` is used. -/
def killUsage : String :=
  "Usage: kill [-s sigspec | -signum | -sigspec] [pid | job]... or\nkill -l [exitstatus]"

/-- The process that a word names: by its number, or by that of a job. -/
def targetOf? (word : Octets) : Session (Except Octets (Option Nat)) := do
  match word with
  | '%' :: rest =>
    let jobs := (← process).jobs
    let job := match natOf? rest with
      | some n => jobs.find? fun (job : Job) => job.number == n
      | none => jobs.head?
    match job with
    | some job => return .ok (some job.pid)
    | none => return .error (octets "No such job: " ++ word)
  | word =>
    match intOf? word with
    | some n => return .ok (if n < 0 then none else some n.toNat)
    | none => return .error (octets "Illegal number: " ++ word)

/-- Sends a signal to processes. -/
def sendAll (name : String) : List Octets → Session Unit
  | [] => return ()
  | word :: rest => do
    match ← targetOf? word with
    | .error text => refuse text
    | .ok target =>
      let sent ← match target with
        | some pid => send pid name
        | none => pure false
      if !sent then
        complain (octets "No such process\n")
        setStatus 1
      if ← goesOn then sendAll name rest

/-- The builtin `kill`. -/
def kill : Builtin := fun words => do
  let go (signal : Octets) (targets : List Octets) : Session Unit := do
    match signalNamed? signal with
    | some name =>
      if targets.isEmpty then refuse (octets killUsage) else sendAll name targets
    | none => refuse (octets "invalid signal number or name: " ++ signal)
  match words with
  | [] => refuse (octets killUsage)
  | ['-', 'l'] :: [] => put (unlines (listedSignals.map octets))
  | ['-', 'l'] :: word :: _ =>
    match natOf? word with
    | some n =>
      match signalOf? (if n > 128 then n - 128 else n) with
      | some name => put (octets (name ++ "\n"))
      | none => refuse (octets "invalid signal number or exit status: " ++ word)
    | none => refuse (octets "Illegal number: " ++ word)
  | ['-', 's'] :: signal :: rest => go signal rest
  | ['-', '-'] :: rest => go (octets "TERM") rest
  | ('-' :: signal) :: rest => go signal rest
  | words => go (octets "TERM") words

/-! ## Jobs -/

/-- Waits until a process in the background ends, or until a signal comes that something is done on.
Returns its status. A signal that has ended the process is told if `tells` is set. -/
def awaitJob (tells : Bool) (job : Job) : Session Nat := do
  let world ← get
  let process := world.process
  let due := world.sent.filter fun signal =>
    signal.pid == process.pid && signal.time ≤ job.ending &&
      !((process.traps.lookup signal.name).any (·.isEmpty) || isHarmless signal.name)
  match due.getLast? with
  | some signal =>
    advanceTo signal.time
    receiveSent
    return 128 + signalNumber signal.name
  | none =>
    advanceTo job.ending
    if ← goesOn then
      if tells && !job.noticed && job.status > 128 then tellSignal job.status
      noticeJobs
      modifyProcess fun process =>
        { process with
          jobs := process.jobs.map fun other =>
            if other.pid == job.pid then { other with awaited := true } else other }
    return job.status

/-- Waits for several processes in the background, as long as no signal comes. -/
def awaitJobs : List Job → Session Unit
  | [] => return ()
  | job :: rest => do
    let _ ← awaitJob false job
    if (← goesOn) && (← process).signals.isEmpty then awaitJobs rest

/-- The builtin `wait`. -/
def wait : Builtin := fun words => do
  if words.isEmpty then awaitJobs (← process).jobs.reverse
  else
    for word in words do
      if ← goesOn then
        match ← targetOf? word with
        | .error text => refuse text
        | .ok target =>
          match (← process).jobs.find? fun job => some job.pid == target with
          | some job => setStatus (← awaitJob true job)
          | none => setStatus 127

/-- How the state of a process in the background is told at a time. -/
def jobState (job : Job) (clock : Nat) : Octets :=
  if clock < job.ending then octets "Running"
  else if job.status == 0 then octets "Done"
  else if job.status > 128 then octets (((signalOf? (job.status - 128)).map signalMessage).getD "")
  else octets "Done(" ++ digits job.status ++ [')']

/-- The builtin `jobs`. -/
def listJobs : Builtin := fun _ => do
  let process ← process
  for job in process.jobs do
    let others := process.jobs.takeWhile fun other => other.pid != job.pid
    let mark := match (others.filter fun other => process.clock < other.ending).length with
      | 0 => "+ "
      | 1 => "- "
      | _ => "  "
    let state := jobState job process.clock
    put (['['] ++ digits job.number ++ octets ("] " ++ mark) ++ state ++
      List.replicate (27 - state.length) ' ' ++ ['\n'])
  modifyProcess fun process =>
    { process with jobs := process.jobs.filter fun job => process.clock < job.ending }

end Session

end LinksBinding.Shell
