import LinksBinding.Shell.FileSystem
import LinksBinding.Shell.Script

/-!
# Processes and what they share

What a script runs in: the process that carries it out, with its variables and descriptors, and
what all processes share, which is the files and what is written to pipes.

Processes are carried out one after the other, each with a clock of its own. What they write is kept
with the time at which it is written, so that processes that would run side by side can still be
put into order: a reader waits for what it reads, and what nobody waits for comes when it comes.
-/

namespace LinksBinding.Shell

/-! ## What is shared -/

/-- Something that is written. -/
structure Chunk where
  /-- when it is written, in microseconds -/
  time : Nat
  /-- which process writes it -/
  writer : Nat
  /-- what is written -/
  data : Octets

/-- What is written to a pipe or to an output of the script. -/
structure Buffer where
  /-- what is written, last first -/
  chunks : List Chunk := []
  /-- how much is written -/
  size : Nat := 0
  /-- how much may be written before a writer stalls, if there is a limit -/
  limit : Option Nat := none
  /-- until when processes keep the buffer open -/
  holds : List (Nat × Nat) := []

namespace Buffer

/-- What is written, in the order of time. -/
def inOrder (buffer : Buffer) : List Chunk :=
  buffer.chunks.reverse.mergeSort fun a b => a.time ≤ b.time

/-- All that is written. -/
def data (buffer : Buffer) : Octets := buffer.inOrder.flatMap (·.data)

/-- Until when the buffer is kept open by some process. -/
def heldUntil (buffer : Buffer) : Nat := buffer.holds.foldl (fun time (_, held) => max time held) 0

end Buffer

/-- What a descriptor is connected with. -/
inductive Endpoint where
  /-- nothing -/
  | null
  /-- zeros without end -/
  | zero
  /-- something that takes nothing -/
  | full
  /-- a file, by its number -/
  | file (number : Nat)
  /-- a directory -/
  | directory
  /-- a buffer, to write to -/
  | buffer (number : Nat)
  /-- what was written to a pipe, with the times; `closed` is when its end is known, `none` for a
  pipe without end -/
  | stream (chunks : List (Nat × Octets)) (closed : Option Nat)

/-- A file or pipe that is open. -/
structure Description where
  /-- what it is -/
  endpoint : Endpoint
  /-- how far it is read or written -/
  offset : Nat := 0
  /-- whether all writing goes behind the end -/
  append : Bool := false
  /-- whether it can be read -/
  readable : Bool := true
  /-- whether it can be written -/
  writable : Bool := true

/-! ## Processes -/

/-- A variable. -/
structure Variable where
  /-- its value, if it is set -/
  value : Option Octets
  /-- whether other programs see it -/
  exported : Bool := false
  /-- whether it cannot be changed -/
  constant : Bool := false

/-- How the script goes on. -/
inductive Flow where
  /-- with the next command -/
  | onward
  /-- behind some number of the loops around it -/
  | behindLoops (count : Nat)
  /-- with the next round of the innermost loop but some -/
  | nextRound (count : Nat)
  /-- behind the call of the function -/
  | returned
  /-- behind the command that has made a mistake, or not at all -/
  | failed
  /-- not at all -/
  | ended
  /-- not at all, and nothing is done at its end -/
  | killed
  deriving DecidableEq, Repr

/-- A process in the background. -/
structure Job where
  /-- its number among the processes in the background -/
  number : Nat
  /-- the number of the process -/
  pid : Nat
  /-- when it ends -/
  ending : Nat
  /-- its status then -/
  status : Nat
  /-- what it does on signals -/
  traps : List (String × Octets)
  /-- whether the process that has started it knows that it has ended -/
  noticed : Bool := false
  /-- whether the script has waited for it -/
  awaited : Bool := false

/-- What the numbers of descriptors stand for. -/
abbrev Descriptors := List (Nat × Nat)

/-- A process that carries out a script. -/
structure Process where
  /-- its number -/
  pid : Nat
  /-- the number of the process that the script started in -/
  scriptPid : Nat := pid
  /-- its time, in microseconds -/
  clock : Nat := 0
  /-- its working directory -/
  directory : Place
  /-- the permissions that new files do not get -/
  mask : Nat := 18
  /-- its variables -/
  assigned : List (String × Variable) := []
  /-- its functions -/
  functions : List (String × Command) := []
  /-- its short forms of commands -/
  aliases : List (Octets × Octets) := []
  /-- the name of the script -/
  name : Octets
  /-- the parameters of the script or function -/
  parameters : List Octets := []
  /-- its descriptors -/
  descriptors : Descriptors
  /-- processes that wait for it, with their descriptors -/
  waiting : List (Nat × Descriptors) := []
  /-- its options, by their letters -/
  options : List Char := []
  /-- what is done at its end and on signals -/
  traps : List (String × Octets) := []
  /-- the status of the last command -/
  status : Nat := 0
  /-- the status of the last output that a word was replaced by -/
  substituted : Option Nat := none
  /-- the line of the command -/
  line : Nat := 1
  /-- the command that messages name -/
  command : Option Octets := none
  /-- how it goes on -/
  flow : Flow := .onward
  /-- how many loops are around the command -/
  loops : Nat := 0
  /-- how many calls are around the command -/
  calls : Nat := 0
  /-- the variables that calls have to put back, innermost call first -/
  locals : List (List (String × Option Variable)) := []
  /-- its processes in the background, last first -/
  jobs : List Job := []
  /-- the last process in the background -/
  lastJob : Option Nat := none
  /-- how many letters of a word of options are read -/
  letters : Nat := 0
  /-- the status that the process ends with while what is done on a signal or at its end is carried
  out -/
  leaving : Option Nat := none
  /-- signals that have come and are not yet dealt with, last first -/
  signals : List String := []
  /-- whether it has come to the end of what is known of a pipe without end -/
  starved : Bool := false
  /-- whether it is a part of another process -/
  isChild : Bool := false
  /-- whether nothing follows the command in the process -/
  isLast : Bool := false

/-- A signal that is sent to a process. -/
structure Signal where
  /-- the number of the process -/
  pid : Nat
  /-- when it is sent, in microseconds -/
  time : Nat
  /-- the name of the signal -/
  name : String

/-- How a process in the background was started. -/
structure Origin where
  /-- the process at its start -/
  process : Process
  /-- what it carries out -/
  body : Command
  /-- the signals that are sent to it, last first -/
  signals : List Signal := []

/-- All processes and what they share. -/
structure World where
  /-- the process that is carried out -/
  process : Process
  /-- files and directories -/
  files : FileSystem
  /-- the name of the working directory at the start, and where it is -/
  home : String × Place
  /-- what is written; the first two are the outputs of the script -/
  buffers : Array Buffer
  /-- files and pipes that are open -/
  descriptions : Array Description
  /-- documents in scripts -/
  documents : Array Word := #[]
  /-- the processes that there have been: number, parent and start -/
  births : List (Nat × Nat × Nat) := []
  /-- signals to processes that wait for the one that sends them, last first -/
  sent : List Signal := []
  /-- how processes in the background were started -/
  origins : List Origin := []
  /-- processes that have to be carried out once more, as they do something on a signal -/
  revived : List Nat := []
  /-- the number of the last process -/
  lastPid : Nat
  /-- a time when nobody looks at the script any more -/
  deadline : Nat
  /-- how many commands may still be carried out -/
  budget : Nat

/-- Does something in a world. -/
abbrev Session := StateM World

/-- A time that no process reaches. -/
def forever : Nat := UInt64.size * 1000000000

/-- The number of the process that a script starts in. -/
def firstPid : Nat := 100

namespace Session

/-! ## Processes -/

/-- The process. -/
def process : Session Process := return (← get).process

/-- Changes the process. -/
def modifyProcess (f : Process → Process) : Session Unit :=
  modify fun world => { world with process := f world.process }

/-- Sets the status of the last command. -/
def setStatus (status : Nat) : Session Unit := modifyProcess ({ · with status })

/-- Whether the process goes on with the next command. -/
def goesOn : Session Bool := return (← process).flow == .onward

/-- Carries out something that others follow in the process. -/
def followed (act : Session Unit) : Session Unit := do
  let isLast := (← process).isLast
  modifyProcess ({ · with isLast := false })
  act
  modifyProcess ({ · with isLast })

/-- Ends the process with a status. -/
def finish (status : Nat) : Session Unit := modifyProcess ({ · with status, flow := .ended })

/-- Whether the process has an option. -/
def hasOption (letter : Char) : Session Bool := return (← process).options.contains letter

/-- How many commands a new process counts for. -/
def processCost : Nat := 50

/-- Counts work as so many commands. -/
def charge (count : Nat) : Session Unit :=
  modify fun world => { world with budget := world.budget - count }

/-- A number for a new process. -/
def newPid : Session Nat := do
  let world ← get
  let pid := world.lastPid + 1
  set { world with
    lastPid := pid
    births := (pid, world.process.pid, world.process.clock) :: world.births }
  charge processCost
  return pid

/-! ## Time -/

/-- Keeps the buffers that descriptors are connected with open until a time; `starts` tells whether
the process has not kept them open before. -/
def hold (starts : Bool) (pid : Nat) (descriptors : Descriptors) (time : Nat) : Session Unit :=
  modify fun world =>
    let numbers := descriptors.filterMap fun (_, index) =>
      match world.descriptions[index]? with
      | some { endpoint := .buffer number, .. } => some number
      | _ => none
    { world with
      buffers := numbers.foldl
        (fun buffers number =>
          buffers.modify number fun buffer =>
            let others := if starts then buffer.holds else buffer.holds.eraseP (·.1 == pid)
            { buffer with holds := (pid, time) :: others })
        world.buffers }

/-- Waits until a time. A process that nobody looks at any more never ends. -/
def advanceTo (time : Nat) : Session Unit := do
  let process ← process
  if process.clock < time then
    let isLate := (← get).deadline ≤ time
    let time := if isLate then forever else time
    modifyProcess ({ · with clock := time })
    for (pid, descriptors) in (process.pid, process.descriptors) :: process.waiting do
      hold false pid descriptors time
    if isLate then modifyProcess ({ · with flow := .killed, status := 137 })

/-- Waits for some microseconds. -/
def pause (duration : Nat) : Session Unit := do advanceTo ((← process).clock + duration)

/-- Stops without ever ending. -/
def stall : Session Unit := advanceTo forever

/-- Comes to the end of what is known of a pipe without end. -/
def starve : Session Unit := modifyProcess ({ · with starved := true })

/-- Stops if it has come to the end of what is known of a pipe without end. -/
def stallIfStarved : Session Unit := do
  if (← process).starved then
    modifyProcess ({ · with starved := false })
    stall

/-! ## Descriptors -/

/-- What a descriptor is connected with. -/
def description? (number : Nat) : Session (Option (Nat × Description)) := do
  let world ← get
  return (world.process.descriptors.lookup number).bind fun index =>
    world.descriptions[index]?.map (index, ·)

/-- Opens something: the number of what is open. -/
def openDescription (description : Description) : Session Nat :=
  modifyGet fun world =>
    (world.descriptions.size,
      { world with descriptions := world.descriptions.push description })

/-- Connects a descriptor with something that is open. -/
def connect (number index : Nat) : Session Unit :=
  modifyProcess fun process =>
    { process with
      descriptors := (number, index) :: process.descriptors.filter (·.1 != number) }

/-- Takes a descriptor away. -/
def disconnect (number : Nat) : Session Unit :=
  modifyProcess fun process =>
    { process with descriptors := process.descriptors.filter (·.1 != number) }

/-- Changes something that is open. -/
def modifyDescription (index : Nat) (f : Description → Description) : Session Unit :=
  modify fun world => { world with descriptions := world.descriptions.modify index f }

/-- A new buffer: its number. -/
def newBuffer (limit : Option Nat) : Session Nat :=
  modifyGet fun world =>
    (world.buffers.size, { world with buffers := world.buffers.push { limit } })

/-! ## Writing -/

/-- The most bytes of an output of the script that are kept. -/
def keptBytes : Nat := 64 * 1024

/-- The most bytes that wait in a pipe for its reader. -/
def pipeCapacity : Nat := 64 * 1024

/-- The most bytes that are written to a pipe before its writer counts as one without end. -/
def pipeBytes : Nat := 1 <<< 23

/-- How many bytes stand for data without end. -/
def endlessBytes : Nat := 1 <<< 21

/-- Bytes with others put over them from a place on. -/
def overlay (data : Octets) (place : Nat) (other : Octets) : Octets :=
  if place == data.length then data ++ other
  else
    data.take place ++ List.replicate (place - data.length) (Char.ofNat 0) ++ other ++
      data.drop (place + other.length)

/-- Writes to something that is open. Fails if it takes nothing. -/
def writeTo (index : Nat) (data : Octets) : Session Bool := do
  let world ← get
  match world.descriptions[index]? with
  | none => return false
  | some description =>
    if !description.writable then return false
    match description.endpoint with
    | .null | .zero => return true
    | .full => return data.isEmpty
    | .directory | .stream .. => return false
    | .file number =>
      let old := (world.files.content number).data
      charge (old.length / 256)
      let place := if description.append then old.length else description.offset
      modify fun world =>
        { world with
          files := world.files.change number fun content =>
            { content with
              data := overlay content.data place data
              changed := world.process.clock }
          descriptions := world.descriptions.modify index
            ({ · with offset := place + data.length }) }
      return true
    | .buffer number =>
      if data.isEmpty || forever ≤ world.process.clock then return true
      let chunk : Chunk := ⟨world.process.clock, world.process.pid, data⟩
      let length := data.length
      charge (length / 128)
      modify fun world =>
        { world with
          buffers := world.buffers.modify number fun buffer =>
            let kept := buffer.limit.isSome || buffer.size ≤ keptBytes
            { buffer with
              chunks := if kept then chunk :: buffer.chunks else buffer.chunks
              size := buffer.size + length } }
      match (← get).buffers[number]? with
      | some { limit := some limit, size, .. } => if limit < size then stall
      | _ => return true
      return true

/-- Writes to a descriptor. Fails if it is not connected, or takes nothing. -/
def write (number : Nat) (data : Octets) : Session Bool := do
  match (← process).descriptors.lookup number with
  | some index => writeTo index data
  | none => return false

/-- Writes to the output. -/
def put (data : Octets) : Session Unit := do let _ ← write 1 data

/-- Writes to the errors. -/
def putError (data : Octets) : Session Unit := do let _ ← write 2 data

/-- Writes a line to the errors. -/
def putErrorLine (text : Octets) : Session Unit := putError (text ++ ['\n'])

/-- A message of the script itself, in front of which stand its name and the line. -/
def complain (text : Octets) : Session Unit := do
  let process ← process
  let command := match process.command with
    | some name => name ++ octets ": "
    | none => []
  putErrorLine (process.name ++ octets ": " ++ decimal process.line ++ octets ": " ++ command ++
    text)

/-- A mistake of the command that is carried out. -/
def refuse (text : Octets) : Session Unit := do
  complain text
  modifyProcess ({ · with status := 2, flow := .failed })

/-! ## Reading -/

/-- What is read: some bytes, and whether the end was reached. -/
abbrev Taken := Octets × Bool

/-- Splits octets behind the first that fits, if one does within a number of octets. -/
def splitBehind (stops : Char → Bool) :
    (limit : Nat) → (front : Octets) → Octets → Octets × Octets × Bool
  | 0, front, rest => (front.reverse, rest, true)
  | _ + 1, front, [] => (front.reverse, [], false)
  | limit + 1, front, c :: rest =>
    if stops c then ((c :: front).reverse, rest, true)
    else splitBehind stops limit (c :: front) rest

/-- Takes octets out of the chunks of a stream, up to one that fits or to a limit: the octets so
far, the chunks that are left, the time of the last chunk, and whether it has stopped before the
end. -/
def takeChunks (stops : Char → Bool) (limit : Nat) (time : Nat) (front : List Octets) :
    List (Nat × Octets) → List Octets × List (Nat × Octets) × Nat × Bool
  | [] => (front, [], time, limit == 0)
  | (moment, data) :: rest =>
    let (piece, left, stopped) := splitBehind stops limit [] data
    if stopped then
      let chunks := if left.isEmpty then rest else (moment, left) :: rest
      let time := if piece.isEmpty then time else max time moment
      (piece :: front, chunks, time, true)
    else takeChunks stops (limit - piece.length) (max time moment) (piece :: front) rest

/-- Reads up to a character that fits, or to a limit. -/
def readUntil (number : Nat) (stops : Char → Bool) (limit : Nat) : Session Taken := do
  match ← description? number with
  | none => return ([], true)
  | some (index, description) =>
    if !description.readable then return ([], true)
    match description.endpoint with
    | .zero =>
      if stops (Char.ofNat 0) then return ([Char.ofNat 0], false)
      else if limit ≤ pipeBytes then return (List.replicate limit (Char.ofNat 0), false)
      else
        starve
        return (List.replicate endlessBytes (Char.ofNat 0), true)
    | .file content =>
      let data := ((← get).files.content content).data.drop description.offset
      let (piece, _, stopped) := splitBehind stops limit [] data
      modifyDescription index ({ · with offset := description.offset + piece.length })
      return (piece, !stopped)
    | .stream chunks closed =>
      let (pieces, left, time, stopped) := takeChunks stops limit 0 [] chunks
      modifyDescription index ({ · with endpoint := .stream left closed })
      advanceTo time
      if !stopped then
        match closed with
        | some time => advanceTo time
        | none => starve
      return (pieces.reverse.flatten, !stopped)
    | _ => return ([], true)

/-- A limit for reading all there is. -/
def noLimit : Nat := 1 <<< 40

/-- Reads to the end. -/
def readAll (number : Nat) : Session Octets := do
  let (data, _) ← readUntil number (fun _ => false) noLimit
  return data

/-- Reads a line with its line feed, and tells whether the end was reached. -/
def readLine (number : Nat) : Session Taken := readUntil number (· == '\n') noLimit

/-- The size of the blocks that programs read. -/
def blockBytes : Nat := 8192

/-- Gives up the rest of the block of a pipe that a program has read some bytes of. -/
def dropBlock (number taken : Nat) : Session Unit := do
  match ← description? number with
  | some (index, { endpoint := .stream chunks closed, .. }) =>
    let clock := (← process).clock
    let left := (blockBytes - taken % blockBytes) % blockBytes
    let known := chunks.takeWhile fun (time, _) => time ≤ clock
    let (_, rest, _, _) := takeChunks (fun _ => false) left 0 [] known
    modifyDescription index
      ({ · with endpoint := .stream (rest ++ chunks.drop known.length) closed })
  | _ => return ()

/-! ## Files -/

/-- The path of a place, as the working directory is named. -/
def shownPath (place : Place) : Session Octets := do
  let (name, home) := (← get).home
  if home.isPrefixOf place then
    let rest := (place.drop home.length).flatMap ('/' :: ·)
    return octets name ++ rest
  else return pathOf place

/-- A path with the name of the working directory at its start resolved. -/
def resolvedPath (path : Octets) : Session Octets := do
  let (name, home) := (← get).home
  let name := octets name
  if name.head? != some '/' && (path == name || startsWith (name ++ ['/']) path) then
    return pathOf home ++ path.drop name.length
  else return path

/-- What a path leads to; a link at its end is followed if `follow` is set. -/
def lookAt (follow : Bool) (path : Octets) : Session (Except PathError (Place × Node)) := do
  let path ← resolvedPath path
  let world ← get
  return world.files.find follow world.process.directory path

/-- What a path leads to, links followed. -/
def find (path : Octets) : Session (Except PathError (Place × Node)) := lookAt true path

/-- Where a path leads, even if there is nothing; a link at its end is followed if `follow` is
set. -/
def placeOf (follow : Bool) (path : Octets) : Session (Except PathError Place) := do
  let path ← resolvedPath path
  let world ← get
  return world.files.locate follow world.process.directory path

/-- Changes the files. -/
def modifyFiles (f : FileSystem → FileSystem) : Session Unit := do
  charge ((← get).files.nodes.length / 16)
  modify fun world => { world with files := f world.files }

/-- Opens a device. -/
def openDevice (device : Device) : Session (Except PathError Nat) := do
  match device with
  | .null => return .ok (← openDescription { endpoint := .null })
  | .zero => return .ok (← openDescription { endpoint := .zero })
  | .full => return .ok (← openDescription { endpoint := .full })
  | .descriptor number =>
    match (← process).descriptors.lookup number with
    | some index => return .ok index
    | none => return .error .missing

/-- Opens a path: the number of what is open. -/
def openPath (use : FileUse) (path : Octets) : Session (Except PathError Nat) := do
  let world ← get
  let path ← resolvedPath path
  let directory := world.process.directory
  match world.files.find true directory path with
  | .ok (_, .device device) => openDevice device
  | .ok (_, .directory) =>
    if use == .read then
      return .ok (← openDescription { endpoint := .directory, writable := false })
    else return .error .isDirectory
  | .ok (_, .file number) =>
    match use with
    | .read => return .ok (← openDescription { endpoint := .file number, writable := false })
    | .append =>
      return .ok (← openDescription
        { endpoint := .file number, append := true, readable := false })
    | .readWrite => return .ok (← openDescription { endpoint := .file number })
    | .write | .overwrite =>
      modify fun world =>
        { world with
          files := world.files.change number fun content =>
            { content with data := [], changed := world.process.clock } }
      return .ok (← openDescription { endpoint := .file number, readable := false })
  | .ok (_, .program _) => return .error .denied
  | .ok (_, .link _) => return .error .circular
  | .error .missing =>
    if use == .read || path.getLast? == some '/' then return .error .missing
    else
      match world.files.locate true directory path with
      | .error error => return .error error
      | .ok place =>
        match world.files.admits place with
        | .error error => return .error error
        | .ok () =>
          let (files, number) := world.files.create place { changed := world.process.clock }
          set { world with files }
          charge (files.nodes.length / 16)
          return .ok (← openDescription
            { endpoint := .file number, append := use == .append, readable := use == .readWrite })
  | .error error => return .error error

/-- Reads a file to its end. -/
def readFile (path : Octets) : Session (Except PathError Octets) := do
  match ← openPath .read path with
  | .error error => return .error error
  | .ok index =>
    match (← get).descriptions[index]? with
    | some { endpoint := .directory, .. } => return .error .isDirectory
    | _ =>
      let saved := (← process).descriptors
      connect 63 index
      let data ← readAll 63
      modifyProcess ({ · with descriptors := saved })
      return .ok data

/-- Writes a file. -/
def writeFile (use : FileUse) (path data : Octets) : Session (Except PathError Unit) := do
  match ← openPath use path with
  | .error error => return .error error
  | .ok index =>
    let _ ← writeTo index data
    return .ok ()

/-! ## Variables -/

/-- The variable of a name. -/
def assigned? (name : String) : Session (Option Variable) := return (← process).assigned.lookup name

/-- The value of a variable, if it is set. -/
def value? (name : String) : Session (Option Octets) := return (← assigned? name).bind (·.value)

/-- Puts a variable. -/
def setVariable (name : String) (v : Variable) : Session Unit := do
  charge ((← process).assigned.length / 64)
  modifyProcess fun process =>
    { process with
      assigned := (name, v) :: process.assigned.filter (·.1 != name) }

/-- Takes a variable away. -/
def dropVariable (name : String) : Session Unit :=
  modifyProcess fun process =>
    { process with assigned := process.assigned.filter (·.1 != name) }

/-- The most octets of a value or an argument: a script that makes longer ones does not end. -/
def largestValue : Nat := 1 <<< 22

/-- Stops at values that are too long. -/
def checkSize (values : List Octets) : Session Unit := do
  if largestValue < values.foldl (fun size value => size + value.length + 16) 0 then stall

/-- Gives a variable a value. Fails for one that cannot be changed. -/
def assign (name : String) (value : Octets) : Session Bool := do
  checkSize [value]
  charge (value.length / 64)
  let old ← assigned? name
  match old with
  | some { constant := true, .. } =>
    refuse (octets (name ++ ": is read only"))
    return false
  | _ =>
    let exported := old.any (·.exported) || (← hasOption 'a')
    setVariable name { value := some value, exported }
    if name == "OPTIND" then modifyProcess ({ · with letters := 0 })
    return true

/-- The signs that fields are split at. -/
def separators : Session Octets := return (← value? "IFS").getD [' ', '\t', '\n']

/-! ## Programs -/

/-- Where a program of a name is found: its path, and what is there. -/
def findProgram (name : Octets) : Session (Except PathError (Octets × Node)) := do
  if name.contains '/' then
    match ← find name with
    | .ok (_, node) => return .ok (name, node)
    | .error error => return .error error
  else
    let directories := ((← value? "PATH").getD []).splitOn ':'
    let mut denied := false
    for directory in directories do
      let path := if directory.isEmpty then name else directory ++ ['/'] ++ name
      match ← find path with
      | .ok (_, .program program) => return .ok (path, .program program)
      | .ok (_, .file number) =>
        if ((← get).files.content number).executable then return .ok (path, .file number)
        else denied := true
      | _ => pure ()
    return .error (if denied || name.isEmpty then .denied else .missing)

/-- What a program that is found can be run as: a program by its name, or a script by its
number. -/
def runnable (node : Node) : Session (Except PathError (String ⊕ Nat)) := do
  match node with
  | .program name => return .ok (.inl name)
  | .file number =>
    return if ((← get).files.content number).executable then .ok (.inr number) else .error .denied
  | _ => return .error .denied

end Session

end LinksBinding.Shell
