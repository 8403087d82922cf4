import LinksBinding.CommandLine.Files
import LinksBinding.Interpreter
import LinksBinding.Shell.Run

/-!
# Interpreters

What documents can be run with: the programs that scripts can run, and the command language itself.
No process of the system is started. A run gets the arguments from the options and behind them the
path of the document; of what it writes, the beginning of the ordinary output and the beginning of
the errors are kept.

Only the program itself runs documents with this interpreter (`main`). What is proved about run-time
errors holds for every interpreter, and the modules below `Shell` are behind this one alone.
-/

namespace LinksBinding.Shell

open Text Session

/-- The directory of documents while they are run. -/
def documentDirectory : Place := [octets "tmp"]

/-- Where the document lies while it is run. -/
def documentPlace : Place := documentDirectory ++ [octets "linkscope-source.links"]

/-- The place of the working directory, by its name. -/
def homePlace (directory : String) : Place :=
  if isAbsolutePath directory then placeAt (pathSteps directory)
  else placeAt workingPlace

/-- How many commands a script carries out before it counts as one without end. -/
def commandBudget : Nat := 500000

/-- How many steps of a script may nest or follow one another in a loop. -/
def stepBudget : Nat := 4000000

/-- How much longer than the options allow the outputs may stay open behind the end of a run, in
milliseconds: processes in the background keep them open. -/
def openOutputsMs : Nat := 500

/-- The files that a run finds: those of the working directory, and the document. -/
def filesForRun (home : Place) (files : Files) (source : String) : FileSystem :=
  let moved (steps : List String) : Place :=
    if workingPlace.isPrefixOf steps then home ++ placeAt (steps.drop workingPlace.length)
    else placeAt steps
  let standing := (FileSystem.empty programNames).withFile documentPlace (octets source)
  let standing := (workingPlace :: files.directories).foldl
    (fun system steps => system.withDirectory (moved steps)) standing
  files.entries.foldl
    (fun system (steps, text) => system.withFile (moved steps) (octets text)) standing

/-- The variables that a run finds. -/
def variablesForRun (directory : String) : List (String × Variable) :=
  [("PATH", "/usr/local/sbin:/usr/local/bin:/usr/sbin:/usr/bin:/sbin:/bin"), ("HOME", "/root"),
    ("PWD", directory)].map fun (name, text) =>
      (name, { value := some (octets text), exported := true })

/-- The world at the start of a run. -/
def worldForRun (directory : String) (files : Files) (timeoutMs : Nat) (source : String) : World :=
  let home := homePlace directory
  let late := (timeoutMs + 2 * openOutputsMs) * 1000
  { process :=
      { pid := firstPid
        directory := home
        name := []
        assigned := variablesForRun directory
        descriptors := [(0, 0), (1, 1), (2, 2)] }
    files := filesForRun home files source
    home := (directory, home)
    buffers := #[{}, {}]
    descriptions :=
      #[{ endpoint := .null }, { endpoint := .buffer 0 }, { endpoint := .buffer 1 }]
    lastPid := firstPid
    deadline := min late forever
    budget := commandBudget }

/-- The beginning of an output. -/
def keptOf (world : World) (number : Nat) : String :=
  Octets.toText (((world.buffers.getD number {}).data).take keptBytes)

/-- The output of a run that has come to its end: nothing if it has taken as long as it may, or if
its outputs were kept open for much longer. -/
def outputWithin (timeoutMs : Nat) (world : World) : Option String :=
  let held := [0, 1].map fun number => (world.buffers.getD number {}).heldUntil
  if world.process.clock < timeoutMs * 1000 &&
      held.all (· < (timeoutMs + openOutputsMs) * 1000) then
    some (keptOf world 0 ++ keptOf world 1)
  else none

/-- Runs documents in a directory with files. -/
def interpreter (directory : String) (files : Files) : Interpreter := fun options source =>
  let words := options.command :: options.args ++ [nameOf (pathOf documentPlace)]
  let (error, world) := StateT.run (runFound stepBudget (words.map octets))
    (worldForRun directory files options.timeoutMs source)
  if error.isSome then none else outputWithin options.timeoutMs world

end LinksBinding.Shell
