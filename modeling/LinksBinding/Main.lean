import LinksBinding.CommandLine.Run
import LinksBinding.Shell.Interpreter

/-!
# The program

Reads the files that a command line names and carries the command out. What is written goes to the
ordinary output, and why nothing can be written to the errors.
-/

namespace LinksBinding.Program

/-- The answer to a command line that is not accepted. -/
def usageText : String :=
  "Usage: linkscope [--config FILE] [--wrapper-name NAME] [--builtin NAMES] [--runtime-check] " ++
    "[--color WHEN] COMMAND SOURCE [LINE:COL] [NEW_NAME]\n\n" ++
    "Commands: check, tokens, definition, references, rename, hover, symbols\n"

/-- The status for a command that cannot be carried out. -/
def errorStatus : CommandError → UInt32
  | .badTree _ .overflow => 101
  | _ => 1

/-- The status for a command line that is not accepted. -/
def usageStatus : UsageError → UInt32
  | .displayHelp | .displayVersion => 0
  | _ => 2

/-- The text of a file, if it can be read. -/
def readText? (path : String) : IO (Option String) := do
  try
    return some (← IO.FS.readFile path)
  catch _ =>
    return none

/-- The texts of those files that can be read. -/
def readTexts (paths : List String) : IO (List (String × String)) := do
  let texts ← paths.mapM fun path => do
    return (← readText? path).map (path, ·)
  return texts.filterMap id

end LinksBinding.Program

open LinksBinding LinksBinding.Program in
/-- Carries out the command line. -/
def main (words : List String) : IO UInt32 := do
  match Arguments.parse words with
  | .error .displayVersion =>
    IO.println "linkscope"
    return usageStatus .displayVersion
  | .error usage =>
    if usageStatus usage = 0 then IO.print usageText else IO.eprint usageText
    return usageStatus usage
  | .ok arguments =>
    let files ← readTexts arguments.candidatePaths
    let directory := (← IO.currentDir).toString
    let interpreter := Shell.interpreter directory (.ofPaths files)
    match arguments.run ⟨directory, (files.lookup ·), interpreter, false⟩ with
    | .ok outcome =>
      IO.print outcome.output
      return outcome.status.toUInt32
    | .error error =>
      IO.eprintln ("Error: " ++ error.message)
      return errorStatus error
