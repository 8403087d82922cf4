import LinksBinding.Analysis
import LinksBinding.RuntimeReport

/-!
# Running documents

A document can be run to see whether it ends in an error. An interpreter is told a command, its
arguments and the text of the document, and gives the output of the run, or nothing if there is no
such command or the run takes too long. That output is all that is known of a run.
-/

namespace LinksBinding

/-- What the options name runs a document, and gives the output of the run. -/
abbrev Interpreter := InterpreterOptions → (source : String) → Option String

namespace Analysis

/-- The run-time error of a document, if a run by these options reports one. -/
def runtimeDiagnostics (analysis : Analysis) (interpreter : Interpreter) : List Diagnostic :=
  match interpreter analysis.options.runtimeCheck analysis.source with
  | some output =>
    (RuntimeError.diagnosticOf? output analysis.uri analysis.view.source).toList
  | none => []

/-- The run-time error of a document, unless its options say that it is not run. -/
def runtimeCheck? (analysis : Analysis) (interpreter : Interpreter) : Option (List Diagnostic) :=
  if analysis.options.runtimeCheck.enabled then some (analysis.runtimeDiagnostics interpreter)
  else none

end Analysis

end LinksBinding
