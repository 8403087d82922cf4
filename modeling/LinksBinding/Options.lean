import LinksBinding.Json.Place
import LinksBinding.Json.Printer
import LinksBinding.Json.Reader

/-!
# Analysis options

What a project may set for the analysis of its documents: how parser positions are shifted, the
name of the wrapper function, names to treat as library functions, and whether and how documents
are run. Everything has a default, so the empty object is a complete set of options.
-/

namespace LinksBinding

open Json

/-- How a document is run to look for run-time errors. -/
structure InterpreterOptions where
  /-- whether documents are run at all -/
  enabled : Bool := false
  /-- the interpreter -/
  command : String := "linx"
  /-- arguments in front of the path of the document -/
  args : List String := []
  /-- the longest a run may take, in milliseconds -/
  timeoutMs : Nat := 3000
  deriving DecidableEq, Repr

/-- The options of an analysis. -/
structure Options where
  /-- how the wrapper shifts positions -/
  positionShift : PositionShift := .standard
  /-- the name of the function that the parser wraps documents in -/
  wrapperName : String := "dummy_wrapper"
  /-- names that count as library functions besides the catalogue -/
  extraBuiltins : List String := []
  /-- how documents are run -/
  runtimeCheck : InterpreterOptions := {}
  deriving DecidableEq, Repr

/-- The name of the file that options are kept in. -/
def Options.fileName : String := "linkscope.json"

/-- A shift as a value. -/
def PositionShift.toJson (s : PositionShift) : Json :=
  .object [("line", s.line.toJson), ("column", s.column.toJson)]

/-- Reads a shift. -/
def PositionShift.ofJson? (value : Json) : Option PositionShift := do
  let base := PositionShift.standard
  match ← parts? .defaulted ["line", "column"] value with
  | [line, column] =>
    return ⟨← defaulted? base.line Coordinate.ofJson? line,
      ← defaulted? base.column Coordinate.ofJson? column⟩
  | _ => none

/-- Interpreter options as a value. -/
def InterpreterOptions.toJson (o : InterpreterOptions) : Json :=
  .object [("enabled", .bool o.enabled), ("command", .string o.command),
    ("args", .ofList .string o.args), ("timeoutMs", .ofNat o.timeoutMs)]

/-- Reads interpreter options. -/
def InterpreterOptions.ofJson? (value : Json) : Option InterpreterOptions := do
  let base : InterpreterOptions := {}
  match ← parts? .defaulted ["enabled", "command", "args", "timeoutMs"] value with
  | [enabled, command, args, timeoutMs] =>
    return ⟨← defaulted? base.enabled bool? enabled, ← defaulted? base.command string? command,
      ← defaulted? base.args strings? args,
      ← defaulted? base.timeoutMs (natBelow? UInt64.size) timeoutMs⟩
  | _ => none

namespace Options

/-- Options as a value. -/
def toJson (o : Options) : Json :=
  .object [("positionShift", o.positionShift.toJson), ("wrapperName", .string o.wrapperName),
    ("extraBuiltins", .ofList .string o.extraBuiltins), ("runtimeCheck", o.runtimeCheck.toJson)]

/-- Reads options from a value. -/
def ofJson? (value : Json) : Option Options := do
  let base : Options := {}
  match ← parts? .defaulted ["positionShift", "wrapperName", "extraBuiltins", "runtimeCheck"]
      value with
  | [shift, wrapper, builtins, runtime] =>
    return ⟨← defaulted? base.positionShift PositionShift.ofJson? shift,
      ← defaulted? base.wrapperName string? wrapper,
      ← defaulted? base.extraBuiltins strings? builtins,
      ← defaulted? base.runtimeCheck InterpreterOptions.ofJson? runtime⟩
  | _ => none

/-- Reads options from a text. -/
def parse? (text : String) : Option Options := (read? text).bind ofJson?

/-- Whether options are kept when they are written and read again. -/
def survivesWriting (o : Options) : Bool := parse? o.toJson.compress == some o

/-- Whether a name counts as a library function by these options. -/
def isExtraBuiltin (o : Options) (name : String) : Bool := o.extraBuiltins.contains name

end Options

end LinksBinding
