import LinksBinding.Position
import LinksBinding.Text.Decimal
import LinksBinding.Text.Trim

/-!
# Settings of the command line

What the words of a command line can set, and how a value is read. A setting is given at most
once on each level of the command line; only extra library names may be given repeatedly.
-/

namespace LinksBinding

open Text

/-! ## Positions -/

/-- Why a position cannot be read. -/
inductive PositionError where
  /-- there is no colon -/
  | noColumn (text : String)
  /-- the part before the colon is no line -/
  | invalidLine (text : String)
  /-- the part behind the colon is no column -/
  | invalidColumn (text : String)
  /-- line or column is zero -/
  | notFromOne
  deriving DecidableEq, Repr

/-- The wording of a position error. -/
def PositionError.message : PositionError → String
  | .noColumn text => "expected LINE:COL, got '" ++ text ++ "'"
  | .invalidLine text => "invalid line in '" ++ text ++ "'"
  | .invalidColumn text => "invalid column in '" ++ text ++ "'"
  | .notFromOne => "lines and columns start at 1"

/-- Reads a line and a column, both counted from one. -/
def Position.parse (text : String) : Except PositionError Position :=
  match cutAt ':' text.toList with
  | none => .error (.noColumn text)
  | some (line, column) =>
    match readBelow? UInt32.size (trim line), readBelow? UInt32.size (trim column) with
    | none, _ => .error (.invalidLine text)
    | _, none => .error (.invalidColumn text)
    | some (line + 1), some (column + 1) => .ok ⟨.ofNat line, .ofNat column⟩
    | _, _ => .error .notFromOne

/-! ## Colours -/

/-- When a report is coloured. -/
inductive ColorChoice where
  /-- on a terminal -/
  | auto
  /-- always -/
  | always
  /-- never -/
  | never
  deriving DecidableEq, Repr

/-- The choice of that name. -/
def ColorChoice.ofName? : String → Option ColorChoice
  | "auto" => some auto
  | "always" => some always
  | "never" => some never
  | _ => none

/-! ## Usage -/

/-- Why a command line is not accepted, or what it asks for instead of a command. -/
inductive UsageError where
  /-- help is asked for -/
  | displayHelp
  /-- the version is asked for -/
  | displayVersion
  /-- there is nothing on the command line -/
  | displayHelpOnMissing
  /-- there are settings and no command -/
  | missingSubcommand
  /-- there is no such command -/
  | invalidSubcommand
  /-- there is no such option, or a word too many -/
  | unknownArgument
  /-- a flag has a value -/
  | tooManyValues
  /-- a setting is given twice -/
  | argumentConflict
  /-- a value is missing, empty or not among those allowed -/
  | invalidValue
  /-- a position cannot be read -/
  | valueValidation
  /-- the document, the position or the new name is missing -/
  | missingRequiredArgument
  deriving DecidableEq, Repr

/-- What can be set. -/
inductive Setting where
  /-- the options file -/
  | config
  /-- the name of the wrapper function -/
  | wrapperName
  /-- extra library names -/
  | builtin
  /-- that the document is run -/
  | runtimeCheck
  /-- when the report is coloured -/
  | color
  /-- the file with the parser's output -/
  | tree
  /-- that diagnostics are printed as values -/
  | json
  /-- that tokens are printed with their classes -/
  | classify
  /-- the document -/
  | source
  /-- a position in it -/
  | position
  /-- a new name -/
  | newName
  deriving DecidableEq, Repr

/-- Whether the setting is a flag, which has no value. -/
def Setting.isFlag : Setting → Bool
  | .runtimeCheck | .json | .classify => true
  | _ => false

/-- What is set. -/
structure Settings where
  /-- the options file -/
  config : Option String := none
  /-- the name of the wrapper function -/
  wrapperName : Option String := none
  /-- extra library names -/
  builtins : Option (List String) := none
  /-- whether the document is run -/
  runtimeCheck : Bool := false
  /-- when the report is coloured -/
  color : Option ColorChoice := none
  /-- the file with the parser's output -/
  tree : Option String := none
  /-- whether diagnostics are printed as values -/
  json : Bool := false
  /-- whether tokens are printed with their classes -/
  classify : Bool := false
  /-- the document -/
  source : Option String := none
  /-- a position in it -/
  position : Option Position := none
  /-- a new name -/
  newName : Option String := none
  deriving DecidableEq, Repr

namespace Settings

/-- The value for a setting that has none yet. -/
def once {α : Type} (current : Option α) (value : Except UsageError α) :
    Except UsageError (Option α) :=
  if current.isSome then .error .argumentConflict else value.map some

/-- Sets a flag that is not set yet. -/
def flag (current : Bool) : Except UsageError Bool :=
  if current then .error .argumentConflict else .ok true

/-- A path, which cannot be empty. -/
def path (text : String) : Except UsageError String :=
  if text.isEmpty then .error .invalidValue else .ok text

/-- The parts of a text between commas. -/
def splitAtCommas (text : String) : List String :=
  (text.toList.splitOn ',').map String.ofList

/-- The settings with a flag set. -/
def setFlag (settings : Settings) : Setting → Except UsageError Settings
  | .runtimeCheck =>
    (flag settings.runtimeCheck).map fun on => { settings with runtimeCheck := on }
  | .json => (flag settings.json).map fun on => { settings with json := on }
  | .classify => (flag settings.classify).map fun on => { settings with classify := on }
  | _ => .error .invalidValue

/-- The settings with a value set. -/
def setValue (settings : Settings) (setting : Setting) (text : String) :
    Except UsageError Settings :=
  match setting with
  | .config => (once settings.config (path text)).map fun v => { settings with config := v }
  | .wrapperName =>
    (once settings.wrapperName (.ok text)).map fun v => { settings with wrapperName := v }
  | .builtin =>
    .ok { settings with builtins := some (settings.builtins.getD [] ++ splitAtCommas text) }
  | .color =>
    let choice := match ColorChoice.ofName? text with
      | some choice => .ok choice
      | none => .error .invalidValue
    (once settings.color choice).map fun v => { settings with color := v }
  | .tree => (once settings.tree (path text)).map fun v => { settings with tree := v }
  | .source => (once settings.source (path text)).map fun v => { settings with source := v }
  | .position =>
    let position := (Position.parse text).mapError fun _ => .valueValidation
    (once settings.position position).map fun v => { settings with position := v }
  | .newName => (once settings.newName (.ok text)).map fun v => { settings with newName := v }
  | .runtimeCheck | .json | .classify => .error .tooManyValues

end Settings

end LinksBinding
