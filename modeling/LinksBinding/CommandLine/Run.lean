import LinksBinding.Checks
import LinksBinding.CommandLine.Arguments
import LinksBinding.CommandLine.Files
import LinksBinding.Highlight.Tokens
import LinksBinding.Interpreter
import LinksBinding.Outline
import LinksBinding.Rename
import LinksBinding.Report

/-!
# Commands

Carrying out a command: finding the options, reading document and tree, and writing what is asked
for. All commands but one write a value; `check` writes a report for people unless it is told
otherwise, and its status says whether there is an error.
-/

namespace LinksBinding

open Json Text

/-- Why a command cannot be carried out. -/
inductive CommandError where
  /-- the options file cannot be read -/
  | unreadableConfig (path : String)
  /-- the options file holds no options -/
  | invalidConfig (path : String)
  /-- the document cannot be read -/
  | unreadableSource (path : String)
  /-- the file with the tree cannot be read -/
  | unreadableTree (path : String)
  /-- the tree is not built -/
  | badTree (path : String) (error : BuildFailure)
  /-- the rename is refused -/
  | renameFailed (error : RenameError)
  deriving DecidableEq, Repr

/-- The wording of a command error. -/
def CommandError.message : CommandError → String
  | .unreadableConfig path => "failed to read config " ++ path
  | .invalidConfig path => "invalid config " ++ path
  | .unreadableSource path => "failed to read " ++ path
  | .unreadableTree path => "failed to read tree " ++ path
  | .badTree path error => path ++ ": " ++ error.message
  | .renameFailed error => "rename failed: " ++ error.message

/-- What a command comes to. -/
structure Outcome where
  /-- 0 unless a check finds an error -/
  status : Nat
  /-- what is written -/
  output : String
  deriving DecidableEq, Repr

/-- What a command is carried out in. -/
structure Surroundings where
  /-- the path of the working directory -/
  directory : String
  /-- the text of the file at a path -/
  read? : String → Option String
  /-- what runs documents -/
  interpreter : Interpreter
  /-- whether output goes to a terminal -/
  terminal : Bool

namespace Arguments

/-! ## Options -/

/-- The paths of options files that are looked for without one being named, nearest first. -/
def configCandidates (args : Arguments) : List String :=
  (directoriesAbove args.source).map (pathIn · Options.fileName)

/-- The options file: the one that is named, else the nearest in or above the document's
directory. -/
def configPath? (args : Arguments) (surroundings : Surroundings) : Option String :=
  args.config <|> args.configCandidates.find? fun path => (surroundings.read? path).isSome

/-- The options from the options file, and those that hold without one. -/
def loadOptions (args : Arguments) (surroundings : Surroundings) : Except CommandError Options :=
  match args.configPath? surroundings with
  | none => .ok {}
  | some path =>
    match surroundings.read? path with
    | none => .error (.unreadableConfig path)
    | some text =>
      match Options.parse? text with
      | none => .error (.invalidConfig path)
      | some options => .ok options

/-- The names with further ones behind them, those that are there already left out. -/
def addNames (names : List String) : (further : List String) → List String
  | [] => names
  | name :: rest => addNames (if names.contains name then names else names ++ [name]) rest

/-- The options with what the command line says put over them. -/
def override (args : Arguments) (options : Options) : Options :=
  { options with
    wrapperName := args.wrapperName.getD options.wrapperName
    extraBuiltins := addNames options.extraBuiltins args.builtins
    runtimeCheck :=
      { options.runtimeCheck with enabled := args.runtimeCheck || options.runtimeCheck.enabled } }

/-! ## The document -/

/-- The file with the tree, by default next to the document. -/
def treePath (args : Arguments) : String := args.tree.getD (args.source ++ ".tree.json")

/-- The paths of all files that the command may read. -/
def candidatePaths (args : Arguments) : List String :=
  args.source :: args.treePath :: (args.config.toList ++ args.configCandidates)

/-- The name of the document: where its path leads from the working directory. Two slashes at the
start of a path, but not more, are kept. -/
def uri (args : Arguments) (directory : String) : String :=
  let steps := pathSteps args.source
  if isAbsolutePath args.source then
    let slashes := (args.source.toList.takeWhile (· == '/')).length
    "file://" ++ (if slashes == 2 then "//" else "/") ++ "/".intercalate steps
  else "file://" ++ "/".intercalate (directory :: steps)

/-- Reads and analyses the document. -/
def load (args : Arguments) (surroundings : Surroundings) : Except CommandError Analysis := do
  let options ← args.loadOptions surroundings
  match surroundings.read? args.source with
  | none => .error (.unreadableSource args.source)
  | some source =>
    match surroundings.read? args.treePath with
    | none => .error (.unreadableTree args.treePath)
    | some tree =>
      (Analysis.ofText (args.uri surroundings.directory) source tree
        (args.override options)).mapError (.badTree args.treePath)

/-! ## Output -/

/-- A value as output. -/
def printed (value : Json) : String := value.pretty ++ "\n"

/-- Whether a diagnostic is an error. -/
def isError (d : Diagnostic) : Bool := d.severity == some .error

/-- Diagnostics as a report. -/
def reported (color : Bool) (file source : String) (diagnostics : List Diagnostic) : String :=
  if diagnostics.isEmpty then "No problems found.\n"
  else
    let errors := (diagnostics.filter isError).length
    let warnings := diagnostics.length - errors
    Report.render color file (terminalLines source.toList) diagnostics ++ "\n\nFound " ++
      toString errors ++ " error(s), " ++ toString warnings ++ " warning(s).\n"

/-- Whether the report is coloured. -/
def usesColor (args : Arguments) (terminal : Bool) : Bool :=
  match args.color with
  | .always => true
  | .never => false
  | .auto => terminal

/-- The names of token kinds and flags, as a value. -/
def legendJson : Json :=
  .object [("tokenTypes", .ofList (fun kind => .string kind.name) TokenType.all),
    ("tokenModifiers", .ofList .string modifierNames)]

/-- The tokens of a document, as a value. -/
def tokensJson (analysis : Analysis) : Json :=
  .object [("legend", legendJson), ("data", .ofList Coordinate.toJson analysis.semanticTokens)]

/-- The highlighted ranges of a document, as a value. -/
def highlightsJson (analysis : Analysis) : Json :=
  .ofList (fun h => .object [("range", h.range.toJson), ("classification", .string h.cls.name)])
    analysis.highlights

/-- Checks a document. -/
def check (args : Arguments) (surroundings : Surroundings) (json : Bool) (analysis : Analysis) :
    Outcome :=
  let diagnostics := analysis.diagnostics ++
    (analysis.runtimeCheck? surroundings.interpreter).getD []
  { status := if diagnostics.any isError then 1 else 0
    output :=
      if json then printed (.ofList Diagnostic.toJson diagnostics)
      else
        reported (args.usesColor surroundings.terminal) args.source analysis.source diagnostics }

/-- Carries out a command on an analysis. -/
def answer (args : Arguments) (surroundings : Surroundings) (analysis : Analysis) :
    Except CommandError Outcome :=
  match args.command with
  | .check json => .ok (args.check surroundings json analysis)
  | .tokens true => .ok ⟨0, printed (highlightsJson analysis)⟩
  | .tokens false => .ok ⟨0, printed (tokensJson analysis)⟩
  | .definition position =>
    .ok ⟨0, printed (.ofOption Location.toJson (analysis.definition? position))⟩
  | .references position =>
    .ok ⟨0, printed (.ofList Reference.toJson (analysis.references position))⟩
  | .rename position newName =>
    match analysis.rename position newName with
    | .ok edit => .ok ⟨0, printed edit.toJson⟩
    | .error error => .error (.renameFailed error)
  | .hover position => .ok ⟨0, printed (.ofOption Hover.toJson (analysis.hover? position))⟩
  | .symbols => .ok ⟨0, printed (.ofList DocumentSymbol.toJson analysis.outline)⟩

/-- Carries out a command. -/
def run (args : Arguments) (surroundings : Surroundings) : Except CommandError Outcome :=
  (args.load surroundings).bind (args.answer surroundings)

end Arguments

end LinksBinding
