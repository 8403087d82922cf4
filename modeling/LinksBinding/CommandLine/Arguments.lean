import LinksBinding.CommandLine.Setting

/-!
# Command lines

Reading the words of a command line. It has two levels: settings and the name of a command, then
the settings of that command with its document and what else it needs. Settings for all commands
are accepted on both levels, and the inner level goes before the outer.

A value that stands in a word of its own is checked only when the next setting is read, or at the
end of its level. So an unknown option is noticed before a bad value directly in front of it, and
what is wrong with the words of a command before what is wrong with a value in front of it.
-/

namespace LinksBinding

/-! ## Commands -/

/-- The name of a command. -/
inductive Verb where
  | check
  | tokens
  | definition
  | references
  | rename
  | hover
  | symbols
  deriving DecidableEq, Repr

namespace Verb

/-- The command of that name. -/
def ofName? : String → Option Verb
  | "check" => some check
  | "tokens" => some tokens
  | "definition" => some definition
  | "references" => some references
  | "rename" => some rename
  | "hover" => some hover
  | "symbols" => some symbols
  | _ => none

/-- What the words of a command that are no options set, in order. -/
def positionals : Verb → List Setting
  | check | tokens | symbols => [.source]
  | definition | references | hover => [.source, .position]
  | rename => [.source, .position, .newName]

end Verb

/-- Which settings a level accepts as options. -/
inductive Level where
  /-- in front of the name of the command -/
  | outer
  /-- behind the name of the command -/
  | inner (verb : Verb)
  deriving DecidableEq, Repr

namespace Level

/-- The setting of an option's name. -/
def setting? (level : Level) (name : String) : Option Setting :=
  match name, level with
  | "config", _ => some .config
  | "wrapper-name", _ => some .wrapperName
  | "builtin", _ => some .builtin
  | "runtime-check", _ => some .runtimeCheck
  | "color", _ => some .color
  | "tree", .inner _ => some .tree
  | "json", .inner .check => some .json
  | "classify", .inner .tokens => some .classify
  | _, _ => none

/-- What is asked for by an option of that name. -/
def request? (level : Level) (name : String) : Option UsageError :=
  match name, level with
  | "help", _ => some .displayHelp
  | "version", .outer => some .displayVersion
  | _, _ => none

/-- What is asked for by an option of that letter. -/
def letterRequest? (level : Level) (letter : Char) : Option UsageError :=
  match letter, level with
  | 'h', _ => some .displayHelp
  | 'V', .outer => some .displayVersion
  | _, _ => none

end Level

/-- What a word is to a reader of command lines. -/
inductive Word where
  /-- the end of the options -/
  | endOfOptions
  /-- an option, perhaps with a value behind an equals sign -/
  | long (name : String) (value : Option String)
  /-- options of one letter, the first of them `letter` -/
  | short (letter : Char)
  /-- anything else -/
  | plain
  deriving DecidableEq, Repr

/-- What a word is. A single hyphen is a plain word. -/
def Word.ofText (text : String) : Word :=
  match text.toList with
  | ['-', '-'] => .endOfOptions
  | '-' :: '-' :: option =>
    match Text.cutAt '=' option with
    | some (name, value) => .long (String.ofList name) (some (String.ofList value))
    | none => .long (String.ofList option) none
  | '-' :: letter :: _ => .short letter
  | _ => .plain

/-! ## Reading a level -/

/-- How far a level is read. -/
structure Progress where
  /-- what is set -/
  settings : Settings := {}
  /-- a setting that is not checked yet, with its value as far as that is read -/
  pending : Option (Setting × Option String) := none
  /-- what further plain words set -/
  positionals : List Setting
  /-- whether the end of the options is read -/
  pastOptions : Bool := false
  deriving DecidableEq, Repr

namespace Progress

/-- The settings with the pending one checked. -/
def settled (p : Progress) : Except UsageError Settings :=
  match p.pending with
  | none => .ok p.settings
  | some (setting, some text) => p.settings.setValue setting text
  | some (_, none) => .error .invalidValue

/-- Whether an option waits for its value. -/
def awaitsValue (p : Progress) : Bool :=
  match p.pending with
  | some (_, none) => !p.pastOptions
  | _ => false

/-- Why a plain word cannot be read when there is nothing for it to set. -/
def surplus (level : Level) (pastOptions : Bool) (word : String) : UsageError :=
  match level with
  | .inner _ => .unknownArgument
  | .outer =>
    if pastOptions && (word == "help" || (Verb.ofName? word).isSome) then .unknownArgument
    else .invalidSubcommand

/-- Reads a word that is no option. -/
def readPlain (level : Level) (p : Progress) (word : String) : Except UsageError Progress :=
  match p.positionals with
  | [] => .error (surplus level p.pastOptions word)
  | setting :: rest =>
    p.settled.map fun settings =>
      { p with settings, pending := some (setting, some word), positionals := rest }

/-- Refuses a command line to answer a request for information. -/
def answer (p : Progress) (request : UsageError) : Except UsageError Progress :=
  p.settled.bind fun _ => .error request

/-- Reads an option. -/
def readOption (level : Level) (p : Progress) (name : String) (value : Option String) :
    Except UsageError Progress :=
  match level.setting? name, value with
  | some setting, none =>
    p.settled.bind fun settings =>
      if setting.isFlag then
        (settings.setFlag setting).map fun settings => { p with settings, pending := none }
      else .ok { p with settings, pending := some (setting, none) }
  | some setting, some text =>
    if setting.isFlag then .error .tooManyValues
    else
      p.settled.bind fun settings =>
        (settings.setValue setting text).map fun settings => { p with settings, pending := none }
  | none, value =>
    match level.request? name, value with
    | some _, some _ => .error .tooManyValues
    | some request, none => p.answer request
    | none, _ => .error .unknownArgument

/-- Reads a word. -/
def read (level : Level) (p : Progress) (word : String) : Except UsageError Progress :=
  if p.pastOptions then p.readPlain level word
  else match Word.ofText word with
    | .endOfOptions => .ok { p with pastOptions := true }
    | .long name value => p.readOption level name value
    | .short letter =>
      match level.letterRequest? letter with
      | some request => p.answer request
      | none => .error .unknownArgument
    | .plain =>
      match p.pending with
      | some (setting, none) => .ok { p with pending := some (setting, some word) }
      | _ => p.readPlain level word

end Progress

/-! ## Whole command lines -/

/-- What a command does. -/
inductive Command where
  /-- report the problems of a document -/
  | check (json : Bool)
  /-- print its tokens -/
  | tokens (classify : Bool)
  /-- print where the name at a position is declared -/
  | definition (position : Position)
  /-- print where the name at a position is used -/
  | references (position : Position)
  /-- print the edits that rename the name at a position -/
  | rename (position : Position) (newName : String)
  /-- print what is known of the name at a position -/
  | hover (position : Position)
  /-- print the outline -/
  | symbols
  deriving DecidableEq, Repr

/-- What a command line says. -/
structure Arguments where
  /-- the options file -/
  config : Option String
  /-- the name of the wrapper function -/
  wrapperName : Option String
  /-- extra library names -/
  builtins : List String
  /-- whether the document is run -/
  runtimeCheck : Bool
  /-- when the report is coloured -/
  color : ColorChoice
  /-- the document -/
  source : String
  /-- the file with the parser's output for it -/
  tree : Option String
  /-- what to do -/
  command : Command
  deriving DecidableEq, Repr

namespace Arguments

/-- A part that a command needs. -/
def required {α : Type} : Option α → Except UsageError α
  | some value => .ok value
  | none => .error .missingRequiredArgument

/-- The command of that name with its settings. -/
def commandOf (verb : Verb) (s : Settings) : Except UsageError Command :=
  match verb with
  | .check => .ok (.check s.json)
  | .tokens => .ok (.tokens s.classify)
  | .symbols => .ok .symbols
  | .definition => (required s.position).map .definition
  | .references => (required s.position).map .references
  | .hover => (required s.position).map .hover
  | .rename => do
    let position ← required s.position
    let newName ← required s.newName
    return .rename position newName

/-- Reads the words of a command. -/
def readInner (verb : Verb) (words : List String) :
    Except UsageError (Settings × String × Command) := do
  let start : Progress := { positionals := verb.positionals }
  let p ← words.foldlM (Progress.read (.inner verb)) start
  let settings ← p.settled
  let source ← required settings.source
  let command ← commandOf verb settings
  return (settings, source, command)

/-- What both levels together say. -/
def combine (outer inner : Settings) (source : String) (command : Command) : Arguments where
  config := inner.config <|> outer.config
  wrapperName := inner.wrapperName <|> outer.wrapperName
  builtins := (inner.builtins <|> outer.builtins).getD []
  runtimeCheck := inner.runtimeCheck || outer.runtimeCheck
  color := (inner.color <|> outer.color).getD .auto
  source := source
  tree := inner.tree
  command := command

/-- What a request for help on commands comes to. Commands have no commands of their own. -/
def helpOn : List String → UsageError
  | [] => .displayHelp
  | [word] =>
    if word == "help" || (Verb.ofName? word).isSome then .displayHelp else .invalidSubcommand
  | _ => .invalidSubcommand

/-- Reads the words of a command line from where it is read to. -/
def readOuter (p : Progress) : List String → Except UsageError Arguments
  | [] =>
    p.settled.bind fun settings =>
      .error (if settings = {} then .displayHelpOnMissing else .missingSubcommand)
  | word :: rest =>
    if p.pastOptions || p.awaitsValue then
      (p.read .outer word).bind fun p => readOuter p rest
    else if word = "help" then .error (helpOn rest)
    else match Verb.ofName? word with
      | none => (p.read .outer word).bind fun p => readOuter p rest
      | some verb => do
        let (inner, source, command) ← readInner verb rest
        let outer ← p.settled
        return combine outer inner source command

/-- Reads a command line. -/
def parse (words : List String) : Except UsageError Arguments :=
  readOuter { positionals := [] } words

end Arguments

end LinksBinding
