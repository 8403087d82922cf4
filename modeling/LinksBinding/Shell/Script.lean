import LinksBinding.Shell.Octets

/-!
# Scripts

What a script of the command language consists of: commands, and the words that they are made of.
A word is a sequence of parts, some of which are known only when the script runs; whether a part
is quoted decides if what it stands for is split into fields and can be a pattern.

The text of a document in a script stands behind the line that announces it, so the command holds
a number for it, and the texts are kept apart.
-/

namespace LinksBinding.Shell

/-- What becomes of a parameter when it is unset, or has no value either. -/
inductive Fallback where
  /-- a word stands for it -/
  | useWord
  /-- it is set to a word -/
  | assignWord
  /-- the script ends with a message -/
  | complain
  /-- a word stands for it if it is set -/
  | useIfSet
  deriving DecidableEq, Repr

/-- Which end of a value a pattern is taken from. -/
inductive Side where
  /-- the beginning -/
  | start
  /-- the end -/
  | ending
  deriving DecidableEq, Repr

/-- What a redirection does with a file. -/
inductive FileUse where
  /-- it is read -/
  | read
  /-- it is written from its start -/
  | write
  /-- it is written from its start even if files are kept -/
  | overwrite
  /-- it is written behind its end -/
  | append
  /-- it is read and written -/
  | readWrite
  deriving DecidableEq, Repr

mutual
/-- A part of a word. -/
inductive Part where
  /-- text -/
  | literal (text : Octets) (quoted : Bool)
  /-- the value of a parameter -/
  | value (name : String) (quoted : Bool)
  /-- the length of the value of a parameter -/
  | length (name : String) (quoted : Bool)
  /-- the value of a parameter, and what to do without one; `nonempty` is set when an empty value
  counts as none -/
  | fallback (name : String) (nonempty : Bool) (kind : Fallback) (word : List Part) (quoted : Bool)
  /-- the value of a parameter without what a pattern matches -/
  | trimmed (name : String) (side : Side) (longest : Bool) (pattern : List Part) (quoted : Bool)
  /-- what is written like a parameter and is none -/
  | badParameter
  /-- the value of an expression over integers -/
  | arithmetic (expression : List Part) (quoted : Bool)
  /-- the output of a script -/
  | output (script : Command) (quoted : Bool)
  /-- the home directory -/
  | home (user : Octets)

/-- What a redirection connects a descriptor with. -/
inductive Target where
  /-- a file -/
  | file (use : FileUse) (path : List Part)
  /-- what another descriptor is connected with -/
  | descriptor (word : List Part)
  /-- the text of a document, by its number -/
  | document (number : Nat)

/-- A redirection of a descriptor. -/
inductive Redirection where
  /-- `number` is connected with `target` -/
  | connect (number : Nat) (target : Target)

/-- A command. -/
inductive Command where
  /-- nothing -/
  | nothing
  /-- assignments, a name and its arguments -/
  | simple (line : Nat) (assignments : List (String × List Part)) (words : List (List Part))
      (redirections : List Redirection)
  /-- a command with redirections -/
  | redirected (line : Nat) (body : Command) (redirections : List Redirection)
  /-- a command that does not change what follows -/
  | subshell (line : Nat) (body : Command)
  /-- a command in braces -/
  | group (body : Command)
  /-- commands each of which reads what the one before writes -/
  | pipeline (commands : List Command)
  /-- a command whose status is turned round -/
  | negation (body : Command)
  /-- a command, and another if it succeeds -/
  | andThen (left right : Command)
  /-- a command, and another if it fails -/
  | orElse (left right : Command)
  /-- a command, then another -/
  | sequence (left right : Command)
  /-- a command that nothing waits for -/
  | background (body : Command)
  /-- a command for each of several words, or for each parameter -/
  | forEach (line : Nat) (name : String) (words : Option (List (List Part))) (body : Command)
  /-- a command for as long as another has the status that is waited for -/
  | loop (whileSuccess : Bool) (condition body : Command)
  /-- one of two commands -/
  | choice (condition yes no : Command)
  /-- the first command with a pattern that a word matches -/
  | select (line : Nat) (word : List Part) (clauses : List (List (List Part) × Command))
  /-- the definition of a function -/
  | function (name : String) (body : Command)
end

/-- A word of a script. -/
abbrev Word := List Part

/-- Nothing is a command. -/
instance : Inhabited Command := ⟨.nothing⟩

/-- Nothing is a part. -/
instance : Inhabited Part := ⟨.badParameter⟩

end LinksBinding.Shell
