import LinksBinding.Text.Trim

/-!
# Log formats

The forms that a trace of the analysis can be asked for in.
-/

namespace LinksBinding

open Text

/-- The form of a trace. -/
inductive LogFormat where
  /-- flat lines -/
  | text
  /-- indented by nesting -/
  | tree
  /-- one value a line -/
  | json
  deriving DecidableEq, Repr

/-- The format of that name, in any case and with white space around it. Unknown names mean flat
lines. -/
def LogFormat.ofName (name : String) : LogFormat :=
  match String.ofList ((trim name.toList).map Char.toLower) with
  | "tree" => .tree
  | "json" => .json
  | _ => .text

end LinksBinding
