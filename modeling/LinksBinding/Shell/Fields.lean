import LinksBinding.Shell.FileSystem
import LinksBinding.Shell.Pattern

/-!
# Fields

What the parts of a word stand for is a sequence of marks. The marks are split into fields at the
signs that the script has chosen: only what comes from an expansion without quotes is split. A field
that is a pattern stands for the paths that match it.
-/

namespace LinksBinding.Shell

/-- What a part of a word stands for. -/
inductive Mark where
  /-- text that is never split -/
  | text (data : Octets) (quoted : Bool)
  /-- text that is split at separators -/
  | expansion (data : Octets)
  /-- quotes, which make a field even around nothing -/
  | quotes
  /-- the end of a field; `keeps` is set when the field counts even if it is empty -/
  | boundary (keeps : Bool)

namespace Mark

/-- The characters of a mark, and whether they are quoted. -/
def marked : Mark → List Marked
  | .text data quoted => data.map (·, quoted)
  | .expansion data => data.map (·, false)
  | .quotes | .boundary _ => []

/-- The text of a mark. -/
def data : Mark → Octets
  | .text data _ | .expansion data => data
  | .quotes | .boundary _ => []

end Mark

/-- The text that marks are if they are not split. -/
def unsplit (marks : List Mark) : Octets := marks.flatMap (·.data)

/-- The characters of marks that are not split. -/
def markedText (marks : List Mark) : List Marked := marks.flatMap (·.marked)

/-! ## Splitting -/

/-- Fields on the way. -/
structure Splitting where
  /-- complete fields, last first -/
  done : List (List Marked) := []
  /-- the field that is begun, its last character first -/
  field : List Marked := []
  /-- whether there is a field that is begun -/
  begun : Bool := false

namespace Splitting

/-- Adds a character. -/
def push (s : Splitting) (c : Marked) : Splitting := { s with field := c :: s.field, begun := true }

/-- Adds characters. -/
def append (s : Splitting) (cs : List Marked) : Splitting := cs.foldl push s

/-- Completes the field that is begun, even if it is empty. -/
def close (s : Splitting) : Splitting := { done := s.field.reverse :: s.done }

/-- Completes the field that is begun, if there is one. -/
def closeBegun (s : Splitting) : Splitting := if s.begun then s.close else s

end Splitting

/-- What separators mean behind one that has closed a field. -/
inductive Behind where
  /-- they close a field -/
  | nothing
  /-- blanks are passed over -/
  | sign
  /-- blanks and one sign are passed over -/
  | blank
  deriving DecidableEq

/-- Splits text at separators. Blanks among them separate fields only together, every other sign
alone. -/
def splitText (separators : Octets) : Behind → Splitting → Octets → Splitting
  | _, s, [] => s
  | behind, s, c :: rest =>
    let blank := c == ' ' || c == '\t' || c == '\n'
    if !separators.contains c then splitText separators .nothing (s.push (c, false)) rest
    else if behind == .blank && !blank then splitText separators .sign s rest
    else if behind != .nothing && blank then splitText separators behind s rest
    else if blank && !s.begun then splitText separators .nothing s rest
    else splitText separators (if blank then .blank else .sign) s.close rest

/-- Splits a mark. -/
def Splitting.add (separators : Octets) (s : Splitting) : Mark → Splitting
  | .text data quoted => s.append (data.map (·, quoted))
  | .expansion data => splitText separators .nothing s data
  | .quotes => { s with begun := true }
  | .boundary true => s.close
  | .boundary false => s.closeBegun

/-- The fields of marks. -/
def fieldsOf (separators : Octets) (marks : List Mark) : List (List Marked) :=
  (marks.foldl (Splitting.add separators) {}).closeBegun.done.reverse

/-! ## Paths that match -/

/-- The names that match a pattern. Names with a dot in front match only patterns with one. -/
def namesMatching (pattern : List Marked) (names : List Octets) : List Octets :=
  let glob := globOf pattern
  let hidden := pattern.head?.any fun (c, _) => c == '.'
  names.filter fun name => (hidden || name.head? != some '.') && matchesGlob glob name

/-- The paths that match a pattern, given by its pieces between slashes; `front` is the path in
front of them, and `look` tells what a path leads to. -/
def pathsMatching (files : FileSystem) (look : Octets → Option (Place × Node)) (front : Octets) :
    List (List Marked) → List Octets
  | [] => []
  | step :: rest =>
    let found := look (if front.isEmpty then ['.'] else front)
    let next (name : Octets) : List Octets :=
      match rest with
      | [] => if (look (front ++ name)).isSome then [front ++ name] else []
      | rest => pathsMatching files look (front ++ name ++ ['/']) rest
    if isPattern step then
      match found with
      | some (place, .directory) =>
        let dots := if step.head?.any (·.1 == '.') then [['.'], ['.', '.']] else []
        (namesMatching step (dots ++ files.namesIn place)).flatMap next
      | _ => []
    else if step.isEmpty && rest.isEmpty then if found.isSome then [front] else []
    else next (step.map (·.1))

/-- The arguments that a field stands for: the paths that it matches, or itself. -/
def argumentsOf (files : FileSystem) (look : Octets → Option (Place × Node))
    (field : List Marked) : List Octets :=
  let text := field.map (·.1)
  if isPattern field then
    let steps := field.splitOnP fun (c, _) => c == '/'
    match pathsMatching files look [] steps with
    | [] => [text]
    | paths => paths.mergeSort Octets.notAfter
  else [text]

end LinksBinding.Shell
