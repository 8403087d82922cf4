import LinksBinding.Shell.Builtin.Variables
import LinksBinding.Shell.Permissions

/-!
# Places, names of commands and limits

The builtins for the working directory, for short forms of commands, and for what a process may do.
-/

namespace LinksBinding.Shell

namespace Session

/-! ## The working directory -/

/-- Changes the working directory, and tells where it is if it is asked to. -/
def moveTo (place : Place) (shown : Bool) : Session Unit := do
  let old ← shownPath (← process).directory
  modifyProcess ({ · with directory := place })
  let new ← shownPath place
  setVariable "OLDPWD" { value := some old, exported := ((← assigned? "OLDPWD").any (·.exported)) }
  setVariable "PWD" { value := some new, exported := ((← assigned? "PWD").any (·.exported)) }
  if shown then put (new ++ ['\n'])

/-- The directory that a path leads to, looked for in the directories of `CDPATH` first; and whether
it was found there. -/
def directoryOf? (path : Octets) : Session (Option (Place × Bool)) := do
  let fronts := (((← value? "CDPATH").getD []).splitOn ':').filter (!·.isEmpty)
  let fronts := if path.head? == some '/' || path.head? == some '.' then [] else fronts
  for front in fronts do
    match ← find (front ++ ['/'] ++ path) with
    | .ok (place, .directory) => return some (place, true)
    | _ => pure ()
  match ← find path with
  | .ok (place, .directory) => return some (place, false)
  | _ => return none

/-- The builtin `cd`. -/
def changeDirectory : Builtin := fun words =>
  withFlags "LP" words fun _ words => do
    let back := words.head? == some ['-']
    let path ← match words with
      | ['-'] :: _ => valueOf "OLDPWD"
      | path :: _ => pure path
      | [] => valueOf "HOME"
    if path.isEmpty then return ()
    match ← directoryOf? path with
    | some (place, listed) => moveTo place (back || listed)
    | none => refuse (octets "can't cd to " ++ path)
where
  /-- The value of a variable. -/
  valueOf (name : String) : Session Octets := return (← value? name).getD []

/-- The builtin `pwd`. -/
def printDirectory : Builtin := fun words =>
  withFlags "LP" words fun _ _ => do
    put ((← shownPath (← process).directory) ++ ['\n'])

/-! ## Short forms -/

/-- The line that defines a short form. -/
def aliasLine (name text : Octets) : Octets := name ++ ['='] ++ quoteWord text ++ ['\n']

/-- The builtin `alias`. -/
def defineAliases : Builtin := fun words => do
  if words.isEmpty then
    for (name, text) in (← process).aliases.mergeSort fun (a, _) (b, _) => Octets.notAfter a b do
      put (aliasLine name text)
  for word in words do
    match cutAtChar? '=' (word.drop 1) with
    | some (rest, text) =>
      let name := word.take 1 ++ rest
      modifyProcess fun process =>
        { process with
          aliases := (name, text) :: process.aliases.filter (·.1 != name) }
    | none =>
      match (← process).aliases.lookup word with
      | some text => put (aliasLine word text)
      | none =>
        putErrorLine (octets "alias: " ++ word ++ octets " not found")
        setStatus 1

/-- The builtin `unalias`. -/
def dropAliases : Builtin := fun words =>
  withFlags "a" words fun flags names => do
    if flags.contains 'a' then modifyProcess ({ · with aliases := [] })
    for name in names do
      if ((← process).aliases.lookup name).isSome then
        modifyProcess fun process =>
          { process with aliases := process.aliases.filter (·.1 != name) }
      else
        putErrorLine (octets "unalias: " ++ name ++ octets " not found")
        setStatus 1

/-! ## Limits -/

/-- The builtin `umask`. -/
def setMask : Builtin := fun words =>
  withFlags "S" words fun flags words => do
    let mask := (← process).mask
    match words with
    | [] =>
      let granted := 511 - mask
      if flags.contains 'S' then
        put (octets "u=" ++ permissionLetters (granted / 64) ++ octets ",g=" ++
          permissionLetters (granted / 8 % 8) ++ octets ",o=" ++ permissionLetters (granted % 8) ++
          ['\n'])
      else
        let figures := digitsIn 8 mask
        put (List.replicate (4 - figures.length) '0' ++ figures ++ ['\n'])
    | text :: _ =>
      if text.head?.any Char.isDigit then
        if text.all isOctalDigit then modifyProcess ({ · with mask := numberIn 8 text % 512 })
        else refuse (octets "Illegal number: " ++ text)
      else
        match applyClauses (511 - mask) text with
        | some granted => modifyProcess ({ · with mask := 511 - granted })
        | none => refuse (octets "Illegal mode: " ++ text)

/-- The builtin `ulimit`: there are no limits. -/
def showLimits : Builtin := fun words => do
  if words.all fun word => word.head? == some '-' then put (octets "unlimited\n")

/-- The builtin `times`. -/
def showTimes : Builtin := fun _ => do
  let line := "0m0.000000s 0m0.000000s\n"
  put (octets (line ++ line))

end Session

end LinksBinding.Shell
