import LinksBinding.Shell.Permissions
import LinksBinding.Shell.Utility.Options

/-!
# Paths and directories

The programs that take paths apart, resolve them, and tell what is in directories.
-/

namespace LinksBinding.Shell

open Session

/-! ## Names -/

/-- A path without the slashes at its end, unless it is nothing but slashes. -/
def withoutFinalSlashes (path : Octets) : Octets :=
  let kept := (path.reverse.dropWhile (· == '/')).reverse
  if kept.isEmpty then path.take 1 else kept

/-- The last name of a path. -/
def lastName (path : Octets) : Octets :=
  let path := withoutFinalSlashes path
  if path == ['/'] then path else (path.reverse.takeWhile (· != '/')).reverse

/-- A path without its last name. -/
def frontOf (path : Octets) : Octets :=
  let path := withoutFinalSlashes path
  let front := (path.reverse.dropWhile (· != '/')).reverse
  if front.isEmpty then ['.'] else withoutFinalSlashes front

/-- A name without an ending, unless nothing else is left. -/
def withoutEnding (ending name : Octets) : Octets :=
  if endsWith ending name && name != ending then name.take (name.length - ending.length) else name

/-- The program `basename`. -/
def basename : Program := fun _ words =>
  withArguments "basename"
    { plain := "az", valued := "s",
      long := [("multiple", 'a'), ("suffix", 's'), ("zero", 'z')],
      ordered := true } words fun a => do
      let closing := if a.has 'z' then Char.ofNat 0 else '\n'
      let many := a.has 'a' || a.has 's'
      let putName (ending path : Octets) : Session Unit :=
        put (withoutEnding ending (lastName path) ++ [closing])
      match a.operands, many with
      | [], _ => failUsage "basename" 1 (octets "missing operand")
      | paths, true => for path in paths do putName ((a.value? 's').getD []) path
      | [path], false => putName [] path
      | [path, ending], false => putName ending path
      | _ :: _ :: third :: _, false =>
        failUsage "basename" 1 (octets "extra operand " ++ cited third)

/-- The program `dirname`. -/
def dirname : Program := fun _ words =>
  withArguments "dirname" { plain := "z", long := [("zero", 'z')] } words fun a => do
    let closing := if a.has 'z' then Char.ofNat 0 else '\n'
    if a.operands.isEmpty then failUsage "dirname" 1 (octets "missing operand")
    for path in a.operands do put (frontOf path ++ [closing])

/-! ## Links -/

/-- Where a path leads through all links, if the way to it exists, and the whole of it if `whole` is
set. -/
def resolved? (whole : Bool) (path : Octets) : Session (Except PathError Octets) := do
  match ← placeOf true path with
  | .error error => return .error error
  | .ok place =>
    let files := (← get).files
    let found := (files.nodeAt? place).isSome
    if whole && !found then return .error .missing
    else
      match files.admits place with
      | .error error => if place.isEmpty then return .ok ['/'] else return .error error
      | .ok () => return .ok (← shownPath place)

/-- The program `readlink`. -/
def readlink : Program := fun _ words =>
  withArguments "readlink"
    { plain := "femnqsvz",
      long := [("canonicalize", 'f'), ("canonicalize-existing", 'e'),
        ("canonicalize-missing", 'm'), ("no-newline", 'n')] } words fun a => do
      if a.operands.isEmpty then failUsage "readlink" 1 (octets "missing operand")
      for path in a.operands do
        let text ←
          if a.has 'f' || a.has 'e' || a.has 'm' then
            pure (← resolved? (a.has 'e') path).toOption
          else
            match ← lookAt false path with
            | .ok (_, .link path) => pure (some path)
            | _ => pure none
        match text with
        | some text => put (if a.has 'n' then text else text ++ ['\n'])
        | none => setStatus 1

/-- The program `realpath`. -/
def realpath : Program := fun _ words =>
  withArguments "realpath" { plain := "emLPqsz" } words fun a => do
    if a.operands.isEmpty then failUsage "realpath" 1 (octets "missing operand")
    for path in a.operands do
      match ← resolved? (a.has 'e') path with
      | .ok text => put (text ++ ['\n'])
      | .error error => failWith "realpath" 1 (shownName path ++ octets (": " ++ error.message))

/-! ## Files -/

/-- What is known of a file. -/
structure FileFacts where
  /-- what it is -/
  node : Node
  /-- how many bytes it has -/
  size : Nat
  /-- when it was changed -/
  changed : Nat
  /-- what may be done with it -/
  mode : Nat

/-- What is known of the file at a place. -/
def factsOf (files : FileSystem) (node : Node) : FileFacts :=
  match node with
  | .file number =>
    let content := files.content number
    ⟨node, content.data.length, content.changed, if content.executable then 493 else 420⟩
  | .directory => ⟨node, 4096, 0, 493⟩
  | .device _ => ⟨node, 0, 0, 438⟩
  | .program _ => ⟨node, 40000, 0, 493⟩
  | .link path => ⟨node, path.length, 0, 511⟩

/-- The sign behind the name of a file that tells what it is. -/
def typeSign (facts : FileFacts) : Octets :=
  match facts.node with
  | .directory => ['/']
  | .link _ => ['@']
  | .file _ | .program _ => if facts.mode &&& 73 != 0 then ['*'] else []
  | .device _ => []

/-- The letter of what a file is. -/
def typeLetter (node : Node) : Char :=
  match node with
  | .directory => 'd'
  | .link _ => 'l'
  | .device _ => 'c'
  | _ => '-'

/-- What a file is, in words. -/
def typeWords (facts : FileFacts) : String :=
  match facts.node with
  | .directory => "directory"
  | .link _ => "symbolic link"
  | .device _ => "character special file"
  | .program _ => "regular file"
  | .file _ => if facts.size == 0 then "regular empty file" else "regular file"

/-- A name with what is known of its file. -/
abbrev ListedFile := Octets × FileFacts

/-- The line of a file in a list. -/
def listLine (a : Arguments) (file : ListedFile) : Octets :=
  let (name, facts) := file
  let shown := if a.has 'Q' then '"' :: name ++ ['"'] else name
  let sign :=
    if a.has 'F' then typeSign facts
    else if a.has 'p' && facts.node == .directory then ['/']
    else []
  if a.has 'l' then
    let target := match facts.node with
      | .link path => octets " -> " ++ path
      | _ => []
    let size := Text.digits facts.size
    typeLetter facts.node :: modeLetters facts.mode ++ octets " 1 root root " ++
      List.replicate (5 - size.length) ' ' ++ size ++ octets " Jan  1 00:00 " ++ shown ++
      (if target.isEmpty then sign else target)
  else shown ++ sign

/-- Writes the files of a list. -/
def putList (a : Arguments) (files : List ListedFile) : Session Unit := do
  let files :=
    if a.has 'S' then files.mergeSort fun (_, x) (_, y) => y.size ≤ x.size
    else if a.has 't' then files.mergeSort fun (_, x) (_, y) => y.changed ≤ x.changed
    else files.mergeSort fun (x, _) (y, _) => Octets.notAfter x y
  let files := if a.has 'r' then files.reverse else files
  let lines := files.map (listLine a)
  if a.has 'm' then
    if !lines.isEmpty then put (joinWith (octets ", ") lines ++ ['\n'])
  else put (unlines lines)

/-- Writes what is in a directory, and in those below it if that is asked for. -/
def putDirectory (a : Arguments) : (fuel : Nat) → (heading : Option Octets) → (first : Bool) →
    (path : Octets) → Place → Session Unit
  | 0, _, _, _, _ => return ()
  | fuel + 1, heading, first, path, place => do
    let files := (← get).files
    let names := (files.namesIn place).filter fun name =>
      a.has 'a' || a.has 'A' || name.head? != some '.'
    let entries := names.filterMap fun name =>
      (files.nodeAt? (place ++ [name])).map fun node => (name, factsOf files node)
    let dots := if a.has 'a' then [['.'], ['.', '.']].map (·, factsOf files .directory) else []
    match heading with
    | some text => put ((if first then [] else ['\n']) ++ text ++ octets ":\n")
    | none => pure ()
    if a.has 'l' then put (octets "total " ++ Text.digits (4 * entries.length) ++ ['\n'])
    putList a (dots ++ entries)
    if a.has 'R' then
      for (name, facts) in entries do
        if facts.node == .directory then
          let below := (if path == ['/'] then path else path ++ ['/']) ++ name
          putDirectory a fuel (some below) false below (place ++ [name])

/-- The program `ls`. -/
def ls : Program := fun _ words =>
  withArguments "ls"
    { refusal := 2, plain := "1aAlCdFgGhHiLmnopqQrRsStuUxX", valued := "ITw",
      long := [("all", 'a'), ("almost-all", 'A'), ("directory", 'd'), ("reverse", 'r'),
        ("recursive", 'R'), ("classify", 'F'), ("size", 's')] } words fun a => do
      let paths := if a.operands.isEmpty then [['.']] else a.operands
      let mut files := #[]
      let mut directories := #[]
      for path in paths do
        match ← lookAt (!a.has 'd' && !a.has 'l') path with
        | .error error =>
          failWith "ls" 2 (octets "cannot access " ++ quotedName path ++
            octets (": " ++ error.message))
        | .ok (place, .directory) =>
          if a.has 'd' then files := files.push (path, factsOf (← get).files .directory)
          else directories := directories.push (path, place)
        | .ok (_, node) => files := files.push (path, factsOf (← get).files node)
      putList a files.toList
      let sorted := directories.toList.mergeSort fun (x, _) (y, _) => Octets.notAfter x y
      let sorted := if a.has 'r' then sorted.reverse else sorted
      let headed := paths.length > 1 || a.has 'R'
      for ((path, place), index) in sorted.zipIdx do
        putDirectory a 200 (if headed then some path else none) (files.isEmpty && index == 0) path
          place

/-- The text that a format of `stat` stands for. -/
def statText (path : Octets) (facts : FileFacts) : Octets → Octets
  | '%' :: c :: rest =>
    let value := match c with
      | 's' => Text.digits facts.size
      | 'n' => path
      | 'N' => quotedName path
      | 'F' => octets (typeWords facts)
      | 'a' => digitsIn 8 facts.mode
      | 'A' => typeLetter facts.node :: modeLetters facts.mode
      | 'U' | 'G' => octets "root"
      | 'u' | 'g' => ['0']
      | 'h' => ['1']
      | '%' => ['%']
      | _ => ['?']
    value ++ statText path facts rest
  | '\\' :: 'n' :: rest => '\n' :: statText path facts rest
  | c :: rest => c :: statText path facts rest
  | [] => []

/-- The program `stat`. -/
def stat : Program := fun _ words =>
  withArguments "stat"
    { plain := "Lft", valued := "cp", long := [("format", 'c'), ("printf", 'p')] } words fun a => do
      if a.operands.isEmpty then failUsage "stat" 1 (octets "missing operand")
      for path in a.operands do
        match ← lookAt (a.has 'L') path with
        | .ok (_, node) =>
          let facts := factsOf (← get).files node
          match a.value? 'c', a.value? 'p' with
          | some format, _ => put (statText path facts format ++ ['\n'])
          | _, some format => put (statText path facts format)
          | _, _ => put (octets "  File: " ++ path ++ octets "\n  Size: " ++
              Text.digits facts.size ++ ['\n'])
        | .error error =>
          failWith "stat" 1 (octets "cannot statx " ++ quotedName path ++
            octets (": " ++ error.message))

end LinksBinding.Shell
