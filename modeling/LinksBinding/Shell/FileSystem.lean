import LinksBinding.CommandLine.Files
import LinksBinding.Shell.Octets

/-!
# The file system

The files and directories that scripts find and change. A place is the list of names that lead to
it from the root; a path is looked up from a working directory, through links, and may fail for the
reasons that messages tell.

What a file holds is kept apart from its name, so a file that is open can be renamed or removed.
-/

namespace LinksBinding.Shell

/-- Where a file is: the names that lead to it from the root. -/
abbrev Place := List Octets

/-- Files that are no files. -/
inductive Device where
  /-- is empty and takes everything -/
  | null
  /-- holds zeros without end -/
  | zero
  /-- takes nothing -/
  | full
  /-- what a descriptor is connected with -/
  | descriptor (number : Nat)
  deriving DecidableEq, Repr

/-- What is at a place. -/
inductive Node where
  /-- a file, by the number of its content -/
  | file (number : Nat)
  /-- a directory -/
  | directory
  /-- a device -/
  | device (device : Device)
  /-- a program that is known by its name -/
  | program (name : String)
  /-- a link to another path -/
  | link (path : Octets)
  deriving DecidableEq, Repr

/-- What a file holds. -/
structure Content where
  /-- its bytes -/
  data : Octets := []
  /-- whether it may be run -/
  executable : Bool := false
  /-- the time of the last change -/
  changed : Nat := 0

/-- Why a path cannot be used. -/
inductive PathError where
  /-- there is nothing -/
  | missing
  /-- something on the way is no directory -/
  | notDirectory
  /-- it is a directory -/
  | isDirectory
  /-- it may not be done -/
  | denied
  /-- there is something already -/
  | exists
  /-- the directory holds something -/
  | notEmpty
  /-- links lead in a circle -/
  | circular
  deriving DecidableEq, Repr

/-- The wording of a path error. -/
def PathError.message : PathError → String
  | .missing => "No such file or directory"
  | .notDirectory => "Not a directory"
  | .isDirectory => "Is a directory"
  | .denied => "Permission denied"
  | .exists => "File exists"
  | .notEmpty => "Directory not empty"
  | .circular => "Too many levels of symbolic links"

/-- Files and directories. -/
structure FileSystem where
  /-- what is at each place -/
  nodes : List (Place × Node)
  /-- what files hold, by number -/
  contents : Array Content := #[]
  /-- the names of programs -/
  programs : List String := []

/-- The pieces of a path between its slashes. -/
def stepsOf (path : Octets) : List Octets := path.splitOn '/'

/-- The path of a place. -/
def pathOf (place : Place) : Octets :=
  if place.isEmpty then ['/'] else place.flatMap ('/' :: ·)

/-- A place by its steps. -/
def placeAt (steps : List String) : Place := steps.map octets

/-- The directories and the links to them that there always are. -/
def standardDirectories : List (Place × Node) :=
  (["dev", "fd"] :: systemDirectories.filter (· != workingPlace)).map
      (fun steps => (placeAt steps, .directory)) ++
    systemLinks.map fun (steps, target) => (placeAt steps, .link (pathOf (placeAt target)))

/-- The devices that there always are. -/
def standardDevices : List (Place × Node) :=
  ([("null", .null), ("zero", .zero), ("full", .full), ("stdin", .descriptor 0),
    ("stdout", .descriptor 1), ("stderr", .descriptor 2)] : List (String × Device)).map
      fun (name, device) => ([octets "dev", octets name], .device device)

namespace FileSystem

/-- A file system without files. -/
def empty (programs : List String) : FileSystem :=
  { nodes := standardDevices ++ standardDirectories, programs }

/-- What is at a place, links not followed. -/
def nodeAt? (files : FileSystem) (place : Place) : Option Node :=
  files.nodes.lookup place <|>
    match place with
    | [dev, fd, number] =>
      if dev == octets "dev" && fd == octets "fd" then
        (natOf? number).map fun n => .device (.descriptor n)
      else if dev == octets "usr" && fd == octets "bin" &&
          files.programs.contains (nameOf number) then
        some (.program (nameOf number))
      else none
    | _ => none

/-- Whether there is a directory at a place. -/
def isDirectoryAt (files : FileSystem) (place : Place) : Bool :=
  files.nodeAt? place == some .directory

/-- Where the pieces of a path lead from a place. The last piece need not lead to anything, and is
followed as a link if `follow` is set. -/
def walk (files : FileSystem) (follow : Bool) :
    (fuel : Nat) → Place → List Octets → Except PathError Place
  | 0, _, _ => .error .circular
  | _ + 1, place, [] => .ok place
  | fuel + 1, place, step :: rest =>
    match files.nodeAt? place with
    | some .directory =>
      if step.isEmpty || nameOf step == "." then files.walk follow fuel place rest
      else if nameOf step == ".." then files.walk follow fuel place.dropLast rest
      else
        let next := place ++ [step]
        match files.nodeAt? next with
        | some (.link path) =>
          if rest.isEmpty && !follow then .ok next
          else
            let start := if path.head? == some '/' then [] else place
            files.walk follow fuel start (stepsOf path ++ rest)
        | some _ => files.walk follow fuel next rest
        | none => if rest.all (·.isEmpty) then .ok next else .error .missing
    | some _ => .error .notDirectory
    | none => .error .missing

/-- Where a path leads from a working directory; a link at its end is followed if `follow` is
set. -/
def locate (files : FileSystem) (follow : Bool) (directory : Place) (path : Octets) :
    Except PathError Place :=
  if path.isEmpty then .error .missing
  else
    let start := if path.head? == some '/' then [] else directory
    files.walk follow (path.length + 200) start (stepsOf path)

/-- What a path leads to from a working directory; a link at its end is followed if `follow` is
set. -/
def find (files : FileSystem) (follow : Bool) (directory : Place) (path : Octets) :
    Except PathError (Place × Node) := do
  let place ← files.locate follow directory path
  match files.nodeAt? place with
  | some node =>
    if path.getLast? == some '/' && node != .directory then throw .notDirectory
    return (place, node)
  | none => throw .missing

/-- Puts a node at a place. -/
def put (files : FileSystem) (place : Place) (node : Node) : FileSystem :=
  { files with nodes := (place, node) :: files.nodes.filter (·.1 != place) }

/-- Takes away what is at a place and below it. -/
def remove (files : FileSystem) (place : Place) : FileSystem :=
  { files with nodes := files.nodes.filter fun (other, _) => !place.isPrefixOf other }

/-- Makes a file at a place: the file system, and the number of the file. -/
def create (files : FileSystem) (place : Place) (content : Content) : FileSystem × Nat :=
  let number := files.contents.size
  ({ files with contents := files.contents.push content }.put place (.file number), number)

/-- What a file holds. -/
def content (files : FileSystem) (number : Nat) : Content := files.contents.getD number {}

/-- Changes what a file holds. -/
def change (files : FileSystem) (number : Nat) (f : Content → Content) : FileSystem :=
  { files with contents := files.contents.modify number f }

/-- Whether a file may be made at a place: its directory must exist. -/
def admits (files : FileSystem) (place : Place) : Except PathError Unit :=
  match place with
  | [] => .error .isDirectory
  | place =>
    match files.nodeAt? place.dropLast with
    | some .directory => .ok ()
    | some _ => .error .notDirectory
    | none => .error .missing

/-- The names in a directory, in ascending order. -/
def namesIn (files : FileSystem) (place : Place) : List Octets :=
  let names := files.nodes.filterMap fun (other, _) =>
    if other.length == place.length + 1 && place.isPrefixOf other then other.getLast? else none
  names.mergeSort Octets.notAfter

/-- Puts a directory and those above it at a place. -/
def withDirectory (files : FileSystem) (place : Place) : FileSystem :=
  ((List.range (place.length + 1)).map fun n => place.take n).foldl
    (fun files place => if files.isDirectoryAt place then files else files.put place .directory)
    files

/-- Puts a file and the directories above it at a place. -/
def withFile (files : FileSystem) (place : Place) (data : Octets) : FileSystem :=
  ((files.withDirectory place.dropLast).create place { data }).1

end FileSystem

end LinksBinding.Shell
