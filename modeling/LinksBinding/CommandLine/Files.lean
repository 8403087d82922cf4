/-!
# Files

The files that a command can read, and the paths that lead to them. Paths may be written with
repeated slashes and with steps to the same directory or to the one above, as long as the
directories passed through exist. The files of the command lie in and below its working directory;
of the system around it only the directories and the empty file are known.
-/

namespace LinksBinding

/-- The pieces of a path between its slashes. -/
def pathPieces (path : String) : List String := (path.toList.splitOn '/').map String.ofList

/-- Whether a path starts at the root of all directories. -/
def isAbsolutePath (path : String) : Bool := path.toList.head? == some '/'

/-- Whether a piece of a path leads nowhere. -/
def isIdleStep (piece : String) : Bool := piece.isEmpty || piece == "."

/-- The pieces of a path that lead somewhere. -/
def pathSteps (path : String) : List String := (pathPieces path).filter (!isIdleStep ·)

/-! ## The system -/

/-- Where the working directory lies, by the steps from the root of all directories. -/
def workingPlace : List String := ["tmp", "work"]

/-- The directories that there always are. -/
def systemDirectories : List (List String) :=
  [[], ["boot"], ["dev"], ["dev", "pts"], ["dev", "shm"], ["etc"], ["home"], ["media"], ["mnt"],
    ["opt"], ["proc"], ["root"], ["run"], ["srv"], ["sys"], ["tmp"], workingPlace, ["usr"],
    ["usr", "bin"], ["usr", "lib"], ["usr", "lib64"], ["usr", "local"], ["usr", "local", "bin"],
    ["usr", "local", "lib"], ["usr", "local", "share"], ["usr", "sbin"], ["usr", "share"], ["var"],
    ["var", "lib"], ["var", "log"], ["var", "tmp"]]

/-- The links to directories that there always are. -/
def systemLinks : List (List String × List String) :=
  [(["bin"], ["usr", "bin"]), (["lib"], ["usr", "lib"]), (["lib64"], ["usr", "lib64"]),
    (["sbin"], ["usr", "sbin"]), (["var", "run"], ["run"])]

/-- The empty file. -/
def emptyFile : List String := ["dev", "null"]

/-! ## Readable files -/

/-- Readable files and the directories around them, all by the steps from the root. -/
structure Files where
  /-- files with their texts -/
  entries : List (List String × String)
  /-- directories besides those of the system -/
  directories : List (List String)
  deriving Repr

namespace Files

/-- Where a piece of a path leads from a place. -/
def nextPlace (place : List String) (piece : String) : List String :=
  if isIdleStep piece then place
  else if piece == ".." then place.dropLast
  else
    let next := place ++ [piece]
    (systemLinks.lookup next).getD next

/-- The places that a path leads through from the working directory, the last one first. -/
def placesOn (path : String) : List (List String) :=
  (pathSteps path).foldl
    (fun places piece => nextPlace (places.headD workingPlace) piece :: places) []

/-- Files by their paths. The directories that their paths lead through exist. -/
def ofPaths (files : List (String × String)) : Files :=
  { entries := files.map fun (path, text) => ((placesOn path).headD workingPlace, text)
    directories := files.flatMap fun (path, _) => ((placesOn path).drop 1).reverse }

/-- Whether there is a directory at a place. -/
def isDirectory (files : Files) (place : List String) : Bool :=
  systemDirectories.contains place || files.directories.contains place

/-- Where a piece of a path leads from a place, if that is a directory. -/
def step? (files : Files) (place : List String) (piece : String) : Option (List String) :=
  if files.isDirectory place then some (nextPlace place piece) else none

/-- The text of the file at a path. -/
def read? (files : Files) (path : String) : Option String := do
  let start := if isAbsolutePath path then [] else workingPlace
  let place ← (pathPieces path).foldlM files.step? start
  files.entries.lookup place <|> if place == emptyFile then some "" else none

end Files

/-! ## Directories above a path -/

/-- Pieces without those at their end that lead nowhere. A step to the same directory counts when
it is the first piece. -/
def trimSteps (pieces : List String) : List String :=
  match pieces with
  | [] => []
  | first :: rest =>
    match (rest.reverse.dropWhile isIdleStep).reverse with
    | [] => if first.isEmpty then [] else [first]
    | kept => first :: kept

/-- The directory of what a relative path leads to; the empty path has none. -/
def relativeParent? (path : String) : Option String :=
  match trimSteps (pathPieces path) with
  | [] => none
  | pieces => some ("/".intercalate (trimSteps pieces.dropLast))

/-- The directory of what a path leads to. The working directory, as the empty path, and the root of
all directories have none. -/
def parentPath? (path : String) : Option String :=
  if isAbsolutePath path then
    (relativeParent? (String.ofList (path.toList.dropWhile (· == '/')))).map ("/" ++ ·)
  else relativeParent? path

/-- At most `fuel` directories above a path, nearest first. -/
def parentPaths : (fuel : Nat) → String → List String
  | 0, _ => []
  | fuel + 1, path =>
    match parentPath? path with
    | some parent => parent :: parentPaths fuel parent
    | none => []

/-- The directories above a path, nearest first, up to the working directory or the root of all
directories. -/
def directoriesAbove (path : String) : List String := parentPaths (path.length + 1) path

/-- A file in a directory. -/
def pathIn (directory name : String) : String :=
  if directory.isEmpty then name
  else if directory.endsWith "/" then directory ++ name
  else directory ++ "/" ++ name

end LinksBinding
