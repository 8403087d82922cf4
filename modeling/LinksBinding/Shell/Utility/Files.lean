import LinksBinding.Shell.Utility.Paths

/-!
# Making and removing files

The programs that make, copy, move and remove files and directories.
-/

namespace LinksBinding.Shell

open Session

/-- What a failure with a path is told as. -/
def failPath (name before : String) (path : Octets) (error : PathError) : Session Unit :=
  failWith name 1 (octets before ++ quotedName path ++ octets (": " ++ error.message))

/-- Whether there is something in a directory. -/
def isInhabited (files : FileSystem) (place : Place) : Bool := !(files.namesIn place).isEmpty

/-- Whether there is a directory at a path. -/
def isDirectoryAt (path : Octets) : Session Bool := do
  match ← lookAt true path with
  | .ok (_, .directory) => return true
  | _ => return false

/-! ## Removing -/

/-- The program `rm`. -/
def rm : Program := fun _ words =>
  withArguments "rm"
    { plain := "frRvdiI", long := [("force", 'f'), ("recursive", 'r'), ("verbose", 'v'),
        ("dir", 'd')] } words fun a => do
      let force := a.has 'f'
      let recursive := a.has 'r' || a.has 'R'
      if a.operands.isEmpty && !force then failUsage "rm" 1 (octets "missing operand")
      for path in a.operands do
        match ← lookAt false path with
        | .error error =>
          if !(force && (error == .missing || error == .notDirectory)) then
            failPath "rm" "cannot remove " path error
        | .ok (place, node) =>
          let name := lastName path
          if node == .directory && recursive && (name == ['.'] || name == ['.', '.']) then
            failWith "rm" 1 (octets "refusing to remove '.' or '..' directory: skipping " ++
              quotedName path)
          else if node == .directory && !recursive && !a.has 'd' then
            failPath "rm" "cannot remove " path .isDirectory
          else if node == .directory && !recursive && isInhabited (← get).files place then
            failPath "rm" "cannot remove " path .notEmpty
          else
            modifyFiles (·.remove place)
            if a.has 'v' then
              put (octets (if node == .directory then "removed directory " else "removed ") ++
                quotedName path ++ ['\n'])

/-- The program `rmdir`. -/
def rmdir : Program := fun _ words =>
  withArguments "rmdir" { plain := "pv", long := [("parents", 'p'), ("verbose", 'v')] } words
    fun a => do
      if a.operands.isEmpty then failUsage "rmdir" 1 (octets "missing operand")
      for path in a.operands do
        match ← lookAt false path with
        | .error error => failPath "rmdir" "failed to remove " path error
        | .ok (place, .directory) =>
          if isInhabited (← get).files place then
            failPath "rmdir" "failed to remove " path .notEmpty
          else modifyFiles (·.remove place)
        | .ok _ => failPath "rmdir" "failed to remove " path .notDirectory

/-! ## Making -/

/-- Makes the directories on the way to a place, and one at the place. -/
def makeAll (files : FileSystem) (place : Place) : Except PathError FileSystem :=
  (List.range (place.length + 1)).foldlM
    (fun files count =>
      let above := place.take count
      match files.nodeAt? above with
      | none => .ok (files.put above .directory)
      | some .directory => .ok files
      | some _ => .error .notDirectory)
    files

/-- The place of a path of which several directories may be missing. -/
def placeBelow (path : Octets) : Session (Except PathError Place) := do
  let world ← get
  let path ← resolvedPath path
  let start := if path.head? == some '/' then [] else world.process.directory
  return .ok ((stepsOf path).foldl
    (fun place step =>
      if step.isEmpty || step == ['.'] then place
      else if step == ['.', '.'] then place.dropLast
      else place ++ [step])
    start)

/-- The program `mkdir`. -/
def mkdir : Program := fun _ words =>
  withArguments "mkdir"
    { plain := "pv", valued := "m", long := [("parents", 'p'), ("verbose", 'v'), ("mode", 'm')] }
    words fun a => do
      if a.operands.isEmpty then failUsage "mkdir" 1 (octets "missing operand")
      for path in a.operands do
        let failed (error : PathError) : Session Unit :=
          failWith "mkdir" 1
            (octets "cannot create directory " ++ cited path ++ octets (": " ++ error.message))
        if a.has 'p' then
          match ← placeBelow path with
          | .error error => failed error
          | .ok place =>
            match makeAll (← get).files place with
            | .ok files => modifyFiles fun _ => files
            | .error error =>
              failed (if (← lookAt true path).isOk then .exists else error)
        else
          match ← placeOf false path with
          | .error error => failed error
          | .ok place =>
            let files := (← get).files
            if (files.nodeAt? place).isSome then failed .exists
            else
              match files.admits place with
              | .error error => failed error
              | .ok () =>
                modifyFiles (·.put place .directory)
                if a.has 'v' then
                  put (octets "mkdir: created directory " ++ quotedName path ++ ['\n'])

/-- The program `touch`. -/
def touch : Program := fun _ words =>
  withArguments "touch"
    { plain := "acmh", valued := "drt", long := [("no-create", 'c'), ("date", 'd'),
        ("reference", 'r')] } words fun a => do
      if a.operands.isEmpty then failUsage "touch" 1 (octets "missing file operand")
      for path in a.operands do
        match ← lookAt true path with
        | .ok (_, .file number) =>
          let clock := (← process).clock
          modifyFiles (·.change number ({ · with changed := clock }))
        | .ok _ => pure ()
        | .error .missing =>
          if !a.has 'c' then
            match ← openPath .append path with
            | .ok _ => pure ()
            | .error error => failPath "touch" "cannot touch " path error
        | .error error => failPath "touch" "cannot touch " path error

/-- The program `chmod`. -/
def chmod : Program := fun _ words => do
  let passedOver := ["-R", "-v", "-f", "-c", "--recursive"]
  match words.filter fun word => !passedOver.contains (nameOf word) with
  | [] => failUsage "chmod" 1 (octets "missing operand")
  | mode :: paths =>
    let octal := mode.all isOctalDigit && !mode.isEmpty && numberIn 8 mode < 4096
    let valid := octal || (!mode.any Char.isDigit && (applyClauses 0 mode).isSome)
    if !valid then failUsage "chmod" 1 (octets "invalid mode: " ++ cited mode)
    else if paths.isEmpty then
      failUsage "chmod" 1 (octets "missing operand after " ++ cited mode)
    else
      for path in paths do
        match ← lookAt true path with
        | .ok (_, .file number) =>
          let files := (← get).files
          let old := (factsOf files (.file number)).mode
          let new := if octal then numberIn 8 mode else (applyClauses old mode).getD old
          modifyFiles (·.change number ({ · with executable := new &&& 73 != 0 }))
        | .ok _ => pure ()
        | .error error => failPath "chmod" "cannot access " path error

/-- The characters of names that are made up. -/
def nameChars : Octets :=
  octets "abcdefghijklmnopqrstuvwxyzABCDEFGHIJKLMNOPQRSTUVWXYZ0123456789"

/-- Some characters for a name that is made up. -/
def madeUp : (count : Nat) → (seed : Nat) → Octets
  | 0, _ => []
  | count + 1, seed =>
    let seed := (seed * 1103515245 + 12345) % 2147483648
    nameChars.getD (seed / 65536 % nameChars.length) 'x' :: madeUp count seed

/-- The program `mktemp`. -/
def mktemp : Program := fun _ words =>
  withArguments "mktemp"
    { plain := "dqut", valued := "pS", long := [("directory", 'd'), ("dry-run", 'u'),
        ("suffix", 'S'), ("tmpdir", 'p')] } words fun a => do
      let template := a.operands.headD (octets "tmp.XXXXXXXXXX")
      let base := (a.value? 'p').getD (((← value? "TMPDIR").getD (octets "/tmp")))
      let inBase := a.operands.isEmpty || a.has 'p' || a.has 't'
      let stem := (template.reverse.dropWhile (· != 'X')).reverse
      let ending := template.drop stem.length ++ (a.value? 'S').getD []
      let marks := (stem.reverse.takeWhile (· == 'X')).length
      if marks < 3 then
        failWith "mktemp" 1 (octets "too few X's in template " ++ cited template)
      else
        let name := stem.take (stem.length - marks) ++ madeUp marks ((← newPid) * 7919) ++ ending
        let path := if inBase then base ++ '/' :: name else name
        let made ←
          if a.has 'u' then pure true
          else
            match ← placeOf true path with
            | .error _ => pure false
            | .ok place =>
              match (← get).files.admits place with
              | .error _ => pure false
              | .ok () =>
                modifyFiles fun files =>
                  if a.has 'd' then files.put place .directory else (files.create place {}).1
                pure true
        if made then put (path ++ ['\n'])
        else
          failWith "mktemp" 1
            (octets "failed to create " ++ octets (if a.has 'd' then "directory" else "file") ++
              octets " via template " ++ cited path ++ octets ": No such file or directory")

/-! ## Copying and moving -/

/-- Puts a copy of what is at a place, and of what is below it, at another. -/
def copyTree (files : FileSystem) (source target : Place) : FileSystem :=
  let nodes := files.nodes.reverse.filter fun (place, _) => source.isPrefixOf place
  let nodes := if nodes.isEmpty then ((files.nodeAt? source).map (source, ·)).toList else nodes
  nodes.foldl
    (fun files (place, node) =>
      let place := target ++ place.drop source.length
      match node with
      | .file number =>
        match files.nodeAt? place with
        | some (.file old) => files.change old ({ · with data := (files.content number).data })
        | _ => (files.create place (files.content number)).1
      | node => files.put place node)
    files

/-- Puts what is at a place, and what is below it, at another. -/
def moveTree (files : FileSystem) (source target : Place) : FileSystem :=
  let (moved, others) := files.nodes.partition fun (place, _) => source.isPrefixOf place
  let others := others.filter fun (place, _) => place != target
  { files with
    nodes := moved.map (fun (place, node) => (target ++ place.drop source.length, node)) ++ others }

/-- Takes the sources and the target of a program apart: the target, and whether it is a directory
that the sources are put into. -/
def withTarget (name : String) (a : Arguments)
    (act : (source target : Octets) → Session Unit) : Session Unit := do
  let intoGiven := a.value? 't'
  match intoGiven, a.operands.reverse with
  | none, [] => failUsage name 1 (octets "missing file operand")
  | none, [only] =>
    failUsage name 1 (octets "missing destination file operand after " ++ quotedName only)
  | some directory, sources =>
    for source in sources.reverse do act source (directory ++ '/' :: lastName source)
  | none, target :: sources =>
    let into := !a.has 'T' && (← isDirectoryAt target)
    if !into && sources.length > 1 then
      let reason := if (← lookAt true target).isOk then PathError.notDirectory else .missing
      failWith name 1 (octets "target " ++ quotedName target ++ octets (": " ++ reason.message))
    else
      for source in sources.reverse do
        act source (if into then withoutFinalSlashes target ++ '/' :: lastName source else target)

/-- The program `cp`. -/
def cp : Program := fun _ words =>
  withArguments "cp"
    { plain := "rRafpdnuviLPTH", valued := "tS",
      long := [("recursive", 'r'), ("archive", 'a'), ("force", 'f'), ("no-clobber", 'n'),
        ("verbose", 'v'), ("target-directory", 't'), ("no-target-directory", 'T')] } words
    fun a => withTarget "cp" a fun source target => do
      let recursive := a.has 'r' || a.has 'R' || a.has 'a'
      match ← lookAt (!recursive) source, ← placeOf true target with
      | .error error, _ => failPath "cp" "cannot stat " source error
      | .ok (_, .directory), .ok place =>
        let (origin, _) := ((← lookAt true source).toOption).getD ([], .directory)
        if !recursive then
          failWith "cp" 1 (octets "-r not specified; omitting directory " ++ quotedName source)
        else modifyFiles fun files => copyTree files origin place
      | .ok (origin, node), .ok place =>
        let files := (← get).files
        match files.nodeAt? place with
        | some .directory =>
          failWith "cp" 1 (octets "cannot overwrite directory " ++ quotedName target ++
            octets " with non-directory")
        | found =>
          if origin == place then
            failWith "cp" 1 (quotedName source ++ octets " and " ++ quotedName target ++
              octets " are the same file")
          else if found.isSome && a.has 'n' then pure ()
          else
            match node, found, files.admits place with
            | .device _, _, .ok () =>
              match ← readFile source with
              | .ok data => let _ ← writeFile .write target data
              | .error error => failPath "cp" "error reading " source error
            | .file number, some (.device _), .ok () =>
              let _ ← writeFile .write target (files.content number).data
            | _, _, .ok () =>
              modifyFiles fun files => copyTree files origin place
              if a.has 'v' then
                put (quotedName source ++ octets " -> " ++ quotedName target ++ ['\n'])
            | _, _, .error error => failPath "cp" "cannot create regular file " target error
      | .ok _, .error error => failPath "cp" "cannot create regular file " target error

/-- The program `mv`. -/
def mv : Program := fun _ words =>
  withArguments "mv"
    { plain := "fnuviT", valued := "tS",
      long := [("force", 'f'), ("no-clobber", 'n'), ("verbose", 'v'),
        ("target-directory", 't'), ("no-target-directory", 'T')] } words
    fun a => withTarget "mv" a fun source target => do
      match ← lookAt false source, ← placeOf false target with
      | .error error, _ => failPath "mv" "cannot stat " source error
      | .ok (origin, node), .ok place =>
        let files := (← get).files
        let found := files.nodeAt? place
        if origin == place then
          failWith "mv" 1 (quotedName source ++ octets " and " ++ quotedName target ++
            octets " are the same file")
        else if found.isSome && a.has 'n' then pure ()
        else if found == some .directory && node != .directory then
          failWith "mv" 1 (octets "cannot overwrite directory " ++ quotedName target ++
            octets " with non-directory")
        else
          match files.admits place with
          | .ok () =>
            modifyFiles fun files => moveTree files origin place
            if a.has 'v' then
              put (octets "renamed " ++ quotedName source ++ octets " -> " ++ quotedName target ++
                ['\n'])
          | .error error =>
            failWith "mv" 1 (octets "cannot move " ++ quotedName source ++ octets " to " ++
              quotedName target ++ octets (": " ++ error.message))
      | .ok _, .error error =>
        failWith "mv" 1 (octets "cannot move " ++ quotedName source ++ octets " to " ++
          quotedName target ++ octets (": " ++ error.message))

/-- The program `ln`. -/
def ln : Program := fun _ words =>
  withArguments "ln"
    { plain := "sfnvrTi", valued := "t",
      long := [("symbolic", 's'), ("force", 'f'), ("verbose", 'v'), ("no-dereference", 'n')] } words
    fun a => do
      let a := match a.operands with
        | [only] => { a with operands := [only, ['.']] }
        | _ => a
      withTarget "ln" a fun source target => do
        match ← placeOf false target with
        | .error error => failPath "ln" "failed to create link " target error
        | .ok place =>
          let files := (← get).files
          if (files.nodeAt? place).isSome && !a.has 'f' then
            failPath "ln"
              (if a.has 's' then "failed to create symbolic link "
                else "failed to create hard link ")
              target .exists
          else if a.has 's' then
            match files.admits place with
            | .ok () => modifyFiles (·.put place (.link source))
            | .error error => failPath "ln" "failed to create symbolic link " target error
          else
            match ← lookAt true source with
            | .error error => failPath "ln" "failed to access " source error
            | .ok (_, .directory) =>
              failWith "ln" 1 (shownName source ++ octets ": hard link not allowed for directory")
            | .ok (_, node) => modifyFiles (·.put place node)

end LinksBinding.Shell
