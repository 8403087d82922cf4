import LinksBinding.Shell.Utility.Options

/-!
# Comparing files

The programs that tell whether two files are the same, and where they are not: `cmp` byte by byte
and `diff` line by line.
-/

namespace LinksBinding.Shell

open Session

/-! ## Bytes -/

/-- How two runs of bytes go on together. -/
inductive Meeting where
  /-- to the end of both -/
  | same
  /-- up to two bytes that differ -/
  | differ (first second : Char)
  /-- up to the end of the first -/
  | firstEnds
  /-- up to the end of the second -/
  | secondEnds

/-- How far two runs of bytes are the same: the number of bytes, that of the line feeds among them,
whether the last of them is one, and what comes then. -/
def meet (count lines : Nat) (closed : Bool) : Octets → Octets → Nat × Nat × Bool × Meeting
  | [], [] => (count, lines, closed, .same)
  | [], _ => (count, lines, closed, .firstEnds)
  | _, [] => (count, lines, closed, .secondEnds)
  | c :: rest, d :: others =>
    if c != d then (count, lines, closed, .differ c d)
    else meet (count + 1) (if c == '\n' then lines + 1 else lines) (c == '\n') rest others

/-- A number in octal, filled up with blanks. -/
def octalText (width : Nat) (n : Nat) : Octets :=
  let figures := digitsIn 8 n
  List.replicate (width - figures.length) ' ' ++ figures

/-- The lines about all bytes that differ. -/
def differences (width : Nat) : (place : Nat) → Octets → Octets → List Octets
  | place, c :: rest, d :: others =>
    let behind := differences width (place + 1) rest others
    if c == d then behind
    else
      let figures := Text.digits place
      (List.replicate (width - figures.length) ' ' ++ figures ++ [' '] ++ octalText 3 c.toNat ++
        [' '] ++ octalText 3 d.toNat) :: behind
  | _, _, _ => []

/-- Reads the two inputs of a program that compares; the second is the input of the program if there
is only one. -/
def bothInputs (name : String) (first second : Octets) : Session (Option (Octets × Octets)) := do
  let mut found := #[]
  for path in [first, second] do
    match ← readInput path with
    | .ok data => found := found.push data
    | .error error => failWith name 2 (path ++ octets (": " ++ error.message))
  return match found.toList with
    | [a, b] => some (a, b)
    | _ => none

/-- The program `cmp`. -/
def cmp : Program := fun _ words =>
  withArguments "cmp"
    { refusal := 2, plain := "slb", valued := "ni",
      long := [("silent", 's'), ("quiet", 's'), ("verbose", 'l'), ("print-bytes", 'b'),
        ("bytes", 'n'), ("ignore-initial", 'i')] } words fun a => do
      match a.operands with
      | [] =>
        programError "cmp" (octets "missing operand after 'cmp'")
        programError "cmp" (octets "Try 'cmp --help' for more information.")
        setStatus 2
      | first :: rest =>
        let second := rest.headD ['-']
        match ← bothInputs "cmp" first second with
        | none => return ()
        | some (x, y) =>
          let skipped := ((a.value? 'i').bind natOf?).getD 0
          let limit := ((a.value? 'n').bind natOf?).getD noLimit
          let (x, y) := ((x.drop skipped).take limit, (y.drop skipped).take limit)
          let (count, lines, closed, meeting) := meet 0 0 true x y
          let ended (path data : Octets) : Session Unit := do
            if !a.has 's' then
              let size := data.length
              let line := if closed then octets ", line " ++ Text.digits lines
                else octets ", in line " ++ Text.digits (lines + 1)
              let place :=
                if size == 0 then octets " which is empty"
                else octets " after byte " ++ Text.digits size ++ if a.has 'l' then [] else line
              programError "cmp" (octets "EOF on " ++ path ++ place)
            setStatus 1
          match meeting with
          | .same => setStatus 0
          | .firstEnds => ended first x
          | .secondEnds => ended second y
          | .differ c d =>
            if a.has 's' then setStatus 1
            else if a.has 'l' then
              let width := (Text.digits (max x.length y.length)).length
              put (unlines (differences width 1 x y))
              setStatus 1
              if x.length != y.length then
                if x.length < y.length then ended first x else ended second y
            else
              let bytes := if a.has 'b' then
                  octets " is " ++ octalText 3 c.toNat ++ [' ', c, ' '] ++ octalText 3 d.toNat ++
                    [' ', d]
                else []
              put (first ++ [' '] ++ second ++ octets " differ: " ++
                octets (if a.has 'b' then "byte " else "char ") ++ Text.digits (count + 1) ++
                octets ", line " ++ Text.digits (lines + 1) ++ bytes ++ ['\n'])
              setStatus 1

/-! ## Lines -/

/-- A line of a file, with what it is compared by. -/
structure ComparedLine where
  /-- the line, with its line feed if it has one -/
  text : Octets
  /-- what it is compared by -/
  key : Octets

/-- The lines of a file, with their line feeds. -/
def fullLines (data : Octets) : List Octets :=
  let lines := linesOf data
  if isClosed data then lines.map (· ++ ['\n'])
  else lines.dropLast.map (· ++ ['\n']) ++ (lines.getLast?).toList

/-- What a line is compared by. -/
def lineKey (a : Arguments) (line : Octets) : Octets :=
  let line := if a.has 'i' then line.map Char.toLower else line
  if a.has 'w' then line.filter fun c => c == '\n' || !isSpace c
  else if a.has 'b' then
    let body := line.filter (· != '\n')
    let feed := line.filter (· == '\n')
    let front := if body.head?.any isSpace then [' '] else []
    front ++ joined (wordsOf body) ++ feed
  else line

/-- The lengths of the longest common runs of lines of one file and of the rest of another, one for
each rest: the next row, from the one for fewer lines. -/
def nextRow (line : ComparedLine) : List ComparedLine → List Nat → List Nat
  | [], _ => [0]
  | other :: others, lengths =>
    let behind := nextRow line others (lengths.drop 1)
    let best :=
      if line.key == other.key then (lengths.drop 1).headD 0 + 1
      else max (lengths.headD 0) (behind.headD 0)
    best :: behind

/-- The rows of the lengths of the longest common runs, one for each rest of the first file. -/
def commonRows (second : List ComparedLine) : List ComparedLine → List (List Nat)
  | [] => [List.replicate (second.length + 1) 0]
  | line :: rest =>
    let rows := commonRows second rest
    nextRow line second (rows.headD []) :: rows

/-- A step from one file to the other. -/
inductive LineStep where
  /-- a line that both have -/
  | both (line : Octets)
  /-- a line of the first that the second has not -/
  | removed (line : Octets)
  /-- a line of the second that the first has not -/
  | added (line : Octets)

/-- The steps from one file to the other. Lines are removed before others are added. -/
def lineSteps : (fuel : Nat) → List ComparedLine → List ComparedLine → List (List Nat) →
    List LineStep
  | 0, _, _, _ => []
  | _ + 1, [], others, _ => others.map fun line => .added line.text
  | _ + 1, lines, [], _ => lines.map fun line => .removed line.text
  | fuel + 1, line :: lines, other :: others, rows =>
    let row := rows.headD []
    let below := (rows.drop 1).headD []
    if line.key == other.key && row.headD 0 == (below.drop 1).headD 0 + 1 then
      .both line.text :: lineSteps fuel lines others ((rows.drop 1).map (·.drop 1))
    else if (row.drop 1).headD 0 ≤ below.headD 0 then
      .removed line.text :: lineSteps fuel lines (other :: others) (rows.drop 1)
    else .added other.text :: lineSteps fuel (line :: lines) others (rows.map (·.drop 1))

/-- Lines that are changed together: how many lines are in front of them in both files, the lines
that are removed and those that are added. -/
structure Hunk where
  /-- the lines in front of them in the first file -/
  first : Nat
  /-- the lines in front of them in the second file -/
  second : Nat
  /-- the lines that are removed -/
  removed : List Octets
  /-- the lines that are added -/
  added : List Octets

/-- The changes in steps; `begun` is the one that is begun, its lines last first. -/
def hunks (first second : Nat) (begun : Option Hunk) : List LineStep → List Hunk
  | [] => (begun.map closed).toList
  | .both _ :: rest => (begun.map closed).toList ++ hunks (first + 1) (second + 1) none rest
  | .removed line :: rest =>
    let hunk := begun.getD ⟨first, second, [], []⟩
    hunks (first + 1) second (some { hunk with removed := line :: hunk.removed }) rest
  | .added line :: rest =>
    let hunk := begun.getD ⟨first, second, [], []⟩
    hunks first (second + 1) (some { hunk with added := line :: hunk.added }) rest
where
  /-- A change with its lines in order. -/
  closed (hunk : Hunk) : Hunk :=
    { hunk with removed := hunk.removed.reverse, added := hunk.added.reverse }

/-- A line behind a mark. A line that is not closed is told so. -/
def markedLine (mark : String) (line : Octets) : Octets :=
  octets mark ++ line ++
    if isClosed line then [] else octets "\n\\ No newline at end of file\n"

/-- The numbers of some lines behind others, as the short form of a change names them. -/
def lineRange (before count : Nat) : Octets :=
  if count == 0 then Text.digits before
  else if count == 1 then Text.digits (before + 1)
  else Text.digits (before + 1) ++ [','] ++ Text.digits (before + count)

/-- A change in the short form. -/
def plainHunk (hunk : Hunk) : Octets :=
  let letter := if hunk.removed.isEmpty then "a" else if hunk.added.isEmpty then "d" else "c"
  lineRange hunk.first hunk.removed.length ++ octets letter ++
    lineRange hunk.second hunk.added.length ++ ['\n'] ++
    hunk.removed.flatMap (markedLine "< ") ++
    (if hunk.removed.isEmpty || hunk.added.isEmpty then [] else octets "---\n") ++
    hunk.added.flatMap (markedLine "> ")

/-- Whether a step is a change. -/
def LineStep.changes : LineStep → Bool
  | .both _ => false
  | _ => true

/-- A step with its mark. -/
def LineStep.shown : LineStep → Octets
  | .both line => markedLine " " line
  | .removed line => markedLine "-" line
  | .added line => markedLine "+" line

/-- The numbers of lines in the heading of a change with lines around it. -/
def headingRange (before count : Nat) : Octets :=
  let start := if count == 0 then before else before + 1
  Text.digits start ++ if count == 1 then [] else [','] ++ Text.digits count

/-- Changes with lines around them: steps are taken together as long as at most twice as many common
lines as are shown stand between changes. `front` holds the common lines in front, last first. -/
def unifiedHunks (around : Nat) :
    (fuel : Nat) → (first second : Nat) → (front : List LineStep) → List LineStep → List Octets
  | 0, _, _, _, _ | _, _, _, _, [] => []
  | fuel + 1, first, second, front, step :: rest =>
    if !step.changes then
      unifiedHunks around fuel (first + 1) (second + 1) (step :: front.take (around - 1)) rest
    else
      let body := together (rest.length + 1) (step :: rest)
      let after := ((step :: rest).drop body.length).takeWhile fun step => !step.changes
      let steps := (front.take around).reverse ++ body ++ after.take around
      let count (p : LineStep → Bool) (steps : List LineStep) : Nat := steps.countP p
      let old (step : LineStep) : Bool := !(step matches .added _)
      let new (step : LineStep) : Bool := !(step matches .removed _)
      let lead := (front.take around).length
      let heading := octets "@@ -" ++ headingRange (first - lead) (count old steps) ++
        octets " +" ++ headingRange (second - lead) (count new steps) ++ octets " @@\n"
      (heading ++ steps.flatMap (·.shown)) ::
        unifiedHunks around fuel (first + count old body) (second + count new body) []
          ((step :: rest).drop body.length)
where
  /-- The steps up to the last change that is shown together with the first. -/
  together : (fuel : Nat) → List LineStep → List LineStep
    | 0, _ => []
    | fuel + 1, steps =>
      let changed := steps.takeWhile (·.changes)
      let behind := steps.drop changed.length
      let common := behind.takeWhile fun step => !step.changes
      let further := behind.drop common.length
      if further.isEmpty || 2 * around < common.length then changed
      else changed ++ common ++ together fuel further

/-- Compares two files line by line. -/
def diffFiles (a : Arguments) (first second x y : Octets) : Session Unit := do
  let compared (data : Octets) : List ComparedLine :=
    (fullLines data).map fun line => ⟨line, lineKey a line⟩
  let (old, new) := (compared x, compared y)
  let same := old.map (·.key) == new.map (·.key)
  if same then
    if a.has 's' then
      put (octets "Files " ++ first ++ octets " and " ++ second ++ octets " are identical\n")
  else
    setStatus 1
    if a.has 'q' then
      put (octets "Files " ++ first ++ octets " and " ++ second ++ octets " differ\n")
    else
      let steps := lineSteps (old.length + new.length + 1) old new (commonRows new old)
      if a.has 'u' || a.has 'U' then
        let around := ((a.value? 'U').bind natOf?).getD 3
        let labels := a.values 'L'
        let date := octets "\t1970-01-01 00:00:00.000000000 +0000"
        put (octets "--- " ++ labels.headD (first ++ date) ++ octets "\n+++ " ++
          (labels.drop 1).headD (second ++ date) ++ ['\n'])
        put (unifiedHunks around (steps.length + 1) 0 0 [] steps).flatten
      else put ((hunks 0 0 none steps).flatMap plainHunk)

/-- The program `diff`. -/
def diff : Program := fun _ words =>
  withArguments "diff"
    { refusal := 2, plain := "uqsiwbBraNdct", valued := "UL",
      long := [("unified", 'u'), ("brief", 'q'), ("report-identical-files", 's'),
        ("ignore-case", 'i'), ("ignore-all-space", 'w'), ("ignore-space-change", 'b'),
        ("label", 'L'), ("recursive", 'r'), ("new-file", 'N'), ("text", 'a')] } words fun a => do
      match a.operands with
      | [first, second] =>
        match ← bothInputs "diff" first second with
        | some (x, y) => diffFiles a first second x y
        | none => return ()
      | operands =>
        let last := operands.getLast?.getD (octets "diff")
        let what := if operands.length > 2 then "extra operand " else "missing operand after "
        programError "diff" (octets what ++ quotedName last)
        programError "diff" (octets "Try 'diff --help' for more information.")
        setStatus 2

end LinksBinding.Shell
