import LinksBinding.Shell.Utility.Options

/-!
# Characters and columns

Programs that exchange characters, and programs that take lines apart and put them together by
places or fields.
-/

namespace LinksBinding.Shell

open Session

/-! ## Sets of characters -/

/-- A piece of a set of characters, in order. -/
inductive SetPiece where
  /-- one character -/
  | one (c : Char)
  /-- all characters of a range -/
  | range (low high : Char)
  /-- all characters of a class -/
  | named (name : String)
  /-- a character several times; `none` for as often as needed -/
  | repeated (c : Char) (count : Option Nat)

/-- A character of a set with its escape resolved, and what follows. -/
def setChar? (text : Octets) : Option (Char × Octets) :=
  match text with
  | '\\' :: c :: rest =>
    if isOctalDigit c then
      let figures := ((c :: rest).take 3).takeWhile isOctalDigit
      some (Char.ofNat (numberIn 8 figures % 256), (c :: rest).drop figures.length)
    else
      some (match c with
        | 'a' => '\x07'
        | 'b' => '\x08'
        | 'f' => '\x0c'
        | 'n' => '\n'
        | 'r' => '\r'
        | 't' => '\t'
        | 'v' => '\x0b'
        | c => c, rest)
  | c :: rest => some (c, rest)
  | [] => none

/-- The pieces of a set. -/
def setPieces : (fuel : Nat) → Octets → List SetPiece
  | 0, _ | _, [] => []
  | fuel + 1, '[' :: ':' :: rest =>
    let name := rest.takeWhile Char.isAlpha
    match rest.drop name.length with
    | ':' :: ']' :: behind => .named (nameOf name) :: setPieces fuel behind
    | _ => .one '[' :: setPieces fuel (':' :: rest)
  | fuel + 1, '[' :: '=' :: c :: '=' :: ']' :: rest => .one c :: setPieces fuel rest
  | fuel + 1, '[' :: rest =>
    let plain : List SetPiece := .one '[' :: setPieces fuel rest
    match setChar? rest with
    | some (c, '*' :: behind) =>
      let figures := behind.takeWhile Char.isDigit
      match behind.drop figures.length with
      | ']' :: behind =>
        let base := if figures.head? == some '0' then 8 else 10
        let count := numberIn base figures
        .repeated c (if count == 0 then none else some count) :: setPieces fuel behind
      | _ => plain
    | _ => plain
  | fuel + 1, text =>
    match setChar? text with
    | none => []
    | some (c, '-' :: rest) =>
      match setChar? rest with
      | some (d, behind) => .range c d :: setPieces fuel behind
      | none => [.one c, .one '-']
    | some (c, rest) => .one c :: setPieces fuel rest

/-- The characters of a piece. -/
def SetPiece.chars (missing : Nat) : SetPiece → Octets
  | .one c => [c]
  | .range low high => allOctets.filter fun c => low ≤ c && c ≤ high
  | .named name => allOctets.filter fun c => (classMember? name c).getD false
  | .repeated c count => List.replicate (count.getD missing) c

/-- The characters of a set; a piece without a number fills it up to `size`. -/
def setChars (size : Nat) (text : Octets) : Octets :=
  let pieces := setPieces (text.length + 1) text
  let fixed := pieces.flatMap (SetPiece.chars 0)
  pieces.flatMap (SetPiece.chars (size - fixed.length))

/-- What stands for a character: the one at its last place in the first set, or the last one. -/
def exchanged (first second : Array Char) (c : Char) : Char :=
  match first.toList.reverse.idxOf? c with
  | some place => second.getD (first.size - 1 - place) (second.back?.getD c)
  | none => c

/-- Characters of a set of which only the first of several equal ones is kept. -/
def squeezed (set : Octets) : Option Char → Octets → Octets → Octets
  | _, done, [] => done.reverse
  | last, done, c :: rest =>
    if last == some c && set.contains c then squeezed set last done rest
    else squeezed set (some c) (c :: done) rest

/-- Exchanges, removes or squeezes characters. -/
def tr : Program := fun _ words =>
  withArguments "tr"
    { plain := "cCdst", ordered := true,
      long := [("complement", 'c'), ("delete", 'd'), ("squeeze-repeats", 's'),
        ("truncate-set1", 't')] } words fun a => do
    let complement := a.has 'c' || a.has 'C'
    let chars (text : Octets) : Octets :=
      let set := setChars 0 text
      if complement then allOctets.filter (!set.contains ·) else set
    let missing (after : Octets) (hint : String) : Session Unit := do
      programError "tr" (octets "missing operand" ++ after)
      if hint != "" then putErrorLine (octets hint)
      putErrorLine (octets "Try 'tr --help' for more information.")
      setStatus 1
    match a.operands, a.has 'd', a.has 's' with
    | [], _, _ => missing [] ""
    | [first], true, false =>
      let set := chars first
      put ((← readAll 0).filter (!set.contains ·))
    | [first, second], true, true =>
      let set := chars first
      put (squeezed (setChars 0 second) none [] ((← readAll 0).filter (!set.contains ·)))
    | [first], false, true => put (squeezed (chars first) none [] (← readAll 0))
    | [first], false, false =>
      missing (octets " after " ++ cited first)
        "Two strings must be given when translating."
    | [first], true, true =>
      missing (octets " after " ++ cited first)
        "Two strings must be given when both deleting and squeezing repeats."
    | [first, second], false, squeeze =>
      let source := chars first
      let target := setChars source.length second
      if target.isEmpty then
        failWith "tr" 1 (octets "when not truncating set1, string2 must be non-empty")
      else
        let source := if a.has 't' then source.take target.length else source
        let table := (allOctets.map (exchanged source.toArray target.toArray)).toArray
        let data := (← readAll 0).map fun c => table.getD c.toNat c
        put (if squeeze then squeezed target none [] data else data)
    | _ :: _ :: third :: _, _, _ | [_, third], _, _ => do
      programError "tr" (octets "extra operand " ++ cited third)
      if a.has 'd' then
        putErrorLine
          (octets "Only one string may be given when deleting without squeezing repeats.")
      putErrorLine (octets "Try 'tr --help' for more information.")
      setStatus 1

/-! ## Places and fields -/

/-- A range of places, counted from one; the end may be open. -/
abbrev PlaceRange := Nat × Option Nat

/-- The range that a text names. -/
def placeRange? (text : Octets) : Option PlaceRange :=
  match cutAtChar? '-' text with
  | none => (natOf? text).bind fun n => if n == 0 then none else some (n, some n)
  | some (low, high) =>
    let low? := if low.isEmpty then some 1 else natOf? low
    let high? := if high.isEmpty then some none else (natOf? high).map some
    match low?, high? with
    | some low, some high =>
      if low == 0 || (text == ['-']) || high.any (· < low) then none else some (low, high)
    | _, _ => none

/-- Whether a place is in one of some ranges. -/
def inPlaces (ranges : List PlaceRange) (place : Nat) : Bool :=
  ranges.any fun (low, high) => low ≤ place && high.all (place ≤ ·)

/-- The pieces whose places are chosen. -/
def chosenPieces {α : Type} (ranges : List PlaceRange) (complement : Bool) (pieces : List α) :
    List α :=
  (pieces.zipIdx 1).filterMap fun (piece, place) =>
    if inPlaces ranges place != complement then some piece else none

/-- Writes parts of lines. -/
def cut : Program := fun _ words =>
  withArguments "cut"
    { plain := "nsz", valued := "bcfdOQ",
      long := [("bytes", 'b'), ("characters", 'c'), ("fields", 'f'), ("delimiter", 'd'),
        ("only-delimited", 's'), ("output-delimiter", 'O'), ("complement", 'n')] } words fun a => do
    let complement := words.contains (octets "--complement")
    match a.last? ['b', 'c', 'f'] with
    | none => failUsage "cut" 1 (octets "you must specify a list of bytes, characters, or fields")
    | some unit =>
      let list := (a.value? unit).getD []
      let pieces := list.splitOnP fun c => c == ',' || isGap c
      match pieces.mapM placeRange? with
      | none =>
        failUsage "cut" 1 (octets
          (if unit == 'f' then "invalid field value " else "invalid byte/character position ") ++
            cited list)
      | some ranges =>
        let data ← readJoined "cut" a.operands
        let delimiter := ((a.value? 'd').getD ['\t']).headD '\t'
        let between := (a.value? 'O').getD [delimiter]
        let cutLine (line : Octets) : Option Octets :=
          if unit == 'f' then
            if line.contains delimiter then
              some (joinWith between (chosenPieces ranges complement (line.splitOn delimiter)))
            else if a.has 's' then none
            else some line
          else some (chosenPieces ranges complement line)
        put (unlines ((linesOf data).filterMap cutLine))

/-- The characters of a list of delimiters, with their escapes resolved. -/
def delimiterList : Octets → List Octets
  | '\\' :: c :: rest =>
    (match c with
      | 'n' => ['\n']
      | 't' => ['\t']
      | '0' => []
      | c => [c]) :: delimiterList rest
  | c :: rest => [c] :: delimiterList rest
  | [] => []

/-- Pieces with delimiters between them that are used in turn. -/
def joinInTurn (delimiters : Array Octets) (pieces : List Octets) : Octets :=
  (pieces.zipIdx).flatMap fun (piece, i) =>
    (if i == 0 then [] else delimiters.getD ((i - 1) % delimiters.size) []) ++ piece

/-- Joins lines of files. -/
def paste : Program := fun _ words =>
  withArguments "paste"
    { plain := "sz", valued := "d", long := [("serial", 's'), ("delimiters", 'd')] } words
    fun a => do
      let delimiters := (delimiterList ((a.value? 'd').getD ['\t'])).toArray
      let paths := inputPaths a.operands
      let dashes := (paths.filter (· == ['-'])).length
      let input ← if 0 < dashes then linesOf <$> readAll 0 else pure []
      let mut found := #[]
      let mut dash := 0
      for path in paths do
        if path == ['-'] then
          let place := dash
          found := found.push
            ((input.zipIdx).filterMap fun (line, i) =>
              if a.has 's' then if place == 0 then some line else none
              else if i % dashes == place then some line else none)
          dash := dash + 1
        else
          match ← Session.readFile path with
          | .ok data => found := found.push (linesOf data)
          | .error error => failWith "paste" 1 (shownName path ++ octets (": " ++ error.message))
      let columns := found.toList
      if (← process).status == 0 then
        if a.has 's' then put (unlines (columns.map (joinInTurn delimiters)))
        else
          let count := columns.foldl (fun n column => max n column.length) 0
          put (unlines ((List.range count).map fun i =>
            joinInTurn delimiters (columns.map fun column => column.getD i [])))

/-- Writes lines with their characters in reverse order. It comes to no end where there is
something else than characters. -/
def rev : Program := fun _ words => do
  let data ← readJoined "rev" words
  let lines := (linesOf data).map characters
  if lines.any (·.any isStray) then stall
  let text := unlines (lines.map fun line => ofCharacters line.reverse)
  put (if isClosed data || data.isEmpty then text else text.dropLast)

/-! ## Widths -/

/-- A line in pieces of a width; with `words` set, pieces end behind the last blank in them. -/
def foldLine (words : Bool) (width : Nat) : (fuel : Nat) → Octets → List Octets
  | 0, line => [line]
  | fuel + 1, line =>
    if line.length ≤ width then [line]
    else
      let piece := line.take width
      let kept := if words then (piece.reverse.dropWhile (!isGap ·)).reverse else piece
      let piece := if kept.isEmpty then piece else kept
      piece :: foldLine words width fuel (line.drop piece.length)

/-- Breaks long lines. -/
def fold : Program := fun _ words =>
  withArguments "fold"
    { plain := "bs", valued := "w", long := [("width", 'w'), ("spaces", 's')] } words fun a => do
    let width := max 1 (((a.value? 'w').bind natOf?).getD 80)
    let data ← readJoined "fold" a.operands
    let lines := (linesOf data).map fun line =>
      joinWith ['\n'] (foldLine (a.has 's') width (line.length + 1) line)
    let text := unlines lines
    put (if isClosed data || data.isEmpty then text else text.dropLast)

/-- A line with blanks for its tabulators. -/
def expandTabs (size : Nat) : (column : Nat) → Octets → Octets
  | _, [] => []
  | column, '\t' :: rest =>
    let next := (column / size + 1) * size
    List.replicate (next - column) ' ' ++ expandTabs size next rest
  | _, '\n' :: rest => '\n' :: expandTabs size 0 rest
  | column, c :: rest => c :: expandTabs size (column + 1) rest

/-- Writes blanks for tabulators. -/
def expand : Program := fun _ words =>
  withArguments "expand"
    { plain := "i", valued := "t", long := [("tabs", 't')] } words fun a => do
    let size := max 1 (((a.value? 't').bind natOf?).getD 8)
    put (expandTabs size 0 (← readJoined "expand" a.operands))

/-- The figures of a byte in some base. -/
def byteFigures (base width : Nat) (c : Char) : Octets :=
  let figures := digitsIn base c.toNat
  List.replicate (width - figures.length) '0' ++ figures

/-- A byte as a character, in three places. -/
def shownByte (c : Char) : Octets :=
  let named : Octets := match c with
    | '\x00' => octets "\\0"
    | '\x07' => octets "\\a"
    | '\x08' => octets "\\b"
    | '\t' => octets "\\t"
    | '\n' => octets "\\n"
    | '\x0b' => octets "\\v"
    | '\x0c' => octets "\\f"
    | '\r' => octets "\\r"
    | c => if ' ' ≤ c && c ≤ '~' then [c] else byteFigures 8 3 c
  List.replicate (3 - named.length) ' ' ++ named

/-- How bytes are shown: by the letters of an option and the number of bytes of an item. -/
def dumpItem (kind : String) (bytes : Octets) : Octets :=
  let value := bytes.reverse.foldl (fun n c => n * 256 + c.toNat) 0
  let wide (base width : Nat) : Octets :=
    let figures := digitsIn base value
    List.replicate (width - figures.length) '0' ++ figures
  let spaced (width : Nat) : Octets :=
    let figures := Text.digits value
    List.replicate (width - figures.length) ' ' ++ figures
  match kind with
  | "c" => ' ' :: bytes.flatMap shownByte
  | "x1" => ' ' :: wide 16 2
  | "x2" => ' ' :: wide 16 4
  | "x4" | "x" => ' ' :: wide 16 8
  | "o1" => ' ' :: wide 8 3
  | "u1" | "d1" => ' ' :: spaced 3
  | "u2" | "d2" => ' ' :: spaced 5
  | _ => ' ' :: wide 8 6

/-- How many bytes an item shows. -/
def dumpSize (kind : String) : Nat :=
  match kind with
  | "c" | "x1" | "o1" | "u1" | "d1" => 1
  | "x4" | "x" => 4
  | _ => 2

/-- Data in pieces of a size. -/
def chunksOf (size : Nat) : (fuel : Nat) → Octets → List Octets
  | 0, _ | _, [] => []
  | fuel + 1, data => data.take size :: chunksOf size fuel (data.drop size)

/-- Shows bytes as numbers or characters. -/
def od : Program := fun _ words =>
  withArguments "od"
    { plain := "bcxodv", valued := "AtNjw",
      long := [("address-radix", 'A'), ("format", 't'), ("read-bytes", 'N'),
        ("skip-bytes", 'j')] } words fun a => do
    let data ← readJoined "od" a.operands
    let data := data.drop (((a.value? 'j').bind natOf?).getD 0)
    let data := match (a.value? 'N').bind natOf? with
      | some count => data.take count
      | none => data
    let kind := match a.value? 't' with
      | some text =>
        let kind := nameOf text
        if kind == "a" then "c" else if kind == "o" then "o2" else kind
      | none =>
        if a.has 'c' then "c" else if a.has 'b' then "o1" else if a.has 'x' then "x2" else "o2"
    let address (n : Nat) : Octets :=
      match (a.value? 'A').map nameOf with
      | some "n" => []
      | some "d" => byteWide 10 7 n
      | some "x" => byteWide 16 6 n
      | _ => byteWide 8 7 n
    let rows := chunksOf 16 (data.length + 1) data
    let size := dumpSize kind
    for (row, i) in rows.zipIdx do
      let items := (chunksOf size (row.length + 1) row).flatMap (dumpItem kind)
      put (address (i * 16) ++ items ++ ['\n'])
    let last := address data.length
    if !last.isEmpty then put (last ++ ['\n'])
where
  /-- The figures of a number in some base, in a width. -/
  byteWide (base width n : Nat) : Octets :=
    let figures := digitsIn base n
    List.replicate (width - figures.length) '0' ++ figures

end LinksBinding.Shell
