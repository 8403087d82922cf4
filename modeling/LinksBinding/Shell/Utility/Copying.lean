import LinksBinding.Shell.Utility.Options

/-!
# Copying and counting

Programs that copy what they read, or parts of it, line by line or byte by byte, and programs that
count it.
-/

namespace LinksBinding.Shell

open Session

/-! ## Whole files -/

/-- A character as control characters are shown. -/
def shownControl (tabs : Bool) (c : Char) : Octets :=
  let n := c.toNat
  let plain (n : Nat) : Octets :=
    if n < 32 then ['^', Char.ofNat (n + 64)] else if n == 127 then ['^', '?'] else [Char.ofNat n]
  if c == '\n' || (c == '\t' && !tabs) then [c]
  else if n < 128 then plain n
  else 'M' :: '-' :: plain (n - 128)

/-- How lines are copied. -/
structure CopyStyle where
  /-- whether lines are numbered -/
  numbered : Bool
  /-- whether only lines with text are numbered -/
  skipBlank : Bool
  /-- whether of several empty lines only one is copied -/
  squeeze : Bool
  /-- whether the end of a line is marked -/
  marked : Bool
  /-- whether tabulators are shown -/
  tabs : Bool
  /-- whether control characters are shown -/
  controls : Bool

/-- Figures at the right of six places, and a tabulator. -/
def lineLabel (n : Nat) : Octets :=
  let figures := Text.digits n
  List.replicate (6 - figures.length) ' ' ++ figures ++ ['\t']

/-- The text of a line as it is copied. -/
def CopyStyle.show (style : CopyStyle) (line : Octets) (closed : Bool) : Octets :=
  let line := line.flatMap fun c =>
    if style.controls then shownControl style.tabs c
    else if style.tabs && c == '\t' then ['^', 'I']
    else [c]
  let line :=
    if style.marked && closed && !style.controls && line.getLast? == some '\r' then
      line.dropLast ++ ['^', 'M']
    else line
  line ++ if style.marked && closed then ['$'] else []

/-- Copies lines: what is written, last piece first. `blank` tells whether the line before was
empty. -/
def CopyStyle.copy (style : CopyStyle) (closed : Bool) :
    List Octets → (number : Nat) → (blank : Bool) → List Octets → List Octets
  | [], _, _, done => done
  | line :: rest, number, blank, done =>
    let isClosed := closed || !rest.isEmpty
    let empty := line.isEmpty && isClosed
    if style.squeeze && blank && empty then style.copy closed rest number blank done
    else
      let labelled := style.numbered && !(style.skipBlank && empty)
      let label := if labelled then lineLabel number else []
      let text := label ++ style.show line isClosed ++ if isClosed then ['\n'] else []
      style.copy closed rest (if labelled then number + 1 else number) empty (text :: done)

/-- Writes files one after the other. -/
def cat : Program := fun _ words =>
  withArguments "cat"
    { plain := "AbeEnstTuv",
      long := [("show-all", 'A'), ("number-nonblank", 'b'), ("show-ends", 'E'), ("number", 'n'),
        ("squeeze-blank", 's'), ("show-tabs", 'T'), ("show-nonprinting", 'v')] } words fun a => do
    let any (letters : String) : Bool := letters.toList.any a.has
    let style : CopyStyle :=
      ⟨any "nb", any "b", any "s", any "AeE", any "AtT", any "Aetv"⟩
    let changes := style.numbered || style.squeeze || style.marked || style.tabs || style.controls
    if changes then
      let data ← readJoined "cat" a.operands
      put (style.copy (isClosed data) (linesOf data) 1 false []).reverse.flatten
    else
      for path in inputPaths a.operands do
        match ← readInput path with
        | .ok data => put data
        | .error error =>
          programError "cat" (shownName path ++ octets (": " ++ error.message))
          setStatus 1

/-- Writes its input to the output and to files. -/
def tee : Program := fun _ words =>
  withArguments "tee" { plain := "aip", long := [("append", 'a')] } words fun a => do
    let data ← readAll 0
    put data
    for path in a.operands do
      match ← writeFile (if a.has 'a' then .append else .write) path data with
      | .ok () => pure ()
      | .error error =>
        programError "tee" (shownName path ++ octets (": " ++ error.message))
        setStatus 1

/-- Lines, each with its line feed if it has one. -/
def closedLines (data : Octets) : List Octets :=
  let lines := linesOf data
  if isClosed data then lines.map (· ++ ['\n'])
  else lines.dropLast.map (· ++ ['\n']) ++ lines.getLast?.toList

/-- Writes the lines of files, last first. -/
def tac : Program := fun _ words =>
  withArguments "tac" { plain := "br", valued := "s" } words fun a => do
    let inputs ← readInputs "tac" (fun path => octets "failed to open " ++ quotedName path ++
      octets " for reading") (inputPaths a.operands)
    for (_, data) in inputs do
      put (closedLines data).reverse.flatten

/-! ## Parts of files -/

/-- A number with an optional suffix that multiplies it. -/
def countOf? (text : Octets) : Option Nat :=
  let figures := text.takeWhile Char.isDigit
  let factor? : Option Nat := match nameOf (text.drop figures.length) with
    | "" => some 1
    | "b" => some 512
    | "k" | "K" | "KiB" => some 1024
    | "kB" | "KB" => some 1000
    | "m" | "M" | "MiB" => some (1024 * 1024)
    | "MB" => some 1000000
    | "G" => some (1024 * 1024 * 1024)
    | _ => none
  if figures.isEmpty then none else factor?.map (· * numberIn 10 figures)

/-- Which part of a file is meant. -/
inductive Extent where
  /-- so much at the beginning, or at the end -/
  | first (count : Nat)
  /-- all but so much at the other end -/
  | allBut (count : Nat)
  /-- all from a place on, counted from one -/
  | fromPlace (place : Nat)

/-- The extent that a value names. -/
def extentOf? (fromEnd : Bool) (text : Octets) : Option Extent :=
  match text with
  | '-' :: rest => (countOf? rest).map (if fromEnd then .first else .allBut)
  | '+' :: rest => (countOf? rest).map (if fromEnd then .fromPlace else .first)
  | rest => (countOf? rest).map .first

/-- Arguments with a number behind a dash as the first written like a number of lines. -/
def withOldCount : List Octets → List Octets
  | ('-' :: c :: rest) :: words =>
    if c.isDigit then
      let figures := (c :: rest).takeWhile Char.isDigit
      let letters := (c :: rest).drop figures.length
      let unit : Octets := if letters.contains 'c' then octets "-c" else octets "-n"
      unit :: figures :: words
    else ('-' :: c :: rest) :: words
  | words => words

/-- The unit of a part, and its extent; a message for a value that is no number. -/
def extentIn (a : Arguments) (fromEnd : Bool) : Except Octets (Char × Extent) :=
  match a.last? ['n', 'c'] with
  | none => .ok ('n', .first 10)
  | some unit =>
    let text := (a.value? unit).getD []
    match extentOf? fromEnd text with
    | some extent => .ok (unit, extent)
    | none =>
      let kind := if unit == 'n' then "lines: " else "bytes: "
      .error (octets ("invalid number of " ++ kind) ++ cited text)

/-- Copies lines of a descriptor as they come: how much is read. -/
def copyLines (number : Nat) : (count : Nat) → (taken : Nat) → Session Nat
  | 0, taken => return taken
  | count + 1, taken => do
    let (line, atEnd) ← readLine number
    put line
    if atEnd then return taken + line.length
    else copyLines number count (taken + line.length)

/-- Writes the beginning of what a descriptor is connected with. -/
def headOf (number : Nat) (unit : Char) (extent : Extent) : Session Unit := do
  match extent with
  | .first count | .fromPlace count =>
    if unit == 'c' then
      let (data, _) ← readUntil number (fun _ => false) count
      put data
    else
      let taken ← copyLines number count 0
      if 0 < taken then dropBlock number taken
  | .allBut count =>
    let data ← readAll number
    if unit == 'c' then put (data.take (data.length - count))
    else
      let lines := closedLines data
      put (lines.take (lines.length - count)).flatten

/-- The end of some data. -/
def tailOf (unit : Char) (extent : Extent) (data : Octets) : Octets :=
  if unit == 'c' then
    match extent with
    | .first count => data.drop (data.length - count)
    | .allBut count => data.drop count
    | .fromPlace place => data.drop (place - 1)
  else
    let lines := closedLines data
    match extent with
    | .first count => (lines.drop (lines.length - count)).flatten
    | .allBut count => (lines.drop count).flatten
    | .fromPlace place => (lines.drop (place - 1)).flatten

/-- Does something with each input, under a heading if there are several. -/
def withHeadings (name : String) (a : Arguments) (act : Nat → Session Unit) : Session Unit := do
  let paths := inputPaths a.operands
  let headed := (paths.length > 1 || a.has 'v') && !a.has 'q'
  let mut first := true
  for path in paths do
    let heading := if path == ['-'] then octets "standard input" else path
    let opened ← if path == ['-'] then pure (.ok none) else
      (·.map some) <$> openPath .read path
    match opened with
    | .error error =>
      programError name (octets "cannot open " ++ quotedName path ++
        octets (" for reading: " ++ error.message))
      setStatus 1
    | .ok opened =>
      if headed then
        put ((if first then [] else ['\n']) ++ octets "==> " ++ heading ++ octets " <==\n")
      first := false
      match opened with
      | none => act 0
      | some index =>
        match (← get).descriptions[index]? with
        | some { endpoint := .directory, .. } =>
          programError name (octets "error reading " ++ quotedName path ++
            octets (": " ++ PathError.isDirectory.message))
          setStatus 1
        | _ =>
          let saved := (← process).descriptors
          connect 63 index
          act 63
          modifyProcess ({ · with descriptors := saved })

/-- The options of `head` and `tail`. -/
def extentTable : OptionTable :=
  { plain := "qvfFz", valued := "ncs",
    long := [("lines", 'n'), ("bytes", 'c'), ("quiet", 'q'), ("silent", 'q'), ("verbose", 'v')] }

/-- Writes the beginning of files. -/
def head : Program := fun _ words =>
  withArguments "head" extentTable (withOldCount words) fun a => do
    match extentIn a false with
    | .error message => failWith "head" 1 message
    | .ok (unit, extent) => withHeadings "head" a fun number => headOf number unit extent

/-- Arguments of `tail` with a number behind a plus sign as the first written out. -/
def withOldPlace : List Octets → List Octets
  | ('+' :: c :: rest) :: words =>
    if c.isDigit then octets "-n" :: ('+' :: c :: rest) :: words
    else ('+' :: c :: rest) :: words
  | words => withOldCount words

/-- Writes the end of files. -/
def tail : Program := fun _ words =>
  withArguments "tail" extentTable (withOldPlace words) fun a => do
    match extentIn a true with
    | .error message => failWith "tail" 1 message
    | .ok (unit, extent) =>
      withHeadings "tail" a fun number => do put (tailOf unit extent (← readAll number))
      if a.has 'f' || a.has 'F' then stall

/-! ## Counting -/

/-- What is counted of some data. -/
structure Count where
  /-- line feeds -/
  lines : Nat
  /-- words -/
  words : Nat
  /-- characters -/
  characters : Nat
  /-- bytes -/
  bytes : Nat
  /-- the width of the widest line -/
  widest : Nat

/-- Whether a character stands between words. -/
def isWordGap (c : Char) : Bool :=
  isSpaceCharacter c || ['\xA0', '\u2007', '\u202F', '\u2060'].contains c

/-- The number of words: there is something that can be printed in each of them. -/
def wordCount (text : List Char) : Nat :=
  (text.splitOnP isWordGap).countP (·.any isPrinted)

/-- The width of the widest line with its tabulators. -/
def widestLine (text : List Char) : Nat :=
  let (widest, last) := text.foldl
    (fun (widest, column) c =>
      if c == '\t' then (widest, (column / 8 + 1) * 8)
      else if c == '\n' || c == '\r' || c == '\x0c' then (max widest column, 0)
      else (widest, column + widthOf c))
    (0, 0)
  max widest last

/-- Counts data. -/
def countData (data : Octets) : Count :=
  let text := characters data
  ⟨data.count '\n', wordCount text, text.countP (!isStray ·), data.length, widestLine text⟩

/-- Counts joined. -/
def Count.add (a b : Count) : Count :=
  ⟨a.lines + b.lines, a.words + b.words, a.characters + b.characters, a.bytes + b.bytes,
    max a.widest b.widest⟩

/-- Whether a path leads to a file, or the input is one. -/
def isRegular (path : Octets) : Session Bool := do
  if path == ['-'] then
    match ← description? 0 with
    | some (_, { endpoint := .file _, .. }) => return true
    | _ => return false
  else
    match ← find path with
    | .ok (_, .file _) => return true
    | _ => return false

/-- Writes how much there is in files. -/
def wc : Program := fun _ words =>
  withArguments "wc"
    { plain := "clmwL", long := [("lines", 'l'), ("words", 'w'), ("bytes", 'c'), ("chars", 'm'),
      ("max-line-length", 'L')] } words fun a => do
    let chosen (letter : Char) : Bool :=
      if a.options.isEmpty then letter != 'L' && letter != 'm' else a.has letter
    let select (count : Count) : List Nat :=
      (if chosen 'l' then [count.lines] else []) ++ (if chosen 'w' then [count.words] else []) ++
        (if chosen 'm' then [count.characters] else []) ++ (if chosen 'c' then [count.bytes] else []) ++
        (if chosen 'L' then [count.widest] else [])
    let paths := inputPaths a.operands
    let regular ← paths.mapM isRegular
    let mut found := #[]
    for path in paths do
      match ← readInput path with
      | .ok data => found := found.push (path, countData data)
      | .error error =>
        programError "wc" (shownName path ++ octets (": " ++ error.message))
        setStatus 1
        if error == .isDirectory then found := found.push (path, ⟨0, 0, 0, 0, 0⟩)
    let counts := found.toList
    let total := (counts.map (·.2)).foldl Count.add ⟨0, 0, 0, 0, 0⟩
    let least := if regular.all id then 1 else 7
    let width :=
      if paths.length == 1 && (select total).length == 1 then 1
      else max least (Text.digits total.bytes).length
    let row (count : Count) (label : Octets) : Octets :=
      joined ((select count).map fun n =>
        let figures := Text.digits n
        List.replicate (width - figures.length) ' ' ++ figures) ++ label ++ ['\n']
    for (path, count) in counts do
      put (row count (if a.operands.isEmpty then [] else ' ' :: path))
    if paths.length > 1 then put (row total (octets " total"))

/-! ## Numbered lines and endless ones -/

/-- Numbers the lines of its input. -/
def nl : Program := fun _ words =>
  withArguments "nl" { plain := "p", valued := "bwsnvihfld" } words fun a => do
    let data ← readJoined "nl" a.operands
    let number (letter : Char) (standard : Nat) : Nat :=
      ((a.value? letter).bind natOf?).getD standard
    let width := number 'w' 6
    let separator := (a.value? 's').getD ['\t']
    let all := a.value? 'b' == some ['a']
    let plain := a.value? 'b' == some ['n']
    let style := nameOf ((a.value? 'n').getD (octets "rn"))
    let step := number 'i' 1
    let label (n : Nat) : Octets :=
      let figures := Text.digits n
      let filling := width - figures.length
      match style with
      | "ln" => figures ++ List.replicate filling ' '
      | "rz" => List.replicate filling '0' ++ figures
      | _ => List.replicate filling ' ' ++ figures
    let (text, _) := (linesOf data).foldl
      (fun (done, n) line =>
        if (line.isEmpty && !all) || plain then
          ((List.replicate (width + separator.length) ' ' ++ line ++ ['\n']) :: done, n)
        else ((label n ++ separator ++ line ++ ['\n']) :: done, n + step))
      (([] : List Octets), number 'v' 1)
    put text.reverse.flatten

/-- Writes a line again and again. -/
def yes : Program := fun _ words => do
  let line := (if words.isEmpty then ['y'] else joined words) ++ ['\n']
  put (List.replicate (endlessBytes / line.length + 1) line).flatten
  stall

end LinksBinding.Shell
