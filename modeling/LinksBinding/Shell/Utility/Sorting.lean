import LinksBinding.Shell.Number
import LinksBinding.Shell.Utility.Columns

/-!
# Order of lines

Programs that bring lines into order, and programs that compare lines that are in order.
-/

namespace LinksBinding.Shell

open Session

/-! ## Comparing -/

/-- The order of octets, by the numbers of bytes. -/
def compareOctets : Octets → Octets → Ordering
  | [], [] => .eq
  | [], _ => .lt
  | _, [] => .gt
  | a :: as, b :: bs => if a < b then .lt else if b < a then .gt else compareOctets as bs

/-- The number at the start of a text, as a number and how many of its digits are places behind the
point. -/
def leadingNumber (text : Octets) : Int × Nat :=
  let body := text.dropWhile isSpace
  let (negative, rest) := match body with
    | '-' :: rest => (true, rest)
    | rest => (false, rest)
  let whole := rest.takeWhile Char.isDigit
  let fraction := match rest.drop whole.length with
    | '.' :: rest => rest.takeWhile Char.isDigit
    | _ => []
  let n : Int := numberIn 10 (whole ++ fraction)
  (if negative then -n else n, fraction.length)

/-- The order of two numbers with places behind the point. -/
def comparePlaced (a b : Int × Nat) : Ordering :=
  let places := max a.2 b.2
  let scaled (x : Int × Nat) : Int := x.1 * Nat.pow 10 (places - x.2)
  compare (scaled a) (scaled b)

/-- The order of two texts by the numbers that they start with. -/
def compareNumbers (a b : Octets) : Ordering := comparePlaced (leadingNumber a) (leadingNumber b)

/-- How much the letter behind a number multiplies it. -/
def sizeRank (text : Octets) : Nat :=
  match (text.dropWhile fun c => isSpace c || c.isDigit || c == '-' || c == '.').head? with
  | some 'K' | some 'k' => 1
  | some 'M' => 2
  | some 'G' => 3
  | some 'T' => 4
  | some 'P' => 5
  | _ => 0

/-- The order of two texts by the sizes that they start with. -/
def compareSizes (a b : Octets) : Ordering :=
  let sign (text : Octets) : Int := (leadingNumber text).1.sign
  let rank (text : Octets) : Int := sign text * (sizeRank text + 1 : Nat)
  (compare (rank a) (rank b)).then (compareNumbers a b)

/-- The order of two texts by the numbers with exponents that they start with; what is no number
comes first. -/
def compareFloats (a b : Octets) : Ordering :=
  match readFloat? a, readFloat? b with
  | none, none => .eq
  | none, some _ => .lt
  | some _, none => .gt
  | some (x, _), some (y, _) => if x < y then .lt else if y < x then .gt else .eq

/-- The place of a month in the year, 0 for what is none. -/
def monthNumber (text : Octets) : Nat :=
  let start := ((text.dropWhile isSpace).take 3).map Char.toUpper
  (["JAN", "FEB", "MAR", "APR", "MAY", "JUN", "JUL", "AUG", "SEP", "OCT", "NOV", "DEC"].idxOf?
    (nameOf start)).elim 0 (· + 1)

/-- The order of two texts in which runs of digits are numbers. -/
def compareVersions : (fuel : Nat) → Octets → Octets → Ordering
  | 0, _, _ | _, [], [] => .eq
  | _, [], _ => .lt
  | _, _, [] => .gt
  | fuel + 1, a :: as, b :: bs =>
    if a.isDigit && b.isDigit then
      let x := (a :: as).takeWhile Char.isDigit
      let y := (b :: bs).takeWhile Char.isDigit
      (compare (numberIn 10 x) (numberIn 10 y)).then
        (compareVersions fuel ((a :: as).drop x.length) ((b :: bs).drop y.length))
    else if a == b then compareVersions fuel as bs
    else
      let rank (c : Char) : Nat :=
        if c == '~' then 0 else if c.isDigit then 1 else if c.isAlpha then c.toNat + 256
        else c.toNat + 512
      compare (rank a) (rank b)

/-! ## Keys -/

/-- How keys are compared. -/
structure KeyOrder where
  /-- the letters of its options -/
  letters : Octets

/-- Whether an order has an option. -/
def KeyOrder.has (order : KeyOrder) (letter : Char) : Bool := order.letters.contains letter

/-- The order of two keys. -/
def KeyOrder.compare (order : KeyOrder) (a b : Octets) : Ordering :=
  let prepared (text : Octets) : Octets :=
    let text := if order.has 'd' then text.filter fun c => c.isAlphanum || isGap c else text
    let text := if order.has 'i' then text.filter (!isControl ·) else text
    if order.has 'f' then text.map Char.toUpper else text
  let found :=
    if order.has 'n' then compareNumbers a b
    else if order.has 'g' then compareFloats a b
    else if order.has 'h' then compareSizes a b
    else if order.has 'M' then Ord.compare (monthNumber a) (monthNumber b)
    else if order.has 'V' then compareVersions (a.length + b.length + 1) a b
    else compareOctets (prepared a) (prepared b)
  if order.has 'r' then found.swap else found

/-- A part of a line that lines are compared by. -/
structure SortKey where
  /-- the first field and character, counted from one -/
  start : Nat × Nat
  /-- the last field and character; character 0 is the end of the field -/
  ending : Option (Nat × Nat)
  /-- whether blanks at its start do not count -/
  skipStart : Bool
  /-- whether blanks in front of its end do not count -/
  skipEnd : Bool
  /-- how it is compared -/
  order : KeyOrder

/-- The letters of options that keys may have. -/
def keyLetters : Octets := octets "bdfghiMnRrV"

/-- A place in a line and the options behind it. -/
def keyPlace? (text : Octets) (standard : Nat) : Option ((Nat × Nat) × Octets) :=
  let field := text.takeWhile Char.isDigit
  let rest := text.drop field.length
  let (char, letters) := match rest with
    | '.' :: rest =>
      let figures := rest.takeWhile Char.isDigit
      (numberIn 10 figures, rest.drop figures.length)
    | rest => (standard, rest)
  if field.isEmpty || !letters.all keyLetters.contains then none
  else some ((numberIn 10 field, char), letters)

/-- The key that a text describes; options of its own take the place of the general ones. -/
def sortKey? (general : Octets) (text : Octets) : Option SortKey := do
  let (first, last) := match cutAtChar? ',' text with
    | some (first, last) => (first, some last)
    | none => (text, none)
  let (start, letters) ← keyPlace? first 1
  let (ending, endLetters) ← match last with
    | none => some (none, [])
    | some last => (keyPlace? last 0).map fun (place, letters) => (some place, letters)
  if start.1 == 0 then none
  let own := letters ++ endLetters
  let order := if own.isEmpty then general else own
  let plain := own.isEmpty && general.contains 'b'
  return ⟨start, ending, plain || letters.contains 'b', plain || endLetters.contains 'b',
    ⟨order⟩⟩

/-- The places of the fields of a line: where each starts and ends. -/
def fieldPlaces (separator : Option Char) (line : Octets) : List (Nat × Nat) :=
  match separator with
  | some c =>
    ((line.splitOn c).foldl
      (fun (places, start) piece =>
        ((start, start + piece.length) :: places, start + piece.length + 1))
      (([] : List (Nat × Nat)), 0)).1.reverse
  | none =>
    let (places, start, _) := (line.zipIdx).foldl
      (fun (places, start, text) (c, i) =>
        if isGap c && text then ((start, i) :: places, i, false)
        else (places, start, text || !isGap c))
      (([] : List (Nat × Nat)), 0, false)
    ((start, line.length) :: places).reverse

/-- The part of a line that a key names. -/
def SortKey.of (key : SortKey) (separator : Option Char) (line : Octets) : Octets :=
  let fields := fieldPlaces separator line
  let skip (blanks : Bool) (place : Nat) : Nat :=
    if blanks then place + ((line.drop place).takeWhile isGap).length else place
  let start := match fields[key.start.1 - 1]? with
    | some (first, last) => min (skip key.skipStart first + (key.start.2 - 1)) (max last first)
    | none => line.length
  let ending := match key.ending with
    | none => line.length
    | some (field, char) =>
      if field == 0 then line.length
      else match fields[field - 1]? with
        | some (first, last) =>
          if char == 0 then last else min (skip key.skipEnd first + char) last
        | none => line.length
  (line.drop start).take (ending - start)

/-- The order of two lines by keys, one after the other. -/
def compareKeys (separator : Option Char) : List SortKey → Octets → Octets → Ordering
  | [], _, _ => .eq
  | key :: rest, a, b =>
    (key.order.compare (key.of separator a) (key.of separator b)).then
      (compareKeys separator rest a b)

/-- Lines of which only the first of several equal ones is kept. -/
def firstOfEqual (same : Octets → Octets → Bool) : List Octets → List Octets → List Octets
  | done, [] => done.reverse
  | done, line :: rest =>
    match done with
    | last :: _ =>
      if same last line then firstOfEqual same done rest else firstOfEqual same (line :: done) rest
    | [] => firstOfEqual same [line] rest

/-- Sorts lines. -/
def sort : Program := fun _ words =>
  withArguments "sort"
    { refusal := 2, plain := "bdfghiMnRrVcCmsuz", valued := "kotST",
      long := [("numeric-sort", 'n'), ("reverse", 'r'), ("unique", 'u'), ("key", 'k'),
        ("field-separator", 't'), ("ignore-case", 'f'), ("ignore-leading-blanks", 'b'),
        ("dictionary-order", 'd'), ("general-numeric-sort", 'g'), ("human-numeric-sort", 'h'),
        ("version-sort", 'V'), ("stable", 's'), ("output", 'o'), ("check", 'c'), ("merge", 'm'),
        ("zero-terminated", 'z')] } words fun a => do
    let general := (a.options.map (·.1)).filter keyLetters.contains
    let separator := (a.value? 't').bind (·.head?)
    match (a.values 'k').mapM (sortKey? general) with
    | none => failWith "sort" 2 (octets "invalid field specification")
    | some keys =>
      let keys := if keys.isEmpty then
          [⟨(1, 1), none, general.contains 'b', false, ⟨general⟩⟩]
        else keys
      let byKeys := compareKeys separator keys
      let last (x y : Octets) : Ordering :=
        if a.has 's' || a.has 'u' then .eq
        else if general.contains 'r' then compareOctets y x
        else compareOctets x y
      let ordered (x y : Octets) : Ordering := (byKeys x y).then (last x y)
      let paths := inputPaths a.operands
      let inputs ← readInputs "sort" (octets "cannot read: " ++ shownName ·) paths
      if inputs.length < paths.length then setStatus 2
      else
        let closing := if a.has 'z' then '\x00' else '\n'
        let lines := inputs.flatMap fun (_, data) => recordsOf closing data
        if a.has 'c' || a.has 'C' then
          let wrong := ((lines.zip (lines.drop 1)).zipIdx 2).find? fun ((x, y), _) =>
            ordered x y == .gt || (a.has 'u' && byKeys x y == .eq)
          match wrong with
          | some ((_, line), place) =>
            if a.has 'c' then
              programError "sort" ((if paths == [['-']] then ['-'] else paths.headD []) ++
                octets (":" ++ toString place ++ ": disorder: ") ++ line)
            setStatus 1
          | none => pure ()
        else
          let sorted := lines.mergeSort fun x y => ordered x y != .gt
          let sorted := if a.has 'u' then firstOfEqual (fun x y => byKeys x y == .eq) [] sorted
            else sorted
          let text := if a.has 'z' then sorted.flatMap (· ++ ['\x00']) else unlines sorted
          match a.value? 'o' with
          | some path => do
            let _ ← writeFile .write path text
          | none => put text

/-! ## Lines in order -/

/-- Equal lines behind one another: the first of them, and how many there are. -/
def groupEqual (same : Octets → Octets → Bool) :
    List (Octets × Nat) → List Octets → List (Octets × Nat)
  | done, [] => done.reverse
  | (first, count) :: done, line :: rest =>
    if same first line then groupEqual same ((first, count + 1) :: done) rest
    else groupEqual same ((line, 1) :: (first, count) :: done) rest
  | [], line :: rest => groupEqual same [(line, 1)] rest

/-- A line without its first fields. -/
def dropFields : Nat → Octets → Octets
  | 0, line => line
  | n + 1, line => dropFields n ((line.dropWhile isGap).dropWhile (!isGap ·))

/-- Writes one of several equal lines behind one another. -/
def uniq : Program := fun _ words =>
  withArguments "uniq"
    { plain := "cdDiuz", valued := "fsw",
      long := [("count", 'c'), ("repeated", 'd'), ("unique", 'u'), ("ignore-case", 'i'),
        ("skip-fields", 'f'), ("skip-chars", 's'), ("check-chars", 'w')] } words fun a => do
    let number? (letter : Char) : Option Nat := (a.value? letter).bind natOf?
    let key (line : Octets) : Octets :=
      let line := (dropFields ((number? 'f').getD 0) line).drop ((number? 's').getD 0)
      let line := match number? 'w' with
        | some width => line.take width
        | none => line
      if a.has 'i' then line.map Char.toUpper else line
    let data ← readJoined "uniq" (a.operands.take 1)
    let groups := groupEqual (fun x y => key x == key y) [] (linesOf data)
    let groups := groups.filter fun (_, count) =>
      (!(a.has 'd' || a.has 'D') || 1 < count) && (!a.has 'u' || count == 1)
    let label (count : Nat) : Octets :=
      let figures := Text.digits count
      List.replicate (7 - figures.length) ' ' ++ figures ++ [' ']
    let text := groups.flatMap fun (line, count) =>
      if a.has 'c' then label count ++ line ++ ['\n']
      else (List.replicate (if a.has 'D' then count else 1) (line ++ ['\n'])).flatten
    match a.operands.drop 1 with
    | path :: _ => do
      let _ ← writeFile .write path text
    | [] => put text

/-- Lines of two lists in order, each with the column that it belongs to. -/
def mergeColumns : (fuel : Nat) → List Octets → List Octets → List (Nat × Octets)
  | 0, _, _ => []
  | _ + 1, [], right => right.map ((2, ·))
  | _ + 1, left, [] => left.map ((1, ·))
  | fuel + 1, a :: left, b :: right =>
    match compareOctets a b with
    | .lt => (1, a) :: mergeColumns fuel left (b :: right)
    | .gt => (2, b) :: mergeColumns fuel (a :: left) right
    | .eq => (3, a) :: mergeColumns fuel left right

/-- Writes the lines that are in one of two files and those in both, in columns. -/
def comm : Program := fun _ words =>
  withArguments "comm" { plain := "123z", valued := "O", long := [("output-delimiter", 'O')] } words
    fun a => do
      match a.operands with
      | [first, second] =>
        let inputs ← readInputs "comm" shownName [first, second]
        match inputs with
        | [(_, left), (_, right)] =>
          let left := linesOf left
          let right := linesOf right
          let delimiter := (a.value? 'O').getD ['\t']
          let shown (column : Nat) : Bool := !a.has (Char.ofNat ('0'.toNat + column))
          let indent (column : Nat) : Octets :=
            ((List.range (column - 1)).filter fun i => shown (i + 1)).flatMap fun _ => delimiter
          for (column, line) in mergeColumns (left.length + right.length + 1) left right do
            if shown column then put (indent column ++ line ++ ['\n'])
        | _ => setStatus 1
      | [] => failUsage "comm" 1 (octets "missing operand")
      | first :: _ => failUsage "comm" 1 (octets "missing operand after " ++ cited first)

/-- Joins lines of two files that have a field in common. -/
def join : Program := fun _ words =>
  withArguments "join" { plain := "i", valued := "taj12ove" } words fun a => do
    match a.operands with
    | [first, second] =>
      let inputs ← readInputs "join" shownName [first, second]
      match inputs with
      | [(_, left), (_, right)] =>
        let separator := (a.value? 't').bind (·.head?)
        let fields (line : Octets) : List Octets :=
          match separator with
          | some c => line.splitOn c
          | none => (line.splitOnP isGap).filter (!·.isEmpty)
        let between := separator.toList
        let between := if between.isEmpty then [' '] else between
        let place (letter : Char) : Nat :=
          (((a.value? letter <|> a.value? 'j').bind natOf?).getD 1) - 1
        let rows (data : Octets) (letter : Char) : List (Octets × List Octets) :=
          (linesOf data).map fun line =>
            let pieces := fields line
            (pieces.getD (place letter) [], pieces.eraseIdx (place letter))
        let left := rows left '1'
        let right := rows right '2'
        let unpaired (letter : String) : Bool :=
          (a.values 'a' ++ a.values 'v').contains letter.toList
        let onlyUnpaired := a.has 'v'
        for (key, rest) in left do
          let partners := right.filter (·.1 == key)
          if partners.isEmpty then
            if unpaired "1" then put (joinWith between (key :: rest) ++ ['\n'])
          else if !onlyUnpaired then
            for (_, other) in partners do
              put (joinWith between (key :: rest ++ other) ++ ['\n'])
        if unpaired "2" then
          for (key, rest) in right do
            if !left.any (·.1 == key) then put (joinWith between (key :: rest) ++ ['\n'])
      | _ => setStatus 1
    | _ => failUsage "join" 1 (octets "missing operand")

end LinksBinding.Shell
