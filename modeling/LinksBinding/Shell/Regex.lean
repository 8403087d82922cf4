import LinksBinding.Shell.Character
import LinksBinding.Shell.Pattern

/-!
# Regular expressions

The basic and the extended form of regular expressions over characters, with groups that can be
referred to. A match is the leftmost one, and of those that start there the longest.

The matcher tries the ways in which an expression can match one after the other, hands the place
behind each to a continuation, and keeps the best end that the continuation reports. Steps are
counted, so that a hopeless search ends.
-/

namespace LinksBinding.Shell

open Text

/-- A place of a text that an expression can ask for. -/
inductive Anchor where
  /-- the start of the text, or of a line -/
  | start
  /-- the end of the text, or of a line -/
  | ending
  /-- the start of the whole text -/
  | textStart
  /-- the end of the whole text -/
  | textEnd
  /-- the start of a word -/
  | wordStart
  /-- the end of a word -/
  | wordEnd
  /-- the start or the end of a word -/
  | boundary
  /-- neither the start nor the end of a word -/
  | inside
  deriving DecidableEq, Repr

/-- A regular expression. -/
inductive Regex where
  /-- the empty text -/
  | empty
  /-- a character of a set -/
  | set (set : CharSet)
  /-- the empty text at a place -/
  | anchor (anchor : Anchor)
  /-- an expression whose match is remembered -/
  | group (number : Nat) (body : Regex)
  /-- what a group has matched -/
  | reference (number : Nat)
  /-- an expression behind another -/
  | append (first second : Regex)
  /-- one of two expressions -/
  | either (first second : Regex)
  /-- an expression several times -/
  | many (body : Regex) (least : Nat) (most : Option Nat)

/-- Nothing is an expression. -/
instance : Inhabited Regex := ⟨.empty⟩

/-- Why an expression cannot be read. -/
inductive RegexError where
  /-- a bracket of a set that is not closed -/
  | openSet
  /-- a bracket of a set with nothing behind it -/
  | nothing
  /-- a range that ends in front of its start, or that has no start -/
  | badRange
  /-- a class that is not known -/
  | badClass
  /-- an element of a set that is no character -/
  | badElement
  /-- a class whose brackets are those of the set -/
  | misplacedClass
  /-- a group that is not closed -/
  | openGroup
  /-- the end of a group that is not open -/
  | closedGroup
  /-- an interval that is not closed -/
  | openInterval
  /-- an interval without numbers, or with its numbers in the wrong order -/
  | badInterval
  /-- an interval with a number that is too great -/
  | tooBig
  /-- a repetition of nothing -/
  | nothingRepeated
  /-- a backslash at the end -/
  | trailingBackslash
  /-- a reference to a group that is not there -/
  | badReference
  deriving DecidableEq, Repr

/-- The wording of an error in an expression. -/
def RegexError.message : RegexError → String
  | .openSet => "Unmatched [, [^, [:, [., or [="
  | .nothing => "Invalid regular expression"
  | .badRange => "Invalid range end"
  | .badClass => "Invalid character class name"
  | .badElement => "Invalid collation character"
  | .misplacedClass => "character class syntax is [[:space:]], not [:space:]"
  | .openGroup => "Unmatched ( or \\("
  | .closedGroup => "Unmatched ) or \\)"
  | .openInterval => "Unmatched \\\x7b"
  | .badInterval => "Invalid content of \\\x7b\\\x7d"
  | .tooBig => "Regular expression too big"
  | .nothingRepeated => "Invalid preceding regular expression"
  | .trailingBackslash => "Trailing backslash"
  | .badReference => "Invalid back reference"

/-- How expressions are written. -/
structure RegexForm where
  /-- whether groups, choices and repetitions are written without backslashes -/
  extended : Bool
  /-- whether it is a mistake to repeat nothing, to leave an interval open or, in the basic form, to
  repeat what is repeated -/
  strict : Bool := false
  /-- whether sets are watched for mistakes that can still be read -/
  watched : Bool := true
  /-- whether letters stand for themselves only or for both cases -/
  anyCase : Bool := false
  /-- whether lines inside a text have a start and an end -/
  lines : Bool := false

/-! ## Reading -/

/-- A set of one character. -/
def CharSet.single (c : Char) : CharSet := { negated := false, ranges := [(c, c)] }

/-- The set of all characters. -/
def CharSet.all : CharSet := { negated := true }

/-- The set of the characters of words, or of all others. -/
def CharSet.words (negated : Bool) : CharSet :=
  { negated, ranges := [('_', '_')], classes := ["alnum"] }

/-- The set of white space, or of all else. -/
def CharSet.spaces (negated : Bool) : CharSet := { negated, classes := ["space"] }

/-- An element of a set. -/
inductive SetElement where
  /-- a character, which a range can start with -/
  | single (c : Char)
  /-- a character with those that count as the same -/
  | same (c : Char)
  /-- a class -/
  | named (name : String)

/-- The name of an element up to the sign and the bracket that close it, and what follows. -/
def elementName? (sign : Char) : List Char → Option (List Char × List Char)
  | [] => none
  | c :: rest =>
    if c == sign && rest.head? == some ']' then some ([], rest.drop 1)
    else (elementName? sign rest).map fun (name, behind) => (c :: name, behind)

/-- Reads an element of a set. -/
def readElement (text : List Char) : Except RegexError (SetElement × List Char) :=
  let named (sign : Char) (rest : List Char) : Except RegexError (List Char × List Char) :=
    match elementName? sign rest with
    | some found => .ok found
    | none => .error .openSet
  let character (found : List Char) : Except RegexError Char :=
    match found with
    | [c] => if c < '\x80' then .ok c else .error .badElement
    | _ => .error .badElement
  match text with
  | '[' :: ':' :: rest => do
    let (name, behind) ← named ':' rest
    if (classMember? (nameOf name) 'a').isNone then throw .badClass
    return (.named (nameOf name), behind)
  | '[' :: '=' :: rest => do
    let (name, behind) ← named '=' rest
    return (.same (← character name), behind)
  | '[' :: '.' :: rest => do
    let (name, behind) ← named '.' rest
    return (.single (← character name), behind)
  | c :: rest => .ok (.single c, rest)
  | [] => .error .openSet

/-- A set with one more range. -/
def CharSet.withRange (set : CharSet) (low high : Char) : CharSet :=
  { set with ranges := (low, high) :: set.ranges }

/-- The end of a range, and what follows. -/
def readRangeEnd (form : RegexForm) (low : Char) (text : List Char) :
    Except RegexError (Char × List Char) := do
  match ← readElement text with
  | (.single high, rest) =>
    if '\x80' ≤ low || '\x80' ≤ high then throw .badElement
    else if high < low && form.watched then throw .badRange
    else return (high, rest)
  | _ => throw .badRange

/-- Reads the elements of a set up to the bracket that closes it. A bracket that comes first closes
nothing. -/
def readElements (form : RegexForm) : (fuel : Nat) → (first : Bool) → CharSet → List Char →
    Except RegexError (CharSet × List Char)
  | 0, _, _, _ | _, _, _, [] => .error .openSet
  | fuel + 1, first, found, c :: text => do
    if c == ']' && !first then return (found, text)
    if c == '-' && !first && text.head? != some ']' then throw .badRange
    match ← readElement (c :: text) with
    | (.named name, rest) =>
      readElements form fuel false { found with classes := name :: found.classes } rest
    | (.same d, rest) => readElements form fuel false (found.withRange d d) rest
    | (.single d, rest) =>
      match rest with
      | '-' :: behind =>
        if behind.isEmpty then throw .openSet
        else if behind.head? == some ']' then
          readElements form fuel false (found.withRange d d) rest
        else
          let (high, behind) ← readRangeEnd form d behind
          readElements form fuel false (found.withRange d high) behind
      | rest => readElements form fuel false (found.withRange d d) rest

/-- Whether the text of a set looks like that of a class. -/
def looksLikeClass (found : CharSet) (text : List Char) : Bool :=
  text.head? == some ':' && text.getLast? == some ':' && text.any (· != ':') &&
    found.classes.isEmpty && found.ranges.all fun (low, high) => low == high

/-- Reads a set whose bracket is read. -/
def readBracket (form : RegexForm) (text : List Char) :
    Except RegexError (CharSet × List Char) := do
  let (negated, text) := match text with
    | '^' :: rest => (true, rest)
    | text => (false, text)
  if text.isEmpty && (negated || !form.watched) then throw .nothing
  let (found, rest) ← readElements form (text.length + 1) true { negated } text
  let inside := text.take (text.length - rest.length - 1)
  if form.watched && looksLikeClass found inside then throw .misplacedClass
  return (found, rest)

/-- What is read of an expression. -/
structure RegexReading where
  /-- the text that is left -/
  rest : List Char
  /-- the number of groups so far -/
  groups : Nat := 0
  /-- the groups that can be referred to -/
  closed : List Nat := []
  /-- whether nothing is read at the start of an expression or group yet, but for places -/
  fresh : Bool := true
  /-- how many groups are open -/
  level : Nat := 0
  /-- repetitions of nothing that are passed over, last first -/
  ignored : List String := []

/-- Reads a part of an expression. -/
abbrev RegexReader := StateT RegexReading (Except RegexError)

/-- The greatest number of an interval. -/
def greatestRepetition : Nat := 32767

/-- The numbers of an interval whose brace is read, and what follows; `none` if it is not one. -/
def interval? (form : RegexForm) (text : List Char) :
    Option (Option Nat × Option Nat × List Char) :=
  let number (text : List Char) : Option Nat × List Char :=
    let digits := text.takeWhile Char.isDigit
    (if digits.isEmpty then none else some (numberIn 10 digits), text.drop digits.length)
  let closed (rest : List Char) : Option (List Char) :=
    match form.extended, rest with
    | true, '\x7d' :: rest | false, '\\' :: '\x7d' :: rest => some rest
    | _, _ => none
  match number text with
  | (least, ',' :: rest) =>
    let (most, rest) := number rest
    (closed rest).map fun rest => (some (least.getD 0), most, rest)
  | (least, rest) => (closed rest).map fun rest => (least, least, rest)

/-- Why an interval whose brace is read is none: it is not closed, or it holds something else. -/
def intervalError (form : RegexForm) (text : List Char) : RegexError :=
  let behind := text.dropWhile fun c => c != '\x7d' && c != ','
  let behind := match behind with
    | ',' :: rest => rest.dropWhile fun c => c != '\x7d'
    | behind => behind
  let isEnd := if form.extended then behind.isEmpty else !behind.contains '\x7d'
  if isEnd then .openInterval else .badInterval

/-- An expression that is repeated as an interval says. -/
def repeatedBy (e : Regex) (least most : Option Nat) : Except RegexError Regex :=
  match least with
  | none => .error .badInterval
  | some least =>
    if most.any (· < least) then .error .badInterval
    else if greatestRepetition < most.getD least then .error .tooBig
    else .ok (.many e least most)

/-- Reads the repetitions behind an expression; `again` tells whether there are some in front. -/
def readRepetitions (form : RegexForm) : (fuel : Nat) → (again : Bool) → Regex → RegexReader Regex
  | 0, _, e => return e
  | fuel + 1, again, e => do
    let refused : Bool := again && form.strict && !form.extended
    let repeated (rest : List Char) (least : Nat) (most : Option Nat) : RegexReader Regex := do
      modify ({ · with rest })
      readRepetitions form fuel true (.many e least most)
    let byInterval (rest : List Char) : RegexReader Regex := do
      match interval? form rest with
      | some (least, most, rest) =>
        modify ({ · with rest })
        readRepetitions form fuel true (← repeatedBy e least most)
      | none =>
        if form.extended && !form.strict then return e else throw (intervalError form rest)
    match form.extended, (← get).rest with
    | _, '*' :: rest => if refused then throw .nothingRepeated else repeated rest 0 none
    | true, '+' :: rest | false, '\\' :: '+' :: rest => repeated rest 1 none
    | true, '?' :: rest | false, '\\' :: '?' :: rest => repeated rest 0 (some 1)
    | true, '\x7b' :: rest => byInterval rest
    | false, '\\' :: '\x7b' :: rest =>
      if refused then throw .nothingRepeated else byInterval rest
    | _, _ => return e

mutual
/-- Reads the expressions between which one can choose. -/
def readEitherRegex (form : RegexForm) (fuel : Nat) : RegexReader Regex :=
  match fuel with
  | 0 => return .empty
  | fuel + 1 => do
    modify ({ · with fresh := true })
    let before := (← get).closed
    let first ← readAppended form fuel .empty
    match form.extended, (← get).rest with
    | true, '|' :: rest | false, '\\' :: '|' :: rest =>
      let closed := (← get).closed
      modify ({ · with rest, closed := before })
      let second ← readEitherRegex form fuel
      modify fun s => { s with closed := closed ++ s.closed }
      return .either first second
    | _, _ => return first

/-- Reads expressions that stand behind one another. -/
def readAppended (form : RegexForm) (fuel : Nat) (before : Regex) : RegexReader Regex :=
  match fuel with
  | 0 => return before
  | fuel + 1 => do
    let s ← get
    let add (e : Regex) : RegexReader Regex :=
      readAppended form fuel (match before with
        | .empty => e
        | before => .append before e)
    let atom (e : Regex) : RegexReader Regex := do
      modify ({ · with fresh := false })
      add (← readRepetitions form fuel false e)
    let single (c : Char) (rest : List Char) : RegexReader Regex := do
      set { s with rest }
      atom (.set (.single c))
    let place (anchor : Anchor) (rest : List Char) : RegexReader Regex := do
      set { s with rest, fresh := true }
      add (.anchor anchor)
    let ignore (sign : String) (rest : List Char) : RegexReader Regex := do
      if form.strict then throw .nothingRepeated
      set { s with rest, ignored := sign :: s.ignored }
      readAppended form fuel before
    let readGroup (rest : List Char) : RegexReader Regex := do
      let number := s.groups + 1
      set { s with rest, groups := number, level := s.level + 1 }
      let body ← readEitherRegex form fuel
      match form.extended, (← get).rest with
      | true, ')' :: rest | false, '\\' :: ')' :: rest =>
        modify fun now => { now with rest, level := s.level, closed := number :: now.closed }
        atom (.group number body)
      | _, _ => throw .openGroup
    match form.extended, s.rest with
    | _, [] => return before
    | true, '|' :: _ | false, '\\' :: '|' :: _ => return before
    | true, ')' :: rest =>
      if s.level != 0 then return before
      else if form.strict then throw .closedGroup
      else single ')' rest
    | false, '\\' :: ')' :: _ => if s.level == 0 then throw .closedGroup else return before
    | true, '(' :: rest | false, '\\' :: '(' :: rest => readGroup rest
    | true, '*' :: rest => ignore "*" rest
    | true, '+' :: rest => ignore "+" rest
    | true, '?' :: rest => ignore "?" rest
    | true, '\x7b' :: rest =>
      if !s.fresh then single '\x7b' rest
      else
        match interval? form rest with
        | some (_, _, rest) => ignore "\x7b...\x7d" rest
        | none => if form.strict then throw .nothingRepeated else single '\x7b' rest
    | false, '\\' :: '\x7b' :: rest =>
      if form.strict then throw .nothingRepeated else single '\x7b' rest
    | _, '.' :: rest =>
      set { s with rest }
      atom (.set .all)
    | _, '[' :: rest =>
      let (found, rest) ← readBracket form rest
      set { s with rest }
      atom (.set found)
    | true, '^' :: rest => place .start rest
    | false, '^' :: rest => if s.fresh then place .start rest else single '^' rest
    | true, '$' :: rest => place .ending rest
    | false, '$' :: rest =>
      match rest with
      | [] | '\\' :: ')' :: _ | '\\' :: '|' :: _ => place .ending rest
      | rest => single '$' rest
    | _, '\\' :: c :: rest =>
      match c with
      | 'w' => set { s with rest }; atom (.set (.words false))
      | 'W' => set { s with rest }; atom (.set (.words true))
      | 's' => set { s with rest }; atom (.set (.spaces false))
      | 'S' => set { s with rest }; atom (.set (.spaces true))
      | '<' => place .wordStart rest
      | '>' => place .wordEnd rest
      | 'b' => place .boundary rest
      | 'B' => place .inside rest
      | '\x60' => place .textStart rest
      | '\'' => place .textEnd rest
      | c =>
        if '1' ≤ c && c ≤ '9' then
          let number := c.toNat - '0'.toNat
          if !s.closed.contains number then throw .badReference
          else
            set { s with rest }
            atom (.reference number)
        else single c rest
    | _, ['\\'] => throw .trailingBackslash
    | _, c :: rest => single c rest
end

/-- Reads an expression; also returns repetitions of nothing that are passed over. -/
def readWatchedRegex (form : RegexForm) (text : Octets) :
    Except RegexError (Regex × List String) := do
  let text := characters text
  let (e, s) ← (readEitherRegex form (4 * text.length + 16)).run { rest := text }
  if s.rest.isEmpty then return (e, s.ignored.reverse) else throw .closedGroup

/-- Reads an expression. -/
def readRegex (form : RegexForm) (text : Octets) : Except RegexError Regex :=
  (readWatchedRegex form text).map (·.1)

/-! ## Matching -/

/-- What the groups have matched: first and last place. -/
abbrev Groups := List (Nat × Nat × Nat)

/-- The best match so far, and the number of steps that are made. -/
structure Search where
  /-- the end of the match and its groups -/
  found : Option (Nat × Groups) := none
  /-- steps so far -/
  steps : Nat := 0

/-- The most steps of a search. -/
def maxSteps : Nat := 200000

/-- A text that is searched. -/
structure Subject where
  /-- its characters -/
  chars : Array Char
  /-- how the expression is written -/
  form : RegexForm
  /-- whether the text starts at the start of a line -/
  atStart : Bool := true

/-- The text that octets are, to be searched. -/
def Subject.of (form : RegexForm) (text : Octets) : Subject :=
  { chars := (characters text).toArray, form }

namespace Subject

/-- Whether there is a character of a word at a place. -/
def isWord (subject : Subject) (place : Nat) : Bool :=
  (subject.chars[place]?).any isWordPart

/-- Whether there is one in front of a place. -/
def isWordBefore (subject : Subject) (place : Nat) : Bool :=
  place != 0 && subject.isWord (place - 1)

/-- Whether a place is as asked for. -/
def satisfies (subject : Subject) (place : Nat) : Anchor → Bool
  | .start =>
    (place == 0 && subject.atStart) ||
      (subject.form.lines && place != 0 && subject.chars[place - 1]? == some '\n')
  | .ending =>
    place == subject.chars.size || (subject.form.lines && subject.chars[place]? == some '\n')
  | .textStart => place == 0
  | .textEnd => place == subject.chars.size
  | .wordStart => !subject.isWordBefore place && subject.isWord place
  | .wordEnd => subject.isWordBefore place && !subject.isWord place
  | .boundary => subject.isWordBefore place != subject.isWord place
  | .inside => subject.isWordBefore place == subject.isWord place

/-- Whether a set holds a character. A stray is in no set that does not list it. -/
def admits (subject : Subject) (set : CharSet) (c : Char) : Bool :=
  if isStray c then !set.negated && set.containsBy isInClass c
  else if !subject.form.anyCase then set.containsBy isInClass c
  else
    let small := set.containsBy isInClass (smallForm c)
    let capital := set.containsBy isInClass (capitalForm c)
    if set.negated then small && capital else small || capital

/-- Whether the character at a place is in a set. -/
def fits (subject : Subject) (set : CharSet) (place : Nat) : Bool :=
  (subject.chars[place]?).any (subject.admits set)

/-- How many characters from a place on are in a set, up to a limit. -/
def runLength (subject : Subject) (set : CharSet) (place : Nat) : (limit : Nat) → Nat → Nat
  | 0, count => count
  | limit + 1, count =>
    if subject.fits set (place + count) then subject.runLength set place limit (count + 1)
    else count

/-- Whether two pieces of the text are equal. -/
def samePieces (subject : Subject) (first second : Nat) : (length : Nat) → Bool
  | 0 => true
  | length + 1 =>
    let a := subject.chars[first + length]?
    let b := subject.chars[second + length]?
    (if subject.form.anyCase then a.map smallForm == b.map smallForm else a == b) &&
      a.isSome && subject.samePieces first second length

end Subject

namespace Search

/-- Whether nothing better can be found. -/
def isOver (search : Search) (subject : Subject) : Bool :=
  search.found.any (·.1 == subject.chars.size) || maxSteps < search.steps

/-- Takes a match if it is longer than the best one. -/
def offer (search : Search) (place : Nat) (groups : Groups) : Search :=
  match search.found with
  | some (best, _) =>
    if best < place then { search with found := some (place, groups) } else search
  | none => { search with found := some (place, groups) }

end Search

/-- Tries continuations one after the other, from the greatest number down to the least. -/
def tryCounts (subject : Subject) (least : Nat) (next : Nat → Search → Search) :
    (more : Nat) → Search → Search
  | 0, search => next least search
  | more + 1, search =>
    let search := next (least + more + 1) search
    if search.isOver subject then search else tryCounts subject least next more search

/-- Tries the ways in which an expression matches from a place on, with what comes behind. -/
def Regex.explore (subject : Subject) (fuel : Nat) (e : Regex) (place : Nat) (groups : Groups)
    (search : Search) (next : Nat → Groups → Search → Search) : Search :=
  match fuel with
  | 0 => search
  | fuel + 1 =>
    let search := { search with steps := search.steps + 1 }
    if search.isOver subject then search
    else match e with
      | .empty => next place groups search
      | .set found => if subject.fits found place then next (place + 1) groups search else search
      | .anchor asked => if subject.satisfies place asked then next place groups search else search
      | .group number body =>
        explore subject fuel body place groups search fun ending groups search =>
          next ending ((number, place, ending) :: groups) search
      | .reference number =>
        match groups.lookup number with
        | some (first, last) =>
          if subject.samePieces first place (last - first) then
            next (place + (last - first)) groups search
          else search
        | none => search
      | .append first second =>
        explore subject fuel first place groups search fun place groups search =>
          explore subject fuel second place groups search next
      | .either first second =>
        let search := explore subject fuel first place groups search next
        if search.isOver subject then search
        else explore subject fuel second place groups search next
      | .many (.set found) least most =>
        let limit := (most.getD subject.chars.size).min (subject.chars.size - place)
        let count := subject.runLength found place limit 0
        if count < least then search
        else
          tryCounts subject least (fun n search => next (place + n) groups search) (count - least)
            search
      | .many body least most =>
        let search :=
          if most == some 0 then search
          else
            explore subject fuel body place groups search fun ending groups search =>
              if ending == place then if least == 0 then search else next ending groups search
              else
                explore subject fuel (.many body (least - 1) (most.map (· - 1))) ending groups
                  search next
        if search.isOver subject || least != 0 then search else next place groups search

/-- The end of the longest match from a place on, and its groups. -/
def Regex.matchAt? (subject : Subject) (e : Regex) (place : Nat) : Option (Nat × Groups) :=
  (e.explore subject (100 * (subject.chars.size + 100)) place [] {}
    fun ending groups search => search.offer ending groups).found

/-- A match: where it starts and ends, and its groups. -/
structure Match where
  /-- its first place -/
  start : Nat
  /-- the place behind it -/
  ending : Nat
  /-- its groups -/
  groups : Groups

/-- The first match from a place on, within some number of places. -/
def Regex.findFrom? (subject : Subject) (e : Regex) : (count : Nat) → Nat → Option Match
  | 0, _ => none
  | count + 1, place =>
    match e.matchAt? subject place with
    | some (ending, groups) => some ⟨place, ending, groups⟩
    | none => e.findFrom? subject count (place + 1)

/-- The first match from a place on. -/
def Regex.find? (subject : Subject) (e : Regex) (place : Nat) : Option Match :=
  e.findFrom? subject (subject.chars.size + 1 - place) place

/-- Whether an expression matches a part of a text. -/
def Regex.occursIn (form : RegexForm) (e : Regex) (text : Octets) : Bool :=
  (e.find? (.of form text) 0).isSome

namespace Match

/-- The piece of a text between two places. -/
def piece (chars : Array Char) (first last : Nat) : Octets :=
  ofCharacters (chars.extract first last).toList

/-- What a group has matched; group 0 is the whole match. -/
def text (found : Match) (chars : Array Char) (group : Nat) : Octets :=
  if group == 0 then piece chars found.start found.ending
  else match found.groups.lookup group with
    | some (first, last) => piece chars first last
    | none => []

end Match

end LinksBinding.Shell
