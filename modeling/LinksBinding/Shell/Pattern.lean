import LinksBinding.Shell.Octets

/-!
# Patterns of the command language

The patterns that file names, the words of a selection and the ends of values are matched with. A
star stands for any text, a question mark for one character, and brackets for one of several
characters; a character that is quoted stands for itself.
-/

namespace LinksBinding.Shell

/-- Characters in brackets. -/
structure CharSet where
  /-- whether the characters are those that are not listed -/
  negated : Bool
  /-- the first and the last character of each range -/
  ranges : List (Char × Char) := []
  /-- the names of classes -/
  classes : List String := []

/-- Whether a set holds a character, if it is known which characters belong to the classes. -/
def CharSet.containsBy (isIn : String → Char → Bool) (set : CharSet) (c : Char) : Bool :=
  ((set.ranges.any fun (low, high) => low ≤ c && c ≤ high) || set.classes.any (isIn · c)) !=
    set.negated

/-- Whether a set holds a character. -/
def CharSet.contains (set : CharSet) (c : Char) : Bool :=
  set.containsBy (fun name c => (classMember? name c).getD false) c

/-- A step of a pattern. -/
inductive Glob where
  /-- this character -/
  | one (c : Char)
  /-- any character -/
  | any
  /-- any text -/
  | many
  /-- a character of a set -/
  | set (set : CharSet)

/-- A character, and whether it is quoted. -/
abbrev Marked := Char × Bool

/-- The name of a class up to the sign that closes it, and what follows. -/
def className? (text : List Marked) : Option (String × List Marked) :=
  let name := text.takeWhile fun (c, _) => c.isAlpha
  match text.drop name.length with
  | (':', _) :: (']', _) :: rest => some (nameOf (name.map (·.1)), rest)
  | _ => none

/-- Reads the inside of brackets up to the one that closes them. A bracket that comes first closes
nothing. -/
def readSet? : (fuel : Nat) → (first : Bool) → CharSet → List Marked →
    Option (CharSet × List Marked)
  | 0, _, _, _ | _, _, _, [] => none
  | fuel + 1, first, set, (c, quoted) :: rest =>
    let single (c : Char) (rest : List Marked) : Option (CharSet × List Marked) :=
      readSet? fuel false { set with ranges := (c, c) :: set.ranges } rest
    if c == ']' && !quoted && !first then some (set, rest)
    else if c == '[' && !quoted && rest.head? == some (':', false) then
      match className? (rest.drop 1) with
      | some (name, rest) =>
        readSet? fuel false { set with classes := name :: set.classes } rest
      | none => single c rest
    else if c == '\\' && !quoted then
      match rest with
      | (d, _) :: rest => single d rest
      | [] => none
    else match rest with
      | ('-', false) :: (high, highQuoted) :: behind =>
        if high == ']' && !highQuoted then single c rest
        else readSet? fuel false { set with ranges := (c, high) :: set.ranges } behind
      | _ => single c rest

/-- The set in brackets whose opening is read. -/
def bracketSet? (text : List Marked) : Option (CharSet × List Marked) :=
  match text with
  | ('!', false) :: rest | ('^', false) :: rest =>
    readSet? (rest.length + 1) true { negated := true } rest
  | _ => readSet? (text.length + 1) true { negated := false } text

/-- The pattern that characters are. -/
def readGlob : (fuel : Nat) → List Marked → List Glob
  | 0, _ | _, [] => []
  | fuel + 1, (c, quoted) :: rest =>
    if quoted then .one c :: readGlob fuel rest
    else match c with
      | '*' => .many :: readGlob fuel rest
      | '?' => .any :: readGlob fuel rest
      | '[' =>
        match bracketSet? rest with
        | some (set, rest) => .set set :: readGlob fuel rest
        | none => .one '[' :: readGlob fuel rest
      | '\\' =>
        match rest with
        | (d, _) :: rest => .one d :: readGlob fuel rest
        | [] => [.one '\\']
      | c => .one c :: readGlob fuel rest

/-- The pattern of characters. -/
def globOf (text : List Marked) : List Glob := readGlob (text.length + 1) text

/-- What may be left of a pattern in front of a character: a star can stand for nothing. -/
def openings : List Glob → List (List Glob)
  | .many :: rest => (.many :: rest) :: openings rest
  | pattern => [pattern]

/-- What may be left of a pattern behind a character. -/
def leftBehind (c : Char) : List Glob → List (List Glob)
  | [] => []
  | .one d :: rest => if c == d then openings rest else []
  | .any :: rest => openings rest
  | .set set :: rest => if set.contains c then openings rest else []
  | .many :: rest => openings (.many :: rest)

/-- What may be left of a pattern behind one more character. Ends of one pattern are the same if
they are equally long. -/
def nextLeft (states : List (List Glob)) (c : Char) : List (List Glob) :=
  match states with
  | [state] => leftBehind c state
  | states =>
    (states.flatMap (leftBehind c)).foldl
      (fun found state =>
        if found.any fun other => other.length == state.length then found else state :: found)
      []

/-- Whether a pattern matches the whole of a text. -/
def matchesGlob (pattern : List Glob) (text : Octets) : Bool :=
  (text.foldl nextLeft (openings pattern)).any (·.isEmpty)

/-- Whether characters are more than a text that stands for itself. -/
def isPattern (text : List Marked) : Bool :=
  (globOf text).any fun
    | .one _ => false
    | _ => true

/-- What follows the beginning of a text that a pattern matches: the longest or the shortest one.
`found` is what follows the longest one so far. -/
def behindMatch? (longest : Bool) (states : List (List Glob)) (found : Option Octets) :
    Octets → Option Octets
  | [] => if states.any (·.isEmpty) then some [] else found
  | c :: rest =>
    let found := if states.any (·.isEmpty) then some (c :: rest) else found
    if (found.isSome && !longest) || states.isEmpty then found
    else behindMatch? longest (nextLeft states c) found rest

/-- A text without the beginning that a pattern matches: the longest or the shortest one. -/
def dropMatchedStart (pattern : List Glob) (longest : Bool) (text : Octets) : Octets :=
  (behindMatch? longest (openings pattern) none text).getD text

/-- A text without the end that a pattern matches: the longest or the shortest one. -/
def dropMatchedEnd (pattern : List Glob) (longest : Bool) (text : Octets) : Octets :=
  (dropMatchedStart pattern.reverse longest text.reverse).reverse

end LinksBinding.Shell
