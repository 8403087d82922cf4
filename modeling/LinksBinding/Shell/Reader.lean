import LinksBinding.Shell.Script

/-!
# Reading scripts

Turns the text of a script into commands, one complete command after the other: what comes before a
mistake is carried out before the mistake is seen. Words are read into parts, so that nothing of a
word is looked at twice; only what stands in back quotes is read as a script of its own.

All functions take fuel that bounds how many steps they nest; every step reads a character or
descends into a command, so a script has enough with a few times its length.
-/

namespace LinksBinding.Shell

open Text

/-! ## Tokens and mistakes -/

/-- What a script is read as outside words. -/
inductive Token where
  /-- the end of the script -/
  | endOfScript
  /-- the end of a line -/
  | newline
  /-- a sign that stands between commands or opens and closes them -/
  | sign (text : String)
  /-- a redirection -/
  | redirection (redirection : Redirection)
  /-- a word, and its text if nothing in it is quoted or expanded -/
  | word (word : Word) (plain : Option Octets)

namespace Token

/-- The words with a meaning of their own where a command may start. -/
def reservedWords : List String :=
  ["!", "case", "do", "done", "elif", "else", "esac", "fi", "for", "if", "in", "then", "until",
    "while", "\x7b", "\x7d"]

/-- The reserved word that a token is. -/
def reserved? : Token → Option String
  | .word _ (some text) =>
    if reservedWords.contains (nameOf text) then some (nameOf text) else none
  | _ => none

/-- Whether a token is this sign or reserved word. -/
def isSign (token : Token) (text : String) : Bool :=
  match token with
  | .sign found => found == text
  | token => token.reserved? == some text

/-- Whether a token ends a list of commands. -/
def endsList : Token → Bool
  | .endOfScript => true
  | .sign text => text == ")" || text == ";;"
  | token =>
    token.reserved?.any
      ["do", "done", "elif", "else", "esac", "fi", "then", "\x7d"].contains

/-- How messages name a token. -/
def shown : Token → String
  | .endOfScript => "end of file"
  | .newline => "newline"
  | .sign text => "\"" ++ text ++ "\""
  | .redirection _ => "redirection"
  | token =>
    match token.reserved? with
    | some text => "\"" ++ text ++ "\""
    | none => "word"

end Token

/-- Why a script cannot be read. -/
inductive ScriptError where
  /-- a token where none like it may stand, and what would have to stand there -/
  | unexpected (token : String) (expected : Option String)
  /-- a quote that is not closed -/
  | openQuote
  /-- a parameter in braces that are not closed -/
  | openBrace
  /-- an expression that is not closed -/
  | openExpression
  /-- a back quote that is not closed -/
  | openBackquote
  /-- a function with a name that functions cannot have -/
  | functionName
  /-- a loop over something else than a variable -/
  | loopVariable
  /-- a descriptor that is no digit -/
  | descriptorNumber
  deriving DecidableEq, Repr

/-- The wording of a mistake. -/
def ScriptError.message : ScriptError → String
  | .unexpected token none => token ++ " unexpected"
  | .unexpected token (some expected) => token ++ " unexpected (expecting " ++ expected ++ ")"
  | .openQuote => "Unterminated quoted string"
  | .openBrace => "Missing '\x7d'"
  | .openExpression => "Missing '))'"
  | .openBackquote => "EOF in backquote substitution"
  | .functionName => "Bad function name"
  | .loopVariable => "Bad for loop variable"
  | .descriptorNumber => "Bad fd number"

/-! ## The state of reading -/

/-- A document that is announced: its number, the line behind it, whether that line is quoted, and
whether tabulators in front of lines are left out. -/
structure Announced where
  /-- the number of the document -/
  number : Nat
  /-- the line that closes it -/
  closing : Octets
  /-- whether nothing in it is expanded -/
  quoted : Bool
  /-- whether tabulators in front of its lines are left out -/
  indented : Bool

/-- Short forms of commands: names and what stands for them. -/
abbrev Aliases := List (Octets × Octets)

/-- How far a script is read. -/
structure Reading where
  /-- the text that is left -/
  rest : Octets
  /-- the number of its first line -/
  line : Nat := 1
  /-- a token that is read and still counts as the next -/
  pushed : Option Token := none
  /-- documents that are announced and not read, last first -/
  announced : List Announced := []
  /-- documents that are read, by their numbers -/
  documents : Array Word
  /-- short forms of commands -/
  aliases : Aliases
  /-- short forms that are being read, each with the length of the text behind it -/
  unfolding : List (Octets × Nat) := []

/-- Reads a part of a script, or stops at a mistake in some line. -/
abbrev Reader := StateT Reading (Except (Nat × ScriptError))

namespace Reader

/-- Stops at a mistake. -/
def fail {α : Type} (error : ScriptError) : Reader α := do throw ((← get).line, error)

/-- Stops because fuel has run out, which no script does. -/
def exhausted {α : Type} : Reader α := fail (.unexpected "end of file" none)

/-- Stops at a token. -/
def refuse {α : Type} (token : Token) (expected : Option String) : Reader α :=
  fail (.unexpected token.shown (expected.map fun text => "\"" ++ text ++ "\""))

/-- The next character. -/
def peek : Reader (Option Char) := return (← get).rest.head?

/-- Passes over a number of characters. -/
def skip (count : Nat) : Reader Unit :=
  modify fun s =>
    { s with
      rest := s.rest.drop count
      line := s.line + (s.rest.take count).count '\n' }

/-- Reads the characters of a kind that come next. -/
def takeWhile (p : Char → Bool) : Reader Octets := do
  let data := (← get).rest.takeWhile p
  skip data.length
  return data

/-- Reads up to a character and passes over it; `none` if it does not occur. -/
def upTo? (c : Char) : Reader (Option Octets) := do
  match cutAtChar? c (← get).rest with
  | some (data, _) =>
    skip (data.length + 1)
    return some data
  | none => return none

/-- Passes over blanks, continued lines and a comment. -/
def skipGap : (fuel : Nat) → Reader Unit
  | 0 => exhausted
  | fuel + 1 => do
    match (← get).rest with
    | '\\' :: '\n' :: _ => do
      skip 2
      skipGap fuel
    | '#' :: _ => do
      let _ ← takeWhile (· != '\n')
    | c :: _ =>
      if isGap c then do
        skip 1
        skipGap fuel
    | [] => return ()

end Reader

open Reader

/-- What ends a word outside quotes. -/
def endsWord (c : Char) : Bool :=
  isGap c || c == '\n' || c == ';' || c == '&' || c == '|' || c == '<' || c == '>' || c == '(' ||
    c == ')'

/-- The names of parameters that are one sign. -/
def isSpecialParameter (c : Char) : Bool :=
  c == '@' || c == '*' || c == '#' || c == '?' || c == '-' || c == '$' || c == '!'

/-- What the parts of a word are read for. -/
inductive Mode where
  /-- a word of a command -/
  | word
  /-- the inside of double quotes -/
  | quotes
  /-- the word in the braces of a parameter, which may stand in double quotes -/
  | brace (quoted : Bool)
  /-- an expression, inside some brackets of its own -/
  | expression (level : Nat)
  /-- the text of a document -/
  | document
  deriving DecidableEq

/-- Whether text in a mode is quoted. -/
def Mode.quotes? : Mode → Bool
  | .word | .brace false => false
  | _ => true

/-- The parts that are read, last first, with the text that is begun, its last character first. -/
structure Begun where
  /-- complete parts, last first -/
  parts : List Part := []
  /-- text that is begun, its last character first -/
  text : Octets := []

namespace Begun

/-- Completes the text that is begun. -/
def close (begun : Begun) (quoted : Bool) : Begun :=
  if begun.text.isEmpty then begun else ⟨.literal begun.text.reverse quoted :: begun.parts, []⟩

/-- Adds a part. -/
def add (begun : Begun) (quoted : Bool) (part : Part) : Begun :=
  ⟨part :: (begun.close quoted).parts, []⟩

/-- Adds a character. -/
def push (begun : Begun) (c : Char) : Begun := { begun with text := c :: begun.text }

/-- All parts in order. -/
def toWord (begun : Begun) (quoted : Bool) : Word := (begun.close quoted).parts.reverse

end Begun

/-- The text of a word in which nothing is quoted or expanded. -/
def plainText? (word : Word) : Option Octets :=
  match word with
  | [.literal text false] => some text
  | _ => none

/-- A word whose beginning names a home directory, as such. -/
def withHome (word : Word) : Word :=
  match word with
  | .literal ('~' :: text) false :: rest =>
    let user := text.takeWhile (· != '/')
    if user.length == text.length && !rest.isEmpty then word
    else if user.length == text.length then .home user :: rest
    else .home user :: .literal (text.drop user.length) false :: rest
  | _ => word

/-- The name in front of an equals sign that a word starts with, and the word behind that sign. -/
def assignment? (word : Word) : Option (String × Word) :=
  match word with
  | .literal text false :: rest =>
    match cutAtChar? '=' text with
    | some (name, value) =>
      if isName name then
        some (nameOf name,
          withHome (if value.isEmpty then rest else .literal value false :: rest))
      else none
    | none => none
  | _ => none

/-! ## Documents -/

/-- Reads the lines of a document. -/
def documentLines (announced : Announced) : (fuel : Nat) → Octets → Reader Octets
  | 0, data => return data
  | fuel + 1, data => do
    if (← get).rest.isEmpty then return data
    else
      let line ← takeWhile (· != '\n')
      let closed := !(← get).rest.isEmpty
      skip 1
      let line := if announced.indented then line.dropWhile (· == '\t') else line
      if line == announced.closing then return data
      else documentLines announced fuel (data ++ line ++ if closed then ['\n'] else [])

/-- The number of characters that are left, with some to spare: fuel for what reads them. -/
def fuelLeft : Reader Nat := return 8 * (← get).rest.length + 64

/-! ## Words, tokens and commands -/

mutual
/-- Reads the parts of a word in some mode, behind those in `begun`. -/
def readParts (fuel : Nat) (mode : Mode) (begun : Begun) : Reader Word :=
  match fuel with
  | 0 => exhausted
  | fuel + 1 => do
    let quoted := mode.quotes?
    match (← get).rest with
    | [] =>
      match mode with
      | .word | .document => return begun.toWord quoted
      | .quotes => fail .openQuote
      | .brace _ => fail .openBrace
      | .expression _ => fail .openExpression
    | '\\' :: '\n' :: _ => do
      skip 2
      readParts fuel mode begun
    | '\\' :: c :: _ => do
      let escapes := !quoted || c == '$' || c == '\x60' || c == '\\' ||
        (c == '"' && mode != .document) || (c == '\x7d' && mode == .brace true)
      if escapes then
        skip 2
        readParts fuel mode (begun.add quoted (.literal [c] true))
      else
        skip 1
        readParts fuel mode (begun.push '\\')
    | '$' :: _ => do
      skip 1
      let part ← readDollar fuel quoted
      readParts fuel mode (begun.add quoted part)
    | '\x60' :: _ => do
      skip 1
      let part ← readBackquotes fuel quoted
      readParts fuel mode (begun.add quoted part)
    | '\'' :: _ => do
      if quoted then
        skip 1
        readParts fuel mode (begun.push '\'')
      else
        skip 1
        match ← upTo? '\'' with
        | some data => readParts fuel mode (begun.add quoted (.literal data true))
        | none =>
          skip (← get).rest.length
          fail .openQuote
    | '"' :: _ => do
      match mode with
      | .quotes =>
        skip 1
        return begun.toWord quoted
      | .document =>
        skip 1
        readParts fuel mode (begun.push '"')
      | .expression _ =>
        skip 1
        readParts fuel mode begun
      | .word | .brace _ =>
        skip 1
        let inner ← readParts fuel .quotes {}
        let inner := if inner.length == 1 then inner else .literal [] true :: inner
        readParts fuel mode ⟨inner.reverse ++ (begun.close quoted).parts, []⟩
    | '\x7d' :: _ => do
      skip 1
      match mode with
      | .brace _ => return begun.toWord quoted
      | _ => readParts fuel mode (begun.push '\x7d')
    | c :: _ => do
      match mode with
      | .word =>
        if endsWord c then return begun.toWord quoted
        else
          skip 1
          readParts fuel mode (begun.push c)
      | .expression level =>
        skip 1
        if c == '(' then readParts fuel (.expression (level + 1)) (begun.push c)
        else if c == ')' && level == 0 then
          if (← peek) == some ')' then
            skip 1
            return begun.toWord quoted
          else readParts fuel mode (begun.push c)
        else if c == ')' then readParts fuel (.expression (level - 1)) (begun.push c)
        else readParts fuel mode (begun.push c)
      | _ =>
        skip 1
        readParts fuel mode (begun.push c)

/-- Reads what follows a dollar sign. -/
def readDollar (fuel : Nat) (quoted : Bool) : Reader Part :=
  match fuel with
  | 0 => exhausted
  | fuel + 1 => do
    match (← get).rest with
    | '\\' :: '\n' :: _ =>
      skip 2
      readDollar fuel quoted
    | '(' :: '(' :: _ =>
      skip 2
      return .arithmetic (← readParts fuel (.expression 0) {}) quoted
    | '(' :: _ =>
      skip 1
      let script ← readBracketed fuel
      return .output script quoted
    | '\x7b' :: _ =>
      skip 1
      readBraced fuel quoted
    | c :: _ =>
      if startsName c then
        let name ← takeWhile isNamePart
        return .value (nameOf name) quoted
      else if isSpecialParameter c || c.isDigit then
        skip 1
        return .value (String.singleton c) quoted
      else return .literal ['$'] quoted
    | [] => return .literal ['$'] quoted

/-- Reads a parameter in braces whose opening is read. -/
def readBraced (fuel : Nat) (quoted : Bool) : Reader Part :=
  match fuel with
  | 0 => exhausted
  | fuel + 1 => do
    match (← get).rest with
    | '#' :: c :: rest =>
      let nameLength := (c :: rest).takeWhile isNamePart |>.length
      let isLength :=
        if startsName c || c.isDigit then (c :: rest)[nameLength]? == some '\x7d'
        else isSpecialParameter c && rest.head? == some '\x7d'
      if isLength then
        skip 1
        let name := (c :: rest).take (max nameLength 1)
        skip (name.length + 1)
        return .length (nameOf name) quoted
      else
        skip 1
        readOperator fuel quoted "#"
    | c :: rest =>
      if startsName c then
        let name ← takeWhile isNamePart
        readOperator fuel quoted (nameOf name)
      else if c.isDigit then
        let name ← takeWhile Char.isDigit
        readOperator fuel quoted (nameOf name)
      else if isSpecialParameter c then
        skip 1
        readOperator fuel quoted (String.singleton c)
      else
        let _ ← readParts fuel (.brace quoted) {}
        return if rest.isEmpty then .badParameter else .badParameter
    | [] => fail .openBrace

/-- Reads what stands behind the name of a parameter in braces. -/
def readOperator (fuel : Nat) (quoted : Bool) (name : String) : Reader Part :=
  match fuel with
  | 0 => exhausted
  | fuel + 1 => do
    let fallback (nonempty : Bool) (kind : Fallback) (length : Nat) : Reader Part := do
      skip length
      return .fallback name nonempty kind (withHome (← readParts fuel (.brace quoted) {})) quoted
    let trimmed (side : Side) (longest : Bool) (length : Nat) : Reader Part := do
      skip length
      return .trimmed name side longest (← readParts fuel (.brace false) {}) quoted
    match (← get).rest with
    | '\x7d' :: _ =>
      skip 1
      return .value name quoted
    | ':' :: '-' :: _ => fallback true .useWord 2
    | ':' :: '=' :: _ => fallback true .assignWord 2
    | ':' :: '?' :: _ => fallback true .complain 2
    | ':' :: '+' :: _ => fallback true .useIfSet 2
    | '-' :: _ => fallback false .useWord 1
    | '=' :: _ => fallback false .assignWord 1
    | '?' :: _ => fallback false .complain 1
    | '+' :: _ => fallback false .useIfSet 1
    | '%' :: '%' :: _ => trimmed .ending true 2
    | '%' :: _ => trimmed .ending false 1
    | '#' :: '#' :: _ => trimmed .start true 2
    | '#' :: _ => trimmed .start false 1
    | _ =>
      let _ ← readParts fuel (.brace quoted) {}
      return .badParameter

/-- Reads a script up to the bracket that closes it. -/
def readBracketed (fuel : Nat) : Reader Command :=
  match fuel with
  | 0 => exhausted
  | fuel + 1 => do
    let outer ← get
    set { outer with pushed := none, announced := [] }
    let body ← readList fuel true
    let token ← nextToken fuel true false
    if !token.isSign ")" then refuse token (some ")")
    else
      modify fun s => { s with pushed := outer.pushed, announced := outer.announced }
      return body

/-- Reads a script in back quotes whose opening is read. -/
def readBackquotes (fuel : Nat) (quoted : Bool) : Reader Part :=
  match fuel with
  | 0 => exhausted
  | fuel + 1 => do
    match ← readUntilBackquote fuel quoted [] with
    | none => fail .openBackquote
    | some script =>
      let outer ← get
      set { outer with rest := script, line := 1, pushed := none, announced := [] }
      let body ← readList fuel true
      let token ← nextToken fuel true false
      match token with
      | .endOfScript =>
        modify fun s =>
          { outer with documents := s.documents }
        return .output body quoted
      | token => refuse token none

/-- Reads the text up to a back quote, with the escapes of back quotes resolved; `data` is what is
read of it, its last character first. -/
def readUntilBackquote (fuel : Nat) (quoted : Bool) (data : Octets) : Reader (Option Octets) :=
  match fuel with
  | 0 => return none
  | fuel + 1 => do
    match (← get).rest with
    | [] => return none
    | '\x60' :: _ =>
      skip 1
      return some data.reverse
    | '\\' :: '\n' :: _ =>
      skip 2
      readUntilBackquote fuel quoted data
    | '\\' :: c :: _ =>
      skip 2
      if c == '\\' || c == '$' || c == '\x60' || (quoted && c == '"') then
        readUntilBackquote fuel quoted (c :: data)
      else readUntilBackquote fuel quoted (c :: '\\' :: data)
    | c :: _ =>
      skip 1
      readUntilBackquote fuel quoted (c :: data)

/-- Reads the documents that are announced. -/
def readDocuments (fuel : Nat) : Reader Unit :=
  match fuel with
  | 0 => exhausted
  | fuel + 1 => do
    match (← get).announced.getLast? with
    | none => return ()
    | some announced =>
      modify fun s => { s with announced := s.announced.dropLast }
      let text ← documentLines announced fuel []
      let word ←
        if announced.quoted then pure [.literal text true]
        else do
          let outer ← get
          set { outer with rest := text, pushed := none, announced := [] }
          let word ← readParts fuel .document {}
          modify fun s => { outer with documents := s.documents }
          pure word
      modify fun s => { s with documents := s.documents.setIfInBounds announced.number word }
      readDocuments fuel

/-- Reads the word that closes a document: its text, and whether it is quoted. -/
def readClosing (fuel : Nat) (data : Octets) (quoted : Bool) : Reader (Octets × Bool) :=
  match fuel with
  | 0 => exhausted
  | fuel + 1 => do
    match (← get).rest with
    | '\\' :: c :: _ =>
      skip 2
      readClosing fuel (data ++ [c]) true
    | '\'' :: _ =>
      skip 1
      match ← upTo? '\'' with
      | some text => readClosing fuel (data ++ text) true
      | none => fail .openQuote
    | '"' :: _ =>
      skip 1
      match ← upTo? '"' with
      | some text => readClosing fuel (data ++ text) true
      | none => fail .openQuote
    | c :: _ =>
      if endsWord c then return (data, quoted)
      else
        skip 1
        readClosing fuel (data ++ [c]) quoted
    | [] => return (data, quoted)

/-- Reads the target of a redirection, behind its operator. -/
def readTarget (fuel : Nat) (number : Nat) (target : Word → Target) : Reader Token :=
  match fuel with
  | 0 => exhausted
  | fuel + 1 => do
    skipGap fuel
    let token ← nextToken fuel false false
    match token with
    | .word word _ => return .redirection (.connect number (target (withHome word)))
    | token => refuse token none

/-- Reads a redirection of a descriptor, which defaults to the one that its operator is for. -/
def readRedirection (fuel : Nat) (number : Option Nat) : Reader Token :=
  match fuel with
  | 0 => exhausted
  | fuel + 1 => do
    let file (standard length : Nat) (use : FileUse) : Reader Token := do
      skip length
      readTarget fuel (number.getD standard) (.file use)
    let document (length : Nat) (indented : Bool) : Reader Token := do
      skip length
      skipGap fuel
      let (closing, quoted) ← readClosing fuel [] false
      let place := (← get).documents.size
      modify fun s =>
        { s with
          documents := s.documents.push []
          announced := ⟨place, closing, quoted, indented⟩ :: s.announced }
      return .redirection (.connect (number.getD 0) (.document place))
    match (← get).rest with
    | '<' :: '<' :: '-' :: _ => document 3 true
    | '<' :: '<' :: _ => document 2 false
    | '<' :: '&' :: _ =>
      skip 2
      readTarget fuel (number.getD 0) .descriptor
    | '<' :: '>' :: _ => file 0 2 .readWrite
    | '<' :: _ => file 0 1 .read
    | '>' :: '>' :: _ => file 1 2 .append
    | '>' :: '|' :: _ => file 1 2 .overwrite
    | '>' :: '&' :: _ =>
      skip 2
      readTarget fuel (number.getD 1) .descriptor
    | _ => file 1 1 .write

/-- Reads the next token. -/
def nextToken (fuel : Nat) (newlines names : Bool) : Reader Token :=
  match fuel with
  | 0 => exhausted
  | fuel + 1 => do
    match (← get).pushed with
    | some token =>
      modify fun s => { s with pushed := none }
      match token, newlines with
      | .newline, true => do
        readDocuments fuel
        nextToken fuel newlines names
      | .word _ (some text), _ => if names then unfold fuel newlines text token else return token
      | token, _ => return token
    | none =>
      skipGap fuel
      let sign (text : String) : Reader Token := do
        skip text.length
        return .sign text
      match (← get).rest with
      | [] => return .endOfScript
      | '\n' :: _ =>
        skip 1
        if newlines then
          readDocuments fuel
          nextToken fuel newlines names
        else return .newline
      | ';' :: ';' :: _ => sign ";;"
      | ';' :: _ => sign ";"
      | '&' :: '&' :: _ => sign "&&"
      | '&' :: _ => sign "&"
      | '|' :: '|' :: _ => sign "||"
      | '|' :: _ => sign "|"
      | '(' :: _ => sign "("
      | ')' :: _ => sign ")"
      | '<' :: _ | '>' :: _ => readRedirection fuel none
      | c :: d :: _ =>
        if c.isDigit && (d == '<' || d == '>') then
          skip 1
          readRedirection fuel (some (c.toNat - '0'.toNat))
        else readWord fuel newlines names
      | _ => readWord fuel newlines names

/-- Reads a word as a token. -/
def readWord (fuel : Nat) (newlines names : Bool) : Reader Token :=
  match fuel with
  | 0 => exhausted
  | fuel + 1 => do
    let word ← readParts fuel .word {}
    let token := Token.word word (plainText? word)
    match plainText? word, names with
    | some text, true => unfold fuel newlines text token
    | _, _ => return token

/-- Reads what a short form of a command stands for, or takes the token as it is. -/
def unfold (fuel : Nat) (newlines : Bool) (text : Octets) (token : Token) : Reader Token :=
  match fuel with
  | 0 => exhausted
  | fuel + 1 => do
    let s ← get
    match s.aliases.lookup text with
    | none => return token
    | some long =>
      let unfolding := s.unfolding.filter fun (_, behind) => behind < s.rest.length
      if (unfolding.any fun (name, _) => name == text) then return token
      else
        set { s with rest := long ++ s.rest, unfolding := (text, s.rest.length) :: unfolding }
        nextToken fuel newlines true

/-- Reads the next token without passing over it. -/
def peekToken (fuel : Nat) (newlines names : Bool) : Reader Token :=
  match fuel with
  | 0 => exhausted
  | fuel + 1 => do
    let token ← nextToken fuel newlines names
    modify fun s => { s with pushed := some token }
    return token

/-- Passes over a sign or reserved word that must come next. -/
def expect (fuel : Nat) (text : String) : Reader Unit :=
  match fuel with
  | 0 => exhausted
  | fuel + 1 => do
    let token ← nextToken fuel true true
    if token.isSign text then return () else refuse token (some text)

/-- Reads commands up to a token that ends a list. -/
def readList (fuel : Nat) (mayBeEmpty : Bool) : Reader Command :=
  match fuel with
  | 0 => exhausted
  | fuel + 1 => do
    let token ← peekToken fuel true true
    match token with
    | .endOfScript => return .nothing
    | token =>
      if mayBeEmpty && token.endsList then return .nothing
      else
        let command ← readAndOr fuel
        let next ← nextToken fuel false false
        match next with
        | .sign "&" => return .sequence (.background command) (← readList fuel true)
        | .sign ";" | .newline =>
          if next matches .newline then readDocuments fuel
          return .sequence command (← readList fuel true)
        | next =>
          modify fun s => { s with pushed := some next }
          return command

/-- Reads commands joined by their success or failure. -/
def readAndOr (fuel : Nat) : Reader Command :=
  match fuel with
  | 0 => exhausted
  | fuel + 1 => do
    let first ← readPipeline fuel
    readAndOrFrom fuel first

/-- Goes on with commands joined by their success or failure. -/
def readAndOrFrom (fuel : Nat) (first : Command) : Reader Command :=
  match fuel with
  | 0 => exhausted
  | fuel + 1 => do
    let token ← nextToken fuel false false
    if token.isSign "&&" then
      let second ← readPipeline fuel
      readAndOrFrom fuel (.andThen first second)
    else if token.isSign "||" then
      let second ← readPipeline fuel
      readAndOrFrom fuel (.orElse first second)
    else
      modify fun s => { s with pushed := some token }
      return first

/-- Reads a pipeline. -/
def readPipeline (fuel : Nat) : Reader Command :=
  match fuel with
  | 0 => exhausted
  | fuel + 1 => do
    let token ← peekToken fuel true true
    if token.reserved? == some "!" then
      let _ ← nextToken fuel true false
      return .negation (← readPipeline fuel)
    else
      let first ← readCommand fuel
      match ← readPipelineFrom fuel with
      | [] => return first
      | others => return .pipeline (first :: others)

/-- Reads the commands behind a bar. -/
def readPipelineFrom (fuel : Nat) : Reader (List Command) :=
  match fuel with
  | 0 => exhausted
  | fuel + 1 => do
    let token ← nextToken fuel false false
    if token.isSign "|" then
      let _ ← peekToken fuel true true
      let command ← readCommand fuel
      return command :: (← readPipelineFrom fuel)
    else
      modify fun s => { s with pushed := some token }
      return []

/-- Reads a choice whose first word is read. -/
def readChoice (fuel : Nat) : Reader Command :=
  match fuel with
  | 0 => exhausted
  | fuel + 1 => do
    let condition ← readList fuel false
    expect fuel "then"
    let yes ← readList fuel false
    let token ← nextToken fuel true true
    match token.reserved? with
    | some "elif" => return .choice condition yes (← readChoice fuel)
    | some "else" =>
      let no ← readList fuel false
      expect fuel "fi"
      return .choice condition yes no
    | some "fi" => return .choice condition yes .nothing
    | _ => refuse token (some "fi")

/-- Reads the words up to the end of a line or command. -/
def readWords (fuel : Nat) : Reader (List Word) :=
  match fuel with
  | 0 => exhausted
  | fuel + 1 => do
    let token ← nextToken fuel false false
    match token with
    | .word word _ => return withHome word :: (← readWords fuel)
    | .newline =>
      readDocuments fuel
      return []
    | token => if token.isSign ";" then return [] else refuse token none

/-- Reads the patterns of a clause up to the bracket behind them. -/
def readPatterns (fuel : Nat) (token : Token) : Reader (List Word) :=
  match fuel with
  | 0 => exhausted
  | fuel + 1 => do
    match token with
    | .word word _ =>
      let next ← nextToken fuel false false
      if next.isSign "|" then
        let token ← nextToken fuel false false
        return word :: (← readPatterns fuel token)
      else if next.isSign ")" then return [word]
      else refuse next (some ")")
    | token => refuse token (some ")")

/-- Reads the clauses of a selection up to its last word. -/
def readClauses (fuel : Nat) : Reader (List (List Word × Command)) :=
  match fuel with
  | 0 => exhausted
  | fuel + 1 => do
    let token ← nextToken fuel true false
    if token.reserved? == some "esac" then return []
    else
      let token ← if token.isSign "(" then nextToken fuel false false else pure token
      let patterns ← readPatterns fuel token
      let body ← readList fuel true
      let next ← nextToken fuel true false
      if next.reserved? == some "esac" then return [(patterns, body)]
      else if next.isSign ";;" then return (patterns, body) :: (← readClauses fuel)
      else refuse next (some ";;")

/-- Reads a loop over words, whose first word is read. -/
def readForEach (fuel : Nat) : Reader Command :=
  match fuel with
  | 0 => exhausted
  | fuel + 1 => do
    let line := (← get).line
    match ← nextToken fuel false false with
    | .word _ (some name) =>
      if !isName name then fail .loopVariable
      else
        let token ← nextToken fuel true true
        let words ←
          if token.reserved? == some "in" then some <$> readWords fuel
          else do
            if !token.isSign ";" then modify fun s => { s with pushed := some token }
            pure none
        expect fuel "do"
        let body ← readList fuel false
        expect fuel "done"
        return .forEach line (nameOf name) words body
    | _ => fail .loopVariable

/-- Reads a command. -/
def readCommand (fuel : Nat) : Reader Command :=
  match fuel with
  | 0 => exhausted
  | fuel + 1 => do
    let line := (← get).line
    let token ← nextToken fuel false false
    if token.isSign "(" then
      let body ← readList fuel false
      expect fuel ")"
      readRedirected fuel line (.subshell line body)
    else match token.reserved? with
      | some "if" => readRedirected fuel line (← readChoice fuel)
      | some "while" =>
        let condition ← readList fuel false
        expect fuel "do"
        let body ← readList fuel false
        expect fuel "done"
        readRedirected fuel line (.loop true condition body)
      | some "until" =>
        let condition ← readList fuel false
        expect fuel "do"
        let body ← readList fuel false
        expect fuel "done"
        readRedirected fuel line (.loop false condition body)
      | some "for" => readRedirected fuel line (← readForEach fuel)
      | some "case" =>
        match ← nextToken fuel false false with
        | .word word _ =>
          expect fuel "in"
          readRedirected fuel line (.select line word (← readClauses fuel))
        | token => refuse token none
      | some "\x7b" =>
        let body ← readList fuel false
        expect fuel "\x7d"
        readRedirected fuel line (.group body)
      | some _ => refuse token none
      | none =>
        match token with
        | .word .. | .redirection _ =>
          modify fun s => { s with pushed := some token }
          readSimple fuel line [] [] []
        | token => refuse token none

/-- Reads the redirections behind a command. -/
def readRedirected (fuel : Nat) (line : Nat) (body : Command) : Reader Command :=
  match fuel with
  | 0 => exhausted
  | fuel + 1 => do
    match ← readRedirections fuel with
    | [] => return body
    | redirections => return .redirected line body redirections

/-- Reads the redirections that come next. -/
def readRedirections (fuel : Nat) : Reader (List Redirection) :=
  match fuel with
  | 0 => exhausted
  | fuel + 1 => do
    let token ← nextToken fuel false false
    match token with
    | .redirection redirection => return redirection :: (← readRedirections fuel)
    | token =>
      modify fun s => { s with pushed := some token }
      return []

/-- Reads assignments, words and redirections up to the end of a command. What is read before stands
in the lists, last first. -/
def readSimple (fuel : Nat) (line : Nat) (assignments : List (String × Word)) (words : List Word)
    (redirections : List Redirection) : Reader Command :=
  match fuel with
  | 0 => exhausted
  | fuel + 1 => do
    let token ← nextToken fuel false false
    match token with
    | .redirection redirection =>
      readSimple fuel line assignments words (redirection :: redirections)
    | .word word _ =>
      match words, assignment? word with
      | [], some assignment =>
        readSimple fuel line (assignment :: assignments) words redirections
      | _, _ => readSimple fuel line assignments (withHome word :: words) redirections
    | token =>
      match words, token.isSign "(" with
      | [[.literal name false]], true =>
        if assignments.isEmpty && redirections.isEmpty then
          expect fuel ")"
          if !isName name then fail .functionName
          else
            let _ ← peekToken fuel true true
            return .function (nameOf name) (← readCommand fuel)
        else refuse token none
      | _, _ =>
        modify fun s => { s with pushed := some token }
        return .simple line assignments.reverse words.reverse redirections.reverse
end

/-- Reads the commands of a line, joined to those in front of them. -/
def readCommandLine (before : Command) : (fuel : Nat) → Reader Command
  | 0 => exhausted
  | fuel + 1 => do
    let available ← fuelLeft
    match ← peekToken available false true with
    | .endOfScript => return before
    | .newline =>
      modify fun s => { s with pushed := none }
      readDocuments available
      return before
    | _ =>
      let command ← readAndOr available
      let next ← nextToken available false false
      match next with
      | .sign "&" => readCommandLine (.sequence before (.background command)) fuel
      | .sign ";" => readCommandLine (.sequence before command) fuel
      | .newline | .endOfScript =>
        modify fun s => { s with pushed := some next }
        readCommandLine (.sequence before command) fuel
      | next => refuse next none

/-- Reads the next complete command; `none` at the end of the script. -/
def readComplete : Reader (Option Command) := do
  let available ← fuelLeft
  match ← peekToken available false true with
  | .endOfScript =>
    readDocuments available
    return none
  | _ =>
    let command ← readCommandLine .nothing available
    readDocuments available
    return some command

end LinksBinding.Shell
