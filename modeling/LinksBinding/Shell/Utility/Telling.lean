import LinksBinding.Shell.Builtin.Test
import LinksBinding.Shell.Utility.Options
import LinksBinding.Shell.Writing

/-!
# Telling something

The programs that write what they are given, or that tell about their surroundings: `echo`,
`printf`, `test`, `pwd`, `which`, `uname`, `id` and the like.
-/

namespace LinksBinding.Shell

open Session

/-! ## What is given -/

/-- The program `echo`. -/
def echo : Program := fun _ words => put (plainEchoText words)

/-- The program `printf`. -/
def printf : Program := fun _ words => do
  let words := if words.head? == some ['-', '-'] then words.drop 1 else words
  match words with
  | [] => failUsage "printf" 1 (octets "missing operand")
  | format :: arguments =>
    let f := formatArguments true format arguments
    put f.data
    for message in f.messages.reverse do programError "printf" message
    setStatus (if f.messages.isEmpty then 0 else 1)

/-- Tells what is wrong with a condition. -/
def tellCondition (name : String) (error : ConditionError) : Session Unit :=
  failWith name 2 <|
    match error with
    | .unexpected word => octets "extra argument " ++ cited word
    | .missingOperand operator => octets "missing argument after " ++ cited operator
    | .openBracket => octets "‘)’ expected"
    | .noNumber operand => octets "invalid integer " ++ cited operand

/-- The program `test`, whose name can be a bracket. -/
def testAs (name : String) : Program := fun _ words => do
  let words := if name == "[" then withoutBracket? words else some words
  match words with
  | none => failWith name 2 (octets "missing ‘]’")
  | some words =>
    let result ← match readCondition words with
      | .ok condition => holds condition
      | .error error => pure (.error error)
    match result with
    | .ok holds => setStatus (if holds then 0 else 1)
    | .error error => tellCondition name error

/-! ## The surroundings -/

/-- The program `pwd`. -/
def pwd : Program := fun _ words =>
  withArguments "pwd" { plain := "LP", long := [("logical", 'L'), ("physical", 'P')] } words
    fun _ => do put ((← shownPath (← process).directory) ++ ['\n'])

/-- The program `which`. -/
def which : Program := fun _ words =>
  withArguments "which" { plain := "as" } words fun a => do
    if a.operands.isEmpty then setStatus 1
    for name in a.operands do
      match ← findProgram name with
      | .error _ => setStatus 1
      | .ok (path, node) =>
        if (← runnable node).toOption.isSome then
          if !a.has 's' then put (path ++ ['\n'])
        else setStatus 1

/-- What is told about the machine, by the letters of options. -/
def machineFacts : List (Char × String) :=
  [('s', "Linux"), ('n', "localhost"), ('m', "x86_64"), ('o', "GNU/Linux")]

/-- The program `uname`. -/
def uname : Program := fun _ words =>
  withArguments "uname"
    { plain := "asnmo",
      long := [("all", 'a'), ("kernel-name", 's'), ("nodename", 'n'), ("machine", 'm'),
        ("operating-system", 'o')] } words fun a => do
    match a.operands with
    | word :: _ => failUsage "uname" 1 (octets "extra operand " ++ cited word)
    | [] =>
      let told := machineFacts.filter fun (letter, _) =>
        a.has 'a' || a.has letter || (a.options.isEmpty && letter == 's')
      put (joined (told.map fun (_, text) => octets text) ++ ['\n'])

/-- The program `arch`. -/
def arch : Program := fun _ _ => put (octets "x86_64\n")

/-- The program `whoami`. -/
def whoami : Program := fun _ _ => put (octets "root\n")

/-- The program `id`. -/
def tellUser : Program := fun _ words =>
  withArguments "id"
    { plain := "ugGnr",
      long := [("user", 'u'), ("group", 'g'), ("groups", 'G'), ("name", 'n'), ("real", 'r')] } words
    fun a => do
    let one := a.has 'u' || a.has 'g' || a.has 'G'
    if !one && (a.has 'n' || a.has 'r') then
      failWith "id" 1 (octets "printing only names or real IDs requires -u, -g, or -G")
    else
      put (octets (if !one then "uid=0(root) gid=0(root) groups=0(root)\n"
        else if a.has 'n' then "root\n" else "0\n"))

/-- The program `tty`. -/
def tty : Program := fun _ words => do
  let silent := words.any fun word =>
    ["-s", "--silent", "--quiet"].contains (nameOf word)
  if !silent then put (octets "not a tty\n")
  setStatus 1

end LinksBinding.Shell
