/-!
# The library

The functions that Links brings along, with their types. Their names are never reported as
undefined, and hovering over one shows its type. A document may declare such a name itself; then
its own declaration is meant.
-/

namespace LinksBinding

/-- A library function. -/
structure LibraryFunction where
  /-- its name -/
  name : String
  /-- its type -/
  signature : String
  deriving DecidableEq, Repr

namespace Library

/-- Output and failure. -/
def output : List LibraryFunction :=
  [⟨"print", "(String) ~> ()"⟩,
    ⟨"error", "(String) ~> a"⟩,
    ⟨"debug", "(String) ~> ()"⟩]

/-- Conversions between basic types. -/
def conversions : List LibraryFunction :=
  [⟨"intToString", "(Int) -> String"⟩,
    ⟨"stringToInt", "(String) -> Int"⟩,
    ⟨"intToFloat", "(Int) -> Float"⟩,
    ⟨"floatToInt", "(Float) -> Int"⟩,
    ⟨"floatToString", "(Float) -> String"⟩,
    ⟨"stringToFloat", "(String) -> Float"⟩,
    ⟨"intToXml", "(Int) -> Xml"⟩,
    ⟨"floatToXml", "(Float) -> Xml"⟩,
    ⟨"stringToXml", "(String) -> Xml"⟩,
    ⟨"show", "(a) -> String"⟩]

/-- Strings and characters. -/
def strings : List LibraryFunction :=
  [⟨"explode", "(String) -> [Char]"⟩,
    ⟨"implode", "([Char]) -> String"⟩,
    ⟨"strlen", "(String) -> Int"⟩,
    ⟨"strsub", "(String, Int, Int) -> String"⟩,
    ⟨"strContains", "(String, Char) -> Bool"⟩,
    ⟨"isAlpha", "(Char) -> Bool"⟩,
    ⟨"isDigit", "(Char) -> Bool"⟩,
    ⟨"isSpace", "(Char) -> Bool"⟩,
    ⟨"toUpper", "(Char) -> Char"⟩,
    ⟨"toLower", "(Char) -> Char"⟩,
    ⟨"ord", "(Char) -> Int"⟩,
    ⟨"chr", "(Int) -> Char"⟩]

/-- Lists and pairs. -/
def lists : List LibraryFunction :=
  [⟨"hd", "([a]) ~> a"⟩,
    ⟨"tl", "([a]) ~> [a]"⟩,
    ⟨"length", "([a]) -> Int"⟩,
    ⟨"take", "(Int, [a]) -> [a]"⟩,
    ⟨"drop", "(Int, [a]) -> [a]"⟩,
    ⟨"map", "((a) -e-> b, [a]) -e-> [b]"⟩,
    ⟨"filter", "((a) -e-> Bool, [a]) -e-> [a]"⟩,
    ⟨"fold_left", "((a, b) -e-> a, a, [b]) -e-> a"⟩,
    ⟨"fold_right", "((a, b) -e-> b, b, [a]) -e-> b"⟩,
    ⟨"concat", "([[a]]) -> [a]"⟩,
    ⟨"reverse", "([a]) -> [a]"⟩,
    ⟨"zip", "([a], [b]) -> [(a, b)]"⟩,
    ⟨"unzip", "([(a, b)]) -> ([a], [b])"⟩,
    ⟨"elem", "(a, [a]) -> Bool"⟩,
    ⟨"lookup", "(a, [(a, b)]) -> Maybe(b)"⟩,
    ⟨"iter", "((a) -e-> (), [a]) -e-> ()"⟩,
    ⟨"sum", "([Int]) -> Int"⟩,
    ⟨"max", "([a]) -> Maybe(a)"⟩,
    ⟨"min", "([a]) -> Maybe(a)"⟩,
    ⟨"sortBy", "((a) -> b, [a]) -> [a]"⟩,
    ⟨"range", "(Int, Int) -> [Int]"⟩,
    ⟨"empty", "([a]) -> Bool"⟩,
    ⟨"ignore", "(a) -> ()"⟩,
    ⟨"fst", "((a, b)) -> a"⟩,
    ⟨"snd", "((a, b)) -> b"⟩]

/-- Optional values. -/
def optionals : List LibraryFunction :=
  [⟨"isJust", "(Maybe(a)) -> Bool"⟩,
    ⟨"fromJust", "(Maybe(a)) ~> a"⟩,
    ⟨"fromMaybe", "(Maybe(a), a) -> a"⟩]

/-- Numbers and truth values. -/
def numbers : List LibraryFunction :=
  [⟨"abs", "(Int) -> Int"⟩,
    ⟨"mod", "(Int, Int) -> Int"⟩,
    ⟨"floor", "(Float) -> Float"⟩,
    ⟨"ceiling", "(Float) -> Float"⟩,
    ⟨"sqrt", "(Float) -> Float"⟩,
    ⟨"random", "() ~> Float"⟩,
    ⟨"not", "(Bool) -> Bool"⟩]

/-- Pages, processes and the document in the browser. -/
def web : List LibraryFunction :=
  [⟨"page", "(Page) ~> Page"⟩,
    ⟨"render", "(Formlet(a), (a) ~> Page) ~> Page"⟩,
    ⟨"addRoute", "(String, (String) ~> Page) ~> ()"⟩,
    ⟨"addStaticRoute", "(String, String, [(String, String)]) ~> ()"⟩,
    ⟨"serveThis", "(() ~> Page) ~> ()"⟩,
    ⟨"servePages", "() ~> ()"⟩,
    ⟨"redirect", "(String) ~> ()"⟩,
    ⟨"getCookie", "(String) ~> String"⟩,
    ⟨"setCookie", "(String, String) ~> ()"⟩,
    ⟨"spawn", "(() ~e~> ()) ~> Process"⟩,
    ⟨"spawnClient", "(() ~e~> ()) ~> Process"⟩,
    ⟨"self", "() ~> Process"⟩,
    ⟨"recv", "() ~> a"⟩,
    ⟨"sleep", "(Int) ~> ()"⟩,
    ⟨"domReplaceChildren", "(Xml, DomNode) ~> ()"⟩,
    ⟨"getNodeById", "(String) ~> DomNode"⟩,
    ⟨"getInputValue", "(String) ~> String"⟩,
    ⟨"getValue", "(DomNode) ~> Xml"⟩,
    ⟨"clientTime", "() ~> Int"⟩,
    ⟨"serverTime", "() ~> Int"⟩]

/-- Formlets. -/
def formlets : List LibraryFunction :=
  [⟨"input", "Formlet(String)"⟩,
    ⟨"inputInt", "Formlet(Int)"⟩,
    ⟨"inputFloat", "Formlet(Float)"⟩,
    ⟨"textarea", "(String) -> Formlet(String)"⟩,
    ⟨"button", "(String) -> Formlet(())"⟩,
    ⟨"submit", "(String) -> Formlet(())"⟩,
    ⟨"choice", "([(a, String)]) -> Formlet(a)"⟩,
    ⟨"choiceDefault", "([(a, String)], a) -> Formlet(a)"⟩,
    ⟨"checkbox", "Formlet(Bool)"⟩,
    ⟨"formlets", "([Formlet(a)]) -> Formlet([a])"⟩]

/-- Databases. -/
def databases : List LibraryFunction :=
  [⟨"database", "(String) ~> Database"⟩,
    ⟨"asList", "(TableHandle(r, w, n)) ~> [r]"⟩,
    ⟨"insert", "(TableHandle(r, w, n), [r]) ~> ()"⟩]

/-- The whole library. -/
def all : List LibraryFunction :=
  output ++ conversions ++ strings ++ lists ++ optionals ++ numbers ++ web ++ formlets ++ databases

/-- The library function of that name. -/
def lookUp? (name : String) : Option LibraryFunction := all.find? (·.name == name)

/-- Whether a name belongs to the library. -/
def knows (name : String) : Bool := all.any (·.name == name)

end Library

end LinksBinding
