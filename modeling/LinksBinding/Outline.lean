import LinksBinding.Hover

/-!
# The outline of a document

Functions, and below each the functions and variables declared inside it. Parameters, loop
variables and the like are left out, and so are declarations without a place in the text; what is
declared inside those moves up to where they would stand.
-/

namespace LinksBinding

open Json

/-- What an entry of the outline is. -/
inductive SymbolKind where
  | function
  | variable
  deriving DecidableEq, Repr

namespace SymbolKind

/-- The number that editors know the kind by. -/
def number : SymbolKind → Nat
  | .function => 12
  | .variable => 13

/-- The kind of a number. -/
def ofNumber? : Nat → Option SymbolKind
  | 12 => some .function
  | 13 => some .variable
  | _ => none

theorem ofNumber?_number (kind : SymbolKind) : ofNumber? kind.number = some kind := by
  cases kind <;> rfl

/-- A kind as a value. -/
def toJson (kind : SymbolKind) : Json := .ofNat kind.number

/-- Reads a kind. -/
def ofJson? (value : Json) : Option SymbolKind := (value.natBelow? UInt8.size).bind ofNumber?

end SymbolKind

/-- What an entry of the outline says of one declaration. -/
structure SymbolHead where
  /-- the name -/
  name : String
  /-- the head of a function -/
  detail : Option String
  /-- what is declared -/
  kind : SymbolKind
  /-- the whole declaration -/
  range : Range
  /-- the name in it -/
  selectionRange : Range
  /-- the function around it -/
  containerName : Option String
  deriving DecidableEq, Repr

/-- An entry of the outline, with the entries below it. -/
inductive DocumentSymbol where
  /-- an entry -/
  | entry (head : SymbolHead) (children : List DocumentSymbol)
  deriving Repr

namespace DocumentSymbol

mutual
/-- An entry as a value. -/
def toJson : DocumentSymbol → Json
  | .entry head children =>
    .object [("name", .string head.name), ("detail", .ofOption .string head.detail),
      ("kind", head.kind.toJson), ("range", head.range.toJson),
      ("selectionRange", head.selectionRange.toJson),
      ("containerName", .ofOption .string head.containerName),
      ("children", .array (toJsonList children))]

/-- Entries as values. -/
def toJsonList : List DocumentSymbol → List Json
  | [] => []
  | symbol :: rest => toJson symbol :: toJsonList rest
end

/-- Reads an entry that is at most `fuel` levels deep. -/
def ofJsonWithin? : (fuel : Nat) → Json → Option DocumentSymbol
  | 0, _ => none
  | fuel + 1, value => do
    match ← parts? .complete
        ["name", "detail", "kind", "range", "selectionRange", "containerName", "children"]
        value with
    | [name, detail, kind, range, selection, container, children] =>
      return .entry
        ⟨← required? string? name, ← optional? string? detail, ← required? SymbolKind.ofJson? kind,
          ← required? Range.ofJson? range, ← required? Range.ofJson? selection,
          ← optional? string? container⟩
        (← required? (list? (ofJsonWithin? fuel)) children)
    | _ => none

/-- Reads an entry. No entry is deeper than the value it is read from. -/
def ofJson? (value : Json) : Option DocumentSymbol := ofJsonWithin? (value.depth + 1) value

end DocumentSymbol

namespace Analysis

/-- What the outline says of a declaration; nothing of those it leaves out. -/
def symbolHead? (analysis : Analysis) (container : Option String) (id : NodeId) :
    Option SymbolHead := do
  let declaration ← analysis.index.declarationAt? id
  let kind ← match declaration.kind with
    | .function => some SymbolKind.function
    | .binder .letBinding => some SymbolKind.variable
    | .binder _ => none
  let selection ← analysis.nameRange? id
  let range := (analysis.range? id).getD selection
  return ⟨declaration.name, analysis.tree.signature? id, kind, range, selection, container⟩

/-- The entries for a child of a node, where `below` gives those for what lies below the child. -/
def entriesAt {m : Type → Type} [Monad m] (analysis : Analysis)
    (below : (container : Option String) → NodeId → m (List DocumentSymbol))
    (container : Option String) (child : NodeId) : m (List DocumentSymbol) := do
  match analysis.symbolHead? container child with
  | some head =>
    match head.kind with
    | .function => return [.entry head (← below (some head.name) child)]
    | .variable => return [.entry head []]
  | none => below container child

/-- The entries for what lies at most `fuel` levels below a node. A node that has been visited is
left out; the state are the nodes visited so far. -/
def collect (analysis : Analysis) : (fuel : Nat) → (container : Option String) → NodeId →
    StateM (List NodeId) (List DocumentSymbol)
  | 0, _, _ => return []
  | fuel + 1, container, id => do
    let entries ← (analysis.tree.children id).mapM fun child => do
      if child ∈ (← get) then return []
      modify (child :: ·)
      analysis.entriesAt (analysis.collect fuel) container child
    return entries.flatten

/-- The outline of a document. -/
def outline (analysis : Analysis) : List DocumentSymbol :=
  ((analysis.collect analysis.tree.size none SyntaxTree.root).run []).run.1

end Analysis

end LinksBinding
