import LinksBinding.Analysis

/-!
# Going to definitions and finding references

What an editor asks about the name at a position: where it is declared, and where else it is
used. A declaration counts as a reference to itself.
-/

namespace LinksBinding

open Json

/-- A place where a declared name stands. -/
structure Reference where
  /-- where it stands -/
  location : Location
  /-- whether the name is declared here -/
  isDefinition : Bool
  /-- the whole line it stands on -/
  lineText : String
  deriving DecidableEq, Repr

/-- A reference as a value. A name is written to only where it is declared. -/
def Reference.toJson (r : Reference) : Json :=
  .object [("uri", .string r.location.uri), ("range", r.location.range.toJson),
    ("isWriteAccess", .bool r.isDefinition), ("isDefinition", .bool r.isDefinition),
    ("lineText", .string r.lineText)]

/-- A range where a name stands, and whether it is declared there. -/
structure NamedRange where
  /-- where the name stands -/
  range : Range
  /-- whether it is declared there -/
  isDefinition : Bool
  deriving DecidableEq, Repr

/-- The ranges in document order, those at one place as they come. -/
def NamedRange.inOrder (ranges : List NamedRange) : List NamedRange :=
  ranges.mergeSort fun a b => a.range.precedesOrEquals b.range

namespace Analysis

/-- Where the name at a position is declared. Library functions and undefined names are declared
nowhere. -/
def definition? (analysis : Analysis) (position : Position) : Option Location := do
  let declaration ← analysis.declarationAt? position
  let range ← analysis.nameRange? declaration.node
  return ⟨analysis.uri, range⟩

/-- Where the name of a declaration stands: at the declaration and at its uses, as far as they have
a range. -/
def referenceRanges (analysis : Analysis) (declaration : NodeId) : List NamedRange :=
  ((analysis.nameRange? declaration).map (⟨·, true⟩)).toList ++
    (analysis.index.occurrencesOf declaration).filterMap fun occurrence =>
      (analysis.nameRange? occurrence.node).map (⟨·, false⟩)

/-- A reference on a range. -/
def toReference (analysis : Analysis) (named : NamedRange) : Reference :=
  ⟨⟨analysis.uri, named.range⟩, named.isDefinition, analysis.lineText named.range.start.line⟩

/-- The references to what the name at a position stands for, by position. -/
def references (analysis : Analysis) (position : Position) : List Reference :=
  match analysis.declarationAt? position with
  | some declaration =>
    (NamedRange.inOrder (analysis.referenceRanges declaration.node)).map analysis.toReference
  | none => []

end Analysis

end LinksBinding
