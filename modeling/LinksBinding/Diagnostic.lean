import LinksBinding.Json.Place
import LinksBinding.Message

/-!
# Diagnostics

A problem as editors are told about it: a message on a range, with the advice on what to do about
it as related information on the same range. Diagnostics are reported in the order of their
ranges, and on one range in the order of their codes.

When a diagnostic is written, fields that are absent are left out.
-/

namespace LinksBinding

open Json

/-- The name that diagnostics give as where they come from. -/
def diagnosticSource : String := "linkscope"

/-- A remark that belongs to a diagnostic. -/
structure RelatedInformation where
  /-- where it applies -/
  location : Location
  /-- what it says -/
  message : String
  deriving DecidableEq, Repr

/-- A problem in a document. -/
structure Diagnostic where
  /-- where it is -/
  range : Range
  /-- how severe it is -/
  severity : Option Severity
  /-- the number of its kind -/
  code : Option Coordinate
  /-- what reports it -/
  source : Option String
  /-- what is wrong -/
  message : String
  /-- further remarks -/
  relatedInformation : Option (List RelatedInformation)
  deriving DecidableEq, Repr

namespace Diagnostic

/-- A diagnostic with its advice on the same range. -/
def withHint (category : Category) (code : Coordinate) (message hint : String) (range : Range)
    (uri : String) : Diagnostic where
  range := range
  severity := some category.severity
  code := some code
  source := some diagnosticSource
  message := message
  relatedInformation := some [⟨⟨uri, range⟩, hint⟩]

/-- The diagnostic of a kind of problem on a range. -/
def ofTemplate (template : MessageTemplate) (arguments : List String) (range : Range)
    (uri : String) : Diagnostic :=
  withHint template.category template.code (fill template.message arguments)
    (fill template.hint arguments) range uri

/-- The number that diagnostics on one range are ordered by; those without a code come first. -/
def codeRank (d : Diagnostic) : Nat :=
  match d.code with
  | none => 0
  | some code => code.toNat + 1

/-- Diagnostics are reported by range, then by code. -/
def precedesOrEquals (a b : Diagnostic) : Bool :=
  if a.range = b.range then a.codeRank ≤ b.codeRank else a.range.precedesOrEquals b.range

/-- The diagnostics in the order they are reported in. -/
def inOrder (diagnostics : List Diagnostic) : List Diagnostic :=
  diagnostics.mergeSort precedesOrEquals

end Diagnostic

/-! ## Exchanged form -/

/-- A severity as a value. -/
def Severity.toJson (s : Severity) : Json := .ofNat s.number

/-- Reads a severity. -/
def Severity.ofJson? (value : Json) : Option Severity :=
  (value.natBelow? UInt8.size).bind ofNumber?

/-- A remark as a value. -/
def RelatedInformation.toJson (r : RelatedInformation) : Json :=
  .object [("location", r.location.toJson), ("message", .string r.message)]

/-- Reads a remark. -/
def RelatedInformation.ofJson? (value : Json) : Option RelatedInformation := do
  match ← parts? .complete ["location", "message"] value with
  | [location, message] =>
    return ⟨← required? Location.ofJson? location, ← required? string? message⟩
  | _ => none

namespace Diagnostic

/-- A field, if there is a value for it. -/
def presentField {α : Type} (name : String) (encode : α → Json) (value : Option α) :
    List (String × Json) :=
  value.toList.map fun a => (name, encode a)

/-- A diagnostic as a value. -/
def toJson (d : Diagnostic) : Json :=
  .object <|
    [("range", d.range.toJson)] ++ presentField "severity" Severity.toJson d.severity ++
      presentField "code" Coordinate.toJson d.code ++ presentField "source" .string d.source ++
      [("message", .string d.message)] ++
      presentField "relatedInformation" (.ofList RelatedInformation.toJson) d.relatedInformation

/-- Reads a diagnostic. -/
def ofJson? (value : Json) : Option Diagnostic := do
  match ← parts? .complete
      ["range", "severity", "code", "source", "message", "relatedInformation"] value with
  | [range, severity, code, source, message, related] =>
    return ⟨← required? Range.ofJson? range, ← optional? Severity.ofJson? severity,
      ← optional? Coordinate.ofJson? code, ← optional? string? source,
      ← required? string? message, ← optional? (list? RelatedInformation.ofJson?) related⟩
  | _ => none

end Diagnostic

end LinksBinding
