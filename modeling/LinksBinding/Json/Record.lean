import LinksBinding.Json.Basic

/-!
# Records in JSON

A record is written as an object with a field for each of its parts, or as an array of the parts
in order. Fields of other names are passed over; a field that is given twice is an error.

`RecordRule` says what becomes of an array that is too short: parts with a default may be missing
at its end, other records must be complete.
-/

namespace LinksBinding.Json

/-- Whether an array may leave out parts at its end. -/
inductive RecordRule where
  /-- every part must be there -/
  | complete
  /-- parts at the end may be missing -/
  | defaulted
  deriving DecidableEq, Repr

/-- The field of that name, `none` when it is given twice. -/
def uniqueField? (fields : List (String × Json)) (name : String) : Option (Option Json) :=
  match fields.filter (·.1 == name) with
  | [] => some none
  | [(_, value)] => some (some value)
  | _ => none

/-- The parts of a record by the order of their names, each missing or there. `none` when the value
is no record of these names. -/
def parts? (rule : RecordRule) (names : List String) : Json → Option (List (Option Json))
  | .object fields => names.mapM (uniqueField? fields)
  | .array items =>
    if items.length = names.length ∨ (rule = .defaulted ∧ items.length ≤ names.length) then
      some (items.map some ++ List.replicate (names.length - items.length) none)
    else none
  | _ => none

/-- A part that must be there. -/
def required? {α : Type} (decode : Json → Option α) (part : Option Json) : Option α :=
  part.bind decode

/-- A part that may be missing or null. -/
def optional? {α : Type} (decode : Json → Option α) : Option Json → Option (Option α)
  | none | some .null => some none
  | some value => (decode value).map some

/-- A part with a default for when it is missing. -/
def defaulted? {α : Type} (default : α) (decode : Json → Option α) : Option Json → Option α
  | none => some default
  | some value => decode value

/-- An array of values. -/
def list? {α : Type} (decode : Json → Option α) (value : Json) : Option (List α) :=
  value.array?.bind (·.mapM decode)

end LinksBinding.Json
