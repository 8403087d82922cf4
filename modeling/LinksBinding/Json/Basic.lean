/-!
# JSON values

The values that trees, options and answers are exchanged as. Fields of an object keep their order
and may repeat: what a repeated field means is for the reader of the object to say.

No message holds a number with a fraction or an exponent, so such a number is kept as it is
written and never evaluated.

Two things satisfy the grammar and have no value all the same: a string with half of a surrogate
pair, and a number beyond the range of a double. They read as `unreadable`, as does an object with
such a string for a field name. A reader that must understand a value refuses them, and one that
passes over it does not look.
-/

namespace LinksBinding

/-- A JSON value. -/
inductive Json where
  /-- the null value -/
  | null
  /-- a truth value -/
  | bool (value : Bool)
  /-- a number written without fraction and exponent -/
  | integer (value : Int)
  /-- any other number, as written -/
  | decimal (literal : String)
  /-- a string -/
  | string (value : String)
  /-- an array -/
  | array (items : List Json)
  /-- an object with its fields in order -/
  | object (fields : List (String × Json))
  /-- well formed, but without a value -/
  | unreadable
  deriving Repr, Inhabited

namespace Json

/-- The string, of a string value. -/
def string? : Json → Option String
  | .string value => some value
  | _ => none

/-- The items, of an array. -/
def array? : Json → Option (List Json)
  | .array items => some items
  | _ => none

/-- The truth value, of a truth value. -/
def bool? : Json → Option Bool
  | .bool value => some value
  | _ => none

/-- A natural number below `bound`. -/
def natBelow? (bound : Nat) : Json → Option Nat
  | .integer (.ofNat n) => if n < bound then some n else none
  | _ => none

/-- The strings of an array of strings. -/
def strings? (value : Json) : Option (List String) :=
  value.array?.bind (·.mapM string?)

/-- The first field of that name, of an object. -/
def field? (name : String) : Json → Option Json
  | .object fields => fields.lookup name
  | _ => none

/-- A natural number as a value. -/
def ofNat (n : Nat) : Json := .integer (.ofNat n)

/-- A value that may be absent; absence is written as null. -/
def ofOption {α : Type} (encode : α → Json) : Option α → Json
  | some a => encode a
  | none => .null

/-- A list as an array. -/
def ofList {α : Type} (encode : α → Json) (items : List α) : Json := .array (items.map encode)

mutual
/-- Whether the value and all values inside it can be understood. -/
def isReadable : Json → Bool
  | .unreadable => false
  | .array items => areReadable items
  | .object fields => fieldsAreReadable fields
  | _ => true

/-- `isReadable` for each item of an array. -/
def areReadable : List Json → Bool
  | [] => true
  | item :: rest => isReadable item && areReadable rest

/-- `isReadable` for each field of an object. -/
def fieldsAreReadable : List (String × Json) → Bool
  | [] => true
  | (_, value) :: rest => isReadable value && fieldsAreReadable rest
end

mutual
/-- How many arrays and objects are nested in the value, itself included. -/
def depth : Json → Nat
  | .array items => depthOfItems items + 1
  | .object fields => depthOfFields fields + 1
  | _ => 0

/-- The greatest depth of the items of an array. -/
def depthOfItems : List Json → Nat
  | [] => 0
  | item :: rest => max (depth item) (depthOfItems rest)

/-- The greatest depth of the fields of an object. -/
def depthOfFields : List (String × Json) → Nat
  | [] => 0
  | (_, value) :: rest => max (depth value) (depthOfFields rest)
end

end Json

end LinksBinding
