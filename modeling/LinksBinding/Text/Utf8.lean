/-!
# Bytes as text

Reading bytes as UTF-8 when they need not be. What is well formed is decoded; for the rest, each
longest piece that could have begun a character, and each byte that could not, becomes one
replacement character.
-/

namespace LinksBinding.Text

/-- A run of bytes. -/
abbrev Bytes := List UInt8

/-- The UTF-8 form of a text. -/
def encodeUtf8 (text : String) : Bytes := text.toUTF8.toList

/-- What stands for bytes that are no text. -/
def replacement : Char := '\uFFFD'

/-- The lowest and the highest second byte behind a first one, the number of bytes behind the
second, and the bits of the first byte that count. `none` for bytes that begin no character of
several bytes. -/
def leadByte? (b : UInt8) : Option (UInt8 × UInt8 × Nat × Nat) :=
  let n := b.toNat
  if 0xC2 ≤ n && n ≤ 0xDF then some (0x80, 0xBF, 0, n - 0xC0)
  else if n = 0xE0 then some (0xA0, 0xBF, 1, 0)
  else if n = 0xED then some (0x80, 0x9F, 1, 0xD)
  else if 0xE1 ≤ n && n ≤ 0xEF then some (0x80, 0xBF, 1, n - 0xE0)
  else if n = 0xF0 then some (0x90, 0xBF, 2, 0)
  else if 0xF1 ≤ n && n ≤ 0xF3 then some (0x80, 0xBF, 2, n - 0xF0)
  else if n = 0xF4 then some (0x80, 0x8F, 2, 4)
  else none

/-- The state of the decoder between two bytes. -/
inductive Pending where
  /-- no character is begun -/
  | none
  /-- a character is begun: `bits` are read, the next byte is between `low` and `high`, and `more`
  bytes follow it -/
  | begun (bits : Nat) (low high : UInt8) (more : Nat)

/-- Reads a byte where no character is begun. -/
def beginByte (b : UInt8) : List Char × Pending :=
  if b < 0x80 then ([Char.ofNat b.toNat], .none)
  else match leadByte? b with
    | some (low, high, more, bits) => ([], .begun bits low high more)
    | Option.none => ([replacement], .none)

/-- Reads a byte: the characters that are now known, and the state behind it. -/
def decodeByte (pending : Pending) (b : UInt8) : List Char × Pending :=
  match pending with
  | .none => beginByte b
  | .begun bits low high more =>
    if low ≤ b && b ≤ high then
      let bits := bits * 64 + (b.toNat - 0x80)
      match more with
      | 0 => ([Char.ofNat bits], .none)
      | more + 1 => ([], .begun bits 0x80 0xBF more)
    else
      let (found, next) := beginByte b
      (replacement :: found, next)

/-- The characters of bytes behind a state. -/
def decodeFrom (pending : Pending) : Bytes → List Char
  | [] =>
    match pending with
    | .none => []
    | .begun .. => [replacement]
  | b :: rest =>
    let (found, next) := decodeByte pending b
    found ++ decodeFrom next rest

/-- The text of bytes. -/
def decodeUtf8 (data : Bytes) : String := String.ofList (decodeFrom .none data)

end LinksBinding.Text
