import LinksBinding.Shell.Digest
import LinksBinding.Shell.Utility.Options

/-!
# Encodings and digests of files

The programs `base64`, `cksum` and those that write digests.
-/

namespace LinksBinding.Shell

open Text Session

/-! ## Encoding -/

/-- The signs for six bits. -/
def sixBitSigns : Array Char :=
  (octets "ABCDEFGHIJKLMNOPQRSTUVWXYZabcdefghijklmnopqrstuvwxyz0123456789+/").toArray

/-- Octets in signs for six bits each. -/
def encodeBase64 : Octets → Octets
  | a :: b :: c :: rest =>
    let n := Digest.numberOf [a, b, c]
    [n >>> 18, n >>> 12, n >>> 6, n].map (fun i => sixBitSigns.getD (i % 64) '=') ++
      encodeBase64 rest
  | [a, b] =>
    let n := Digest.numberOf [a, b] * 4
    [n >>> 12, n >>> 6, n].map (fun i => sixBitSigns.getD (i % 64) '=') ++ ['=']
  | [a] =>
    let n := a.toNat * 16
    [n >>> 6, n].map (fun i => sixBitSigns.getD (i % 64) '=') ++ ['=', '=']
  | [] => []

/-- The octets of signs for six bits each, and whether that is all they are. -/
def decodeBase64 : Octets → Octets × Bool
  | [] => ([], true)
  | a :: b :: c :: d :: rest =>
    let value? (sign : Char) : Option Nat := sixBitSigns.findIdx? (· == sign)
    match value? a, value? b, value? c, value? d with
    | some w, some x, some y, some z =>
      let (others, whole) := decodeBase64 rest
      (Digest.bigEndian 3 (((w * 64 + x) * 64 + y) * 64 + z) ++ others, whole)
    | some w, some x, some y, none =>
      ((Digest.bigEndian 3 (((w * 64 + x) * 64 + y) * 64)).take 2, d == '=' && rest.isEmpty)
    | some w, some x, none, none =>
      ((Digest.bigEndian 3 ((w * 64 + x) * 4096)).take 1,
        c == '=' && d == '=' && rest.isEmpty)
    | _, _, _, _ => ([], false)
  | _ => ([], false)

/-- The program `base64`. -/
def base64 : Program := fun _ words =>
  withArguments "base64"
    { plain := "di", valued := "w",
      long := [("decode", 'd'), ("ignore-garbage", 'i'), ("wrap", 'w')] } words fun a => do
    let width := (((a.value? 'w').bind natOf?).getD 76)
    let path := a.operands.headD ['-']
    match ← readInput path with
    | .error error => failWith "base64" 1 (shownName path ++ octets (": " ++ error.message))
    | .ok data =>
      if a.has 'd' then
        let (decoded, whole) := decodeBase64 (data.filter (· != '\n'))
        put decoded
        if !whole then failWith "base64" 1 (octets "invalid input")
      else
        let encoded := encodeBase64 data
        if width == 0 then put encoded
        else
          put (unlines (Digest.piecesOf width (encoded.length + 1) encoded))

/-! ## Digests -/

/-- The programs that write a digest of each file. -/
def digestProgram (name : String) (digest : Octets → Octets) : Program := fun _ words =>
  withArguments name
    { plain := "btz", long := [("binary", 'b'), ("text", 't'), ("zero", 'z')] } words fun a => do
    let mark := if a.last? ['b', 't'] == some 'b' then '*' else ' '
    for (path, data) in ← readInputs name shownName (inputPaths a.operands) do
      put (digest data ++ ' ' :: mark :: path ++ [if a.has 'z' then Char.ofNat 0 else '\n'])

/-- The program `cksum`. -/
def cksum : Program := fun _ words =>
  withArguments "cksum" { plain := "" } words fun a => do
    for (path, data) in ← readInputs "cksum" shownName (inputPaths a.operands) do
      let name := if a.operands.isEmpty then [] else ' ' :: path
      put (digits (Digest.crc data) ++ ' ' :: digits data.length ++ name ++ ['\n'])

end LinksBinding.Shell
