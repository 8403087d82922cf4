import LinksBinding.Shell.Utility.Options

/-!
# Copying by size

The programs that copy or cut data by numbers of bytes: `dd` and `truncate`.
-/

namespace LinksBinding.Shell

open Text Session

/-- The number of bytes that octets name, with a letter for the unit. -/
def byteCount? (text : Octets) : Option Nat := do
  let figures := text.takeWhile Char.isDigit
  let n ← natOf? figures
  let unit : Nat ← match nameOf (text.drop figures.length) with
    | "" | "c" => some 1
    | "w" => some 2
    | "b" => some 512
    | "K" | "k" | "KiB" => some 1024
    | "kB" | "KB" => some 1000
    | "M" | "MiB" => some 1048576
    | "MB" => some 1000000
    | "G" | "GiB" => some 1073741824
    | _ => none
  return n * unit

/-- How data is changed when it is copied. -/
def converted (rule : String) (data : Octets) : Octets :=
  match rule with
  | "ucase" => data.map Char.toUpper
  | "lcase" => data.map Char.toLower
  | _ => data

/-- Counts whole blocks and those that are shorter. -/
def blockCounts (size length : Nat) : Octets :=
  digits (length / size) ++ '+' :: digits (if length % size == 0 then 0 else 1)

/-- The operands of `dd`: names and values. -/
def namedOperands (words : List Octets) : Except Octets (List (String × Octets)) :=
  words.mapM fun word =>
    match cutAtChar? '=' word with
    | some (name, value) =>
      if ["if", "of", "bs", "ibs", "obs", "count", "skip", "seek", "conv", "status", "iflag",
          "oflag"].contains (nameOf name) then
        .ok (nameOf name, value)
      else .error word
    | none => .error word

/-- The program `dd`. -/
def dd : Program := fun _ words => do
  match namedOperands words with
  | .error word => failUsage "dd" 1 (octets "unrecognized operand " ++ quotedName word)
  | .ok operands =>
    let last? (name : String) : Option Octets := operands.reverse.lookup name
    let numbers := ["bs", "ibs", "obs", "count", "skip", "seek"].filterMap last?
    match numbers.find? fun text => (byteCount? text).isNone with
    | some text => failWith "dd" 1 (octets "invalid number: " ++ quotedName text)
    | none =>
      let number (name : String) (other : Nat) : Nat :=
        ((last? name).bind byteCount?).getD other
      let size := max 1 (number "bs" (number "ibs" 512))
      let saved := (← process).descriptors
      let opened ← match last? "if" with
        | some path =>
          match ← openPath .read path with
          | .ok index =>
            connect 0 index
            pure none
          | .error error => pure (some (path, error))
        | none => pure none
      match opened with
      | some (path, error) =>
        failWith "dd" 1 (octets "failed to open " ++ quotedName path ++
          octets (": " ++ error.message))
      | none =>
        let _ ← readUntil 0 (fun _ => false) (size * number "skip" 0)
        let limit := (last? "count").bind byteCount?
        let (data, _) ← readUntil 0 (fun _ => false)
          (match limit with
            | some count => size * count
            | none => noLimit)
        let rules := (((last? "conv").getD []).splitOn ',').map nameOf
        let written := rules.foldl (fun data rule => converted rule data) data
        let failed ← match last? "of" with
          | some path =>
            let use := if rules.contains "notrunc" then FileUse.readWrite else .overwrite
            match ← openPath use path with
            | .ok index =>
              modifyDescription index ({ · with offset := size * number "seek" 0 })
              let _ ← writeTo index written
              pure none
            | .error error => pure (some (path, error))
          | none =>
            put written
            pure none
        modifyProcess ({ · with descriptors := saved })
        match failed with
        | some (path, error) =>
          failWith "dd" 1 (octets "failed to open " ++ quotedName path ++
            octets (": " ++ error.message))
        | none =>
          let status := (last? "status").map nameOf
          if status != some "none" then
            let counts := blockCounts size data.length
            putErrorLine (counts ++ octets " records in\n" ++ counts ++ octets " records out")
            if status != some "noxfer" then
              putErrorLine (digits data.length ++ octets " bytes copied, 0.0001 s, 1.0 MB/s")

/-- The program `truncate`. -/
def truncate : Program := fun _ words =>
  withArguments "truncate"
    { plain := "co", valued := "sr",
      long := [("no-create", 'c'), ("size", 's'), ("reference", 'r')] } words fun a => do
    match a.value? 's' with
    | none => failUsage "truncate" 1 (octets "you must specify either ‘--size’ or ‘--reference’")
    | some text =>
      let sign := text.head?.filter fun c => (octets "+-<>/%").contains c
      match byteCount? (if sign.isSome then text.drop 1 else text) with
      | none => failWith "truncate" 1 (octets "Invalid number: " ++ cited text)
      | some n =>
        if a.operands.isEmpty then failUsage "truncate" 1 (octets "missing file operand")
        for path in a.operands do
          let data := (← readFile path).toOption
          if data.isSome || !a.has 'c' then
            let old := data.getD []
            let size := match sign with
              | some '+' => old.length + n
              | some '-' => old.length - n
              | some '<' => min old.length n
              | some '>' => max old.length n
              | _ => n
            let zeros := List.replicate (size - old.length) (Char.ofNat 0)
            match ← writeFile .write path (old.take size ++ zeros) with
            | .ok () => pure ()
            | .error error =>
              failWith "truncate" 1 (octets "cannot open " ++ quotedName path ++
                octets (" for writing: " ++ error.message))

end LinksBinding.Shell
