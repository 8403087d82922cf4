import LinksBinding.Shell.Octets

/-!
# Permissions

What users may do with a file: three bits for each class of users. Permissions are changed by
clauses, which name classes of users, an operator and letters.
-/

namespace LinksBinding.Shell

/-- The permissions of one class of users in letters. -/
def permissionLetters (bits : Nat) : Octets :=
  [(4, 'r'), (2, 'w'), (1, 'x')].filterMap fun (bit, c) =>
    if bits &&& bit != 0 then some c else none

/-- Changes permissions as a clause says: classes of users, an operator and letters. -/
def applyClause (mode : Nat) (clause : Octets) : Option Nat := do
  let users := clause.takeWhile fun c => (octets "ugoa").contains c
  let users := if users.isEmpty || users.contains 'a' then octets "ugo" else users
  let rest := clause.dropWhile fun c => (octets "ugoa").contains c
  match rest with
  | [] => none
  | sign :: letters =>
    if !(sign == '+' || sign == '-' || sign == '=') then none
    else
      let bits ← letters.foldlM
        (fun bits c => match c with
          | 'r' => some (bits ||| 4)
          | 'w' => some (bits ||| 2)
          | 'x' | 'X' => some (bits ||| 1)
          | _ => none)
        0
      let spread (bits : Nat) : Nat :=
        (if users.contains 'u' then bits * 64 else 0) +
          (if users.contains 'g' then bits * 8 else 0) + if users.contains 'o' then bits else 0
      match sign with
      | '+' => some (mode ||| spread bits)
      | '-' => some (mode &&& (511 - spread bits))
      | _ => some ((mode &&& (511 - spread 7)) ||| spread bits)

/-- Changes permissions as several clauses say. -/
def applyClauses (mode : Nat) (text : Octets) : Option Nat :=
  (text.splitOn ',').foldlM applyClause mode

/-- All permissions in letters, those of the owner first. -/
def modeLetters (mode : Nat) : Octets :=
  [64, 8, 1].flatMap fun weight =>
    [(4, 'r'), (2, 'w'), (1, 'x')].map fun (bit, c) =>
      if (mode / weight) &&& bit != 0 then c else '-'

end LinksBinding.Shell
