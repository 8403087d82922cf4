/-!
# Coordinates

Lines and columns are 32-bit words: editors exchange them as such, and a tree may name any of
them. Where the result of a sum may leave the range and only its order matters, it stops at the end
of the range (`satAdd`, `satSub`). All other sums overflow there. `add?` is a sum that gives nothing
then. A `Tally` goes on counting with the word that is left and remembers that it overflowed, so
that it can be read in both ways: with `checked?` as what stops a program that checks its sums, and
with `word` as what one that does not check them goes on with.

The laws of all of them are stated over the natural numbers.
-/

namespace LinksBinding

/-- A line or column number. -/
abbrev Coordinate := UInt32

namespace Coordinate

/-- The greatest coordinate. -/
def greatest : Coordinate := 0xFFFFFFFF

/-- Addition that stops at the greatest coordinate. -/
def satAdd (a b : Coordinate) : Coordinate := if a ≤ greatest - b then a + b else greatest

/-- Subtraction that stops at zero. -/
def satSub (a b : Coordinate) : Coordinate := if b ≤ a then a - b else 0

/-- Subtraction, `none` below zero. -/
def sub? (a b : Coordinate) : Option Coordinate := if b ≤ a then some (a - b) else none

/-- Addition, `none` above the greatest coordinate. -/
def add? (a b : Coordinate) : Option Coordinate := if a ≤ greatest - b then some (a + b) else none

/-- The coordinate with a number, if there is one. -/
def ofNat? (number : Nat) : Option Coordinate :=
  if number < UInt32.size then some (.ofNat number) else none

/-- Whether a sum fits is seen before it is made. -/
theorem le_greatest_sub_iff (a b : Coordinate) :
    a ≤ greatest - b ↔ a.toNat + b.toNat < UInt32.size := by
  have ha := a.toNat_lt
  have hb := b.toNat_lt
  have size : UInt32.size = 0xFFFFFFFF + 1 := rfl
  have top : (greatest - b).toNat = 0xFFFFFFFF - b.toNat := by
    rw [UInt32.toNat_sub_of_le]
    · rfl
    · rw [UInt32.le_iff_toNat_le]
      have : greatest.toNat = 0xFFFFFFFF := rfl
      omega
  rw [UInt32.le_iff_toNat_le, top]
  omega

theorem toNat_satAdd (a b : Coordinate) :
    (satAdd a b).toNat = min (a.toNat + b.toNat) 0xFFFFFFFF := by
  have size : UInt32.size = 0xFFFFFFFF + 1 := rfl
  unfold satAdd
  split
  · rename_i fits
    rw [le_greatest_sub_iff] at fits
    rw [UInt32.toNat_add, Nat.mod_eq_of_lt fits]
    omega
  · rename_i wide
    rw [le_greatest_sub_iff] at wide
    have : greatest.toNat = 0xFFFFFFFF := rfl
    omega

/-- A checked sum is the number of the sum of both numbers. -/
theorem add?_eq_ofNat? (a b : Coordinate) : add? a b = ofNat? (a.toNat + b.toNat) := by
  simp only [add?, ofNat?, le_greatest_sub_iff, UInt32.ofNat_add, UInt32.ofNat_toNat]

theorem ofNat?_eq_some_iff {number : Nat} {c : Coordinate} :
    ofNat? number = some c ↔ c.toNat = number := by
  have inside := c.toNat_lt
  have size : UInt32.size = 2 ^ 32 := rfl
  rw [ofNat?, Option.ite_none_right_eq_some, Option.some.injEq, ← UInt32.toNat_inj,
    UInt32.toNat_ofNat']
  constructor
  · rintro ⟨fits, same⟩
    rw [← same, Nat.mod_eq_of_lt fits]
  · rintro rfl
    exact ⟨by omega, Nat.mod_eq_of_lt inside⟩

theorem ofNat?_eq_none_iff {number : Nat} : ofNat? number = none ↔ UInt32.size ≤ number := by
  rw [ofNat?, ite_eq_right_iff]
  simp only [reduceCtorEq, imp_false, Nat.not_lt]

/-- Where subtraction does not go below zero, stopping there changes nothing. -/
theorem satSub_of_sub? {a b c : Coordinate} (below : sub? a b = some c) : satSub a b = c := by
  rw [sub?] at below
  split at below
  · rename_i fits
    cases below
    exact if_pos fits
  · cases below

theorem toNat_satSub (a b : Coordinate) : (satSub a b).toNat = a.toNat - b.toNat := by
  unfold satSub
  split
  · rename_i fits
    rw [UInt32.toNat_sub_of_le _ _ fits]
  · rename_i below
    rw [UInt32.le_iff_toNat_le] at below
    have : (0 : UInt32).toNat = 0 := rfl
    omega

end Coordinate

/-- A count in 32 bits. -/
structure Tally where
  /-- the word that is left of the count -/
  word : Coordinate
  /-- whether the count has left the range -/
  overflowed : Bool
  deriving DecidableEq, Repr

namespace Tally

/-- The tally of a number. -/
def ofNat (number : Nat) : Tally := ⟨.ofNat number, UInt32.size ≤ number⟩

/-- Counts further. -/
def add (tally : Tally) (c : Coordinate) : Tally :=
  ⟨tally.word + c, tally.overflowed || (tally.word.add? c).isNone⟩

/-- The count, if it has not left the range. -/
def checked? (tally : Tally) : Option Coordinate :=
  if tally.overflowed then none else some tally.word

@[simp] theorem word_ofNat (number : Nat) : (ofNat number).word = .ofNat number := rfl

@[simp] theorem checked?_ofNat (number : Nat) :
    (ofNat number).checked? = Coordinate.ofNat? number := by
  rw [checked?, ofNat, Coordinate.ofNat?]
  by_cases fits : number < UInt32.size
  · rw [if_pos fits, if_neg (by simpa using fits)]
  · rw [if_neg fits, if_pos (by simpa using fits)]

/-- Counting further adds to the number. -/
theorem add_ofNat (number : Nat) {more : Nat} (small : more < UInt32.size) :
    (ofNat number).add (.ofNat more) = ofNat (number + more) := by
  have size : UInt32.size = 2 ^ 32 := rfl
  have overflows : ((ofNat number).overflowed ||
      (Coordinate.add? (.ofNat number) (.ofNat more)).isNone) =
        decide (UInt32.size ≤ number + more) := by
    rw [Coordinate.add?_eq_ofNat?, UInt32.toNat_ofNat', UInt32.toNat_ofNat_of_lt' small, ofNat,
      Bool.eq_iff_iff, Bool.or_eq_true, decide_eq_true_iff, decide_eq_true_iff,
      Option.isNone_iff_eq_none, Coordinate.ofNat?_eq_none_iff]
    omega
  rw [add, word_ofNat, overflows, ofNat, UInt32.ofNat_add]

end Tally

end LinksBinding
