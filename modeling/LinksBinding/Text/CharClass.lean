import LinksBinding.Text.CharTable

/-!
# Character classes

Which characters separate words, which stand in a name, and which a reader of interpreter output
takes for digits or word characters. All of them range over the whole of Unicode: a Links
identifier may be written in any script.

The classes are decided by one search through an ascending table, `inRanges`; `inRanges_iff` says
that the early exit of the search loses nothing.
-/

namespace LinksBinding.Text

/-- Whether `code` lies in one of the ranges. The ranges ascend, so the search ends at the first
one that starts above `code`. -/
def inRanges : List (Nat × Nat) → Nat → Bool
  | [], _ => false
  | (low, high) :: rest, code =>
    if code < low then false else if code ≤ high then true else inRanges rest code

/-- A table is ascending when every range ends below the start of all later ones. -/
def Ascending (ranges : List (Nat × Nat)) : Prop :=
  ranges.Pairwise fun earlier later => earlier.2 < later.1

/-- On an ascending table of proper ranges the search is membership. -/
theorem inRanges_iff {ranges : List (Nat × Nat)} (ascending : Ascending ranges)
    (proper : ∀ r ∈ ranges, r.1 ≤ r.2) (code : Nat) :
    inRanges ranges code = true ↔ ∃ r ∈ ranges, r.1 ≤ code ∧ code ≤ r.2 := by
  induction ranges with
  | nil => simp [inRanges]
  | cons head rest ih =>
    obtain ⟨low, high⟩ := head
    obtain ⟨above, ascending⟩ := List.pairwise_cons.mp ascending
    have ih := ih ascending fun r member => proper r (List.mem_cons_of_mem _ member)
    have lowHigh : low ≤ high := proper (low, high) List.mem_cons_self
    simp only [inRanges, List.mem_cons]
    by_cases below : code < low
    · simp only [below, ↓reduceIte, Bool.false_eq_true, false_iff]
      rintro ⟨r, rfl | member, start, _⟩
      · exact absurd start (by simpa using below)
      · have := above r member
        simp only at this
        omega
    · by_cases inside : code ≤ high
      · simp only [below, inside, ↓reduceIte, true_iff]
        exact ⟨(low, high), .inl rfl, by simp; omega, inside⟩
      · simp only [below, inside, ↓reduceIte, ih]
        constructor
        · rintro ⟨r, member, range⟩
          exact ⟨r, .inr member, range⟩
        · rintro ⟨r, rfl | member, range⟩
          · exact absurd range.2 (by simpa using inside)
          · exact ⟨r, member, range⟩

/-- White space of any kind, line breaks included. -/
def isBlank (c : Char) : Bool := inRanges blankRanges c.toNat

/-- A letter of any script. -/
def isLetter (c : Char) : Bool :=
  inRanges letterRanges c.toNat || inRanges newLetterRanges c.toNat

/-- A decimal digit of any script. -/
def isDigit (c : Char) : Bool := inRanges digitRanges c.toNat

/-- A digit, letter number or other number of any script. -/
def isNumber (c : Char) : Bool :=
  inRanges numberRanges c.toNat || inRanges newNumberRanges c.toNat

/-- A letter or a number. -/
def isAlphanumeric (c : Char) : Bool := isLetter c || isNumber c

/-- What an identifier is made of: letters, numbers, underscores and apostrophes. -/
def isNameChar (c : Char) : Bool := isAlphanumeric c || c == '_' || c == '\''

/-- What a word of running text is made of: letters, digits, marks and joining punctuation. Running
text is read without the letters of the newest edition, which names may have. -/
def isWordChar (c : Char) : Bool :=
  inRanges letterRanges c.toNat || isDigit c || inRanges joiningRanges c.toNat

/-- A digit of the decimal notation that numbers are read in. -/
def isAsciiDigit (c : Char) : Bool := '0' ≤ c && c ≤ '9'

end LinksBinding.Text
