import LinksBinding.Text.CharClass

/-!
# Trimming and splitting

Small operations on the characters of a text: removing white space at either end, cutting at a
separator, cutting into lines at line feeds.
-/

namespace LinksBinding.Text

/-- The text without the characters of class `p` at its end. -/
def dropEndWhile (p : Char → Bool) (text : List Char) : List Char :=
  (text.reverse.dropWhile p).reverse

/-- The text without white space at its start. -/
def trimStart (text : List Char) : List Char := text.dropWhile isBlank

/-- The text without white space at its end. -/
def trimEnd (text : List Char) : List Char := dropEndWhile isBlank text

/-- The text without white space at either end. -/
def trim (text : List Char) : List Char := trimEnd (trimStart text)

/-- `String` form of `trim`. -/
def trimString (text : String) : String := String.ofList (trim text.toList)

/-- Trimming leaves a text alone in which there is no white space. -/
theorem trim_eq_self {text : List Char} (solid : ∀ c ∈ text, isBlank c = false) :
    trim text = text := by
  have kept : ∀ text : List Char, (∀ c ∈ text, isBlank c = false) →
      text.dropWhile isBlank = text := by
    intro text solid
    cases text with
    | nil => rfl
    | cons c rest => simp [solid c List.mem_cons_self]
  rw [trim, trimStart, trimEnd, dropEndWhile, kept text solid, kept, List.reverse_reverse]
  exact fun c mem => solid c (List.mem_reverse.mp mem)

/-- The parts before and after the first `separator`, `none` when it does not occur. -/
def cutAt (separator : Char) : List Char → Option (List Char × List Char)
  | [] => none
  | c :: rest =>
    if c = separator then some ([], rest)
    else (cutAt separator rest).map fun (before, after) => (c :: before, after)

/-- A text is cut behind a part in which the separator does not occur. -/
theorem cutAt_append {separator : Char} {before : List Char} (free : separator ∉ before)
    (after : List Char) : cutAt separator (before ++ separator :: after) = some (before, after) := by
  induction before with
  | nil => rw [List.nil_append, cutAt, if_pos rfl]
  | cons c rest ih =>
    obtain ⟨differ, free⟩ := not_or.mp (mt List.mem_cons.mpr free)
    rw [List.cons_append, cutAt, if_neg (Ne.symm differ), ih free, Option.map_some]

/-- The part of `text` after a leading `start`, `none` when it does not start so. -/
def stripStart? : (start text : List Char) → Option (List Char)
  | [], text => some text
  | _ :: _, [] => none
  | s :: start, c :: text => if s = c then stripStart? start text else none

theorem stripStart?_eq_some_iff {start text rest : List Char} :
    stripStart? start text = some rest ↔ text = start ++ rest := by
  induction start generalizing text with
  | nil => simp [stripStart?]
  | cons s start ih =>
    cases text with
    | nil => simp [stripStart?]
    | cons c text =>
      by_cases h : s = c
      · simp [stripStart?, h, ih]
      · simp [stripStart?, h, Ne.symm h]

/-- The text without one carriage return at its end. -/
def dropReturn (text : List Char) : List Char :=
  if text.getLast? = some '\r' then text.dropLast else text

/-- The pieces between the line feeds of a text; one more than there are line feeds. -/
def splitAtFeeds (text : List Char) : List (List Char) := text.splitOn '\n'

/-- The lines a terminal shows: each ends at a line feed, which takes a carriage return directly
before it along, and a final line feed opens no further line. -/
def terminalLines (text : List Char) : List (List Char) :=
  let pieces := splitAtFeeds text
  let ended := pieces.dropLast.map dropReturn
  match pieces.getLast? with
  | some [] | none => ended
  | some last => ended ++ [last]

end LinksBinding.Text
