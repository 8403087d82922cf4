import LinksBinding.Highlight.Tokens
import LinksBinding.Proofs.Navigation
import LinksBinding.Proofs.RangeOrder
import Mathlib.Data.List.Forall2

/-!
# Tokens are what is highlighted

An editor reads the numbers for the tokens of a document by adding up: a token is so many lines below
the one before it, and so many columns to the right of it if both stand on one line. The numbers are
written with a subtraction that stops at zero, so what is read back is what was meant only if no
token comes before its predecessor (`decodeTokens_encodeTokens`).

None does. What is highlighted ascends strictly, stands on one line each, and is not empty; so each
highlighted range is one token, and it is read where the range is (`classified`). A range has the
class for which it is found first in document order, which the sort does not change.
-/

namespace LinksBinding

/-! ## Reading tokens -/

theorem TokenType.ofIndex?_index (kind : TokenType) : ofIndex? kind.index.toNat = some kind := by
  cases kind <;> rfl

/-- A token where an editor puts it. -/
structure PlacedToken where
  /-- its line -/
  line : Nat
  /-- its first column -/
  start : Nat
  /-- number of columns -/
  length : Nat
  /-- its kind -/
  kind : TokenType
  /-- its flags -/
  modifiers : Coordinate
  deriving DecidableEq, Repr

/-- Reads the numbers for tokens behind a token that starts at a column of a line. On the same line
columns count from there, on another from its start. -/
def decodeTokensFrom (line column : Nat) : List Coordinate → Option (List PlacedToken)
  | [] => some []
  | lines :: columns :: length :: kind :: modifiers :: rest => do
    let kind ← TokenType.ofIndex? kind.toNat
    let start := if lines = 0 then column + columns.toNat else columns.toNat
    let line := line + lines.toNat
    let tokens ← decodeTokensFrom line start rest
    return ⟨line, start, length.toNat, kind, modifiers⟩ :: tokens
  | _ => none

/-- Reads the numbers for the tokens of a document. -/
def decodeTokens (numbers : List Coordinate) : Option (List PlacedToken) :=
  decodeTokensFrom 0 0 numbers

namespace Token

/-- Where a token starts. -/
def place (token : Token) : Position := ⟨token.line, token.start⟩

/-- A token where it says that it is. -/
def placed (token : Token) : PlacedToken :=
  ⟨token.line.toNat, token.start.toNat, token.length.toNat, token.kind, token.modifiers⟩

variable {token : Token} {previous : Position} (behind : previous ≤ token.place)

include behind

theorem line_add_satSub : previous.line.toNat + (token.line.satSub previous.line).toNat =
    token.line.toNat := by
  have order := (Position.le_iff _ _).mp behind
  rw [Coordinate.toNat_satSub]
  simp only [place] at order
  omega

/-- The column of a token behind another is read back. -/
theorem column_add_satSub {columns : Coordinate}
    (written : columns = if token.line.satSub previous.line = 0
      then token.start.satSub previous.character else token.start) :
    (if token.line.satSub previous.line = 0 then previous.character.toNat + columns.toNat
      else columns.toNat) = token.start.toNat := by
  have order := (Position.le_iff _ _).mp behind
  simp only [place] at order
  subst written
  split
  · rename_i level
    have level := congrArg UInt32.toNat level
    rw [Coordinate.toNat_satSub] at level ⊢
    simp only [UInt32.toNat_zero] at level
    omega
  · rfl

end Token

theorem decodeTokensFrom_encodeTokensFrom {previous : Position} {tokens : List Token}
    (ordered : (previous :: tokens.map Token.place).Pairwise (· ≤ ·)) :
    decodeTokensFrom previous.line.toNat previous.character.toNat
      (encodeTokensFrom previous tokens) = some (tokens.map Token.placed) := by
  induction tokens generalizing previous with
  | nil => rfl
  | cons token rest ih =>
    rw [List.map_cons, List.pairwise_cons] at ordered
    have behind : previous ≤ token.place := ordered.1 _ List.mem_cons_self
    have tail : decodeTokensFrom token.line.toNat token.start.toNat
        (encodeTokensFrom ⟨token.line, token.start⟩ rest) = some (rest.map Token.placed) :=
      ih ordered.2
    rw [encodeTokensFrom, decodeTokensFrom, TokenType.ofIndex?_index,
      Token.line_add_satSub behind, Token.column_add_satSub behind rfl]
    simp only [Option.bind_eq_bind, Option.bind_some, tail]
    rfl

/-- Tokens of which none comes before its predecessor are read back. -/
theorem decodeTokens_encodeTokens {tokens : List Token}
    (ordered : (tokens.map Token.place).Pairwise (· ≤ ·)) :
    decodeTokens (encodeTokens tokens) = some (tokens.map Token.placed) := by
  have first : ∀ place : Position, (⟨0, 0⟩ : Position) ≤ place := fun place => by
    simp only [Position.le_iff, UInt32.toNat_zero]
    omega
  exact decodeTokensFrom_encodeTokensFrom
    (List.pairwise_cons.mpr ⟨fun place _ => first place, ordered⟩)

/-- Two tokens of one line, of which the second is six columns to the right of the first. -/
example : decodeTokens [1, 4, 3, 1, 1, 0, 6, 1, 0, 0] =
    some [⟨1, 4, 3, .function, declarationFlag⟩, ⟨1, 10, 1, .variable, 0⟩] := by
  decide

/-- A stretch of one line that is not empty. -/
def Range.IsStretch (range : Range) : Prop :=
  range.start.line = range.stop.line ∧ range.start < range.stop

/-! ## Which class a range has -/

/-- The classes of a node that declares and uses no name. -/
inductive Kind.HasClasses : Kind → List Classification → Prop where
  | string (content : String) : HasClasses (.constant (.string content)) [.stringConstant]
  | number (content : String) : HasClasses (.constant (.number content)) [.numberConstant]
  | projection (field : String) : HasClasses (.projection field) [.projection]
  | constructor (tag : String) : HasClasses (.constructor tag) [.variantTag]
  | element (tag : String) : HasClasses (.element tag) [.markupDeclaration, .markupTag]
  | attribute (name : String) : HasClasses (.attribute name) [.markupAttribute]

theorem Kind.hasClasses_iff {kind : Kind} {classes : List Classification} :
    kind.HasClasses classes ↔ classes ≠ [] ∧ kind.classes = classes := by
  constructor
  · rintro ⟨⟩ <;> exact ⟨List.cons_ne_nil _ _, rfl⟩
  · rintro ⟨some, rfl⟩
    revert some
    unfold classes
    split <;> intro some
    any_goals constructor
    exact absurd rfl some

namespace Analysis

variable {analysis : Analysis} {range : Range} {cls : Classification}

/-- A node has these classes, in their order. Nodes that are not named here have none. -/
inductive HasClasses (analysis : Analysis) (id : NodeId) : List Classification → Prop where
  /-- a function that is declared and used -/
  | usedFunction {d : Declaration} (declared : analysis.index.declarationAt? id = some d)
      (is : d.kind = .function) (used : analysis.index.isUsed id = true) :
      HasClasses analysis id [.usedFunction]
  /-- a function that is declared only -/
  | unusedFunction {d : Declaration} (declared : analysis.index.declarationAt? id = some d)
      (is : d.kind = .function) (unused : analysis.index.isUsed id = false) :
      HasClasses analysis id [.unusedFunction]
  /-- a variable that is declared and used -/
  | usedVariable {d : Declaration} {role : BinderRole}
      (declared : analysis.index.declarationAt? id = some d) (is : d.kind = .binder role)
      (used : analysis.index.isUsed id = true) : HasClasses analysis id [.usedVariable]
  /-- a variable that is declared only -/
  | unusedVariable {d : Declaration} {role : BinderRole}
      (declared : analysis.index.declarationAt? id = some d) (is : d.kind = .binder role)
      (unused : analysis.index.isUsed id = false) : HasClasses analysis id [.unusedVariable]
  /-- a use of a variable -/
  | variable {o : Occurrence} (undeclared : analysis.index.declarationAt? id = none)
      (occurs : analysis.index.occurrenceAt? id = some o) (is : o.kind = .variable) :
      HasClasses analysis id [.usedVariable]
  /-- a use of a function -/
  | call {o : Occurrence} (undeclared : analysis.index.declarationAt? id = none)
      (occurs : analysis.index.occurrenceAt? id = some o)
      (is : o.kind = .call ∨ o.kind = .handlerReference) : HasClasses analysis id [.functionCall]
  /-- what declares and uses no name -/
  | unnamed {kind : Kind} {classes : List Classification}
      (undeclared : analysis.index.declarationAt? id = none)
      (unused : analysis.index.occurrenceAt? id = none) (is : analysis.tree.kind? id = some kind)
      (has : kind.HasClasses classes) : HasClasses analysis id classes

/-- A class has a range if it is the first in document order that is narrowed to the range. Of one
node the classes come in their order. -/
def FirstNarrowedTo (analysis : Analysis) (range : Range) (cls : Classification) : Prop :=
  ∃ before id after earlier later,
    analysis.tree.documentOrder = before ++ id :: after ∧
    analysis.HasClasses id (earlier ++ cls :: later) ∧
    analysis.view.narrow? analysis.tree id cls = some range ∧
    (∀ other ∈ before, ∀ classes, analysis.HasClasses other classes → ∀ cls' ∈ classes,
      analysis.view.narrow? analysis.tree other cls' ≠ some range) ∧
    ∀ cls' ∈ earlier, analysis.view.narrow? analysis.tree id cls' ≠ some range

/-- The classes that a node has are those that it is given, if there are any. -/
theorem hasClasses_iff {id : NodeId} {classes : List Classification} :
    analysis.HasClasses id classes ↔ classes ≠ [] ∧ analysis.classesOf id = classes := by
  unfold classesOf
  constructor
  · rintro (⟨declared, is, used⟩ | ⟨declared, is, used⟩ | ⟨declared, is, used⟩ |
      ⟨declared, is, used⟩ | ⟨undeclared, occurs, is⟩ | ⟨undeclared, occurs, is | is⟩ |
      ⟨undeclared, unused, is, has⟩)
    any_goals simp [*, declarationClass, DeclarationKind.isFunction, occurrenceClass]
    exact Kind.hasClasses_iff.mp has
  · rintro ⟨some, rfl⟩
    cases declared : analysis.index.declarationAt? id with
    | some d =>
      cases is : d.kind <;> cases used : analysis.index.isUsed id <;>
        simp only [is, declarationClass, DeclarationKind.isFunction]
      · exact .unusedVariable declared is used
      · exact .usedVariable declared is used
      · exact .unusedFunction declared is used
      · exact .usedFunction declared is used
    | none =>
      cases occurs : analysis.index.occurrenceAt? id with
      | some o =>
        cases is : o.kind <;> simp only [is, occurrenceClass]
        · exact .variable declared occurs is
        · exact .call declared occurs (.inl is)
        · exact .call declared occurs (.inr is)
      | none =>
        cases is : analysis.tree.kind? id with
        | some kind =>
          simp only [declared, occurs, is] at some ⊢
          exact .unnamed declared occurs is (Kind.hasClasses_iff.mpr ⟨some, rfl⟩)
        | none => simp [declared, occurs, is] at some

theorem firstNarrowedTo_iff : analysis.FirstNarrowedTo range cls ↔
    ∃ before id after earlier later,
      analysis.tree.documentOrder = before ++ id :: after ∧
      analysis.classesOf id = earlier ++ cls :: later ∧
      analysis.view.narrow? analysis.tree id cls = some range ∧
      (∀ other ∈ before, ∀ cls' ∈ analysis.classesOf other,
        analysis.view.narrow? analysis.tree other cls' ≠ some range) ∧
      ∀ cls' ∈ earlier, analysis.view.narrow? analysis.tree id cls' ≠ some range := by
  have none : ∀ other, (∀ classes, analysis.HasClasses other classes → ∀ cls' ∈ classes,
      analysis.view.narrow? analysis.tree other cls' ≠ some range) ↔
      ∀ cls' ∈ analysis.classesOf other,
        analysis.view.narrow? analysis.tree other cls' ≠ some range := by
    intro other
    constructor
    · intro off cls' mem
      exact off _ (hasClasses_iff.mpr ⟨List.ne_nil_of_mem mem, rfl⟩) cls' mem
    · rintro off classes has
      obtain ⟨-, rfl⟩ := hasClasses_iff.mp has
      exact off
  have some : ∀ id earlier later, analysis.HasClasses id (earlier ++ cls :: later) ↔
      analysis.classesOf id = earlier ++ cls :: later := by
    intro id earlier later
    rw [hasClasses_iff, and_iff_right (by simp)]
  simp only [FirstNarrowedTo, some, none]

/-- What is highlighted of a node for one of its classes. -/
def highlightOf? (analysis : Analysis) (id : NodeId) (cls : Classification) : Option Highlight := do
  let range ← analysis.view.narrow? analysis.tree id cls
  if range.start < range.stop then return ⟨range, cls⟩ else none

theorem highlightsOf_eq (analysis : Analysis) (id : NodeId) :
    analysis.highlightsOf id = (analysis.classesOf id).filterMap (analysis.highlightOf? id) :=
  rfl

theorem highlightOf?_eq_some_iff {id : NodeId} {highlight : Highlight} :
    analysis.highlightOf? id cls = some highlight ↔
      highlight.range.start < highlight.range.stop ∧ highlight.cls = cls ∧
        analysis.view.narrow? analysis.tree id cls = some highlight.range := by
  obtain ⟨range, cls'⟩ := highlight
  simp only [highlightOf?, Option.bind_eq_bind, Option.bind_eq_some_iff]
  constructor
  · rintro ⟨found, narrowed, made⟩
    split at made
    · rename_i proper
      cases made
      exact ⟨proper, rfl, narrowed⟩
    · cases made
  · rintro ⟨proper, rfl, narrowed⟩
    exact ⟨range, narrowed, if_pos proper⟩

/-- Nothing else that a node has is on a range if no class of it is narrowed to the range. -/
theorem find?_highlightsOf_eq_some_iff {id : NodeId} (proper : range.start < range.stop) :
    (analysis.highlightsOf id).find? (·.range == range) = some ⟨range, cls⟩ ↔
      ∃ earlier later, analysis.classesOf id = earlier ++ cls :: later ∧
        analysis.view.narrow? analysis.tree id cls = some range ∧
        ∀ cls' ∈ earlier, analysis.view.narrow? analysis.tree id cls' ≠ some range := by
  have here : ∀ cls', (analysis.highlightOf? id cls').any (·.range == range) = true ↔
      analysis.view.narrow? analysis.tree id cls' = some range := by
    intro cls'
    rw [Option.any_eq_true]
    constructor
    · rintro ⟨highlight, made, on⟩
      rw [beq_iff_eq] at on
      exact on ▸ (highlightOf?_eq_some_iff.mp made).2.2
    · intro narrowed
      exact ⟨⟨range, cls'⟩, highlightOf?_eq_some_iff.mpr ⟨proper, rfl, narrowed⟩,
        beq_self_eq_true range⟩
  rw [highlightsOf_eq, List.find?_filterMap, Option.bind_eq_some_iff]
  constructor
  · rintro ⟨cls', found, made⟩
    obtain ⟨-, rfl, narrowed⟩ := highlightOf?_eq_some_iff.mp made
    obtain ⟨-, earlier, later, split, not⟩ := List.find?_eq_some_iff_append.mp found
    refine ⟨earlier, later, split, narrowed, fun other mem yields => ?_⟩
    have off := not other mem
    rw [(here other).mpr yields] at off
    cases off
  · rintro ⟨earlier, later, split, narrowed, not⟩
    refine ⟨cls, List.find?_eq_some_iff_append.mpr
      ⟨(here cls).mpr narrowed, earlier, later, split, fun other mem => ?_⟩,
      highlightOf?_eq_some_iff.mpr ⟨proper, rfl, narrowed⟩⟩
    rw [Bool.not_eq_true', ← Bool.not_eq_true, here]
    exact not other mem

theorem find?_highlightsOf_eq_none_iff {id : NodeId} (proper : range.start < range.stop) :
    (analysis.highlightsOf id).find? (·.range == range) = none ↔
      ∀ cls ∈ analysis.classesOf id, analysis.view.narrow? analysis.tree id cls ≠ some range := by
  rw [List.find?_eq_none, highlightsOf_eq]
  constructor
  · intro off cls mem narrowed
    exact off ⟨range, cls⟩ (List.mem_filterMap.mpr
      ⟨cls, mem, highlightOf?_eq_some_iff.mpr ⟨proper, rfl, narrowed⟩⟩) (beq_self_eq_true range)
  · intro off highlight mem on
    obtain ⟨cls, mem, made⟩ := List.mem_filterMap.mp mem
    rw [beq_iff_eq] at on
    exact off cls mem (on ▸ (highlightOf?_eq_some_iff.mp made).2.2)

/-- The ranges that are highlighted are not empty, and each has the class that is first narrowed to
it. -/
theorem mem_highlights_iff : ⟨range, cls⟩ ∈ analysis.highlights ↔
    range.start < range.stop ∧ analysis.FirstNarrowedTo range cls := by
  rw [firstNarrowedTo_iff, highlights, mem_firstOfRuns_iff (sortedBy_mergeSort Highlight.range _),
    find?_mergeSort Highlight.range, List.find?_flatMap]
  constructor
  · intro found
    obtain ⟨before, id, after, order, found, not⟩ := List.findSome?_eq_some_iff.mp found
    have proper : range.start < range.stop := by
      obtain ⟨cls', -, made⟩ := List.mem_filterMap.mp (List.mem_of_find?_eq_some found)
      exact (highlightOf?_eq_some_iff.mp made).1
    obtain ⟨earlier, later, split, narrowed, not'⟩ :=
      (find?_highlightsOf_eq_some_iff proper).mp found
    exact ⟨proper, before, id, after, earlier, later, order, split, narrowed,
      fun other mem => (find?_highlightsOf_eq_none_iff proper).mp (not other mem), not'⟩
  · rintro ⟨proper, before, id, after, earlier, later, order, split, narrowed, not, not'⟩
    exact List.findSome?_eq_some_iff.mpr ⟨before, id, after, order,
      (find?_highlightsOf_eq_some_iff proper).mpr ⟨earlier, later, split, narrowed, not'⟩,
      fun other mem => (find?_highlightsOf_eq_none_iff proper).mpr (not other mem)⟩

theorem isStretch_of_mem_highlights {highlight : Highlight}
    (mem : highlight ∈ analysis.highlights) : highlight.range.IsStretch := by
  obtain ⟨proper, -, id, -, -, -, -, -, narrowed, -⟩ := mem_highlights_iff.mp mem
  obtain ⟨line, character, length, onLine⟩ := SourceView.exists_onLine_of_narrow? narrowed
  exact ⟨by rw [onLine]; rfl, proper⟩

/-! ## Tokens of what is highlighted -/

/-- A range is called from the library if a call stands there that resolves to nothing and has the
name of a library function. -/
def CallsLibrary (analysis : Analysis) (range : Range) : Prop :=
  ∃ occurrence ∈ analysis.index.unresolved, occurrence.kind = .call ∧
    (∃ function ∈ Library.all, function.name = occurrence.name) ∧
    analysis.nameRange? occurrence.node = some range

theorem mem_libraryCalls_iff : range ∈ analysis.libraryCalls ↔ analysis.CallsLibrary range := by
  simp only [libraryCalls, List.mem_filterMap, List.mem_filter, Bool.and_eq_true, beq_iff_eq,
    Library.knows, List.any_eq_true, and_assoc, CallsLibrary]

/-- A token is read where something is highlighted, as its class says. -/
structure Represents (analysis : Analysis) (highlight : Highlight) (token : PlacedToken) : Prop where
  line : token.line = highlight.range.start.line.toNat
  start : token.start = highlight.range.start.character.toNat
  stop : token.start + token.length = highlight.range.stop.character.toNat
  kind : token.kind = highlight.cls.token.1
  /-- it has the flags of its class, and may have that of library calls -/
  modifiers : token.modifiers = highlight.cls.token.2 ∨
    token.modifiers = highlight.cls.token.2 ||| libraryFlag
  /-- library calls have it, and nothing else -/
  library : token.modifiers &&& libraryFlag = libraryFlag ↔
    highlight.cls = .functionCall ∧ analysis.CallsLibrary highlight.range

/-- No class has the flag of library calls of itself. -/
theorem token_and_libraryFlag_ne (cls : Classification) :
    cls.token.2 &&& libraryFlag ≠ libraryFlag := by
  cases cls <;> decide

theorem token_or_and_libraryFlag (cls : Classification) :
    (cls.token.2 ||| libraryFlag) &&& libraryFlag = libraryFlag := by
  cases cls <;> decide

/-- What is highlighted on a stretch of a line has a token, which starts there. -/
theorem exists_token? (analysis : Analysis) {highlight : Highlight}
    (stretch : highlight.range.IsStretch) :
    ∃ token, token? analysis.libraryCalls highlight = some token ∧
      token.place = highlight.range.start ∧ analysis.Represents highlight token.placed := by
  obtain ⟨level, proper⟩ := stretch
  have singleLine : highlight.range.isSingleLine = true := beq_iff_eq.mpr level
  have columns : highlight.range.start.character ≤ highlight.range.stop.character := by
    rw [Position.lt_iff, level] at proper
    rw [UInt32.le_iff_toNat_le]
    omega
  have called : (highlight.cls == .functionCall &&
      analysis.libraryCalls.contains highlight.range) = true ↔
      highlight.cls = .functionCall ∧ analysis.CallsLibrary highlight.range := by
    rw [Bool.and_eq_true, beq_iff_eq, List.contains_iff_mem, mem_libraryCalls_iff]
  have length : highlight.range.start.character.toNat +
      (highlight.range.stop.character - highlight.range.start.character).toNat =
      highlight.range.stop.character.toNat := by
    rw [UInt32.toNat_sub_of_le _ _ columns]
    exact Nat.add_sub_of_le (UInt32.le_iff_toNat_le.mp columns)
  rw [token?, if_pos singleLine]
  by_cases calls : highlight.cls = .functionCall ∧ analysis.CallsLibrary highlight.range
  · rw [called.mpr calls]
    exact ⟨_, rfl, rfl, rfl, rfl, length, rfl, .inr rfl,
      iff_of_true (token_or_and_libraryFlag _) calls⟩
  · rw [Bool.eq_false_iff.mpr (mt called.mp calls)]
    exact ⟨_, rfl, rfl, rfl, rfl, length, rfl, .inl rfl,
      iff_of_false (token_and_libraryFlag_ne _) calls⟩

/-- What is highlighted is one token each. -/
theorem tokens_represent (analysis : Analysis) {highlights : List Highlight}
    (stretches : ∀ highlight ∈ highlights, highlight.range.IsStretch) :
    (highlights.filterMap (token? analysis.libraryCalls)).map Token.place =
        highlights.map (·.range.start) ∧
      List.Forall₂ analysis.Represents highlights
        ((highlights.filterMap (token? analysis.libraryCalls)).map Token.placed) := by
  induction highlights with
  | nil => exact ⟨rfl, .nil⟩
  | cons highlight rest ih =>
    obtain ⟨token, made, place, represents⟩ :=
      analysis.exists_token? (stretches highlight List.mem_cons_self)
    obtain ⟨places, represented⟩ := ih fun other mem => stretches other (List.mem_cons_of_mem _ mem)
    rw [List.filterMap_cons_some made, List.map_cons, List.map_cons, List.map_cons, places, place]
    exact ⟨rfl, .cons represents represented⟩

/-- What is told of the classes in a document. -/
structure Classified (analysis : Analysis) : Prop where
  /-- ranges ascend by start, then by end -/
  ascending : analysis.highlights.Pairwise fun a b => a.range.Precedes b.range
  /-- each stands on one line and is not empty -/
  stretches : ∀ highlight ∈ analysis.highlights, highlight.range.IsStretch
  /-- each has the class that is first narrowed to it -/
  first : ∀ range cls, ⟨range, cls⟩ ∈ analysis.highlights ↔
    range.start < range.stop ∧ analysis.FirstNarrowedTo range cls
  /-- an editor reads one token for each -/
  decoded : ∃ tokens, decodeTokens analysis.semanticTokens = some tokens ∧
    List.Forall₂ analysis.Represents analysis.highlights tokens

/-- An editor reads from the tokens of a document what is highlighted in it. -/
theorem classified (analysis : Analysis) : analysis.Classified := by
  have ascending : analysis.highlights.Pairwise fun a b => a.range.Precedes b.range :=
    pairwise_firstOfRuns (sortedBy_mergeSort Highlight.range _)
  have stretches : ∀ highlight ∈ analysis.highlights, highlight.range.IsStretch :=
    fun _ => isStretch_of_mem_highlights
  obtain ⟨places, represented⟩ := analysis.tokens_represent stretches
  have ordered : (analysis.tokens.map Token.place).Pairwise (· ≤ ·) := by
    rw [tokens, places, List.pairwise_map]
    refine ascending.imp fun before => ?_
    simp only [Range.Precedes, Position.lt_iff, Position.eq_iff] at before
    rw [Position.le_iff]
    omega
  exact ⟨ascending, stretches, fun _ _ => mem_highlights_iff, _, decodeTokens_encodeTokens ordered,
    represented⟩

/-- What is highlighted in the document with nested calls, in its order. -/
def nestedCallsHighlights : List Highlight :=
  [⟨⟨⟨0, 5⟩, ⟨0, 6⟩⟩, .usedFunction⟩, ⟨⟨⟨0, 7⟩, ⟨0, 8⟩⟩, .usedVariable⟩,
    ⟨⟨⟨0, 12⟩, ⟨0, 13⟩⟩, .usedVariable⟩, ⟨⟨⟨1, 0⟩, ⟨1, 5⟩⟩, .functionCall⟩,
    ⟨⟨⟨1, 6⟩, ⟨1, 10⟩⟩, .stringConstant⟩, ⟨⟨⟨1, 12⟩, ⟨1, 13⟩⟩, .functionCall⟩,
    ⟨⟨⟨1, 14⟩, ⟨1, 15⟩⟩, .functionCall⟩, ⟨⟨⟨1, 16⟩, ⟨1, 17⟩⟩, .numberConstant⟩]

theorem highlights_nestedCalls : nestedCallsAnalysis.highlights = nestedCallsHighlights := by
  have found : nestedCallsAnalysis.tree.documentOrder.flatMap nestedCallsAnalysis.highlightsOf =
      nestedCallsHighlights := by decide +kernel
  have sorted : SortedBy Highlight.range nestedCallsHighlights := by
    rw [SortedBy]
    decide
  rw [highlights, found, List.mergeSort_of_pairwise sorted]
  decide

/-- The function is declared and used, its name has that class in the first line, and in the second
line the name of the library function has that of a call. -/
theorem classified_nestedCalls :
    nestedCallsAnalysis.Classified ∧
      nestedCallsAnalysis.highlights = nestedCallsHighlights ∧
      nestedCallsAnalysis.FirstNarrowedTo ⟨⟨0, 5⟩, ⟨0, 6⟩⟩ .usedFunction ∧
      nestedCallsAnalysis.FirstNarrowedTo ⟨⟨1, 0⟩, ⟨1, 5⟩⟩ .functionCall := by
  have told := classified nestedCallsAnalysis
  have listed := highlights_nestedCalls
  refine ⟨told, listed, ?_, ?_⟩
  · exact ((told.first _ _).mp (by rw [listed]; decide)).2
  · exact ((told.first _ _).mp (by rw [listed]; decide)).2

end Analysis

end LinksBinding
