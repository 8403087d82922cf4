import LinksBinding.Proofs.Narrowing

/-!
# The edges of a function's name

A function's name is looked at where the keyword `fun` would leave it, and only then searched as a
word. The search tests both edges of what it finds. The look tests the right edge alone, so behind a
longer keyword or in unusual spacing it can take the end of another word for the name.

That is the only way to a name that is not a whole word: the range has a word edge in front of it
unless a longer word ends in the name at the column that was guessed
(`isWordEdge_of_functionName`). In `linfun un(x)` one does (`not_isWordEdge_of_functionName`).
-/

namespace LinksBinding

open Text

namespace Text

/-- At a column of a line, a word that is longer than `word` ends in it. -/
def EndsLonger (line word : List Char) (column : Nat) : Prop :=
  ∃ before after, line = before ++ word ++ after ∧ units before = column ∧
    isWordEdge before.getLast? = false ∧ isWordEdge after.head? = true

/-- Whether a longer word ends in a word at a column is seen at the edge in front of it. -/
theorem endsLonger_append_iff {word before after : List Char}
    (ends : isWordEdge after.head? = true) :
    EndsLonger (before ++ word ++ after) word (units before) ↔
      isWordEdge before.getLast? = false := by
  refine ⟨?_, fun inside => ⟨before, after, rfl, rfl, inside, ends⟩⟩
  rintro ⟨before', after', split, column, inside, -⟩
  rw [List.append_assoc, List.append_assoc] at split
  obtain ⟨rfl, -⟩ := isSize_units.append_inj split column.symm
  exact inside

end Text

namespace SourceView

variable {view : SourceView} {tree : SyntaxTree} {id : NodeId} {node : SyntaxNode} {name : String}
variable {line : Coordinate} {text : List Char} {range : Range}

/-- Where a longer word ends in the name, the look at the guessed column finds it. -/
theorem nameStandsAt_of_endsLonger {column : Coordinate}
    (longer : EndsLonger text name.toList column.toNat) :
    nameStandsAt text name.toList column = true := by
  obtain ⟨before, after, split, width, -, ends⟩ := longer
  exact nameStandsAt_iff.mpr ⟨before, after, split, width, ends⟩

/-- The name of a function ends as a word where its range does. It starts as a word there too,
unless it is the end of a longer word at the column where the keyword would leave the name. -/
theorem isWordEdge_of_functionName (found : tree.get? id = some node)
    (is : node.kind = .function name) (has : view.HasLine node.span.start.line line text)
    (named : view.nameRange? tree id = some range) :
    ∃ before after, view.Marks range line before name.toList after ∧
      isWordEdge after.head? = true ∧
      (isWordEdge before.getLast? = true ↔
        ¬ EndsLonger text name.toList (view.keywordColumn node.span).toNat) := by
  simp only [nameRange?, found, is] at named
  obtain ⟨before, after, marks, ends, place⟩ := functionNameRange?_cases has named
  refine ⟨before, after, marks, ends, ?_⟩
  rcases place with guessed | ⟨starts, elsewhere⟩
  · obtain rfl : before ++ name.toList ++ after = text :=
      Option.some.inj (marks.text.symm.trans has.stands)
    rw [← guessed, endsLonger_append_iff ends, Bool.not_eq_false]
  · refine iff_of_true starts fun longer => ?_
    rw [nameStandsAt_of_endsLonger longer] at elsewhere
    cases elsewhere

/-- A linear function whose name is the end of its keyword, and a function with two blanks in front
of its name. -/
def linearSource : String := "linfun un(x) \x7b x \x7d\nfun  f() \x7b 1 \x7d\n"

/-- The document of the two. -/
def linearView : SourceView := .ofSource linearSource .standard

/-- Output for the two. -/
def linear : RawTree :=
  .interior "Block" ⟨⟨1, 1⟩, ⟨2, 15⟩⟩
    [.interior "Fun: un" ⟨⟨1, 1⟩, ⟨1, 19⟩⟩
      [.interior "Params" ⟨⟨1, 10⟩, ⟨1, 13⟩⟩ [.leaf "Binder: x" ⟨⟨1, 11⟩, ⟨1, 12⟩⟩],
        .interior "Block" ⟨⟨1, 14⟩, ⟨1, 19⟩⟩ [.leaf "Variable: x" ⟨⟨1, 16⟩, ⟨1, 17⟩⟩]],
      .interior "Fun: f" ⟨⟨2, 1⟩, ⟨2, 15⟩⟩
        [.leaf "Params" ⟨⟨2, 7⟩, ⟨2, 9⟩⟩,
          .interior "Block" ⟨⟨2, 10⟩, ⟨2, 15⟩⟩ [.leaf "Constant: 1" ⟨⟨2, 12⟩, ⟨2, 13⟩⟩]]]

/-- The tree of that output. -/
def linearTree : SyntaxTree :=
  ⟨#[⟨.interior, .block, ⟨⟨1, 1⟩, ⟨2, 15⟩⟩, none, [1, 6]⟩,
    ⟨.interior, .function "un", ⟨⟨1, 1⟩, ⟨1, 19⟩⟩, some 0, [2, 4]⟩,
    ⟨.interior, .parameters, ⟨⟨1, 10⟩, ⟨1, 13⟩⟩, some 1, [3]⟩,
    ⟨.leaf, .binder "x" .parameter, ⟨⟨1, 11⟩, ⟨1, 12⟩⟩, some 2, []⟩,
    ⟨.interior, .block, ⟨⟨1, 14⟩, ⟨1, 19⟩⟩, some 1, [5]⟩,
    ⟨.leaf, .variable "x", ⟨⟨1, 16⟩, ⟨1, 17⟩⟩, some 4, []⟩,
    ⟨.interior, .function "f", ⟨⟨2, 1⟩, ⟨2, 15⟩⟩, some 0, [7, 8]⟩,
    ⟨.leaf, .parameters, ⟨⟨2, 7⟩, ⟨2, 9⟩⟩, some 6, []⟩,
    ⟨.interior, .block, ⟨⟨2, 10⟩, ⟨2, 15⟩⟩, some 6, [9]⟩,
    ⟨.leaf, .constant (.number "1"), ⟨⟨2, 12⟩, ⟨2, 13⟩⟩, some 8, []⟩]⟩

theorem build_linear : SyntaxTree.build linearView linear = .ok linearTree := by decide +kernel

/-- In the keyword of the linear function a longer word ends in its name, in front of the other
name none does. -/
theorem isWordEdge_linearTree :
    SyntaxTree.build linearView linear = .ok linearTree ∧
      (linearView.nameRange? linearTree 1 = some (.onLine 0 4 2) ∧
        ∃ before after, linearView.Marks (.onLine 0 4 2) 0 before ['u', 'n'] after ∧
          isWordEdge after.head? = true ∧ isWordEdge before.getLast? = false) ∧
      linearView.nameRange? linearTree 6 = some (.onLine 1 5 1) ∧
        ∃ before after, linearView.Marks (.onLine 1 5 1) 1 before ['f'] after ∧
          isWordEdge after.head? = true ∧ isWordEdge before.getLast? = true := by
  have found : linearTree.get? 1 =
      some ⟨.interior, .function "un", ⟨⟨1, 1⟩, ⟨1, 19⟩⟩, some 0, [2, 4]⟩ := rfl
  have found' : linearTree.get? 6 =
      some ⟨.interior, .function "f", ⟨⟨2, 1⟩, ⟨2, 15⟩⟩, some 0, [7, 8]⟩ := rfl
  have has : linearView.HasLine 1 0 "linfun un(x) \x7b x \x7d".toList := ⟨by decide, by decide⟩
  have has' : linearView.HasLine 2 1 "fun  f() \x7b 1 \x7d".toList := ⟨by decide, by decide⟩
  have named : linearView.nameRange? linearTree 1 = some (.onLine 0 4 2) := by decide +kernel
  have named' : linearView.nameRange? linearTree 6 = some (.onLine 1 5 1) := by decide +kernel
  obtain ⟨before, after, marks, ends, starts⟩ := isWordEdge_of_functionName found rfl has named
  obtain ⟨before', after', marks', ends', starts'⟩ :=
    isWordEdge_of_functionName found' rfl has' named'
  have longer : EndsLonger "linfun un(x) \x7b x \x7d".toList ['u', 'n'] 4 :=
    ⟨"linf".toList, " un(x) \x7b x \x7d".toList, by decide⟩
  have elsewhere : nameStandsAt "fun  f() \x7b 1 \x7d".toList "f".toList 4 = false := by
    decide +kernel
  have none : ¬ EndsLonger "fun  f() \x7b 1 \x7d".toList "f".toList 4 := fun longer => by
    rw [nameStandsAt_of_endsLonger longer] at elsewhere
    cases elsewhere
  exact ⟨build_linear, ⟨named, before, after, marks, ends,
    Bool.eq_false_iff.mpr fun edge => starts.mp edge longer⟩,
    named', before', after', marks', ends', starts'.mpr none⟩

/-- The name that a function is given in the document need not be a whole word. In front of it the
keyword may go on. -/
theorem not_isWordEdge_of_functionName :
    ¬ ∀ (source : String) (shift : PositionShift) (raw : RawTree) (tree : SyntaxTree),
      SyntaxTree.build (.ofSource source shift) raw = .ok tree →
      ∀ id node name line text range, tree.get? id = some node → node.kind = .function name →
        (∀ c ∈ name.toList, isNameChar c = true) →
        (ofSource source shift).HasLine node.span.start.line line text →
        (ofSource source shift).nameRange? tree id = some range →
        ∃ before after, (ofSource source shift).Marks range line before name.toList after ∧
          isWordEdge before.getLast? = true := by
  intro wordEdge
  have stands : linearView.lines.lineText? 0 = some "linfun un(x) \x7b x \x7d".toList := by decide
  have valid : ∀ c ∈ "un".toList, isNameChar c = true :=
    List.all_eq_true.mp (by decide +kernel : "un".toList.all isNameChar = true)
  obtain ⟨before, after, marks, edge⟩ :=
    wordEdge linearSource .standard linear linearTree build_linear 1 _ "un" 0 _ (.onLine 0 4 2)
      rfl rfl valid ⟨by decide, stands⟩ (by decide +kernel)
  have split : "linf".toList ++ "un un(x) \x7b x \x7d".toList =
      before ++ ("un".toList ++ after) := by
    rw [← List.append_assoc before]
    exact Option.some.inj (stands.symm.trans marks.text)
  have fits : units (before ++ "un".toList ++ after) < UInt32.size := by
    rw [List.append_assoc, ← split]
    decide
  have start : 4 = units before := (marks.covers fits).start
  obtain ⟨rfl, -⟩ := isSize_units.append_inj split start
  revert edge
  decide

end SourceView

end LinksBinding
