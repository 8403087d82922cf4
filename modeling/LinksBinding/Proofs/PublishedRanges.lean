import LinksBinding.Proofs.Findings
import LinksBinding.Proofs.Outline

/-!
# Ranges that end before they start

An editor is told of ranges by diagnostics and by the outline. The range of a name runs forward,
because it is some columns of one line. The range of a whole node need not do so even if its span
does: positions above the document are taken to its first line and keep their columns, so a span
from a line of the wrapper to the first line of the document may end in front of its start
(`PositionShift.Folds`). No other span does that.

What is published with such a span is the declaration of a variable, in the outline, and a function
that is declared twice, in the diagnostics, because its name has no range. All other ranges that are
published run forward (`forward_iff_of_ofRaw`).
-/

namespace LinksBinding

/-- A range runs forward when it does not end before it starts. -/
def Range.Forward (range : Range) : Prop := range.start ≤ range.stop

instance (range : Range) : Decidable range.Forward :=
  inferInstanceAs (Decidable (range.start ≤ range.stop))

theorem Range.forward_onLine (line character length : Coordinate) :
    (onLine line character length).Forward :=
  start_le_stop_onLine line character length

namespace PositionShift

variable {shift : PositionShift} {span : ParserSpan}

/-- A span runs over several lines that all come to be the first line of the document, and it has a
smaller column there at its end than at its start. -/
structure Folds (shift : PositionShift) (span : ParserSpan) : Prop where
  /-- it runs over several lines -/
  lines : span.start.line < span.stop.line
  /-- the last of them is not below the first line of the document -/
  above : span.stop.line ≤ shift.line
  /-- its columns are the wrong way round -/
  columns : (shift.toEditor span.stop).character < (shift.toEditor span.start).character

theorem folds_iff : shift.Folds span ↔ span.start.line < span.stop.line ∧
    span.stop.line ≤ shift.line ∧
    (shift.toEditor span.stop).character < (shift.toEditor span.start).character :=
  ⟨fun ⟨lines, above, columns⟩ => ⟨lines, above, columns⟩,
    fun ⟨lines, above, columns⟩ => ⟨lines, above, columns⟩⟩

instance (shift : PositionShift) (span : ParserSpan) : Decidable (shift.Folds span) :=
  decidable_of_iff' _ folds_iff

/-- The range of a span that runs forward does so too, unless the span is folded. -/
theorem forward_toEditorRange_iff (forward : span.Forward) :
    (shift.toEditorRange span).Forward ↔ ¬ shift.Folds span := by
  have order := (ParserPosition.le_iff span.start span.stop).mp forward
  have startLine : (shift.toEditor span.start).line.toNat = _ :=
    Coordinate.toNat_satSub span.start.line shift.line
  have stopLine : (shift.toEditor span.stop).line.toNat = _ :=
    Coordinate.toNat_satSub span.stop.line shift.line
  have startColumn : (shift.toEditor span.start).character.toNat = _ :=
    Coordinate.toNat_satSub span.start.column shift.column
  have stopColumn : (shift.toEditor span.stop).character.toNat = _ :=
    Coordinate.toNat_satSub span.stop.column shift.column
  rw [Range.Forward, toEditorRange, Position.le_iff, folds_iff, UInt32.lt_iff_toNat_lt,
    UInt32.le_iff_toNat_le, UInt32.lt_iff_toNat_lt, startLine, stopLine, startColumn, stopColumn]
  omega

/-- A folded span starts on a line that the wrapper adds. -/
theorem Folds.editorLine?_eq_none (folds : shift.Folds span) :
    shift.editorLine? span.start.line = none := by
  have before := UInt32.lt_of_lt_of_le folds.lines folds.above
  rw [editorLine?, Coordinate.sub?, if_neg (UInt32.not_le.mpr before)]

end PositionShift

namespace SourceView

variable {view : SourceView} {tree : SyntaxTree} {id : NodeId} {node : SyntaxNode}

theorem forward_of_nameRange? {range : Range} (named : view.nameRange? tree id = some range) :
    range.Forward := by
  obtain ⟨line, character, length, rfl⟩ := exists_onLine_of_nameRange? named
  exact Range.forward_onLine line character length

/-- A function whose span is folded has no range for its name. -/
theorem nameRange?_eq_none_of_folds {name : String} (found : tree.get? id = some node)
    (is : node.kind = .function name) (folds : view.shift.Folds node.span) :
    view.nameRange? tree id = none := by
  rw [nameRange?, found]
  simp only [is, functionNameRange?, folds.editorLine?_eq_none]

/-- The use and the binder of a name have a range for it. -/
theorem isSome_nameRange? (found : tree.get? id = some node)
    (named : node.kind.isIdentifier = true) (noFunction : ∀ name, node.kind ≠ .function name) :
    (view.nameRange? tree id).isSome = true := by
  obtain ⟨shape, kind, span, parent, children⟩ := node
  rw [nameRange?, found]
  cases kind with
  | function name => exact absurd rfl (noFunction name)
  | «variable» name => rfl
  | binder name role => rfl
  | _ => cases named

end SourceView

/-- All ranges that a diagnostic comes with. -/
def Diagnostic.ranges (d : Diagnostic) : List Range :=
  d.range :: (d.relatedInformation.getD []).map (·.location.range)

namespace Analysis

open SyntaxTree

variable {analysis : Analysis} {id : NodeId} {finding : Finding}

/-- The span of a node is folded. -/
def IsFolded (analysis : Analysis) (id : NodeId) : Prop :=
  ∃ span, analysis.tree.span? id = some span ∧ analysis.view.shift.Folds span

/-- A node is a function whose span is folded. -/
def IsFoldedFunction (analysis : Analysis) (id : NodeId) : Prop :=
  (∃ name, analysis.tree.kind? id = some (.function name)) ∧ analysis.IsFolded id

/-! ## Diagnostics -/

/-- The advice of a finding is on the range of the finding itself. -/
theorem mem_ranges_toDiagnostic_iff {range : Range} :
    range ∈ (analysis.toDiagnostic finding).ranges ↔
      range = (analysis.anchorRange? finding.anchor).getD ⟨⟨0, 0⟩, ⟨0, 0⟩⟩ := by
  simp [Diagnostic.ranges, toDiagnostic, Diagnostic.withHint]

/-- Problems are found at names. -/
theorem Grounded.exists_of_finding (grounded : analysis.Grounded)
    (found : finding ∈ analysis.findings) :
    ∃ node, analysis.tree.get? finding.anchor = some node ∧ node.kind.isIdentifier = true := by
  have used : ∀ occurrence ∈ analysis.index.occurrences, ∃ node,
      analysis.tree.get? occurrence.node = some node ∧ node.kind.isIdentifier = true := by
    intro occurrence mem
    obtain ⟨node, name, stands, is⟩ := grounded.exists_of_used mem
    exact ⟨node, stands, by rw [is]; rfl⟩
  rcases List.mem_append.mp found with found | found
  · rcases List.mem_append.mp found with found | found
    · obtain ⟨occurrence, mem, rfl⟩ := List.mem_map.mp found
      exact used occurrence (grounded.coherent.mem_unresolved.mp (List.mem_of_mem_filter mem)).1
    · obtain ⟨declaration, mem, rfl⟩ := List.mem_map.mp ((duplicatesIn_perm .rfl).mem_iff.mp found)
      obtain ⟨node, stands, ⟨is, -⟩ | ⟨role, is, -⟩⟩ :=
        grounded.exists_of_declared (List.mem_of_mem_filter mem)
      · exact ⟨node, stands, by rw [is]; rfl⟩
      · exact ⟨node, stands, by rw [is]; rfl⟩
  · obtain ⟨occurrence, mem, made⟩ := List.mem_filterMap.mp found
    rw [anchor_of_argumentCountFinding? made]
    exact used occurrence mem

/-- The range of a finding runs forward unless it is found at a function whose span is folded. -/
theorem Grounded.forward_toDiagnostic_iff (grounded : analysis.Grounded)
    (forward : analysis.tree.Forward) (found : finding ∈ analysis.findings) :
    (∀ range ∈ (analysis.toDiagnostic finding).ranges, range.Forward) ↔
      ¬ analysis.IsFoldedFunction finding.anchor := by
  obtain ⟨node, stands, named⟩ := grounded.exists_of_finding found
  have whole : analysis.range? finding.anchor =
      some (analysis.view.shift.toEditorRange node.span) := by
    rw [range?, span?_of_get? stands, Option.map_some]
  have folded : analysis.IsFolded finding.anchor ↔ analysis.view.shift.Folds node.span := by
    simp only [IsFolded, span?_of_get? stands, Option.some.injEq, exists_eq_left']
  simp only [mem_ranges_toDiagnostic_iff, forall_eq, IsFoldedFunction, kind?_of_get? stands,
    Option.some.injEq, folded, anchorRange?, whole]
  cases name : analysis.nameRange? finding.anchor with
  | some range =>
    -- the range of a name runs forward, and a folded function has none
    refine iff_of_true (SourceView.forward_of_nameRange? name) ?_
    rintro ⟨⟨other, is⟩, folds⟩
    rw [nameRange?, SourceView.nameRange?_eq_none_of_folds stands is folds] at name
    cases name
  | none =>
    have function : ∃ name, node.kind = .function name := by
      by_contra other
      have ranged : (analysis.nameRange? finding.anchor).isSome = true :=
        SourceView.isSome_nameRange? stands named fun name is => other ⟨name, is⟩
      rw [name] at ranged
      cases ranged
    simp only [function, true_and]
    exact PositionShift.forward_toEditorRange_iff (forward _ _ stands)

/-! ## The outline -/

/-- In the entry of a declaration the range of the name runs forward, and that of all of the
declaration does so unless it is a variable whose span is folded. -/
theorem Grounded.forward_symbolHead?_iff (grounded : analysis.Grounded)
    (forward : analysis.tree.Forward) {container : Option String} {head : SymbolHead}
    (made : analysis.symbolHead? container id = some head) :
    head.selectionRange.Forward ∧
      (head.range.Forward ↔ ¬ (head.kind = .variable ∧ analysis.IsFolded id)) := by
  cases shown : analysis.outlinedAt? id with
  | none =>
    rw [grounded.symbolHead?_eq_none shown] at made
    cases made
  | some declaration =>
    obtain ⟨_, made', is⟩ := grounded.exists_symbolHead? shown container
    cases made.symm.trans made'
    obtain ⟨found, -⟩ := Option.filter_eq_some_iff.mp shown
    obtain ⟨declared, rfl⟩ := (grounded.coherent.declarationAt id declaration).mp found
    obtain ⟨node, stands, kinds⟩ := grounded.exists_of_declared declared
    have name := is.selectionRange
    have whole : head.range = analysis.view.shift.toEditorRange node.span := by
      rw [is.range, range?, span?_of_get? stands, Option.map_some, Option.getD_some]
    have folded : analysis.IsFolded declaration.node ↔
        analysis.view.shift.Folds node.span := by
      simp only [IsFolded, span?_of_get? stands, Option.some.injEq, exists_eq_left']
    refine ⟨SourceView.forward_of_nameRange? name, ?_⟩
    rw [whole, PositionShift.forward_toEditorRange_iff (forward _ _ stands), folded, is.kind,
      not_iff_not]
    rcases kinds with ⟨function, kind⟩ | ⟨role, -, kind⟩
    · -- a folded function has no range for its name, and so no entry
      refine iff_of_false (fun folds => ?_) (by simp [kind, DeclarationKind.isFunction])
      rw [nameRange?, SourceView.nameRange?_eq_none_of_folds stands function folds] at name
      cases name
    · simp [kind, DeclarationKind.isFunction]

/-- The entries of the outline are those of nodes. -/
theorem Grounded.exists_of_mem_outline (grounded : analysis.Grounded)
    {entry : SymbolHead × Option Nat}
    (listed : entry ∈ DocumentSymbol.flattenList none 0 analysis.outline) :
    ∃ id container, analysis.symbolHead? container id = some entry.1 := by
  rw [grounded.flattenList_outline] at listed
  obtain ⟨id, -, made⟩ := List.mem_filterMap.mp listed
  obtain ⟨head, headed, rfl⟩ := Option.map_eq_some_iff.mp made
  exact ⟨id, _, headed⟩

/-- Of what is published for a document, the ranges of diagnostics run forward unless these are
about a function whose span is folded. In the outline the ranges of names run forward, and those of
whole declarations unless they are variables whose span is folded. -/
theorem forward_iff_of_ofRaw {uri source : String} {raw : RawTree} {options : Options}
    (analysed : ofRaw uri source raw options = .ok analysis) (forward : raw.Forward) :
    (∀ d ∈ analysis.diagnostics, ∃ finding ∈ analysis.findings,
        analysis.toDiagnostic finding = d ∧
        ((∀ range ∈ d.ranges, range.Forward) ↔ ¬ analysis.IsFoldedFunction finding.anchor)) ∧
      ∀ entry ∈ DocumentSymbol.flattenList none 0 analysis.outline, ∃ id container,
        analysis.symbolHead? container id = some entry.1 ∧ entry.1.selectionRange.Forward ∧
        (entry.1.range.Forward ↔ ¬ (entry.1.kind = .variable ∧ analysis.IsFolded id)) := by
  have grounded := grounded_of_ofRaw analysed
  have runs : analysis.tree.Forward := by
    obtain ⟨tree, built, rfl⟩ := ofRaw_eq_ok analysed
    exact forward_of_build built forward
  constructor
  · intro d shown
    obtain ⟨finding, found, rfl⟩ := (analysis.mem_diagnostics d).mp shown
    exact ⟨finding, found, rfl, grounded.forward_toDiagnostic_iff runs found⟩
  · intro entry listed
    obtain ⟨id, container, made⟩ := grounded.exists_of_mem_outline listed
    exact ⟨id, container, made, grounded.forward_symbolHead?_iff runs made⟩

/-- Output for a document with a variable and a function that start on the line of the wrapper and
end in front of the column of their start. The function is declared twice. -/
def foldedOutput : RawTree :=
  .interior "Block" ⟨⟨0, 1⟩, ⟨3, 1⟩⟩
    [.interior "Val" ⟨⟨0, 1⟩, ⟨1, 7⟩⟩
      [.leaf "Binder: x" ⟨⟨0, 10⟩, ⟨1, 2⟩⟩, .leaf "Constant: 1" ⟨⟨1, 5⟩, ⟨1, 6⟩⟩],
    .interior "Fun: f" ⟨⟨0, 10⟩, ⟨1, 2⟩⟩ [.leaf "Params" ⟨⟨0, 12⟩, ⟨0, 14⟩⟩],
    .interior "Fun: f" ⟨⟨2, 1⟩, ⟨2, 12⟩⟩ [.leaf "Params" ⟨⟨2, 6⟩, ⟨2, 8⟩⟩]]

/-- The tree of that output. -/
def foldedTree : SyntaxTree :=
  ⟨#[⟨.interior, .block, ⟨⟨0, 1⟩, ⟨3, 1⟩⟩, none, [1, 4, 6]⟩,
    ⟨.interior, .declaration, ⟨⟨0, 1⟩, ⟨1, 7⟩⟩, some 0, [2, 3]⟩,
    ⟨.leaf, .binder "x" .letBinding, ⟨⟨0, 10⟩, ⟨1, 2⟩⟩, some 1, []⟩,
    ⟨.leaf, .constant (.number "1"), ⟨⟨1, 5⟩, ⟨1, 6⟩⟩, some 1, []⟩,
    ⟨.interior, .function "f", ⟨⟨0, 10⟩, ⟨1, 2⟩⟩, some 0, [5]⟩,
    ⟨.leaf, .parameters, ⟨⟨0, 12⟩, ⟨0, 14⟩⟩, some 4, []⟩,
    ⟨.interior, .function "f", ⟨⟨2, 1⟩, ⟨2, 12⟩⟩, some 0, [7]⟩,
    ⟨.leaf, .parameters, ⟨⟨2, 6⟩, ⟨2, 8⟩⟩, some 6, []⟩]⟩

/-- The analysis of that document. -/
def foldedAnalysis : Analysis :=
  ofTree "file:///folded.links" (.ofSource "x = 1;\nfun f() { }\n" .standard) foldedTree {}

theorem forward_foldedOutput : foldedOutput.Forward := by
  refine RawTree.forward_node (by decide) ?_
  simp only [List.forall_mem_cons]
  refine ⟨RawTree.forward_node (by decide) ?_, RawTree.forward_node (by decide) ?_,
    RawTree.forward_node (by decide) ?_, List.forall_mem_nil _⟩
  all_goals simp only [List.forall_mem_cons]
  · exact ⟨RawTree.forward_leaf (by decide), RawTree.forward_leaf (by decide),
      List.forall_mem_nil _⟩
  · exact ⟨RawTree.forward_leaf (by decide), List.forall_mem_nil _⟩
  · exact ⟨RawTree.forward_leaf (by decide), List.forall_mem_nil _⟩

theorem ofRaw_foldedOutput :
    ofRaw "file:///folded.links" "x = 1;\nfun f() { }\n" foldedOutput {} =
      .ok foldedAnalysis := by
  have built : build (.ofSource "x = 1;\nfun f() { }\n" .standard) foldedOutput =
      .ok foldedTree := by decide +kernel
  rw [ofRaw, built, Except.map, foldedAnalysis]

/-- The second declaration of the function runs forward, and so does its entry in the outline. -/
theorem forward_iff_foldedAnalysis :
    ofRaw "file:///folded.links" "x = 1;\nfun f() { }\n" foldedOutput {} = .ok foldedAnalysis ∧
      foldedOutput.Forward ∧
      (∀ d ∈ foldedAnalysis.diagnostics, ∃ finding ∈ foldedAnalysis.findings,
        foldedAnalysis.toDiagnostic finding = d ∧
        ((∀ range ∈ d.ranges, range.Forward) ↔
          ¬ foldedAnalysis.IsFoldedFunction finding.anchor)) ∧
      (foldedAnalysis.index.declarations.filter foldedAnalysis.isShared).map
          (fun declaration => (foldedAnalysis.toDiagnostic (duplicateFinding declaration)).range) =
        [⟨⟨0, 9⟩, ⟨0, 1⟩⟩, ⟨⟨1, 4⟩, ⟨1, 5⟩⟩] ∧
      (DocumentSymbol.flattenList none 0 foldedAnalysis.outline).map (·.1.range) =
        [⟨⟨0, 9⟩, ⟨0, 1⟩⟩, ⟨⟨1, 0⟩, ⟨1, 11⟩⟩] :=
  ⟨ofRaw_foldedOutput, forward_foldedOutput,
    (forward_iff_of_ofRaw ofRaw_foldedOutput forward_foldedOutput).1,
    by decide +kernel, by decide +kernel⟩

/-- All spans of a tree may run forward although neither the diagnostics nor the outline do. -/
theorem not_forward_foldedAnalysis :
    ∃ (uri source : String) (raw : RawTree) (options : Options) (analysis : Analysis),
      raw.Forward ∧ ofRaw uri source raw options = .ok analysis ∧
        (∃ d ∈ analysis.diagnostics, ¬ d.range.Forward) ∧
        ∃ entry ∈ DocumentSymbol.flattenList none 0 analysis.outline, ¬ entry.1.range.Forward := by
  have shared : ∃ declaration ∈ foldedAnalysis.index.declarations.filter foldedAnalysis.isShared,
      ¬ (foldedAnalysis.toDiagnostic (duplicateFinding declaration)).range.Forward := by
    decide +kernel
  obtain ⟨declaration, mem, backward⟩ := shared
  have found : duplicateFinding declaration ∈ foldedAnalysis.findings :=
    List.mem_append_left _ (List.mem_append_right _
      ((duplicatesIn_perm .rfl).mem_iff.mpr (List.mem_map_of_mem mem)))
  exact ⟨_, _, foldedOutput, {}, foldedAnalysis, forward_foldedOutput, ofRaw_foldedOutput,
    ⟨_, (foldedAnalysis.mem_diagnostics _).mpr ⟨_, found, rfl⟩, backward⟩, by decide +kernel⟩

end Analysis

end LinksBinding
