import LinksBinding.Rename
import LinksBinding.Proofs.ArgumentCount
import LinksBinding.Proofs.Coherence
import LinksBinding.Proofs.RangeOrder

/-!
# Answers about a name agree

Going to a definition, finding references and renaming start from the same two steps: the name at
the position, and the declaration that it stands for. So they answer for the same positions, and
for the same places in the document (`answers_agree`). This holds of whatever an analysis consists
of.

References can be asked for at any of them. Where the names of a document keep apart, a position at
the start of a reference is on no other name, and its declaration is the one that the reference was
found from; so the answer is the same at each place that it lists (`references_of_mem`). This rests
on the index: what it lists as uses of a declaration are the uses from which the declaration is
found.
-/

namespace LinksBinding

/-! ## Trimming a name -/

namespace Text

/-- White space does not stand in names. -/
theorem isNameChar_of_isBlank {c : Char} (blank : isBlank c = true) : isNameChar c = false := by
  have ascending : Ascending blankRanges := by
    rw [Ascending]
    decide +kernel
  obtain ⟨r, mem, low, high⟩ := (inRanges_iff ascending (by decide +kernel) c.toNat).mp blank
  -- there are few blanks, and none of them is in a table of name characters
  have checked : ∀ r ∈ blankRanges, ∀ i < r.2 + 1 - r.1,
      isNameChar (Char.ofNat (r.1 + i)) = false := by decide +kernel
  have found := checked r mem (c.toNat - r.1) (by omega)
  rwa [Nat.add_sub_of_le low, Char.ofNat_toNat] at found

end Text

open Text

theorem all_isNameChar_of_isIdentifier {name : String} (valid : isIdentifier name = true) :
    ∀ c ∈ name.toList, isNameChar c = true := by
  rw [isIdentifier] at valid
  split at valid
  · cases valid
  · rename_i first rest parts
    rw [Bool.and_eq_true, Bool.and_eq_true, List.all_eq_true] at valid
    obtain ⟨⟨starts, goes⟩, -⟩ := valid
    intro c mem
    rw [parts] at mem
    rcases List.mem_cons.mp mem with rfl | mem
    · exact isNameChar_of_startsName starts
    · exact goes c mem

/-- There is nothing to trim of an identifier. -/
theorem trimString_of_isIdentifier {name : String} (valid : isIdentifier name = true) :
    trimString name = name := by
  rw [trimString, trim_eq_self, String.ofList_toList]
  intro c mem
  rw [← Bool.not_eq_true]
  intro blank
  have named := all_isNameChar_of_isIdentifier valid c mem
  rw [isNameChar_of_isBlank blank] at named
  cases named

namespace NamedRange

theorem sortedBy_inOrder (ranges : List NamedRange) :
    SortedBy (·.range) (inOrder ranges) :=
  sortedBy_mergeSort (·.range) ranges

theorem mem_inOrder {ranges : List NamedRange} {named : NamedRange} :
    named ∈ inOrder ranges ↔ named ∈ ranges :=
  (List.mergeSort_perm ranges _).mem_iff

end NamedRange

namespace Analysis

open SyntaxTree

variable {analysis : Analysis} {position : Position}

/-! ## Going to a definition, finding references, renaming -/

/-- A definition is the range of the name in the declaration that a position stands for. -/
theorem definition?_eq_some_iff {location : Location} :
    analysis.definition? position = some location ↔
      ∃ declaration range, analysis.declarationAt? position = some declaration ∧
        analysis.nameRange? declaration.node = some range ∧
        location = ⟨analysis.uri, range⟩ := by
  rw [definition?]
  cases analysis.declarationAt? position with
  | none => simp
  | some declaration =>
    cases named : analysis.nameRange? declaration.node with
    | none => simp [named]
    | some range => simp [named, eq_comm]

/-- Of the ranges of a declaration, its own name is the definition. -/
theorem filter_isDefinition (analysis : Analysis) (id : NodeId) :
    (analysis.referenceRanges id).filter (·.isDefinition) =
      ((analysis.nameRange? id).map (⟨·, true⟩)).toList := by
  have uses : ((analysis.index.occurrencesOf id).filterMap fun occurrence =>
      (analysis.nameRange? occurrence.node).map (⟨·, false⟩)).filter
        (fun named : NamedRange => named.isDefinition) = [] := by
    rw [List.filter_eq_nil_iff]
    intro named mem
    obtain ⟨occurrence, -, found⟩ := List.mem_filterMap.mp mem
    obtain ⟨range, -, rfl⟩ := Option.map_eq_some_iff.mp found
    exact Bool.false_ne_true
  rw [referenceRanges, List.filter_append, uses, List.append_nil]
  cases analysis.nameRange? id <;> rfl

theorem any_isDefinition (analysis : Analysis) (id : NodeId) :
    (analysis.referenceRanges id).any (·.isDefinition) = (analysis.nameRange? id).isSome := by
  have parts := analysis.filter_isDefinition id
  rw [Bool.eq_iff_iff, List.any_eq_true, Option.isSome_iff_exists]
  constructor
  · rintro ⟨named, mem, defines⟩
    have listed := List.mem_filter.mpr ⟨mem, defines⟩
    rw [parts, Option.mem_toList, Option.map_eq_some_iff] at listed
    obtain ⟨range, found, -⟩ := listed
    exact ⟨range, found⟩
  · rintro ⟨range, found⟩
    rw [found] at parts
    have listed : (⟨range, true⟩ : NamedRange) ∈
        (analysis.referenceRanges id).filter (·.isDefinition) := parts ▸ List.mem_singleton_self _
    exact ⟨_, (List.mem_filter.mp listed).1, rfl⟩

/-- The ranges of a declaration are those of its own name and of its uses. -/
theorem mem_referenceRanges_iff {id : NodeId} {named : NamedRange} :
    named ∈ analysis.referenceRanges id ↔
      (analysis.nameRange? id = some named.range ∧ named.isDefinition = true) ∨
      ∃ occurrence ∈ analysis.index.occurrencesOf id,
        analysis.nameRange? occurrence.node = some named.range ∧ named.isDefinition = false := by
  obtain ⟨range, isDefinition⟩ := named
  simp only [referenceRanges, List.mem_append, Option.mem_toList, Option.map_eq_some_iff,
    List.mem_filterMap, NamedRange.mk.injEq]
  constructor
  · rintro (⟨_, found, rfl, rfl⟩ | ⟨occurrence, used, _, found, rfl, rfl⟩)
    · exact .inl ⟨found, rfl⟩
    · exact .inr ⟨occurrence, used, found, rfl⟩
  · rintro (⟨found, rfl⟩ | ⟨occurrence, used, found, rfl⟩)
    · exact .inl ⟨range, found, rfl, rfl⟩
    · exact .inr ⟨occurrence, used, range, found, rfl, rfl⟩

/-- A rename edits the ranges of the references. -/
theorem mem_renameRanges_iff {ranges : List NamedRange} {range : Range} :
    range ∈ renameRanges ranges ↔ ∃ named ∈ ranges, named.range = range := by
  have sorted : SortedBy id ((NamedRange.inOrder ranges).map (·.range)) :=
    List.pairwise_map.mpr (NamedRange.sortedBy_inOrder ranges)
  have kept := exists_mem_firstOfRuns_iff sorted range
  simp only [id, exists_eq_right] at kept
  rw [renameRanges, kept, List.mem_map]
  exact exists_congr fun named => and_congr_left fun _ => NamedRange.mem_inOrder

/-- The ranges that a rename edits ascend. -/
theorem pairwise_renameRanges (ranges : List NamedRange) :
    (renameRanges ranges).Pairwise Range.Precedes := by
  have sorted : SortedBy id ((NamedRange.inOrder ranges).map (·.range)) :=
    List.pairwise_map.mpr (NamedRange.sortedBy_inOrder ranges)
  exact pairwise_firstOfRuns sorted

/-- A rename is carried out if the new name is an identifier, and the position stands for a
declaration whose name has a range. -/
theorem rename_eq_ok_iff {newName : String} {edit : WorkspaceEdit} :
    analysis.rename position newName = .ok edit ↔
      isIdentifier (trimString newName) = true ∧
      ∃ declaration, analysis.declarationAt? position = some declaration ∧
        (analysis.nameRange? declaration.node).isSome = true ∧
        edit = ⟨analysis.uri, (renameRanges (analysis.referenceRanges declaration.node)).map
          (⟨·, trimString newName⟩)⟩ := by
  simp only [rename]
  by_cases valid : isIdentifier (trimString newName) = true
  · rw [if_pos valid]
    cases analysis.declarationAt? position with
    | none => simp
    | some declaration =>
      simp only [any_isDefinition, valid, Option.some_inj, exists_eq_left', true_and]
      by_cases named : (analysis.nameRange? declaration.node).isSome = true
      · rw [if_pos named, Except.ok.injEq, and_iff_right named]
        exact eq_comm
      · rw [if_neg named]
        simp [named]
  · simp [valid]

/-- References are the sorted ranges of the declaration that a position stands for. -/
theorem references_of_declarationAt? {declaration : Declaration}
    (found : analysis.declarationAt? position = some declaration) :
    analysis.references position =
      (NamedRange.inOrder (analysis.referenceRanges declaration.node)).map analysis.toReference := by
  rw [references, found]

theorem mem_references_iff {reference : Reference} :
    reference ∈ analysis.references position ↔
      ∃ declaration, analysis.declarationAt? position = some declaration ∧
        ∃ named ∈ analysis.referenceRanges declaration.node,
          analysis.toReference named = reference := by
  rw [references]
  cases analysis.declarationAt? position with
  | none => simp
  | some declaration => simp [NamedRange.mem_inOrder]

/-! ## Agreement -/

/-- What is answered for one position: where the name is declared, where it stands, and what a rename
edits. -/
structure Agree (analysis : Analysis) (position : Position) (definition : Location)
    (edit : WorkspaceEdit) : Prop where
  /-- references come by start, then by end -/
  ordered : (analysis.references position).Pairwise fun a b =>
    a.location.range.start < b.location.range.start ∨
      a.location.range.start = b.location.range.start ∧
        a.location.range.stop ≤ b.location.range.stop
  /-- one of them is the definition -/
  defined : ∃ reference, (analysis.references position).filter (·.isDefinition) = [reference] ∧
    reference.location = definition
  /-- a rename edits the document -/
  uri : edit.uri = analysis.uri
  /-- it edits where the references are -/
  edited : ∀ range, (∃ change ∈ edit.edits, change.range = range) ↔
    ∃ reference ∈ analysis.references position, reference.location.range = range

theorem ordered_references (analysis : Analysis) (position : Position) :
    (analysis.references position).Pairwise fun a b =>
      a.location.range.start < b.location.range.start ∨
        a.location.range.start = b.location.range.start ∧
          a.location.range.stop ≤ b.location.range.stop := by
  rw [references]
  split
  · refine List.pairwise_map.mpr ((NamedRange.sortedBy_inOrder _).imp fun {a b} before => ?_)
    exact (Range.precedesOrEquals_iff a.range b.range).mp before
  · exact .nil

/-- Exactly one reference is the definition. -/
theorem filter_references {declaration : Declaration} {range : Range}
    (found : analysis.declarationAt? position = some declaration)
    (named : analysis.nameRange? declaration.node = some range) :
    (analysis.references position).filter (·.isDefinition) =
      [analysis.toReference ⟨range, true⟩] := by
  have defines : ((NamedRange.inOrder (analysis.referenceRanges declaration.node)).filter
      (·.isDefinition)).Perm [⟨range, true⟩] := by
    have kept := (List.mergeSort_perm (analysis.referenceRanges declaration.node)
      fun a b => a.range.precedesOrEquals b.range).filter (·.isDefinition)
    rwa [filter_isDefinition, named] at kept
  rw [references_of_declarationAt? found, List.filter_map]
  exact congrArg (List.map analysis.toReference) (List.perm_singleton.mp defines)

/-- A rename to an identifier is carried out exactly where there is a definition to go to, and then
both agree with the references. -/
theorem answers_agree (analysis : Analysis) (position : Position) {newName : String}
    (valid : isIdentifier newName = true) :
    ((analysis.definition? position).isSome = true ↔
      ∃ edit, analysis.rename position newName = .ok edit) ∧
    ∀ definition edit, analysis.definition? position = some definition →
      analysis.rename position newName = .ok edit →
      analysis.Agree position definition edit := by
  have trimmed := trimString_of_isIdentifier valid
  constructor
  · rw [Option.isSome_iff_exists]
    constructor
    · rintro ⟨location, defined⟩
      obtain ⟨declaration, range, found, named, -⟩ := definition?_eq_some_iff.mp defined
      refine ⟨_, rename_eq_ok_iff.mpr ⟨trimmed.symm ▸ valid, declaration, found, ?_, rfl⟩⟩
      rw [named]
      rfl
    · rintro ⟨edit, renamed⟩
      obtain ⟨-, declaration, found, named, -⟩ := rename_eq_ok_iff.mp renamed
      obtain ⟨range, named⟩ := Option.isSome_iff_exists.mp named
      exact ⟨_, definition?_eq_some_iff.mpr ⟨declaration, range, found, named, rfl⟩⟩
  · intro definition edit defined renamed
    obtain ⟨declaration, range, found, named, rfl⟩ := definition?_eq_some_iff.mp defined
    obtain ⟨-, declaration', found', -, rfl⟩ := rename_eq_ok_iff.mp renamed
    cases found.symm.trans found'
    exact {
      ordered := analysis.ordered_references position
      defined := ⟨_, filter_references found named, rfl⟩
      uri := rfl
      edited := fun place => by
        have edits : (∃ change ∈ (renameRanges (analysis.referenceRanges declaration.node)).map
            (TextEdit.mk · (trimString newName)), change.range = place) ↔
            place ∈ renameRanges (analysis.referenceRanges declaration.node) := by
          simp
        rw [edits, mem_renameRanges_iff]
        simp only [mem_references_iff, found, Option.some_inj, exists_eq_left',
          exists_exists_and_eq_and]
        rfl }

/-- Output for a document with a function that is called on what it returns. Two blanks stand in
front of the name of the function, and the argument of another call holds a character of two UTF-16
units. -/
def nestedCalls : RawTree :=
  .interior "Fun: dummy_wrapper" ⟨⟨0, 1⟩, ⟨3, 2⟩⟩ [.interior "Block" ⟨⟨0, 1⟩, ⟨3, 2⟩⟩
    [.interior "Fun: f" ⟨⟨1, 1⟩, ⟨1, 16⟩⟩
      [.interior "Params" ⟨⟨1, 7⟩, ⟨1, 10⟩⟩ [.leaf "Binder: x" ⟨⟨1, 8⟩, ⟨1, 9⟩⟩],
      .interior "Block" ⟨⟨1, 11⟩, ⟨1, 16⟩⟩ [.leaf "Variable: x" ⟨⟨1, 13⟩, ⟨1, 14⟩⟩]],
    .interior "FunCall" ⟨⟨2, 1⟩, ⟨2, 21⟩⟩
      [.leaf "Variable: print" ⟨⟨2, 1⟩, ⟨2, 6⟩⟩, .leaf "Constant: \"🚀\"" ⟨⟨2, 7⟩, ⟨2, 11⟩⟩,
      .interior "FunCall" ⟨⟨2, 13⟩, ⟨2, 20⟩⟩
        [.leaf "Variable: f" ⟨⟨2, 13⟩, ⟨2, 14⟩⟩,
        .interior "FunCall" ⟨⟨2, 15⟩, ⟨2, 19⟩⟩
          [.leaf "Variable: f" ⟨⟨2, 15⟩, ⟨2, 16⟩⟩, .leaf "Constant: 1" ⟨⟨2, 17⟩, ⟨2, 18⟩⟩]]]]]

/-- The tree of that output. -/
def nestedCallsTree : SyntaxTree :=
  ⟨#[⟨.interior, .function "dummy_wrapper", ⟨⟨0, 1⟩, ⟨3, 2⟩⟩, none, [1]⟩,
    ⟨.interior, .block, ⟨⟨0, 1⟩, ⟨3, 2⟩⟩, some 0, [2, 7]⟩,
    ⟨.interior, .function "f", ⟨⟨1, 1⟩, ⟨1, 16⟩⟩, some 1, [3, 5]⟩,
    ⟨.interior, .parameters, ⟨⟨1, 7⟩, ⟨1, 10⟩⟩, some 2, [4]⟩,
    ⟨.leaf, .binder "x" .parameter, ⟨⟨1, 8⟩, ⟨1, 9⟩⟩, some 3, []⟩,
    ⟨.interior, .block, ⟨⟨1, 11⟩, ⟨1, 16⟩⟩, some 2, [6]⟩,
    ⟨.leaf, .variable "x", ⟨⟨1, 13⟩, ⟨1, 14⟩⟩, some 5, []⟩,
    ⟨.interior, .call, ⟨⟨2, 1⟩, ⟨2, 21⟩⟩, some 1, [8, 9, 10]⟩,
    ⟨.leaf, .variable "print", ⟨⟨2, 1⟩, ⟨2, 6⟩⟩, some 7, []⟩,
    ⟨.leaf, .constant (.string "\"🚀\""), ⟨⟨2, 7⟩, ⟨2, 11⟩⟩, some 7, []⟩,
    ⟨.interior, .call, ⟨⟨2, 13⟩, ⟨2, 20⟩⟩, some 7, [11, 12]⟩,
    ⟨.leaf, .variable "f", ⟨⟨2, 13⟩, ⟨2, 14⟩⟩, some 10, []⟩,
    ⟨.interior, .call, ⟨⟨2, 15⟩, ⟨2, 19⟩⟩, some 10, [13, 14]⟩,
    ⟨.leaf, .variable "f", ⟨⟨2, 15⟩, ⟨2, 16⟩⟩, some 12, []⟩,
    ⟨.leaf, .constant (.number "1"), ⟨⟨2, 17⟩, ⟨2, 18⟩⟩, some 12, []⟩]⟩

/-- The analysis of that document. -/
def nestedCallsAnalysis : Analysis :=
  ofTree "file:///nested.links" (.ofSource "fun  f(x) { x }\nprint(\"🚀\", f(f(1)));\n" .standard)
    nestedCallsTree {}

theorem ofRaw_nestedCalls :
    ofRaw "file:///nested.links" "fun  f(x) { x }\nprint(\"🚀\", f(f(1)));\n" nestedCalls {} =
      .ok nestedCallsAnalysis := by
  have built : build (.ofSource "fun  f(x) { x }\nprint(\"🚀\", f(f(1)));\n" .standard)
      nestedCalls = .ok nestedCallsTree := by decide +kernel
  rw [ofRaw, built, Except.map, nestedCallsAnalysis]

/-- The function of that document. -/
def nestedCallsFunction : Declaration := ⟨2, "f", .function, ⟨⟨1, 1⟩, ⟨3, 2⟩⟩, some 1⟩

/-- The places where the function is named. -/
def nestedCallsRanges : List Range :=
  [⟨⟨0, 5⟩, ⟨0, 6⟩⟩, ⟨⟨1, 12⟩, ⟨1, 13⟩⟩, ⟨⟨1, 14⟩, ⟨1, 15⟩⟩]

theorem rename_nestedCalls : nestedCallsAnalysis.rename ⟨1, 12⟩ "g'" =
    .ok ⟨"file:///nested.links", nestedCallsRanges.map (⟨·, "g'"⟩)⟩ := by
  have here : nestedCallsAnalysis.declarationAt? ⟨1, 12⟩ = some nestedCallsFunction := by
    decide +kernel
  -- the ranges are found in document order
  have sorted : SortedBy (·.range) (nestedCallsAnalysis.referenceRanges 2) := by
    rw [SortedBy]
    decide +kernel
  have ranges : renameRanges (nestedCallsAnalysis.referenceRanges 2) = nestedCallsRanges := by
    rw [renameRanges, NamedRange.inOrder, List.mergeSort_of_pairwise sorted]
    decide +kernel
  refine rename_eq_ok_iff.mpr ⟨by decide +kernel, _, here, by decide +kernel, ?_⟩
  rw [nestedCallsFunction, ranges]
  decide +kernel

/-- From the outer call, the definition of the function is found, and a rename edits it and both
calls. -/
theorem agree_nestedCalls :
    isIdentifier "g'" = true ∧
      nestedCallsAnalysis.definition? ⟨1, 12⟩ =
        some ⟨"file:///nested.links", ⟨⟨0, 5⟩, ⟨0, 6⟩⟩⟩ ∧
      nestedCallsAnalysis.rename ⟨1, 12⟩ "g'" =
        .ok ⟨"file:///nested.links", nestedCallsRanges.map (⟨·, "g'"⟩)⟩ ∧
      nestedCallsAnalysis.Agree ⟨1, 12⟩ ⟨"file:///nested.links", ⟨⟨0, 5⟩, ⟨0, 6⟩⟩⟩
        ⟨"file:///nested.links", nestedCallsRanges.map (⟨·, "g'"⟩)⟩ :=
  have valid : isIdentifier "g'" = true := by decide +kernel
  have defined : nestedCallsAnalysis.definition? ⟨1, 12⟩ =
      some ⟨"file:///nested.links", ⟨⟨0, 5⟩, ⟨0, 6⟩⟩⟩ := by decide +kernel
  ⟨valid, defined, rename_nestedCalls,
    (answers_agree nestedCallsAnalysis ⟨1, 12⟩ valid).2 _ _ defined rename_nestedCalls⟩

/-! ## Analyses of documents -/

/-- The analysis of a document: of a tree that is built, and of a text. -/
structure Grounded (analysis : Analysis) : Prop where
  /-- the tree is built from what the parser reports -/
  built : ∃ view raw, build view raw = .ok analysis.tree
  /-- the index is that of the tree -/
  indexed : analysis.index = .ofTree analysis.tree analysis.options.wrapperName
  /-- positions are those of the text -/
  viewed : ∃ source, analysis.view = .ofSource source analysis.options.positionShift

theorem grounded_of_ofRaw {uri source : String} {raw : RawTree} {options : Options}
    (analysed : ofRaw uri source raw options = .ok analysis) : analysis.Grounded := by
  obtain ⟨tree, built, rfl⟩ := ofRaw_eq_ok analysed
  exact ⟨⟨_, raw, built⟩, rfl, source, rfl⟩

namespace Grounded

variable (grounded : analysis.Grounded)

include grounded

theorem isTree : analysis.tree.IsTree := by
  obtain ⟨view, raw, built⟩ := grounded.built
  exact isTree_of_build built

theorem coherent : analysis.index.Coherent analysis.tree analysis.options.wrapperName :=
  grounded.indexed ▸ BindingIndex.coherent_ofTree grounded.isTree _

/-- A declaration stands for itself. -/
theorem declarationFor?_of_declared {declaration : Declaration}
    (declared : declaration ∈ analysis.index.declarations) :
    analysis.index.declarationFor? declaration.node = some declaration := by
  rw [grounded.indexed] at declared ⊢
  exact BindingIndex.declarationFor?_of_declared grounded.isTree declared

/-- A declaration is that of a function or of a binder of its name. -/
theorem exists_of_declared {declaration : Declaration}
    (declared : declaration ∈ analysis.index.declarations) :
    ∃ node, analysis.tree.get? declaration.node = some node ∧
      (node.kind = .function declaration.name ∧ declaration.kind = .function ∨
        ∃ role, node.kind = .binder declaration.name role ∧ declaration.kind = .binder role) := by
  rw [grounded.indexed] at declared
  rcases kind?_of_declarationOf? (BindingIndex.declarationOf?_of_mem declared) with
    ⟨is, kind, -⟩ | ⟨role, is, kind⟩
  · obtain ⟨node, stands, is⟩ := Option.map_eq_some_iff.mp is
    exact ⟨node, stands, .inl ⟨is, kind⟩⟩
  · obtain ⟨node, stands, is⟩ := Option.map_eq_some_iff.mp is
    exact ⟨node, stands, .inr ⟨role, is, kind⟩⟩

/-- An occurrence is that of a variable. -/
theorem exists_of_used {occurrence : Occurrence}
    (used : occurrence ∈ analysis.index.occurrences) :
    ∃ node name, analysis.tree.get? occurrence.node = some node ∧ node.kind = .variable name := by
  rw [grounded.indexed] at used
  obtain ⟨name, is, -⟩ :=
    occurrenceOf?_eq_some_iff.mp (BindingIndex.occurrenceOf?_of_mem used)
  obtain ⟨node, stands, is⟩ := Option.map_eq_some_iff.mp is
  exact ⟨node, name, stands, is⟩

/-- A use of a declaration stands for it. -/
theorem declarationFor?_of_use {declaration : Declaration}
    (declared : declaration ∈ analysis.index.declarations) {occurrence : Occurrence}
    (uses : occurrence ∈ analysis.index.occurrencesOf declaration.node) :
    analysis.index.declarationFor? occurrence.node = some declaration := by
  have c := grounded.coherent
  rw [c.usesOf, List.mem_filter, beq_iff_eq] at uses
  exact (c.declarationFor?_eq_some_iff uses.1).mpr ⟨declared, uses.2⟩

/-- The declaration at a position is in the index. -/
theorem declared_of_declarationAt? {declaration : Declaration}
    (found : analysis.declarationAt? position = some declaration) :
    declaration ∈ analysis.index.declarations := by
  obtain ⟨id, -, stands⟩ := Option.bind_eq_some_iff.mp found
  exact grounded.coherent.mem_of_declarationFor? stands

/-- Every name that has a range is listed with it. -/
theorem mem_nameRanges {id : NodeId} {range : Range}
    (named : analysis.nameRange? id = some range) : (id, range) ∈ analysis.nameRanges := by
  have listed : id ∈ analysis.tree.documentOrder := by
    rw [grounded.isTree.mem_documentOrder_iff]
    by_contra outside
    rw [nameRange?, SourceView.nameRange?, get?_eq_none (Nat.le_of_not_lt outside)] at named
    cases named
  exact List.mem_filterMap.mpr ⟨id, listed, by rw [named, Option.map_some]⟩

end Grounded

/-! ## References from references -/

/-- The names of a document keep apart when no two of them overlap or touch. -/
def NamesApart (analysis : Analysis) : Prop :=
  ∀ a ∈ analysis.nameRanges, ∀ b ∈ analysis.nameRanges, a.1 ≠ b.1 → a.2.Apart b.2

/-- Where names keep apart, a position on a name is on no other. -/
theorem identifierAt?_of_contains (apart : analysis.NamesApart) {id : NodeId} {range : Range}
    (listed : (id, range) ∈ analysis.nameRanges) (on : range.contains position = true) :
    analysis.identifierAt? position = some id := by
  have only : ∀ name ∈ analysis.nameRanges.filter (·.2.contains position), name.1 = id := by
    intro name mem
    obtain ⟨mem, on'⟩ := List.mem_filter.mp mem
    by_contra differ
    have off := (apart (id, range) listed name mem (Ne.symm differ)).not_contains on
    rw [off] at on'
    cases on'
  have here : (id, range) ∈ analysis.nameRanges.filter (·.2.contains position) :=
    List.mem_filter.mpr ⟨listed, on⟩
  obtain ⟨last, found⟩ := Option.ne_none_iff_exists'.mp
    (mt List.getLast?_eq_none_iff.mp (List.ne_nil_of_mem here))
  have same : last.1 = id := only last (List.mem_of_getLast? found)
  rw [identifierAt?, nodeAt?, found, Option.map_some, same]

/-- References and definitions depend on the declaration at a position only. -/
theorem references_congr {position' : Position}
    (same : analysis.declarationAt? position' = analysis.declarationAt? position) :
    analysis.references position' = analysis.references position ∧
      analysis.definition? position' = analysis.definition? position := by
  simp only [references, definition?, same, and_self]

/-- At each of its references, a name has the same references and the same definition. -/
theorem references_of_mem (grounded : analysis.Grounded) (apart : analysis.NamesApart)
    {reference : Reference} (mem : reference ∈ analysis.references position) :
    analysis.references reference.location.range.start = analysis.references position ∧
      analysis.definition? reference.location.range.start = analysis.definition? position := by
  obtain ⟨declaration, found, named, listed, rfl⟩ := mem_references_iff.mp mem
  have declared := grounded.declared_of_declarationAt? found
  refine references_congr ?_
  -- the start of a name finds the node that has the name, and this stands for the declaration
  have stands : ∀ id, analysis.nameRange? id = some named.range →
      analysis.index.declarationFor? id = some declaration →
      analysis.declarationAt? named.range.start = analysis.declarationAt? position := by
    intro id range stands
    obtain ⟨line, character, length, onLine⟩ := SourceView.exists_onLine_of_nameRange? range
    have on : named.range.contains named.range.start = true := by
      rw [onLine]
      exact Range.contains_start_onLine line character length
    rw [declarationAt?, identifierAt?_of_contains apart (grounded.mem_nameRanges range) on,
      Option.bind_some, stands, found]
  rcases mem_referenceRanges_iff.mp listed with ⟨range, -⟩ | ⟨occurrence, uses, range, -⟩
  · exact stands _ range (grounded.declarationFor?_of_declared declared)
  · exact stands _ range (grounded.declarationFor?_of_use declared uses)

/-- The reference to the function at the inner call. -/
def innerCall : Reference :=
  ⟨⟨"file:///nested.links", ⟨⟨1, 14⟩, ⟨1, 15⟩⟩⟩, false, "print(\"🚀\", f(f(1)));"⟩

/-- The inner call has the references and the definition that the name of the function has. -/
theorem references_innerCall :
    nestedCallsAnalysis.Grounded ∧ nestedCallsAnalysis.NamesApart ∧
      innerCall ∈ nestedCallsAnalysis.references ⟨0, 5⟩ ∧
      nestedCallsAnalysis.references ⟨1, 14⟩ = nestedCallsAnalysis.references ⟨0, 5⟩ ∧
      nestedCallsAnalysis.definition? ⟨1, 14⟩ = nestedCallsAnalysis.definition? ⟨0, 5⟩ :=
  have grounded := grounded_of_ofRaw ofRaw_nestedCalls
  have apart : nestedCallsAnalysis.NamesApart := by
    rw [NamesApart]
    decide +kernel
  have mem : innerCall ∈ nestedCallsAnalysis.references ⟨0, 5⟩ :=
    mem_references_iff.mpr ⟨nestedCallsFunction, by decide +kernel,
      ⟨⟨⟨1, 14⟩, ⟨1, 15⟩⟩, false⟩, by decide +kernel, by decide +kernel⟩
  ⟨grounded, apart, mem, references_of_mem grounded apart mem⟩

end Analysis

end LinksBinding
