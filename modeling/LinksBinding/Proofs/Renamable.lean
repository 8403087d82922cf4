import LinksBinding.Proofs.Navigation

/-!
# Which names can be renamed

Before it asks for a new name, an editor asks whether the name at a position can be renamed at all,
and is answered with the range of the name. That answer looks at the name and at what it stands for.
The rename also has to find the declared name in the text, and is refused where it is not found.

So what can be renamed has been prepared, and is edited at the range that was answered. A
prepared rename to an identifier is refused in one situation only: at a use of a function whose own
name does not stand where its declaration starts (`prepared_iff_renamed`).
-/

namespace LinksBinding

namespace Analysis

open SyntaxTree Text

variable {analysis : Analysis} {position : Position}

/-! ## The name at a position -/

/-- What is found at a position has a range around it. -/
theorem exists_nameRange?_of_identifierAt? {id : NodeId}
    (found : analysis.identifierAt? position = some id) :
    ∃ range, analysis.nameRange? id = some range ∧ range.contains position = true := by
  obtain ⟨⟨id', range⟩, last, rfl⟩ := Option.map_eq_some_iff.mp found
  obtain ⟨listed, on⟩ := List.mem_filter.mp (List.mem_of_getLast? last)
  obtain ⟨other, -, named⟩ := List.mem_filterMap.mp listed
  obtain ⟨range', named, same⟩ := Option.map_eq_some_iff.mp named
  cases same
  exact ⟨range, named, on⟩

theorem prepareRename?_eq_some_iff {range : Range} :
    analysis.prepareRename? position = some range ↔
      ∃ id declaration, analysis.identifierAt? position = some id ∧
        analysis.index.declarationFor? id = some declaration ∧
        analysis.nameRange? id = some range := by
  simp only [prepareRename?, Option.bind_eq_bind, Option.bind_eq_some_iff]
  constructor
  · rintro ⟨id, found, declaration, stands, named⟩
    exact ⟨id, declaration, found, stands, named⟩
  · rintro ⟨id, declaration, found, stands, named⟩
    exact ⟨id, found, declaration, stands, named⟩

/-- A rename is prepared where the name stands for a declaration. -/
theorem isSome_prepareRename?_iff :
    (analysis.prepareRename? position).isSome = true ↔
      ∃ declaration, analysis.declarationAt? position = some declaration := by
  rw [Option.isSome_iff_exists]
  constructor
  · rintro ⟨range, prepared⟩
    obtain ⟨id, declaration, found, stands, -⟩ := prepareRename?_eq_some_iff.mp prepared
    exact ⟨declaration, Option.bind_eq_some_iff.mpr ⟨id, found, stands⟩⟩
  · rintro ⟨declaration, here⟩
    obtain ⟨id, found, stands⟩ := Option.bind_eq_some_iff.mp here
    obtain ⟨range, named, -⟩ := exists_nameRange?_of_identifierAt? found
    exact ⟨range, prepareRename?_eq_some_iff.mpr ⟨id, declaration, found, stands, named⟩⟩

/-! ## Declarations that are not located -/

/-- The name at a position stands for a declaration whose name has no range. -/
def Unlocated (analysis : Analysis) (position : Position) : Prop :=
  ∃ declaration, analysis.declarationAt? position = some declaration ∧
    analysis.nameRange? declaration.node = none

/-- A rename to an identifier fails to find the declaration exactly where it is not located. -/
theorem rename_eq_declarationNotFound_iff {newName : String}
    (valid : isIdentifier (trimString newName) = true) :
    analysis.rename position newName = .error .declarationNotFound ↔
      analysis.Unlocated position := by
  simp only [Unlocated, rename, valid, if_true]
  cases analysis.declarationAt? position with
  | none => simp
  | some declaration =>
    simp only [any_isDefinition, Option.some_inj, exists_eq_left']
    cases analysis.nameRange? declaration.node <;> simp

/-- A position stands for a declaration by being on its name or on a use of it. -/
theorem Grounded.eq_or_use (grounded : analysis.Grounded) {id : NodeId}
    {declaration : Declaration}
    (stands : analysis.index.declarationFor? id = some declaration) :
    id = declaration.node ∨
      ∃ occurrence ∈ analysis.index.occurrencesOf declaration.node, occurrence.node = id := by
  have own := ((grounded.coherent.declarationAt _ _).mp stands).2
  cases target : analysis.index.target? id with
  | none =>
    rw [target, Option.getD_none] at own
    exact .inl own.symm
  | some d =>
    rw [target, Option.getD_some] at own
    have indexed := grounded.indexed
    rw [indexed, BindingIndex.target?_ofTree grounded.isTree] at target
    obtain ⟨occurrence, made, -⟩ := Option.bind_eq_some_iff.mp target
    have listed : occurrence ∈ analysis.index.occurrences :=
      indexed ▸ BindingIndex.mem_occurrences_of grounded.isTree made
    have here := node_of_occurrenceOf? made
    refine .inr ⟨occurrence, ?_, here⟩
    rw [grounded.coherent.usesOf, List.mem_filter, beq_iff_eq]
    exact ⟨listed, ((grounded.coherent.declarationFor?_eq_some_iff listed).mp (here ▸ stands)).2⟩

/-- A declaration without a range is a function. -/
theorem Grounded.isFunction_of_nameRange?_eq_none (grounded : analysis.Grounded)
    {declaration : Declaration} (declared : declaration ∈ analysis.index.declarations)
    (unnamed : analysis.nameRange? declaration.node = none) : declaration.kind = .function := by
  obtain ⟨node, found, ⟨-, function⟩ | ⟨role, is, -⟩⟩ := grounded.exists_of_declared declared
  · exact function
  · simp [nameRange?, SourceView.nameRange?, found, is] at unnamed

/-! ## Preparing and renaming -/

theorem Unlocated.isSome_prepareRename? (unlocated : analysis.Unlocated position) :
    (analysis.prepareRename? position).isSome = true := by
  obtain ⟨declaration, here, -⟩ := unlocated
  exact isSome_prepareRename?_iff.mpr ⟨declaration, here⟩

/-- What can be renamed are the names that are prepared and whose declaration is located. -/
theorem exists_renamed_iff {newName : String} (valid : isIdentifier (trimString newName) = true) :
    (∃ edit, analysis.rename position newName = .ok edit) ↔
      (analysis.prepareRename? position).isSome = true ∧ ¬ analysis.Unlocated position := by
  rw [isSome_prepareRename?_iff]
  constructor
  · rintro ⟨edit, renamed⟩
    obtain ⟨-, declaration, here, named, -⟩ := rename_eq_ok_iff.mp renamed
    refine ⟨⟨declaration, here⟩, ?_⟩
    rintro ⟨declaration', here', unnamed⟩
    cases here.symm.trans here'
    rw [unnamed] at named
    cases named
  · rintro ⟨⟨declaration, here⟩, located⟩
    have named : (analysis.nameRange? declaration.node).isSome = true := by
      rw [Option.isSome_iff_ne_none]
      exact fun unnamed => located ⟨declaration, here, unnamed⟩
    exact ⟨_, rename_eq_ok_iff.mpr ⟨valid, declaration, here, named, rfl⟩⟩

/-- What can be renamed is prepared, and the range that is answered is one of those edited. -/
theorem Grounded.prepared_of_renamed (grounded : analysis.Grounded) {newName : String}
    {edit : WorkspaceEdit} (renamed : analysis.rename position newName = .ok edit) :
    ∃ range, analysis.prepareRename? position = some range ∧
      ∃ change ∈ edit.edits, change.range = range := by
  obtain ⟨-, declaration, here, -, rfl⟩ := rename_eq_ok_iff.mp renamed
  obtain ⟨id, found, stands⟩ := Option.bind_eq_some_iff.mp here
  obtain ⟨range, named, -⟩ := exists_nameRange?_of_identifierAt? found
  refine ⟨range, prepareRename?_eq_some_iff.mpr ⟨id, declaration, found, stands, named⟩,
    ⟨range, trimString newName⟩,
    List.mem_map.mpr ⟨range, Analysis.mem_renameRanges_iff.mpr ?_, rfl⟩, rfl⟩
  rcases grounded.eq_or_use stands with rfl | ⟨occurrence, uses, rfl⟩
  · exact ⟨⟨range, true⟩, mem_referenceRanges_iff.mpr (.inl ⟨named, rfl⟩), rfl⟩
  · exact ⟨⟨range, false⟩, mem_referenceRanges_iff.mpr (.inr ⟨occurrence, uses, named, rfl⟩), rfl⟩

/-- Where the declaration is not located, a use of a function is prepared and not renamed. -/
theorem Grounded.use_of_unlocated (grounded : analysis.Grounded)
    (unlocated : analysis.Unlocated position) :
    ∃ declaration ∈ analysis.index.declarations, declaration.kind = .function ∧
      analysis.nameRange? declaration.node = none ∧
      ∃ occurrence ∈ analysis.index.occurrencesOf declaration.node,
        analysis.identifierAt? position = some occurrence.node := by
  obtain ⟨declaration, here, unnamed⟩ := unlocated
  have declared := grounded.declared_of_declarationAt? here
  refine ⟨declaration, declared, grounded.isFunction_of_nameRange?_eq_none declared unnamed,
    unnamed, ?_⟩
  obtain ⟨id, found, stands⟩ := Option.bind_eq_some_iff.mp here
  rcases grounded.eq_or_use stands with rfl | ⟨occurrence, uses, rfl⟩
  · -- the name at a position has a range, so it is not the one in the declaration
    obtain ⟨range, named, -⟩ := exists_nameRange?_of_identifierAt? found
    rw [unnamed] at named
    cases named
  · exact ⟨occurrence, uses, found⟩

/-- What can be renamed to an identifier is prepared, with one of the ranges that are edited. The
converse holds exactly where the declaration is located. Where it is not, a use of a function is
prepared, and the rename says that the declaration is not found. -/
theorem prepared_iff_renamed (grounded : analysis.Grounded) (position : Position)
    {newName : String} (valid : isIdentifier newName = true) :
    (∀ edit, analysis.rename position newName = .ok edit →
      ∃ range, analysis.prepareRename? position = some range ∧
        ∃ change ∈ edit.edits, change.range = range) ∧
    (((analysis.prepareRename? position).isSome = true ↔
        ∃ edit, analysis.rename position newName = .ok edit) ↔
      ¬ analysis.Unlocated position) ∧
    (analysis.Unlocated position →
      (analysis.prepareRename? position).isSome = true ∧
      analysis.rename position newName = .error .declarationNotFound ∧
      ∃ declaration ∈ analysis.index.declarations, declaration.kind = .function ∧
        analysis.nameRange? declaration.node = none ∧
        ∃ occurrence ∈ analysis.index.occurrencesOf declaration.node,
          analysis.identifierAt? position = some occurrence.node) := by
  have trimmed : isIdentifier (trimString newName) = true := by
    rwa [trimString_of_isIdentifier valid]
  refine ⟨fun edit => grounded.prepared_of_renamed, ?_, fun unlocated => ?_⟩
  · rw [exists_renamed_iff trimmed]
    constructor
    · exact fun same unlocated => (same.mp unlocated.isSome_prepareRename?).2 unlocated
    · exact fun located => (and_iff_left located).symm
  · exact ⟨unlocated.isSome_prepareRename?,
      (rename_eq_declarationNotFound_iff trimmed).mpr unlocated,
      grounded.use_of_unlocated unlocated⟩

/-- Output for a document with a function whose name stands on the line below the keyword, and a
call of it. -/
def nameBelow : RawTree :=
  .interior "Fun: dummy_wrapper" ⟨⟨0, 1⟩, ⟨4, 2⟩⟩ [.interior "Block" ⟨⟨0, 1⟩, ⟨4, 2⟩⟩
    [.interior "Fun: f" ⟨⟨1, 1⟩, ⟨2, 11⟩⟩
      [.interior "Params" ⟨⟨2, 2⟩, ⟨2, 5⟩⟩ [.leaf "Binder: x" ⟨⟨2, 3⟩, ⟨2, 4⟩⟩],
      .interior "Block" ⟨⟨2, 6⟩, ⟨2, 11⟩⟩ [.leaf "Variable: x" ⟨⟨2, 8⟩, ⟨2, 9⟩⟩]],
    .interior "FunCall" ⟨⟨3, 1⟩, ⟨3, 5⟩⟩
      [.leaf "Variable: f" ⟨⟨3, 1⟩, ⟨3, 2⟩⟩, .leaf "Constant: 1" ⟨⟨3, 3⟩, ⟨3, 4⟩⟩]]]

/-- The tree of that output. -/
def nameBelowTree : SyntaxTree :=
  ⟨#[⟨.interior, .function "dummy_wrapper", ⟨⟨0, 1⟩, ⟨4, 2⟩⟩, none, [1]⟩,
    ⟨.interior, .block, ⟨⟨0, 1⟩, ⟨4, 2⟩⟩, some 0, [2, 7]⟩,
    ⟨.interior, .function "f", ⟨⟨1, 1⟩, ⟨2, 11⟩⟩, some 1, [3, 5]⟩,
    ⟨.interior, .parameters, ⟨⟨2, 2⟩, ⟨2, 5⟩⟩, some 2, [4]⟩,
    ⟨.leaf, .binder "x" .parameter, ⟨⟨2, 3⟩, ⟨2, 4⟩⟩, some 3, []⟩,
    ⟨.interior, .block, ⟨⟨2, 6⟩, ⟨2, 11⟩⟩, some 2, [6]⟩,
    ⟨.leaf, .variable "x", ⟨⟨2, 8⟩, ⟨2, 9⟩⟩, some 5, []⟩,
    ⟨.interior, .call, ⟨⟨3, 1⟩, ⟨3, 5⟩⟩, some 1, [8, 9]⟩,
    ⟨.leaf, .variable "f", ⟨⟨3, 1⟩, ⟨3, 2⟩⟩, some 7, []⟩,
    ⟨.leaf, .constant (.number "1"), ⟨⟨3, 3⟩, ⟨3, 4⟩⟩, some 7, []⟩]⟩

/-- The analysis of that document. -/
def nameBelowAnalysis : Analysis :=
  ofTree "file:///below.links" (.ofSource "fun\nf(x) { x }\nf(1);\n" .standard) nameBelowTree {}

theorem ofRaw_nameBelow :
    ofRaw "file:///below.links" "fun\nf(x) { x }\nf(1);\n" nameBelow {} =
      .ok nameBelowAnalysis := by
  have built : build (.ofSource "fun\nf(x) { x }\nf(1);\n" .standard) nameBelow =
      .ok nameBelowTree := by decide +kernel
  rw [ofRaw, built, Except.map, nameBelowAnalysis]

/-- The call stands for the function, whose name is not on the line of the keyword. -/
theorem unlocated_nameBelow : nameBelowAnalysis.Unlocated ⟨2, 0⟩ :=
  ⟨⟨2, "f", .function, ⟨⟨1, 1⟩, ⟨4, 2⟩⟩, some 1⟩, by decide +kernel, by decide +kernel⟩

/-- At the call, a rename is prepared and then refused. -/
theorem prepared_nameBelow :
    nameBelowAnalysis.Grounded ∧ isIdentifier "g" = true ∧
      nameBelowAnalysis.prepareRename? ⟨2, 0⟩ = some ⟨⟨2, 0⟩, ⟨2, 1⟩⟩ ∧
      nameBelowAnalysis.rename ⟨2, 0⟩ "g" = .error .declarationNotFound :=
  have grounded := grounded_of_ofRaw ofRaw_nameBelow
  have valid : isIdentifier "g" = true := by decide +kernel
  have refused := (prepared_iff_renamed grounded ⟨2, 0⟩ valid).2.2 unlocated_nameBelow
  ⟨grounded, valid, by decide +kernel, refused.2.1⟩

/-- What is prepared is not always what can be renamed. -/
theorem not_prepared_iff_renamed :
    ¬ ∀ (analysis : Analysis) (position : Position) (newName : String), analysis.Grounded →
      isIdentifier newName = true →
      ((analysis.prepareRename? position).isSome = true ↔
        ∃ edit, analysis.rename position newName = .ok edit) := by
  intro all
  have same := all nameBelowAnalysis ⟨2, 0⟩ "g" (grounded_of_ofRaw ofRaw_nameBelow)
    (by decide +kernel)
  have renamed := same.mp (by decide +kernel)
  -- the name in the declaration that the call stands for has no range
  have trimmed : isIdentifier (trimString "g") = true := by decide +kernel
  exact ((exists_renamed_iff trimmed).mp renamed).2 unlocated_nameBelow

end Analysis

end LinksBinding
