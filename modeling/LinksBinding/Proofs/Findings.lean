import LinksBinding.Checks
import LinksBinding.Proofs.ArgumentCount
import LinksBinding.Proofs.Coherence
import LinksBinding.Proofs.Grouping
import LinksBinding.Proofs.RangeOrder

/-!
# What the checks find

The checks report what they are documented to report (`Analysis.IsProblem`), each problem once, and
the diagnostics are these findings in order (`Analysis.checked_of_ofRaw`).

Each check reads tables of the index of its own. That the index is coherent turns all of them into
questions about the uses and declarations of the document. Declarations that collide are found in
groups, and the groups come in any order. No node is the anchor of two of these findings, so there is
one way only to put them in the order of their nodes.
-/

namespace LinksBinding

/-! ## The order of diagnostics -/

namespace Diagnostic

/-- One diagnostic may be reported before the other: by start, then by end, then by code. -/
theorem precedesOrEquals_iff (a b : Diagnostic) :
    a.precedesOrEquals b = true ↔ a.range.start < b.range.start ∨
      a.range.start = b.range.start ∧ (a.range.stop < b.range.stop ∨
        a.range.stop = b.range.stop ∧ a.codeRank ≤ b.codeRank) := by
  obtain ⟨⟨start, stop⟩, severity, code, source, message, related⟩ := a
  obtain ⟨⟨start', stop'⟩, severity', code', source', message', related'⟩ := b
  simp only [precedesOrEquals, Range.precedesOrEquals, Range.mk.injEq]
  split
  · rename_i same
    obtain ⟨rfl, rfl⟩ := same
    simp [Position.lt_iff]
  · rename_i differ
    simp only [Bool.or_eq_true, Bool.and_eq_true, decide_eq_true_eq, beq_iff_eq, Position.le_iff,
      Position.lt_iff, Position.eq_iff] at differ ⊢
    omega

theorem precedesOrEquals_total (a b : Diagnostic) :
    (a.precedesOrEquals b || b.precedesOrEquals a) = true := by
  simp only [Bool.or_eq_true, precedesOrEquals_iff, Position.lt_iff, Position.eq_iff]
  omega

theorem precedesOrEquals_trans (a b c : Diagnostic) (ab : a.precedesOrEquals b = true)
    (bc : b.precedesOrEquals c = true) : a.precedesOrEquals c = true := by
  simp only [precedesOrEquals_iff, Position.lt_iff, Position.eq_iff] at ab bc ⊢
  omega

end Diagnostic

namespace BindingIndex

open SyntaxTree

variable {index : BindingIndex} {tree : SyntaxTree} {wrapper : String}

/-! ## What the checks ask of the index -/

namespace Coherent

variable (c : index.Coherent tree wrapper)

include c

theorem mem_unresolved {occurrence : Occurrence} : occurrence ∈ index.unresolved ↔
    occurrence ∈ index.occurrences ∧ index.target? occurrence.node = none := by
  rw [c.unresolved, List.mem_filter]
  refine and_congr_right fun mem => ?_
  rw [c.target occurrence mem, Option.map_eq_none_iff, Option.isNone_iff_eq_none]

theorem isKnownFunction_iff {name : String} : index.isKnownFunction name = true ↔
    ∃ declaration ∈ index.declarations, declaration.kind = .function ∧
      declaration.name = name := by
  rw [isKnownFunction, c.declarationsNamed, List.any_eq_true]
  simp only [List.mem_filter, beq_iff_eq, and_assoc]
  refine exists_congr fun declaration => and_congr_right fun _ => ?_
  cases declaration.kind <;> simp [DeclarationKind.isFunction]

end Coherent

/-- A use as the function of a call records the call and the number of its arguments. -/
theorem call_of_mem {occurrence : Occurrence} (mem : occurrence ∈ (ofTree tree wrapper).occurrences)
    (calls : occurrence.kind = .call) :
    ∃ call count, tree.parent? occurrence.node = some call ∧ occurrence.call = some call ∧
      occurrence.argumentCount = some count := by
  obtain ⟨name, -, made⟩ := occurrenceOf?_eq_some_iff.mp (occurrenceOf?_of_mem mem)
  have use : occurrence.kind = (tree.useOf occurrence.node).1 := congrArg (·.kind) made
  rw [congrArg (·.call) made, congrArg (·.argumentCount) made]
  rw [calls] at use
  cases up : tree.parent? occurrence.node with
  | none =>
    rw [useOf, up] at use
    cases use
  | some parent =>
    rw [useOf_eq up] at use ⊢
    unfold useBelow at use ⊢
    split at use
    · exact ⟨_, _, rfl, rfl, rfl⟩
    · cases use
    · cases use

end BindingIndex

namespace Analysis

open SyntaxTree

variable {analysis : Analysis}

/-! ## Problems -/

/-- A name is used where it refers to nothing, and no library has it. -/
structure Undefined (analysis : Analysis) (occurrence : Occurrence) : Prop where
  /-- the name is used -/
  used : occurrence ∈ analysis.index.occurrences
  /-- it refers to nothing -/
  unresolved : analysis.index.target? occurrence.node = none
  /-- it is not in the catalogue -/
  unlisted : ∀ function ∈ Library.all, function.name ≠ occurrence.name
  /-- nor is it one of the names that count as library functions besides -/
  extra : occurrence.name ∉ analysis.options.extraBuiltins

/-- No function of the name is declared anywhere in the document. -/
def Undeclared (analysis : Analysis) (name : String) : Prop :=
  ∀ declaration ∈ analysis.index.declarations, declaration.kind = .function →
    declaration.name ≠ name

/-- The call is made by a formlet, which passes it a further argument. -/
def HandlesFormlet (tree : SyntaxTree) (call : NodeId) : Prop :=
  ∃ placement, tree.parent? call = some placement ∧
    tree.kind? placement = some .formletPlacement ∧ tree.childPosition? call = some 1

/-- There is a problem of a kind, given by its number, at a node. -/
inductive IsProblem (analysis : Analysis) : NodeId → Coordinate → Prop
  /-- a variable that is not defined -/
  | undefinedVariable {occurrence : Occurrence} (undefined : Undefined analysis occurrence)
    (kind : occurrence.kind = .variable) :
    IsProblem analysis occurrence.node 1001
  /-- a function that is not defined, not even where it is not visible -/
  | undefinedFunction {occurrence : Occurrence} (undefined : Undefined analysis occurrence)
    (kind : occurrence.kind = .call ∨ occurrence.kind = .handlerReference)
    (undeclared : Undeclared analysis occurrence.name) :
    IsProblem analysis occurrence.node 1002
  /-- two declarations of one name whose visibility ends at one place -/
  | duplicate {declaration other : Declaration}
    (declared : declaration ∈ analysis.index.declarations)
    (declared' : other ∈ analysis.index.declarations) (differ : other.node ≠ declaration.node)
    (name : other.name = declaration.name)
    (stop : other.validity.stop = declaration.validity.stop) :
    IsProblem analysis declaration.node 2001
  /-- a call with another number of arguments than the function has parameters -/
  | argumentCount {occurrence : Occurrence} {declaration : Declaration} {expected : Nat}
    (used : occurrence ∈ analysis.index.occurrences) (calls : occurrence.kind = .call)
    (declared : declaration ∈ analysis.index.declarations)
    (target : analysis.index.target? occurrence.node = some declaration.node)
    (parameters : declaration.parameterCount = some expected)
    (differ : occurrence.argumentCount ≠ some expected)
    (complete : ∀ call, analysis.tree.parent? occurrence.node = some call →
      ¬ HandlesFormlet analysis.tree call) :
    IsProblem analysis occurrence.node 3001

/-- Whether among findings there is one of a kind at a node. -/
def Lists (findings : List Finding) (id : NodeId) (code : Coordinate) : Prop :=
  ∃ finding ∈ findings, finding.anchor = id ∧ finding.code = code

theorem IsProblem.code_cases {id : NodeId} {code : Coordinate}
    (problem : analysis.IsProblem id code) :
    code = 1001 ∨ code = 1002 ∨ code = 2001 ∨ code = 3001 := by
  cases problem <;> decide

/-- A name that is undefined refers to nothing. -/
theorem IsProblem.target?_eq_none {id : NodeId} {code : Coordinate}
    (problem : analysis.IsProblem id code) (codes : code = 1001 ∨ code = 1002) :
    analysis.index.target? id = none := by
  cases problem with
  | undefinedVariable undefined => exact undefined.unresolved
  | undefinedFunction undefined => exact undefined.unresolved
  | duplicate => exact absurd codes (by decide)
  | argumentCount => exact absurd codes (by decide)

/-- A name that is called with the wrong number of arguments refers to a declaration. -/
theorem IsProblem.isSome_target? {id : NodeId} {code : Coordinate}
    (problem : analysis.IsProblem id code) (codes : code = 3001) :
    (analysis.index.target? id).isSome = true := by
  cases problem with
  | argumentCount used calls declared target =>
    rw [target]
    rfl
  | undefinedVariable => exact absurd codes (by decide)
  | undefinedFunction => exact absurd codes (by decide)
  | duplicate => exact absurd codes (by decide)

theorem code_undefinedFinding (occurrence : Occurrence) :
    (undefinedFinding occurrence).code = if occurrence.kind = .variable then 1001 else 1002 := by
  rw [undefinedFinding]
  cases occurrence.kind <;> rfl

section Checks

variable (c : analysis.index.Coherent analysis.tree analysis.options.wrapperName)

include c

/-! ## Undefined names -/

theorem isUndefined_iff {occurrence : Occurrence} :
    occurrence ∈ analysis.index.unresolved ∧ analysis.isUndefined occurrence = true ↔
      analysis.Undefined occurrence ∧
        (occurrence.kind = .variable ∨ analysis.Undeclared occurrence.name) := by
  have unknown : analysis.index.isKnownFunction occurrence.name = false ↔
      analysis.Undeclared occurrence.name := by
    rw [← Bool.not_eq_true, c.isKnownFunction_iff, Undeclared]
    simp
  rw [c.mem_unresolved, isUndefined, Bool.and_eq_true, Bool.and_eq_true, Bool.or_eq_true,
    beq_iff_eq, Bool.not_eq_true', Bool.not_eq_true', Bool.not_eq_true', unknown]
  constructor
  · rintro ⟨⟨used, unresolved⟩, ⟨unlisted, extra⟩, known⟩
    refine ⟨⟨used, unresolved, ?_, ?_⟩, known⟩
    · simpa [Library.knows] using unlisted
    · simpa [Options.isExtraBuiltin] using extra
  · rintro ⟨⟨used, unresolved, unlisted, extra⟩, known⟩
    refine ⟨⟨used, unresolved⟩, ⟨?_, ?_⟩, known⟩
    · simpa [Library.knows] using unlisted
    · simpa [Options.isExtraBuiltin] using extra

/-- The first check finds the problems with undefined names. -/
theorem lists_undefinedNames_iff {id : NodeId} {code : Coordinate} :
    Lists analysis.undefinedNames id code ↔
      analysis.IsProblem id code ∧ (code = 1001 ∨ code = 1002) := by
  have listed : Lists analysis.undefinedNames id code ↔ ∃ occurrence : Occurrence,
      (analysis.Undefined occurrence ∧
        (occurrence.kind = .variable ∨ analysis.Undeclared occurrence.name)) ∧
      (undefinedFinding occurrence).anchor = id ∧ (undefinedFinding occurrence).code = code := by
    simp only [Lists, undefinedNames, List.mem_map, List.mem_filter, isUndefined_iff c,
      exists_exists_and_eq_and]
  rw [listed]
  constructor
  · rintro ⟨occurrence, ⟨undefined, known⟩, rfl, rfl⟩
    rw [code_undefinedFinding]
    by_cases kind : occurrence.kind = .variable
    · rw [if_pos kind]
      exact ⟨.undefinedVariable undefined kind, .inl rfl⟩
    · rw [if_neg kind]
      have called : occurrence.kind = .call ∨ occurrence.kind = .handlerReference := by
        cases is : occurrence.kind <;> simp_all
      exact ⟨.undefinedFunction undefined called (known.resolve_left kind), .inr rfl⟩
  · rintro ⟨problem, codes⟩
    cases problem with
    | undefinedVariable undefined kind =>
      refine ⟨_, ⟨undefined, .inl kind⟩, rfl, ?_⟩
      rw [code_undefinedFinding, if_pos kind]
    | undefinedFunction undefined kind undeclared =>
      refine ⟨_, ⟨undefined, .inr undeclared⟩, rfl, ?_⟩
      rw [code_undefinedFinding, if_neg]
      rcases kind with kind | kind <;> simp [kind]
    | duplicate => exact absurd codes (by decide)
    | argumentCount => exact absurd codes (by decide)

theorem nodup_anchors_undefinedNames : (analysis.undefinedNames.map (·.anchor)).Nodup := by
  have sublist : ((analysis.index.unresolved.filter analysis.isUndefined).map (·.node)).Sublist
      (analysis.index.occurrences.map (·.node)) := by
    rw [c.unresolved]
    exact (List.filter_sublist.trans List.filter_sublist).map _
  rw [undefinedNames, List.map_map]
  exact c.usedOnce.sublist sublist

end Checks

/-! ## Argument counts -/

/-- A call is the handler of a formlet by its place. -/
theorem isPlacementHandler_iff {tree : SyntaxTree} {call : NodeId} :
    isPlacementHandler tree call = true ↔ HandlesFormlet tree call := by
  rw [isPlacementHandler, Bool.and_eq_true, Option.any_eq_true, beq_iff_eq, HandlesFormlet]
  simp only [SyntaxTree.hasKind, Option.any_eq_true, beq_iff_eq]
  constructor
  · rintro ⟨⟨placement, up, kind, is, rfl⟩, second⟩
    exact ⟨placement, up, is, second⟩
  · rintro ⟨placement, up, is, second⟩
    exact ⟨⟨placement, up, _, is, rfl⟩, second⟩

theorem nodup_anchors_argumentCountMismatches
    (usedOnce : (analysis.index.occurrences.map (·.node)).Nodup) :
    (analysis.argumentCountMismatches.map (·.anchor)).Nodup := by
  rw [List.Nodup, List.pairwise_map] at usedOnce ⊢
  refine usedOnce.filterMap _ fun a b differ finding found finding' found' => ?_
  rwa [anchor_of_argumentCountFinding? found, anchor_of_argumentCountFinding? found']

/-- The third check finds the problems with arguments. -/
theorem lists_argumentCountMismatches_iff
    (indexed : analysis.index = .ofTree analysis.tree analysis.options.wrapperName)
    (c : analysis.index.Coherent analysis.tree analysis.options.wrapperName)
    {id : NodeId} {code : Coordinate} :
    Lists analysis.argumentCountMismatches id code ↔
      analysis.IsProblem id code ∧ code = 3001 := by
  have call_of_mem : ∀ {occurrence : Occurrence}, occurrence ∈ analysis.index.occurrences →
      occurrence.kind = .call → ∃ call count, analysis.tree.parent? occurrence.node = some call ∧
        occurrence.call = some call ∧ occurrence.argumentCount = some count :=
    fun mem calls => BindingIndex.call_of_mem (indexed ▸ mem) calls
  constructor
  · rintro ⟨finding, listed, rfl, rfl⟩
    obtain ⟨occurrence, used, found⟩ := List.mem_filterMap.mp listed
    obtain ⟨declaration, expected, actual, stands, parameters, arguments, calls, differ, complete,
      rfl⟩ := argumentCountFinding?_eq_some_iff.mp found
    obtain ⟨declared, target⟩ := (c.declarationFor?_eq_some_iff used).mp stands
    obtain ⟨call, count, up, is, -⟩ := call_of_mem used calls
    refine ⟨.argumentCount used calls declared target parameters ?_ ?_, rfl⟩
    · rw [arguments]
      exact fun same => differ (Option.some_inj.mp same).symm
    · intro parent up'
      cases up.symm.trans up'
      rw [← isPlacementHandler_iff, complete call is]
      exact Bool.false_ne_true
  · rintro ⟨problem, codes⟩
    cases problem with
    | argumentCount used calls declared target parameters differ complete =>
      obtain ⟨call, count, up, is, arguments⟩ := call_of_mem used calls
      refine ⟨_, List.mem_filterMap.mpr ⟨_, used, argumentCountFinding?_eq_some_iff.mpr
        ⟨_, _, count, (c.declarationFor?_eq_some_iff used).mpr ⟨declared, target⟩, parameters,
          arguments, calls, ?_, ?_, rfl⟩⟩, rfl, rfl⟩
      · rintro rfl
        exact differ arguments
      · intro call' is'
        cases is.symm.trans is'
        rw [← Bool.not_eq_true, isPlacementHandler_iff]
        exact complete call up
    | undefinedVariable => exact absurd codes (by decide)
    | undefinedFunction => exact absurd codes (by decide)
    | duplicate => exact absurd codes (by decide)

/-! ## Duplicate declarations -/

/-- The declarations of a group. -/
def groupOf (analysis : Analysis) (key : String × ParserPosition) : List Declaration :=
  analysis.index.declarations.filter (groupKey · = key)

theorem mem_groupOf {key : String × ParserPosition} {declaration : Declaration} :
    declaration ∈ analysis.groupOf key ↔
      declaration ∈ analysis.index.declarations ∧ groupKey declaration = key := by
  rw [groupOf, List.mem_filter, decide_eq_true_eq]

/-- Whether a declaration shares its group with others. -/
def isShared (analysis : Analysis) (declaration : Declaration) : Bool :=
  (analysis.groupOf (groupKey declaration)).length > 1

/-- The finding for a declaration that shares its group. -/
def duplicateFinding (declaration : Declaration) : Finding :=
  .ofTemplate declaration.node .duplicateDeclaration [declaration.name]

/-- All members of a group share it, or none does. -/
theorem filter_isShared (analysis : Analysis) (key : String × ParserPosition) :
    (analysis.index.declarations.filter analysis.isShared).filter (groupKey · = key) =
      if (analysis.groupOf key).length > 1 then analysis.groupOf key else [] := by
  have same : ∀ declaration ∈ analysis.groupOf key,
      analysis.isShared declaration = decide ((analysis.groupOf key).length > 1) := by
    intro declaration mem
    rw [isShared, (mem_groupOf.mp mem).2]
  rw [List.filter_comm, ← groupOf, List.filter_congr same]
  split
  · rename_i several
    simp only [several, decide_true, List.filter_true]
  · rename_i alone
    simp only [alone, decide_false, List.filter_false]

/-- The findings for a group are those for its members that share it. -/
theorem groupFindings_collected (analysis : Analysis) (key : String × ParserPosition) :
    groupFindings (key, analysis.declarationGroups.collected key) =
      ((analysis.index.declarations.filter analysis.isShared).filter (groupKey · = key)).map
        duplicateFinding := by
  have nodes : (analysis.declarationGroups.collected key).toList =
      (analysis.groupOf key).map (·.node) := Table.collected_grouped key
  have size : (analysis.declarationGroups.collected key).size =
      (analysis.groupOf key).length := by
    rw [← Array.length_toList, nodes, List.length_map]
  rw [groupFindings, size, nodes, filter_isShared]
  split
  · rw [List.map_map]
    refine List.map_congr_left fun declaration mem => ?_
    obtain ⟨-, rfl⟩ := mem_groupOf.mp mem
    rfl
  · rfl

variable {groups : List ((String × ParserPosition) × Array NodeId)}

/-- In whatever order the groups come, each declaration that shares its group is found once. -/
theorem perm_flatMap_groupFindings
    (perm : groups.Perm analysis.declarationGroups.bindings) :
    (groups.flatMap groupFindings).Perm
      ((analysis.index.declarations.filter analysis.isShared).map duplicateFinding) := by
  have covered : ∀ declaration ∈ analysis.index.declarations.filter analysis.isShared,
      groupKey declaration ∈ analysis.declarationGroups.keys :=
    fun _ mem => Table.mem_keys_grouped (List.mem_of_mem_filter mem)
  refine (perm.flatMap_right _).trans ?_
  rw [Table.bindings_eq, List.flatMap_map]
  simp only [groupFindings_collected]
  rw [← List.map_flatMap]
  exact (perm_flatMap_filter (Table.nodup_keys _) covered).map _

theorem duplicatesIn_perm
    (perm : groups.Perm analysis.declarationGroups.bindings) : (duplicatesIn groups).Perm
      ((analysis.index.declarations.filter analysis.isShared).map duplicateFinding) :=
  (List.mergeSort_perm _ _).trans (perm_flatMap_groupFindings perm)

theorem ascending_duplicatesIn (groups : List ((String × ParserPosition) × Array NodeId)) :
    (duplicatesIn groups).Pairwise fun a b => decide (a.anchor ≤ b.anchor) = true := by
  refine List.pairwise_mergeSort (fun a b c ab bc => ?_) (fun a b => ?_) _
  · exact decide_eq_true (Nat.le_trans (of_decide_eq_true ab) (of_decide_eq_true bc))
  · simpa using Nat.le_total a.anchor b.anchor

section Once

variable (once : (analysis.index.declarations.map (·.node)).Nodup)

include once

theorem nodup_anchors_duplicatesIn
    (perm : groups.Perm analysis.declarationGroups.bindings) :
    ((duplicatesIn groups).map (·.anchor)).Nodup := by
  rw [((duplicatesIn_perm perm).map _).nodup_iff, List.map_map]
  exact once.sublist (List.filter_sublist.map _)

/-- The findings do not depend on the order in which the groups come. -/
theorem duplicatesIn_eq
    (perm : groups.Perm analysis.declarationGroups.bindings) :
    duplicatesIn groups = analysis.duplicateDeclarations := by
  have same : (duplicatesIn groups).Perm analysis.duplicateDeclarations :=
    (duplicatesIn_perm perm).trans (duplicatesIn_perm .rfl).symm
  refine List.Perm.eq_of_pairwise ?_ (ascending_duplicatesIn _) (ascending_duplicatesIn _) same
  intro a b found found' le ge
  exact List.inj_on_of_nodup_map (nodup_anchors_duplicatesIn once perm) found
    (same.mem_iff.mpr found') (Nat.le_antisymm (of_decide_eq_true le) (of_decide_eq_true ge))

/-- A declaration shares its group if there is another one in it. -/
theorem isShared_iff {declaration : Declaration}
    (declared : declaration ∈ analysis.index.declarations) :
    analysis.isShared declaration = true ↔ ∃ other ∈ analysis.index.declarations,
      other.node ≠ declaration.node ∧ groupKey other = groupKey declaration := by
  have member : declaration ∈ analysis.groupOf (groupKey declaration) :=
    mem_groupOf.mpr ⟨declared, rfl⟩
  have several : analysis.isShared declaration = true ↔
      analysis.groupOf (groupKey declaration) ≠ [declaration] := by
    -- the declaration is in its group, so the group has others unless it is all of it
    rw [isShared, decide_eq_true_eq]
    cases group : analysis.groupOf (groupKey declaration) with
    | nil => cases group ▸ member
    | cons first rest =>
      cases rest with
      | nil =>
        obtain rfl := List.mem_singleton.mp (group ▸ member)
        simp
      | cons second rest => simp
  have nodup : (analysis.groupOf (groupKey declaration)).Nodup :=
    (List.Nodup.of_map _ once).filter _
  rw [several, nodup.ne_singleton_iff, or_iff_right (List.ne_nil_of_mem member)]
  constructor
  · rintro ⟨other, mem, differ⟩
    obtain ⟨declared', key⟩ := mem_groupOf.mp mem
    refine ⟨other, declared', fun same => differ ?_, key⟩
    exact List.inj_on_of_nodup_map once declared' declared same
  · rintro ⟨other, declared', differ, key⟩
    exact ⟨other, mem_groupOf.mpr ⟨declared', key⟩, fun same => differ (same ▸ rfl)⟩

/-- The second check finds the declarations that collide with others. -/
theorem lists_duplicateDeclarations_iff {id : NodeId} {code : Coordinate} :
    Lists analysis.duplicateDeclarations id code ↔
      analysis.IsProblem id code ∧ code = 2001 := by
  have listed : Lists analysis.duplicateDeclarations id code ↔
      ∃ declaration ∈ analysis.index.declarations, analysis.isShared declaration = true ∧
        (duplicateFinding declaration).anchor = id ∧
        (duplicateFinding declaration).code = code := by
    simp only [Lists, duplicateDeclarations, (duplicatesIn_perm .rfl).mem_iff, List.mem_map,
      List.mem_filter, exists_exists_and_eq_and]
    simp only [and_assoc]
  rw [listed]
  constructor
  · rintro ⟨declaration, declared, shared, rfl, rfl⟩
    obtain ⟨other, declared', differ, key⟩ := (isShared_iff once declared).mp shared
    obtain ⟨name, stop⟩ := Prod.mk.inj key
    exact ⟨.duplicate declared declared' differ name stop, rfl⟩
  · rintro ⟨problem, codes⟩
    cases problem with
    | duplicate declared declared' differ name stop =>
      exact ⟨_, declared, (isShared_iff once declared).mpr
        ⟨_, declared', differ, Prod.ext name stop⟩, rfl, rfl⟩
    | undefinedVariable => exact absurd codes (by decide)
    | undefinedFunction => exact absurd codes (by decide)
    | argumentCount => exact absurd codes (by decide)

end Once

/-! ## All checks -/

/-- The checks find the problems of a document, and the diagnostics are what they find, in order. -/
structure Checked (analysis : Analysis) : Prop where
  /-- what is found are the problems -/
  found : ∀ id code, Lists analysis.findings id code ↔ analysis.IsProblem id code
  /-- each is found once -/
  once : (analysis.findings.map fun finding => (finding.anchor, finding.code)).Nodup
  /-- each that is found is shown -/
  shown : analysis.diagnostics.Perm (analysis.findings.map analysis.toDiagnostic)
  /-- no name is found to be undefined and to be called with the wrong number of arguments -/
  apart : ∀ id, Lists analysis.findings id 1001 ∨ Lists analysis.findings id 1002 →
    ¬ Lists analysis.findings id 3001
  /-- diagnostics are shown by start, then by end, then by code -/
  ascending : analysis.diagnostics.Pairwise fun a b => ∃ code code',
    a.code = some code ∧ b.code = some code' ∧
      (a.range.start < b.range.start ∨ a.range.start = b.range.start ∧
        (a.range.stop < b.range.stop ∨ a.range.stop = b.range.stop ∧ code ≤ code'))
  /-- they are the same in whatever order the groups of declarations come -/
  settled : ∀ groups, groups.Perm analysis.declarationGroups.bindings →
    Diagnostic.inOrder ((analysis.undefinedNames ++ duplicatesIn groups ++
      analysis.argumentCountMismatches).map analysis.toDiagnostic) = analysis.diagnostics

/-- Diagnostics are shown in order. -/
theorem ascending_diagnostics (analysis : Analysis) :
    analysis.diagnostics.Pairwise fun a b => ∃ code code',
      a.code = some code ∧ b.code = some code' ∧
        (a.range.start < b.range.start ∨ a.range.start = b.range.start ∧
          (a.range.stop < b.range.stop ∨ a.range.stop = b.range.stop ∧ code ≤ code')) := by
  have sorted : analysis.diagnostics.Pairwise fun a b => a.precedesOrEquals b = true :=
    List.pairwise_mergeSort Diagnostic.precedesOrEquals_trans Diagnostic.precedesOrEquals_total _
  refine sorted.imp_of_mem fun {a b} mem mem' before => ?_
  obtain ⟨finding, -, rfl⟩ := (analysis.mem_diagnostics a).mp mem
  obtain ⟨finding', -, rfl⟩ := (analysis.mem_diagnostics b).mp mem'
  have ranks : (analysis.toDiagnostic finding).codeRank ≤
      (analysis.toDiagnostic finding').codeRank ↔ finding.code ≤ finding'.code :=
    Nat.succ_le_succ_iff.trans UInt32.le_iff_toNat_le.symm
  refine ⟨finding.code, finding'.code, rfl, rfl, ?_⟩
  rwa [Diagnostic.precedesOrEquals_iff, ranks] at before

/-- What is found is found by one of the checks. -/
theorem lists_findings {id : NodeId} {code : Coordinate} :
    Lists analysis.findings id code ↔ Lists analysis.undefinedNames id code ∨
      Lists analysis.duplicateDeclarations id code ∨
      Lists analysis.argumentCountMismatches id code := by
  simp only [Lists, findings, List.mem_append, or_assoc, or_and_right, exists_or]

/-- Findings at different nodes are different problems. -/
theorem nodup_of_anchors {findings : List Finding} (once : (findings.map (·.anchor)).Nodup) :
    (findings.map fun finding => (finding.anchor, finding.code)).Nodup := by
  refine List.Nodup.of_map Prod.fst ?_
  rwa [List.map_map]

/-- Findings that different problems come from are different. -/
theorem nodup_append_of_codes {front back : List Finding}
    (once : (front.map fun finding => (finding.anchor, finding.code)).Nodup)
    (once' : (back.map fun finding => (finding.anchor, finding.code)).Nodup)
    (differ : ∀ id code, Lists front id code → ¬ Lists back id code) :
    ((front ++ back).map fun finding => (finding.anchor, finding.code)).Nodup := by
  rw [List.map_append, List.nodup_append]
  refine ⟨once, once', ?_⟩
  rintro ⟨id, code⟩ mem _ mem' rfl
  obtain ⟨finding, listed, is⟩ := List.mem_map.mp mem
  obtain ⟨finding', listed', is'⟩ := List.mem_map.mp mem'
  obtain ⟨rfl, rfl⟩ := Prod.mk.inj is
  exact differ _ _ ⟨finding, listed, rfl, rfl⟩ ⟨finding', listed', Prod.mk.inj is'⟩

/-- The checks of an analysis find its problems. -/
theorem checked_of_ofRaw {uri source : String} {raw : RawTree} {options : Options}
    (analysed : ofRaw uri source raw options = .ok analysis) : Checked analysis := by
  obtain ⟨tree, built, is⟩ := ofRaw_eq_ok analysed
  have indexed : analysis.index = .ofTree analysis.tree analysis.options.wrapperName := is ▸ rfl
  have c : analysis.index.Coherent analysis.tree analysis.options.wrapperName :=
    is ▸ BindingIndex.coherent_ofTree (SyntaxTree.isTree_of_build built) options.wrapperName
  have found : ∀ id code, Lists analysis.findings id code ↔ analysis.IsProblem id code := by
    intro id code
    rw [lists_findings, lists_undefinedNames_iff c, lists_duplicateDeclarations_iff c.declaredOnce,
      lists_argumentCountMismatches_iff indexed c, ← and_or_left, ← and_or_left,
      and_iff_left_iff_imp, or_assoc]
    exact IsProblem.code_cases
  exact {
    found := found
    once := by
      have undefined := nodup_of_anchors (nodup_anchors_undefinedNames c)
      have duplicate := nodup_of_anchors (nodup_anchors_duplicatesIn c.declaredOnce .rfl)
      have mismatch := nodup_of_anchors (nodup_anchors_argumentCountMismatches c.usedOnce)
      -- the codes of the three checks differ
      refine nodup_append_of_codes (nodup_append_of_codes undefined duplicate ?_) mismatch ?_
      · intro id code first second
        obtain ⟨-, first⟩ := (lists_undefinedNames_iff c).mp first
        obtain ⟨-, rfl⟩ := (lists_duplicateDeclarations_iff c.declaredOnce).mp second
        exact absurd first (by decide)
      · rintro id code ⟨finding, listed, is⟩ second
        obtain ⟨-, rfl⟩ := (lists_argumentCountMismatches_iff indexed c).mp second
        rcases List.mem_append.mp listed with first | first
        · obtain ⟨-, first⟩ := (lists_undefinedNames_iff c).mp ⟨finding, first, is⟩
          exact absurd first (by decide)
        · obtain ⟨-, first⟩ :=
            (lists_duplicateDeclarations_iff c.declaredOnce).mp ⟨finding, first, is⟩
          exact absurd first (by decide)
    shown := List.mergeSort_perm _ _
    apart := by
      intro id undefined mismatch
      rw [found, found] at undefined
      rw [found] at mismatch
      have none : analysis.index.target? id = none :=
        undefined.elim (·.target?_eq_none (.inl rfl)) (·.target?_eq_none (.inr rfl))
      have some_ := mismatch.isSome_target? rfl
      rw [none] at some_
      cases some_
    ascending := ascending_diagnostics analysis
    settled := fun groups perm => by
      rw [duplicatesIn_eq c.declaredOnce perm]
      rfl }

/-- Output for a document with a problem of each kind. -/
def troubled : RawTree :=
  .interior "Fun: dummy_wrapper" ⟨⟨0, 1⟩, ⟨4, 2⟩⟩ [.interior "Block" ⟨⟨0, 1⟩, ⟨4, 2⟩⟩
    [.interior "Fun: f" ⟨⟨1, 1⟩, ⟨1, 18⟩⟩
      [.interior "Params" ⟨⟨1, 6⟩, ⟨1, 12⟩⟩
        [.leaf "Binder: a" ⟨⟨1, 7⟩, ⟨1, 8⟩⟩, .leaf "Binder: a" ⟨⟨1, 10⟩, ⟨1, 11⟩⟩],
      .interior "Block" ⟨⟨1, 13⟩, ⟨1, 18⟩⟩ [.leaf "Variable: b" ⟨⟨1, 15⟩, ⟨1, 16⟩⟩]],
    .interior "FunCall" ⟨⟨2, 1⟩, ⟨2, 4⟩⟩ [.leaf "Variable: f" ⟨⟨2, 1⟩, ⟨2, 2⟩⟩],
    .interior "FunCall" ⟨⟨3, 1⟩, ⟨3, 4⟩⟩ [.leaf "Variable: g" ⟨⟨3, 1⟩, ⟨3, 2⟩⟩]]]

/-- The tree of that output. -/
def troubledTree : SyntaxTree :=
  ⟨#[⟨.interior, .function "dummy_wrapper", ⟨⟨0, 1⟩, ⟨4, 2⟩⟩, none, [1]⟩,
    ⟨.interior, .block, ⟨⟨0, 1⟩, ⟨4, 2⟩⟩, some 0, [2, 8, 10]⟩,
    ⟨.interior, .function "f", ⟨⟨1, 1⟩, ⟨1, 18⟩⟩, some 1, [3, 6]⟩,
    ⟨.interior, .parameters, ⟨⟨1, 6⟩, ⟨1, 12⟩⟩, some 2, [4, 5]⟩,
    ⟨.leaf, .binder "a" .parameter, ⟨⟨1, 7⟩, ⟨1, 8⟩⟩, some 3, []⟩,
    ⟨.leaf, .binder "a" .parameter, ⟨⟨1, 10⟩, ⟨1, 11⟩⟩, some 3, []⟩,
    ⟨.interior, .block, ⟨⟨1, 13⟩, ⟨1, 18⟩⟩, some 2, [7]⟩,
    ⟨.leaf, .variable "b", ⟨⟨1, 15⟩, ⟨1, 16⟩⟩, some 6, []⟩,
    ⟨.interior, .call, ⟨⟨2, 1⟩, ⟨2, 4⟩⟩, some 1, [9]⟩,
    ⟨.leaf, .variable "f", ⟨⟨2, 1⟩, ⟨2, 2⟩⟩, some 8, []⟩,
    ⟨.interior, .call, ⟨⟨3, 1⟩, ⟨3, 4⟩⟩, some 1, [11]⟩,
    ⟨.leaf, .variable "g", ⟨⟨3, 1⟩, ⟨3, 2⟩⟩, some 10, []⟩]⟩

/-- The analysis of that document. -/
def troubledAnalysis : Analysis :=
  ofTree "file:///troubled.links" (.ofSource "fun f(a, a) { b }\nf();\ng();\n" .standard)
    troubledTree {}

theorem ofRaw_troubled :
    ofRaw "file:///troubled.links" "fun f(a, a) { b }\nf();\ng();\n" troubled {} =
      .ok troubledAnalysis := by
  have built : build (.ofSource "fun f(a, a) { b }\nf();\ng();\n" .standard) troubled =
      .ok troubledTree := by decide +kernel
  rw [ofRaw, built, Except.map, troubledAnalysis]

/-- The document has a variable and a function that are not defined, a parameter that is declared
twice, and a call without arguments. -/
theorem checked_troubledAnalysis :
    ofRaw "file:///troubled.links" "fun f(a, a) { b }\nf();\ng();\n" troubled {} =
        .ok troubledAnalysis ∧
      Checked troubledAnalysis ∧
      troubledAnalysis.undefinedNames.map (fun finding => (finding.anchor, finding.code)) =
        [(7, 1001), (11, 1002)] ∧
      troubledAnalysis.index.declarations.filter troubledAnalysis.isShared =
        [⟨4, "a", .binder .parameter, ⟨⟨1, 7⟩, ⟨1, 18⟩⟩, none⟩,
          ⟨5, "a", .binder .parameter, ⟨⟨1, 10⟩, ⟨1, 18⟩⟩, none⟩] ∧
      troubledAnalysis.argumentCountMismatches.map (fun finding => (finding.anchor, finding.code)) =
        [(9, 3001)] :=
  ⟨ofRaw_troubled, checked_of_ofRaw ofRaw_troubled, by decide +kernel, by decide +kernel,
    by decide +kernel⟩

end Analysis

end LinksBinding
