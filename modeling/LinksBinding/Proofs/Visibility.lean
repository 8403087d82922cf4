import LinksBinding.Proofs.Coherence
import LinksBinding.Proofs.Lexical

/-!
# Where declarations are recorded to be visible

A declaration of the index records where it is visible from the scope around it. A use records where
the declaration that it refers to is visible from the scope that it was found in. For a variable
these two are the same, unless the declaration stands in a group of functions and was found from
outside the group (`validity_of_target`). The scan for variables does not enter functions, so a group
is the only scope that it passes on the way to a declaration.

Seen from a group, its functions are visible up to its end, while a variable behind it still refers
to them. There the record of the declaration does not cover the use (`not_validity_covers_use`).
-/

namespace LinksBinding

/-- A position that is not before `start` lies before the later of `stop` and `start` exactly if it
lies before `stop`. -/
theorem ParserPosition.lt_max_iff {start stop position : ParserPosition} (h : start ≤ position) :
    position < stop.max start ↔ position < stop := by
  by_cases le : stop ≤ start
  · rw [max_eq_right le]
    constructor
    · exact fun before => absurd (lt_of_le_of_lt h before) (lt_irrefl start)
    · exact fun before =>
        absurd (lt_of_le_of_lt (ParserPosition.le_trans le h) before) (lt_irrefl stop)
  · rw [max_eq_left ((ParserPosition.le_total stop start).resolve_left le)]

namespace SyntaxTree

variable {tree : SyntaxTree} {wrapper name : String} {use : ParserSpan} {d scope : NodeId}

/-! ## Where a declaration is visible from a scope -/

/-- What is confined to a construct is visible in the construct, whichever scope it is seen from. -/
theorem IsTree.validityScope?_of_confined (h : tree.IsTree) (inside : d < tree.size)
    {construct : NodeId} (confined : tree.confinement? d = some construct) (scope : NodeId) :
    tree.validityScope? d scope = tree.span? construct := by
  have above := h.encloses_of_confinement? inside confined
  obtain ⟨node, found⟩ := exists_get? inside
  obtain ⟨outer, found'⟩ := h.exists_of_encloses above
  simp only [validityScope?, span?_of_get? found, confined, span?_of_get? found',
    Option.bind_eq_bind, Option.bind_some]
  rfl

/-- What is not confined is visible from its start to the end of the scope. -/
theorem validityScope?_of_free (free : tree.confinement? d = none) {span outer : ParserSpan}
    (stands : tree.span? d = some span) (bounds : tree.span? scope = some outer) :
    tree.validityScope? d scope = some ⟨span.start, outer.stop.max span.start⟩ := by
  simp only [validityScope?, stands, free, bounds, Option.bind_eq_bind, Option.bind_some,
    Option.bind_none]
  rfl

/-- A declaration of the index is recorded to be visible where it is from the scope around it. -/
theorem IsTree.validity_of_declarationOf? (h : tree.IsTree) {declaration : Declaration}
    (made : tree.declarationOf? wrapper d = some declaration) (inside : d < tree.size) :
    ∃ own, tree.IsScopeOf d own ∧ tree.validityScope? d own = some declaration.validity := by
  have valid : tree.declarationValidity? d = some declaration.validity := by
    unfold declarationOf? at made
    split at made
    · split at made
      · cases made
      · obtain ⟨validity, valid, rfl⟩ := Option.map_eq_some_iff.mp made
        exact valid
    · obtain ⟨validity, valid, rfl⟩ := Option.map_eq_some_iff.mp made
      exact valid
    · cases made
  obtain ⟨own, around, valid⟩ := Option.bind_eq_some_iff.mp valid
  exact ⟨own, (h.enclosingScope?_eq_some_iff inside).mp around, valid⟩

/-! ## The scope around a declaration and the scope it is found from -/

/-- The declaration `d` is seen from the scope through a group of functions: the group is the scope
around it, and lies below the scope. -/
def SeenThrough (tree : SyntaxTree) (scope group d : NodeId) : Prop :=
  tree.IsScopeOf d group ∧ tree.kind? group = some .functionGroup ∧ tree.Encloses scope group

/-- Only what bounds a scope is searched, and the root. -/
theorem IsSearched.boundsScope_or {id : NodeId} {i : Nat}
    (searched : tree.IsSearched wrapper id i scope) : tree.BoundsScope scope ∨ scope = root := by
  induction searched with
  | first around =>
    obtain ⟨-, ⟨-, bounds, -⟩ | ⟨top, -⟩⟩ := around
    · exact .inl bounds
    · exact .inr top
  | further _ _ _ _ ih => exact ih

/-- A declaration that a variable sees from a scope stands directly in the scope, or is seen through
a group. -/
theorem IsVisible.eq_or_seenThrough (h : tree.IsTree)
    (visible : tree.IsVisible .value name use scope d)
    (bounds : tree.BoundsScope scope ∨ scope = root) {own : NodeId}
    (around : tree.IsScopeOf d own) : own = scope ∨ tree.SeenThrough scope own d := by
  have inside := visible.below.lt_size
  have above : own = scope ∨ tree.Encloses scope own := by
    rcases bounds with bounds | rfl
    · exact (around.eq_or_encloses visible.below bounds).imp Eq.symm id
    · by_cases top : own = root
      · exact .inl top
      · exact .inr (h.root_encloses top
          (Nat.lt_trans (h.encloses_lt (around.encloses h inside)) inside))
  refine above.imp id fun lower => ?_
  rcases around.2 with ⟨covers, boundary, -⟩ | ⟨top, -⟩
  · exact ⟨around, boundary.resolve_left (visible.inSight rfl own lower covers), lower⟩
  · exact absurd (top ▸ lower) (h.not_encloses_root scope)

end SyntaxTree

/-! ## What is recorded -/

namespace BindingIndex

open SyntaxTree

variable {tree : SyntaxTree} {wrapper : String}

/-- What a use at `use` and the declaration that it refers to record, when the declaration was found
as the resolution says. -/
structure Records (tree : SyntaxTree) (occurrence : Occurrence) (use : ParserSpan)
    (declaration : Declaration) (r : Resolution) : Prop where
  /-- the use records where the declaration is visible from the scope that it was found in -/
  resolvedIn : occurrence.resolvedIn = some r.validity ∧
    tree.validityScope? declaration.node r.scope = some r.validity
  /-- the use starts there -/
  covers : r.validity.containsPosition use.start = true
  /-- the declaration records the same if it is confined to a construct or was not found through a
  group of functions -/
  same : (tree.confinement? declaration.node).isSome = true ∨
      (∀ group, ¬ tree.SeenThrough r.scope group declaration.node) →
    declaration.validity = r.validity
  /-- otherwise it is recorded to be visible up to the end of the group, which is the same if the
  group ends with the scope, and covers the use if the use is not behind the group -/
  group : ∀ group, tree.SeenThrough r.scope group declaration.node →
    tree.confinement? declaration.node = none →
    ∃ span inner outer, tree.span? declaration.node = some span ∧
      tree.span? group = some inner ∧ tree.span? r.scope = some outer ∧
      declaration.validity = ⟨span.start, inner.stop.max span.start⟩ ∧
      (declaration.validity = r.validity ↔
        inner.stop.max span.start = outer.stop.max span.start) ∧
      (declaration.validity.containsPosition use.start = true ↔ use.start < inner.stop)

/-- If a variable refers to a declaration of the index, it records where the declaration is visible
from the scope that it was found in, and starts there. The declaration records the same, unless it
was found through a group of functions. -/
theorem validity_of_target {view : SourceView} {raw : RawTree} (built : build view raw = .ok tree)
    {occurrence : Occurrence} (mem : occurrence ∈ (ofTree tree wrapper).occurrences)
    (isVariable : occurrence.kind = .variable) {declaration : Declaration}
    (declared : declaration ∈ (ofTree tree wrapper).declarations)
    (target : (ofTree tree wrapper).target? occurrence.node = some declaration.node) :
    ∃ r use, tree.resolve? wrapper .value occurrence.node = some r ∧
      r.declaration = declaration.node ∧ tree.span? occurrence.node = some use ∧
      Records tree occurrence use declaration r := by
  have h := isTree_of_build built
  rw [target?_of_mem mem h, Occurrence.target?] at target
  obtain ⟨r, resolution, same⟩ := Option.map_eq_some_iff.mp target
  have resolved : tree.resolve? wrapper .value occurrence.node = some r := by
    rw [← resolution, resolution_of_mem mem, isVariable]
    rfl
  obtain ⟨use, found, kind⟩ := Option.map_eq_some_iff.mp (kind?_of_mem mem)
  have named : use.kind.identifier? = some occurrence.name := by rw [kind, Kind.identifier?]
  obtain ⟨⟨i, searched, -⟩, ⟨visible, -⟩, valid⟩ := denotes_of_resolve? built found named resolved
  rw [same] at visible valid
  obtain ⟨validity, valid', starts, before⟩ := visible.valid
  cases valid.symm.trans valid'
  have inside := visible.below.lt_size
  obtain ⟨own, around, recorded⟩ :=
    h.validity_of_declarationOf? (declarationOf?_of_mem declared) inside
  refine ⟨r, use.span, resolved, same, span?_of_get? found, ⟨?_, valid⟩, ?_, ?_, ?_⟩
  · rw [Occurrence.resolvedIn, resolution, Option.map_some]
  · simp only [ParserSpan.containsPosition, Bool.and_eq_true, decide_eq_true_eq]
    exact ⟨starts, before⟩
  · intro plain
    rcases plain with confined | direct
    · obtain ⟨construct, confined⟩ := Option.isSome_iff_exists.mp confined
      rw [h.validityScope?_of_confined inside confined] at valid recorded
      exact Option.some_inj.mp (recorded.symm.trans valid)
    · -- the scope around the declaration is the one it was found in
      obtain rfl := (visible.eq_or_seenThrough h searched.boundsScope_or around).resolve_right
        (direct own)
      exact Option.some_inj.mp (recorded.symm.trans valid)
  · rintro group ⟨isScope, -, lower⟩ free
    cases around.unique isScope
    obtain ⟨node, stands⟩ := exists_get? inside
    obtain ⟨inner, bounds⟩ := h.exists_of_encloses (around.encloses h inside)
    obtain ⟨outer, bounds'⟩ := h.exists_of_encloses visible.below
    rw [validityScope?_of_free free (span?_of_get? stands) (span?_of_get? bounds),
      Option.some_inj] at recorded
    rw [validityScope?_of_free free (span?_of_get? stands) (span?_of_get? bounds'),
      Option.some_inj] at valid
    refine ⟨node.span, inner.span, outer.span, span?_of_get? stands, span?_of_get? bounds,
      span?_of_get? bounds', recorded.symm, ?_, ?_⟩
    · rw [← recorded, ← valid, ParserSpan.mk.injEq, and_iff_right rfl]
    · rw [← valid] at starts
      rw [← recorded]
      simp only [ParserSpan.containsPosition, Bool.and_eq_true, decide_eq_true_eq]
      rw [and_iff_right starts, ParserPosition.lt_max_iff starts]

/-- Output for a document with a group of two functions, and a use of the first behind it. -/
def groupedFunctions : RawTree :=
  .interior "Fun: top" ⟨⟨0, 1⟩, ⟨4, 2⟩⟩ [.interior "Block" ⟨⟨0, 1⟩, ⟨4, 2⟩⟩
    [.interior "Funs" ⟨⟨1, 1⟩, ⟨2, 14⟩⟩
      [.interior "Fun: f" ⟨⟨1, 1⟩, ⟨1, 14⟩⟩
        [.leaf "Params" ⟨⟨1, 6⟩, ⟨1, 8⟩⟩, .leaf "Constant: 1" ⟨⟨1, 11⟩, ⟨1, 12⟩⟩],
      .interior "Fun: g" ⟨⟨2, 1⟩, ⟨2, 14⟩⟩
        [.leaf "Params" ⟨⟨2, 6⟩, ⟨2, 8⟩⟩, .leaf "Constant: 2" ⟨⟨2, 11⟩, ⟨2, 12⟩⟩]],
    .leaf "Variable: f" ⟨⟨3, 1⟩, ⟨3, 2⟩⟩]]

/-- The tree of that output. -/
def groupedTree : SyntaxTree :=
  ⟨#[⟨.interior, .function "top", ⟨⟨0, 1⟩, ⟨4, 2⟩⟩, none, [1]⟩,
    ⟨.interior, .block, ⟨⟨0, 1⟩, ⟨4, 2⟩⟩, some 0, [2, 9]⟩,
    ⟨.interior, .functionGroup, ⟨⟨1, 1⟩, ⟨2, 14⟩⟩, some 1, [3, 6]⟩,
    ⟨.interior, .function "f", ⟨⟨1, 1⟩, ⟨1, 14⟩⟩, some 2, [4, 5]⟩,
    ⟨.leaf, .parameters, ⟨⟨1, 6⟩, ⟨1, 8⟩⟩, some 3, []⟩,
    ⟨.leaf, .constant (.number "1"), ⟨⟨1, 11⟩, ⟨1, 12⟩⟩, some 3, []⟩,
    ⟨.interior, .function "g", ⟨⟨2, 1⟩, ⟨2, 14⟩⟩, some 2, [7, 8]⟩,
    ⟨.leaf, .parameters, ⟨⟨2, 6⟩, ⟨2, 8⟩⟩, some 6, []⟩,
    ⟨.leaf, .constant (.number "2"), ⟨⟨2, 11⟩, ⟨2, 12⟩⟩, some 6, []⟩,
    ⟨.leaf, .variable "f", ⟨⟨3, 1⟩, ⟨3, 2⟩⟩, some 1, []⟩]⟩

theorem build_groupedFunctions :
    build (.ofSource "fun f() { 1 }\nfun g() { 2 }\nf\n" .standard) groupedFunctions =
      .ok groupedTree := by
  decide +kernel

/-- The use behind the group. -/
def useBehindGroup : Occurrence :=
  ⟨9, "f", .variable, none, none, some ⟨3, 0, ⟨⟨1, 1⟩, ⟨4, 2⟩⟩⟩⟩

/-- The first function of the group. -/
def firstOfGroup : Declaration := ⟨3, "f", .function, ⟨⟨1, 1⟩, ⟨2, 14⟩⟩, some 0⟩

theorem useBehindGroup_mem : useBehindGroup ∈ (ofTree groupedTree "top").occurrences := by
  decide +kernel

theorem firstOfGroup_mem : firstOfGroup ∈ (ofTree groupedTree "top").declarations := by
  decide +kernel

theorem target?_useBehindGroup : (ofTree groupedTree "top").target? 9 = some 3 := by
  decide +kernel

/-- The use behind the group refers to the first function of the group, which was found through the
group. -/
theorem validity_groupedTree :
    build (.ofSource "fun f() { 1 }\nfun g() { 2 }\nf\n" .standard) groupedFunctions =
        .ok groupedTree ∧
      useBehindGroup ∈ (ofTree groupedTree "top").occurrences ∧
      useBehindGroup.kind = .variable ∧
      firstOfGroup ∈ (ofTree groupedTree "top").declarations ∧
      (ofTree groupedTree "top").target? useBehindGroup.node = some firstOfGroup.node ∧
      ∃ r use, groupedTree.resolve? "top" .value 9 = some r ∧ r.declaration = 3 ∧
        groupedTree.span? 9 = some use ∧ Records groupedTree useBehindGroup use firstOfGroup r :=
  ⟨build_groupedFunctions, useBehindGroup_mem, rfl, firstOfGroup_mem, target?_useBehindGroup,
    validity_of_target build_groupedFunctions useBehindGroup_mem rfl firstOfGroup_mem
      target?_useBehindGroup⟩

/-- What a declaration records does not always cover the variables that refer to it. -/
theorem not_validity_covers_use :
    ¬ ∀ (view : SourceView) (raw : RawTree) (tree : SyntaxTree) (wrapper : String)
      (occurrence : Occurrence) (declaration : Declaration), build view raw = .ok tree →
      occurrence ∈ (ofTree tree wrapper).occurrences → occurrence.kind = .variable →
      declaration ∈ (ofTree tree wrapper).declarations →
      (ofTree tree wrapper).target? occurrence.node = some declaration.node →
      (∃ use, tree.span? occurrence.node = some use ∧
        declaration.validity.containsPosition use.start = true) ∧
      occurrence.resolvedIn = some declaration.validity := by
  intro covers
  obtain ⟨⟨use, stands, covered⟩, -⟩ := covers _ _ _ _ _ _ build_groupedFunctions
    useBehindGroup_mem rfl firstOfGroup_mem target?_useBehindGroup
  -- the use stands on the line behind the group
  have here : groupedTree.span? useBehindGroup.node = some ⟨⟨3, 1⟩, ⟨3, 2⟩⟩ := rfl
  cases here.symm.trans stands
  exact absurd covered (by decide)

end BindingIndex

end LinksBinding
