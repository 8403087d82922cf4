import Mathlib.Data.List.Nodup
import Mathlib.Data.Option.Basic
import LinksBinding.Proofs.Repair
import LinksBinding.Scope

/-!
# What a name denotes

`resolve?` climbs from scope to scope, scans each for declarations, and keeps the latest that passes
its tests. This file says what it finds without climbing or scanning: `Denotes` speaks of nodes
above and below one another, of spans, and of document order only.

The result is that the two agree on every tree that is built (`resolve?_iff_denotes`). The bound on
the number of scopes makes no difference, because a scope lies above the one searched before it, and
no node of such a tree has more ancestors than the layout admits.
-/

namespace LinksBinding

open Text

/-- Of two positions the one that is not later is earlier, or they are the same. -/
theorem ParserPosition.lt_or_eq_of_le {p q : ParserPosition} (h : p ≤ q) : p < q ∨ p = q := by
  rcases h with line | ⟨line, column⟩
  · exact .inl (.inl line)
  · rcases UInt32.lt_or_eq_of_le column with before | same
    · exact .inl (.inr ⟨line, before⟩)
    · exact .inr (by cases p; cases q; simp_all)

theorem ParserPosition.le_of_lt {p q : ParserPosition} (h : p < q) : p ≤ q := by
  rw [ParserPosition.lt_iff] at h
  rw [ParserPosition.le_iff]
  omega

theorem ParserPosition.lt_of_le_of_lt {p q r : ParserPosition} (h : p ≤ q) (h' : q < r) :
    p < r := by
  rw [ParserPosition.le_iff] at h
  rw [ParserPosition.lt_iff] at h' ⊢
  omega

theorem ParserPosition.lt_irrefl (p : ParserPosition) : ¬ p < p := by
  rw [ParserPosition.lt_iff]
  omega

theorem ParserPosition.lt_asymm {p q : ParserPosition} (h : p < q) : ¬ q < p := by
  rw [ParserPosition.lt_iff] at h ⊢
  omega

/-- The role of a binder. -/
def Kind.role? : Kind → Option BinderRole
  | .binder _ role => some role
  | _ => none

namespace SyntaxTree

variable {tree : SyntaxTree}

/-! ## What resolution reads -/

/-- What a declaration is confined to depends on its role. -/
theorem confinement?_eq (tree : SyntaxTree) (id : NodeId) :
    tree.confinement? id =
      match (tree.kind? id).bind Kind.role? with
      | some .loopVariable => tree.nearestAncestor? Kind.isIteration id
      | some .formBinding => tree.nearestAncestor? Kind.isFormlet id <|>
          (tree.nearestAncestor? Kind.isFormBinding id).bind tree.parent?
      | some .updateCursor => tree.nearestAncestor? Kind.changesRows id
      | _ => none := by
  unfold confinement?
  cases tree.kind? id with
  | none => rfl
  | some kind =>
    cases kind with
    | binder _ role => cases role <;> rfl
    | _ => rfl

/-- The construct that a declaration is confined to lies above it. -/
theorem IsTree.encloses_of_confinement? (h : tree.IsTree) {id construct : NodeId}
    (inside : id < tree.size) (confined : tree.confinement? id = some construct) :
    tree.Encloses construct id := by
  have above : ∀ {p : Kind → Bool} {a : NodeId}, tree.nearestAncestor? p id = some a →
      tree.Encloses a id := fun near => ((h.nearestAncestor?_eq_some_iff inside).mp near).1
  rw [confinement?_eq] at confined
  split at confined
  · exact above confined
  · rcases (Option.orElse_eq_some _ _ _).mp confined with near | ⟨-, near⟩
    · exact above near
    · obtain ⟨binding, near, up⟩ := Option.bind_eq_some_iff.mp near
      exact .trans (.single up) (above near)
  · exact above confined
  · cases confined

/-- The binding span of a declaration depends on its name only if it is a function. -/
theorem bindingSpan?_eq (tree : SyntaxTree) (id : NodeId) :
    tree.bindingSpan? id = (tree.span? id).map fun span =>
      match tree.kind? id with
      | some (.function name) =>
        ⟨span.start, (span.start.advance (functionKeywordWidth + .ofNat (unitLength name))).min
          span.stop⟩
      | _ => span := by
  rw [bindingSpan?, span?, kind?]
  cases tree.get? id with
  | none => rfl
  | some node =>
    simp only [Option.map_some, columnCount_eq]
    cases node.kind <;> rfl

theorem resolve?_of_variable (wrapper : String) (ns : Namespace) {id : NodeId} {used : String}
    {span : ParserSpan} (is : tree.kind? id = some (.variable used))
    (stands : tree.span? id = some span) :
    tree.resolve? wrapper ns id = tree.lookUp? wrapper used ns span maxScopeClimb id := by
  obtain ⟨node, found, kind⟩ := Option.map_eq_some_iff.mp is
  rw [span?_of_get? found] at stands
  cases stands
  rw [resolve?, found]
  simp only [Option.bind_eq_bind, Option.bind_some, kind, Kind.identifier?]

/-- What is resolved has a name. -/
theorem exists_identifier_of_resolve? {wrapper : String} {ns : Namespace} {id : NodeId}
    {r : Resolution} (resolved : tree.resolve? wrapper ns id = some r) :
    ∃ node name, tree.get? id = some node ∧ node.kind.identifier? = some name := by
  obtain ⟨node, found, rest⟩ := Option.bind_eq_some_iff.mp resolved
  obtain ⟨name, named, -⟩ := Option.bind_eq_some_iff.mp rest
  exact ⟨node, name, found, named⟩

/-! ## What is meant by a name -/

/-- The node is a function, with a name or without. -/
def IsFunction (tree : SyntaxTree) (id : NodeId) : Prop :=
  tree.kind? id = some .lambda ∨ ∃ name, tree.kind? id = some (.function name)

/-- The node bounds a scope: it is a function or a group of functions. -/
def BoundsScope (tree : SyntaxTree) (id : NodeId) : Prop :=
  tree.IsFunction id ∨ tree.kind? id = some .functionGroup

/-- `scope` is the scope around a node: the nearest node above it that bounds one, or the root if
there is none. Nothing is around the root. -/
def IsScopeOf (tree : SyntaxTree) (id scope : NodeId) : Prop :=
  id ≠ root ∧
    ((tree.Encloses scope id ∧ tree.BoundsScope scope ∧
        ∀ a, tree.Encloses scope a → tree.Encloses a id → ¬ tree.BoundsScope a) ∨
      scope = root ∧ ∀ a, tree.Encloses a id → ¬ tree.BoundsScope a)

/-- `scope` is searched for a name at node `id`, with `i` scopes searched before it. The search goes
outwards and ends with the root or the wrapper function. -/
inductive IsSearched (tree : SyntaxTree) (wrapper : String) : NodeId → Nat → NodeId → Prop
  /-- the scope around the node comes first -/
  | first {id scope : NodeId} (around : tree.IsScopeOf id scope) :
    IsSearched tree wrapper id 0 scope
  /-- the others are those that are searched from there -/
  | further {id inner scope : NodeId} {i : Nat} (around : tree.IsScopeOf id inner)
      (below : inner ≠ root) (inWrapper : tree.kind? inner ≠ some (.function wrapper))
      (searched : IsSearched tree wrapper inner i scope) : IsSearched tree wrapper id (i + 1) scope

/-- From a scope, a use of the name at `use` sees the declaration `d`. -/
structure IsVisible (tree : SyntaxTree) (ns : Namespace) (name : String) (use : ParserSpan)
    (scope d : NodeId) : Prop where
  /-- the declaration stands below the scope -/
  below : tree.Encloses scope d
  /-- a variable does not stand inside a function below the scope -/
  inSight : ns = .value → ∀ a, tree.Encloses scope a → tree.Encloses a d → ¬ tree.IsFunction a
  /-- it declares the name, as a function or as a binder -/
  declares : tree.kind? d = some (.function name) ∨ ∃ role, tree.kind? d = some (.binder name role)
  /-- the name is introduced before it is used -/
  introduced : ∃ binding, tree.bindingSpan? d = some binding ∧ binding.stop ≤ use.start
  /-- the declaration lies within the scope -/
  within : ∃ span outer, tree.span? d = some span ∧ tree.span? scope = some outer ∧
    outer.start ≤ span.start ∧ span.stop ≤ outer.stop
  /-- it is visible where the use starts -/
  valid : ∃ validity, tree.validityScope? d scope = some validity ∧
    validity.start ≤ use.start ∧ use.start < validity.stop

/-- `d` satisfies `p`, and all other nodes that do so are introduced before it. Of nodes introduced
at one place the last in document order comes last. -/
structure IsLatest (tree : SyntaxTree) (p : NodeId → Prop) (d : NodeId) : Prop where
  holds : p d
  last : ∀ e, p e → ∃ earlier later, tree.bindingSpan? e = some earlier ∧
    tree.bindingSpan? d = some later ∧ (earlier.start < later.start ∨
      earlier.start = later.start ∧ (e = d ∨ [e, d].Sublist tree.documentOrder))

/-- The name at node `id`, standing at `use`, denotes what the resolution says: the latest visible
declaration of the first scope that has any. -/
structure Denotes (tree : SyntaxTree) (wrapper : String) (ns : Namespace) (name : String)
    (use : ParserSpan) (id : NodeId) (r : Resolution) : Prop where
  first : ∃ i, tree.IsSearched wrapper id i r.scope ∧ ∀ j < i, ∀ scope,
    tree.IsSearched wrapper id j scope → ∀ d, ¬ tree.IsVisible ns name use scope d
  latest : tree.IsLatest (tree.IsVisible ns name use r.scope) r.declaration
  validity : tree.validityScope? r.declaration r.scope = some r.validity

/-! ## Kinds -/

theorem hasKind_opensBody_iff {id : NodeId} :
    tree.hasKind Kind.opensBody id = true ↔ tree.IsFunction id := by
  unfold hasKind IsFunction
  cases is : tree.kind? id with
  | none => simp
  | some kind => cases kind <;> simp [Kind.opensBody]

theorem hasKind_isScopeBoundary_iff {id : NodeId} :
    tree.hasKind Kind.isScopeBoundary id = true ↔ tree.BoundsScope id := by
  unfold hasKind BoundsScope IsFunction
  cases is : tree.kind? id with
  | none => simp
  | some kind => cases kind <;> simp [Kind.isScopeBoundary]

theorem declaredName?_eq_some_iff {id : NodeId} {name : String} :
    (∃ kind, tree.kind? id = some kind ∧ kind.declaredName? = some name) ↔
      tree.kind? id = some (.function name) ∨ ∃ role, tree.kind? id = some (.binder name role) := by
  cases is : tree.kind? id with
  | none => simp
  | some kind => cases kind <;> simp [Kind.declaredName?]

/-! ## Scopes -/

theorem isScopeOf_iff {id scope : NodeId} : tree.IsScopeOf id scope ↔
    id ≠ root ∧ (tree.IsNearest Kind.isScopeBoundary id scope ∨
      scope = root ∧ ∀ a, tree.Encloses a id → tree.hasKind Kind.isScopeBoundary a = false) := by
  simp only [IsScopeOf, IsNearest, ← Bool.not_eq_true, hasKind_isScopeBoundary_iff]

theorem IsScopeOf.unique {id a b : NodeId} (ha : tree.IsScopeOf id a) (hb : tree.IsScopeOf id b) :
    a = b := by
  obtain ⟨-, nearA | ⟨rfl, noneA⟩⟩ := isScopeOf_iff.mp ha <;>
    obtain ⟨-, nearB | ⟨rfl, noneB⟩⟩ := isScopeOf_iff.mp hb
  · exact nearA.unique nearB
  · have kind := nearA.2.1
    rw [noneB a nearA.1] at kind
    cases kind
  · have kind := nearB.2.1
    rw [noneA b nearB.1] at kind
    cases kind
  · rfl

theorem IsScopeOf.encloses (h : tree.IsTree) {id scope : NodeId} (around : tree.IsScopeOf id scope)
    (inside : id < tree.size) : tree.Encloses scope id := by
  obtain ⟨ne, near | ⟨rfl, -⟩⟩ := around
  · exact near.1
  · exact h.root_encloses ne inside

theorem IsTree.enclosingScope?_eq_some_iff (h : tree.IsTree) {id scope : NodeId}
    (inside : id < tree.size) :
    tree.enclosingScope? id = some scope ↔ tree.IsScopeOf id scope := by
  rw [enclosingScope?]
  by_cases top : id = SyntaxTree.root
  · simp [isScopeOf_iff, top]
  · rw [if_neg top, Option.some_inj]
    cases found : tree.nearestAncestor? Kind.isScopeBoundary id with
    | none =>
      have free := (h.nearestAncestor?_eq_none_iff inside).mp found
      constructor
      · rintro rfl
        exact isScopeOf_iff.mpr ⟨top, .inr ⟨rfl, free⟩⟩
      · exact fun around => (isScopeOf_iff.mpr ⟨top, .inr ⟨rfl, free⟩⟩).unique around
    | some a =>
      have near := (h.nearestAncestor?_eq_some_iff inside).mp found
      constructor
      · rintro rfl
        exact isScopeOf_iff.mpr ⟨top, .inl near⟩
      · exact fun around => (isScopeOf_iff.mpr ⟨top, .inl near⟩).unique around

theorem IsTree.enclosingScope?_eq_none_iff {id : NodeId} :
    tree.enclosingScope? id = none ↔ id = SyntaxTree.root := by
  rw [enclosingScope?]
  split <;> simp_all

/-- One scope is searched at a time. -/
theorem IsSearched.unique {wrapper : String} {id a b : NodeId} {i : Nat}
    (ha : tree.IsSearched wrapper id i a) (hb : tree.IsSearched wrapper id i b) : a = b := by
  induction ha with
  | first around =>
    cases hb with
    | first around' => exact around.unique around'
  | further around _ _ _ ih =>
    cases hb with
    | further around' _ _ searched =>
      cases around.unique around'
      exact ih searched

/-- The scopes searched have fewer and fewer ancestors. -/
theorem IsSearched.lt_ancestors (h : tree.IsTree) {wrapper : String} {id scope : NodeId} {i : Nat}
    (searched : tree.IsSearched wrapper id i scope) (inside : id < tree.size) :
    i < (tree.ancestors id).length := by
  induction searched with
  | first around =>
    have := h.length_ancestors_lt (around.encloses h inside)
    omega
  | further around _ _ _ ih =>
    have above := around.encloses h inside
    have := ih (Nat.lt_trans (h.encloses_lt above) inside)
    have := h.length_ancestors_lt above
    omega

/-- From the root nothing is searched. -/
theorem not_isSearched_root {wrapper : String} {i : Nat} {scope : NodeId} :
    ¬ tree.IsSearched wrapper root i scope := by
  rintro (around | around)
  · exact around.1 rfl
  · exact around.1 rfl

theorem isWrapper_iff {wrapper : String} {scope : NodeId} :
    tree.isWrapper wrapper scope = true ↔
      scope = root ∨ tree.kind? scope = some (.function wrapper) := by
  rw [isWrapper, Bool.or_eq_true, beq_iff_eq, hasKind_beq_iff]

/-! ## Candidates -/

theorem IsTree.mem_localDeclarations_iff (h : tree.IsTree) {scope d : NodeId} {name : String}
    {ns : Namespace} :
    d ∈ tree.localDeclarations scope name ns ↔
      tree.Encloses scope d ∧
        (ns = .value → ∀ a, tree.Encloses scope a → tree.Encloses a d → ¬ tree.IsFunction a) ∧
        (tree.kind? d = some (.function name) ∨
          ∃ role, tree.kind? d = some (.binder name role)) := by
  have declares : tree.declares name d = true ↔
      ∃ kind, tree.kind? d = some kind ∧ kind.declaredName? = some name := by
    rw [SyntaxTree.declares, hasKind, Option.any_eq_true]
    simp only [beq_iff_eq]
  -- every node above another is in the table, so it has a kind
  have seen : ∀ a, tree.Encloses a d →
      (tree.hasKind ns.seesBelow a = true ↔ (ns = .value → ¬ tree.IsFunction a)) := by
    intro a above
    obtain ⟨node, found⟩ := h.exists_of_encloses above
    rw [← hasKind_opensBody_iff, hasKind_of_get? found, hasKind_of_get? found]
    cases ns <;> simp [Namespace.seesBelow]
  rw [localDeclarations, List.mem_filter, h.mem_walk_children_iff, declares,
    declaredName?_eq_some_iff, and_assoc]
  refine and_congr_right fun _ => and_congr_left fun _ => ?_
  constructor
  · intro all value a lower higher
    exact (seen a higher).mp (all a lower higher) value
  · intro all a lower higher
    exact (seen a higher).mpr fun value => all value a lower higher

theorem candidate?_eq_some_iff {scope d : NodeId} {use : ParserSpan} {candidate : Candidate} :
    tree.candidate? scope use d = some candidate ↔
      ∃ binding span outer, tree.bindingSpan? d = some binding ∧ tree.span? d = some span ∧
        tree.span? scope = some outer ∧
        tree.validityScope? d scope = some candidate.validity ∧ binding.stop ≤ use.start ∧
        (outer.start ≤ span.start ∧ span.stop ≤ outer.stop) ∧
        (candidate.validity.start ≤ use.start ∧ use.start < candidate.validity.stop) ∧
        candidate.declaration = d ∧ candidate.introducedAt = binding.start := by
  rw [candidate?]
  constructor
  · intro h
    obtain ⟨binding, introduces, h⟩ := Option.bind_eq_some_iff.mp h
    obtain ⟨span, stands, h⟩ := Option.bind_eq_some_iff.mp h
    obtain ⟨outer, bounds, h⟩ := Option.bind_eq_some_iff.mp h
    obtain ⟨validity, valid, h⟩ := Option.bind_eq_some_iff.mp h
    split at h
    · rename_i passed
      cases h
      simp only [ParserSpan.precedes, ParserSpan.containsSpan, ParserSpan.containsPosition,
        Bool.and_eq_true, decide_eq_true_eq] at passed
      obtain ⟨⟨before, within⟩, sees⟩ := passed
      exact ⟨binding, span, outer, introduces, stands, bounds, valid, before, within, sees,
        rfl, rfl⟩
    · cases h
  · rintro ⟨binding, span, outer, introduces, stands, bounds, valid, before, within, sees,
      same, start⟩
    obtain ⟨declaration, introducedAt, validity⟩ := candidate
    cases same
    cases start
    simp only at valid sees
    simp [introduces, stands, bounds, valid, ParserSpan.precedes, ParserSpan.containsSpan,
      ParserSpan.containsPosition, before, within, sees]

theorem declaration_of_candidate? {scope d : NodeId} {use : ParserSpan} {candidate : Candidate}
    (h : tree.candidate? scope use d = some candidate) : candidate.declaration = d := by
  obtain ⟨-, -, -, -, -, -, -, -, -, -, same, -⟩ := candidate?_eq_some_iff.mp h
  exact same

/-- The candidates that a scope offers are its visible declarations. -/
theorem IsTree.mem_candidates_iff (h : tree.IsTree) {scope : NodeId} {name : String}
    {ns : Namespace} {use : ParserSpan} {candidate : Candidate} :
    candidate ∈ tree.candidates scope name ns use ↔
      tree.IsVisible ns name use scope candidate.declaration ∧
        (∃ binding, tree.bindingSpan? candidate.declaration = some binding ∧
          candidate.introducedAt = binding.start) ∧
        tree.validityScope? candidate.declaration scope = some candidate.validity := by
  rw [candidates, List.mem_filterMap]
  constructor
  · rintro ⟨d, listed, tested⟩
    obtain ⟨binding, span, outer, introduces, stands, bounds, valid, before, within, sees,
      rfl, start⟩ := candidate?_eq_some_iff.mp tested
    obtain ⟨below, inSight, declares⟩ := h.mem_localDeclarations_iff.mp listed
    exact ⟨⟨below, inSight, declares, ⟨binding, introduces, before⟩,
      ⟨span, outer, stands, bounds, within⟩, ⟨_, valid, sees⟩⟩, ⟨binding, introduces, start⟩, valid⟩
  · rintro ⟨visible, ⟨binding, introduces, start⟩, valid⟩
    obtain ⟨below, inSight, declares, ⟨_, introduces', before⟩,
      ⟨span, outer, stands, bounds, within⟩, ⟨_, valid', sees⟩⟩ := visible
    cases introduces.symm.trans introduces'
    cases valid.symm.trans valid'
    refine ⟨candidate.declaration, h.mem_localDeclarations_iff.mpr ⟨below, inSight, declares⟩, ?_⟩
    exact candidate?_eq_some_iff.mpr
      ⟨binding, span, outer, introduces, stands, bounds, valid, before, within, sees, rfl, start⟩

/-- Each visible declaration is offered as a candidate. -/
theorem IsTree.exists_candidate (h : tree.IsTree) {scope d : NodeId} {name : String}
    {ns : Namespace} {use : ParserSpan} (visible : tree.IsVisible ns name use scope d) :
    ∃ candidate ∈ tree.candidates scope name ns use, candidate.declaration = d := by
  obtain ⟨binding, introduces, -⟩ := visible.introduced
  obtain ⟨validity, valid, -⟩ := visible.valid
  exact ⟨⟨d, binding.start, validity⟩,
    h.mem_candidates_iff.mpr ⟨visible, ⟨binding, introduces, rfl⟩, valid⟩, rfl⟩

/-- Candidates come in document order. -/
theorem IsTree.candidates_sublist (h : tree.IsTree) {scope : NodeId} (inside : scope < tree.size)
    (name : String) (ns : Namespace) (use : ParserSpan) :
    ((tree.candidates scope name ns use).map Candidate.declaration).Sublist tree.documentOrder := by
  have ordered : (tree.localDeclarations scope name ns).Sublist tree.documentOrder :=
    List.filter_sublist.trans (h.walk_children_sublist ns.seesBelow inside)
  refine .trans ?_ ordered
  rw [candidates]
  generalize tree.localDeclarations scope name ns = declarations
  induction declarations with
  | nil => exact List.nil_sublist _
  | cons d rest ih =>
    rw [List.filterMap_cons]
    split
    · exact .cons d ih
    · rename_i candidate tested
      rw [← declaration_of_candidate? tested]
      exact ih.cons_cons candidate.declaration

/-! ## The latest candidate -/

/-- No candidate is later than the latest. -/
theorem le_of_latest? {candidates : List Candidate} {found : Candidate}
    (h : latest? candidates = some found) :
    ∀ other ∈ candidates, other.introducedAt ≤ found.introducedAt := by
  induction candidates generalizing found with
  | nil => cases h
  | cons candidate rest ih =>
    rw [latest?] at h
    split at h
    · rename_i later latest
      split at h
      · rename_i le
        cases h
        exact List.forall_mem_cons.mpr ⟨le, ih latest⟩
      · rename_i after
        cases h
        refine List.forall_mem_cons.mpr ⟨ParserPosition.le_refl _, fun other mem => ?_⟩
        exact ParserPosition.le_of_lt
          (ParserPosition.lt_of_le_of_lt (ih latest other mem) (ParserPosition.not_le.mp after))
    · rename_i none
      cases h
      rw [latest?_eq_none_iff.mp none]
      exact List.forall_mem_singleton.mpr (ParserPosition.le_refl _)

/-- The latest candidate is later than those behind it and not earlier than those before it. -/
theorem latest?_eq_some {candidates : List Candidate} {found : Candidate}
    (h : latest? candidates = some found) :
    ∃ before after, candidates = before ++ found :: after ∧
      (∀ other ∈ before, other.introducedAt ≤ found.introducedAt) ∧
      ∀ other ∈ after, other.introducedAt < found.introducedAt := by
  induction candidates generalizing found with
  | nil => cases h
  | cons candidate rest ih =>
    rw [latest?] at h
    split at h
    · rename_i later latest
      obtain ⟨before, after, split, notLater, earlier⟩ := ih latest
      split at h
      · rename_i le
        cases h
        refine ⟨candidate :: before, after, by rw [split, List.cons_append], ?_, earlier⟩
        exact List.forall_mem_cons.mpr ⟨le, notLater⟩
      · rename_i after
        cases h
        refine ⟨[], rest, rfl, List.forall_mem_nil _, fun other mem => ?_⟩
        exact ParserPosition.lt_of_le_of_lt (le_of_latest? latest other mem)
          (ParserPosition.not_le.mp after)
    · rename_i none
      cases h
      refine ⟨[], rest, rfl, List.forall_mem_nil _, ?_⟩
      rw [latest?_eq_none_iff.mp none]
      exact List.forall_mem_nil _

/-- At most one node is the latest. -/
theorem IsLatest.unique (nodup : tree.documentOrder.Nodup) {p : NodeId → Prop} {d e : NodeId}
    (hd : tree.IsLatest p d) (he : tree.IsLatest p e) : d = e := by
  obtain ⟨ofE, ofD, atE, atD, order⟩ := hd.last e he.holds
  obtain ⟨ofD', ofE', atD', atE', order'⟩ := he.last d hd.holds
  cases atE.symm.trans atE'
  cases atD.symm.trans atD'
  -- each is not earlier than the other, and at one place document order decides
  rcases order with lt | ⟨same, rfl | before⟩
  · rcases order' with gt | ⟨same, -⟩
    · exact absurd gt (ParserPosition.lt_asymm lt)
    · rw [same] at lt
      exact absurd lt (ParserPosition.lt_irrefl _)
  · rfl
  · rcases order' with gt | ⟨-, rfl | before'⟩
    · rw [same] at gt
      exact absurd gt (ParserPosition.lt_irrefl _)
    · rfl
    · exact absurd before' (not_sublist_swap nodup before)

/-- What is kept of the candidates of a scope is its latest visible declaration. -/
theorem IsTree.isLatest_of_latest? (h : tree.IsTree) {scope : NodeId} (inside : scope < tree.size)
    {name : String} {ns : Namespace} {use : ParserSpan} {found : Candidate}
    (latest : latest? (tree.candidates scope name ns use) = some found) :
    tree.IsLatest (tree.IsVisible ns name use scope) found.declaration ∧
      tree.validityScope? found.declaration scope = some found.validity := by
  obtain ⟨visible, ⟨later, introduces, start⟩, valid⟩ :=
    h.mem_candidates_iff.mp (latest?_mem latest)
  refine ⟨⟨visible, fun e visible' => ?_⟩, valid⟩
  obtain ⟨candidate, listed, rfl⟩ := h.exists_candidate visible'
  obtain ⟨-, ⟨earlier, introduces', start'⟩, -⟩ := h.mem_candidates_iff.mp listed
  refine ⟨earlier, later, introduces', introduces, ?_⟩
  rw [← start, ← start']
  -- candidates stand in document order, so one that stands before the latest precedes it there
  obtain ⟨before, after, split, notLater, sooner⟩ := latest?_eq_some latest
  have order := h.candidates_sublist inside name ns use
  rw [split] at listed order
  rcases List.mem_append.mp listed with mem | mem
  · refine (ParserPosition.lt_or_eq_of_le (notLater _ mem)).imp_right fun same => ⟨same, .inr ?_⟩
    refine .trans ?_ order
    rw [List.map_append, List.map_cons]
    have first : [candidate.declaration].Sublist (before.map Candidate.declaration) :=
      List.singleton_sublist.mpr (List.mem_map_of_mem mem)
    exact first.append ((List.nil_sublist _).cons_cons found.declaration)
  · rcases List.mem_cons.mp mem with rfl | mem
    · exact .inr ⟨rfl, .inl rfl⟩
    · exact .inl (sooner _ mem)

/-! ## The search -/

section Search

variable {wrapper name : String} {ns : Namespace} {use : ParserSpan}

/-- What is found declares the name. -/
theorem declares_of_lookUp? {fuel : Nat} {id : NodeId} {r : Resolution}
    (h : tree.lookUp? wrapper name ns use fuel id = some r) :
    tree.declares name r.declaration = true := by
  induction fuel generalizing id with
  | zero => cases h
  | succ fuel ih =>
    rw [lookUp?] at h
    split at h
    · cases h
    · split at h
      · rename_i found latest
        cases h
        obtain ⟨d, listed, tested⟩ := List.mem_filterMap.mp (latest?_mem latest)
        rw [declaration_of_candidate? tested]
        exact (List.mem_filter.mp listed).2
      · split at h
        · cases h
        · exact ih h

/-- The result of a search says what the name at a node denotes. There is none only if no scope that
is searched has a visible declaration. -/
def IsOutcome (tree : SyntaxTree) (wrapper : String) (ns : Namespace) (name : String)
    (use : ParserSpan) (id : NodeId) : Option Resolution → Prop
  | some r => tree.Denotes wrapper ns name use id r
  | none => ∀ i scope, tree.IsSearched wrapper id i scope →
      ∀ d, ¬ tree.IsVisible ns name use scope d

/-- A search has one outcome. -/
theorem IsOutcome.unique (h : tree.IsTree) {id : NodeId} {outcome outcome' : Option Resolution}
    (is : tree.IsOutcome wrapper ns name use id outcome)
    (is' : tree.IsOutcome wrapper ns name use id outcome') : outcome = outcome' := by
  match outcome, outcome' with
  | none, none => rfl
  | none, some r =>
    obtain ⟨⟨i, searched, -⟩, latest, -⟩ := is'
    exact absurd latest.holds (is i r.scope searched r.declaration)
  | some r, none =>
    obtain ⟨⟨i, searched, -⟩, latest, -⟩ := is
    exact absurd latest.holds (is' i r.scope searched r.declaration)
  | some r, some r' =>
    obtain ⟨⟨i, searched, before⟩, latest, valid⟩ := is
    obtain ⟨⟨i', searched', before'⟩, latest', valid'⟩ := is'
    -- the first scope with a visible declaration is one for both
    rcases Nat.lt_trichotomy i i' with lt | rfl | gt
    · exact absurd latest.holds (before' i lt r.scope searched r.declaration)
    · obtain ⟨d, scope, validity⟩ := r
      obtain ⟨d', scope', validity'⟩ := r'
      cases searched.unique searched'
      cases latest.unique h.nodup_documentOrder latest'
      cases valid.symm.trans valid'
      rfl
    · exact absurd latest'.holds (before i' gt r'.scope searched' r'.declaration)

/-- A search that has come to its last scope in vain has no result. -/
theorem IsOutcome.stop {id scope : NodeId} (around : tree.IsScopeOf id scope)
    (hidden : ∀ d, ¬ tree.IsVisible ns name use scope d)
    (last : scope = root ∨ tree.kind? scope = some (.function wrapper)) :
    tree.IsOutcome wrapper ns name use id none := by
  intro i other searched
  cases searched with
  | first around' =>
    cases around.unique around'
    exact hidden
  | further around' below inWrapper =>
    cases around.unique around'
    exact (last.elim below inWrapper).elim

/-- Past a scope without visible declarations, a search has the outcome that it has from there. -/
theorem IsOutcome.outwards {id scope : NodeId} {outcome : Option Resolution}
    (around : tree.IsScopeOf id scope) (hidden : ∀ d, ¬ tree.IsVisible ns name use scope d)
    (goesOn : ¬ (scope = root ∨ tree.kind? scope = some (.function wrapper)))
    (outer : tree.IsOutcome wrapper ns name use scope outcome) :
    tree.IsOutcome wrapper ns name use id outcome := by
  obtain ⟨below, inWrapper⟩ := not_or.mp goesOn
  cases outcome with
  | some r =>
    obtain ⟨⟨i, searched, before⟩, latest, valid⟩ := outer
    refine ⟨⟨i + 1, .further around below inWrapper searched, ?_⟩, latest, valid⟩
    intro j lt other searched'
    cases searched' with
    | first around' =>
      cases around.unique around'
      exact hidden
    | further around' _ _ searched' =>
      cases around.unique around'
      exact before _ (Nat.lt_of_succ_lt_succ lt) other searched'
  | none =>
    intro i other searched
    cases searched with
    | first around' =>
      cases around.unique around'
      exact hidden
    | further around' _ _ searched =>
      cases around.unique around'
      exact outer _ other searched

/-- As many steps as a node has ancestors are enough for the search. -/
theorem IsTree.isOutcome_lookUp? (h : tree.IsTree) {fuel : Nat} {id : NodeId}
    (inside : id < tree.size) (enough : (tree.ancestors id).length ≤ fuel) :
    tree.IsOutcome wrapper ns name use id (tree.lookUp? wrapper name ns use fuel id) := by
  induction fuel generalizing id with
  | zero =>
    intro i scope searched
    have := searched.lt_ancestors h inside
    omega
  | succ fuel ih =>
    rw [lookUp?]
    cases around : tree.enclosingScope? id with
    | none =>
      intro i scope searched
      rw [IsTree.enclosingScope?_eq_none_iff.mp around] at searched
      exact absurd searched not_isSearched_root
    | some scope =>
      have isScope := (h.enclosingScope?_eq_some_iff inside).mp around
      have above := isScope.encloses h inside
      have scopeInside : scope < tree.size := Nat.lt_trans (h.encloses_lt above) inside
      simp only
      cases latest : latest? (tree.candidates scope name ns use) with
      | some found =>
        obtain ⟨isLatest, valid⟩ := h.isLatest_of_latest? scopeInside latest
        exact ⟨⟨0, .first isScope, nofun⟩, isLatest, valid⟩
      | none =>
        have hidden : ∀ d, ¬ tree.IsVisible ns name use scope d := by
          intro d visible
          obtain ⟨candidate, listed, -⟩ := h.exists_candidate visible
          rw [latest?_eq_none_iff.mp latest] at listed
          cases listed
        by_cases last : tree.isWrapper wrapper scope = true
        · simp only [last, if_true]
          exact .stop isScope hidden (isWrapper_iff.mp last)
        · simp only [last]
          -- the scope has fewer ancestors than the node, so one step less is enough from there
          have lower := h.length_ancestors_lt above
          exact .outwards isScope hidden (mt isWrapper_iff.mpr last) (ih scopeInside (by omega))

end Search

/-! ## Names of built trees -/

section Built

variable {view : SourceView} {raw : RawTree} (built : build view raw = .ok tree)
variable (wrapper : String) (ns : Namespace)
include built

/-- No node of a tree that is built has so many ancestors that a search would not get to the last
of its scopes. -/
theorem isOutcome_lookUp?_of_build (name : String) (use : ParserSpan) {id : NodeId}
    (inside : id < tree.size) {bound : Nat} (enough : maxTreeDepth ≤ bound) :
    tree.IsOutcome wrapper ns name use id (tree.lookUp? wrapper name ns use bound id) :=
  have shallow : (tree.ancestors id).length ≤ maxTreeDepth := shallow_of_build built tree.size id
  (isTree_of_build built).isOutcome_lookUp? inside (Nat.le_trans shallow enough)

variable {id : NodeId} {node : SyntaxNode} {name : String} (found : tree.get? id = some node)
variable (named : node.kind.identifier? = some name)
include found named

/-- Resolving a name is a search that gets to the last scope. -/
theorem isOutcome_resolve? :
    tree.IsOutcome wrapper ns name node.span id (tree.resolve? wrapper ns id) := by
  have resolved : tree.resolve? wrapper ns id =
      tree.lookUp? wrapper name ns node.span maxScopeClimb id := by
    simp only [resolve?, found, named, Option.bind_eq_bind, Option.bind_some]
  rw [resolved]
  exact isOutcome_lookUp?_of_build built wrapper ns name node.span (lt_size_of_get? found)
    (by decide)

variable {wrapper ns} in
/-- What a name is resolved to is what it denotes. -/
theorem denotes_of_resolve? {r : Resolution} (resolved : tree.resolve? wrapper ns id = some r) :
    tree.Denotes wrapper ns name node.span id r := by
  have isOutcome := isOutcome_resolve? built wrapper ns found named
  rwa [resolved] at isOutcome

end Built

/-- On a tree that is built, resolving a name finds what it denotes. Nothing is found for the root
and where no scope that is searched has a visible declaration. The scopes searched are fewer than
the levels a tree may have, so any greater bound on their number gives the same result. -/
theorem resolve?_iff_denotes {view : SourceView} {raw : RawTree} (built : build view raw = .ok tree)
    (wrapper : String) (ns : Namespace) {id : NodeId} {node : SyntaxNode} {name : String}
    (found : tree.get? id = some node) (named : node.kind.identifier? = some name) :
    (∀ r, tree.resolve? wrapper ns id = some r ↔ tree.Denotes wrapper ns name node.span id r) ∧
      (tree.resolve? wrapper ns id = none ↔
        id = root ∨ ∀ i scope, tree.IsSearched wrapper id i scope →
          ∀ d, ¬ tree.IsVisible ns name node.span scope d) ∧
      (∀ i scope, tree.IsSearched wrapper id i scope → i < maxTreeDepth) ∧
      ∀ bound, maxTreeDepth ≤ bound →
        tree.lookUp? wrapper name ns node.span bound id = tree.resolve? wrapper ns id := by
  have h := isTree_of_build built
  have inside := lt_size_of_get? found
  have shallow : (tree.ancestors id).length ≤ maxTreeDepth := shallow_of_build built tree.size id
  have isOutcome := isOutcome_resolve? built wrapper ns found named
  refine ⟨fun r => ⟨denotes_of_resolve? built found named, fun denotes => ?_⟩,
    ⟨fun eq => ?_, fun free => ?_⟩, fun i scope searched => ?_, fun bound enough => ?_⟩
  · exact isOutcome.unique h denotes
  · rw [eq] at isOutcome
    exact .inr isOutcome
  · refine isOutcome.unique h ?_
    rcases free with rfl | hidden
    · exact fun i scope searched => absurd searched not_isSearched_root
    · exact hidden
  · exact Nat.lt_of_lt_of_le (searched.lt_ancestors h inside) shallow
  · exact (isOutcome_lookUp?_of_build built wrapper ns name node.span inside enough).unique h
      isOutcome

/-- Output for a document that declares a name, and a function that uses it in front of a
declaration of its own. -/
def shadowing : RawTree :=
  .interior "Fun: top" ⟨⟨0, 1⟩, ⟨3, 2⟩⟩ [.interior "Block" ⟨⟨0, 1⟩, ⟨3, 2⟩⟩
    [.interior "Val" ⟨⟨1, 1⟩, ⟨1, 11⟩⟩
      [.leaf "Binder: x" ⟨⟨1, 5⟩, ⟨1, 6⟩⟩, .leaf "Constant: 1" ⟨⟨1, 9⟩, ⟨1, 10⟩⟩],
    .interior "Fun: f" ⟨⟨2, 1⟩, ⟨2, 26⟩⟩
      [.leaf "Params" ⟨⟨2, 6⟩, ⟨2, 8⟩⟩,
      .interior "Block" ⟨⟨2, 9⟩, ⟨2, 26⟩⟩
        [.leaf "Variable: x" ⟨⟨2, 11⟩, ⟨2, 12⟩⟩,
        .interior "Val" ⟨⟨2, 14⟩, ⟨2, 24⟩⟩
          [.leaf "Binder: x" ⟨⟨2, 18⟩, ⟨2, 19⟩⟩, .leaf "Constant: 2" ⟨⟨2, 22⟩, ⟨2, 23⟩⟩]]]]]

/-- The tree of that output. -/
def shadowedTree : SyntaxTree :=
  ⟨#[⟨.interior, .function "top", ⟨⟨0, 1⟩, ⟨3, 2⟩⟩, none, [1]⟩,
    ⟨.interior, .block, ⟨⟨0, 1⟩, ⟨3, 2⟩⟩, some 0, [2, 5]⟩,
    ⟨.interior, .declaration, ⟨⟨1, 1⟩, ⟨1, 11⟩⟩, some 1, [3, 4]⟩,
    ⟨.leaf, .binder "x" .letBinding, ⟨⟨1, 5⟩, ⟨1, 6⟩⟩, some 2, []⟩,
    ⟨.leaf, .constant (.number "1"), ⟨⟨1, 9⟩, ⟨1, 10⟩⟩, some 2, []⟩,
    ⟨.interior, .function "f", ⟨⟨2, 1⟩, ⟨2, 26⟩⟩, some 1, [6, 7]⟩,
    ⟨.leaf, .parameters, ⟨⟨2, 6⟩, ⟨2, 8⟩⟩, some 5, []⟩,
    ⟨.interior, .block, ⟨⟨2, 9⟩, ⟨2, 26⟩⟩, some 5, [8, 9]⟩,
    ⟨.leaf, .variable "x", ⟨⟨2, 11⟩, ⟨2, 12⟩⟩, some 7, []⟩,
    ⟨.interior, .declaration, ⟨⟨2, 14⟩, ⟨2, 24⟩⟩, some 7, [10, 11]⟩,
    ⟨.leaf, .binder "x" .letBinding, ⟨⟨2, 18⟩, ⟨2, 19⟩⟩, some 9, []⟩,
    ⟨.leaf, .constant (.number "2"), ⟨⟨2, 22⟩, ⟨2, 23⟩⟩, some 9, []⟩]⟩

theorem build_shadowing :
    build (.ofSource "var x = 1;\nfun f() { x; var x = 2; }\n" .standard) shadowing =
      .ok shadowedTree := by
  decide +kernel

/-- Output for the document with the use behind the declaration in the function. -/
def redeclaring : RawTree :=
  .interior "Fun: top" ⟨⟨0, 1⟩, ⟨3, 2⟩⟩ [.interior "Block" ⟨⟨0, 1⟩, ⟨3, 2⟩⟩
    [.interior "Val" ⟨⟨1, 1⟩, ⟨1, 11⟩⟩
      [.leaf "Binder: x" ⟨⟨1, 5⟩, ⟨1, 6⟩⟩, .leaf "Constant: 1" ⟨⟨1, 9⟩, ⟨1, 10⟩⟩],
    .interior "Fun: f" ⟨⟨2, 1⟩, ⟨2, 25⟩⟩
      [.leaf "Params" ⟨⟨2, 6⟩, ⟨2, 8⟩⟩,
      .interior "Block" ⟨⟨2, 9⟩, ⟨2, 25⟩⟩
        [.interior "Val" ⟨⟨2, 11⟩, ⟨2, 21⟩⟩
          [.leaf "Binder: x" ⟨⟨2, 15⟩, ⟨2, 16⟩⟩, .leaf "Constant: 2" ⟨⟨2, 19⟩, ⟨2, 20⟩⟩],
        .leaf "Variable: x" ⟨⟨2, 22⟩, ⟨2, 23⟩⟩]]]]

/-- The tree of that output. -/
def redeclaredTree : SyntaxTree :=
  ⟨#[⟨.interior, .function "top", ⟨⟨0, 1⟩, ⟨3, 2⟩⟩, none, [1]⟩,
    ⟨.interior, .block, ⟨⟨0, 1⟩, ⟨3, 2⟩⟩, some 0, [2, 5]⟩,
    ⟨.interior, .declaration, ⟨⟨1, 1⟩, ⟨1, 11⟩⟩, some 1, [3, 4]⟩,
    ⟨.leaf, .binder "x" .letBinding, ⟨⟨1, 5⟩, ⟨1, 6⟩⟩, some 2, []⟩,
    ⟨.leaf, .constant (.number "1"), ⟨⟨1, 9⟩, ⟨1, 10⟩⟩, some 2, []⟩,
    ⟨.interior, .function "f", ⟨⟨2, 1⟩, ⟨2, 25⟩⟩, some 1, [6, 7]⟩,
    ⟨.leaf, .parameters, ⟨⟨2, 6⟩, ⟨2, 8⟩⟩, some 5, []⟩,
    ⟨.interior, .block, ⟨⟨2, 9⟩, ⟨2, 25⟩⟩, some 5, [8, 11]⟩,
    ⟨.interior, .declaration, ⟨⟨2, 11⟩, ⟨2, 21⟩⟩, some 7, [9, 10]⟩,
    ⟨.leaf, .binder "x" .letBinding, ⟨⟨2, 15⟩, ⟨2, 16⟩⟩, some 8, []⟩,
    ⟨.leaf, .constant (.number "2"), ⟨⟨2, 19⟩, ⟨2, 20⟩⟩, some 8, []⟩,
    ⟨.leaf, .variable "x", ⟨⟨2, 22⟩, ⟨2, 23⟩⟩, some 7, []⟩]⟩

theorem build_redeclaring :
    build (.ofSource "var x = 1;\nfun f() { var x = 2; x }\n" .standard) redeclaring =
      .ok redeclaredTree := by
  decide +kernel

/-- A use in front of the declaration in the function denotes the one outside, and a use behind it
the one in the function. -/
theorem denotes_shadowedTree :
    (shadowedTree.get? 8 = some ⟨.leaf, .variable "x", ⟨⟨2, 11⟩, ⟨2, 12⟩⟩, some 7, []⟩ ∧
      Kind.identifier? (.variable "x") = some "x" ∧
      shadowedTree.Denotes "top" .value "x" ⟨⟨2, 11⟩, ⟨2, 12⟩⟩ 8 ⟨3, 0, ⟨⟨1, 5⟩, ⟨3, 2⟩⟩⟩) ∧
    redeclaredTree.get? 11 = some ⟨.leaf, .variable "x", ⟨⟨2, 22⟩, ⟨2, 23⟩⟩, some 7, []⟩ ∧
      redeclaredTree.Denotes "top" .value "x" ⟨⟨2, 22⟩, ⟨2, 23⟩⟩ 11
        ⟨9, 5, ⟨⟨2, 15⟩, ⟨2, 25⟩⟩⟩ := by
  have found : shadowedTree.get? 8 =
      some ⟨.leaf, .variable "x", ⟨⟨2, 11⟩, ⟨2, 12⟩⟩, some 7, []⟩ := rfl
  have resolved : shadowedTree.resolve? "top" .value 8 = some ⟨3, 0, ⟨⟨1, 5⟩, ⟨3, 2⟩⟩⟩ := by
    decide +kernel
  have found' : redeclaredTree.get? 11 =
      some ⟨.leaf, .variable "x", ⟨⟨2, 22⟩, ⟨2, 23⟩⟩, some 7, []⟩ := rfl
  have resolved' : redeclaredTree.resolve? "top" .value 11 =
      some ⟨9, 5, ⟨⟨2, 15⟩, ⟨2, 25⟩⟩⟩ := by decide +kernel
  exact ⟨⟨found, rfl,
      ((resolve?_iff_denotes build_shadowing "top" .value found rfl).1 _).mp resolved⟩, found',
    ((resolve?_iff_denotes build_redeclaring "top" .value found' rfl).1 _).mp resolved'⟩

end SyntaxTree

end LinksBinding
