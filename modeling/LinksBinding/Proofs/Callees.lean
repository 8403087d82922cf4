import LinksBinding.Proofs.Resolution

/-!
# Names that are called

A name that is called is looked up as a function, and the scan of a scope then enters the functions
in it too. So it sees what it sees of a variable, and more. What a call finds overtakes what a
variable of that name finds in the same place: it is in a scope that is no further out, and in the
same scope it is introduced no earlier (`overtakes_of_resolve?_value`).

The two differ only by declarations inside nested functions. What a call finds outside of these is
found by the variable too (`resolve?_value_of_inSight`).
-/

namespace LinksBinding.SyntaxTree

variable {tree : SyntaxTree} {wrapper name : String} {ns ns' : Namespace} {use : ParserSpan}
variable {id : NodeId} {r r' : Resolution}

/-- What a call at a node finds, `r'`, compared with what a variable finds there, `r`. -/
structure Overtakes (tree : SyntaxTree) (wrapper : String) (id : NodeId) (r r' : Resolution) :
    Prop where
  /-- its scope is searched no later -/
  nearer : ∃ i j, tree.IsSearched wrapper id i r.scope ∧ tree.IsSearched wrapper id j r'.scope ∧
    j ≤ i
  /-- in the same scope it is introduced no earlier -/
  later : r'.scope = r.scope → ∃ earlier later, tree.bindingSpan? r.declaration = some earlier ∧
    tree.bindingSpan? r'.declaration = some later ∧ earlier.start ≤ later.start
  /-- it is the same unless it stands inside a function below its scope -/
  same : (∀ a, tree.Encloses r'.scope a → tree.Encloses a r'.declaration → ¬ tree.IsFunction a) →
    r' = r

/-- What a variable sees, a name sees in any namespace. -/
theorem IsVisible.ofValue {scope d : NodeId} (visible : tree.IsVisible .value name use scope d)
    (ns : Namespace) : tree.IsVisible ns name use scope d :=
  { visible with inSight := fun _ => visible.inSight rfl }

/-- What is the latest of more is introduced no earlier. -/
theorem IsLatest.start_le {p q : NodeId → Prop} {d e : NodeId} (hd : tree.IsLatest p d)
    (he : tree.IsLatest q e) (wider : ∀ d, p d → q d) :
    ∃ earlier later, tree.bindingSpan? d = some earlier ∧ tree.bindingSpan? e = some later ∧
      earlier.start ≤ later.start := by
  obtain ⟨earlier, later, ofD, ofE, order⟩ := he.last d (wider d hd.holds)
  refine ⟨earlier, later, ofD, ofE, ?_⟩
  rcases order with lt | ⟨same, -⟩
  · exact ParserPosition.le_of_lt lt
  · rw [same]
    exact later.start.le_refl

/-- What is the latest of more is the latest of fewer, if it is one of them. -/
theorem IsLatest.of_wider {p q : NodeId → Prop} {d : NodeId} (hd : tree.IsLatest q d)
    (wider : ∀ e, p e → q e) (holds : p d) : tree.IsLatest p d :=
  ⟨holds, fun e he => hd.last e (wider e he)⟩

section Wider

variable (less : tree.Denotes wrapper ns name use id r)
  (more : tree.Denotes wrapper ns' name use id r')
  (wider : ∀ scope d, tree.IsVisible ns name use scope d → tree.IsVisible ns' name use scope d)

include less more wider

/-- A search that sees more ends in a scope that is searched no later. -/
theorem Denotes.nearer : ∃ i j, tree.IsSearched wrapper id i r.scope ∧
    tree.IsSearched wrapper id j r'.scope ∧ j ≤ i := by
  obtain ⟨⟨i, searched, -⟩, latest, -⟩ := less
  obtain ⟨⟨j, searched', before⟩, -, -⟩ := more
  refine ⟨i, j, searched, searched', ?_⟩
  -- the scope with a declaration for the first search has one for the second
  by_contra further
  exact before i (Nat.lt_of_not_le further) r.scope searched r.declaration
    (wider r.scope r.declaration latest.holds)

/-- In the same scope it ends with a declaration that is introduced no earlier. -/
theorem Denotes.later (same : r'.scope = r.scope) :
    ∃ earlier later, tree.bindingSpan? r.declaration = some earlier ∧
      tree.bindingSpan? r'.declaration = some later ∧ earlier.start ≤ later.start := by
  have latest := more.latest
  rw [same] at latest
  exact less.latest.start_le latest (wider r.scope)

end Wider

section Built

variable {view : SourceView} {raw : RawTree} (built : build view raw = .ok tree)
include built

/-- What a name resolves to as a function it resolves to as a variable, if no function below the
scope has the declaration inside. -/
theorem resolve?_value_of_inSight (resolved : tree.resolve? wrapper .function id = some r)
    (inSight : ∀ a, tree.Encloses r.scope a → tree.Encloses a r.declaration →
      ¬ tree.IsFunction a) :
    tree.resolve? wrapper .value id = some r := by
  obtain ⟨node, name, found, named⟩ := exists_identifier_of_resolve? resolved
  obtain ⟨⟨i, searched, before⟩, latest, valid⟩ := denotes_of_resolve? built found named resolved
  have visible : tree.IsVisible .value name node.span r.scope r.declaration :=
    { latest.holds with inSight := fun _ => inSight }
  have denotes : tree.Denotes wrapper .value name node.span id r :=
    ⟨⟨i, searched, fun j lt scope searched' d seen =>
      before j lt scope searched' d (seen.ofValue _)⟩,
      latest.of_wider (fun _ seen => seen.ofValue _) visible, valid⟩
  exact (isOutcome_resolve? built wrapper .value found named).unique (isTree_of_build built) denotes

/-- If a name resolves as a variable it resolves as a function, to a declaration that overtakes the
one of the variable. -/
theorem overtakes_of_resolve?_value (resolved : tree.resolve? wrapper .value id = some r) :
    ∃ r', tree.resolve? wrapper .function id = some r' ∧ tree.Overtakes wrapper id r r' := by
  obtain ⟨node, name, found, named⟩ := exists_identifier_of_resolve? resolved
  have less := denotes_of_resolve? built found named resolved
  have wider : ∀ scope d, tree.IsVisible .value name node.span scope d →
      tree.IsVisible .function name node.span scope d := fun _ _ visible => visible.ofValue _
  have more := isOutcome_resolve? built wrapper .function found named
  cases called : tree.resolve? wrapper .function id with
  | none =>
    rw [called] at more
    obtain ⟨⟨i, searched, -⟩, latest, -⟩ := less
    exact absurd (wider _ _ latest.holds) (more i r.scope searched r.declaration)
  | some r' =>
    rw [called] at more
    refine ⟨r', rfl, less.nearer more wider, less.later more wider, fun inSight => ?_⟩
    have seen := resolve?_value_of_inSight built called inSight
    exact Option.some.inj (seen.symm.trans resolved)

end Built

/-- Output for a document with a call whose name is declared outside and, later, in a function. -/
def calledInside : RawTree :=
  .interior "Fun: top" ⟨⟨0, 1⟩, ⟨4, 2⟩⟩ [.interior "Block" ⟨⟨0, 1⟩, ⟨4, 2⟩⟩
    [.interior "Val" ⟨⟨1, 1⟩, ⟨1, 11⟩⟩
      [.leaf "Binder: x" ⟨⟨1, 5⟩, ⟨1, 6⟩⟩, .leaf "Constant: 1" ⟨⟨1, 9⟩, ⟨1, 10⟩⟩],
    .interior "Fun: f" ⟨⟨2, 1⟩, ⟨2, 23⟩⟩
      [.leaf "Params" ⟨⟨2, 6⟩, ⟨2, 8⟩⟩,
      .interior "Block" ⟨⟨2, 9⟩, ⟨2, 23⟩⟩
        [.interior "Val" ⟨⟨2, 11⟩, ⟨2, 21⟩⟩
          [.leaf "Binder: x" ⟨⟨2, 15⟩, ⟨2, 16⟩⟩, .leaf "Constant: 2" ⟨⟨2, 19⟩, ⟨2, 20⟩⟩]]],
    .interior "FunCall" ⟨⟨3, 1⟩, ⟨3, 5⟩⟩
      [.leaf "Variable: x" ⟨⟨3, 1⟩, ⟨3, 2⟩⟩, .leaf "Constant: 3" ⟨⟨3, 3⟩, ⟨3, 4⟩⟩]]]

/-- The tree of that output. -/
def calledInsideTree : SyntaxTree :=
  ⟨#[⟨.interior, .function "top", ⟨⟨0, 1⟩, ⟨4, 2⟩⟩, none, [1]⟩,
    ⟨.interior, .block, ⟨⟨0, 1⟩, ⟨4, 2⟩⟩, some 0, [2, 5, 11]⟩,
    ⟨.interior, .declaration, ⟨⟨1, 1⟩, ⟨1, 11⟩⟩, some 1, [3, 4]⟩,
    ⟨.leaf, .binder "x" .letBinding, ⟨⟨1, 5⟩, ⟨1, 6⟩⟩, some 2, []⟩,
    ⟨.leaf, .constant (.number "1"), ⟨⟨1, 9⟩, ⟨1, 10⟩⟩, some 2, []⟩,
    ⟨.interior, .function "f", ⟨⟨2, 1⟩, ⟨2, 23⟩⟩, some 1, [6, 7]⟩,
    ⟨.leaf, .parameters, ⟨⟨2, 6⟩, ⟨2, 8⟩⟩, some 5, []⟩,
    ⟨.interior, .block, ⟨⟨2, 9⟩, ⟨2, 23⟩⟩, some 5, [8]⟩,
    ⟨.interior, .declaration, ⟨⟨2, 11⟩, ⟨2, 21⟩⟩, some 7, [9, 10]⟩,
    ⟨.leaf, .binder "x" .letBinding, ⟨⟨2, 15⟩, ⟨2, 16⟩⟩, some 8, []⟩,
    ⟨.leaf, .constant (.number "2"), ⟨⟨2, 19⟩, ⟨2, 20⟩⟩, some 8, []⟩,
    ⟨.interior, .call, ⟨⟨3, 1⟩, ⟨3, 5⟩⟩, some 1, [12, 13]⟩,
    ⟨.leaf, .variable "x", ⟨⟨3, 1⟩, ⟨3, 2⟩⟩, some 11, []⟩,
    ⟨.leaf, .constant (.number "3"), ⟨⟨3, 3⟩, ⟨3, 4⟩⟩, some 11, []⟩]⟩

theorem build_calledInside :
    build (.ofSource "var x = 1;\nfun f() \x7b var x = 2; \x7d\nx(3);\n" .standard) calledInside =
      .ok calledInsideTree := by
  decide +kernel

/-- As a variable the name resolves to the declaration outside, as a function to the one in the
function, which is later in the same scope. -/
theorem overtakes_calledInsideTree :
    build (.ofSource "var x = 1;\nfun f() \x7b var x = 2; \x7d\nx(3);\n" .standard) calledInside =
        .ok calledInsideTree ∧
      calledInsideTree.resolve? "top" .value 12 = some ⟨3, 0, ⟨⟨1, 5⟩, ⟨4, 2⟩⟩⟩ ∧
      calledInsideTree.resolve? "top" .function 12 = some ⟨9, 0, ⟨⟨2, 15⟩, ⟨4, 2⟩⟩⟩ ∧
      calledInsideTree.Overtakes "top" 12 ⟨3, 0, ⟨⟨1, 5⟩, ⟨4, 2⟩⟩⟩ ⟨9, 0, ⟨⟨2, 15⟩, ⟨4, 2⟩⟩⟩ := by
  have resolved : calledInsideTree.resolve? "top" .value 12 = some ⟨3, 0, ⟨⟨1, 5⟩, ⟨4, 2⟩⟩⟩ := by
    decide +kernel
  have called : calledInsideTree.resolve? "top" .function 12 =
      some ⟨9, 0, ⟨⟨2, 15⟩, ⟨4, 2⟩⟩⟩ := by
    decide +kernel
  obtain ⟨r', called', overtakes⟩ := overtakes_of_resolve?_value build_calledInside resolved
  cases called.symm.trans called'
  exact ⟨build_calledInside, resolved, called, overtakes⟩

end LinksBinding.SyntaxTree
