import LinksBinding.Proofs.Resolution

/-!
# Lexical scope of variables

A variable is not bound to anything local to a function that it is not inside, nor to anything
outside its nearest wrapper (`lexical_of_resolve?`). Nothing in the search compares the functions
around the use with those around the declaration. They meet in the scope where the declaration was
found. It lies above the use, so does every function above it, and no function lies between it and
the declaration. A wrapper above the use is not passed by the search, so it is that scope or lies
above it.
-/

namespace LinksBinding

namespace SyntaxTree

variable {tree : SyntaxTree} {wrapper : String} {id scope : NodeId}

/-- What is searched lies above the node. -/
theorem IsSearched.encloses (h : tree.IsTree) {i : Nat}
    (searched : tree.IsSearched wrapper id i scope) (inside : id < tree.size) :
    tree.Encloses scope id := by
  induction searched with
  | first around => exact around.encloses h inside
  | further around _ _ _ ih =>
    have above := around.encloses h inside
    exact (ih (Nat.lt_trans (h.encloses_lt above) inside)).trans above

/-- What bounds a scope above a node is the scope around the node or lies above that. -/
theorem IsScopeOf.eq_or_encloses {a : NodeId} (around : tree.IsScopeOf id scope)
    (above : tree.Encloses a id) (bounds : tree.BoundsScope a) :
    a = scope ∨ tree.Encloses a scope := by
  obtain ⟨-, ⟨scopeAbove, -, nearest⟩ | ⟨-, free⟩⟩ := around
  · rcases above.linear scopeAbove with same | outer | inner
    · exact .inl same
    · exact .inr outer
    · exact absurd bounds (nearest a inner above)
  · exact absurd bounds (free a above)

/-- A wrapper above a node is searched or lies above what is searched. -/
theorem IsSearched.eq_or_encloses_wrapper {i : Nat} {a : NodeId}
    (searched : tree.IsSearched wrapper id i scope) (above : tree.Encloses a id)
    (isWrapper : tree.kind? a = some (.function wrapper)) :
    a = scope ∨ tree.Encloses a scope := by
  have bounds : tree.BoundsScope a := .inl (.inr ⟨wrapper, isWrapper⟩)
  induction searched with
  | first around => exact around.eq_or_encloses above bounds
  | further around _ inWrapper _ ih =>
    rcases around.eq_or_encloses above bounds with rfl | outer
    · exact absurd isWrapper inWrapper
    · exact ih outer

/-- If a name used as a variable refers to a declaration, each function that the declaration is
inside is one that the use is inside, and each wrapper that the use is inside is one that the
declaration is inside. -/
theorem lexical_of_resolve? {view : SourceView} {raw : RawTree} (built : build view raw = .ok tree)
    {r : Resolution} (resolved : tree.resolve? wrapper .value id = some r) :
    (∀ a, tree.kind? a = some .lambda ∨ (∃ name, tree.kind? a = some (.function name)) →
        tree.Encloses a r.declaration → tree.Encloses a id) ∧
      ∀ a, tree.kind? a = some (.function wrapper) → tree.Encloses a id →
        tree.Encloses a r.declaration := by
  have h := isTree_of_build built
  obtain ⟨node, name, found, named⟩ := exists_identifier_of_resolve? resolved
  obtain ⟨⟨i, searched, -⟩, ⟨visible, -⟩, -⟩ := denotes_of_resolve? built found named resolved
  have above : tree.Encloses r.scope id := searched.encloses h (lt_size_of_get? found)
  constructor
  · intro a opens aboveDeclaration
    rcases aboveDeclaration.linear visible.below with rfl | outer | inner
    · exact above
    · exact outer.trans above
    · -- the scan of the scope does not enter a function
      exact absurd opens (visible.inSight rfl a inner aboveDeclaration)
  · intro a isWrapper aboveUse
    rcases searched.eq_or_encloses_wrapper aboveUse isWrapper with rfl | outer
    · exact visible.below
    · exact outer.trans visible.below

/-- The use in the function refers to the declaration outside, which is inside the wrapper only. -/
theorem lexical_shadowedTree :
    build (.ofSource "var x = 1;\nfun f() { x; var x = 2; }\n" .standard) shadowing =
        .ok shadowedTree ∧
      shadowedTree.resolve? "top" .value 8 = some ⟨3, 0, ⟨⟨1, 5⟩, ⟨3, 2⟩⟩⟩ ∧
      (∀ a, shadowedTree.kind? a = some .lambda ∨
          (∃ name, shadowedTree.kind? a = some (.function name)) →
        shadowedTree.Encloses a 3 → shadowedTree.Encloses a 8) ∧
      ∀ a, shadowedTree.kind? a = some (.function "top") → shadowedTree.Encloses a 8 →
        shadowedTree.Encloses a 3 :=
  have resolved : shadowedTree.resolve? "top" .value 8 = some ⟨3, 0, ⟨⟨1, 5⟩, ⟨3, 2⟩⟩⟩ := by
    decide +kernel
  ⟨build_shadowing, resolved, lexical_of_resolve? build_shadowing resolved⟩

end SyntaxTree

end LinksBinding
