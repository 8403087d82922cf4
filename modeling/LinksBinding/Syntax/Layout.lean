import LinksBinding.Syntax.Raw
import LinksBinding.Syntax.Tree

/-!
# Laying out the node table

Turns what the parser reports into a node table. Nodes are numbered in preorder, so a node's
children need no numbers ahead of time: the first child has the number behind its parent's, and
each further child the number behind the last node below the child before it.

A binder learns its role on the way down. The nearest node above it that decides a role decides;
without one it introduces its name like a `var` declaration.
-/

namespace LinksBinding

namespace SyntaxTree

mutual
/-- The nodes of `raw` in the order of their numbers, the first of them number `id`. `path` leads
there from the root, and binders take `role` unless a node below decides otherwise. -/
def layNode (path : NodePath) (role : BinderRole) (parent : Option NodeId) (id : NodeId) :
    (raw : RawTree) → Except TreeError (List SyntaxNode)
  | .node shape label span children =>
    if path.length > maxTreeDepth then .error (.tooDeep path.length)
    else match decodeLabel label with
      | .error reason => .error (.invalidLabel path label reason)
      | .ok kind =>
        if kind.isLeafKind && !children.isEmpty then .error (.unexpectedChildren path label)
        else
          match layChildren path (kind.decidesRole?.getD role) id 0 (id + 1) children with
          | .error e => .error e
          | .ok (ids, below) => .ok (⟨shape, kind.withRole role, span, parent, ids⟩ :: below)

/-- The numbers of the children of node `parent` at `path`, and all nodes below it. The first of
the children given is its child number `position` and has the number `next`. -/
def layChildren (path : NodePath) (role : BinderRole) (parent : NodeId) (position : Nat)
    (next : NodeId) : List RawTree → Except TreeError (List NodeId × List SyntaxNode)
  | [] => .ok ([], [])
  | raw :: rest =>
    match layNode (position :: path) role (some parent) next raw with
    | .error e => .error e
    | .ok nodes =>
      match layChildren path role parent (position + 1) (next + nodes.length) rest with
      | .error e => .error e
      | .ok (ids, more) => .ok (next :: ids, nodes ++ more)
end

/-- The tree that the parser reports, its spans as reported. -/
def ofRaw (raw : RawTree) : Except TreeError SyntaxTree :=
  (layNode [] .letBinding none root raw).map fun nodes => ⟨nodes.toArray⟩

mutual
theorem length_layNode {path role parent id} {raw : RawTree} {nodes : List SyntaxNode}
    (h : layNode path role parent id raw = .ok nodes) : nodes.length = raw.size := by
  match raw with
  | .node shape label span children =>
    rw [layNode] at h
    split at h
    · cases h
    · split at h
      · cases h
      · split at h
        · cases h
        · split at h
          · cases h
          · rename_i laid
            cases h
            rw [List.length_cons, length_layChildren laid, RawTree.size]

theorem length_layChildren {path role parent position next} {raws : List RawTree}
    {ids : List NodeId} {below : List SyntaxNode}
    (h : layChildren path role parent position next raws = .ok (ids, below)) :
    below.length = RawTree.sizeOfList raws := by
  match raws with
  | [] => cases h; rfl
  | raw :: rest =>
    rw [layChildren] at h
    split at h
    · cases h
    · split at h
      · cases h
      · rename_i first _ _ _ more
        cases h
        rw [List.length_append, length_layNode first, length_layChildren more, RawTree.sizeOfList]
end

/-- A tree has as many nodes as the parser reports. -/
theorem size_ofRaw {raw : RawTree} {tree : SyntaxTree} (h : ofRaw raw = .ok tree) :
    tree.size = raw.size := by
  rw [ofRaw] at h
  cases laid : layNode [] .letBinding none root raw with
  | error e => rw [laid] at h; cases h
  | ok nodes =>
    rw [laid] at h
    cases h
    simp [size, length_layNode laid]

end SyntaxTree

end LinksBinding
