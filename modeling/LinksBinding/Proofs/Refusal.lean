import LinksBinding.Proofs.FirstFault
import LinksBinding.Proofs.PlainRepair

/-!
# Which trees are refused

A tree is refused when it is read or when it is laid out. Here it is said what can be wrong with a
value as a node (`Json.faults`) and with a node that is reported (`RawTree.faults`), without the
recursions that look for it. A tree is refused exactly if something is wrong with one of its nodes,
and the error is the first one of the first such node in document order
(`SyntaxTree.refused_iff`).

What is wrong with a label is read off its tag. Only few tags can make a label wrong or a node one
that can only be a leaf, and these are listed here (`neededNames`, `leafTags`).
-/

namespace LinksBinding

open Text

/-! ## Reading -/

namespace Json

/-- What stands in a value in the place of the children of a node. -/
def childItems : Json → List Json
  | .array [_, _, _, .array items] => items
  | _ => []

theorem sizeOf_childItems (value : Json) : sizeOf value.childItems ≤ sizeOf value := by
  unfold childItems
  split
  · simp
    omega
  · cases value <;> simp

/-- Whether a node is without children or has a list of them. -/
def isNullOrArray : Json → Bool
  | .null | .array _ => true
  | _ => false

/-- What is wrong with the span of the node at `path`, which is `none` if it is not a string. -/
def spanFaults (path : NodePath) : Option String → List TreeError
  | some encoded => faultIf (ParserSpan.decode? encoded = none) (.invalidSpan path encoded)
  | none => [.malformedNode path .spanNotText]

/-- What is wrong with shape, label and span of the node at `path`, where those that are not strings
are `none`. -/
def headFaults (path : NodePath) (shape label span : Option String) : List TreeError :=
  faultIf (shape ≠ some "Interior" ∧ shape ≠ some "Leaf") (.malformedNode path .unknownShape) ++
  faultIf (label = none) (.malformedNode path .labelNotText) ++
  spanFaults path span

/-- All that is wrong with a value as the node at `path`, in the order in which it is noticed. -/
def faults (path : NodePath) (value : Json) : List TreeError :=
  let items := value.array?.getD []
  let text? (k : Nat) : Option String := items[k]?.bind string?
  faultIf (maxTreeDepth < path.length) (.tooDeep path.length) ++
  faultIf (value.array? = none) (.malformedNode path .notAnArray) ++
  faultIf (items.length < 3 ∨ 4 < items.length) (.malformedNode path .wrongLength) ++
  headFaults path (text? 0) (text? 1) (text? 2) ++
  faultIf (items[3]?.any fun item => !item.isNullOrArray) (.malformedNode path .childrenNotAnArray)

theorem isFoundAt_of_mem_spanFaults {path : NodePath} {span : Option String} {e : TreeError}
    (mem : e ∈ spanFaults path span) : e.IsFoundAt path := by
  cases span with
  | some encoded =>
    obtain ⟨-, rfl⟩ := mem_faultIf.mp mem
    rfl
  | none =>
    obtain rfl := List.mem_singleton.mp mem
    rfl

theorem isFoundAt_of_mem_faults {path : NodePath} {value : Json} {e : TreeError}
    (mem : e ∈ value.faults path) : e.IsFoundAt path := by
  simp only [faults, headFaults, List.mem_append, mem_faultIf] at mem
  rcases mem with (((⟨-, rfl⟩ | ⟨-, rfl⟩) | ⟨-, rfl⟩) | (⟨-, rfl⟩ | ⟨-, rfl⟩) | mem) | ⟨-, rfl⟩
  case inl.inr.inr => exact isFoundAt_of_mem_spanFaults mem
  all_goals rfl

theorem tooDeep_mem_faults {path : NodePath} (value : Json) (deep : maxTreeDepth < path.length) :
    .tooDeep path.length ∈ value.faults path := by
  simp only [faults, List.append_assoc, faultIf_pos deep]
  exact List.mem_append_left _ List.mem_cons_self

end Json

namespace RawTree

theorem shapeOf?_eq_none_iff {value : Json} :
    shapeOf? value = none ↔
      value.string? ≠ some "Interior" ∧ value.string? ≠ some "Leaf" := by
  unfold shapeOf?
  split
  · simp [Json.string?]
  · simp [Json.string?]
  · rename_i notInterior notLeaf
    cases value <;> simp_all [Json.string?]

theorem errorOf_headOf (path : NodePath) (shape label span : Json) :
    errorOf (headOf path shape label span) =
      (Json.headFaults path shape.string? label.string? span.string?).head? := by
  unfold headOf
  split
  · rename_i unknown
    simp [Json.headFaults, shapeOf?_eq_none_iff.mp unknown]
  · rename_i known
    have known : ¬ (shape.string? ≠ some "Interior" ∧ shape.string? ≠ some "Leaf") := by
      rw [← shapeOf?_eq_none_iff, known]
      exact Option.some_ne_none _
    rw [Json.headFaults, faultIf_neg known]
    split
    · split
      · rename_i encoded
        cases h : ParserSpan.decode? encoded <;> simp [Json.string?, Json.spanFaults, h]
      · rename_i noText
        cases span <;> simp_all [Json.string?, Json.spanFaults]
    · rename_i noText
      cases label <;> simp_all [Json.string?]

/-- Reading a node ends with what is wrong with the node, else with what reading its children ends
with. -/
theorem errorOf_ofJsonAt (path : NodePath) (value : Json) :
    errorOf (ofJsonAt path value) =
      (value.faults path).head?.or (errorOf (ofJsonList path 0 value.childItems)) := by
  have bare : errorOf (ofJsonList path 0 []) = none := rfl
  unfold ofJsonAt
  by_cases deep : path.length > maxTreeDepth
  · simp [deep, Json.faults]
  · rw [if_neg deep]
    split
    · -- without a fourth item there are no children to look at
      rename_i shape label span
      rw [errorOf_map, errorOf_headOf]
      simp [Json.faults, Json.array?, Json.childItems, bare, deep]
    · rename_i shape label span children
      have head := errorOf_headOf path shape label span
      have faults : (Json.array [shape, label, span, children]).faults path =
          Json.headFaults path shape.string? label.string? span.string? ++
            faultIf (!children.isNullOrArray) (.malformedNode path .childrenNotAnArray) := by
        simp [Json.faults, Json.array?, deep]
      rw [faults, List.head?_append, ← head]
      -- the fourth item is looked at only if the first three are in order
      cases headOf path shape label span with
      | error e => rfl
      | ok read =>
        cases children <;> simp [Json.isNullOrArray, Json.childItems, bare]
    · rename_i items three four
      obtain _ | ⟨_, _ | ⟨_, _ | ⟨_, _ | ⟨_, _ | ⟨_, rest⟩⟩⟩⟩⟩ := items
      case nil | cons.nil | cons.cons.nil => simp [Json.faults, Json.array?, deep]
      case cons.cons.cons.nil => exact absurd rfl (three _ _ _)
      case cons.cons.cons.cons.nil => exact absurd rfl (four _ _ _ _)
      case cons.cons.cons.cons.cons =>
        have long : 4 < rest.length + 1 + 1 + 1 + 1 + 1 := by omega
        simp [Json.faults, Json.array?, deep, long]
    · rename_i notArray
      cases value <;> simp_all [Json.faults, Json.array?]

theorem errorOf_ofJsonList_cons (path : NodePath) (position : Nat) (item : Json)
    (rest : List Json) :
    errorOf (ofJsonList path position (item :: rest)) =
      (errorOf (ofJsonAt (position :: path) item)).or
        (errorOf (ofJsonList path (position + 1) rest)) := by
  rw [ofJsonList]
  cases ofJsonAt (position :: path) item <;> simp

mutual
/-- Reading a tree ends with the first fault in document order. -/
theorem finds_ofJsonAt (path : NodePath) (value : Json) :
    Finds (faultBelow? Json.childItems Json.faults path value) (errorOf (ofJsonAt path value)) := by
  rw [errorOf_ofJsonAt]
  exact finds_node (finds_ofJsonList path 0 value.childItems)
-- the list of the children of a value without any is no smaller than the value
termination_by 2 * sizeOf value + 1
decreasing_by
  have := Json.sizeOf_childItems value
  omega

theorem finds_ofJsonList (path : NodePath) (position : Nat) (items : List Json) :
    Finds (faultAmong? Json.childItems Json.faults path position items)
      (errorOf (ofJsonList path position items)) := by
  match items with
  | [] => exact finds_nil
  | item :: rest =>
    rw [errorOf_ofJsonList_cons]
    exact finds_cons (finds_ofJsonAt (position :: path) item)
      (finds_ofJsonList path (position + 1) rest)
termination_by 2 * sizeOf items
end

/-- The children of a node that is read are read from what stands in their place. -/
theorem ofJsonList_children {path : NodePath} {value : Json} {tree : RawTree}
    (read : ofJsonAt path value = .ok tree) :
    ofJsonList path 0 value.childItems = .ok tree.children := by
  unfold ofJsonAt at read
  split at read
  · cases read
  · split at read
    · obtain ⟨head, -, rfl⟩ := map_eq_ok_iff.mp read
      rfl
    · split at read
      · cases read
      · split at read
        · cases read
          rfl
        · obtain ⟨below, ofItems, rfl⟩ := map_eq_ok_iff.mp read
          exact ofItems
        · cases read
    · cases read
    · cases read

theorem ofJsonAt_of_getElem? {path : NodePath} {position : Nat} {items : List Json}
    {trees : List RawTree} (read : ofJsonList path position items = .ok trees) {step : Nat}
    {tree : RawTree} (listed : trees[step]? = some tree) :
    ∃ item, items[step]? = some item ∧ ofJsonAt ((position + step) :: path) item = .ok tree := by
  induction items generalizing position trees step with
  | nil =>
    cases read
    cases listed
  | cons item rest ih =>
    rw [ofJsonList] at read
    split at read
    · cases read
    · rename_i first ofFirst
      obtain ⟨others, ofOthers, rfl⟩ := map_eq_ok_iff.mp read
      cases step with
      | zero =>
        cases listed
        exact ⟨item, rfl, ofFirst⟩
      | succ step =>
        obtain ⟨other, placed, ofOther⟩ := ih ofOthers listed
        refine ⟨other, placed, ?_⟩
        rwa [Nat.add_right_comm, Nat.add_assoc] at ofOther

/-- Every node that is read stands where a value stands that it is read from. -/
theorem follow?_of_ofJsonAt {path : NodePath} {value : Json} {tree : RawTree}
    (read : ofJsonAt path value = .ok tree) {steps : List Nat} {node : RawTree}
    (found : follow? children tree steps = some node) :
    ∃ item, follow? Json.childItems value steps = some item ∧
      ofJsonAt (steps.reverse ++ path) item = .ok node := by
  induction steps generalizing path value tree with
  | nil =>
    cases found
    exact ⟨value, rfl, read⟩
  | cons step steps ih =>
    obtain ⟨child, listed, found⟩ := Option.bind_eq_some_iff.mp found
    obtain ⟨item, placed, read⟩ := ofJsonAt_of_getElem? (ofJsonList_children read) listed
    obtain ⟨below, there, read⟩ := ih read found
    refine ⟨below, Option.bind_eq_some_iff.mpr ⟨item, placed, there⟩, ?_⟩
    rwa [Nat.zero_add, List.append_cons, ← List.reverse_cons] at read

end RawTree

/-! ## Laying out -/

/-- The tags that need a name, each with the kind of the name. -/
def neededNames : List (String × String) :=
  [("Fun", "function name"), ("Projection", "field name"), ("Constructor", "tag"),
    ("ConstructorLit", "tag"), ("Xml", "tag name"), ("XmlAttr", "attribute name"),
    ("Variable", "name"), ("Binder", "name")]

/-- The tags of nodes that can only be leaves. -/
def leafTags : List String := ["Variable", "Binder", "Constant", "TextNode"]

/-- All that is wrong with a label. -/
def labelFaults (label : String) : List LabelError :=
  let (tag, payload) := splitLabel label
  faultIf (tag = "") .emptyTag ++
  match neededNames.lookup tag with
  | some what => faultIf (payload.all (·.toList.all isBlank)) (.missingPayload tag what)
  | none => []

theorem isEmpty_trimString (text : String) :
    (trimString text).isEmpty = text.toList.all isBlank := by
  rw [Bool.eq_iff_iff, String.isEmpty_iff, trimString, String.ofList_eq_empty_iff, trim_eq_nil_iff,
    List.all_eq_true]

theorem errorOf_requirePayload (tag what : String) (payload : Option String) :
    errorOf (requirePayload tag what payload) =
      (faultIf (payload.all (·.toList.all isBlank)) (.missingPayload tag what)).head? := by
  unfold requirePayload
  split
  · rename_i text
    simp only [isEmpty_trimString, Option.all_some]
    split <;> simp_all
  · simp

theorem errorOf_decodeLabel (label : String) :
    errorOf (decodeLabel label) = (labelFaults label).head? := by
  unfold decodeLabel labelFaults
  obtain ⟨tag, payload⟩ := splitLabel label
  simp only
  split
  all_goals simp_all [neededNames, List.lookup_cons, beq_eq_decide, errorOf_functorMap,
    errorOf_requirePayload]

/-- Whether a node can only be a leaf shows in its tag. -/
theorem isLeafKind_iff {label : String} {kind : Kind} (decoded : decodeLabel label = .ok kind) :
    kind.isLeafKind = true ↔ (splitLabel label).1 ∈ leafTags := by
  -- each tag decides for a kind, and of the kind only its constructor matters
  revert kind
  unfold decodeLabel
  obtain ⟨tag, payload⟩ := splitLabel label
  simp only
  split
  all_goals simp_all [functorMap_eq_ok_iff, Kind.isLeafKind, leafTags]

theorem RawTree.sizeOf_children_lt (tree : RawTree) : sizeOf tree.children < sizeOf tree := by
  cases tree
  simp only [children, node.sizeOf_spec]
  omega

/-- All that is wrong with a reported node at `path`, in the order in which it is noticed. -/
def RawTree.faults (path : NodePath) (tree : RawTree) : List TreeError :=
  faultIf (maxTreeDepth < path.length) (.tooDeep path.length) ++
  (labelFaults tree.label).map (.invalidLabel path tree.label) ++
  faultIf ((splitLabel tree.label).1 ∈ leafTags ∧ tree.children.isEmpty = false)
    (.unexpectedChildren path tree.label)

theorem RawTree.isFoundAt_of_mem_faults {path : NodePath} {tree : RawTree} {e : TreeError}
    (mem : e ∈ tree.faults path) : e.IsFoundAt path := by
  simp only [faults, List.mem_append, List.mem_map, mem_faultIf] at mem
  rcases mem with (⟨-, rfl⟩ | ⟨reason, -, rfl⟩) | ⟨-, rfl⟩
  all_goals rfl

theorem RawTree.length_of_tooDeep_mem_faults {path : NodePath} {tree : RawTree} {depth : Nat}
    (mem : .tooDeep depth ∈ tree.faults path) : maxTreeDepth < path.length := by
  simp only [faults, List.mem_append, List.mem_map, mem_faultIf, reduceCtorEq, and_false,
    exists_false, or_false] at mem
  exact mem.1

namespace SyntaxTree

/-- Laying out a node ends with what is wrong with the node, else with what laying out its children
ends with. -/
theorem errorOf_layNode (path : NodePath) (role : BinderRole) (parent : Option NodeId)
    (id : NodeId) (tree : RawTree) :
    ∃ role', errorOf (layNode path role parent id tree) =
      (tree.faults path).head?.or
        (errorOf (layChildren path role' id 0 (id + 1) tree.children)) := by
  obtain ⟨shape, label, span, children⟩ := tree
  rw [layNode]
  by_cases deep : path.length > maxTreeDepth
  · exact ⟨role, by simp [deep, RawTree.faults]⟩
  · have decode := errorOf_decodeLabel label
    rw [if_neg deep]
    cases decoded : decodeLabel label with
    | error reason =>
      rw [decoded, errorOf_error] at decode
      exact ⟨role, by simp [RawTree.faults, RawTree.label, deep, ← decode]⟩
    | ok kind =>
      rw [decoded, errorOf_ok] at decode
      have sound : labelFaults label = [] := List.head?_eq_none_iff.mp decode.symm
      have leaf := isLeafKind_iff decoded
      refine ⟨kind.decidesRole?.getD role, ?_⟩
      simp only [RawTree.faults, RawTree.label, RawTree.children, ← leaf, sound, faultIf_neg deep,
        List.map_nil, List.nil_append]
      by_cases overfull : kind.isLeafKind = true ∧ children.isEmpty = false
      · simp [overfull]
      · rw [faultIf_neg overfull]
        split
        · simp_all
        · split <;> simp_all

theorem errorOf_layChildren_cons (path : NodePath) (role : BinderRole) (parent : NodeId)
    (position : Nat) (next : NodeId) (tree : RawTree) (rest : List RawTree) :
    ∃ next', errorOf (layChildren path role parent position next (tree :: rest)) =
      (errorOf (layNode (position :: path) role (some parent) next tree)).or
        (errorOf (layChildren path role parent (position + 1) next' rest)) := by
  rw [layChildren]
  cases layNode (position :: path) role (some parent) next tree with
  | error e => exact ⟨next, rfl⟩
  | ok nodes =>
    -- what is wrong with the others does not depend on where their numbers start
    refine ⟨next + nodes.length, ?_⟩
    simp only
    cases layChildren path role parent (position + 1) (next + nodes.length) rest <;> rfl

mutual
/-- Laying out a tree ends with the first fault in document order. -/
theorem finds_layNode (path : NodePath) (role : BinderRole) (parent : Option NodeId) (id : NodeId)
    (tree : RawTree) :
    Finds (faultBelow? RawTree.children RawTree.faults path tree)
      (errorOf (layNode path role parent id tree)) := by
  obtain ⟨role', same⟩ := errorOf_layNode path role parent id tree
  rw [same]
  exact finds_node (finds_layChildren path role' id 0 (id + 1) tree.children)
termination_by sizeOf tree
decreasing_by
  exact RawTree.sizeOf_children_lt tree

theorem finds_layChildren (path : NodePath) (role : BinderRole) (parent : NodeId) (position : Nat)
    (next : NodeId) (trees : List RawTree) :
    Finds (faultAmong? RawTree.children RawTree.faults path position trees)
      (errorOf (layChildren path role parent position next trees)) := by
  match trees with
  | [] => exact finds_nil
  | tree :: rest =>
    obtain ⟨next', same⟩ := errorOf_layChildren_cons path role parent position next tree rest
    rw [same]
    exact finds_cons (finds_layNode (position :: path) role parent next tree)
      (finds_layChildren path role parent (position + 1) next' rest)
termination_by sizeOf trees
end

/-- Laying out a tree ends with the first fault in document order. -/
theorem finds_ofRaw (raw : RawTree) :
    Finds (faultBelow? RawTree.children RawTree.faults [] raw) (errorOf (ofRaw raw)) := by
  rw [ofRaw, errorOf_map]
  exact finds_layNode [] .letBinding none root raw

/-- A tree is refused exactly if laying it out ends with an error. -/
theorem build_eq_error_iff {view : SourceView} {raw : RawTree} {e : TreeError} :
    build view raw = .error (.refused e) ↔ FirstFault RawTree.children RawTree.faults raw e := by
  rw [build_eq_refused_iff]
  exact eq_error_iff_firstFault (finds_ofRaw raw)
    (fun _ _ _ => RawTree.isFoundAt_of_mem_faults) e

/-- Exactly the trees with a fault somewhere are refused, both when they are read and when they are
laid out. The error is the first fault of the first node in document order that has one, and says
where that node stands. No tree that has been read is too deep to be laid out. -/
theorem refused_iff (view : SourceView) (value : Json) (raw : RawTree) :
    ((∃ e, RawTree.ofJson value = .error e) ↔ HasFault Json.childItems Json.faults value) ∧
    (∀ e, RawTree.ofJson value = .error e ↔ FirstFault Json.childItems Json.faults value e) ∧
    ((∃ e, build view raw = .error (.refused e)) ↔ HasFault RawTree.children RawTree.faults raw) ∧
    (∀ e, build view raw = .error (.refused e) ↔ FirstFault RawTree.children RawTree.faults raw e) ∧
    (RawTree.ofJson value = .ok raw →
      ∀ depth, build view raw ≠ .error (.refused (.tooDeep depth))) := by
  have read := RawTree.finds_ofJsonAt [] value
  have readFails := fails_iff_hasFault read
  refine ⟨readFails, eq_error_iff_firstFault read fun _ _ _ => Json.isFoundAt_of_mem_faults,
    ?_, fun e => build_eq_error_iff, fun accepted depth fails => ?_⟩
  · simp only [build_eq_refused_iff]
    exact fails_iff_hasFault (finds_ofRaw raw)
  · obtain ⟨steps, node, there, head, -, -⟩ := build_eq_error_iff.mp fails
    obtain ⟨item, placed, -⟩ := RawTree.follow?_of_ofJsonAt accepted there
    -- what is too deep to be laid out was too deep to be read
    have deep := RawTree.length_of_tooDeep_mem_faults (List.mem_of_mem_head? head)
    obtain ⟨e, failed⟩ := readFails.mpr
      ⟨steps, item, placed, List.ne_nil_of_mem (item.tooDeep_mem_faults deep)⟩
    rw [← RawTree.ofJson, accepted] at failed
    cases failed

/-- Output in which the argument of a call is a variable without a name. -/
def unnamed : RawTree :=
  .interior "Block" ⟨⟨1, 1⟩, ⟨1, 9⟩⟩
    [.leaf "Variable: x" ⟨⟨1, 1⟩, ⟨1, 9⟩⟩,
      .interior "FunCall" ⟨⟨1, 1⟩, ⟨1, 9⟩⟩ [.leaf "Variable:  " ⟨⟨1, 1⟩, ⟨1, 9⟩⟩]]

/-- The value that the output is read from. -/
def unnamedValue : Json :=
  .array [.string "Interior", .string "Block", .string "1:1-1:9", .array
    [.array [.string "Leaf", .string "Variable: x", .string "1:1-1:9"],
      .array [.string "Interior", .string "FunCall", .string " 1:1 - 1:9 ", .array
        [.array [.string "Leaf", .string "Variable:  ", .string "1:1-1:9", .null]]]]]

/-- The output can be read. It cannot be laid out, because of the first child of the second child of
its root. -/
theorem refused_unnamed :
    RawTree.ofJson unnamedValue = .ok unnamed ∧
      ¬ HasFault Json.childItems Json.faults unnamedValue ∧
      build (.ofSource "" .standard) unnamed =
        .error (.refused
          (.invalidLabel [0, 1] "Variable:  " (.missingPayload "Variable" "name"))) ∧
      FirstFault RawTree.children RawTree.faults unnamed
        (.invalidLabel [0, 1] "Variable:  " (.missingPayload "Variable" "name")) ∧
      ∀ depth, build (.ofSource "" .standard) unnamed ≠ .error (.refused (.tooDeep depth)) := by
  have tight : ParserSpan.decode? "1:1-1:9" = some ⟨⟨1, 1⟩, ⟨1, 9⟩⟩ := by decide +kernel
  have loose : ParserSpan.decode? " 1:1 - 1:9 " = some ⟨⟨1, 1⟩, ⟨1, 9⟩⟩ := by decide +kernel
  have read : RawTree.ofJson unnamedValue = .ok unnamed := by
    simp [RawTree.ofJson, unnamedValue, RawTree.ofJsonAt, RawTree.ofJsonList, RawTree.headOf,
      RawTree.shapeOf?, tight, loose, maxTreeDepth, unnamed, RawTree.leaf, RawTree.interior,
      Except.map]
  have failed : build (.ofSource "" .standard) unnamed =
      .error (.refused
        (.invalidLabel [0, 1] "Variable:  " (.missingPayload "Variable" "name"))) := by
    decide +kernel
  obtain ⟨readFails, -, -, buildError, admitted⟩ :=
    refused_iff (.ofSource "" .standard) unnamedValue unnamed
  refine ⟨read, fun fault => ?_, failed, (buildError _).mp failed, admitted read⟩
  obtain ⟨e, error⟩ := readFails.mpr fault
  rw [read] at error
  cases error

end SyntaxTree

end LinksBinding
