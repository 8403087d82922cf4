import LinksBinding.Outline
import LinksBinding.Proofs.Navigation

/-!
# What the outline shows

Read in preorder, the entries of the outline are the declarations of the index that it shows, each
once and in the order of the index, and an entry is directly below that of the nearest function
around it that has an entry (`outline_complete`).

Entries do not say which node they stand for, so the entries in preorder are compared with the
declarations place by place. For the entry that another is below, its place is what counts.

The outline marks the nodes it visits. In a tree no node is reached twice, so that the marks change
nothing, and the entries are those of the recursion over the tree without them
(`visits_collect`).
-/

namespace LinksBinding

/-- What two functions make of a list stands side by side if they leave out the same of it. -/
theorem forall₂_filterMap {α β γ : Type} {R : β → γ → Prop} {f : α → Option β} {g : α → Option γ}
    (same : ∀ a, (g a).isSome = (f a).isSome)
    (related : ∀ a b c, f a = some b → g a = some c → R b c)
    (list : List α) : List.Forall₂ R (list.filterMap f) (list.filterMap g) := by
  induction list with
  | nil => exact .nil
  | cons a rest ih =>
    have same := same a
    rw [List.filterMap_cons, List.filterMap_cons]
    cases left : f a with
    | none =>
      rw [left, Option.isSome_none, Option.isSome_eq_false_iff, Option.isNone_iff_eq_none] at same
      rw [same]
      exact ih
    | some b =>
      rw [left, Option.isSome_some, Option.isSome_iff_exists] at same
      obtain ⟨c, right⟩ := same
      rw [right]
      exact .cons (related a b c left right) ih

namespace DocumentSymbol

mutual
/-- An entry and the entries below it in preorder, each with the place of the entry that it is
directly below. The entry itself has the place `place` and is below the one at `above`. -/
def flatten (above : Option Nat) (place : Nat) :
    DocumentSymbol → List (SymbolHead × Option Nat)
  | .entry head children => (head, above) :: flattenList (some place) (place + 1) children

/-- Entries one behind the other and the entries below them in preorder, the first of them at the
place `place` and all of them below the entry at `above`. -/
def flattenList (above : Option Nat) (place : Nat) :
    List DocumentSymbol → List (SymbolHead × Option Nat)
  | [] => []
  | symbol :: rest =>
    flatten above place symbol ++
      flattenList above (place + (flatten above place symbol).length) rest
end

theorem flattenList_append (above : Option Nat) (place : Nat) (front back : List DocumentSymbol) :
    flattenList above place (front ++ back) =
      flattenList above place front ++
        flattenList above (place + (flattenList above place front).length) back := by
  induction front generalizing place with
  | nil => rfl
  | cons symbol rest ih =>
    simp only [List.cons_append, flattenList, ih, List.append_assoc, List.length_append,
      Nat.add_assoc]

end DocumentSymbol

namespace SyntaxTree

variable {tree : SyntaxTree}

/-- The nodes below a node in document order. -/
def below (tree : SyntaxTree) (id : NodeId) : List NodeId :=
  (tree.children id).flatMap tree.preorder

namespace IsTree

theorem preorder_eq_below (h : tree.IsTree) {id : NodeId} (inside : id < tree.size) :
    tree.preorder id = id :: tree.below id := by
  obtain ⟨node, found⟩ := exists_get? inside
  rw [h.preorder_eq found, below, children_of_get? found]

theorem nodup_preorder (h : tree.IsTree) {id : NodeId} (inside : id < tree.size) :
    (tree.preorder id).Nodup := by
  rw [h.preorder_eq_subtree inside]
  exact h.nodup_subtree _ inside

theorem nodup_below (h : tree.IsTree) (id : NodeId) : (tree.below id).Nodup := by
  rcases Nat.lt_or_ge id tree.size with inside | outside
  · have nodup := h.nodup_preorder inside
    rw [h.preorder_eq_below inside] at nodup
    exact (List.nodup_cons.mp nodup).2
  · rw [below, children_eq_nil outside]
    exact List.nodup_nil

end IsTree

end SyntaxTree

namespace Analysis

open SyntaxTree

variable {analysis : Analysis}

/-! ## Marks -/

/-- The entries for what lies at most `fuel` levels below a node. -/
def symbolsBelow (analysis : Analysis) : (fuel : Nat) → (container : Option String) → NodeId →
    List DocumentSymbol
  | 0, _, _ => []
  | fuel + 1, container, id =>
    (analysis.tree.children id).flatMap fun child =>
      (analysis.entriesAt (m := Id) (analysis.symbolsBelow fuel) container child).run

/-- If none of `nodes` is marked, `visit` gives `result` and marks no other nodes. -/
def Visits {α : Type} (nodes : List NodeId) (visit : StateM (List NodeId) α) (result : α) : Prop :=
  ∀ visited : List NodeId, (∀ x ∈ nodes, x ∉ visited) →
    ∃ visited', visit.run visited = (result, visited') ∧ ∀ x ∈ visited', x ∈ visited ∨ x ∈ nodes

namespace Visits

theorem pure {α : Type} (nodes : List NodeId) (result : α) :
    Visits nodes (Pure.pure result) result :=
  fun visited _ => ⟨visited, rfl, fun _ => .inl⟩

theorem map {α β : Type} {nodes : List NodeId} {visit : StateM (List NodeId) α} {result : α}
    (h : Visits nodes visit result) (f : α → β) : Visits nodes (f <$> visit) (f result) := by
  intro visited free
  obtain ⟨visited', ran, marked⟩ := h visited free
  exact ⟨visited', by rw [StateT.run_map, ran]; rfl, marked⟩

/-- Visits one behind the other are not in each other's way if they share no nodes. -/
theorem mapM {α : Type} {nodes : NodeId → List NodeId}
    {visit : NodeId → StateM (List NodeId) α} {result : NodeId → α} {ids : List NodeId}
    (once : (ids.flatMap nodes).Nodup)
    (each : ∀ id ∈ ids, Visits (nodes id) (visit id) (result id)) :
    Visits (ids.flatMap nodes) (ids.mapM visit) (ids.map result) := by
  induction ids with
  | nil => exact fun visited _ => ⟨visited, rfl, fun _ => .inl⟩
  | cons id rest ih =>
    intro visited free
    rw [List.flatMap_cons, List.nodup_append'] at once
    obtain ⟨-, once, apart⟩ := once
    simp only [List.flatMap_cons, List.mem_append] at free ⊢
    obtain ⟨between, first, marked⟩ :=
      each id List.mem_cons_self visited fun x mem => free x (.inl mem)
    obtain ⟨visited', others, marked'⟩ :=
      ih once (fun other mem => each other (List.mem_cons_of_mem _ mem)) between fun x mem => by
        intro there
        rcases marked x there with before | here
        · exact free x (.inr mem) before
        · exact apart here mem
    refine ⟨visited', ?_, fun x mem => ?_⟩
    · rw [List.mapM_cons, StateT.run_bind, first]
      change (rest.mapM visit >>= fun more => Pure.pure (result id :: more)).run between = _
      rw [StateT.run_bind, others]
      rfl
    · rcases marked' x mem with there | there
      · exact (marked x there).imp_right .inl
      · exact .inr (.inr there)

end Visits

section EntriesAt

variable {m : Type → Type} [Monad m] {container : Option String} {child : NodeId}
  (below : (container : Option String) → NodeId → m (List DocumentSymbol))

/-- For a node without an entry there are the entries below it. -/
theorem entriesAt_of_hidden (hidden : analysis.symbolHead? container child = none) :
    analysis.entriesAt below container child = below container child := by
  rw [entriesAt, hidden]

theorem entriesAt_of_function {head : SymbolHead}
    (made : analysis.symbolHead? container child = some head) (kind : head.kind = .function) :
    analysis.entriesAt below container child = do
      return [.entry head (← below (some head.name) child)] := by
  simp only [entriesAt, made, kind]

theorem entriesAt_of_variable {head : SymbolHead}
    (made : analysis.symbolHead? container child = some head) (kind : head.kind = .variable) :
    analysis.entriesAt below container child = return [.entry head []] := by
  simp only [entriesAt, made, kind]

end EntriesAt

/-- The entries for a child are visited as what lies below it is. -/
theorem visits_entriesAt {nodes : List NodeId} {child : NodeId}
    {below : (container : Option String) → NodeId → StateM (List NodeId) (List DocumentSymbol)}
    {entries : (container : Option String) → NodeId → List DocumentSymbol}
    (each : ∀ container, Visits nodes (below container child) (entries container child))
    (container : Option String) :
    Visits nodes (analysis.entriesAt below container child)
      (analysis.entriesAt (m := Id) entries container child).run := by
  cases made : analysis.symbolHead? container child with
  | none =>
    rw [entriesAt_of_hidden below made, entriesAt_of_hidden (m := Id) entries made]
    exact each container
  | some head =>
    cases kind : head.kind with
    | function =>
      rw [entriesAt_of_function below made kind, entriesAt_of_function (m := Id) entries made kind,
        bind_pure_comp]
      exact (each (some head.name)).map _
    | «variable» =>
      rw [entriesAt_of_variable below made kind, entriesAt_of_variable (m := Id) entries made kind]
      exact .pure nodes _

/-- A node that is not marked is marked before what lies below it is visited. -/
theorem visits_marked {nodes : List NodeId} {child : NodeId}
    {visit : StateM (List NodeId) (List DocumentSymbol)} {result : List DocumentSymbol}
    (once : child ∉ nodes) (h : Visits nodes visit result) :
    Visits (child :: nodes)
      (do
        if child ∈ (← get) then return []
        modify (child :: ·)
        visit)
      result := by
  intro visited free
  have new : child ∉ visited := free child List.mem_cons_self
  obtain ⟨visited', ran, marked⟩ := h (child :: visited) fun x mem there => by
    rcases List.mem_cons.mp there with rfl | before
    · exact once mem
    · exact free x (List.mem_cons_of_mem _ mem) before
  refine ⟨visited', ?_, fun x mem => ?_⟩
  · rw [← ran, StateT.run_bind, StateT.run_get]
    change (if child ∈ visited then Pure.pure [] else
      modify (child :: ·) >>= fun _ => visit : StateM _ _).run visited = _
    rw [if_neg new]
    rfl
  · rcases marked x mem with there | below
    · rcases List.mem_cons.mp there with rfl | before
      · exact .inr List.mem_cons_self
      · exact .inl before
    · exact .inr (List.mem_cons_of_mem _ below)

/-- The marks leave out nothing. -/
theorem visits_collect (h : analysis.tree.IsTree) (fuel : Nat) (container : Option String)
    (id : NodeId) :
    Visits (analysis.tree.below id) (analysis.collect fuel container id)
      (analysis.symbolsBelow fuel container id) := by
  induction fuel generalizing container id with
  | zero => exact .pure _ _
  | succ fuel ih =>
    have each : ∀ child ∈ analysis.tree.children id, Visits (analysis.tree.preorder child)
        (do
          if child ∈ (← get) then return []
          modify (child :: ·)
          analysis.entriesAt (analysis.collect fuel) container child)
        (analysis.entriesAt (m := Id) (analysis.symbolsBelow fuel) container child).run := by
      intro child listed
      have inside := h.child_lt_size listed
      have once := h.nodup_preorder inside
      rw [h.preorder_eq_below inside] at once ⊢
      exact visits_marked (List.nodup_cons.mp once).1 (visits_entriesAt (ih · child) container)
    have visits := (Visits.mapM (h.nodup_below id) each).map List.flatten
    rw [collect, symbolsBelow]
    simp only [bind_pure_comp]
    rw [List.flatMap_def]
    exact visits

theorem outline_eq (h : analysis.tree.IsTree) :
    analysis.outline = analysis.symbolsBelow analysis.tree.size none root := by
  obtain ⟨visited, ran, -⟩ :=
    visits_collect h analysis.tree.size none root [] fun _ _ => List.not_mem_nil
  exact congrArg Prod.fst ran

/-! ## What is shown -/

/-- Whether the outline shows a declaration: a function or a variable whose name has a range. -/
def isOutlined (analysis : Analysis) (declaration : Declaration) : Bool :=
  (declaration.kind == .function || declaration.kind == .binder .letBinding) &&
    (analysis.nameRange? declaration.node).isSome

/-- The declarations that the outline shows, in the order of the index. -/
def outlined (analysis : Analysis) : List Declaration :=
  analysis.index.declarations.filter analysis.isOutlined

/-- The declaration that a node is, if the outline shows it. -/
def outlinedAt? (analysis : Analysis) (id : NodeId) : Option Declaration :=
  (analysis.index.declarationAt? id).filter analysis.isOutlined

/-- The function that a node is, if the outline shows it. -/
def outlinedFunction? (analysis : Analysis) (id : NodeId) : Option Declaration :=
  (analysis.outlinedAt? id).filter (·.kind.isFunction)

/-- The nearest function above a node that the outline shows. -/
def containerOf? (analysis : Analysis) (id : NodeId) : Option Declaration :=
  (analysis.tree.ancestors id).findSome? analysis.outlinedFunction?

/-- The nearest function that the outline shows, of a node and those above it. -/
def functionAround? (analysis : Analysis) (id : NodeId) : Option Declaration :=
  (id :: analysis.tree.ancestors id).findSome? analysis.outlinedFunction?

/-- An entry says of a declaration what it should, as one inside `container`. -/
structure IsHead (analysis : Analysis) (declaration : Declaration) (container : Option String)
    (head : SymbolHead) : Prop where
  /-- its name -/
  name : head.name = declaration.name
  /-- whether it is a function -/
  kind : head.kind = if declaration.kind.isFunction then .function else .variable
  /-- the head of a function -/
  detail : head.detail = analysis.tree.signature? declaration.node
  /-- where its name stands -/
  selectionRange : analysis.nameRange? declaration.node = some head.selectionRange
  /-- where all of it stands -/
  range : head.range = (analysis.range? declaration.node).getD head.selectionRange
  /-- what it is inside -/
  containerName : head.containerName = container

namespace Grounded

variable (grounded : analysis.Grounded)

include grounded

theorem node_of_declarationAt? {id : NodeId} {declaration : Declaration}
    (found : analysis.index.declarationAt? id = some declaration) : declaration.node = id :=
  ((grounded.coherent.declarationAt id declaration).mp found).2

theorem node_of_outlinedAt? {id : NodeId} {declaration : Declaration}
    (shown : analysis.outlinedAt? id = some declaration) : declaration.node = id :=
  grounded.node_of_declarationAt? (Option.filter_eq_some_iff.mp shown).1

/-- What the outline does not show has no entry. -/
theorem symbolHead?_eq_none {id : NodeId} (hidden : analysis.outlinedAt? id = none)
    (container : Option String) : analysis.symbolHead? container id = none := by
  rw [symbolHead?]
  cases found : analysis.index.declarationAt? id with
  | none => rfl
  | some declaration =>
    have here := grounded.node_of_declarationAt? found
    rw [outlinedAt?, found, Option.filter_eq_none_iff] at hidden
    have hidden := hidden declaration rfl
    rw [isOutlined, here] at hidden
    simp only [Option.bind_eq_bind, Option.bind_some]
    cases kind : declaration.kind with
    | function => simp_all
    | binder role => cases role <;> simp_all

/-- What the outline shows has an entry. -/
theorem exists_symbolHead? {id : NodeId} {declaration : Declaration}
    (shown : analysis.outlinedAt? id = some declaration) (container : Option String) :
    ∃ head, analysis.symbolHead? container id = some head ∧
      analysis.IsHead declaration container head := by
  obtain ⟨found, outlined⟩ := Option.filter_eq_some_iff.mp shown
  have here := grounded.node_of_declarationAt? found
  rw [isOutlined, here, Bool.and_eq_true, Bool.or_eq_true, beq_iff_eq, beq_iff_eq] at outlined
  obtain ⟨kind, named⟩ := outlined
  obtain ⟨selection, named⟩ := Option.isSome_iff_exists.mp named
  have made : analysis.symbolHead? container id = some ⟨declaration.name,
      analysis.tree.signature? id, if declaration.kind.isFunction then .function else .variable,
      (analysis.range? id).getD selection, selection, container⟩ := by
    rw [symbolHead?, found]
    rcases kind with kind | kind <;> simp [kind, named, DeclarationKind.isFunction]
  refine ⟨_, made, rfl, rfl, ?_, ?_, ?_, rfl⟩
  · rw [here]
  · rw [here, named]
  · rw [here]

/-- A variable that the outline shows has nothing below it. -/
theorem below_of_variable {id : NodeId} {declaration : Declaration}
    (shown : analysis.outlinedAt? id = some declaration)
    (noFunction : declaration.kind.isFunction = false) : analysis.tree.below id = [] := by
  obtain ⟨view, raw, built⟩ := grounded.built
  obtain ⟨found, -⟩ := Option.filter_eq_some_iff.mp shown
  rw [grounded.indexed, BindingIndex.declarationAt?_ofTree grounded.isTree] at found
  rcases kind?_of_declarationOf? found with ⟨-, function, -⟩ | ⟨role, is, -⟩
  · rw [function] at noFunction
    cases noFunction
  · obtain ⟨node, stands, is⟩ := Option.map_eq_some_iff.mp is
    rw [SyntaxTree.below, children_of_get? stands, leaf_of_build built stands (by rw [is]; rfl)]
    rfl

end Grounded

/-! ## Entries in preorder -/

/-- The entry of a node, with the place of the entry that it is directly below, where `place` are
the places of the declarations. -/
def entryOf? (analysis : Analysis) (place : Declaration → Nat) (id : NodeId) :
    Option (SymbolHead × Option Nat) :=
  (analysis.symbolHead? ((analysis.containerOf? id).map (·.name)) id).map
    (·, (analysis.containerOf? id).map place)

/-- The declarations have the places from `start` on. -/
abbrev Placed (place : Declaration → Nat) (start : Nat) (declarations : List Declaration) : Prop :=
  Numbered (fun number declaration => place declaration = number) start declarations

theorem functionAround?_of_some {id : NodeId} {declaration : Declaration}
    (shown : analysis.outlinedFunction? id = some declaration) :
    analysis.functionAround? id = some declaration := by
  rw [functionAround?, List.findSome?_cons, shown]

theorem functionAround?_of_none {id : NodeId} (none : analysis.outlinedFunction? id = none) :
    analysis.functionAround? id = analysis.containerOf? id := by
  rw [functionAround?, List.findSome?_cons, none]
  rfl

namespace Grounded

variable (grounded : analysis.Grounded) {place : Declaration → Nat}

include grounded

/-- What the outline shows has an entry in preorder, and nothing else does. -/
theorem isSome_entryOf? (id : NodeId) :
    (analysis.entryOf? place id).isSome = (analysis.outlinedAt? id).isSome := by
  rw [entryOf?, Option.isSome_map]
  cases shown : analysis.outlinedAt? id with
  | none =>
    rw [grounded.symbolHead?_eq_none shown]
    rfl
  | some declaration =>
    obtain ⟨head, made, -⟩ := grounded.exists_symbolHead? shown _
    rw [made, Option.isSome_some, Option.isSome_some]

theorem length_filterMap_entryOf? (ids : List NodeId) :
    (ids.filterMap (analysis.entryOf? place)).length =
      (ids.filterMap analysis.outlinedAt?).length := by
  rw [List.length_filterMap_eq_countP, List.length_filterMap_eq_countP]
  congr 1
  exact funext grounded.isSome_entryOf?

/-- The entries of children are those of each child, one behind the other. -/
theorem flattenList_flatMap {start : Nat} {above : Option Nat} {children : List NodeId}
    {entries : NodeId → List DocumentSymbol}
    (placed : Placed place start
      ((children.flatMap analysis.tree.preorder).filterMap analysis.outlinedAt?))
    (each : ∀ child ∈ children, ∀ start,
      Placed place start ((analysis.tree.preorder child).filterMap analysis.outlinedAt?) →
        DocumentSymbol.flattenList above start (entries child) =
          (analysis.tree.preorder child).filterMap (analysis.entryOf? place)) :
    DocumentSymbol.flattenList above start (children.flatMap entries) =
      (children.flatMap analysis.tree.preorder).filterMap (analysis.entryOf? place) := by
  induction children generalizing start with
  | nil => rfl
  | cons child rest ih =>
    rw [List.flatMap_cons, List.filterMap_append] at placed
    have first := each child List.mem_cons_self start placed.left
    have others := placed.right
    rw [← grounded.length_filterMap_entryOf?] at others
    rw [List.flatMap_cons, List.flatMap_cons, DocumentSymbol.flattenList_append,
      List.filterMap_append, first,
      ih others fun other mem => each other (List.mem_cons_of_mem _ mem)]

/-- The entries for a child are those of the child and of what lies below it. -/
theorem flattenList_entriesAt {fuel start : Nat} {id child : NodeId}
    (up : analysis.tree.parent? child = some id)
    (placed : Placed place start ((analysis.tree.preorder child).filterMap analysis.outlinedAt?))
    (ih : ∀ start,
      Placed place start ((analysis.tree.below child).filterMap analysis.outlinedAt?) →
      DocumentSymbol.flattenList ((analysis.functionAround? child).map place) start
        (analysis.symbolsBelow fuel ((analysis.functionAround? child).map (·.name)) child) =
          (analysis.tree.below child).filterMap (analysis.entryOf? place)) :
    DocumentSymbol.flattenList ((analysis.functionAround? id).map place) start
      (analysis.entriesAt (m := Id) (analysis.symbolsBelow fuel)
        ((analysis.functionAround? id).map (·.name)) child).run =
      (analysis.tree.preorder child).filterMap (analysis.entryOf? place) := by
  have h := grounded.isTree
  have above : analysis.containerOf? child = analysis.functionAround? id := by
    rw [containerOf?, h.ancestors_eq up, functionAround?]
  rw [h.preorder_eq_below (lt_size_of_parent? up)] at placed ⊢
  rw [← above, List.filterMap_cons, entryOf?]
  cases shown : analysis.outlinedAt? child with
  | none =>
    -- what lies below moves up
    rw [List.filterMap_cons, shown] at placed
    have around : analysis.functionAround? child = analysis.containerOf? child :=
      functionAround?_of_none (by rw [outlinedFunction?, shown]; rfl)
    have hidden := grounded.symbolHead?_eq_none shown
    rw [around] at ih
    rw [hidden, Option.map_none, entriesAt_of_hidden (m := Id) _ (hidden _)]
    exact ih start placed
  | some declaration =>
    rw [List.filterMap_cons, shown] at placed
    obtain ⟨head, made, is⟩ :=
      grounded.exists_symbolHead? shown ((analysis.containerOf? child).map (·.name))
    rw [made, Option.map_some]
    cases function : declaration.kind.isFunction with
    | true =>
      have shownFunction : analysis.outlinedFunction? child = some declaration := by
        rw [outlinedFunction?, shown, Option.filter_some, function]
        rfl
      have around := functionAround?_of_some shownFunction
      have kind : head.kind = .function := by rw [is.kind, function]; rfl
      have inside := ih (start + 1) placed.tail
      rw [around, Option.map_some, Option.map_some, placed.head, ← is.name] at inside
      rw [entriesAt_of_function (m := Id) _ made kind]
      change DocumentSymbol.flattenList _ start
        [.entry head (analysis.symbolsBelow fuel (some head.name) child)] = _
      rw [DocumentSymbol.flattenList, DocumentSymbol.flatten, inside, DocumentSymbol.flattenList,
        List.append_nil]
    | false =>
      have kind : head.kind = .variable := by rw [is.kind, function]; rfl
      rw [entriesAt_of_variable (m := Id) _ made kind, grounded.below_of_variable shown function]
      rfl

/-- The entries for what lies below a node are those of the nodes below it. -/
theorem flattenList_symbolsBelow {fuel start : Nat} {id : NodeId}
    (enough : analysis.tree.size ≤ fuel + id)
    (placed : Placed place start ((analysis.tree.below id).filterMap analysis.outlinedAt?)) :
    DocumentSymbol.flattenList ((analysis.functionAround? id).map place) start
      (analysis.symbolsBelow fuel ((analysis.functionAround? id).map (·.name)) id) =
      (analysis.tree.below id).filterMap (analysis.entryOf? place) := by
  have h := grounded.isTree
  induction fuel generalizing id start with
  | zero =>
    rw [SyntaxTree.below, children_eq_nil (by omega)]
    rfl
  | succ fuel ih =>
    refine grounded.flattenList_flatMap placed fun child listed start placed => ?_
    have behind := h.lt_child listed
    exact grounded.flattenList_entriesAt ((h.linked id child).mp listed) placed
      fun start placed => ih (by omega) placed

/-- The outline shows declarations of the index, each at its node. -/
theorem outlined_eq :
    analysis.outlined = analysis.tree.documentOrder.filterMap analysis.outlinedAt? := by
  rw [outlined, grounded.indexed, BindingIndex.declarations_ofTree, List.filter_filterMap]
  refine List.filterMap_congr fun id _ => ?_
  rw [outlinedAt?, grounded.indexed, BindingIndex.declarationAt?_ofTree grounded.isTree]

/-- The outline shows no node twice. -/
theorem nodup_outlined : (analysis.outlined.map (·.node)).Nodup :=
  grounded.coherent.declaredOnce.sublist (List.filter_sublist.map _)

/-- The root has no entry. -/
theorem outlinedAt?_root : analysis.outlinedAt? root = none := by
  rw [outlinedAt?, Option.filter_eq_none_iff]
  intro declaration found
  have declared := ((grounded.coherent.declarationAt root declaration).mp found)
  have listed := List.mem_map_of_mem (f := (·.node)) declared.1
  rw [grounded.coherent.declared, List.mem_filter, declared.2] at listed
  simp at listed

theorem mem_outlined_of_containerOf? {id : NodeId} {container : Declaration}
    (inside : analysis.containerOf? id = some container) : container ∈ analysis.outlined := by
  obtain ⟨above, -, shown⟩ := List.exists_of_findSome?_eq_some inside
  obtain ⟨shown, -⟩ := Option.filter_eq_some_iff.mp shown
  obtain ⟨found, isOutlined⟩ := Option.filter_eq_some_iff.mp shown
  exact List.mem_filter.mpr
    ⟨((grounded.coherent.declarationAt above container).mp found).1, isOutlined⟩

/-- No function is around the root. -/
theorem functionAround?_root : analysis.functionAround? root = none := by
  have shown : analysis.outlinedFunction? root = none := by
    rw [outlinedFunction?, grounded.outlinedAt?_root]
    rfl
  rw [functionAround?_of_none shown, containerOf?, ancestors,
    climb_of_orphan grounded.isTree.parent?_root]
  rfl

/-- The places of the declarations that are shown are consecutive. -/
theorem placed_outlined : Placed analysis.outlined.idxOf 0 analysis.outlined := by
  intro k declaration listed
  obtain ⟨inside, rfl⟩ := List.getElem?_eq_some_iff.mp listed
  rw [Nat.zero_add]
  exact grounded.nodup_outlined.of_map.idxOf_getElem k inside

/-- In preorder, the outline has the entries of the nodes in document order. -/
theorem flattenList_outline :
    DocumentSymbol.flattenList none 0 analysis.outline =
      analysis.tree.documentOrder.filterMap (analysis.entryOf? analysis.outlined.idxOf) := by
  have h := grounded.isTree
  have order : analysis.tree.documentOrder = root :: analysis.tree.below root :=
    h.preorder_eq_below h.root_lt_size
  have noEntry : analysis.entryOf? analysis.outlined.idxOf root = none := by
    rw [← Option.isNone_iff_eq_none, ← Option.not_isSome, grounded.isSome_entryOf?,
      grounded.outlinedAt?_root]
    rfl
  have shown := grounded.outlined_eq
  rw [order, List.filterMap_cons_none grounded.outlinedAt?_root] at shown
  have placed : Placed analysis.outlined.idxOf 0
      ((analysis.tree.below root).filterMap analysis.outlinedAt?) := by
    rw [← shown]
    exact grounded.placed_outlined
  have entries :=
    grounded.flattenList_symbolsBelow (Nat.le_add_right analysis.tree.size root) placed
  rw [grounded.functionAround?_root] at entries
  rw [order, List.filterMap_cons_none noEntry, outline_eq h]
  exact entries

end Grounded

/-- An entry of the outline in preorder is that of a declaration. -/
structure IsEntryOf (analysis : Analysis) (declaration : Declaration)
    (entry : SymbolHead × Option Nat) : Prop where
  /-- it says what it should of the declaration, and names the function that the declaration is
  inside -/
  head : analysis.IsHead declaration
    ((analysis.containerOf? declaration.node).map (·.name)) entry.1
  /-- it is directly below the entry of that function -/
  above : entry.2 = (analysis.containerOf? declaration.node).map analysis.outlined.idxOf
  /-- that function has an entry -/
  listed : ∀ container, analysis.containerOf? declaration.node = some container →
    container ∈ analysis.outlined

/-- Read in preorder, the entries of the outline are those of the declarations that it shows, each
once and in the order of the index. -/
theorem outline_complete (grounded : analysis.Grounded) :
    (analysis.outlined.map (·.node)).Nodup ∧
      List.Forall₂ analysis.IsEntryOf analysis.outlined
        (DocumentSymbol.flattenList none 0 analysis.outline) := by
  have related : ∀ id declaration entry, analysis.outlinedAt? id = some declaration →
      analysis.entryOf? analysis.outlined.idxOf id = some entry →
      analysis.IsEntryOf declaration entry := by
    intro id declaration entry shown made
    have here := grounded.node_of_outlinedAt? shown
    subst here
    obtain ⟨head, stands, is⟩ := grounded.exists_symbolHead? shown
      ((analysis.containerOf? declaration.node).map (·.name))
    rw [entryOf?, stands] at made
    cases made
    exact ⟨is, rfl, fun _ => grounded.mem_outlined_of_containerOf?⟩
  have entries := forall₂_filterMap grounded.isSome_entryOf? related analysis.tree.documentOrder
  rw [← grounded.outlined_eq, ← grounded.flattenList_outline] at entries
  exact ⟨grounded.nodup_outlined, entries⟩

/-- A document with a function whose name is not on the line of its keyword, between a function
around it and declarations inside it. -/
def nestedSource : String :=
  "fun f() \x7b\n  fun\ng() \x7b\n    var x = 1;\n    fun h() \x7b\x7d\n  \x7d\n" ++
    "  var y = 2;\n\x7d\nvar z = 3;\n"

/-- Output for that document. -/
def nested : RawTree :=
  .interior "Fun: dummy_wrapper" ⟨⟨0, 1⟩, ⟨11, 2⟩⟩ [.interior "Block" ⟨⟨0, 1⟩, ⟨11, 2⟩⟩
    [.interior "Fun: f" ⟨⟨1, 1⟩, ⟨8, 2⟩⟩ [.interior "Block" ⟨⟨1, 9⟩, ⟨8, 2⟩⟩
      [.interior "Fun: g" ⟨⟨2, 3⟩, ⟨6, 4⟩⟩ [.interior "Block" ⟨⟨3, 5⟩, ⟨6, 4⟩⟩
        [.interior "Val" ⟨⟨4, 5⟩, ⟨4, 14⟩⟩
          [.leaf "Binder: x" ⟨⟨4, 9⟩, ⟨4, 10⟩⟩, .leaf "Constant: 1" ⟨⟨4, 13⟩, ⟨4, 14⟩⟩],
        .interior "Fun: h" ⟨⟨5, 5⟩, ⟨5, 15⟩⟩ []]],
      .interior "Val" ⟨⟨7, 3⟩, ⟨7, 12⟩⟩
        [.leaf "Binder: y" ⟨⟨7, 7⟩, ⟨7, 8⟩⟩, .leaf "Constant: 2" ⟨⟨7, 11⟩, ⟨7, 12⟩⟩]]],
    .interior "Val" ⟨⟨9, 1⟩, ⟨9, 10⟩⟩
      [.leaf "Binder: z" ⟨⟨9, 5⟩, ⟨9, 6⟩⟩, .leaf "Constant: 3" ⟨⟨9, 9⟩, ⟨9, 10⟩⟩]]]

/-- The tree of that output. -/
def nestedTree : SyntaxTree :=
  ⟨#[⟨.interior, .function "dummy_wrapper", ⟨⟨0, 1⟩, ⟨11, 2⟩⟩, none, [1]⟩,
    ⟨.interior, .block, ⟨⟨0, 1⟩, ⟨11, 2⟩⟩, some 0, [2, 13]⟩,
    ⟨.interior, .function "f", ⟨⟨1, 1⟩, ⟨8, 2⟩⟩, some 1, [3]⟩,
    ⟨.interior, .block, ⟨⟨1, 9⟩, ⟨8, 2⟩⟩, some 2, [4, 10]⟩,
    ⟨.interior, .function "g", ⟨⟨2, 3⟩, ⟨6, 4⟩⟩, some 3, [5]⟩,
    ⟨.interior, .block, ⟨⟨3, 5⟩, ⟨6, 4⟩⟩, some 4, [6, 9]⟩,
    ⟨.interior, .declaration, ⟨⟨4, 5⟩, ⟨4, 14⟩⟩, some 5, [7, 8]⟩,
    ⟨.leaf, .binder "x" .letBinding, ⟨⟨4, 9⟩, ⟨4, 10⟩⟩, some 6, []⟩,
    ⟨.leaf, .constant (.number "1"), ⟨⟨4, 13⟩, ⟨4, 14⟩⟩, some 6, []⟩,
    ⟨.interior, .function "h", ⟨⟨5, 5⟩, ⟨5, 15⟩⟩, some 5, []⟩,
    ⟨.interior, .declaration, ⟨⟨7, 3⟩, ⟨7, 12⟩⟩, some 3, [11, 12]⟩,
    ⟨.leaf, .binder "y" .letBinding, ⟨⟨7, 7⟩, ⟨7, 8⟩⟩, some 10, []⟩,
    ⟨.leaf, .constant (.number "2"), ⟨⟨7, 11⟩, ⟨7, 12⟩⟩, some 10, []⟩,
    ⟨.interior, .declaration, ⟨⟨9, 1⟩, ⟨9, 10⟩⟩, some 1, [14, 15]⟩,
    ⟨.leaf, .binder "z" .letBinding, ⟨⟨9, 5⟩, ⟨9, 6⟩⟩, some 13, []⟩,
    ⟨.leaf, .constant (.number "3"), ⟨⟨9, 9⟩, ⟨9, 10⟩⟩, some 13, []⟩]⟩

/-- The analysis of that document. -/
def nestedAnalysis : Analysis :=
  ofTree "file:///nested.links" (.ofSource nestedSource .standard) nestedTree {}

theorem ofRaw_nested :
    ofRaw "file:///nested.links" nestedSource nested {} = .ok nestedAnalysis := by
  have built : build (.ofSource nestedSource .standard) nested = .ok nestedTree := by
    decide +kernel
  rw [ofRaw, built, Except.map, nestedAnalysis]

/-- What is declared in the function without an entry moves up into the function around it. -/
theorem outline_nested :
    nestedAnalysis.Grounded ∧
      (nestedAnalysis.outlined.map (·.node)).Nodup ∧
      List.Forall₂ nestedAnalysis.IsEntryOf nestedAnalysis.outlined
        (DocumentSymbol.flattenList none 0 nestedAnalysis.outline) ∧
      (DocumentSymbol.flattenList none 0 nestedAnalysis.outline).map
          (fun entry => (entry.1.name, entry.1.containerName, entry.2)) =
        [("f", none, none), ("x", some "f", some 0), ("h", some "f", some 0),
          ("y", some "f", some 0), ("z", none, none)] :=
  have grounded := grounded_of_ofRaw ofRaw_nested
  have complete := outline_complete grounded
  ⟨grounded, complete.1, complete.2, by decide +kernel⟩

end Analysis

end LinksBinding
