import Mathlib.Data.List.Induction
import LinksBinding.BindingIndex
import LinksBinding.Proofs.Traversal

/-!
# The entries of the index

Each entry of the index of a tree is made from one node, and names it. A tree lists every node once,
so what the index has at a node is what the node is made into.

The tables of an index hold slots. What each of them should hold is said in terms of the entries
(`BindingIndex.Consistent`). Adding an entry keeps this, whichever of the tables it goes into, and so
it holds when a document has been gone through (`consistent_ofTree`). From then on every question is
answered by a selection from the entries.
-/

namespace LinksBinding

namespace SyntaxTree

variable {tree : SyntaxTree} {wrapper : String}

theorem node_of_declarationOf? {id : NodeId} {declaration : Declaration}
    (h : tree.declarationOf? wrapper id = some declaration) : declaration.node = id := by
  unfold declarationOf? at h
  split at h
  · split at h
    · cases h
    · obtain ⟨validity, -, rfl⟩ := Option.map_eq_some_iff.mp h
      rfl
  · obtain ⟨validity, -, rfl⟩ := Option.map_eq_some_iff.mp h
    rfl
  · cases h

theorem node_of_occurrenceOf? {id : NodeId} {occurrence : Occurrence}
    (h : tree.occurrenceOf? wrapper id = some occurrence) : occurrence.node = id := by
  unfold occurrenceOf? at h
  split at h
  · cases h
    rfl
  · cases h

/-- What is declared is a function that is neither the root nor the wrapper, or a binder. -/
theorem kind?_of_declarationOf? {id : NodeId} {declaration : Declaration}
    (h : tree.declarationOf? wrapper id = some declaration) :
    (tree.kind? id = some (.function declaration.name) ∧ declaration.kind = .function ∧ id ≠ root ∧
        declaration.name ≠ wrapper) ∨
      ∃ role, tree.kind? id = some (.binder declaration.name role) ∧
        declaration.kind = .binder role := by
  unfold declarationOf? at h
  split at h
  · rename_i is
    split at h
    · cases h
    · rename_i counts
      obtain ⟨validity, -, rfl⟩ := Option.map_eq_some_iff.mp h
      exact .inl ⟨is, rfl, not_or.mp counts⟩
  · rename_i is
    obtain ⟨validity, -, rfl⟩ := Option.map_eq_some_iff.mp h
    exact .inr ⟨_, is, rfl⟩
  · cases h

/-- What a name is used for that stands at some position among `siblings` nodes below `parent`. -/
def useBelow (parent : NodeId) (siblings : Nat) :
    Option Kind → Option Nat → OccurrenceKind × Option NodeId × Option Nat
  | some .call, some 0 => (.call, some parent, some (siblings - 1))
  | some .formletPlacement, some (_ + 1) => (.handlerReference, none, none)
  | _, _ => (.variable, none, none)

theorem useOf_eq {id parent : NodeId} (up : tree.parent? id = some parent) :
    tree.useOf id = useBelow parent (tree.children parent).length (tree.kind? parent)
      (tree.childPosition? id) := by
  rw [useOf, up]
  rfl

/-- What is used is the name of a variable, and what it refers to is looked up as its use demands. -/
theorem occurrenceOf?_eq_some_iff {id : NodeId} {occurrence : Occurrence} :
    tree.occurrenceOf? wrapper id = some occurrence ↔
      ∃ name, tree.kind? id = some (.variable name) ∧
        occurrence = ⟨id, name, (tree.useOf id).1, (tree.useOf id).2.1, (tree.useOf id).2.2,
          tree.resolve? wrapper (tree.useOf id).1.namespace id⟩ := by
  rw [occurrenceOf?]
  constructor
  · intro h
    split at h
    · rename_i name is
      cases h
      exact ⟨name, is, rfl⟩
    · cases h
  · rintro ⟨name, is, rfl⟩
    rw [is]

theorem parameterCount_of_declarationOf? {id : NodeId} {declaration : Declaration} {name : String}
    (is : tree.kind? id = some (.function name))
    (h : tree.declarationOf? wrapper id = some declaration) :
    declaration.parameterCount = tree.parameterCount? id := by
  simp only [declarationOf?, is] at h
  split at h
  · cases h
  · obtain ⟨validity, -, rfl⟩ := Option.map_eq_some_iff.mp h
    rfl

theorem declarationOf?_eq_none (wrapper : String) {id : NodeId} (absent : tree.get? id = none) :
    tree.declarationOf? wrapper id = none := by
  rw [declarationOf?, kind?, absent]
  rfl

theorem occurrenceOf?_eq_none (wrapper : String) {id : NodeId} (absent : tree.get? id = none) :
    tree.occurrenceOf? wrapper id = none := by
  rw [occurrenceOf?, kind?, absent]
  rfl

end SyntaxTree

/-- Of the entries made from the nodes of a list without repetition, only the one made from a node
names it. -/
theorem filter_filterMap_node {α : Type} {entry : NodeId → Option α} {node : α → NodeId}
    (own : ∀ id a, entry id = some a → node a = id) {order : List NodeId} (once : order.Nodup)
    {id : NodeId} (listed : id ∉ order → entry id = none) :
    (order.filterMap entry).filter (node · == id) = (entry id).toList := by
  induction order with
  | nil =>
    rw [listed List.not_mem_nil]
    rfl
  | cons other rest ih =>
    obtain ⟨absent, once⟩ := List.nodup_cons.mp once
    by_cases here : other = id
    · subst here
      have none : (rest.filterMap entry).filter (node · == other) = [] := by
        rw [List.filter_eq_nil_iff]
        intro a mem names
        obtain ⟨x, listed, made⟩ := List.mem_filterMap.mp mem
        rw [own x a made, beq_iff_eq] at names
        exact absent (names ▸ listed)
      cases made : entry other with
      | none => rw [List.filterMap_cons_none made, none, Option.toList_none]
      | some a =>
        rw [List.filterMap_cons_some made, List.filter_cons_of_pos (by simp [own other a made]),
          none, Option.toList_some]
    · -- an entry of another node is passed over
      have below := ih once fun absent => listed (by simp [Ne.symm here, absent])
      cases made : entry other with
      | none => rw [List.filterMap_cons_none made, below]
      | some a =>
        rw [List.filterMap_cons_some made, List.filter_cons_of_neg (by simp [own other a made, here]),
          below]

/-! ## Slots -/

section Slots

variable {α : Type} {p : α → Bool} {entries : Array α} {entry : α}

/-- The slots of the entries that satisfy `p`, in order. -/
def slotsWhere (p : α → Bool) (entries : Array α) : List Nat :=
  (List.range entries.size).filter fun slot => entries[slot]?.any p

theorem lt_size_of_mem_slotsWhere {slot : Nat} (mem : slot ∈ slotsWhere p entries) :
    slot < entries.size :=
  List.mem_range.mp (List.mem_of_mem_filter mem)

theorem slotsWhere_push (p : α → Bool) (entries : Array α) (entry : α) :
    slotsWhere p (entries.push entry) =
      slotsWhere p entries ++ if p entry then [entries.size] else [] := by
  have before : ∀ slot ∈ List.range entries.size,
      (entries.push entry)[slot]?.any p = entries[slot]?.any p := by
    intro slot mem
    rw [Array.getElem?_push, if_neg (Nat.ne_of_lt (List.mem_range.mp mem))]
  rw [slotsWhere, Array.size_push, List.range_succ, List.filter_append, List.filter_congr before,
    ← slotsWhere]
  cases kept : p entry <;> simp [kept]

theorem slotsWhere_push_of_pos (kept : p entry = true) :
    slotsWhere p (entries.push entry) = slotsWhere p entries ++ [entries.size] := by
  rw [slotsWhere_push, if_pos kept]

theorem slotsWhere_push_of_neg (passed : ¬ p entry = true) :
    slotsWhere p (entries.push entry) = slotsWhere p entries := by
  rw [slotsWhere_push, if_neg passed, List.append_nil]

/-- At the slots of the entries that satisfy `p` stand these entries. -/
theorem filterMap_slotsWhere (p : α → Bool) (entries : Array α) :
    (slotsWhere p entries).filterMap (entries[·]?) = entries.toList.filter p := by
  obtain ⟨entries⟩ := entries
  induction entries using List.reverseRecOn with
  | nil => rfl
  | append_singleton front entry ih =>
    have split : (⟨front ++ [entry]⟩ : Array α) = (⟨front⟩ : Array α).push entry := by simp
    rw [split]
    generalize (⟨front⟩ : Array α) = entries at ih
    have before : (slotsWhere p entries).filterMap ((entries.push entry)[·]?) =
        entries.toList.filter p := by
      rw [← ih]
      refine List.filterMap_congr fun slot mem => ?_
      rw [Array.getElem?_push, if_neg (Nat.ne_of_lt (lt_size_of_mem_slotsWhere mem))]
    rw [slotsWhere_push, List.filterMap_append, before, Array.toList_push, List.filter_append]
    cases kept : p entry <;> simp [kept]

theorem slotsWhere_eq_nil_iff :
    slotsWhere p entries = [] ↔ entries.toList.filter p = [] := by
  rw [← filterMap_slotsWhere]
  constructor
  · intro none
    rw [none, List.filterMap_nil]
  · intro none
    refine List.eq_nil_iff_forall_not_mem.mpr fun slot mem => ?_
    have stands := Array.getElem?_eq_getElem (lt_size_of_mem_slotsWhere mem)
    rw [List.filterMap_eq_nil_iff.mp none slot mem] at stands
    cases stands

/-- At the last of the slots stands the last of the entries. -/
theorem getLast?_slotsWhere (p : α → Bool) (entries : Array α) :
    (slotsWhere p entries).getLast?.bind (entries[·]?) = (entries.toList.filter p).getLast? := by
  rw [← filterMap_slotsWhere]
  have inside : ∀ slot ∈ slotsWhere p entries, slot < entries.size :=
    fun _ => lt_size_of_mem_slotsWhere
  generalize slotsWhere p entries = slots at inside
  cases slots using List.reverseRecOn with
  | nil => rfl
  | append_singleton slots slot =>
    have stands := Array.getElem?_eq_getElem (inside slot (by simp))
    simp [List.filterMap_append, stands]

variable {κ : Type} [DecidableEq κ] {q : κ → α → Bool} {key : κ}

/-- A table that collects the slots of the entries that belong to a key goes on to do so when the
slot of a new entry is collected under its key. -/
theorem collected_collect_push {table : Table κ (Array Nat)}
    (before : ∀ key, (table.collected key).toList = slotsWhere (q key) entries)
    (belongs : ∀ other, q other entry = true ↔ key = other) (other : κ) :
    ((table.collect key entries.size).collected other).toList =
      slotsWhere (q other) (entries.push entry) := by
  rw [Table.collected_collect]
  by_cases here : key = other
  · rw [if_pos here.symm, Array.toList_push, before,
      slotsWhere_push_of_pos ((belongs other).mpr here)]
  · rw [if_neg (Ne.symm here), before, slotsWhere_push_of_neg (mt (belongs other).mp here)]

/-- A table that holds the last slot of the entries that belong to a key goes on to do so when the
slot of a new entry is put under its key. -/
theorem get?_insert_push {table : Table κ Nat}
    (before : ∀ key, table.get? key = (slotsWhere (q key) entries).getLast?)
    (belongs : ∀ other, q other entry = true ↔ key = other) (other : κ) :
    (table.insert key entries.size).get? other =
      (slotsWhere (q other) (entries.push entry)).getLast? := by
  rw [Table.get?_insert]
  by_cases here : key = other
  · rw [if_pos here.symm, slotsWhere_push_of_pos ((belongs other).mpr here), List.getLast?_concat]
  · rw [if_neg (Ne.symm here), before, slotsWhere_push_of_neg (mt (belongs other).mp here)]

end Slots

namespace BindingIndex

open SyntaxTree

variable {index : BindingIndex}

/-! ## The tables -/

/-- The tables of the index hold what they are for. -/
structure Consistent (index : BindingIndex) : Prop where
  /-- the slots of the declarations of a name -/
  declarationsByName : ∀ name, (index.declarationsByName.collected name).toList =
    slotsWhere (·.name == name) index.declarationEntries
  /-- the slot of the last declaration that names a node -/
  declarationByNode : ∀ id, index.declarationByNode.get? id =
    (slotsWhere (·.node == id) index.declarationEntries).getLast?
  /-- the slots of the uses of a name that refer to a declaration -/
  occurrencesByName : ∀ name, (index.occurrencesByName.collected name).toList =
    slotsWhere (fun occurrence => occurrence.isResolved && occurrence.name == name)
      index.occurrenceEntries
  /-- the slot of the last use that names a node -/
  occurrenceByNode : ∀ id, index.occurrenceByNode.get? id =
    (slotsWhere (·.node == id) index.occurrenceEntries).getLast?
  /-- the slots of the uses of a declaration -/
  usesByDeclaration : ∀ declaration, (index.usesByDeclaration.collected declaration).toList =
    slotsWhere (·.target? == some declaration) index.occurrenceEntries
  /-- the slots of the uses that refer to no declaration -/
  unresolvedSlots : index.unresolvedSlots.toList =
    slotsWhere (!·.isResolved) index.occurrenceEntries
  /-- what the last use that names a node and refers to a declaration refers to -/
  resolved : ∀ id, index.resolved.get? id =
    ((index.occurrences.filter fun occurrence =>
      occurrence.isResolved && occurrence.node == id).getLast?).bind (·.target?)

theorem consistent_empty : empty.Consistent :=
  ⟨fun _ => rfl, fun _ => rfl, fun _ => rfl, fun _ => rfl, fun _ => rfl, rfl, fun _ => rfl⟩

theorem Consistent.addDeclaration (h : index.Consistent) (declaration : Declaration) :
    (index.addDeclaration declaration).Consistent :=
  { h with
    declarationsByName := collected_collect_push h.declarationsByName fun _ => beq_iff_eq
    declarationByNode := get?_insert_push h.declarationByNode fun _ => beq_iff_eq }

theorem Consistent.addOccurrence (h : index.Consistent) (occurrence : Occurrence) :
    (index.addOccurrence occurrence).Consistent := by
  have byNode : ∀ id,
      (index.occurrenceByNode.insert occurrence.node index.occurrenceEntries.size).get? id =
        (slotsWhere (·.node == id) (index.occurrenceEntries.push occurrence)).getLast? :=
    get?_insert_push h.occurrenceByNode fun _ => beq_iff_eq
  rw [BindingIndex.addOccurrence]
  cases target : occurrence.target? with
  | none =>
    have free : occurrence.isResolved = false := by
      rw [occurrence.isResolved_eq, target, Option.isSome_none]
    refine ⟨h.declarationsByName, h.declarationByNode, fun name => ?_, byNode, fun d => ?_, ?_,
      fun id => ?_⟩
    · rw [slotsWhere_push_of_neg (by simp [free])]
      exact h.occurrencesByName name
    · rw [slotsWhere_push_of_neg (by simp [target])]
      exact h.usesByDeclaration d
    · rw [slotsWhere_push_of_pos (by simp [free]), Array.toList_push, h.unresolvedSlots]
    · simpa [occurrences, free] using h.resolved id
  | some declaration =>
    have refers : occurrence.isResolved = true := by
      rw [occurrence.isResolved_eq, target, Option.isSome_some]
    refine ⟨h.declarationsByName, h.declarationByNode,
      collected_collect_push h.occurrencesByName fun name => by simp [refers], byNode,
      collected_collect_push h.usesByDeclaration fun d => by simp [target], ?_, fun id => ?_⟩
    · rw [slotsWhere_push_of_neg (by simp [refers])]
      exact h.unresolvedSlots
    · rw [Table.get?_insert, h.resolved]
      by_cases here : occurrence.node = id
      · simp [occurrences, refers, here, target]
      · simp [occurrences, refers, here, Ne.symm here]

theorem Consistent.enter (h : index.Consistent) (tree : SyntaxTree) (wrapper : String)
    (id : NodeId) : (enter tree wrapper index id).Consistent := by
  unfold BindingIndex.enter
  split
  · exact h.addOccurrence _
  · split
    · exact h.addDeclaration _
    · exact h

/-- The tables of the index of a tree hold what they are for. -/
theorem consistent_ofTree (tree : SyntaxTree) (wrapper : String) :
    (ofTree tree wrapper).Consistent :=
  List.foldlRecOn _ _ consistent_empty fun _ h id _ => h.enter tree wrapper id

/-! ## Answers -/

namespace Consistent

variable (h : index.Consistent)

include h

theorem declarationsNamed (name : String) :
    index.declarationsNamed name = index.declarations.filter (·.name == name) := by
  rw [BindingIndex.declarationsNamed, declarationsAt, h.declarationsByName, filterMap_slotsWhere]
  rfl

theorem declarationAt? (id : NodeId) :
    index.declarationAt? id = (index.declarations.filter (·.node == id)).getLast? := by
  rw [BindingIndex.declarationAt?, h.declarationByNode, getLast?_slotsWhere]
  rfl

theorem occurrencesNamed (name : String) :
    index.occurrencesNamed name = index.occurrences.filter fun occurrence =>
      occurrence.isResolved && occurrence.name == name := by
  rw [BindingIndex.occurrencesNamed, occurrencesAt, h.occurrencesByName, filterMap_slotsWhere]
  rfl

theorem occurrenceAt? (id : NodeId) :
    index.occurrenceAt? id = (index.occurrences.filter (·.node == id)).getLast? := by
  rw [BindingIndex.occurrenceAt?, h.occurrenceByNode, getLast?_slotsWhere]
  rfl

theorem occurrencesOf (declaration : NodeId) :
    index.occurrencesOf declaration =
      index.occurrences.filter (·.target? == some declaration) := by
  rw [BindingIndex.occurrencesOf, occurrencesAt, h.usesByDeclaration, filterMap_slotsWhere]
  rfl

theorem unresolved : index.unresolved = index.occurrences.filter (!·.isResolved) := by
  rw [BindingIndex.unresolved, occurrencesAt, h.unresolvedSlots, filterMap_slotsWhere]
  rfl

/-- What the use at a node refers to depends on the nodes of the uses and on what these refer to. -/
theorem target?_eq (id : NodeId) :
    index.target? id = (((index.occurrences.map fun occurrence =>
      (occurrence.node, occurrence.target?)).filter fun (node, target) =>
        target.isSome && node == id).getLast?).bind (·.2) := by
  rw [target?, h.resolved, List.filter_map, List.getLast?_map, Option.bind_map]
  simp only [Occurrence.isResolved_eq]
  rfl

/-- A declaration is used when it has uses. -/
theorem isUsed_iff (declaration : NodeId) :
    index.isUsed declaration = true ↔ index.occurrencesOf declaration ≠ [] := by
  rw [isUsed, Table.any_get?, Bool.not_eq_true', ← Bool.not_eq_true, Array.isEmpty_iff,
    ← Array.toList_eq_nil_iff, h.usesByDeclaration, slotsWhere_eq_nil_iff, h.occurrencesOf]
  rfl

end Consistent

/-! ## The index of a tree -/

variable {tree : SyntaxTree} {wrapper : String}

theorem declarationOf?_eq_none_of_occurrenceOf? {id : NodeId} {occurrence : Occurrence}
    (made : tree.occurrenceOf? wrapper id = some occurrence) :
    tree.declarationOf? wrapper id = none := by
  obtain ⟨name, is, -⟩ := occurrenceOf?_eq_some_iff.mp made
  rw [declarationOf?, is]

theorem declarations_enter (tree : SyntaxTree) (wrapper : String) (index : BindingIndex)
    (id : NodeId) :
    (enter tree wrapper index id).declarations =
      index.declarations ++ (tree.declarationOf? wrapper id).toList := by
  rw [enter]
  cases used : tree.occurrenceOf? wrapper id with
  | some occurrence =>
    rw [declarationOf?_eq_none_of_occurrenceOf? used, Option.toList_none, List.append_nil]
    simp only [declarations, addOccurrence]
    split <;> rfl
  | none =>
    cases declared : tree.declarationOf? wrapper id with
    | some declaration => simp [declarations, addDeclaration]
    | none => simp

theorem occurrences_enter (tree : SyntaxTree) (wrapper : String) (index : BindingIndex)
    (id : NodeId) :
    (enter tree wrapper index id).occurrences =
      index.occurrences ++ (tree.occurrenceOf? wrapper id).toList := by
  rw [enter]
  cases used : tree.occurrenceOf? wrapper id with
  | some occurrence =>
    simp only [occurrences, addOccurrence]
    split <;> simp
  | none =>
    cases declared : tree.declarationOf? wrapper id with
    | some declaration => simp [occurrences, addDeclaration]
    | none => simp

/-- Entering nodes appends what they declare and use. -/
theorem entries_foldl (tree : SyntaxTree) (wrapper : String) (ids : List NodeId)
    (index : BindingIndex) :
    (ids.foldl (enter tree wrapper) index).declarations =
        index.declarations ++ ids.filterMap (tree.declarationOf? wrapper) ∧
      (ids.foldl (enter tree wrapper) index).occurrences =
        index.occurrences ++ ids.filterMap (tree.occurrenceOf? wrapper) := by
  induction ids generalizing index with
  | nil => simp
  | cons id ids ih =>
    obtain ⟨declared, used⟩ := ih (enter tree wrapper index id)
    rw [List.foldl_cons, declared, used, declarations_enter, occurrences_enter]
    constructor
    · cases here : tree.declarationOf? wrapper id <;> simp [here]
    · cases here : tree.occurrenceOf? wrapper id <;> simp [here]

theorem declarations_ofTree (tree : SyntaxTree) (wrapper : String) :
    (ofTree tree wrapper).declarations =
      tree.documentOrder.filterMap (tree.declarationOf? wrapper) :=
  (entries_foldl tree wrapper tree.documentOrder empty).1

theorem occurrences_ofTree (tree : SyntaxTree) (wrapper : String) :
    (ofTree tree wrapper).occurrences =
      tree.documentOrder.filterMap (tree.occurrenceOf? wrapper) :=
  (entries_foldl tree wrapper tree.documentOrder empty).2

/-- The only declaration of the index that names a node is the one that the node is. -/
theorem filter_declarations_ofTree (h : tree.IsTree) (id : NodeId) :
    (ofTree tree wrapper).declarations.filter (·.node == id) =
      (tree.declarationOf? wrapper id).toList := by
  rw [declarations_ofTree]
  refine filter_filterMap_node (fun _ _ => node_of_declarationOf?) h.nodup_documentOrder
    fun absent => ?_
  rw [h.mem_documentOrder_iff] at absent
  exact declarationOf?_eq_none wrapper (get?_eq_none (Nat.le_of_not_lt absent))

/-- The only use of the index that names a node is the one that the node is. -/
theorem filter_occurrences_ofTree (h : tree.IsTree) (id : NodeId) :
    (ofTree tree wrapper).occurrences.filter (·.node == id) =
      (tree.occurrenceOf? wrapper id).toList := by
  rw [occurrences_ofTree]
  refine filter_filterMap_node (fun _ _ => node_of_occurrenceOf?) h.nodup_documentOrder
    fun absent => ?_
  rw [h.mem_documentOrder_iff] at absent
  exact occurrenceOf?_eq_none wrapper (get?_eq_none (Nat.le_of_not_lt absent))

/-- The index has the declarations of the nodes. -/
theorem declarationAt?_ofTree (h : tree.IsTree) (id : NodeId) :
    (ofTree tree wrapper).declarationAt? id = tree.declarationOf? wrapper id := by
  rw [(consistent_ofTree tree wrapper).declarationAt?, filter_declarations_ofTree h]
  cases tree.declarationOf? wrapper id <;> rfl

/-- The index has the uses of the nodes. -/
theorem occurrenceAt?_ofTree (h : tree.IsTree) (id : NodeId) :
    (ofTree tree wrapper).occurrenceAt? id = tree.occurrenceOf? wrapper id := by
  rw [(consistent_ofTree tree wrapper).occurrenceAt?, filter_occurrences_ofTree h]
  cases tree.occurrenceOf? wrapper id <;> rfl

/-- The index has what the uses of the nodes refer to. -/
theorem target?_ofTree (h : tree.IsTree) (id : NodeId) :
    (ofTree tree wrapper).target? id = (tree.occurrenceOf? wrapper id).bind (·.target?) := by
  rw [target?, (consistent_ofTree tree wrapper).resolved, ← List.filter_filter,
    filter_occurrences_ofTree h]
  cases used : tree.occurrenceOf? wrapper id with
  | none => rfl
  | some occurrence =>
    cases target : occurrence.target? <;> simp [occurrence.isResolved_eq, target]

/-- What a node stands for is the declaration of some node. -/
theorem declarationOf?_of_declarationFor? (h : tree.IsTree) {id : NodeId}
    {declaration : Declaration}
    (found : (ofTree tree wrapper).declarationFor? id = some declaration) :
    tree.declarationOf? wrapper declaration.node = some declaration := by
  rw [declarationFor?, declarationAt?_ofTree h] at found
  rwa [node_of_declarationOf? found]

/-- An occurrence of the index is made from the node it names. -/
theorem occurrenceOf?_of_mem {occurrence : Occurrence}
    (mem : occurrence ∈ (ofTree tree wrapper).occurrences) :
    tree.occurrenceOf? wrapper occurrence.node = some occurrence := by
  rw [occurrences_ofTree] at mem
  obtain ⟨id, -, made⟩ := List.mem_filterMap.mp mem
  rw [node_of_occurrenceOf? made, made]

/-- A declaration of the index is made from the node it names. -/
theorem declarationOf?_of_mem {declaration : Declaration}
    (mem : declaration ∈ (ofTree tree wrapper).declarations) :
    tree.declarationOf? wrapper declaration.node = some declaration := by
  rw [declarations_ofTree] at mem
  obtain ⟨id, -, made⟩ := List.mem_filterMap.mp mem
  rw [node_of_declarationOf? made, made]

theorem mem_occurrences_of {occurrence : Occurrence} {id : NodeId} (h : tree.IsTree)
    (made : tree.occurrenceOf? wrapper id = some occurrence) :
    occurrence ∈ (ofTree tree wrapper).occurrences := by
  rw [occurrences_ofTree]
  refine List.mem_filterMap.mpr ⟨id, ?_, made⟩
  by_contra absent
  rw [h.mem_documentOrder_iff] at absent
  rw [occurrenceOf?_eq_none wrapper (get?_eq_none (Nat.le_of_not_lt absent))] at made
  cases made

end BindingIndex

end LinksBinding
