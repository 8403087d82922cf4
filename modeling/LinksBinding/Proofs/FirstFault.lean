import LinksBinding.Syntax.TreeError

/-!
# The first fault of a tree

Some recursions check a node, then its children one after the other, and end with the first error.
Here what such a recursion ends with is compared with the list of all that is wrong with each node
by itself: it ends with an error exactly if something is wrong with some node
(`fails_iff_hasFault`), and the error is the first one of the first such node in document order
(`eq_error_iff_firstFault`).

Document order is the order of the ways that lead to the nodes: child numbers from the root on, with
the lexicographic order of lists, in which a node comes before what is below it. For a recursion to
end with the first fault takes two equations, one for a node and one for a node with siblings behind
it; they are the premises of `finds_node` and `finds_cons`.
-/

namespace LinksBinding

/-! ## Errors -/

/-- The error that a run ends with, if it does. -/
def errorOf {ε α : Type} : Except ε α → Option ε
  | .error e => some e
  | .ok _ => none

section

variable {ε α β : Type}

@[simp] theorem errorOf_error (e : ε) : errorOf (.error e : Except ε α) = some e := rfl

@[simp] theorem errorOf_ok (result : α) : errorOf (.ok result : Except ε α) = none := rfl

@[simp] theorem errorOf_map (f : α → β) (run : Except ε α) : errorOf (run.map f) = errorOf run := by
  cases run <;> rfl

theorem errorOf_functorMap (f : α → β) (run : Except ε α) : errorOf (f <$> run) = errorOf run :=
  errorOf_map f run

theorem errorOf_eq_some_iff {run : Except ε α} {e : ε} :
    errorOf run = some e ↔ run = .error e := by
  cases run <;> simp

theorem map_eq_ok_iff {f : α → β} {run : Except ε α} {result : β} :
    run.map f = .ok result ↔ ∃ a, run = .ok a ∧ f a = result := by
  cases run <;> simp [Except.map]

theorem functorMap_eq_ok_iff {f : α → β} {run : Except ε α} {result : β} :
    f <$> run = .ok result ↔ ∃ a, run = .ok a ∧ f a = result :=
  map_eq_ok_iff

end

/-- The error if there is a cause for it. -/
def faultIf {ε : Type} (cause : Prop) [Decidable cause] (e : ε) : List ε :=
  if cause then [e] else []

section

variable {ε : Type} {cause : Prop} [Decidable cause] {e other : ε}

@[simp] theorem faultIf_pos (h : cause) : faultIf cause e = [e] := if_pos h

@[simp] theorem faultIf_neg (h : ¬ cause) : faultIf cause e = [] := if_neg h

@[simp] theorem mem_faultIf : other ∈ faultIf cause e ↔ cause ∧ other = e := by
  by_cases h : cause <;> simp [h]

end

/-! ## Searching in document order -/

/-- The outcome of a search for the first place in document order at which there is an error. -/
def Finds (report : List Nat → Option TreeError) : Option TreeError → Prop
  | none => ∀ steps, report steps = none
  | some e => ∃ steps, report steps = some e ∧ ∀ earlier < steps, report earlier = none

/-- An error at the start comes before all others. -/
theorem Finds.start {report : List Nat → Option TreeError} {e : TreeError}
    (h : report [] = some e) : Finds report (some e) :=
  ⟨[], h, fun earlier before => absurd before (List.not_lt_nil earlier)⟩

/-- A report on several trees is one on the first and one on the others. Their own place is none
of the places that are reported on. -/
structure Parts (report first others : List Nat → Option TreeError) : Prop where
  start : report [] = none
  zero : ∀ steps, report (0 :: steps) = first steps
  succ : ∀ step steps, report ((step + 1) :: steps) = others (step :: steps)
  bare : others [] = none

namespace Parts

variable {report first others : List Nat → Option TreeError}

/-- What is found in the first of several trees is found among them. -/
theorem finds_first (parts : Parts report first others) {e : TreeError}
    (h : Finds first (some e)) : Finds report (some e) := by
  obtain ⟨steps, found, least⟩ := h
  refine ⟨0 :: steps, by rw [parts.zero, found], fun earlier before => ?_⟩
  match earlier with
  | [] => exact parts.start
  | 0 :: earlier =>
    rw [parts.zero]
    exact least earlier (by simpa [List.cons_lt_cons_iff] using before)
  | (step + 1) :: earlier => simp [List.cons_lt_cons_iff] at before

/-- If nothing is found in the first of several trees, what is found in the others is found among
them. -/
theorem finds_others (parts : Parts report first others) (empty : Finds first none)
    {o : Option TreeError} (h : Finds others o) : Finds report o := by
  cases o with
  | none =>
    intro steps
    match steps with
    | [] => exact parts.start
    | 0 :: steps => rw [parts.zero, empty]
    | (step + 1) :: steps => rw [parts.succ, h]
  | some e =>
    obtain ⟨steps, found, least⟩ := h
    -- what is found lies in one of the others, so there is a first step to count on
    cases steps with
    | nil =>
      rw [parts.bare] at found
      cases found
    | cons step steps =>
      refine ⟨(step + 1) :: steps, by rw [parts.succ, found], fun earlier before => ?_⟩
      match earlier with
      | [] => exact parts.start
      | 0 :: earlier => rw [parts.zero, empty]
      | (other + 1) :: earlier =>
        rw [parts.succ]
        exact least _ (by simpa [List.cons_lt_cons_iff] using before)

end Parts

/-! ## Faults of nodes -/

/-- Whether an error says of the node at `path` what is wrong there. -/
def TreeError.IsFoundAt (path : NodePath) : TreeError → Prop
  | .invalidJson => False
  | .malformedNode named _ | .invalidSpan named _ | .invalidLabel named _ _
  | .unexpectedChildren named _ => named = path
  | .tooDeep depth => depth = path.length

section

variable {α : Type} (children : α → List α) (faults : NodePath → α → List TreeError)

/-- The node that child numbers lead to, the first step first. -/
def follow? : α → List Nat → Option α
  | node, [] => some node
  | node, step :: steps => (children node)[step]?.bind (follow? · steps)

/-- Some node of a tree has a fault. -/
def HasFault (tree : α) : Prop :=
  ∃ steps node, follow? children tree steps = some node ∧ faults steps.reverse node ≠ []

/-- `e` is the first fault of a node of a tree, it says where that node stands, and no node before
it has a fault. -/
def FirstFault (tree : α) (e : TreeError) : Prop :=
  ∃ steps node, follow? children tree steps = some node ∧
    (faults steps.reverse node).head? = some e ∧ e.IsFoundAt steps.reverse ∧
    ∀ earlier < steps, ∀ other, follow? children tree earlier = some other →
      faults earlier.reverse other = []

/-- The first fault of the node that steps lead to from the node at `path`. -/
def faultBelow? (path : NodePath) (node : α) (steps : List Nat) : Option TreeError :=
  (follow? children node steps).bind fun below => (faults (steps.reverse ++ path) below).head?

/-- The first fault of the node that steps lead to from the node at `path`, of whose children
`nodes` are those from number `position` on. -/
def faultAmong? (path : NodePath) (position : Nat) (nodes : List α) : List Nat → Option TreeError
  | [] => none
  | step :: steps =>
    nodes[step]?.bind fun node => faultBelow? children faults ((position + step) :: path) node steps

variable {children faults}

theorem finds_nil {path : NodePath} {position : Nat} :
    Finds (faultAmong? children faults path position []) none := by
  intro steps
  cases steps <;> rfl

/-- Among several nodes a search finds what it finds below the first, else what it finds among the
others. -/
theorem finds_cons {path : NodePath} {position : Nat} {node : α} {rest : List α}
    {a b : Option TreeError} (first : Finds (faultBelow? children faults (position :: path) node) a)
    (others : Finds (faultAmong? children faults path (position + 1) rest) b) :
    Finds (faultAmong? children faults path position (node :: rest)) (a.or b) := by
  have parts : Parts (faultAmong? children faults path position (node :: rest))
      (faultBelow? children faults (position :: path) node)
      (faultAmong? children faults path (position + 1) rest) := by
    refine ⟨rfl, fun steps => rfl, fun step steps => ?_, rfl⟩
    rw [faultAmong?, faultAmong?, List.getElem?_cons_succ, Nat.add_right_comm, Nat.add_assoc]
  cases a with
  | some e => exact parts.finds_first first
  | none => exact parts.finds_others first others

/-- Below a node a search finds what is wrong with the node, else what is wrong among its
children. -/
theorem finds_node {path : NodePath} {node : α} {o : Option TreeError}
    (below : Finds (faultAmong? children faults path 0 (children node)) o) :
    Finds (faultBelow? children faults path node) ((faults path node).head?.or o) := by
  cases here : (faults path node).head? with
  | some e => exact .start here
  | none =>
    -- nothing is wrong with the node itself, so what is reported is reported of its children
    have same : faultBelow? children faults path node =
        faultAmong? children faults path 0 (children node) := by
      funext steps
      cases steps with
      | nil => exact here
      | cons step steps =>
        simp only [faultBelow?, faultAmong?, follow?, Option.bind_assoc, List.reverse_cons,
          List.append_assoc, List.singleton_append, Nat.zero_add]
    rw [same]
    exact below

theorem faultBelow?_eq_none_iff {tree : α} {steps : List Nat} :
    faultBelow? children faults [] tree steps = none ↔
      ∀ node, follow? children tree steps = some node → faults steps.reverse node = [] := by
  simp only [faultBelow?, Option.bind_eq_none_iff, List.append_nil, List.head?_eq_none_iff]

theorem faultBelow?_eq_some_iff {tree : α} {steps : List Nat} {e : TreeError} :
    faultBelow? children faults [] tree steps = some e ↔
      ∃ node, follow? children tree steps = some node ∧
        (faults steps.reverse node).head? = some e := by
  simp only [faultBelow?, Option.bind_eq_some_iff, List.append_nil]

variable {β : Type} {run : Except TreeError β}

/-- A run that ends with what a search of the whole tree finds ends with the first fault. -/
theorem eq_error_iff_firstFault {tree : α}
    (h : Finds (faultBelow? children faults [] tree) (errorOf run))
    (named : ∀ path node, ∀ e ∈ faults path node, e.IsFoundAt path) (e : TreeError) :
    run = .error e ↔ FirstFault children faults tree e := by
  rw [← errorOf_eq_some_iff]
  constructor
  · intro fails
    rw [fails] at h
    obtain ⟨steps, found, least⟩ := h
    obtain ⟨node, there, head⟩ := faultBelow?_eq_some_iff.mp found
    exact ⟨steps, node, there, head, named _ _ _ (List.mem_of_mem_head? head),
      fun earlier before => faultBelow?_eq_none_iff.mp (least earlier before)⟩
  · rintro ⟨steps, node, there, head, -, least⟩
    have found := faultBelow?_eq_some_iff.mpr ⟨node, there, head⟩
    cases o : errorOf run with
    | none =>
      rw [o] at h
      rw [h steps] at found
      cases found
    | some other =>
      rw [o] at h
      obtain ⟨steps', found', least'⟩ := h
      -- neither place is before the other
      have after : ¬ steps < steps' := by
        intro before
        rw [least' steps before] at found
        cases found
      have after' : ¬ steps' < steps := by
        intro before
        rw [faultBelow?_eq_none_iff.mpr (least steps' before)] at found'
        cases found'
      obtain rfl : steps = steps' := List.le_antisymm after' after
      exact found'.symm.trans found

/-- Such a run ends with an error exactly if some node has a fault. -/
theorem fails_iff_hasFault {tree : α}
    (h : Finds (faultBelow? children faults [] tree) (errorOf run)) :
    (∃ e, run = .error e) ↔ HasFault children faults tree := by
  constructor
  · rintro ⟨e, rfl⟩
    obtain ⟨steps, found, -⟩ := h
    obtain ⟨node, there, head⟩ := faultBelow?_eq_some_iff.mp found
    refine ⟨steps, node, there, fun none => ?_⟩
    rw [none] at head
    cases head
  · rintro ⟨steps, node, there, some⟩
    cases run with
    | error e => exact ⟨e, rfl⟩
    | ok result => exact absurd (faultBelow?_eq_none_iff.mp (h steps) node there) some

end

end LinksBinding
