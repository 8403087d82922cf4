import Mathlib.Data.List.Basic
import LinksBinding.Position
import LinksBinding.Runs

/-!
# Ranges in order, each once

Whatever an editor is told of several ranges comes by start and then by end, and what stands on one
range twice comes once. It is sorted by its ranges, and of each run of entries on one range the
first is kept.

What is left of a sorted list ascends strictly (`pairwise_firstOfRuns`), and of the entries on a
range it has the first (`mem_firstOfRuns_iff`). Sorting commutes with leaving out
(`filter_mergeSort_eq`), so it does not move entries on one range past each other, and the first of
them in the sorted list is the first in the list before (`find?_mergeSort`).
-/

namespace LinksBinding

namespace Position

theorem eq_iff (p q : Position) :
    p = q ↔ p.line.toNat = q.line.toNat ∧ p.character.toNat = q.character.toNat := by
  obtain ⟨line, character⟩ := p
  obtain ⟨line', character'⟩ := q
  rw [mk.injEq, UInt32.toNat_inj, UInt32.toNat_inj]

end Position

namespace Range

theorem eq_iff (a b : Range) : a = b ↔ a.start = b.start ∧ a.stop = b.stop := by
  obtain ⟨start, stop⟩ := a
  obtain ⟨start', stop'⟩ := b
  rw [mk.injEq]

/-- One range comes before another: by start, then by end. -/
def Precedes (a b : Range) : Prop :=
  a.start < b.start ∨ a.start = b.start ∧ a.stop < b.stop

theorem precedesOrEquals_iff (a b : Range) : a.precedesOrEquals b = true ↔
    a.start < b.start ∨ a.start = b.start ∧ a.stop ≤ b.stop := by
  simp only [precedesOrEquals, Bool.or_eq_true, Bool.and_eq_true, decide_eq_true_eq, beq_iff_eq]

theorem precedesOrEquals_total (a b : Range) :
    (a.precedesOrEquals b || b.precedesOrEquals a) = true := by
  simp only [Bool.or_eq_true, precedesOrEquals_iff, Position.lt_iff, Position.le_iff,
    Position.eq_iff]
  omega

theorem precedesOrEquals_refl (a : Range) : a.precedesOrEquals a = true := by
  simpa using a.precedesOrEquals_total a

theorem precedesOrEquals_trans (a b c : Range) (ab : a.precedesOrEquals b = true)
    (bc : b.precedesOrEquals c = true) : a.precedesOrEquals c = true := by
  simp only [precedesOrEquals_iff, Position.lt_iff, Position.le_iff, Position.eq_iff] at ab bc ⊢
  omega

/-- Ranges that are in order and differ are strictly in order. -/
theorem precedes_iff (a b : Range) : a.Precedes b ↔ a.precedesOrEquals b = true ∧ a ≠ b := by
  simp only [Precedes, precedesOrEquals_iff, ne_eq, eq_iff, Position.lt_iff, Position.le_iff,
    Position.eq_iff]
  omega

theorem Precedes.trans_le {a b c : Range} (ab : a.Precedes b)
    (bc : b.precedesOrEquals c = true) : a.Precedes c := by
  simp only [Precedes, precedesOrEquals_iff, Position.lt_iff, Position.le_iff,
    Position.eq_iff] at ab bc ⊢
  omega

/-- Two ranges that neither overlap nor touch. -/
def Apart (a b : Range) : Prop := a.stop < b.start ∨ b.stop < a.start

instance (a b : Range) : Decidable (a.Apart b) :=
  inferInstanceAs (Decidable (a.stop < b.start ∨ b.stop < a.start))

/-- No position is on both of two ranges that are apart. -/
theorem Apart.not_contains {a b : Range} (apart : a.Apart b) {position : Position}
    (on : a.contains position = true) : b.contains position = false := by
  rw [← Bool.not_eq_true]
  intro on'
  simp only [Apart, contains, Bool.and_eq_true, decide_eq_true_eq, Position.lt_iff,
    Position.le_iff] at apart on on'
  omega

theorem start_le_stop_onLine (line character length : Coordinate) :
    (onLine line character length).start ≤ (onLine line character length).stop := by
  have bound := character.toNat_lt
  have stop : (character.satAdd length).toNat = _ := Coordinate.toNat_satAdd character length
  refine (Position.le_iff _ _).mpr (.inr ⟨rfl, ?_⟩)
  simp only [onLine, stop]
  omega

/-- A stretch of a line has its start on it. -/
theorem contains_start_onLine (line character length : Coordinate) :
    (onLine line character length).contains (onLine line character length).start = true := by
  rw [contains, Bool.and_eq_true, decide_eq_true_eq, decide_eq_true_eq]
  exact ⟨(Position.le_iff _ _).mpr (.inr ⟨rfl, Nat.le_refl _⟩), start_le_stop_onLine ..⟩

end Range

/-! ## Leaving out of a sorted list -/

section

variable {α : Type} {le : α → α → Bool}

/-- An element is sorted in behind what must come before it and in front of all the rest. -/
theorem mergeSort_cons_eq (trans : ∀ a b c, le a b = true → le b c = true → le a c = true)
    (total : ∀ a b, (le a b || le b a) = true) (a : α) (l : List α) :
    (a :: l).mergeSort le =
      (l.mergeSort le).filter (fun b => !le a b) ++ a :: (l.mergeSort le).filter (le a ·) := by
  obtain ⟨before, after, sorted, without, less⟩ := List.mergeSort_cons trans total a l
  have ascending := List.pairwise_mergeSort trans total (a :: l)
  rw [sorted, List.pairwise_append] at ascending
  have above : ∀ b ∈ after, le a b = true := (List.pairwise_cons.mp ascending.2.1).1
  have below : ∀ b ∈ before, ¬ le a b = true := fun b mem => by simpa using less b mem
  have noneBehind : after.filter (fun b => !le a b) = [] :=
    List.filter_eq_nil_iff.mpr fun b mem => by simp [above b mem]
  rw [sorted, without, List.filter_append, List.filter_append, List.filter_eq_self.mpr less,
    noneBehind, List.filter_eq_nil_iff.mpr below, List.filter_eq_self.mpr above, List.append_nil,
    List.nil_append]

/-- Sorting commutes with leaving out. -/
theorem filter_mergeSort_eq (trans : ∀ a b c, le a b = true → le b c = true → le a c = true)
    (total : ∀ a b, (le a b || le b a) = true) (p : α → Bool) (l : List α) :
    (l.mergeSort le).filter p = (l.filter p).mergeSort le := by
  induction l with
  | nil => simp
  | cons a rest ih =>
    by_cases kept : p a = true
    · rw [List.filter_cons_of_pos kept, mergeSort_cons_eq trans total, mergeSort_cons_eq trans total,
        List.filter_append, List.filter_cons_of_pos kept, List.filter_comm, ih, List.filter_comm, ih]
    · -- an element that is left out may be sorted in anywhere
      obtain ⟨before, after, sorted, without, -⟩ := List.mergeSort_cons trans total a rest
      rw [List.filter_cons_of_neg kept, ← ih, sorted, without, List.filter_append,
        List.filter_cons_of_neg kept, ← List.filter_append]

end

/-! ## Sorting by ranges -/

section Sorted

variable {α : Type} (range : α → Range)

/-- Entries are sorted when their ranges ascend. -/
def SortedBy (entries : List α) : Prop :=
  entries.Pairwise fun a b => (range a).precedesOrEquals (range b) = true

theorem sortedBy_mergeSort (entries : List α) :
    SortedBy range (entries.mergeSort fun a b => (range a).precedesOrEquals (range b)) :=
  List.pairwise_mergeSort (fun a b c => Range.precedesOrEquals_trans (range a) (range b) (range c))
    (fun a b => Range.precedesOrEquals_total (range a) (range b)) entries

/-- Sorting leaves the entries on a range in their order. -/
theorem filter_mergeSort (entries : List α) (place : Range) :
    (entries.mergeSort fun a b => (range a).precedesOrEquals (range b)).filter
      (range · == place) = entries.filter (range · == place) := by
  have level : SortedBy range (entries.filter (range · == place)) := by
    refine List.pairwise_of_forall_mem_list fun a mem b mem' => ?_
    rw [eq_of_beq (List.mem_filter.mp mem).2, eq_of_beq (List.mem_filter.mp mem').2]
    exact place.precedesOrEquals_refl
  rw [filter_mergeSort_eq
    (fun a b c => Range.precedesOrEquals_trans (range a) (range b) (range c))
    (fun a b => Range.precedesOrEquals_total (range a) (range b))]
  exact List.mergeSort_of_pairwise level

/-- Of the entries on a range, the first stays the first. -/
theorem find?_mergeSort (entries : List α) (place : Range) :
    (entries.mergeSort fun a b => (range a).precedesOrEquals (range b)).find?
      (range · == place) = entries.find? (range · == place) := by
  rw [← List.head?_filter, filter_mergeSort, List.head?_filter]

/-! ## Keeping the first of a run -/

variable {range}

theorem pairwise_firstOfRunsAfter {previous : α} {entries : List α}
    (sorted : SortedBy range (previous :: entries)) :
    (previous :: firstOfRunsAfter (fun a b => range a == range b) previous entries).Pairwise
      fun a b => (range a).Precedes (range b) := by
  induction entries generalizing previous with
  | nil => exact List.pairwise_singleton _ _
  | cons a rest ih =>
    obtain ⟨first, behind⟩ := List.pairwise_cons.mp sorted
    rw [firstOfRunsAfter]
    split
    · refine ih (sorted.sublist ?_)
      exact (List.sublist_cons_self a rest).cons_cons previous
    · rename_i differ
      have before : (range previous).Precedes (range a) :=
        (Range.precedes_iff _ _).mpr ⟨first a List.mem_cons_self, by simpa using differ⟩
      refine List.pairwise_cons.mpr ⟨fun b mem => ?_, ih behind⟩
      rcases List.mem_cons.mp mem with rfl | mem
      · exact before
      · exact before.trans_le
          ((List.pairwise_cons.mp behind).1 b ((firstOfRunsAfter_sublist _ _ _).mem mem))

/-- What is left of a sorted list ascends strictly. -/
theorem pairwise_firstOfRuns {entries : List α} (sorted : SortedBy range entries) :
    (firstOfRuns (fun a b => range a == range b) entries).Pairwise
      fun a b => (range a).Precedes (range b) := by
  cases entries with
  | nil => exact .nil
  | cons a rest => exact pairwise_firstOfRunsAfter sorted

theorem mem_firstOfRunsAfter_iff {previous : α} {entries : List α}
    (sorted : SortedBy range (previous :: entries)) {a : α} :
    a ∈ previous :: firstOfRunsAfter (fun a b => range a == range b) previous entries ↔
      (previous :: entries).find? (range · == range a) = some a := by
  induction entries generalizing previous with
  | nil =>
    rw [firstOfRunsAfter, List.mem_singleton]
    by_cases same : range previous = range a
    · rw [List.find?_cons_of_pos (by simpa using same), Option.some_inj, eq_comm]
    · rw [List.find?_cons_of_neg (by simpa using same), List.find?_nil]
      have other : a ≠ previous := fun h => same (h ▸ rfl)
      simp [other]
  | cons b rest ih =>
    obtain ⟨first, behind⟩ := List.pairwise_cons.mp sorted
    have ahead := pairwise_firstOfRunsAfter sorted
    rw [firstOfRunsAfter] at ahead ⊢
    by_cases level : range previous = range b
    · -- the entry is passed over, and it is not what is looked for unless `previous` is
      have shorter : SortedBy range (previous :: rest) :=
        sorted.sublist ((List.sublist_cons_self b rest).cons_cons previous)
      rw [if_pos (beq_iff_eq.mpr level), ih shorter]
      simp only [List.find?_cons, level]
      cases range b == range a <;> rfl
    · rw [if_neg (by simpa using level)] at ahead ⊢
      rw [List.mem_cons, ih behind]
      by_cases same : range previous = range a
      · -- everything behind is on a later range
        have found : (previous :: b :: rest).find? (range · == range a) = some previous :=
          List.find?_cons_of_pos (by simpa using same)
        rw [found, Option.some_inj, or_iff_left, eq_comm]
        intro again
        have later := (List.pairwise_cons.mp ahead).1 a ((ih behind).mpr again)
        exact ((Range.precedes_iff _ _).mp later).2 same
      · have found : (previous :: b :: rest).find? (range · == range a) =
            (b :: rest).find? (range · == range a) :=
          List.find?_cons_of_neg (by simpa using same)
        have other : a ≠ previous := fun h => same (h ▸ rfl)
        rw [found, or_iff_right other]

/-- Of the entries on a range, the first of a sorted list is left. -/
theorem mem_firstOfRuns_iff {entries : List α} (sorted : SortedBy range entries) {a : α} :
    a ∈ firstOfRuns (fun a b => range a == range b) entries ↔
      entries.find? (range · == range a) = some a := by
  cases entries with
  | nil => simp [firstOfRuns]
  | cons b rest => exact mem_firstOfRunsAfter_iff sorted

/-- Every range is left. -/
theorem exists_mem_firstOfRuns_iff {entries : List α} (sorted : SortedBy range entries)
    (place : Range) :
    (∃ a ∈ firstOfRuns (fun a b => range a == range b) entries, range a = place) ↔
      ∃ a ∈ entries, range a = place := by
  constructor
  · rintro ⟨a, mem, rfl⟩
    exact ⟨a, (firstOfRuns_sublist _ _).mem mem, rfl⟩
  · rintro ⟨a, mem, rfl⟩
    have there : (entries.find? fun b => range b == range a).isSome = true :=
      List.find?_isSome.mpr ⟨a, mem, beq_self_eq_true (range a)⟩
    obtain ⟨first, found⟩ := Option.isSome_iff_exists.mp there
    have same : range first = range a :=
      eq_of_beq (List.find?_some (p := fun b => range b == range a) found)
    exact ⟨first, (mem_firstOfRuns_iff sorted).mpr (same ▸ found), same⟩

end Sorted

end LinksBinding
