import Mathlib.Data.List.Nodup
import LinksBinding.Table

/-!
# Groups in a table

Values that are collected under their keys are grouped. A group has the values of its key in the
order in which they came (`collected_grouped`), and all groups together have every value once
(`perm_flatMap_filter`).
-/

namespace LinksBinding

variable {κ α β : Type} [DecidableEq κ]

namespace Table

theorem mem_keys {table : Table κ α} {key : κ} :
    key ∈ table.keys ↔ (table.get? key).isSome = true := by
  rw [keys, get?]
  induction table.entries with
  | nil => simp
  | cons entry rest ih =>
    rw [List.foldr_cons, List.mem_insert_iff, ih, List.lookup_cons]
    by_cases same : key = entry.1
    · simp [same]
    · simp [same, beq_false_of_ne same]

theorem nodup_keys (table : Table κ α) : table.keys.Nodup := by
  rw [keys]
  induction table.entries with
  | nil => exact List.nodup_nil
  | cons entry rest ih => exact ih.insert

/-- The groups of a table stand under its keys. -/
theorem bindings_eq (table : Table κ (Array α)) :
    table.bindings = table.keys.map fun key => (key, table.collected key) := by
  rw [bindings, ← List.filterMap_eq_map]
  refine List.filterMap_congr fun key mem => ?_
  obtain ⟨values, found⟩ := Option.isSome_iff_exists.mp (mem_keys.mp mem)
  simp [collected, found]

variable {key : α → κ} {value : α → β} {entries : List α}

/-- What is collected under a key are the values of the entries with the key, in their order. -/
theorem collected_grouped (k : κ) :
    ((grouped key value entries).collected k).toList =
      (entries.filter (key · = k)).map value := by
  -- the entries so far stand in front
  suffices ∀ table : Table κ (Array β),
      ((entries.foldl (fun table a => table.collect (key a) (value a)) table).collected k).toList =
        (table.collected k).toList ++ (entries.filter (key · = k)).map value by
    rw [grouped, this, collected_empty, Array.toList_empty, List.nil_append]
  intro table
  induction entries generalizing table with
  | nil => simp
  | cons a rest ih =>
    rw [List.foldl_cons, ih, collected_collect]
    by_cases same : k = key a
    · rw [if_pos same, List.filter_cons_of_pos (by simp [same])]
      simp
    · rw [if_neg same, List.filter_cons_of_neg (by simp [Ne.symm same])]

/-- Each entry has one of the keys. -/
theorem mem_keys_grouped {a : α} (mem : a ∈ entries) :
    key a ∈ (grouped key value entries).keys := by
  rw [mem_keys]
  by_contra absent
  have listed : value a ∈ ((grouped key value entries).collected (key a)).toList := by
    rw [collected_grouped]
    exact List.mem_map_of_mem (List.mem_filter.mpr ⟨mem, by simp⟩)
  rw [collected, Option.not_isSome_iff_eq_none.mp absent] at listed
  cases listed

end Table

/-- The entries of each key, one key after another, are all entries. -/
theorem perm_flatMap_filter {key : α → κ} {keys : List κ} (once : keys.Nodup) {entries : List α}
    (covered : ∀ a ∈ entries, key a ∈ keys) :
    (keys.flatMap fun k => entries.filter (key · = k)).Perm entries := by
  induction keys generalizing entries with
  | nil =>
    rw [List.eq_nil_iff_forall_not_mem.mpr fun a mem => List.not_mem_nil (covered a mem)]
    exact .rfl
  | cons k rest ih =>
    obtain ⟨new, once⟩ := List.nodup_cons.mp once
    -- the entries of the other keys are left when those of the first are taken out
    have others : (rest.flatMap fun k' => entries.filter (key · = k')) = rest.flatMap fun k' =>
        (entries.filter fun a => !decide (key a = k)).filter (key · = k') := by
      refine List.flatMap_congr fun k' mem => ?_
      rw [List.filter_filter]
      refine List.filter_congr fun a _ => ?_
      by_cases own : key a = k'
      · have : k' ≠ k := fun same => new (same ▸ mem)
        simp [own, this]
      · simp [own]
    have covered' : ∀ a ∈ entries.filter fun a => !decide (key a = k), key a ∈ rest := by
      intro a mem
      obtain ⟨mem, other⟩ := List.mem_filter.mp mem
      exact (List.mem_cons.mp (covered a mem)).resolve_left (by simpa using other)
    rw [List.flatMap_cons, others]
    exact ((ih once covered').append_left _).trans (List.filter_append_perm _ entries)

end LinksBinding
