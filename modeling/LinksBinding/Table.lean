/-!
# Tables

What stands under a key. A new entry hides the one that was there for its key, so the entries stand
with the latest in front, and the first that is found is the one that counts.
-/

namespace LinksBinding

/-- Values under keys. -/
structure Table (κ α : Type) where
  /-- the entries, the latest first -/
  entries : List (κ × α)
  deriving Repr

namespace Table

variable {κ α : Type}

/-- A table without entries. -/
def empty : Table κ α := ⟨[]⟩

/-- The table with a value under a key in place of the one there. -/
def insert (table : Table κ α) (key : κ) (value : α) : Table κ α := ⟨(key, value) :: table.entries⟩

variable [DecidableEq κ]

/-- The value under a key. -/
def get? (table : Table κ α) (key : κ) : Option α := table.entries.lookup key

/-- The keys, each once. -/
def keys (table : Table κ α) : List κ :=
  table.entries.foldr (fun entry keys => keys.insert entry.1) []

/-- Each key with the value under it. -/
def bindings (table : Table κ α) : List (κ × α) :=
  table.keys.filterMap fun key => (table.get? key).map (key, ·)

/-- The values collected under a key, in the order in which they came. -/
def collected (table : Table κ (Array α)) (key : κ) : Array α := (table.get? key).getD #[]

/-- The table with a further value under a key. -/
def collect (table : Table κ (Array α)) (key : κ) (value : α) : Table κ (Array α) :=
  table.insert key ((table.collected key).push value)

/-- The values of entries, collected under their keys. -/
def grouped {ε : Type} (key : ε → κ) (value : ε → α) (entries : List ε) : Table κ (Array α) :=
  entries.foldl (fun table entry => table.collect (key entry) (value entry)) empty

@[simp] theorem get?_empty (key : κ) : (empty : Table κ α).get? key = none := rfl

@[simp] theorem collected_empty (key : κ) :
    (empty : Table κ (Array α)).collected key = #[] := rfl

theorem get?_insert (table : Table κ α) (key other : κ) (value : α) :
    (table.insert key value).get? other = if other = key then some value else table.get? other := by
  rw [get?, insert, List.lookup_cons]
  by_cases same : other = key
  · simp [same]
  · simp [same, beq_false_of_ne same, get?]

theorem collected_collect (table : Table κ (Array α)) (key other : κ) (value : α) :
    (table.collect key value).collected other =
      if other = key then (table.collected other).push value else table.collected other := by
  rw [collected, collect, get?_insert]
  by_cases same : other = key
  · simp [same]
  · simp [same, collected]

/-- Something is collected under a key exactly if its entry is there and not empty. -/
theorem any_get? (table : Table κ (Array α)) (key : κ) :
    (table.get? key).any (!·.isEmpty) = !(table.collected key).isEmpty := by
  rw [collected]
  cases table.get? key <;> rfl

end Table

end LinksBinding
