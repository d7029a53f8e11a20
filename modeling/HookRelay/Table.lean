namespace HookRelay

structure Table (κ α : Type) where
  rows : List (κ × α)
  distinct : (rows.map Prod.fst).Nodup

namespace Table

variable {κ α : Type} [DecidableEq κ]

def empty : Table κ α := ⟨[], .nil⟩

private def findIn (key : κ) : List (κ × α) → Option α
  | [] => none
  | (other, held) :: rest => if other = key then some held else findIn key rest

def find? (table : Table κ α) (key : κ) : Option α := findIn key table.rows

def values (table : Table κ α) : List α := table.rows.map Prod.snd

private def replace (key : κ) (value : α) : List (κ × α) → List (κ × α)
  | [] => [(key, value)]
  | (other, held) :: rest =>
    if other = key then (key, value) :: rest else (other, held) :: replace key value rest

private theorem mem_keys_replace (key other : κ) (value : α) (rows : List (κ × α)) :
    other ∈ (replace key value rows).map Prod.fst ↔ other = key ∨ other ∈ rows.map Prod.fst := by
  induction rows with
  | nil => simp [replace]
  | cons row rest ih =>
    obtain ⟨first, held⟩ := row
    by_cases same : first = key
    · simp [replace, same]
    · simp only [replace, if_neg same, List.map_cons, List.mem_cons, ih]
      constructor
      · rintro (found | found | found) <;> simp [found]
      · rintro (found | found | found) <;> simp [found]

private theorem nodup_replace (key : κ) (value : α) (rows : List (κ × α))
    (distinct : (rows.map Prod.fst).Nodup) : ((replace key value rows).map Prod.fst).Nodup := by
  induction rows with
  | nil => simp [replace]
  | cons row rest ih =>
    obtain ⟨first, held⟩ := row
    rw [List.map_cons, List.nodup_cons] at distinct
    by_cases same : first = key
    · subst same
      simpa [replace, List.nodup_cons] using distinct
    · rw [replace, if_neg same, List.map_cons, List.nodup_cons, mem_keys_replace]
      exact ⟨fun found => found.elim same distinct.1, ih distinct.2⟩

def put (table : Table κ α) (key : κ) (value : α) : Table κ α :=
  ⟨replace key value table.rows, nodup_replace key value table.rows table.distinct⟩

def erase (table : Table κ α) (key : κ) : Table κ α :=
  ⟨table.rows.filter fun row => row.1 ≠ key,
    ((List.filter_sublist.map Prod.fst).nodup table.distinct)⟩

theorem find?_empty (key : κ) : (empty : Table κ α).find? key = none := rfl

theorem find?_put (table : Table κ α) (key other : κ) (value : α) :
    (table.put key value).find? other = if other = key then some value else table.find? other := by
  obtain ⟨rows, distinct⟩ := table
  simp only [find?, put]
  clear distinct
  induction rows with
  | nil => simp only [replace, findIn, eq_comm]
  | cons row rest ih => grind [replace, findIn]

/-- Values that are under their own keys stay so with one more. -/
theorem keyed_put {own : α → κ} (table : Table κ α)
    (keyed : ∀ key value, table.find? key = some value → own value = key) {key : κ} {value : α}
    (mine : own value = key) :
    ∀ other held, (table.put key value).find? other = some held → own held = other := by
  intro other held found
  rw [find?_put] at found
  split at found
  · rename_i same
    cases found
    exact mine.trans same.symm
  · exact keyed other held found

theorem find?_erase (table : Table κ α) (key other : κ) :
    (table.erase key).find? other = if other = key then none else table.find? other := by
  obtain ⟨rows, distinct⟩ := table
  simp only [find?, erase]
  clear distinct
  induction rows with
  | nil => simp [findIn]
  | cons row rest ih => grind [findIn]

private theorem mem_iff_findIn (key : κ) (value : α) (rows : List (κ × α))
    (distinct : (rows.map Prod.fst).Nodup) : (key, value) ∈ rows ↔ findIn key rows = some value := by
  induction rows with
  | nil => simp [findIn]
  | cons row rest ih =>
    obtain ⟨first, held⟩ := row
    rw [List.map_cons, List.nodup_cons] at distinct
    by_cases same : first = key
    · subst same
      have absent : (first, value) ∉ rest := fun found => distinct.1 (List.mem_map.mpr ⟨_, found, rfl⟩)
      simp [findIn, absent, eq_comm]
    · simp [findIn, same, Ne.symm same, ih distinct.2]

/-- The rows are what look-ups find, each once. -/
theorem mem_rows_iff (table : Table κ α) (key : κ) (value : α) :
    (key, value) ∈ table.rows ↔ table.find? key = some value :=
  mem_iff_findIn key value table.rows table.distinct

theorem find?_foldl_put (table : Table κ α) (keys : List κ) (key : κ) (value : α) :
    (keys.foldl (fun table key => table.put key value) table).find? key =
      if key ∈ keys then some value else table.find? key := by
  induction keys generalizing table with
  | nil => simp
  | cons first rest ih =>
    rw [List.foldl_cons, ih, find?_put]
    by_cases later : key ∈ rest
    · simp [later]
    · by_cases same : key = first
      · simp [same]
      · simp [later, same]

end Table

end HookRelay
