import Mathlib.Data.List.Nodup

/-!
# Tables with a primary key

A table is a list of rows whose keys are pairwise different.  Its statements are
the ones of SQL that keep the key: an update of the rows that pass a test, and an
insertion that is refused when the key is taken.
-/

namespace StarterTemplate.Library

/-- Rows of one type have a primary key. -/
class Keyed (Row : Type) (Key : outParam Type) where
  key : Row → Key

export Keyed (key)

variable {Row Key : Type} [Keyed Row Key]

/-- The assignments of an update statement, which leave the key alone. -/
structure Patch (Row : Type) {Key : Type} [Keyed Row Key] where
  apply : Row → Row
  keeps : ∀ row, key (apply row) = key row

/-- A table: its rows in insertion order, with pairwise different keys. -/
structure Table (Row : Type) {Key : Type} [Keyed Row Key] where
  rows : List Row
  nodup : (rows.map key).Nodup

namespace Table

def empty : Table Row := ⟨[], List.nodup_nil⟩

theorem ext_rows {left right : Table Row} (same : left.rows = right.rows) : left = right := by
  cases left
  cases right
  cases same
  rfl

/-- A key belongs to one row only. -/
theorem eq_of_key_eq (table : Table Row) {left right : Row}
    (leftMember : left ∈ table.rows) (rightMember : right ∈ table.rows)
    (sameKey : key left = key right) : left = right :=
  List.inj_on_of_nodup_map table.nodup leftMember rightMember sameKey

/-! ## Update -/

/-- An update leaves every key where it is. -/
theorem keys_map_patch (rows : List Row) (test : Row → Bool) (patch : Patch Row) :
    (rows.map fun row => if test row then patch.apply row else row).map key = rows.map key := by
  rw [List.map_map]
  apply List.map_congr_left
  intro row _
  simp only [Function.comp_apply]
  split
  · exact patch.keeps row
  · rfl

/-- `UPDATE … SET patch WHERE test`. -/
def updateWhere (table : Table Row) (test : Row → Bool) (patch : Patch Row) :
    Table Row where
  rows := table.rows.map fun row => if test row then patch.apply row else row
  nodup := by
    rw [keys_map_patch]
    exact table.nodup

variable {row : Row} {table : Table Row}

theorem mem_updateWhere {test : Row → Bool} {patch : Patch Row} :
    row ∈ (table.updateWhere test patch).rows ↔
      ∃ old ∈ table.rows, row = if test old then patch.apply old else old := by
  simp only [updateWhere, List.mem_map, eq_comm]

section ByKey

variable [DecidableEq Key]

/-- `UPDATE … SET patch WHERE key = …`. -/
def update (table : Table Row) (target : Key) (patch : Patch Row) : Table Row :=
  table.updateWhere (fun row => key row = target) patch

theorem mem_update {target : Key} {patch : Patch Row} :
    row ∈ (table.update target patch).rows ↔
      ∃ old ∈ table.rows, row = if key old = target then patch.apply old else old := by
  simp only [update, mem_updateWhere, decide_eq_true_eq]

/-! ## Insertion -/

/-- `INSERT`, refused when the key is taken. -/
def insert (table : Table Row) (row : Row) : Option (Table Row) :=
  if fresh : key row ∉ table.rows.map key then
    some
      { rows := table.rows ++ [row]
        nodup := by
          rw [List.map_append, List.map_singleton, List.nodup_append]
          refine ⟨table.nodup, List.nodup_singleton _, ?_⟩
          intro used member other isNew equal
          rw [List.mem_singleton] at isNew
          subst equal isNew
          exact fresh member }
  else none

theorem insert_eq_some {next : Table Row} :
    table.insert row = some next ↔
      key row ∉ table.rows.map key ∧ next.rows = table.rows ++ [row] := by
  cases table with
  | mk rows nodup =>
    cases next with
    | mk nextRows nextNodup =>
      simp only [insert]
      split
      · rename_i fresh
        constructor
        · intro equal
          cases equal
          exact ⟨fresh, rfl⟩
        · intro ⟨_, equal⟩
          cases equal
          rfl
      rename_i taken
      constructor
      · simp
      · intro ⟨fresh, _⟩
        exact absurd fresh taken

/-- Several insertions in one transaction: all of them, or none. -/
def insertAll (table : Table Row) : List Row → Option (Table Row)
  | [] => some table
  | row :: rows =>
    match table.insert row with
    | some next => next.insertAll rows
    | none => none

/-- A successful bulk insertion appends exactly its rows. -/
theorem rows_of_insertAll {next : Table Row} {rows : List Row}
    (inserted : table.insertAll rows = some next) : next.rows = table.rows ++ rows := by
  induction rows generalizing table with
  | nil =>
    cases inserted
    simp
  | cons row rows ih =>
    simp only [insertAll] at inserted
    cases first : table.insert row with
    | none => simp [first] at inserted
    | some middle =>
      rw [first] at inserted
      rw [ih inserted, (insert_eq_some.mp first).2, List.append_assoc]
      rfl

/-! ## Row versions -/

/-- The row with a given key. -/
def find (table : Table Row) (target : Key) : Option Row :=
  table.rows.find? fun row => key row = target

theorem find_eq_some {target : Key} :
    table.find target = some row ↔ row ∈ table.rows ∧ key row = target := by
  constructor
  · intro found
    exact ⟨List.mem_of_find?_eq_some found, by simpa using List.find?_some found⟩
  intro ⟨member, isTarget⟩
  cases found : table.find target with
  | none =>
    rw [find, List.find?_eq_none] at found
    exact absurd (decide_eq_true isTarget) (found row member)
  | some other =>
    have otherTarget : key other = target := by simpa using List.find?_some found
    rw [table.eq_of_key_eq (List.mem_of_find?_eq_some found) member
      (otherTarget.trans isTarget.symm)]

/-- A statement by the key of a stored row finds that key once. -/
theorem keys_filter_key (present : row ∈ table.rows) :
    (table.rows.filter fun other => key other = key row).map key = [key row] := by
  have keys : (table.rows.map key).filter (fun other => other = key row) = [key row] := by
    rw [List.filter_eq (key row),
      List.count_eq_one_of_mem table.nodup (List.mem_map_of_mem present), List.replicate_one]
  rw [List.filter_map] at keys
  exact keys

/-- Store a version of a row: in place of the version with the same key, or at the
end. -/
def put (table : Table Row) (row : Row) : Table Row :=
  if taken : key row ∈ table.rows.map key then
    { rows := table.rows.map fun old => if key old = key row then row else old
      nodup := by
        have sameKeys : (table.rows.map fun old => if key old = key row then row else old).map
            key = table.rows.map key := by
          rw [List.map_map]
          apply List.map_congr_left
          intro old _
          simp only [Function.comp_apply]
          split
          · rename_i equal
            exact equal.symm
          · rfl
        rw [sameKeys]
        exact table.nodup }
  else
    { rows := table.rows ++ [row]
      nodup := by
        rw [List.map_append, List.map_singleton, List.nodup_append]
        refine ⟨table.nodup, List.nodup_singleton _, ?_⟩
        intro used member other isNew equal
        rw [List.mem_singleton] at isNew
        subst equal isNew
        exact taken member }

theorem mem_put {other : Row} :
    other ∈ (table.put row).rows ↔
      other = row ∨ (other ∈ table.rows ∧ key other ≠ key row) := by
  by_cases taken : key row ∈ table.rows.map key
  · rw [put, dif_pos taken]
    constructor
    · intro member
      rcases List.mem_map.mp member with ⟨old, oldMember, equal⟩
      split at equal
      · exact .inl equal.symm
      · rename_i differ
        subst equal
        exact .inr ⟨oldMember, differ⟩
    intro possible
    rcases List.mem_map.mp taken with ⟨old, oldMember, sameKey⟩
    rcases possible with equal | ⟨member, differ⟩
    · exact List.mem_map.mpr ⟨old, oldMember, by rw [if_pos sameKey, equal]⟩
    · exact List.mem_map.mpr ⟨other, member, by rw [if_neg differ]⟩
  rw [put, dif_neg taken]
  constructor
  · intro member
    rcases List.mem_append.mp member with old | new
    · refine .inr ⟨old, ?_⟩
      intro sameKey
      rw [← sameKey] at taken
      exact taken (List.mem_map_of_mem old)
    · exact .inl (List.mem_singleton.mp new)
  intro possible
  rcases possible with equal | ⟨member, _⟩
  · exact List.mem_append_right _ (List.mem_singleton.mpr equal)
  · exact List.mem_append_left _ member

/-- Store the versions of `own` over those of `base`. -/
def overlay (base own : Table Row) : Table Row := own.rows.foldl put base

private theorem mem_foldl_put {base : Table Row} {rows : List Row} (nodup : (rows.map key).Nodup) :
    row ∈ (rows.foldl put base).rows ↔
      row ∈ rows ∨ (row ∈ base.rows ∧ key row ∉ rows.map key) := by
  induction rows generalizing base with
  | nil => simp
  | cons first rest ih =>
    rw [List.map_cons, List.nodup_cons] at nodup
    rw [List.foldl_cons, ih nodup.2, mem_put, List.mem_cons, List.map_cons, List.mem_cons]
    by_cases isFirst : row = first
    · simp [isFirst, nodup.1]
    · simp only [isFirst, false_or, not_or]
      rw [and_assoc]

/-- A row of the overlay is one of the new versions, or an old one that has no new
version. -/
theorem mem_overlay {base own : Table Row} :
    row ∈ (base.overlay own).rows ↔
      row ∈ own.rows ∨ (row ∈ base.rows ∧ key row ∉ own.rows.map key) :=
  mem_foldl_put own.nodup

theorem mem_keys_put {target : Key} :
    target ∈ (table.put row).rows.map key ↔ target = key row ∨ target ∈ table.rows.map key := by
  simp only [List.mem_map, mem_put]
  constructor
  · intro ⟨other, possible, isTarget⟩
    rcases possible with equal | ⟨member, _⟩
    · exact .inl (by rw [← isTarget, equal])
    · exact .inr ⟨other, member, isTarget⟩
  intro possible
  by_cases isRow : target = key row
  · exact ⟨row, .inl rfl, isRow.symm⟩
  · rcases possible.resolve_left isRow with ⟨other, member, isTarget⟩
    exact ⟨other, .inr ⟨member, by rw [isTarget]; exact isRow⟩, isTarget⟩

/-- A further version in the overlay replaces the one with its key. -/
theorem mem_overlay_put {base own : Table Row} {other : Row} :
    other ∈ (base.overlay (own.put row)).rows ↔
      other = row ∨ (other ∈ (base.overlay own).rows ∧ key other ≠ key row) := by
  rw [mem_overlay, mem_overlay, mem_put, mem_keys_put]
  by_cases isRow : other = row
  · simp [isRow]
  · by_cases sameKey : key other = key row
    · simp [isRow, sameKey]
    · simp [isRow, sameKey]

/-- Delete the rows with the given keys. -/
def without (table : Table Row) (keys : List Key) : Table Row where
  rows := table.rows.filter fun row => key row ∉ keys
  nodup := table.nodup.sublist (List.filter_sublist.map _)

/-- The deletion of the rows that pass a test leaves the others. -/
theorem rows_without_filter (table : Table Row) (test : Row → Bool) :
    (table.without ((table.rows.filter test).map key)).rows =
      table.rows.filter fun row => !test row := by
  apply List.filter_congr
  intro row member
  have passes : key row ∈ (table.rows.filter test).map key ↔ test row = true := by
    constructor
    · intro doomed
      rcases List.mem_map.mp doomed with ⟨other, isOther, sameKey⟩
      rw [List.mem_filter] at isOther
      rw [← table.eq_of_key_eq isOther.1 member sameKey]
      exact isOther.2
    · intro passes
      exact List.mem_map_of_mem (List.mem_filter.mpr ⟨member, passes⟩)
  by_cases isDoomed : key row ∈ (table.rows.filter test).map key
  · rw [decide_eq_false (not_not_intro isDoomed), passes.mp isDoomed]
    rfl
  · rw [decide_eq_true isDoomed, Bool.eq_false_iff.mpr (isDoomed ∘ passes.mpr)]
    rfl

theorem mem_without {keys : List Key} :
    row ∈ (table.without keys).rows ↔ row ∈ table.rows ∧ key row ∉ keys := by
  simp [without]

end ByKey

@[simp] theorem rows_empty : (empty : Table Row).rows = [] := rfl

end Table

end StarterTemplate.Library
