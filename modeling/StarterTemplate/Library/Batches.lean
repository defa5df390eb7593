import Mathlib.Data.List.Perm.Basic
import Mathlib.Data.List.Sort
import Mathlib.Logic.Function.Iterate
import StarterTemplate.Library.Table

/-!
# Deletion in batches

A bounded `DELETE` removes the first rows, in some order, of those that are eligible.
A sweep repeats it until a batch is empty.  A sweep may be cut short by a batch that raises;
whatever the batches before it deleted, the rows that are not eligible are all there, so that
another sweep gets to the same end.
-/

namespace StarterTemplate.Library

/-- How a transaction ends: it returns, it raises and nothing of it is stored, or it raises
although it is stored. -/
inductive TransactionEnd where
  | returned
  | rolledBack
  | lost

/-- How a sweep ends: with the total count and the number of transactions so far, with the
exception of a batch, or without an empty batch within the fuel. -/
inductive SweepEnd where
  | swept (total transactions : Nat)
  | raised
  | outOfFuel
  deriving DecidableEq

variable {Row Key : Type} [Keyed Row Key] [DecidableEq Key]

namespace Table

/-- `DELETE … WHERE key IN (SELECT … WHERE eligible ORDER BY … LIMIT limit)`: the table
after it and the row count.  A limit that is not positive deletes nothing. -/
def deleteBatch (table : Table Row) (eligible : Row → Bool) (before : Row → Row → Prop)
    [DecidableRel before] (limit : Int) : Table Row × Nat :=
  if limit ≤ 0 then (table, 0)
  else
    let batch := ((table.rows.filter eligible).insertionSort before).take limit.toNat
    (table.without (batch.map key), batch.length)

/-- Delete batches until one is empty, with at most `fuel` batches: the table and the
total count. -/
def drain (deleteOneBatch : Table Row → Table Row × Nat) : Nat → Table Row → Table Row × Nat
  | 0, table => (table, 0)
  | fuel + 1, table =>
    let (next, deleted) := deleteOneBatch table
    if deleted = 0 then (next, 0)
    else
      let (final, total) := drain deleteOneBatch fuel next
      (final, deleted + total)

variable {table : Table Row} {eligible : Row → Bool} {before : Row → Row → Prop}
variable [DecidableRel before] {limit : Int} {row : Row}

/-- A batch leaves rows of the table. -/
theorem mem_of_mem_deleteBatch (kept : row ∈ (table.deleteBatch eligible before limit).1.rows) :
    row ∈ table.rows := by
  rw [deleteBatch] at kept
  split at kept
  · exact kept
  · exact (mem_without.mp kept).1

/-- A batch deletes eligible rows only. -/
theorem mem_deleteBatch_of_not_eligible (member : row ∈ table.rows)
    (notEligible : eligible row = false) :
    row ∈ (table.deleteBatch eligible before limit).1.rows := by
  rw [deleteBatch]
  split
  · exact member
  rw [mem_without]
  refine ⟨member, ?_⟩
  intro doomed
  rcases List.mem_map.mp doomed with ⟨other, inBatch, sameKey⟩
  have sorted := List.mem_of_mem_take inBatch
  rw [List.mem_insertionSort, List.mem_filter] at sorted
  rw [table.eq_of_key_eq sorted.1 member sameKey, notEligible] at sorted
  exact Bool.false_ne_true sorted.2

omit [DecidableEq Key] in
/-! ## One batch -/

/-- The rows that a batch deletes. -/
def batchOf (table : Table Row) (eligible : Row → Bool) (before : Row → Row → Prop)
    [DecidableRel before] (limit : Int) : List Row :=
  ((table.rows.filter eligible).insertionSort before).take limit.toNat

theorem deleteBatch_of_pos (positive : 0 < limit) :
    table.deleteBatch eligible before limit =
      (table.without ((table.batchOf eligible before limit).map key),
        (table.batchOf eligible before limit).length) :=
  if_neg (not_le.mpr positive)

omit [DecidableEq Key] in
theorem mem_of_mem_batchOf (inBatch : row ∈ table.batchOf eligible before limit) :
    row ∈ table.rows ∧ eligible row = true := by
  have sorted := List.mem_of_mem_take inBatch
  rwa [List.mem_insertionSort, List.mem_filter] at sorted

omit [DecidableEq Key] in
theorem length_batchOf_le (positive : 0 < limit) :
    ((table.batchOf eligible before limit).length : Int) ≤ limit := by
  have bounded := List.length_take_le limit.toNat
    ((table.rows.filter eligible).insertionSort before)
  rw [batchOf]
  omega

omit [DecidableEq Key] in
/-- A batch with room is empty only when nothing is eligible. -/
theorem filter_of_batchOf_nil (positive : 0 < limit)
    (isEmpty : table.batchOf eligible before limit = []) : table.rows.filter eligible = [] := by
  rw [batchOf, List.take_eq_nil_iff] at isEmpty
  rcases isEmpty with noRoom | noRow
  · omega
  · rw [← List.length_eq_zero_iff, ← List.length_insertionSort before, noRow, List.length_nil]

/-- The rows with the keys of the batch are those of the batch. -/
theorem filter_batchOf_perm :
    (table.rows.filter fun row => key row ∈ (table.batchOf eligible before limit).map key).Perm
      (table.batchOf eligible before limit) := by
  have distinctRows : table.rows.Nodup := List.Nodup.of_map _ table.nodup
  have sortedNodup : ((table.rows.filter eligible).insertionSort before).Nodup :=
    (List.perm_insertionSort before _).nodup_iff.mpr (distinctRows.filter _)
  apply (List.perm_ext_iff_of_nodup (distinctRows.filter _)
    (sortedNodup.sublist (List.take_sublist _ _))).mpr
  intro row
  rw [List.mem_filter, decide_eq_true_eq]
  constructor
  · intro ⟨isRow, inBatch⟩
    rcases List.mem_map.mp inBatch with ⟨other, isOther, sameKey⟩
    rw [← table.eq_of_key_eq (mem_of_mem_batchOf isOther).1 isRow sameKey]
    exact isOther
  · intro inBatch
    exact ⟨(mem_of_mem_batchOf inBatch).1, List.mem_map_of_mem inBatch⟩

/-- A batch leaves what is not eligible. -/
theorem filter_deleteBatch : (table.deleteBatch eligible before limit).1.rows.filter
    (fun row => !eligible row) = table.rows.filter fun row => !eligible row := by
  rcases lt_or_ge 0 limit with positive | notPositive
  · rw [deleteBatch_of_pos positive]
    simp only [without, List.filter_filter]
    apply List.filter_congr
    intro row isRow
    cases isEligible : eligible row with
    | true => rfl
    | false =>
      have spared : key row ∉ (table.batchOf eligible before limit).map key := by
        intro inBatch
        rcases List.mem_map.mp inBatch with ⟨other, isOther, sameKey⟩
        have found := mem_of_mem_batchOf isOther
        rw [table.eq_of_key_eq found.1 isRow sameKey, isEligible] at found
        exact Bool.false_ne_true found.2
      simpa using spared
  · rw [deleteBatch, if_pos notPositive]

/-- The eligible rows are those of the batch and those that it leaves. -/
theorem length_filter_deleteBatch (positive : 0 < limit) :
    (table.rows.filter eligible).length = (table.batchOf eligible before limit).length +
      ((table.deleteBatch eligible before limit).1.rows.filter eligible).length := by
  have parts := List.length_eq_length_filter_add (l := table.rows.filter eligible)
    fun row => decide (key row ∈ (table.batchOf eligible before limit).map key)
  have isBatch : (table.rows.filter eligible).filter
      (fun row => decide (key row ∈ (table.batchOf eligible before limit).map key)) =
      table.rows.filter fun row => key row ∈ (table.batchOf eligible before limit).map key := by
    rw [List.filter_filter]
    apply List.filter_congr
    intro row isRow
    by_cases inBatch : key row ∈ (table.batchOf eligible before limit).map key
    · rcases List.mem_map.mp inBatch with ⟨other, isOther, sameKey⟩
      have found := mem_of_mem_batchOf isOther
      rw [table.eq_of_key_eq found.1 isRow sameKey] at found
      simp [inBatch, found.2]
    · simp [inBatch]
  rw [parts, isBatch, filter_batchOf_perm.length_eq, deleteBatch_of_pos positive]
  simp only [without, List.filter_filter, Bool.and_comm, decide_not]

/-- A batch deletes as many rows as it counts. -/
theorem length_deleteBatch (positive : 0 < limit) :
    (table.deleteBatch eligible before limit).1.rows.length +
      (table.deleteBatch eligible before limit).2 = table.rows.length := by
  have count := @length_filter_deleteBatch _ _ _ _ table eligible before _ limit positive
  have isBatch := @deleteBatch_of_pos _ _ _ _ table eligible before _ limit positive
  have all := List.length_eq_length_filter_add (l := table.rows) eligible
  have rest := List.length_eq_length_filter_add
    (l := (table.deleteBatch eligible before limit).1.rows) eligible
  rw [filter_deleteBatch] at rest
  have isCount : (table.deleteBatch eligible before limit).2 =
      (table.batchOf eligible before limit).length := by rw [isBatch]
  omega

theorem deleteBatch_le (positive : 0 < limit) :
    ((table.deleteBatch eligible before limit).2 : Int) ≤ limit := by
  rw [deleteBatch_of_pos positive]
  exact length_batchOf_le positive

/-! ## Sweeps that may be cut short -/

variable {ends : Nat → TransactionEnd} {fuel : Nat}

/-- Delete batches until one is empty or raises, with at most `fuel` batches. -/
def drainFailing (deleteOneBatch : Table Row → Table Row × Nat) (ends : Nat → TransactionEnd) :
    (fuel transactions : Nat) → Table Row → Table Row × SweepEnd
  | 0, _, table => (table, .outOfFuel)
  | fuel + 1, transactions, table =>
    match ends transactions with
    | .rolledBack => (table, .raised)
    | .lost => ((deleteOneBatch table).1, .raised)
    | .returned =>
      let (next, deleted) := deleteOneBatch table
      if deleted = 0 then (next, .swept 0 (transactions + 1))
      else
        match drainFailing deleteOneBatch ends fuel (transactions + 1) next with
        | (final, .swept total last) => (final, .swept (deleted + total) last)
        | (final, other) => (final, other)

/-- However a sweep ends, it leaves what is not eligible. -/
theorem filter_drainFailing (transactions : Nat) (table : Table Row) :
    (drainFailing (fun current => current.deleteBatch eligible before limit) ends fuel transactions
      table).1.rows.filter (fun row => !eligible row) =
        table.rows.filter fun row => !eligible row := by
  induction fuel generalizing transactions table with
  | zero => rfl
  | succ fuel ih =>
    rw [drainFailing]
    cases ends transactions with
    | rolledBack => rfl
    | lost => exact filter_deleteBatch
    | returned =>
      simp only
      split
      · exact filter_deleteBatch
      have rest := ih (transactions + 1) (table.deleteBatch eligible before limit).1
      rw [filter_deleteBatch] at rest
      rw [← rest]
      split
      · rename_i isRest
        rw [isRest]
      · rename_i isRest
        rw [isRest]

/-- A sweep that is not cut short leaves exactly what is not eligible, and counts the rest. -/
theorem drainFailing_swept (positive : 0 < limit) {transactions total last : Nat}
    {table final : Table Row}
    (isEnd : drainFailing (fun current => current.deleteBatch eligible before limit) ends fuel
      transactions table = (final, .swept total last)) :
    final.rows = table.rows.filter (fun row => !eligible row) ∧
      total = (table.rows.filter eligible).length := by
  induction fuel generalizing transactions table total with
  | zero => cases isEnd
  | succ fuel ih =>
    rw [drainFailing] at isEnd
    cases isReturned : ends transactions with
    | rolledBack | lost =>
      simp [isReturned] at isEnd
    | returned =>
      rw [isReturned] at isEnd
      have isBatch := @deleteBatch_of_pos _ _ _ _ table eligible before _ limit positive
      have count := @length_filter_deleteBatch _ _ _ _ table eligible before _ limit positive
      simp only at isEnd
      split at isEnd
      · rename_i isEmpty
        rw [isBatch] at isEmpty
        have noBatch := List.length_eq_zero_iff.mp isEmpty
        have noneEligible := filter_of_batchOf_nil positive noBatch
        cases isEnd
        rw [isBatch, noBatch, noneEligible]
        refine ⟨?_, rfl⟩
        apply List.filter_congr
        intro row isRow
        simpa using (List.filter_eq_nil_iff.mp noneEligible row isRow)
      split at isEnd
      · rename_i rest isRest
        cases isEnd
        rcases ih isRest with ⟨isFinal, isTotal⟩
        rw [isFinal, filter_deleteBatch, count, isTotal, isBatch]
        exact ⟨rfl, rfl⟩
      · rename_i notSwept isRest
        cases isEnd
        exact absurd rfl (notSwept _ _)

section

variable (positive : 0 < limit) (returns : ∀ count, ends count = .returned) (transactions : Nat)
include positive returns transactions

/-- A sweep without exceptions ends: a batch that is not empty makes the table smaller. -/
theorem drainFailing_ends (table : Table Row) (enough : (table.rows.filter eligible).length < fuel) :
    ∃ final total last, drainFailing (fun current => current.deleteBatch eligible before limit) ends
      fuel transactions table = (final, .swept total last) := by
  induction fuel generalizing transactions table with
  | zero => cases enough
  | succ fuel ih =>
    have isBatch := @deleteBatch_of_pos _ _ _ _ table eligible before _ limit positive
    have count := @length_filter_deleteBatch _ _ _ _ table eligible before _ limit positive
    rw [drainFailing, returns]
    simp only
    split
    · exact ⟨_, _, _, rfl⟩
    rename_i filled
    rw [isBatch] at filled
    rcases ih (transactions + 1) (table.deleteBatch eligible before limit).1 (by omega) with
      ⟨final, total, last, isRest⟩
    rw [isRest]
    exact ⟨_, _, _, rfl⟩

/-- What a sweep without exceptions leaves and counts. -/
theorem drainFailing_complete {table : Table Row} (enough : table.rows.length < fuel) :
    ∃ final last, drainFailing (fun current => current.deleteBatch eligible before limit) ends fuel
        transactions table = (final, .swept (table.rows.filter eligible).length last) ∧
      final.rows = table.rows.filter fun row => !eligible row := by
  have enoughEligible : (table.rows.filter eligible).length < fuel :=
    Nat.lt_of_le_of_lt (List.length_filter_le _ _) enough
  rcases @drainFailing_ends _ _ _ _ eligible before _ limit ends fuel positive returns transactions
    table enoughEligible with ⟨final, total, last, isEnd⟩
  rcases drainFailing_swept positive isEnd with ⟨isFinal, isTotal⟩
  exact ⟨final, last, isTotal ▸ isEnd, isFinal⟩

end

omit [DecidableEq Key] in
/-- A sweep that no batch cuts short is the plain one. -/
theorem drainFailing_eq_drain {deleteOneBatch : Table Row → Table Row × Nat}
    {transactions total last : Nat} {table final : Table Row}
    (isEnd : drainFailing deleteOneBatch ends fuel transactions table =
      (final, .swept total last)) :
    drain deleteOneBatch fuel table = (final, total) := by
  induction fuel generalizing transactions table total with
  | zero => cases isEnd
  | succ fuel ih =>
    rw [drainFailing] at isEnd
    rw [drain]
    cases isReturned : ends transactions with
    | rolledBack | lost =>
      simp [isReturned] at isEnd
    | returned =>
      rw [isReturned] at isEnd
      simp only at isEnd ⊢
      split at isEnd
      · rename_i isEmpty
        rw [if_pos isEmpty]
        cases isEnd
        rfl
      rename_i filled
      rw [if_neg filled]
      split at isEnd
      · rename_i rest isRest
        cases isEnd
        rw [ih isRest]
      · rename_i notSwept isRest
        cases isEnd
        exact absurd rfl (notSwept _ _)

/-- What a plain sweep leaves and counts. -/
theorem drain_complete (positive : 0 < limit) {table : Table Row}
    (enough : table.rows.length < fuel) :
    ∃ final, drain (fun current => current.deleteBatch eligible before limit) fuel table =
        (final, (table.rows.filter eligible).length) ∧
      final.rows = table.rows.filter fun row => !eligible row := by
  rcases @drainFailing_complete _ _ _ _ eligible before _ limit (fun _ => .returned) fuel positive
    (fun _ => rfl) 0 table enough with ⟨final, last, isEnd, isFinal⟩
  exact ⟨final, drainFailing_eq_drain isEnd, isFinal⟩

end Table

end StarterTemplate.Library
