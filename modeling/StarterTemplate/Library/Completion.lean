import StarterTemplate.Library.Protocol

/-!
# What a process is bound to do

While no other process commits, the statements of a process do what they do when it is
executed alone: what the rest of the process will answer and leave is fixed.
-/

namespace StarterTemplate.Library

variable {Row Key : Type} [Keyed Row Key] [DecidableEq Key]

/-! ## Versions of rows, in order -/

namespace Table

variable {table : Table Row} {row other : Row}

theorem rows_put_of_mem (taken : key row ∈ table.rows.map key) :
    (table.put row).rows = table.rows.map fun old => if key old = key row then row else old := by
  rw [put, dif_pos taken]

theorem rows_put_of_new (new : key row ∉ table.rows.map key) :
    (table.put row).rows = table.rows ++ [row] := by
  rw [put, dif_neg new]

/-- There is nothing to replace among rows of other keys. -/
theorem map_replace_of_absent {rows : List Row} (absent : key row ∉ rows.map key) :
    (rows.map fun old => if key old = key row then row else old) = rows := by
  have unchanged : ∀ old ∈ rows, (if key old = key row then row else old) = old := by
    intro old member
    apply if_neg
    intro isRow
    apply absent
    rw [← isRow]
    exact List.mem_map_of_mem member
  rw [List.map_congr_left unchanged, List.map_id']

/-- A version replaces the one that was put before it. -/
theorem put_put_same (sameKey : key other = key row) :
    (table.put other).put row = table.put row := by
  apply ext_rows
  have taken : key row ∈ (table.put other).rows.map key := mem_keys_put.mpr (.inl sameKey.symm)
  rw [rows_put_of_mem taken]
  by_cases old : key row ∈ table.rows.map key
  · rw [rows_put_of_mem old, rows_put_of_mem (sameKey ▸ old), List.map_map]
    apply List.map_congr_left
    intro stored _
    by_cases isRow : key stored = key row
    · simp [sameKey, isRow]
    · simp [sameKey, isRow]
  · rw [rows_put_of_new old, rows_put_of_new (sameKey ▸ old), List.map_append,
      map_replace_of_absent old]
    simp [sameKey]

/-- A version of a stored row can be put before or after a row of another key. -/
theorem put_put_comm (taken : key row ∈ table.rows.map key) (differ : key other ≠ key row) :
    (table.put other).put row = (table.put row).put other := by
  apply ext_rows
  rw [rows_put_of_mem (mem_keys_put.mpr (.inr taken))]
  by_cases old : key other ∈ table.rows.map key
  · rw [rows_put_of_mem old, rows_put_of_mem (mem_keys_put.mpr (.inr old)), rows_put_of_mem taken,
      List.map_map, List.map_map]
    apply List.map_congr_left
    intro stored _
    by_cases isRow : key stored = key row
    · simp [isRow, Ne.symm differ]
    · by_cases isOther : key stored = key other
      · simp [isOther, differ]
      · simp [isRow, isOther]
  have stillNew : key other ∉ (table.put row).rows.map key := by
    intro present
    rcases mem_keys_put.mp present with same | among
    · exact differ same
    · exact old among
  rw [rows_put_of_new old, rows_put_of_new stillNew, rows_put_of_mem taken, List.map_append]
  simp [differ]

/-- A version of a stored row can be put before or after rows of other keys. -/
theorem foldl_put_comm {rows : List Row} (taken : key row ∈ table.rows.map key)
    (differ : key row ∉ rows.map key) :
    (rows.foldl put table).put row = rows.foldl put (table.put row) := by
  induction rows generalizing table with
  | nil => rfl
  | cons first rest ih =>
    rw [List.map_cons, List.mem_cons, not_or] at differ
    rw [List.foldl_cons, List.foldl_cons, ih (mem_keys_put.mpr (.inr taken)) differ.2,
      put_put_comm taken (Ne.symm differ.1)]

/-- One more version in the overlay. -/
theorem overlay_put {base own : Table Row} :
    base.overlay (own.put row) = (base.overlay own).put row := by
  by_cases taken : key row ∈ own.rows.map key
  · rw [overlay, overlay, rows_put_of_mem taken]
    have distinct := own.nodup
    revert taken distinct
    generalize own.rows = rows
    intro taken distinct
    induction rows generalizing base with
    | nil => cases taken
    | cons first rest ih =>
      rw [List.map_cons, List.nodup_cons] at distinct
      rw [List.map_cons, List.foldl_cons, List.foldl_cons]
      by_cases isFirst : key first = key row
      · have elsewhere : key row ∉ rest.map key := isFirst ▸ distinct.1
        rw [if_pos isFirst, map_replace_of_absent elsewhere,
          foldl_put_comm (mem_keys_put.mpr (.inl isFirst.symm)) elsewhere, put_put_same isFirst]
      · rw [if_neg isFirst]
        rw [List.map_cons, List.mem_cons] at taken
        exact ih (taken.resolve_left fun same => isFirst same.symm) distinct.2
  · rw [overlay, overlay, rows_put_of_new taken, List.foldl_append]
    rfl

theorem put_without {keys : List Key} (kept : key row ∉ keys) :
    (table.put row).without keys = (table.without keys).put row := by
  apply ext_rows
  by_cases taken : key row ∈ table.rows.map key
  · have stillTaken : key row ∈ (table.without keys).rows.map key := by
      rcases List.mem_map.mp taken with ⟨old, member, sameKey⟩
      exact List.mem_map.mpr ⟨old, mem_without.mpr ⟨member, sameKey ▸ kept⟩, sameKey⟩
    rw [rows_put_of_mem stillTaken]
    simp only [without, rows_put_of_mem taken]
    rw [List.filter_map]
    congr 1
    apply List.filter_congr
    intro old _
    simp only [Function.comp_apply]
    split
    · rename_i sameKey
      rw [sameKey]
    · rfl
  have stillNew : key row ∉ (table.without keys).rows.map key := by
    intro present
    rcases List.mem_map.mp present with ⟨old, member, sameKey⟩
    exact taken (List.mem_map.mpr ⟨old, (mem_without.mp member).1, sameKey⟩)
  rw [rows_put_of_new stillNew]
  simp [without, rows_put_of_new taken, kept]

theorem without_without (first second : List Key) :
    (table.without first).without second = table.without (second ++ first) := by
  apply ext_rows
  simp only [without, List.filter_filter]
  apply List.filter_congr
  intro row _
  simp [not_or]

@[simp] theorem without_nil : table.without [] = table := by
  apply ext_rows
  simp [without]

@[simp] theorem overlay_empty : table.overlay empty = table := rfl

end Table

namespace ReadCommitted

variable {Site Call : Type} {Reply : Call → Type} {Result Env Drift Pid : Type}

/-! ## The rest of a process -/

/-- What a locking statement still does, to the rows that wait for it. -/
def changeKeys (view : Table Row) (pending : List Key) : Change Row → Table Row
  | .keep => view
  | .patch patch => view.updateWhere (fun row => key row ∈ pending) patch
  | .remove => view.without pending

/-- What a program that is executed alone answers and commits. -/
def finish (model : Model Row Call Reply Env Drift) (prog : Prog Row Site Call Reply Result)
    (state : Prog.State Row Env) : Result × Table Row :=
  ((prog.alone model state).1, (prog.alone model state).2.store)

/-- What the rest of a process that is executed alone answers and commits. -/
def Code.completion (model : Model Row Call Reply Env Drift) :
    Code Row Site Call Reply Result → Prog.State Row Env → Option (Result × Table Row)
  | .running prog, state => some (finish model prog state)
  | .locking _ _ change pending got next, state =>
    some (finish model (next (got ++ pending.filterMap state.view.find))
      { state with view := changeKeys state.view pending change })
  | .aborted, _ => none

/-- The keys that a locking statement waits for are those of rows that pass its test. -/
def Code.Waiting (view : Table Row) : Code Row Site Call Reply Result → Prop
  | .locking _ test _ pending _ _ =>
    pending.Nodup ∧ ∀ target ∈ pending, ∃ row ∈ view.rows, key row = target ∧ test row = true
  | _ => True

theorem filterMap_find {view : Table Row} {rows : List Row}
    (stored : ∀ row ∈ rows, row ∈ view.rows) : (rows.map key).filterMap view.find = rows := by
  induction rows with
  | nil => rfl
  | cons row rest ih =>
    have found : view.find (key row) = some row :=
      Table.find_eq_some.mpr ⟨stored row (.head _), rfl⟩
    rw [List.map_cons, List.filterMap_cons_some found,
      ih fun other member => stored other (.tail _ member)]

/-- The keys of the rows that pass a test stand for the test. -/
theorem changeKeys_filter (view : Table Row) (test : Row → Bool) (change : Change Row) :
    changeKeys view ((view.rows.filter test).map key) change =
      Prog.changeRows view test change := by
  cases change with
  | keep | remove => rfl
  | patch patch =>
    apply Table.ext_rows
    apply List.map_congr_left
    intro row member
    have passes : key row ∈ (view.rows.filter test).map key ↔ test row = true := by
      constructor
      · intro waits
        rcases List.mem_map.mp waits with ⟨other, isOther, sameKey⟩
        rw [List.mem_filter] at isOther
        rw [← view.eq_of_key_eq isOther.1 member sameKey]
        exact isOther.2
      · intro passes
        exact List.mem_map_of_mem (List.mem_filter.mpr ⟨member, passes⟩)
    simp only [passes]
    split
    · rename_i isTrue
      rw [if_pos (by simpa using isTrue)]
    · rename_i isFalse
      rw [if_neg (by simpa using isFalse)]

theorem changeKeys_nil (view : Table Row) (change : Change Row) :
    changeKeys view [] change = view := by
  cases change with
  | keep => rfl
  | remove => exact Table.without_nil
  | patch patch =>
    apply Table.ext_rows
    simp [changeKeys, Table.updateWhere]

/-- The view after one row of a locking statement. -/
def changeRow (view : Table Row) (row : Row) : Change Row → Table Row
  | .keep => view
  | .patch patch => view.put (patch.apply row)
  | .remove => view.without [key row]

/-- The statement goes on with the other rows as before. -/
theorem changeKeys_changeRow {view : Table Row} {row : Row} {pending : List Key}
    (stored : row ∈ view.rows) (absent : key row ∉ pending) (change : Change Row) :
    changeKeys (changeRow view row change) pending change =
      changeKeys view (key row :: pending) change := by
  cases change with
  | keep => rfl
  | remove =>
    rw [changeRow, changeKeys, changeKeys, Table.without_without]
    apply Table.ext_rows
    apply List.filter_congr
    intro other _
    simp [or_comm]
  | patch patch =>
    have taken : key (patch.apply row) ∈ view.rows.map key := by
      rw [patch.keeps]
      exact List.mem_map_of_mem stored
    apply Table.ext_rows
    simp only [changeRow, changeKeys, Table.updateWhere, Table.rows_put_of_mem taken]
    rw [List.map_map]
    apply List.map_congr_left
    intro other member
    simp only [Function.comp_apply, patch.keeps]
    by_cases sameKey : key other = key row
    · have same : other = row := view.eq_of_key_eq member stored sameKey
      subst same
      simp [patch.keeps, absent]
    · simp [sameKey]

/-- A change of one row leaves the rows of other keys. -/
theorem find_changeRow {view : Table Row} {row : Row} {target : Key} (differ : target ≠ key row)
    (change : Change Row) : (changeRow view row change).find target = view.find target := by
  have sameRows : ∀ other, key other = target →
      (other ∈ (changeRow view row change).rows ↔ other ∈ view.rows) := by
    intro other isTarget
    cases change with
    | keep => rfl
    | patch patch =>
      rw [changeRow, Table.mem_put, patch.keeps]
      constructor
      · intro possible
        rcases possible with isNew | old
        · rw [isNew, patch.keeps] at isTarget
          exact absurd isTarget.symm differ
        · exact old.1
      · intro old
        exact .inr ⟨old, isTarget ▸ differ⟩
    | remove =>
      rw [changeRow, Table.mem_without, List.mem_singleton]
      exact ⟨fun kept => kept.1, fun old => ⟨old, isTarget ▸ differ⟩⟩
  cases found : view.find target with
  | some other =>
    rcases Table.find_eq_some.mp found with ⟨stored, isTarget⟩
    exact Table.find_eq_some.mpr ⟨(sameRows other isTarget).mpr stored, isTarget⟩
  | none =>
    cases later : (changeRow view row change).find target with
    | none => rfl
    | some other =>
      rcases Table.find_eq_some.mp later with ⟨stored, isTarget⟩
      simp [Table.find_eq_some.mpr ⟨(sameRows other isTarget).mp stored, isTarget⟩] at found

/-! ## The view of a process -/

namespace Process

variable {process : Process Row Site Call Reply Result} {store : Table Row} {row : Row}

@[simp] theorem view_fresh (code : Code Row Site Call Reply Result) :
    (fresh code).view store = store := by
  rw [view, fresh, Table.overlay_empty, Table.without_nil]

theorem view_add {code : Code Row Site Call Reply Result} (kept : key row ∉ process.dropped) :
    (process.add row code).view store = (process.view store).put row := by
  have sameDropped : process.dropped.filter (fun target => target ≠ key row) = process.dropped := by
    apply List.filter_eq_self.mpr
    intro target isDropped
    exact decide_eq_true fun isRow => kept (isRow ▸ isDropped)
  simp only [view, add]
  rw [sameDropped, Table.overlay_put, Table.put_without kept]

@[simp] theorem code_grant (change : Change Row) (code : Code Row Site Call Reply Result) :
    (process.grant change row code).code = code := by
  cases change with
  | keep | patch | remove => rfl

theorem mem_dropped_grant {change : Change Row} {code : Code Row Site Call Reply Result}
    {target : Key} (isDropped : target ∈ (process.grant change row code).dropped) :
    target ∈ process.dropped ∨ change = .remove ∧ target = key row := by
  cases change with
  | keep | patch => exact .inl isDropped
  | remove =>
    rcases List.mem_cons.mp isDropped with isRow | old
    · exact .inr ⟨rfl, isRow⟩
    · exact .inl old

theorem view_grant (stored : row ∈ (process.view store).rows) (change : Change Row)
    (code : Code Row Site Call Reply Result) :
    (process.grant change row code).view store = changeRow (process.view store) row change := by
  cases change with
  | keep => rfl
  | patch patch =>
    have kept : key (patch.apply row) ∉ process.dropped := by
      rw [patch.keeps]
      exact (mem_view.mp stored).2
    simp only [view, grant, changeRow]
    rw [Table.overlay_put, Table.put_without kept]
  | remove =>
    simp only [view, grant, changeRow]
    rw [Table.without_without]
    rfl

end Process

/-! ## What a process is bound to do -/

/-- Executed alone from where it stands, the process ends with `outcome`. -/
structure Destined (model : Model Row Call Reply Env Drift) (env : Env)
    (outcome : Result × Table Row) (pid : Pid) (sys : Sys Pid Row Site Call Reply Result Env) :
    Prop where
  waiting : (sys.procs pid).code.Waiting (sys.view pid)
  completes : (sys.procs pid).code.completion model ⟨sys.store, sys.view pid, env⟩ = some outcome

namespace Destined

variable {model : Model Row Call Reply Env Drift} {env : Env} {outcome : Result × Table Row}
variable {pid : Pid} {sys next : Sys Pid Row Site Call Reply Result Env}

/-- Steps of others that commit nothing do not matter. -/
theorem congr (destined : Destined model env outcome pid sys)
    (sameProcess : next.procs pid = sys.procs pid) (sameStore : next.store = sys.store) :
    Destined model env outcome pid next := by
  have sameView : next.view pid = sys.view pid := by
    rw [Sys.view, Sys.view, sameProcess, sameStore]
  constructor
  · rw [sameProcess, sameView]
    exact destined.waiting
  · rw [sameProcess, sameStore, sameView]
    exact destined.completes

/-- The process has ended as it was bound to. -/
theorem outcome_of_done (destined : Destined model env outcome pid sys)
    {result : Result} (isDone : (sys.procs pid).code = .running (.done result)) :
    outcome = (result, sys.store) := by
  have completes := destined.completes
  rw [isDone] at completes
  exact (Option.some.inj completes).symm

section Step

variable [DecidableEq Pid]

/-- A step that only replaces the process. -/
theorem of_set {process : Process Row Site Call Reply Result} (view : Table Row)
    (isView : process.view sys.store = view) (waiting : process.code.Waiting view)
    (completes : process.code.completion model ⟨sys.store, view, env⟩ = some outcome) :
    Destined model env outcome pid (sys.set pid process) := by
  have sees : (sys.set pid process).view pid = view := by
    rw [Sys.view, Sys.set_procs_self, Sys.set_store, isView]
  constructor
  · rw [Sys.set_procs_self, sees]
    exact waiting
  · rw [Sys.set_procs_self, sees]
    exact completes

theorem exec_insert [Fintype Pid] {row : Row} {following : Bool → Prog Row Site Call Reply Result}
    (code : (sys.procs pid).code = .running (.insert row following))
    (enabled : sys.exec model pid = some next) :
    if (sys.view pid).rows.any (model.clashes row) || key row ∈ (sys.view pid).rows.map key then
      next = sys.set pid { sys.procs pid with code := .running (following false) }
    else next = sys.set pid ((sys.procs pid).add row (.running (following true))) := by
  simp only [Sys.exec, code] at enabled
  split at enabled
  · cases enabled
  split at enabled
  · rename_i refused
    rw [if_pos refused]
    exact (Option.some.inj enabled).symm
  · rename_i accepted
    rw [if_neg accepted]
    exact (Option.some.inj enabled).symm

/-- An insertion, under a key that the process has not deleted. -/
theorem insert_exec [Fintype Pid] {row : Row} {following : Bool → Prog Row Site Call Reply Result}
    (destined : Destined model env outcome pid sys)
    (code : (sys.procs pid).code = .running (.insert row following))
    (kept : key row ∉ (sys.procs pid).dropped) (enabled : sys.exec model pid = some next) :
    Destined model env outcome pid next := by
  have completes := destined.completes
  rw [code] at completes
  simp only [Code.completion, finish, Prog.alone] at completes
  have after := exec_insert code enabled
  split at after
  · rename_i refused
    rw [if_pos refused] at completes
    subst after
    exact of_set _ rfl trivial completes
  rename_i accepted
  rw [if_neg accepted] at completes
  subst after
  exact of_set _ (Process.view_add kept) trivial completes

/-- A row that waits for its lock gets it. -/
theorem grant_exec {site : Site} {test : Row → Bool} {change : Change Row} {pending : List Key}
    {got : List Row} {following : List Row → Prog Row Site Call Reply Result} {row : Row}
    (destined : Destined model env outcome pid sys)
    (code : (sys.procs pid).code = .locking site test change (key row :: pending) got following)
    (found : row ∈ (sys.view pid).rows) :
    Destined model env outcome pid (sys.set pid ((sys.procs pid).grant change row
      (.locking site test change pending (got ++ [row]) following))) := by
  have completes := destined.completes
  have waiting := destined.waiting
  rw [code] at completes waiting
  rcases waiting with ⟨distinct, stored⟩
  rw [List.nodup_cons] at distinct
  have elsewhere : ∀ target ∈ pending, target ≠ key row := fun target waits isRow =>
    distinct.1 (isRow ▸ waits)
  have sameRows : pending.filterMap (changeRow (sys.view pid) row change).find =
      pending.filterMap (sys.view pid).find :=
    List.filterMap_congr fun target waits => find_changeRow (elsewhere target waits) change
  have isFound : (sys.view pid).find (key row) = some row :=
    Table.find_eq_some.mpr ⟨found, rfl⟩
  have stillWaiting : (Code.locking site test change pending (got ++ [row]) following).Waiting
      (changeRow (sys.view pid) row change) := by
    refine ⟨distinct.2, ?_⟩
    intro target waits
    rcases stored target (.tail _ waits)
      with ⟨other, member, isTarget, otherPasses⟩
    have stillFound := Table.find_eq_some.mpr ⟨member, isTarget⟩
    rw [← find_changeRow (elsewhere target waits) change] at stillFound
    exact ⟨other, (Table.find_eq_some.mp stillFound).1, isTarget, otherPasses⟩
  have stillCompletes :
      (Code.locking site test change pending (got ++ [row]) following).completion model
        ⟨sys.store, changeRow (sys.view pid) row change, env⟩ = some outcome := by
    rw [← completes]
    simp only [Code.completion]
    rw [sameRows, changeKeys_changeRow found distinct.1, List.filterMap_cons_some isFound,
      List.append_assoc]
    rfl
  apply of_set (changeRow (sys.view pid) row change)
  · exact Process.view_grant found change _
  · rw [Process.code_grant]
    exact stillWaiting
  · rw [Process.code_grant]
    exact stillCompletes

/-- A locking statement finds its rows. -/
theorem open_exec {site : Site} {test : Row → Bool} {change : Change Row}
    {following : List Row → Prog Row Site Call Reply Result}
    (destined : Destined model env outcome pid sys)
    (code : (sys.procs pid).code = .running (.lock site test change following)) :
    Destined model env outcome pid (sys.set pid
      { sys.procs pid with
        code := .locking site test change (((sys.view pid).rows.filter test).map key) [] following
        visited := site :: (sys.procs pid).visited }) := by
  have completes := destined.completes
  rw [code] at completes
  have stored : ∀ row ∈ (sys.view pid).rows.filter test, row ∈ (sys.view pid).rows :=
    fun row found => (List.mem_filter.mp found).1
  apply of_set (sys.view pid)
  · rfl
  · refine ⟨(sys.view pid).nodup.sublist (List.filter_sublist.map _), ?_⟩
    intro target waits
    rcases List.mem_map.mp waits with ⟨row, found, isTarget⟩
    exact ⟨row, stored row found, isTarget, (List.mem_filter.mp found).2⟩
  · simp only [Code.completion]
    rw [filterMap_find stored, changeKeys_filter]
    exact completes

/-- The component answers as it did when the process was executed alone. -/
theorem call_exec {request : Call} {following : Reply request → Prog Row Site Call Reply Result}
    (destined : Destined model env outcome pid sys)
    (code : (sys.procs pid).code = .running (.call request following))
    {reply : Reply request} (sameReply : reply = (model.answer request env).1) (later : Env) :
    Destined model (model.answer request env).2 outcome pid
      { sys.set pid { sys.procs pid with code := .running (following reply) } with
        env := later } := by
  have completes := destined.completes
  rw [code] at completes
  have answered : Destined model (model.answer request env).2 outcome pid
      (sys.set pid { sys.procs pid with code := .running (following reply) }) := by
    subst sameReply
    exact of_set (sys.view pid) rfl trivial completes
  exact answered.congr rfl rfl

/-- A step of a process that nobody disturbs, other than a call, keeps what it is bound to. -/
theorem exec [Fintype Pid] (destined : Destined model env outcome pid sys)
    (lasting : ∀ row following, (sys.procs pid).code = .running (.insert row following) →
      key row ∉ (sys.procs pid).dropped)
    (silent : ∀ request following, (sys.procs pid).code ≠ .running (.call request following))
    (enabled : sys.exec model pid = some next) : Destined model env outcome pid next := by
  have completes := destined.completes
  cases Sys.stepped enabled with
  | selected site test following code =>
    rw [code] at completes
    exact of_set _ rfl trivial completes
  | opened site test change following code => exact destined.open_exec code
  | refused row following code
  | inserted row following code => exact destined.insert_exec code (lasting row _ code) enabled
  | committed following code =>
    rw [code] at completes
    let committed : Sys Pid Row Site Call Reply Result Env :=
      { sys with
        store := sys.view pid
        journal := (sys.procs pid).visited.map (fun site => (pid, site)) ++ sys.journal }
    have sees : (Process.fresh (.running following)).view committed.store = sys.view pid :=
      Process.view_fresh _
    have after : Destined model env outcome pid
        (committed.set pid (.fresh (.running following))) := of_set _ sees trivial completes
    exact after
  | rolledBack following code =>
    rw [code] at completes
    exact of_set _ (Process.view_fresh _) trivial completes
  | called request following code => exact absurd code (silent request following)
  | closed site test change got following code =>
    rw [code] at completes
    simp only [Code.completion, List.filterMap_nil, List.append_nil, changeKeys_nil] at completes
    exact of_set _ rfl trivial completes
  | granted site test change pending got following row code free found passes =>
    exact destined.grant_exec code found
  | skipped site test change target pending got following code gone =>
    have waiting := destined.waiting
    rw [code] at waiting
    rcases waiting.2 target (.head _) with ⟨row, stored, isTarget, passes⟩
    simp [gone row stored isTarget] at passes

end Step

end Destined

end ReadCommitted

end StarterTemplate.Library
