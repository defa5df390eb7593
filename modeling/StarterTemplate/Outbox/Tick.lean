import StarterTemplate.Outbox.Dispatch

/-!
# The relay tick over any job queue

`DispatchPending.execute` again, over a job queue of which nothing is known but that it
does not touch the outbox.  Next to the table and the report, a tick records the calls
of `enqueue` and the mark statements in their order.  The tick over the in-process queue
is the instance for the handlers of the program.
-/

namespace StarterTemplate.Outbox

open Library

/-- A job queue with its own state: how `enqueue(job_name, payload)` ends, and the state
afterwards.  The id of the row lets a queue fail some rows and accept others. -/
abbrev JobQueue (State : Type) := State → Uuid → String → Dict → Option JobError × State

/-- A tick: what it leaves, the calls of `enqueue` with their outcomes, the mark
statements, and the report, which is absent when an exception left the tick. -/
structure RelayTick (State : Type) where
  outbox : OutboxTable
  queue : State
  calls : List (OutboxMessage × Option JobError)
  marks : List (Uuid × Mark)
  report : Option RelayTickReport

section Loop

variable {State : Type} (settings : RelaySettings) (now : Instant) (queue : JobQueue State)

/-- The loop over the claimed rows. -/
def dispatchEach : OutboxTable → State → RelayTickReport → List OutboxMessage → RelayTick State
  | outbox, state, report, [] => ⟨outbox, state, [], [], some report⟩
  | outbox, state, report, message :: rest =>
    let (outcome, next) := queue state message.id message.jobName (dispatchedPayload message)
    match settle settings now message outcome with
    | none => ⟨outbox, next, [(message, outcome)], [], none⟩
    | some mark =>
      let later := dispatchEach (applyMark outbox message.id mark) next (report.count mark)
        rest
      ⟨later.outbox, later.queue, (message, outcome) :: later.calls,
        (message.id, mark) :: later.marks, later.report⟩

/-- The rows that a tick claims. -/
def claimedBy (outbox : OutboxTable) : List OutboxMessage :=
  (claimBatch outbox now settings.batchSize settings.workerId fun _ => false).2

/-- `DispatchPending.execute`. -/
def tick (outbox : OutboxTable) (state : State) : RelayTick State :=
  let (leased, claimed) :=
    claimBatch outbox now settings.batchSize settings.workerId fun _ => false
  dispatchEach settings now queue leased state ⟨claimed.length, 0, 0, 0⟩ claimed

/-! ## The loop -/

/-- The row after the mark statements, where a row has at most one. -/
def markedBy (marks : List (Uuid × Mark)) (row : OutboxRow) : OutboxRow :=
  match marks.find? fun entry => entry.1 = row.id with
  | some entry => entry.2.patch.apply row
  | none => row

theorem id_applyPatch (patch : Patch OutboxRow) (row : OutboxRow) :
    (patch.apply row).id = row.id :=
  patch.keeps row

theorem markedBy_of_not_mem {marks : List (Uuid × Mark)} {row : OutboxRow}
    (unmarked : row.id ∉ marks.map Prod.fst) : markedBy marks row = row := by
  have nothing : marks.find? (fun entry => entry.1 = row.id) = none := by
    rw [List.find?_eq_none]
    intro entry member isRow
    exact unmarked (of_decide_eq_true isRow ▸ List.mem_map_of_mem member)
  rw [markedBy, nothing]

theorem markedBy_of_mem {marks : List (Uuid × Mark)} (once : (marks.map Prod.fst).Nodup)
    {row : OutboxRow} {mark : Mark} (marked : (row.id, mark) ∈ marks) :
    markedBy marks row = mark.patch.apply row := by
  induction marks with
  | nil => cases marked
  | cons entry rest ih =>
    rw [List.map_cons, List.nodup_cons] at once
    rcases List.mem_cons.mp marked with isFirst | isLater
    · subst isFirst
      simp [markedBy]
    have other : entry.1 ≠ row.id := by
      intro same
      exact once.1 (same ▸ List.mem_map_of_mem isLater)
    rw [← ih once.2 isLater]
    simp [markedBy, other]

theorem markedBy_cons {id : Uuid} {mark : Mark} {rest : List (Uuid × Mark)}
    (fresh : id ∉ rest.map Prod.fst) (row : OutboxRow) :
    markedBy ((id, mark) :: rest) row =
      markedBy rest (if row.id = id then mark.patch.apply row else row) := by
  by_cases same : row.id = id
  · subst same
    have settled : markedBy rest (mark.patch.apply row) = mark.patch.apply row := by
      apply markedBy_of_not_mem
      rwa [id_applyPatch]
    rw [if_pos rfl, settled]
    simp [markedBy]
  · have other : id ≠ row.id := fun equal => same equal.symm
    simp [markedBy, same, other]

/-- The counters after the marks. -/
def counted (report : RelayTickReport) (marks : List (Uuid × Mark)) : RelayTickReport :=
  marks.foldl (fun counters entry => counters.count entry.2) report

/-- What a loop over a batch of different rows did when every outcome had a mark: one
call and one mark for each row, in order, and nothing else to the table. -/
structure Dispatched (batch : List OutboxMessage) (outbox : OutboxTable)
    (report : RelayTickReport) (after : RelayTick State) : Prop where
  calls : after.calls.map Prod.fst = batch
  marks : after.marks.map (fun entry => (entry.1, some entry.2)) =
    after.calls.map fun call => (call.1.id, settle settings now call.1 call.2)
  rows : after.outbox.rows = outbox.rows.map (markedBy after.marks)
  report : after.report = some (counted report after.marks)

variable {settings now queue}

variable {after : RelayTick State} {batch : List OutboxMessage} {outbox : OutboxTable}

section

variable {report : RelayTickReport} (dispatched : Dispatched settings now batch outbox report after)
include dispatched

theorem Dispatched.markedIds : after.marks.map Prod.fst = batch.map fun message => message.id := by
  have ids := congrArg (List.map Prod.fst) dispatched.marks
  rw [List.map_map, List.map_map] at ids
  rw [← dispatched.calls, List.map_map]
  exact ids

/-- The marks of a loop all of whose outcomes have the marks of a function. -/
theorem Dispatched.marks_eq {markOf : OutboxMessage → Option JobError → Mark}
    (settled : ∀ call ∈ after.calls, settle settings now call.1 call.2 = some (markOf call.1 call.2)) :
    after.marks = after.calls.map fun call => (call.1.id, markOf call.1 call.2) := by
  have injective : Function.Injective fun entry : Uuid × Mark => (entry.1, some entry.2) := by
    intro left right same
    cases left
    cases right
    cases same
    rfl
  apply List.map_injective_iff.mpr injective
  rw [dispatched.marks, List.map_map]
  apply List.map_congr_left
  intro call member
  rw [settled call member]
  rfl

end

/-- The loop calls `enqueue` for rows of its batch. -/
theorem mem_of_mem_calls :
    ∀ {outbox : OutboxTable} {state : State} {report : RelayTickReport}
      {call : OutboxMessage × Option JobError},
      call ∈ (dispatchEach settings now queue outbox state report batch).calls →
        call.1 ∈ batch := by
  induction batch with
  | nil =>
    intro outbox state report call member
    cases member
  | cons message rest ih =>
    intro outbox state report call member
    simp only [dispatchEach] at member
    split at member
    · rw [List.mem_singleton.mp member]
      exact .head _
    rcases List.mem_cons.mp member with isFirst | isLater
    · rw [isFirst]
      exact .head _
    · exact .tail _ (ih isLater)

/-- The loop goes through when every outcome it meets has a mark. -/
theorem dispatchEach_spec (distinct : (batch.map fun message => message.id).Nodup) :
    ∀ {outbox : OutboxTable} {state : State} {report : RelayTickReport},
      (∀ call ∈ (dispatchEach settings now queue outbox state report batch).calls,
        settle settings now call.1 call.2 ≠ none) →
      Dispatched settings now batch outbox report
        (dispatchEach settings now queue outbox state report batch) := by
  induction batch with
  | nil =>
    intro outbox state report _
    exact ⟨rfl, rfl, (List.map_id' outbox.rows).symm, rfl⟩
  | cons message rest ih =>
    intro outbox state report settled
    rw [List.map_cons, List.nodup_cons] at distinct
    rw [dispatchEach] at settled ⊢
    cases answered : queue state message.id message.jobName (dispatchedPayload message) with
    | mk outcome next =>
      simp only [answered] at settled ⊢
      cases marked : settle settings now message outcome with
      | none =>
        simp only [marked] at settled
        exact absurd marked (settled (message, outcome) (.head _))
      | some mark =>
        simp only [marked] at settled ⊢
        have later := ih distinct.2 fun call member =>
          settled call (.tail _ member)
        have fresh := distinct.1
        rw [← later.markedIds] at fresh
        refine ⟨?_, ?_, ?_, later.report⟩
        · rw [List.map_cons, later.calls]
        · rw [List.map_cons, List.map_cons, later.marks, marked]
        · have afterMark : (applyMark outbox message.id mark).rows = outbox.rows.map
              fun row => if row.id = message.id then mark.patch.apply row else row := by
            rw [applyMark_eq_update]
            simp only [Table.update, Table.updateWhere, decide_eq_true_eq]
            rfl
          rw [later.rows, afterMark, List.map_map]
          apply List.map_congr_left
          intro row _
          exact (markedBy_cons fresh row).symm

/-! ## The tick -/

variable (settings now) in
theorem rows_claimBatch (outbox : OutboxTable) :
    (claimBatch outbox now settings.batchSize settings.workerId fun _ => false).1.rows =
      outbox.rows.map fun row =>
        if row.id ∈ (claimedBy settings now outbox).map fun message => message.id then
          (leaseStamp now settings.workerId).apply row else row := by
  rw [claimedBy, claimBatch]
  split
  · simp
  · simp only [Table.updateWhere, decide_eq_true_eq, List.map_map]
    rfl

variable (settings now) in
theorem nodup_claimedBy (outbox : OutboxTable) :
    ((claimedBy settings now outbox).map fun message => message.id).Nodup :=
  nodup_claimBatch outbox now settings.batchSize settings.workerId fun _ => false

/-- A tick goes through when every outcome it meets has a mark.  Nothing of the leases
remains: a claimed row differs from the stored one by its mark alone. -/
theorem tick_spec {state : State} (settled : ∀ call ∈ (tick settings now queue outbox state).calls,
      settle settings now call.1 call.2 ≠ none) :
    Dispatched settings now (claimedBy settings now outbox) outbox
      ⟨(claimedBy settings now outbox).length, 0, 0, 0⟩
      (tick settings now queue outbox state) := by
  have loop : Dispatched settings now (claimedBy settings now outbox)
      (claimBatch outbox now settings.batchSize settings.workerId fun _ => false).1
      ⟨(claimedBy settings now outbox).length, 0, 0, 0⟩
      (tick settings now queue outbox state) :=
    dispatchEach_spec (nodup_claimedBy settings now outbox) settled
  have ids := loop.markedIds
  have once : ((tick settings now queue outbox state).marks.map Prod.fst).Nodup := by
    rw [ids]
    exact nodup_claimedBy settings now outbox
  refine ⟨loop.calls, loop.marks, ?_, loop.report⟩
  rw [loop.rows, rows_claimBatch, List.map_map]
  apply List.map_congr_left
  intro row _
  rw [Function.comp_apply]
  split
  · rename_i isClaimed
    rw [← ids] at isClaimed
    rcases List.mem_map.mp isClaimed with ⟨⟨id, mark⟩, member, isRow⟩
    cases isRow
    have leased : (((leaseStamp now settings.workerId).apply row).id, mark) ∈ _ := member
    exact (markedBy_of_mem once leased).trans
      (Eq.trans (by cases mark <;> rfl) (markedBy_of_mem once member).symm)
  · rfl

/-- A tick counts each mark once. -/
theorem counted_sum (marks : List (Uuid × Mark)) :
    ∀ report : RelayTickReport, (counted report marks).claimed = report.claimed ∧
      (counted report marks).dispatched + (counted report marks).retried +
          (counted report marks).failed =
        report.dispatched + report.retried + report.failed + marks.length := by
  induction marks with
  | nil => exact fun report => ⟨rfl, rfl⟩
  | cons entry rest ih =>
    intro report
    have later := ih (report.count entry.2)
    rw [List.length_cons]
    refine ⟨later.1.trans ?_, later.2.trans ?_⟩
    · cases entry.2 <;> rfl
    · cases entry.2 <;> simp only [RelayTickReport.count] <;> omega

theorem Dispatched.claimed_eq
    (dispatched : Dispatched settings now batch outbox ⟨batch.length, 0, 0, 0⟩ after) :
    ∃ report, after.report = some report ∧ report.claimed = batch.length ∧
      report.claimed = report.dispatched + report.retried + report.failed := by
  have sum := counted_sum after.marks ⟨batch.length, 0, 0, 0⟩
  have lengths := congrArg List.length dispatched.markedIds
  rw [List.length_map, List.length_map] at lengths
  refine ⟨_, dispatched.report, sum.1, ?_⟩
  rw [sum.1, sum.2, lengths]
  simp

end Loop

end StarterTemplate.Outbox
