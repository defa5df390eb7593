import Mathlib.Algebra.Order.Floor.Div
import StarterTemplate.Library.Sorting
import StarterTemplate.Outbox.Tick

/-!
# The accounting of a tick and the drain of the table

Each tick of a single worker gives every row that it claims one mark, and reports how many
of each kind.  When every `enqueue` succeeds, the rows that are due at the start are the
first ones that the following ticks enqueue: a row that falls due later is available later
and so comes after them in the order of the claim.
-/

namespace StarterTemplate.Outbox

open Library

/-- The product of the backoff is a `timedelta` that can be added to the clock reading. -/
def BackoffRepresentable (settings : RelaySettings) (now : Instant) (attempts : Nat) : Prop :=
  attempts + 1 < settings.maxAttempts →
    ∃ scaled, Duration.mul settings.retryBase (2 ^ attempts) = some scaled ∧
      Instant.add now (min scaled settings.retryMax) ≠ none

theorem settle_of_representable {settings : RelaySettings} {now : Instant}
    {message : OutboxMessage}
    (representable : BackoffRepresentable settings now message.attempts)
    (outcome : Option JobError) : settle settings now message outcome ≠ none := by
  cases outcome with
  | none => exact Option.some_ne_none _
  | some error =>
    rw [settle]
    split
    · exact Option.some_ne_none _
    rename_i notLast
    rcases representable (not_le.mp notLast) with ⟨scaled, isProduct, addable⟩
    rcases Option.ne_none_iff_exists'.mp addable with ⟨availableAt, isSum⟩
    simp [isProduct, isSum]

/-! ## The order of the claim -/

instance : Std.Total ClaimedBefore where
  total left right := by
    rcases lt_trichotomy left.availableAt right.availableAt with less | equal | more
    · exact .inl (.inl less)
    · rcases le_total left.id.int right.id.int with below | above
      · exact .inl (.inr ⟨equal, below⟩)
      · exact .inr (.inr ⟨equal.symm, above⟩)
    · exact .inr (.inl more)

instance : IsTrans OutboxRow ClaimedBefore where
  trans first second third := by
    rintro (less | ⟨same, below⟩) (less' | ⟨same', below'⟩)
    · exact .inl (less.trans less')
    · exact .inl (same' ▸ less)
    · exact .inl (same ▸ less')
    · exact .inr ⟨same.trans same', below.trans below'⟩

/-- The rows that are due, in the order of the claim. -/
def eligible (now : Instant) (outbox : OutboxTable) : List OutboxRow :=
  (outbox.rows.filter fun row => decide (Due now row)).insertionSort ClaimedBefore

theorem mem_eligible {now : Instant} {outbox : OutboxTable} {row : OutboxRow} :
    row ∈ eligible now outbox ↔ row ∈ outbox.rows ∧ Due now row := by
  rw [eligible, List.mem_insertionSort, List.mem_filter, decide_eq_true_eq]

theorem nodup_eligible (now : Instant) (outbox : OutboxTable) :
    ((eligible now outbox).map fun row => row.id).Nodup := by
  have distinct : (outbox.rows.map fun row => row.id).Nodup := outbox.nodup
  apply ((List.perm_insertionSort _ _).map _).nodup_iff.mpr
  exact distinct.sublist (List.filter_sublist.map _)

/-- A tick claims the first eligible rows. -/
theorem ids_claimedBy {settings : RelaySettings} (positive : 1 ≤ settings.batchSize)
    (now : Instant) (outbox : OutboxTable) :
    (claimedBy settings now outbox).map (fun message => message.id) =
      ((eligible now outbox).take settings.batchSize.toNat).map fun row => row.id := by
  rw [claimedBy, claimBatch, if_neg (by omega), List.map_map, selectDue]
  simp only [Bool.not_false, Bool.and_true]
  rfl

/-- The rows that are due by an earlier moment come first. -/
theorem eligible_later {start now : Instant} (later : start ≤ now) (outbox : OutboxTable) :
    ∃ rest, eligible now outbox = eligible start outbox ++ rest := by
  have cut := @filter_append_of_pairwise OutboxRow ClaimedBefore
    (fun row => decide (row.availableAt ≤ start)) (eligible now outbox)
    (List.pairwise_insertionSort ClaimedBefore _) (by
      intro left right order available
      simp only [decide_eq_true_eq] at available ⊢
      exact (order.elim le_of_lt fun same => same.1.le).trans available)
  have first : (eligible now outbox).filter (fun row => decide (row.availableAt ≤ start)) =
      eligible start outbox := by
    rw [eligible, filter_insertionSort, List.filter_filter, eligible]
    congr 1
    apply List.filter_congr
    intro row _
    rw [← Bool.decide_and, decide_eq_decide]
    constructor
    · intro ⟨available, pending, _⟩
      exact ⟨pending, available⟩
    · intro ⟨pending, available⟩
      exact ⟨available, pending, available.trans later⟩
  rw [first] at cut
  exact ⟨_, cut.symm⟩

/-! ## A tick in which every job is accepted -/

section Success

variable {State : Type} {settings : RelaySettings} {now : Instant} {queue : JobQueue State}
variable {outbox : OutboxTable} {state : State}

/-- The tick delivers the rows that it claimed and leaves the others alone. -/
theorem rows_of_success
    (succeeds : ∀ call ∈ (tick settings now queue outbox state).calls, call.2 = none) :
    (tick settings now queue outbox state).calls.map Prod.fst = claimedBy settings now outbox ∧
      (tick settings now queue outbox state).outbox.rows = outbox.rows.map fun row =>
        if row.id ∈ (claimedBy settings now outbox).map fun message => message.id then
          (Mark.delivered now).patch.apply row else row := by
  have settled : ∀ call ∈ (tick settings now queue outbox state).calls,
      settle settings now call.1 call.2 = some (.delivered now) := by
    intro call member
    rw [succeeds call member]
    rfl
  have dispatched := tick_spec (fun call member => by
    rw [settled call member]
    exact Option.some_ne_none _)
  have ids := dispatched.markedIds
  have marks := @Dispatched.marks_eq _ _ _ _ _ _ _ dispatched (fun _ _ => .delivered now) settled
  have once := nodup_claimedBy settings now outbox
  rw [← ids] at once
  refine ⟨dispatched.calls, ?_⟩
  rw [dispatched.rows]
  apply List.map_congr_left
  intro row _
  rw [← ids]
  split
  · rename_i isMarked
    rcases List.mem_map.mp isMarked with ⟨⟨id, mark⟩, member, isRow⟩
    cases isRow
    have isDelivered : mark = .delivered now := by
      rw [marks] at member
      rcases List.mem_map.mp member with ⟨call, _, equal⟩
      exact (congrArg Prod.snd equal).symm
    rw [markedBy_of_mem once member, isDelivered]
  · rename_i unmarked
    exact markedBy_of_not_mem unmarked

/-- A delivered row is not due. -/
theorem filter_due_delivered (rows : List OutboxRow) (start moment : Instant)
    (claimed : List Uuid) :
    ((rows.map fun row => if row.id ∈ claimed then (Mark.delivered moment).patch.apply row
        else row).filter fun row => decide (Due start row)) =
      rows.filter fun row => decide (row.id ∉ claimed) && decide (Due start row) := by
  induction rows with
  | nil => rfl
  | cons row rest ih =>
    rw [List.map_cons, List.filter_cons, List.filter_cons, ih]
    by_cases isClaimed : row.id ∈ claimed
    · have notDue : ¬ Due start ((Mark.delivered moment).patch.apply row) := by
        intro due
        cases due.1
      simp [isClaimed, notDue]
    · simp [isClaimed]

/-- The rows that are due by an earlier moment lose their first batch. -/
theorem eligible_of_success (positive : 1 ≤ settings.batchSize) {start : Instant}
    (later : start ≤ now)
    (succeeds : ∀ call ∈ (tick settings now queue outbox state).calls, call.2 = none) :
    eligible start (tick settings now queue outbox state).outbox =
      (eligible start outbox).drop settings.batchSize.toNat := by
  rcases eligible_later later outbox with ⟨rest, cut⟩
  have distinct := nodup_eligible now outbox
  rw [cut] at distinct
  have claimed := ids_claimedBy positive now outbox
  rw [cut] at claimed
  rw [← filter_notMem_take (fun row => row.id) distinct settings.batchSize.toNat, ← claimed,
    eligible, eligible, filter_insertionSort, (rows_of_success succeeds).2,
    filter_due_delivered, List.filter_filter]

end Success

/-! ## Ticks one after the other -/

/-- What a run of ticks leaves, and its calls of `enqueue`. -/
structure RelayRun (State : Type) where
  outbox : OutboxTable
  queue : State
  calls : List (OutboxMessage × Option JobError)

section Runs

variable {State : Type} (settings : RelaySettings) (queue : JobQueue State)

/-- The ticks of a single worker at the given clock readings, with no row added. -/
def runTicks : OutboxTable → State → List Instant → RelayRun State
  | outbox, state, [] => ⟨outbox, state, []⟩
  | outbox, state, now :: later =>
    let first := tick settings now queue outbox state
    let rest := runTicks first.outbox first.queue later
    ⟨rest.outbox, rest.queue, first.calls ++ rest.calls⟩

/-- The rows of some calls. -/
def calledIds (calls : List (OutboxMessage × Option JobError)) : List Uuid :=
  calls.map fun call => call.1.id

variable {settings queue}

theorem calledIds_tick {now : Instant} {outbox : OutboxTable} {state : State}
    (succeeds : ∀ call ∈ (tick settings now queue outbox state).calls, call.2 = none) :
    calledIds (tick settings now queue outbox state).calls =
      (claimedBy settings now outbox).map fun message => message.id := by
  rw [← (rows_of_success succeeds).1, List.map_map]
  rfl

/-- The rows that are due at the start are the first ones of the calls, and none of them
is left when there were enough ticks. -/
theorem runTicks_drains (positive : 1 ≤ settings.batchSize) {start : Instant}
    {readings : List Instant} :
    ∀ {outbox : OutboxTable} {state : State}, (∀ reading ∈ readings, start ≤ reading) →
      (∀ call ∈ (runTicks settings queue outbox state readings).calls, call.2 = none) →
      (eligible start outbox).length ≤ settings.batchSize.toNat * readings.length →
      (calledIds (runTicks settings queue outbox state readings).calls).take
          (eligible start outbox).length = (eligible start outbox).map (fun row => row.id) ∧
        eligible start (runTicks settings queue outbox state readings).outbox = [] := by
  induction readings with
  | nil =>
    intro outbox state _ _ enough
    have nothing : eligible start outbox = [] :=
      List.eq_nil_of_length_eq_zero (by simpa using enough)
    exact ⟨by simp [nothing], nothing⟩
  | cons now later ih =>
    intro outbox state notBefore succeeds enough
    have first : ∀ call ∈ (tick settings now queue outbox state).calls, call.2 = none :=
      fun call member => succeeds call (List.mem_append_left _ member)
    have notEarlier := notBefore now (.head _)
    have left := eligible_of_success positive notEarlier first
    have rest := ih
      (fun reading member => notBefore reading (.tail _ member))
      (fun call member => succeeds call (List.mem_append_right _ member)) (by
        rw [left, List.length_drop]
        rw [List.length_cons, Nat.mul_succ] at enough
        omega)
    refine ⟨?_, rest.2⟩
    rcases eligible_later notEarlier outbox with ⟨beyond, cut⟩
    have called := (calledIds_tick first).trans (ids_claimedBy positive now outbox)
    have shape : calledIds (runTicks settings queue outbox state (now :: later)).calls =
        ((eligible start outbox ++ beyond).take settings.batchSize.toNat).map (fun row => row.id)
          ++ calledIds (runTicks settings queue (tick settings now queue outbox state).outbox
            (tick settings now queue outbox state).queue later).calls := by
      rw [← cut, ← called]
      exact List.map_append
    have remaining := rest.1
    rw [left, List.length_drop] at remaining
    rw [shape]
    exact take_batches remaining

/-- A row keeps its id and its moment, and its status changes to `delivered` at most. -/
theorem runTicks_keeps {readings : List Instant} :
    ∀ {outbox : OutboxTable} {state : State} {row : OutboxRow},
      (∀ call ∈ (runTicks settings queue outbox state readings).calls, call.2 = none) →
      row ∈ outbox.rows →
      ∃ final ∈ (runTicks settings queue outbox state readings).outbox.rows,
        final.id = row.id ∧ final.availableAt = row.availableAt ∧
          (final.status = row.status ∨ final.status = .delivered) := by
  induction readings with
  | nil =>
    intro outbox state row _ stored
    exact ⟨row, stored, rfl, rfl, .inl rfl⟩
  | cons now later ih =>
    intro outbox state row succeeds stored
    have rows := (rows_of_success fun call member =>
      succeeds call (List.mem_append_left _ member)).2
    have rest := fun call member =>
      succeeds call (List.mem_append_right _ member)
    have next := List.mem_map_of_mem (f := fun row =>
      if row.id ∈ (claimedBy settings now outbox).map fun message => message.id then
        (Mark.delivered now).patch.apply row else row) stored
    rw [← rows] at next
    rcases ih rest next with ⟨final, isFinal, sameId, sameMoment, status⟩
    refine ⟨final, isFinal, ?_⟩
    split at sameId
    · rename_i isClaimed
      simp only [isClaimed, if_true] at sameMoment status
      exact ⟨sameId, sameMoment, .inr (status.elim id id)⟩
    · rename_i notClaimed
      simp only [notClaimed, if_false] at sameMoment status
      exact ⟨sameId, sameMoment, status⟩

/-- No row is enqueued twice: what a tick enqueues is pending, and is not afterwards. -/
theorem runTicks_once {readings : List Instant} :
    ∀ {outbox : OutboxTable} {state : State},
      (∀ call ∈ (runTicks settings queue outbox state readings).calls, call.2 = none) →
      (calledIds (runTicks settings queue outbox state readings).calls).Nodup ∧
        ∀ id ∈ calledIds (runTicks settings queue outbox state readings).calls,
          ∃ row ∈ outbox.rows, row.id = id ∧ row.status = .pending := by
  induction readings with
  | nil =>
    intro outbox state _
    exact ⟨List.nodup_nil, fun id member => nomatch member⟩
  | cons now later ih =>
    intro outbox state succeeds
    have first : ∀ call ∈ (tick settings now queue outbox state).calls, call.2 = none :=
      fun call member => succeeds call (List.mem_append_left _ member)
    have rest := ih fun call member => succeeds call (List.mem_append_right _ member)
    have shape : calledIds (runTicks settings queue outbox state (now :: later)).calls =
        (claimedBy settings now outbox).map (fun message => message.id) ++
          calledIds (runTicks settings queue (tick settings now queue outbox state).outbox
            (tick settings now queue outbox state).queue later).calls := by
      rw [← calledIds_tick first]
      exact List.map_append
    have unclaimed : ∀ id ∈ calledIds (runTicks settings queue
        (tick settings now queue outbox state).outbox
        (tick settings now queue outbox state).queue later).calls,
        id ∉ (claimedBy settings now outbox).map (fun message => message.id) ∧
          ∃ row ∈ outbox.rows, row.id = id ∧ row.status = .pending := by
      intro id member
      rcases rest.2 id member with ⟨next, stored, isId, pending⟩
      rw [(rows_of_success first).2] at stored
      rcases List.mem_map.mp stored with ⟨row, isRow, isNext⟩
      split at isNext
      · subst isNext
        cases pending
      · rename_i notClaimed
        subst isNext
        exact ⟨isId ▸ notClaimed, row, isRow, isId, pending⟩
    rw [shape]
    constructor
    · rw [List.nodup_append]
      refine ⟨nodup_claimedBy settings now outbox, rest.1, ?_⟩
      intro left isClaimed right isLater equal
      exact (unclaimed right isLater).1 (equal ▸ isClaimed)
    intro id member
    rcases List.mem_append.mp member with isClaimed | isLater
    · rcases List.mem_map.mp isClaimed with ⟨message, claimed, isId⟩
      rcases mem_claimBatch claimed with ⟨row, stored, due, _, equal⟩
      subst equal
      exact ⟨row, stored, isId, due.1⟩
    · exact (unclaimed id isLater).2

end Runs

/-- The books of a tick: it reports the rows it claimed by what became of them; each of
them was enqueued once and got one mark, the one that its own row and outcome call for; and
the table differs by these marks only. -/
structure Accounts {State : Type} (settings : RelaySettings) (now : Instant)
    (outbox : OutboxTable) (after : RelayTick State) : Prop where
  report : ∃ report, after.report = some report ∧
    report.claimed = (claimedBy settings now outbox).length ∧
    report.claimed = report.dispatched + report.retried + report.failed
  calls : after.calls.map Prod.fst = claimedBy settings now outbox
  marks : after.marks.map (fun entry => (entry.1, some entry.2)) =
    after.calls.map fun call => (call.1.id, settle settings now call.1 call.2)
  once : (after.marks.map Prod.fst).Nodup
  rows : after.outbox.rows = outbox.rows.map (markedBy after.marks)

/-- A tick keeps its books whatever the queue answers; and when every job is accepted, the
rows that are due at the start are enqueued first and in their order, no row is enqueued
twice, and after `⌈N / b⌉` ticks they are all delivered. -/
theorem tick_accounts_and_drains {State : Type} (settings : RelaySettings)
    (positive : 1 ≤ settings.batchSize) (queue : JobQueue State) (outbox : OutboxTable)
    (state : State) :
    (∀ now, (∀ row ∈ outbox.rows, Due now row → BackoffRepresentable settings now row.attempts) →
        Accounts settings now outbox (tick settings now queue outbox state)) ∧
      ∀ (start : Instant) (readings : List Instant), (∀ reading ∈ readings, start ≤ reading) →
        (eligible start outbox).length ⌈/⌉ settings.batchSize.toNat ≤ readings.length →
        let run := runTicks settings queue outbox state readings
        (∀ call ∈ run.calls, call.2 = none) →
        (calledIds run.calls).Nodup ∧
          (calledIds run.calls).take (eligible start outbox).length =
            (eligible start outbox).map (fun row => row.id) ∧
          ∀ row ∈ eligible start outbox, ∃ final ∈ run.outbox.rows,
            final.id = row.id ∧ final.status = .delivered := by
  constructor
  · intro now representable
    have dispatched := @tick_spec _ settings now queue outbox state (by
      intro call membership
      rcases mem_claimBatch (mem_of_mem_calls membership) with ⟨row, stored, due, _, equal⟩
      have sameAttempts : call.1.attempts = row.attempts := by
        rw [equal]
        rfl
      apply settle_of_representable
      rw [sameAttempts]
      exact representable row stored due)
    refine ⟨dispatched.claimed_eq, dispatched.calls, dispatched.marks, ?_, dispatched.rows⟩
    rw [dispatched.markedIds]
    exact nodup_claimedBy settings now outbox
  · intro start readings notBefore enough run succeeds
    have batch : 0 < settings.batchSize.toNat := by omega
    rw [ceilDiv_le_iff_le_mul batch] at enough
    have drained := runTicks_drains positive notBefore succeeds enough
    refine ⟨(runTicks_once succeeds).1, drained.1, ?_⟩
    intro row isEligible
    rcases mem_eligible.mp isEligible with ⟨stored, pending, available⟩
    rcases runTicks_keeps succeeds stored with ⟨final, isFinal, sameId, sameMoment, status⟩
    refine ⟨final, isFinal, sameId, ?_⟩
    rcases status with unchanged | delivered
    · have stillDue : final ∈ eligible start run.outbox :=
        mem_eligible.mpr ⟨isFinal, unchanged.trans pending, sameMoment ▸ available⟩
      rw [drained.2] at stillDue
      cases stillDue
    · exact delivered

/-- A worker that takes one row at a time. -/
def singleRows : RelaySettings := ⟨1, 8, "relay", 30000000, 900000000⟩

/-- Two rows, the later one inserted first. -/
def lateRowFirst : OutboxTable :=
  ⟨[stagedRow 7 "send_email" [] [] 4 0, stagedRow 3 "send_email" [] [] 2 0],
    (by decide : ([7, 3] : List Uuid).Nodup)⟩

/-- A job queue that accepts every job. -/
def upQueue : JobQueue Unit := fun state _ _ _ => (none, state)

theorem tick_accounts_and_drains_two :
    Accounts singleRows 5 lateRowFirst (tick singleRows 5 upQueue lateRowFirst ()) ∧
      (calledIds (runTicks singleRows upQueue lateRowFirst () [5, 6]).calls).take 2 = [3, 7] ∧
      ∃ final ∈ (runTicks singleRows upQueue lateRowFirst () [5, 6]).outbox.rows,
        final.id = 7 ∧ final.status = .delivered := by
  have theRun := tick_accounts_and_drains singleRows (by decide) upQueue lateRowFirst ()
  have representable : ∀ row ∈ lateRowFirst.rows, Due 5 row →
      BackoffRepresentable singleRows 5 row.attempts := by
    have noAttempt : ∀ row ∈ lateRowFirst.rows, row.attempts = 0 := by decide
    intro row stored _ _
    rw [noAttempt row stored]
    exact ⟨30000000, rfl, Option.some_ne_none 30000005⟩
  have drained := theRun.2 5 [5, 6] (by decide) (by decide) (by
    intro call membership
    rcases List.mem_cons.mp membership with first | later
    · rw [first]
    · rw [List.mem_singleton.mp later])
  have isEligible : stagedRow 7 "send_email" [] [] 4 0 ∈ eligible 5 lateRowFirst :=
    mem_eligible.mpr ⟨List.mem_cons_self, by decide⟩
  exact ⟨theRun.1 5 representable, drained.2.1, drained.2.2 _ isEligible⟩

end StarterTemplate.Outbox
