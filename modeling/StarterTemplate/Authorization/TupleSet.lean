import StarterTemplate.Authorization.Lookups
import StarterTemplate.Library.Interruption
import StarterTemplate.Users.UseCases

/-!
# The adapter as a set of tuples

`write_relationships`, `delete_relationships` and `check` of the SQL adapter, called one
after another, refine a set of tuples with a version for each user.  A write adds its batch
and a delete removes it, both raise the versions of the users that the batch names, and a
call that raises changes nothing.
-/

namespace StarterTemplate.Authorization.Adapter

open Library Database Authentication Users Prog

/-! ## The set -/

/-- The tuple names a user by a UUID. -/
def Names (userId : Uuid) (tuple : Relationship) : Prop :=
  tuple.subjectType = "user" ∧ Uuid.parse tuple.subjectId = some userId

instance (userId : Uuid) (tuple : Relationship) : Decidable (Names userId tuple) :=
  inferInstanceAs (Decidable (_ ∧ _))

/-- A set of tuples, and the version of each user that exists. -/
structure TupleSet where
  tuples : Set Relationship
  versions : Uuid → Option Int

namespace TupleSet

/-- The versions of the users that the batch names are one higher. -/
def raised (versions : Uuid → Option Int) (batch : List Relationship) (userId : Uuid) :
    Option Int :=
  if ∃ tuple ∈ batch, Names userId tuple then (versions userId).map (· + 1) else versions userId

/-- Add a batch. -/
def add (set : TupleSet) (batch : List Relationship) : TupleSet where
  tuples := set.tuples ∪ {tuple | tuple ∈ batch}
  versions := raised set.versions batch

/-- Remove a batch. -/
def remove (set : TupleSet) (batch : List Relationship) : TupleSet where
  tuples := set.tuples \ {tuple | tuple ∈ batch}
  versions := raised set.versions batch

end TupleSet

/-- The version of a user in the tables. -/
def versionOf (content : Tables) (userId : Uuid) : Option Int :=
  ((content .user).find? fun user => user.id == userId).map UserRow.authzVersion

/-- The set that the tables hold. -/
def tupleSet (content : Tables) : TupleSet where
  tuples := {tuple | tuple ∈ (content .relationship).map RelationshipRow.tuple}
  versions := versionOf content

/-! ## Bumps -/

variable (tuples : List Relationship) (now : Instant)

section Effects

variable {committed seen content : Tables}

theorem mem_userSubjectIds {tuples : List Relationship} {userId : Uuid} :
    userId ∈ userSubjectIds tuples ↔ ∃ tuple ∈ tuples, Names userId tuple := by
  rw [userSubjectIds, List.mem_eraseDups, List.mem_filterMap]
  constructor
  · intro ⟨tuple, isTuple, isId⟩
    split at isId
    · rename_i isUser
      exact ⟨tuple, isTuple, isUser, isId⟩
    · cases isId
  · intro ⟨tuple, isTuple, isUser, isId⟩
    exact ⟨tuple, isTuple, by rw [if_pos isUser, isId]⟩

/-- What `_bump_affected_users` makes of a row. -/
def bumpedIn (ids : List Uuid) (now : Instant) (user : UserRow) : UserRow :=
  if user.id ∈ ids then { user with authzVersion := user.authzVersion + 1, updatedAt := now }
  else user

theorem shows_bumpAffectedUsers :
    Triple model (Shows committed seen) (bumpAffectedUsers tuples now)
      fun _ => Shows committed (seen.mark .user (bumpedIn (userSubjectIds tuples) now)) := by
  rw [bumpAffectedUsers]
  have distinctIds : (userSubjectIds tuples).Nodup := nodup_eraseDups _
  generalize userSubjectIds tuples = ids at distinctIds
  induction ids generalizing seen with
  | nil =>
    rw [Tables.mark_eq_self fun _ _ => by simp [bumpedIn]]
    exact ⟨fun _ holds => holds⟩
  | cons first ids ih =>
    rw [List.nodup_cons] at distinctIds
    rw [Prog.forEach, Prog.bind_assoc]
    apply (shows_bumpAuthzVersion first now).bind
    intro _
    apply (ih distinctIds.2).imp
    intro _ state holds
    rw [Tables.mark_mark] at holds
    rw [Tables.mark_congr]
    · exact holds
    intro user _
    by_cases isFirst : user.id = first
    · simp [bumpedIn, bumped, isFirst, distinctIds.1]
    · simp [bumpedIn, bumped, isFirst]

theorem versionOf_bumpedIn (content : Tables) (tuples : List Relationship) (now : Instant) :
    versionOf (content.mark .user (bumpedIn (userSubjectIds tuples) now)) =
      TupleSet.raised (versionOf content) tuples := by
  funext userId
  have sameIds : (fun user : UserRow => user.id == userId) ∘
      bumpedIn (userSubjectIds tuples) now = fun user => user.id == userId := by
    funext user
    simp only [Function.comp_apply, bumpedIn]
    split
    · rfl
    · rfl
  rw [versionOf, Tables.mark_self, List.find?_map, sameIds, TupleSet.raised, versionOf]
  cases found : (content .user).find? fun user => user.id == userId with
  | none => simp
  | some user =>
    have isUser : user.id = userId := by simpa using List.find?_some found
    simp only [Option.map_some, bumpedIn, isUser, mem_userSubjectIds]
    split
    · rfl
    · rfl

/-! ## Writes and deletes -/

/-- The tables with the tuples that were not stored yet. -/
def addMissing : Tables → List RelationshipRow → Tables
  | content, [] => content
  | content, row :: rows =>
    addMissing
      (if (content .relationship).any fun old => old.tuple == row.tuple then content
        else content.add (.relationship row)) rows

/-- The rows have ids of their own. -/
def NewIds (records rows : List RelationshipRow) : Prop :=
  (rows.map RelationshipRow.id).Nodup ∧ ∀ row ∈ rows, ∀ old ∈ records, old.id ≠ row.id

section

variable {records rows : List RelationshipRow} {row : RelationshipRow}
  (new : NewIds records (row :: rows))
include new

theorem NewIds.tail : NewIds records rows :=
  ⟨(List.nodup_cons.mp new.1).2, fun later isLater => new.2 later (.tail _ isLater)⟩

theorem NewIds.tail_add : NewIds (records ++ [row]) rows := by
  have unequal := (List.nodup_cons.mp new.1).1
  refine ⟨new.tail.1, ?_⟩
  intro later isLater old isOld
  rcases List.mem_append.mp isOld with stored | isRow
  · exact new.tail.2 later isLater old stored
  · rw [List.mem_singleton.mp isRow]
    intro same
    exact unequal (List.mem_map.mpr ⟨later, isLater, same.symm⟩)

end

theorem shows_insertMissing (rows : List RelationshipRow) :
    Triple model (Shows committed seen) (insertMissing rows)
      fun inserted state =>
        if inserted then Shows committed (addMissing seen rows) state
        else ¬ NewIds (seen .relationship) rows ∧ ∃ later, Shows committed later state := by
  induction rows generalizing seen with
  | nil => exact ⟨fun _ holds => holds⟩
  | cons row rows ih =>
    apply (shows_select .relationship _ _).bind_knowing
    intro found isFound
    have isStored : found.isEmpty =
        !(seen .relationship).any fun old => old.tuple == row.tuple := by
      rw [← not_isEmpty_filter, Bool.not_not, isFound]
    rw [addMissing]
    cases stored : (seen .relationship).any fun old => old.tuple == row.tuple with
    | true =>
      rw [stored] at isStored
      simp only [isStored, Bool.not_true, Bool.false_eq_true, if_false, if_true]
      apply ih.imp
      intro inserted state outcome
      cases inserted with
      | true => exact outcome
      | false => exact ⟨fun new => outcome.1 new.tail, outcome.2⟩
    | false =>
      rw [stored] at isStored
      simp only [isStored, Bool.not_false, Bool.false_eq_true, if_true, if_false]
      apply (shows_insert (.relationship row)).bind
      intro inserted
      cases inserted with
      | true =>
        apply Triple.assuming
        intro _
        apply ih.imp
        intro later state outcome
        cases later with
        | true => exact outcome
        | false => exact ⟨fun new => outcome.1 new.tail_add, outcome.2⟩
      | false =>
        apply Triple.assuming
        intro violated
        refine ⟨fun state holds => ⟨?_, seen, holds⟩⟩
        intro new
        rcases violated with ⟨old, isOld, sameKey | clash⟩
        · exact new.2 row (.head _) old isOld
            (RowKey.relationship.inj sameKey).symm
        have same : old.tuple = row.tuple := (beq_iff_eq.mp clash).symm
        have held : (seen .relationship).any (fun old => old.tuple == row.tuple) = true :=
          List.any_eq_true.mpr ⟨old, isOld, beq_iff_eq.mpr same⟩
        simp [stored] at held

theorem addMissing_user (content : Tables) (rows : List RelationshipRow) :
    addMissing content rows .user = content .user := by
  induction rows generalizing content with
  | nil => rfl
  | cons row rows ih =>
    rw [addMissing, ih]
    split
    · rfl
    · rfl

/-- A write adds its tuples, each of them once. -/
theorem addMissing_relationship (content : Tables) (rows : List RelationshipRow) :
    (∀ tuple, tuple ∈ (addMissing content rows .relationship).map RelationshipRow.tuple ↔
      tuple ∈ (content .relationship).map RelationshipRow.tuple ∨
        tuple ∈ rows.map RelationshipRow.tuple) ∧
    (((content .relationship).map RelationshipRow.tuple).Nodup →
      ((addMissing content rows .relationship).map RelationshipRow.tuple).Nodup) := by
  induction rows generalizing content with
  | nil => simp [addMissing]
  | cons row rows ih =>
    rw [addMissing]
    cases stored : (content .relationship).any fun old => old.tuple == row.tuple with
    | true =>
      rcases List.any_eq_true.mp stored with ⟨old, isOld, same⟩
      rw [beq_iff_eq] at same
      simp only [if_true]
      refine ⟨?_, (ih content).2⟩
      intro tuple
      rw [(ih content).1, List.map_cons, List.mem_cons]
      constructor
      · intro possible
        exact possible.imp_right .inr
      intro possible
      rcases possible with held | isRow | later
      · exact .inl held
      · rw [isRow, ← same]
        exact .inl (List.mem_map_of_mem isOld)
      · exact .inr later
    | false =>
      have isNew : row.tuple ∉ (content .relationship).map RelationshipRow.tuple := by
        intro held
        rcases List.mem_map.mp held with ⟨old, isOld, same⟩
        have found : (content .relationship).any (fun old => old.tuple == row.tuple) = true :=
          List.any_eq_true.mpr ⟨old, isOld, beq_iff_eq.mpr same⟩
        simp [stored] at found
      have added : ((content.add (.relationship row)) .relationship).map
          RelationshipRow.tuple =
            (content .relationship).map RelationshipRow.tuple ++ [row.tuple] := by
        rw [show (content.add (.relationship row)) .relationship =
          content .relationship ++ [row] from rfl, List.map_append, List.map_singleton]
      simp only [Bool.false_eq_true, if_false]
      constructor
      · intro tuple
        rw [(ih _).1, added, List.mem_append, List.mem_singleton, List.map_cons,
          List.mem_cons, or_assoc]
      intro nodup
      apply (ih _).2
      rw [added, List.nodup_append]
      refine ⟨nodup, List.nodup_singleton _, ?_⟩
      intro tuple held other isOther same
      rw [same, List.mem_singleton.mp isOther] at held
      exact isNew held

/-- The stored tuples are pairwise different. -/
def NoDuplicates (content : Tables) : Prop :=
  ((content .relationship).map RelationshipRow.tuple).Nodup

/-- What a call that changes the tables leaves: the set of the specification, without
duplicates. -/
structure Becomes (before : Tables) (set : TupleSet) (after : Tables) : Prop where
  isSet : tupleSet after = set
  noDuplicates : NoDuplicates before → NoDuplicates after

theorem becomes_unchanged (content : Tables) : Becomes content (tupleSet content) content :=
  ⟨rfl, id⟩

/-- A batch without tuples names nobody. -/
theorem TupleSet.raised_nil (versions : Uuid → Option Int) : raised versions [] = versions := by
  funext userId
  simp [raised]

theorem becomes_added (rows : List RelationshipRow) (now : Instant) :
    Becomes content ((tupleSet content).add (rows.map RelationshipRow.tuple))
      ((addMissing content rows).mark .user
        (bumpedIn (userSubjectIds (rows.map RelationshipRow.tuple)) now)) := by
  have added := addMissing_relationship content rows
  have sameRelationships : ((addMissing content rows).mark .user
      (bumpedIn (userSubjectIds (rows.map RelationshipRow.tuple)) now)) .relationship =
        addMissing content rows .relationship := Tables.mark_of_ne _ (by decide)
  constructor
  · rw [TupleSet.add, tupleSet, versionOf_bumpedIn, sameRelationships]
    congr 1
    · ext tuple
      exact added.1 tuple
    have sameUsers : versionOf (addMissing content rows) = versionOf content := by
      funext userId
      rw [versionOf, addMissing_user, versionOf]
    rw [sameUsers]
    rfl
  · intro nodup
    exact added.2 nodup

theorem becomes_removed :
    Becomes content ((tupleSet content).remove tuples)
      ((content.keep .relationship fun row => !decide (row.tuple ∈ tuples)).mark .user
        (bumpedIn (userSubjectIds tuples) now)) := by
  have sameRelationships : ((content.keep .relationship
      fun row => !decide (row.tuple ∈ tuples)).mark .user
        (bumpedIn (userSubjectIds tuples) now)) .relationship =
          (content .relationship).filter fun row => !decide (row.tuple ∈ tuples) := by
    rw [Tables.mark_of_ne _ (by decide), Tables.keep_self]
  constructor
  · rw [TupleSet.remove, tupleSet, versionOf_bumpedIn, sameRelationships]
    congr 1
    ext tuple
    simp only [Set.mem_ofPred_eq, Set.mem_sdiff, List.mem_map, List.mem_filter, tupleSet,
      Bool.not_eq_true', decide_eq_false_iff_not]
    constructor
    · intro ⟨row, ⟨stored, absent⟩, same⟩
      rw [← same]
      exact ⟨⟨row, stored, rfl⟩, absent⟩
    · intro ⟨⟨row, stored, same⟩, absent⟩
      rw [← same] at absent
      exact ⟨row, ⟨stored, absent⟩, same⟩
  · intro nodup
    exact nodup.sublist (List.filter_sublist.map _)

theorem shows_deleteTuples :
    Triple model (Shows committed seen) (Prog.forEach deleteTuple tuples)
      fun _ => Shows committed
        (seen.keep .relationship fun row => !decide (row.tuple ∈ tuples)) := by
  induction tuples generalizing seen with
  | nil =>
    rw [Tables.keep_eq_self fun _ _ => by simp]
    exact ⟨fun _ holds => holds⟩
  | cons tuple tuples ih =>
    apply (shows_delete .relationship _ _).bind
    intro _
    apply ih.imp
    intro _ state holds
    rw [Tables.keep_keep] at holds
    rw [Tables.keep_congr]
    · exact holds
    intro row _
    by_cases same : row.tuple = tuple
    · simp [same]
    · simp [same]

theorem writeRelationships_effect (rows : List RelationshipRow) (now : Instant) :
    Triple model (Shows content content) (writeRelationships rows now)
      fun answer state =>
        (answer = .ok () ∧ Becomes content
          ((tupleSet content).add (rows.map RelationshipRow.tuple)) (tables state.store)) ∨
        (answer = .raised "IntegrityError" ∧ ¬ NewIds (content .relationship) rows ∧
          tables state.store = content) := by
  cases rows with
  | nil =>
    constructor
    intro state holds
    refine .inl ⟨rfl, ?_⟩
    have unchanged : (tupleSet content).add [] = tupleSet content := by
      simp [TupleSet.add, TupleSet.raised_nil]
    rw [List.map_nil, unchanged]
    change Becomes content (tupleSet content) (tables state.store)
    rw [holds.committed]
    exact becomes_unchanged content
  | cons row rows =>
    apply (shows_insertMissing (row :: rows)).bind
    intro inserted
    cases inserted with
    | true =>
      apply (shows_bumpAffectedUsers _ now).bind
      intro _
      apply shows_commit.bind
      intro _
      constructor
      intro state holds
      refine .inl ⟨rfl, ?_⟩
      change Becomes content _ (tables state.store)
      rw [holds.committed]
      exact becomes_added (row :: rows) now
    | false =>
      apply Triple.assuming
      intro refused
      apply Triple.exists_
      intro later
      apply shows_rollback.bind
      intro _
      exact ⟨fun _ holds => .inr ⟨rfl, refused, holds.committed⟩⟩

theorem deleteRelationships_effect :
    Triple model (Shows content content) (deleteRelationships tuples now)
      fun answer state => answer = .ok () ∧
        Becomes content ((tupleSet content).remove tuples) (tables state.store) := by
  cases tuples with
  | nil =>
    constructor
    intro state holds
    refine ⟨rfl, ?_⟩
    have unchanged : (tupleSet content).remove [] = tupleSet content := by
      simp [TupleSet.remove, TupleSet.raised_nil]
    rw [unchanged]
    change Becomes content (tupleSet content) (tables state.store)
    rw [holds.committed]
    exact becomes_unchanged content
  | cons tuple tuples =>
    apply (shows_deleteTuples (tuple :: tuples)).bind
    intro _
    apply (shows_bumpAffectedUsers _ now).bind
    intro _
    apply shows_commit.bind
    intro _
    constructor
    intro state holds
    refine ⟨rfl, ?_⟩
    change Becomes content _ (tables state.store)
    rw [holds.committed]
    exact becomes_removed (tuple :: tuples) now

end Effects

/-! ## Calls, one after another -/

/-- The calls; a write comes with the ids that its rows would get. -/
inductive Request where
  | write (rows : List RelationshipRow) (now : Instant)
  | delete (tuples : List Relationship) (now : Instant)
  | check (userId : Uuid) (action resourceType resourceId : String)

/-- A call, and after how many of its statements an exception is raised at the next one, in a
bump or elsewhere. -/
structure Call where
  request : Request
  failure : Option Nat

/-- What a call returns; `failed` is the exception from outside. -/
inductive Reply where
  | changed (answer : Answer Unit)
  | checked (answer : Option (Except UnknownAction Bool))
  | failed

def Request.program (registry : Registry) : Request → App Reply
  | .write rows now => (writeRelationships rows now).bind fun answer => done (.changed answer)
  | .delete tuples now => (deleteRelationships tuples now).bind fun answer => done (.changed answer)
  | .check userId action resourceType resourceId =>
    (Adapter.check registry (registry.parents.length + 1) userId action resourceType
      resourceId).bind fun answer => done (.checked answer)

/-- Serve one call. -/
def serve (registry : Registry) (backend : Backend) (call : Call) : Reply × Backend :=
  match call.failure with
  | none => backend.execute (call.request.program registry)
  | some count =>
    let point := (call.request.program registry).progress model backend.store backend.cache count
    if point.rest.IsStatement then (.failed, ⟨point.abandoned, point.state.env⟩)
    else backend.execute (call.request.program registry)

/-- A call that was served. -/
abbrev Served := Finished Backend Call Reply

/-- What a call makes of the set: a write that returned adds its batch, a delete removes it. -/
def specStep (set : TupleSet) (call : Served) : TupleSet :=
  match call.request.request, call.answer with
  | .write rows _, .changed (.ok _) => set.add (rows.map RelationshipRow.tuple)
  | .delete tuples _, .changed (.ok _) => set.remove tuples
  | _, _ => set

/-! ### Exceptions -/

/-- Nothing is guarded. -/
def unguarded (_ : RowKey) : Bool := false

theorem spares_unguarded (test : Row → Bool) : Spares unguarded test := fun _ _ => rfl

theorem quiet_bumpAffectedUsers :
    (bumpAffectedUsers tuples now).Quiet unguarded := by
  apply Quiet.forEach
  intro userId
  have bumps : (bumpAuthzVersion userId now).Quiet unguarded := by
    intro rows
    simp only [Prog.bind, pure_eq_done]
    cases (rows.filterMap Row.user?).head? with
    | none => trivial
    | some user => exact (Quiet.flush _ _ rfl).bind fun _ => trivial
  exact bumps.bind fun _ => trivial

theorem quiet_insertMissing (rows : List RelationshipRow) :
    (insertMissing rows).Quiet unguarded := by
  induction rows with
  | nil => trivial
  | cons row rows ih =>
    intro found
    simp only [Prog.bind]
    split
    · intro inserted
      cases inserted with
      | true => exact ih
      | false => trivial
    · exact ih

theorem commitsLast_program (registry : Registry) (request : Request) :
    (request.program registry).CommitsLast unguarded fun _ => True := by
  cases request with
  | write rows now =>
    rw [Request.program, writeRelationships]
    split
    · trivial
    rw [bind_eq, Prog.bind_assoc]
    apply (quiet_insertMissing rows).commitsLast
    intro inserted
    cases inserted with
    | false => trivial
    | true =>
      simp only [if_true, bind_eq]
      rw [Prog.bind_assoc]
      exact (quiet_bumpAffectedUsers _ _).commitsLast fun _ => trivial
  | delete tuples now =>
    rw [Request.program, deleteRelationships]
    split
    · trivial
    have deletes : (Prog.forEach deleteTuple tuples).Quiet unguarded :=
      Quiet.forEach _ fun _ => ⟨spares_unguarded _, fun _ => trivial⟩
    rw [bind_eq, Prog.bind_assoc]
    apply deletes.commitsLast
    intro _
    rw [bind_eq, Prog.bind_assoc]
    exact (quiet_bumpAffectedUsers _ _).commitsLast fun _ => trivial
  | check userId action resourceType resourceId =>
    rw [Request.program, Adapter.check]
    split
    · trivial
    split
    · trivial
    · trivial
    · split
      · trivial
      · exact fun _ => trivial

/-! ### Refinement -/

/-- What a call that is not interrupted returns and leaves. -/
def Outcome (content : Tables) (request : Request) (reply : Reply) (after : Tables) : Prop :=
  match request with
  | .write rows _ =>
    (reply = .changed (.ok ()) ∧
      Becomes content ((tupleSet content).add (rows.map RelationshipRow.tuple)) after) ∨
    (reply = .changed (.raised "IntegrityError") ∧ ¬ NewIds (content .relationship) rows ∧
      after = content)
  | .delete tuples _ =>
    reply = .changed (.ok ()) ∧ Becomes content ((tupleSet content).remove tuples) after
  | .check _ _ _ _ => (∃ answer, reply = .checked answer) ∧ after = content

theorem shows_existsRelation {committed seen : Tables} (resourceType resourceId : String)
    (relations : List String) (userId : Uuid) :
    Triple model (Shows committed seen) (existsRelation resourceType resourceId relations userId)
      fun _ => Shows committed seen := by
  apply (shows_select .relationship _ _).bind
  intro _
  exact ⟨fun _ holds => holds.2⟩

theorem program_effect (registry : Registry) (request : Request) {content : Tables} :
    Triple model (Shows content content) (request.program registry)
      fun reply state => Outcome content request reply (tables state.store) := by
  cases request with
  | write rows now =>
    apply (writeRelationships_effect rows now).bind
    intro answer
    constructor
    intro state outcome
    rcases outcome with ⟨isOk, becomes⟩ | ⟨isRaised, refused, unchanged⟩
    · exact .inl ⟨congrArg Reply.changed isOk, becomes⟩
    · exact .inr ⟨congrArg Reply.changed isRaised, refused, unchanged⟩
  | delete tuples now =>
    apply (deleteRelationships_effect tuples now).bind
    intro answer
    exact ⟨fun _ outcome => ⟨congrArg Reply.changed outcome.1, outcome.2⟩⟩
  | check userId action resourceType resourceId =>
    have reads : Triple model (Shows content content)
        (Adapter.check registry (registry.parents.length + 1) userId action resourceType
          resourceId) fun _ => Shows content content := by
      rw [Adapter.check]
      split
      · exact ⟨fun _ holds => holds⟩
      split
      · exact ⟨fun _ holds => holds⟩
      · exact ⟨fun _ holds => holds⟩
      · split
        · exact ⟨fun _ holds => holds⟩
        · exact (shows_existsRelation _ _ _ _).bind fun _ => ⟨fun _ holds => holds⟩
    apply reads.bind
    intro answer
    exact ⟨fun _ holds => ⟨⟨answer, rfl⟩, holds.committed⟩⟩

section

variable (registry : Registry) (backend : Backend)
include registry backend

/-- A call is interrupted and leaves the tables as they are, or runs to its end. -/
theorem serve_cases (call : Call) :
    ((serve registry backend call).1 = .failed ∧
      (serve registry backend call).2.store = backend.store ∧ call.failure ≠ none) ∨
    serve registry backend call = backend.execute (call.request.program registry) := by
  rw [serve]
  cases call.failure with
  | none => exact .inr rfl
  | some count =>
    simp only
    split
    · rename_i statement
      exact .inl ⟨rfl, (commitsLast_program registry call.request).abandoned statement,
        Option.some_ne_none _⟩
    · exact .inr rfl

theorem execute_outcome (request : Request) :
    Outcome backend.tables request (backend.execute (request.program registry)).1
      (backend.execute (request.program registry)).2.tables := by
  rcases execute_spec (program_effect registry request) with ⟨state, outcome, isStore⟩
  rw [← isStore] at outcome
  exact outcome

/-- One call does to the tables what the specification does to the set. -/
theorem becomes_serve (call : Call) :
    Becomes backend.tables
      (specStep (tupleSet backend.tables) (finished (serve registry) backend call))
      (serve registry backend call).2.tables := by
  rcases serve_cases registry backend call with ⟨failed, unchanged, _⟩ | executed
  · have isStep : specStep (tupleSet backend.tables) (finished (serve registry) backend call) =
        tupleSet backend.tables := by
      simp only [specStep, finished, failed]
      cases call.request with
      | _ => rfl
    have sameTables : (serve registry backend call).2.tables = backend.tables :=
      congrArg tables unchanged
    rw [isStep, sameTables]
    exact becomes_unchanged _
  have outcome := execute_outcome registry backend call.request
  rw [← executed] at outcome
  simp only [specStep, finished]
  cases isRequest : call.request with
  | write rows now =>
    rw [isRequest] at outcome
    rcases outcome with ⟨isOk, becomes⟩ | ⟨isRaised, _, isAfter⟩
    · rw [isOk]
      exact becomes
    · rw [isRaised, isAfter]
      exact becomes_unchanged _
  | delete tuples now =>
    rw [isRequest] at outcome
    rw [outcome.1]
    exact outcome.2
  | check userId action resourceType resourceId =>
    rw [isRequest] at outcome
    rcases outcome with ⟨⟨answer, isAnswer⟩, isAfter⟩
    rw [isAnswer, isAfter]
    exact becomes_unchanged _

end

/-- What a call returns: a write with new ids and a delete succeed, a check of a stored type asks
the set, and an exception from outside leaves the rows as they were. -/
structure Answers (registry : Registry) (call : Served) : Prop where
  write : ∀ rows now, call.request = ⟨.write rows now, none⟩ →
    NewIds (call.before.tables .relationship) rows → call.answer = .changed (.ok ())
  delete : ∀ tuples now, call.request = ⟨.delete tuples now, none⟩ →
    call.answer = .changed (.ok ())
  check : ∀ userId action resourceType resourceId required expanded,
    call.request = ⟨.check userId action resourceType resourceId, none⟩ →
    registry.hasStoredRelations resourceType = true →
    registry.relationsFor resourceType action = .ok required →
    registry.expandRelations resourceType required = .ok expanded →
    ∃ allowed, call.answer = .checked (some (.ok allowed)) ∧
      (allowed = true ↔ ∃ tuple ∈ (tupleSet call.before.tables).tuples,
        tuple.resourceType = resourceType ∧ tuple.resourceId = resourceId ∧
        tuple.relation ∈ expanded ∧ tuple.subjectType = "user" ∧
        tuple.subjectId = userId.str)
  failed : call.answer = .failed → call.after.store = call.before.store

theorem answers_serve (registry : Registry) (backend : Backend) (call : Call) :
    Answers registry (finished (serve registry) backend call) where
  write rows now isCall new := by
    subst isCall
    have outcome := execute_outcome registry backend (.write rows now)
    rcases outcome with ⟨isOk, _⟩ | ⟨_, refused, _⟩
    · exact isOk
    · exact absurd new refused
  delete tuples now isCall := by
    subst isCall
    exact (execute_outcome registry backend (.delete tuples now)).1
  check userId action resourceType resourceId required expanded isCall isLeaf known isExpanded := by
    subst isCall
    rcases Option.isSome_iff_exists.mp isLeaf with ⟨leaf, stored⟩
    have answered : ((Adapter.check registry (registry.parents.length + 1) userId action
        resourceType resourceId).execute model backend.store backend.cache).1 = _ :=
      check_stored stored registry.parents.length
    rw [lookupPlan_stored stored, known] at answered
    simp only [isExpanded] at answered
    have isReply : (finished (serve registry) backend
        ⟨.check userId action resourceType resourceId, none⟩).answer =
          .checked ((Adapter.check registry (registry.parents.length + 1) userId action
            resourceType resourceId).execute model backend.store backend.cache).1 := by
      change ((Prog.bind _ _).alone model ⟨backend.store, backend.store, backend.cache⟩).1 = _
      rw [alone_bind]
      rfl
    rw [isReply, answered]
    refine ⟨_, rfl, ?_⟩
    simp only [List.any_eq_true, grants, Bool.and_eq_true, beq_iff_eq, List.contains_iff_mem]
    constructor
    · rintro ⟨tuple, isStored, ⟨⟨⟨ofType, related⟩, isUser⟩, isText⟩, ofId⟩
      exact ⟨tuple, isStored, ofType, ofId, related, isUser, isText⟩
    · rintro ⟨tuple, isStored, ofType, ofId, related, isUser, isText⟩
      exact ⟨tuple, isStored, ⟨⟨⟨ofType, related⟩, isUser⟩, isText⟩, ofId⟩
  failed isFailed := by
    rcases serve_cases registry backend call with ⟨_, unchanged, _⟩ | executed
    · exact unchanged
    change (serve registry backend call).1 = .failed at isFailed
    have outcome := execute_outcome registry backend call.request
    rw [← executed, isFailed] at outcome
    cases isRequest : call.request with
    | write rows now =>
      rw [isRequest] at outcome
      rcases outcome with ⟨isOk, _⟩ | ⟨isRaised, _⟩
      · cases isOk
      · cases isRaised
    | delete tuples now =>
      rw [isRequest] at outcome
      cases outcome.1
    | check userId action resourceType resourceId =>
      rw [isRequest] at outcome
      rcases outcome.1 with ⟨_, isAnswer⟩
      cases isAnswer

/-- The tables hold the set of the specification, without duplicates, and every call so far has
answered as it says. -/
structure Refines (registry : Registry) (start : Backend) (past : List Served)
    (backend : Backend) : Prop where
  isSet : tupleSet backend.tables = past.foldl specStep (tupleSet start.tables)
  noDuplicates : NoDuplicates backend.tables
  answers : ∀ call ∈ past, Answers registry call

/-- The adapter is a set of tuples: from a table without duplicates, whatever the calls. -/
theorem adapter_is_tuple_set (registry : Registry) (start : Backend) (calls : List Call)
    (noDuplicates : NoDuplicates start.tables) :
    Refines registry start (history (serve registry) start calls)
      (served (serve registry) start calls) := by
  have preserved : ∀ (past : List Served) backend call, Refines registry start past backend →
      True → Refines registry start (past ++ [finished (serve registry) backend call])
        (serve registry backend call).2 := by
    intro past backend call refines _
    have becomes := becomes_serve registry backend call
    constructor
    · rw [List.foldl_append, ← refines.isSet, becomes.isSet]
      rfl
    · exact becomes.noDuplicates refines.noDuplicates
    · intro other isOther
      rcases List.mem_append.mp isOther with earlier | isLast
      · exact refines.answers other earlier
      · rw [List.mem_singleton.mp isLast]
        exact answers_serve registry backend call
  have initial : Refines registry start [] start := ⟨rfl, noDuplicates, fun _ absent => by
    cases absent⟩
  exact invariant_of_served preserved initial fun _ _ _ _ => trivial

/-- One user with the version 1, and no tuple. -/
def oneUser : Backend :=
  ⟨⟨[.user ⟨1, "a@example.com", true, true, false, 1, 0, none⟩], by decide⟩, noCache⟩

/-- A batch with a duplicate, a write whose bump raises, the delete of an absent tuple, and a
check. -/
def fourCalls : List Call :=
  [⟨.write [⟨10, onBoard "b1" "owner" (Uuid.str 1)⟩, ⟨11, onBoard "b1" "owner" (Uuid.str 1)⟩] 5,
      none⟩,
    ⟨.write [⟨12, onBoard "b2" "owner" (Uuid.str 1)⟩] 6, some 2⟩,
    ⟨.delete [onBoard "b3" "owner" (Uuid.str 1)] 7, none⟩,
    ⟨.check 1 "read" "board" "b1", none⟩]

/-- The first and the third call raise the version, the second one leaves nothing. -/
theorem adapter_is_tuple_set_boards :
    Refines boards oneUser (history (serve boards) oneUser fourCalls)
      (served (serve boards) oneUser fourCalls) ∧
    storedTuples (served (serve boards) oneUser fourCalls).store =
      [onBoard "b1" "owner" (Uuid.str 1)] ∧
    versionOf (served (serve boards) oneUser fourCalls).tables 1 = some 3 := by
  have noDuplicates : NoDuplicates oneUser.tables := List.nodup_nil
  refine ⟨adapter_is_tuple_set boards oneUser fourCalls noDuplicates, ?_, ?_⟩
  · decide +kernel
  · decide +kernel

end StarterTemplate.Authorization.Adapter
