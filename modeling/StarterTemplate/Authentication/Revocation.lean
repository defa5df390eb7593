import StarterTemplate.Authentication.RevocationProtocol

/-!
# Bulk revocation against rotation

A bulk revocation selects the tokens of a family or of a user and then marks each of
them.  It does not see the successor that an open rotation has inserted.  The
revocation is complete only as long as it and a rotation do not overlap.
-/

namespace StarterTemplate.Authentication.Revocation

open Library Database ReadCommitted

variable {Value : Type} {stage : SessionStage}

/-! ## The tokens of one family -/

/-- The row is an unrevoked token of the family. -/
def Unrevoked (familyId : Uuid) : Row → Prop
  | .refreshToken token => token.familyId = familyId ∧ token.revokedAt = none
  | _ => False

/-- A token of the family belongs to the user. -/
def BelongsTo (familyId userId : Uuid) : Row → Prop
  | .refreshToken token => token.familyId = familyId → token.userId = userId
  | _ => True

/-- The statement selects the tokens of the family for revocation, as a family or with
all others of its user. -/
def Covers (familyId userId : Uuid) : Site → Prop
  | .revokeFamily target => target = familyId
  | .revokeUser target => target = userId
  | _ => False

/-- The statement locks a token for rotation. -/
def IsRotation : Site → Prop
  | .rotate _ => True
  | _ => False

/-- A revocation that covers the family, and a rotation. -/
def RevokesDuring (familyId userId : Uuid) (left right : Site) : Prop :=
  Covers familyId userId left ∧ IsRotation right

variable {familyId userId : Uuid} {row : Row}

theorem Unrevoked.key_mem {rows : List Row} (unrevoked : Unrevoked familyId row)
    (member : row ∈ rows) : key row ∈ rows.filterMap unrevokedKey := by
  apply List.mem_filterMap.mpr
  refine ⟨row, member, ?_⟩
  cases row with
  | refreshToken token => exact if_pos unrevoked.2
  | _ => cases unrevoked

theorem Unrevoked.of_family (unrevoked : Unrevoked familyId row) :
    onTable Row.refreshToken? (fun token => token.familyId == familyId) row = true := by
  cases row with
  | refreshToken token => simpa [onTable, Row.refreshToken?] using unrevoked.1
  | _ => cases unrevoked

theorem Unrevoked.of_user (unrevoked : Unrevoked familyId row)
    (belongs : BelongsTo familyId userId row) :
    onTable Row.refreshToken? (fun token => token.userId == userId && token.revokedAt == none)
      row = true := by
  cases row with
  | refreshToken token =>
    simpa [onTable, Row.refreshToken?] using And.intro (belongs unrevoked.1) unrevoked.2
  | _ => cases unrevoked

variable {later : SessionStage} {test : Row → Bool} {selection site : Site} {change : Change Row}
variable {got : List Row} {next : List Row → Prog Row Site CacheCall CacheReply Value}
variable {pending : List RowKey}

/-- A patch that the protocol allows leaves no unrevoked token, and no token of the family
with another user. -/
theorem Handled.patched {stage : SessionStage} {patch : Patch Row}
    (handled : Handled stage test (.patch patch) later) (passes : test row = true) :
    ¬ Unrevoked familyId (patch.apply row) ∧
      (BelongsTo familyId userId row → BelongsTo familyId userId (patch.apply row)) := by
  have sameKey := patch.keeps row
  cases row with
  | refreshToken token =>
    cases handled with
    | updated _ _ spares =>
      simp [spares token] at passes
    | marked target _ revoking _ _ =>
      rcases revoking token with ⟨revoked, isRevoked, sameFamily, sameUser, isSome⟩
      rw [isRevoked]
      constructor
      · intro unrevoked
        exact isSome unrevoked.2
      · intro belongs inFamily
        rw [sameUser]
        exact belongs (sameFamily ▸ inFamily)
  | user other | credential other | internalToken other | auditEvent other | relationship other
  | outbox other =>
    cases patched : patch.apply _ with
    | refreshToken token =>
      simp [patched] at sameKey
    | _ => exact ⟨id, fun _ => trivial⟩

/-! ## The state of one transaction -/

/-- The row is among those that a revocation still has to mark. -/
def Targeted (selection : Site) (row : Row) :
    Code Row Site CacheCall CacheReply Value → SessionStage → Prop
  | .locking site test change pending got _, stage =>
    (site = selection ∧ (key row ∈ pending ∨ row ∈ got)) ∨
      ∃ targets, stage = .revoking selection targets ∧ key row ∈ targets ∧
        (test row = true → (∃ patch, change = .patch patch) → key row ∈ pending)
  | _, stage => ∃ targets, stage = .revoking selection targets ∧ key row ∈ targets

/-- What holds of a process at a stage of the protocol. -/
structure Steady (familyId userId : Uuid) (store : Table Row)
    (process : Process Row Site CacheCall CacheReply Value) (stage : SessionStage) : Prop where
  keeps : process.dropped = []
  ownUser : ∀ row ∈ process.own.rows, BelongsTo familyId userId row
  ownUnrevoked : ∀ row ∈ process.own.rows, Unrevoked familyId row →
    ∃ holder, stage = .holding familyId holder
  inside : ∀ site test change pending got next,
    process.code = .locking site test change pending got next →
    site ∈ process.visited ∧ ∀ row ∈ got, BelongsTo familyId userId row
  holding : ∀ family holder, stage = .holding family holder →
    (∃ tokenHash, Site.rotate tokenHash ∈ process.visited) ∧
      (family = familyId → holder = userId)
  covered : ∀ selection ∈ process.visited, Covers familyId userId selection →
    (∃ targets, stage = .revoking selection targets) ∨
      ∃ test change pending got next,
        process.code = .locking selection test change pending got next
  caught : ∀ selection ∈ process.visited, Covers familyId userId selection →
    ∀ row ∈ (process.view store).rows, Unrevoked familyId row →
      Targeted selection row process.code stage

variable {store : Table Row} {process : Process Row Site CacheCall CacheReply Value}

theorem Steady.fresh (code : Code Row Site CacheCall CacheReply Value)
    (notInside : ∀ site test change pending got next,
      code ≠ .locking site test change pending got next) :
    Steady familyId userId store (.fresh code) .idle where
  keeps := rfl
  ownUser _ member := by cases member
  ownUnrevoked _ member := by cases member
  inside _ _ _ _ _ _ isInside := absurd isInside (notInside _ _ _ _ _ _)
  holding _ _ isHolding := by cases isHolding
  covered _ member := by cases member
  caught _ member := by cases member

theorem Plain.not_covers (plain : Plain site) : ¬ Covers familyId userId site := by
  intro covers
  cases site with
  | revokeFamily | revokeUser => cases plain
  | _ => cases covers

section Steps

variable (steady : Steady familyId userId store process stage)
include steady

/-- Between two statements a process that has selected the family is marking it. -/
theorem Steady.covered_running (running : process.code.Running)
    (visited : selection ∈ process.visited) (covers : Covers familyId userId selection) :
    ∃ targets, stage = .revoking selection targets := by
  rcases running with ⟨prog, isRunning⟩
  rcases steady.covered selection visited covers with marking | ⟨_, _, _, _, _, isInside⟩
  · exact marking
  · simp [isRunning] at isInside

/-- Inside a statement it is marking the family or selecting it. -/
theorem Steady.covered_inside
    (code : process.code = .locking site test change pending got next)
    (visited : selection ∈ process.visited) (covers : Covers familyId userId selection) :
    (∃ targets, stage = .revoking selection targets) ∨ site = selection := by
  rcases steady.covered selection visited covers with marking | ⟨_, _, _, _, _, isInside⟩
  · exact .inl marking
  · rw [code] at isInside
    cases isInside
    exact .inr rfl

section

variable (running : process.code.Running)
include running

theorem Steady.caught_running (visited : selection ∈ process.visited)
    (covers : Covers familyId userId selection) {row : Row}
    (member : row ∈ (process.view store).rows) (unrevoked : Unrevoked familyId row) :
    ∃ targets, stage = .revoking selection targets ∧ key row ∈ targets := by
  have targeted := steady.caught selection visited covers row member unrevoked
  rcases running with ⟨prog, isRunning⟩
  rw [isRunning] at targeted
  exact targeted

/-- A step that changes neither the versions nor the stage. -/
theorem Steady.moved (rest : Prog Row Site CacheCall CacheReply Value) (visited : List Site)
    (grows : ∀ site ∈ process.visited, site ∈ visited)
    (plain : ∀ site ∈ visited, Covers familyId userId site → site ∈ process.visited) :
    Steady familyId userId store { process with code := .running rest, visited := visited }
      stage :=
  { steady with
    inside := fun _ _ _ _ _ _ isInside => by cases isInside
    holding := by
      intro family holder isHolding
      rcases steady.holding family holder isHolding with ⟨⟨tokenHash, before⟩, sameUser⟩
      exact ⟨⟨tokenHash, grows _ before⟩, sameUser⟩
    covered := fun selection member covers =>
      .inl (steady.covered_running running (plain selection member covers) covers)
    caught := fun selection member covers _ seen unrevoked =>
      steady.caught_running running (plain selection member covers) covers seen unrevoked }

theorem Steady.opened (locks : Locks sessionProtocol stage site test change)
    (next : List Row → Prog Row Site CacheCall CacheReply Value) :
    Steady familyId userId store
      { process with
        code := .locking site test change (((process.view store).rows.filter test).map key) [] next
        visited := site :: process.visited } stage := by
  have pending : ∀ row ∈ (process.view store).rows, test row = true →
      key row ∈ ((process.view store).rows.filter test).map key :=
    fun row seen passes => List.mem_map_of_mem (List.mem_filter.mpr ⟨seen, passes⟩)
  rcases locks with ⟨_, _, allowed⟩
  refine { steady with inside := ?_, holding := ?_, covered := ?_, caught := ?_ }
  · intro _ _ _ _ _ _ isInside
    cases isInside
    exact ⟨.head _, fun _ member => by cases member⟩
  · intro family holder isHolding
    rcases steady.holding family holder isHolding with ⟨⟨tokenHash, before⟩, sameUser⟩
    exact ⟨⟨tokenHash, .tail _ before⟩, sameUser⟩
  · intro selection member covers
    rcases List.mem_cons.mp member with isSite | old
    · exact .inr ⟨_, _, _, _, _, by rw [isSite]⟩
    · exact .inl (steady.covered_running running old covers)
  intro selection member covers row seen unrevoked
  rcases List.mem_cons.mp member with isSite | old
  · subst isSite
    cases allowed with
    | rotate => cases covers
    | revokeFamily target _ =>
      subst covers
      exact .inl ⟨rfl, .inl (pending row seen unrevoked.of_family)⟩
    | handled _ _ _ _ plain _ => exact absurd covers plain.not_covers
  · rcases steady.caught_running running old covers seen unrevoked with ⟨targets, marks, left⟩
    exact .inr ⟨targets, marks, left, fun passes _ => pending row seen passes⟩

end

/-- A row that is gone, or no longer found by the statement, was not to be marked. -/
theorem Steady.skipped {target : RowKey} (locks : Locks sessionProtocol stage site test change)
    (code : process.code = .locking site test change (target :: pending) got next)
    (gone : ∀ row ∈ (process.view store).rows, key row = target → test row = false) :
    Steady familyId userId store
      { process with code := .locking site test change pending got next } stage := by
  have waits : ∀ row ∈ (process.view store).rows, test row = true →
      key row ∈ target :: pending → key row ∈ pending := by
    intro row seen passes waiting
    rcases List.mem_cons.mp waiting with isTarget | later
    · simp [gone row seen isTarget] at passes
    · exact later
  rcases locks with ⟨_, _, allowed⟩
  refine { steady with inside := ?_, covered := ?_, caught := ?_ }
  · intro _ _ _ _ _ _ isInside
    cases isInside
    exact steady.inside _ _ _ _ _ _ code
  · intro selection visited covers
    exact (steady.covered_inside code visited covers).imp_right fun isSite =>
      ⟨_, _, _, _, _, by rw [isSite]⟩
  intro selection member covers row seen unrevoked
  have targeted := steady.caught selection member covers row seen unrevoked
  rw [code] at targeted
  rcases targeted with ⟨isSite, waiting | inGot⟩ | ⟨targets, marks, left, before⟩
  · subst isSite
    cases allowed with
    | rotate => cases covers
    | revokeFamily family _ =>
      subst covers
      exact .inl ⟨rfl, .inl (waits row seen unrevoked.of_family waiting)⟩
    | handled _ _ _ _ plain _ => exact absurd covers plain.not_covers
  · exact .inl ⟨isSite, .inr inGot⟩
  · exact .inr ⟨targets, marks, left, fun passes isPatch =>
      waits row seen passes (before passes isPatch)⟩

section Granted

variable (belongs : ∀ row ∈ store.rows, BelongsTo familyId userId row)
include belongs

theorem Steady.view_belongs :
    ∀ row ∈ (process.view store).rows, BelongsTo familyId userId row := by
  intro row member
  rcases (Process.mem_view.mp member).1 with own | ⟨old, _⟩
  · exact steady.ownUser row own
  · exact belongs row old

theorem Steady.selected (running : process.code.Running)
    (selects : Selects stage ((process.view store).rows.filter test) site test later)
    (rest : Prog Row Site CacheCall CacheReply Value) :
    Steady familyId userId store
      { process with code := .running rest, visited := site :: process.visited } later := by
  cases selects with
  | plain _ _ plain =>
    apply steady.moved running rest _ fun _ member => .tail _ member
    intro earlier member covers
    rcases List.mem_cons.mp member with isSite | old
    · rw [isSite] at covers
      exact absurd covers plain.not_covers
    · exact old
  | revokeUser target idle =>
    subst idle
    have isFirst : ∀ earlier ∈ .revokeUser target :: process.visited,
        Covers familyId userId earlier → earlier = .revokeUser target := by
      intro earlier member covers
      rcases List.mem_cons.mp member with isSite | old
      · exact isSite
      · rcases steady.covered_running running old covers with ⟨_, isRevoking⟩
        cases isRevoking
    refine { steady with
      ownUnrevoked := ?_, inside := ?_, holding := ?_, covered := ?_, caught := ?_ }
    · intro row member unrevoked
      rcases steady.ownUnrevoked row member unrevoked with ⟨_, isHolding⟩
      cases isHolding
    · simp
    · simp
    · intro selection member covers
      exact .inl ⟨_, by rw [isFirst selection member covers]⟩
    intro selection member covers row seen unrevoked
    have isSite := isFirst selection member covers
    subst isSite
    subst covers
    have passes := unrevoked.of_user (steady.view_belongs belongs row seen)
    exact ⟨_, rfl, unrevoked.key_mem (List.mem_filter.mpr ⟨seen, passes⟩)⟩

variable {row : Row} (found : row ∈ (process.view store).rows)
include found

/-- The rows that a statement has, after one more. -/
theorem Steady.inside_next
    (code : process.code = .locking site test change (key row :: pending) got next) :
    site ∈ process.visited ∧ ∀ other ∈ got ++ [row], BelongsTo familyId userId other := by
  rcases steady.inside _ _ _ _ _ _ code with ⟨visited, gotBelongs⟩
  refine ⟨visited, ?_⟩
  intro other member
  rcases List.mem_append.mp member with old | new
  · exact gotBelongs other old
  · rw [List.mem_singleton.mp new]
    exact steady.view_belongs belongs row found

theorem Steady.granted_keep
    (code : process.code = .locking site test .keep (key row :: pending) got next) :
    Steady familyId userId store
      (process.grant .keep row (.locking site test .keep pending (got ++ [row]) next)) stage := by
  refine { steady with inside := ?_, covered := ?_, caught := ?_ }
  · intro _ _ _ _ _ _ isInside
    cases isInside
    exact steady.inside_next belongs found code
  · intro selection visited covers
    exact (steady.covered_inside code visited covers).imp_right fun isSite =>
      ⟨_, _, _, _, _, by rw [← isSite]; rfl⟩
  intro selection member covers other seen unrevoked
  have targeted := steady.caught selection member covers other seen unrevoked
  rw [code] at targeted
  rcases targeted with ⟨isSite, waiting | old⟩ | ⟨targets, marks, left, _⟩
  · rcases List.mem_cons.mp waiting with isRow | later
    · have same := (process.view store).eq_of_key_eq seen found isRow
      exact .inl ⟨isSite, .inr (by simp [same])⟩
    · exact .inl ⟨isSite, .inl later⟩
  · exact .inl ⟨isSite, .inr (List.mem_append_left _ old)⟩
  · exact .inr ⟨targets, marks, left, fun _ ⟨_, isPatch⟩ => by cases isPatch⟩

theorem Steady.granted_patch {patch : Patch Row}
    (handled : Handled stage test (.patch patch) later)
    (code : process.code = .locking site test (.patch patch) (key row :: pending) got next)
    (passes : test row = true) :
    Steady familyId userId store
      (process.grant (.patch patch) row
        (.locking site test (.patch patch) pending (got ++ [row]) next)) stage := by
  rcases handled.patched passes with ⟨notUnrevoked, keepsUser⟩
  have notDropped : key row ∉ process.dropped := by
    rw [steady.keeps]
    exact List.not_mem_nil
  refine { steady with
    ownUser := ?_, ownUnrevoked := ?_, inside := ?_, covered := ?_, caught := ?_ }
  · intro other member
    rcases Table.mem_put.mp member with isNew | ⟨old, _⟩
    · rw [isNew]
      exact keepsUser (steady.view_belongs belongs row found)
    · exact steady.ownUser other old
  · intro other member unrevoked
    rcases Table.mem_put.mp member with isNew | ⟨old, _⟩
    · rw [isNew] at unrevoked
      exact absurd unrevoked notUnrevoked
    · exact steady.ownUnrevoked other old unrevoked
  · intro _ _ _ _ _ _ isInside
    cases isInside
    exact steady.inside_next belongs found code
  · intro selection visited covers
    exact (steady.covered_inside code visited covers).imp_right fun isSite =>
      ⟨_, _, _, _, _, by rw [← isSite]; rfl⟩
  intro selection member covers other seen unrevoked
  rcases (process.mem_view_grant_patch notDropped).mp seen with isNew | ⟨old, differ⟩
  · rw [isNew] at unrevoked
    exact absurd unrevoked notUnrevoked
  have targeted := steady.caught selection member covers other old unrevoked
  rw [code] at targeted
  rcases targeted with ⟨isSite, waiting | inGot⟩ | ⟨targets, marks, left, waits⟩
  · exact .inl ⟨isSite, .inl ((List.mem_cons.mp waiting).resolve_left differ)⟩
  · exact .inl ⟨isSite, .inr (List.mem_append_left _ inGot)⟩
  · exact .inr ⟨targets, marks, left, fun otherPasses isPatch =>
      (List.mem_cons.mp (waits otherPasses isPatch)).resolve_left differ⟩

theorem Steady.granted (locks : Locks sessionProtocol stage site test change)
    (code : process.code = .locking site test change (key row :: pending) got next)
    (passes : test row = true) :
    Steady familyId userId store
      (process.grant change row (.locking site test change pending (got ++ [row]) next)) stage := by
  rcases locks with ⟨_, _, allowed⟩
  cases allowed with
  | rotate | revokeFamily => exact steady.granted_keep belongs found code
  | handled _ _ _ _ _ handled =>
    cases change with
    | keep => exact steady.granted_keep belongs found code
    | patch patch => exact steady.granted_patch belongs found handled code passes
    | remove => cases handled

end Granted

/-- At the end of any locking statement that selects nothing for revocation. -/
theorem Steady.closed_handled (plain : Plain site) (handled : Handled stage test change later)
    (code : process.code = .locking site test change [] got next) :
    Steady familyId userId store { process with code := .running (next got) } later := by
  have marking : ∀ selection ∈ process.visited, Covers familyId userId selection →
      ∃ targets, stage = .revoking selection targets := by
    intro selection member covers
    refine (steady.covered_inside code member covers).resolve_right ?_
    intro isSite
    exact plain.not_covers (isSite ▸ covers)
  have left : ∀ selection ∈ process.visited, Covers familyId userId selection →
      ∀ row ∈ (process.view store).rows, Unrevoked familyId row →
        ∃ targets, stage = .revoking selection targets ∧ key row ∈ targets ∧
          (test row = true → ¬ ∃ patch, change = .patch patch) := by
    intro selection member covers row seen unrevoked
    have targeted := steady.caught selection member covers row seen unrevoked
    rw [code] at targeted
    rcases targeted with ⟨isSite, _⟩ | ⟨targets, marks, inTargets, waits⟩
    · rw [isSite] at plain
      exact absurd covers plain.not_covers
    · refine ⟨targets, marks, inTargets, ?_⟩
      intro passes isPatch
      cases waits passes isPatch
  have same : Steady familyId userId store { process with code := .running (next got) } stage := by
    refine { steady with inside := ?_, covered := ?_, caught := ?_ }
    · simp
    · intro selection member covers
      exact .inl (marking selection member covers)
    · intro selection member covers row seen unrevoked
      rcases left selection member covers row seen unrevoked with ⟨targets, marks, inTargets, _⟩
      exact ⟨targets, marks, inTargets⟩
  cases handled with
  | locked | updated => exact same
  | marked target patch _ _ marks =>
    cases marks with
    | holding | harmless => exact same
    | revoking selected targets =>
      refine { same with ownUnrevoked := ?_, holding := ?_, covered := ?_, caught := ?_ }
      · intro row member unrevoked
        rcases same.ownUnrevoked row member unrevoked with ⟨_, isHolding⟩
        cases isHolding
      · simp
      · intro selection member covers
        rcases marking selection member covers with ⟨_, isStage⟩
        cases isStage
        exact .inl ⟨_, rfl⟩
      intro selection member covers row seen unrevoked
      rcases left selection member covers row seen unrevoked with
        ⟨_, isStage, inTargets, notPatched⟩
      cases isStage
      refine ⟨targets, rfl, (List.mem_cons.mp inTargets).resolve_left ?_⟩
      intro isTarget
      exact notPatched (by simpa using isTarget) ⟨patch, rfl⟩

/-- Only a rotation that holds an unrevoked token inserts another one. -/
theorem Steady.inserted (running : process.code.Running) {row : Row}
    (rest : Prog Row Site CacheCall CacheReply Value)
    (allowed : ∀ token, row = .refreshToken token →
      stage = .holding token.familyId token.userId) :
    Steady familyId userId store (process.add row (.running rest)) stage := by
  have noneDropped : (process.add row (.running rest)).dropped = [] := by
    simp [Process.add, steady.keeps]
  have notDropped : key row ∉ process.dropped := by
    rw [steady.keeps]
    exact List.not_mem_nil
  have isHolding : Unrevoked familyId row → ∃ holder, stage = .holding familyId holder := by
    intro unrevoked
    cases row with
    | refreshToken token =>
      rw [← unrevoked.1]
      exact ⟨_, allowed token rfl⟩
    | _ => cases unrevoked
  refine { steady with
    keeps := noneDropped
    ownUser := ?_, ownUnrevoked := ?_, inside := ?_, covered := ?_, caught := ?_ }
  · intro other member
    rcases Table.mem_put.mp member with isNew | ⟨old, _⟩
    · subst isNew
      cases other with
      | refreshToken token => exact (steady.holding _ _ (allowed token rfl)).2
      | _ => trivial
    · exact steady.ownUser other old
  · intro other member unrevoked
    rcases Table.mem_put.mp member with isNew | ⟨old, _⟩
    · subst isNew
      exact isHolding unrevoked
    · exact steady.ownUnrevoked other old unrevoked
  · intro _ _ _ _ _ _ isInside
    cases isInside
  · intro selection member covers
    exact .inl (steady.covered_running running member covers)
  intro selection member covers other seen unrevoked
  rcases (Process.mem_view_put rfl (noneDropped.trans steady.keeps.symm) notDropped).mp seen
    with isNew | ⟨old, _⟩
  · subst isNew
    rcases steady.covered_running running member covers with ⟨_, isRevoking⟩
    rcases isHolding unrevoked with ⟨_, isHolding⟩
    simp [isRevoking] at isHolding
  · exact steady.caught_running running member covers old unrevoked

/-- An unrevoked token that a commit makes visible was inserted by a rotation. -/
theorem Steady.new_unrevoked {row : Row} (member : row ∈ (process.view store).rows)
    (unrevoked : Unrevoked familyId row) (new : row ∉ store.rows) :
    ∃ holder, stage = .holding familyId holder := by
  rcases (Process.mem_view.mp member).1 with own | ⟨old, _⟩
  · exact steady.ownUnrevoked row own unrevoked
  · exact absurd old new

/-- The commit of one transaction does not disturb another one that is apart from it. -/
theorem Steady.committedOther {other : Process Row Site CacheCall CacheReply Value}
    {otherStage : SessionStage}
    (apart : ReadCommitted.Apart (RevokesDuring familyId userId) other process)
    (otherSteady : Steady familyId userId store other otherStage) :
    Steady familyId userId (process.view store) other otherStage := by
  refine { otherSteady with caught := ?_ }
  intro selection member covers row seen unrevoked
  apply otherSteady.caught selection member covers row _ unrevoked
  rw [Process.mem_view] at seen ⊢
  refine ⟨seen.1.imp_right fun ⟨committed, notOwn⟩ => ⟨?_, notOwn⟩, seen.2⟩
  by_contra new
  rcases steady.new_unrevoked committed unrevoked new with ⟨_, isHolding⟩
  rcases (steady.holding _ _ isHolding).1 with ⟨tokenHash, rotating⟩
  exact apart selection member _ rotating ⟨covers, trivial⟩

end Steps

/-- A lock that leaves a transaction with a token to rotate has found it unrevoked. -/
theorem holding_of_record {family holder : Uuid}
    (isHolding : stageOfRecord (got.filterMap Row.refreshToken?).head? = .holding family holder) :
    ∃ token, .refreshToken token ∈ got ∧ token.familyId = family ∧ token.userId = holder ∧
      token.revokedAt = none := by
  cases found : (got.filterMap Row.refreshToken?).head? with
  | none =>
    rw [found] at isHolding
    cases isHolding
  | some record =>
    rw [found, stageOfRecord] at isHolding
    split at isHolding
    · cases isHolding
    rename_i notRevoked
    cases isHolding
    rcases List.mem_filterMap.mp (List.mem_of_head? found) with ⟨row, inGot, isToken⟩
    cases row with
    | refreshToken token =>
      cases isToken
      exact ⟨_, inGot, rfl, rfl, by simpa using notRevoked⟩
    | _ => cases isToken

/-- At the end of the lock on a presented token. -/
theorem Steady.closed_rotate (steady : Steady familyId userId store process .idle)
    {tokenHash : String}
    (code : process.code = .locking (.rotate tokenHash) test change [] got next) :
    Steady familyId userId store { process with code := .running (next got) }
      (stageOfRecord (got.filterMap Row.refreshToken?).head?) := by
  rcases steady.inside _ _ _ _ _ _ code with ⟨visited, gotBelongs⟩
  have notCovers : ∀ selection ∈ process.visited, ¬ Covers familyId userId selection := by
    intro selection member covers
    rcases steady.covered_inside code member covers with ⟨_, isRevoking⟩ | isSite
    · cases isRevoking
    · subst isSite
      cases covers
  refine { steady with
    ownUnrevoked := ?_, inside := ?_, holding := ?_, covered := ?_, caught := ?_ }
  · intro row member unrevoked
    rcases steady.ownUnrevoked row member unrevoked with ⟨_, isHolding⟩
    cases isHolding
  · simp
  · intro family holder isHolding
    rcases holding_of_record isHolding with ⟨token, inGot, isFamily, isHolder, _⟩
    exact ⟨⟨tokenHash, visited⟩, fun same =>
      isHolder.symm.trans (gotBelongs _ inGot (isFamily.trans same))⟩
  · intro selection member covers
    exact absurd covers (notCovers selection member)
  · intro selection member covers
    exact absurd covers (notCovers selection member)

/-- At the end of the selection of a family. -/
theorem Steady.closed_revokeFamily (steady : Steady familyId userId store process .harmless)
    {target : Uuid} (code : process.code = .locking (.revokeFamily target) test change [] got next) :
    Steady familyId userId store { process with code := .running (next got) }
      (.revoking (.revokeFamily target) (got.filterMap unrevokedKey)) := by
  refine { steady with
    ownUnrevoked := ?_, inside := ?_, holding := ?_, covered := ?_, caught := ?_ }
  · intro row member unrevoked
    rcases steady.ownUnrevoked row member unrevoked with ⟨_, isHolding⟩
    cases isHolding
  · simp
  · simp
  · intro selection member covers
    rcases steady.covered_inside code member covers with ⟨_, isRevoking⟩ | isSite
    · cases isRevoking
    · exact .inl ⟨_, by rw [isSite]⟩
  intro selection member covers row seen unrevoked
  have targeted := steady.caught selection member covers row seen unrevoked
  rw [code] at targeted
  rcases targeted with ⟨isSite, waiting | inGot⟩ | ⟨_, isRevoking, _, _⟩
  · cases waiting
  · exact ⟨_, by rw [isSite], unrevoked.key_mem inGot⟩
  · cases isRevoking

theorem Steady.closed (steady : Steady familyId userId store process stage)
    (code : process.code = .locking site test change [] got next)
    (allowed : LocksTokens stage got site test change later) :
    Steady familyId userId store { process with code := .running (next got) } later := by
  cases allowed with
  | rotate tokenHash _ idle =>
    subst idle
    exact steady.closed_rotate code
  | revokeFamily target harmless =>
    subst harmless
    exact steady.closed_revokeFamily code
  | handled _ _ _ _ plain handled => exact steady.closed_handled plain handled code

/-! ## After the revocation -/

variable {Pid : Type}

/-- A transaction that selected the family for revocation has committed. -/
def Closed (familyId userId : Uuid) (shared : Shared Pid Row Site PrincipalCache) : Prop :=
  ∃ pid site, (pid, site) ∈ shared.journal ∧ Covers familyId userId site

/-- The process does not rotate an unrevoked token of the family. -/
structure Barred (familyId : Uuid) (process : Process Row Site CacheCall CacheReply Value)
    (stage : SessionStage) : Prop where
  notHolding : ∀ holder, stage ≠ .holding familyId holder
  notLocked : ∀ tokenHash test change pending got next,
    process.code = .locking (.rotate tokenHash) test change pending got next →
    ∀ row ∈ got, ¬ Unrevoked familyId row

theorem Barred.running {stage : SessionStage}
    {process : Process Row Site CacheCall CacheReply Value} (running : process.code.Running)
    (notHolding : ∀ holder, stage ≠ .holding familyId holder) :
    Barred familyId process stage := by
  refine ⟨notHolding, ?_⟩
  intro _ _ _ _ _ _ isInside
  rcases running with ⟨prog, isRunning⟩
  simp [isRunning] at isInside

section

variable (barred : Barred familyId process stage)
include barred

/-- Such a process sees no unrevoked token of the family. -/
theorem Barred.view_revoked (steady : Steady familyId userId store process stage)
    (revoked : ∀ row ∈ store.rows, ¬ Unrevoked familyId row) :
    ∀ row ∈ (process.view store).rows, ¬ Unrevoked familyId row := by
  intro row member unrevoked
  by_cases old : row ∈ store.rows
  · exact revoked row old unrevoked
  · rcases steady.new_unrevoked member unrevoked old with ⟨holder, isHolding⟩
    exact barred.notHolding holder isHolding

theorem Barred.granted {row : Row}
    (code : process.code = .locking site test change (key row :: pending) got next)
    (notUnrevoked : ¬ Unrevoked familyId row) :
    Barred familyId
      (process.grant change row (.locking site test change pending (got ++ [row]) next)) stage := by
  refine ⟨barred.notHolding, ?_⟩
  intro tokenHash otherTest otherChange keys rows following isInside other member
  have isCode : Code.locking site test change pending (got ++ [row]) next =
      .locking (.rotate tokenHash) otherTest otherChange keys rows following := by
    cases change with
    | keep | patch | remove => exact isInside
  cases isCode
  rcases List.mem_append.mp member with old | new
  · exact barred.notLocked _ _ _ _ _ _ code other old
  · rw [List.mem_singleton.mp new]
    exact notUnrevoked

theorem Barred.closed (code : process.code = .locking site test change [] got next)
    (allowed : LocksTokens stage got site test change later) :
    Barred familyId { process with code := .running (next got) } later := by
  apply Barred.running ⟨_, rfl⟩
  intro holder isHolding
  cases allowed with
  | rotate tokenHash =>
    rcases holding_of_record isHolding with ⟨token, inGot, isFamily, _, notRevoked⟩
    exact barred.notLocked _ _ _ _ _ _ code _ inGot ⟨isFamily, notRevoked⟩
  | revokeFamily => cases isHolding
  | handled _ _ _ _ _ handled =>
    cases handled with
    | locked | updated => exact barred.notHolding holder isHolding
    | marked _ _ _ _ marks =>
      cases marks with
      | holding => exact barred.notHolding holder isHolding
      | harmless | revoking => cases isHolding

end

/-! ## Rotations and revocations side by side -/

/-- What is committed: the family has one user, and after a committed revocation no
unrevoked token. -/
structure FamilyState (familyId userId : Uuid) (shared : Shared Pid Row Site PrincipalCache) :
    Prop where
  belongs : ∀ row ∈ shared.store.rows, BelongsTo familyId userId row
  revoked : Closed familyId userId shared →
    ∀ row ∈ shared.store.rows, ¬ Unrevoked familyId row

/-- The state of a process, also with regard to a committed revocation. -/
structure Settled (familyId userId : Uuid) (shared : Shared Pid Row Site PrincipalCache)
    (process : Process Row Site CacheCall CacheReply Value) (stage : SessionStage) : Prop where
  steady : Steady familyId userId shared.store process stage
  barred : Closed familyId userId shared → Barred familyId process stage

variable {shared : Shared Pid Row Site PrincipalCache}

theorem Settled.fresh (code : Code Row Site CacheCall CacheReply Value)
    (notInside : ∀ site test change pending got next,
      code ≠ .locking site test change pending got next) :
    Settled familyId userId shared (.fresh code) .idle where
  steady := Steady.fresh code notInside
  barred _ := ⟨by simp, fun _ _ _ _ _ _ isInside => absurd isInside (notInside _ _ _ _ _ _)⟩

/-- A commit by a process that selected the family leaves it without unrevoked tokens. -/
theorem FamilyState.committed (state : FamilyState familyId userId shared)
    (settled : Settled familyId userId shared process stage) (running : process.code.Running)
    (marked : ∀ selection targets, stage = .revoking selection targets → targets = [])
    (pid : Pid) : FamilyState familyId userId (shared.commit pid process) := by
  refine ⟨settled.steady.view_belongs state.belongs, ?_⟩
  intro ⟨author, site, recorded, covers⟩ row member unrevoked
  rcases List.mem_append.mp recorded with new | old
  · rcases List.mem_map.mp new with ⟨selection, visited, isEntry⟩
    cases isEntry
    rcases settled.steady.caught_running running visited covers member unrevoked with
      ⟨targets, isRevoking, inTargets⟩
    simp [marked _ _ isRevoking] at inTargets
  · have closed : Closed familyId userId shared := ⟨author, site, old, covers⟩
    exact (settled.barred closed).view_revoked settled.steady (state.revoked closed) row member
      unrevoked

/-- A commit leaves the other processes settled. -/
theorem Settled.committedOther (settled : Settled familyId userId shared process stage)
    {other : Process Row Site CacheCall CacheReply Value} {otherStage : SessionStage}
    (before : ReadCommitted.Apart (RevokesDuring familyId userId) process other)
    (after : ReadCommitted.Apart (RevokesDuring familyId userId) other process)
    (otherSettled : Settled familyId userId shared other otherStage) (pid : Pid) :
    Settled familyId userId (shared.commit pid process) other otherStage := by
  refine ⟨settled.steady.committedOther after otherSettled.steady, ?_⟩
  intro ⟨author, site, recorded, covers⟩
  rcases List.mem_append.mp recorded with new | old
  · rcases List.mem_map.mp new with ⟨selection, visited, isEntry⟩
    cases isEntry
    constructor
    · intro holder isHolding
      rcases (otherSettled.steady.holding _ _ isHolding).1 with ⟨tokenHash, rotating⟩
      exact before site visited _ rotating ⟨covers, trivial⟩
    · intro tokenHash _ _ _ _ _ isInside
      have rotating := (otherSettled.steady.inside _ _ _ _ _ _ isInside).1
      exact absurd ⟨covers, trivial⟩ (before site visited _ rotating)
  · exact otherSettled.barred ⟨author, site, old, covers⟩

/-- Revocations of the family and rotations are kept apart. -/
def revocationDiscipline (Pid Value : Type) (familyId userId : Uuid) :
    Discipline model Pid Site Value SessionStage where
  protocol := sessionProtocol
  post := EndsSession
  conflict := RevokesDuring familyId userId
  valid := FamilyState familyId userId
  sound := Settled familyId userId
  selected := by
    intro shared process stage site test later rest state settled running allowed
    refine ⟨settled.steady.selected state.belongs running allowed rest, ?_⟩
    intro closed
    apply Barred.running ⟨_, rfl⟩
    cases allowed with
    | revokeUser => simp
    | plain => exact (settled.barred closed).notHolding
  opened := by
    intro shared process stage site test change next _ settled running locks
    refine ⟨settled.steady.opened running locks next, ?_⟩
    intro closed
    refine ⟨(settled.barred closed).notHolding, ?_⟩
    intro _ _ _ _ _ _ isInside row member
    cases isInside
    cases member
  granted := by
    intro shared process stage site test change pending got next row state settled locks code found
      passes
    refine ⟨settled.steady.granted state.belongs found locks code passes, ?_⟩
    intro closed
    have barred := settled.barred closed
    exact barred.granted code
      (barred.view_revoked settled.steady (state.revoked closed) row found)
  skipped := by
    intro shared process stage site test change target pending got next _ settled locks code gone
    refine ⟨settled.steady.skipped locks code gone, ?_⟩
    intro closed
    refine ⟨(settled.barred closed).notHolding, ?_⟩
    intro _ _ _ _ _ _ isInside
    cases isInside
    exact (settled.barred closed).notLocked _ _ _ _ _ _ code
  closed := by
    intro shared process stage site test change got next later _ settled code allowed
    exact ⟨settled.steady.closed code allowed, fun closed =>
      (settled.barred closed).closed code allowed⟩
  refused := by
    intro shared process stage row rest later _ settled running allowed
    rcases allowed with ⟨isLater, _⟩
    subst isLater
    exact ⟨settled.steady.moved running rest _ (fun _ member => member)
      fun _ member _ => member,
      fun closed => .running ⟨_, rfl⟩ (settled.barred closed).notHolding⟩
  inserted := by
    intro shared process stage row rest later _ settled running _ _ allowed
    rcases allowed with ⟨isLater, tokens⟩
    subst isLater
    exact ⟨settled.steady.inserted running rest tokens,
      fun closed => .running ⟨_, rfl⟩ (settled.barred closed).notHolding⟩
  committed := by
    intro shared pid process stage rest later state settled running allowed
    rcases allowed with ⟨isLater, marked⟩
    subst isLater
    exact ⟨state.committed settled running marked pid, Settled.fresh _ (by simp)⟩
  committedOther := by
    intro shared pid process stage other otherStage later _ settled _ _ before after otherSettled
    exact settled.committedOther before after otherSettled pid
  rolledBack := by
    intro shared process stage rest later _ _ allowed
    cases allowed
    exact Settled.fresh _ (by simp)
  called := by
    intro shared process stage request rest later state settled running allowed
    cases allowed
    exact ⟨⟨state.belongs, state.revoked⟩,
      settled.steady.moved running rest _ (fun _ member => member)
        fun _ member _ => member,
      fun closed => .running ⟨_, rfl⟩ (settled.barred closed).notHolding⟩
  calledOther := by
    intro shared process stage request other otherStage later _ _ _ _ _ _ otherSettled
    exact ⟨otherSettled.steady, otherSettled.barred⟩
  drifted := by
    intro shared change state
    exact ⟨⟨state.belongs, state.revoked⟩, fun _ _ settled => ⟨settled.steady, settled.barred⟩⟩
  aborted := by
    intro shared _
    exact ⟨.idle, Settled.fresh _ (by simp)⟩

/-! ## Main result -/

/-- One run of a use case that rotates or revokes refresh tokens. -/
inductive RevocationRun where
  | rotate (settings : SessionSettings) (input : SessionInput) (refreshToken : Option String)
  | confirmPasswordReset (input : SessionInput) (token newHash : String)
  | logoutAllSessions (input : SessionInput) (userId : Uuid)

def RevocationRun.prog : RevocationRun → App Unit
  | .rotate settings input refreshToken =>
    (Authentication.rotateRefreshToken settings input refreshToken).bind fun _ => .done ()
  | .confirmPasswordReset input token newHash =>
    (Authentication.confirmPasswordReset input token newHash).bind fun _ => .done ()
  | .logoutAllSessions input userId =>
    (Authentication.logoutAllSessions input userId).bind fun _ => .done ()

theorem RevocationRun.follows (revocation : RevocationRun) :
    revocation.prog.Follows sessionProtocol EndsSession .idle := by
  cases revocation with
  | rotate settings input refreshToken =>
    exact (rotateRefreshToken_follows settings input refreshToken).bind fun _ _ ended => ended
  | confirmPasswordReset input token newHash =>
    exact (confirmPasswordReset_follows input token newHash).bind fun _ _ ended => ended
  | logoutAllSessions input userId =>
    exact (logoutAllSessions_follows input userId).bind fun _ _ ended => ended

/-- The runs about to begin over a store. -/
def revoking (store : Table Row) (cache : PrincipalCache) (runs : Pid → RevocationRun) :
    AppSys Pid Unit :=
  ⟨store, cache, fun pid => .fresh (.running (runs pid).prog), []⟩

variable [DecidableEq Pid] [Fintype Pid]

/-- In every interleaving of rotations and revocations in which no revocation of the
family or its user overlaps with a rotation, the family has no unrevoked token left once
such a revocation has committed. -/
theorem revoked_after_revocation {cache : PrincipalCache} {runs : Pid → RevocationRun}
    {events : List (AppEvent Pid)} {finish : AppSys Pid Unit}
    (belongs : ∀ row ∈ store.rows, BelongsTo familyId userId row)
    (apart : Meets (Sys.step model) (Separate (RevokesDuring familyId userId))
      (revoking store cache runs) events)
    (reached : run (Sys.step model) (revoking store cache runs) events = some finish)
    {pid : Pid} {site : Site} (committed : (pid, site) ∈ finish.journal)
    (covers : Covers familyId userId site) :
    ∀ row ∈ finish.store.rows, ¬ Unrevoked familyId row := by
  have initial : (revocationDiscipline Pid Unit familyId userId).Holds
      (revoking store cache runs) fun _ => .idle := by
    constructor
    · refine ⟨belongs, ?_⟩
      intro ⟨_, _, recorded, _⟩
      cases recorded
    · intro pid
      exact (runs pid).follows
    · intro pid
      exact Settled.fresh _ (by simp)
    · intro left right _
      exact (Discipline.apart_fresh _ _).1
  rcases Discipline.holds_of_run initial apart reached with ⟨_, final⟩
  exact final.valid.revoked ⟨pid, site, committed, covers⟩

/-! ### A rotation and a logout -/

def sessionSettings : SessionSettings := ⟨30, false⟩

/-- The surroundings of a process, with tokens and ids of its own. -/
def sessionInput (pid : Bool) : SessionInput where
  ipAddress := none
  userAgent := none
  hashToken := id
  issue _ _ := ("access", 900)
  now := 0
  writtenAt := 0
  rawRefresh := if pid then "unused" else "successor"
  tokenId := if pid then 20 else 10
  familyId := 99
  auditId := if pid then 21 else 11
  credentialId := 22

/-- The token that is rotated. -/
def presented : RefreshTokenRow where
  id := 5
  userId := 1
  tokenHash := "presented"
  familyId := 7
  expiresAt := 1000000
  revokedAt := none
  replacedByTokenId := none
  createdIp := none
  userAgent := none

def oneSession : Table Row :=
  ⟨[.user resetUser, .refreshToken presented], by simp [key, resetUser, presented]⟩

def rotateAndLogout (pid : Bool) : RevocationRun :=
  if pid then .logoutAllSessions (sessionInput true) 1
  else .rotate sessionSettings (sessionInput false) (some "presented")

/-- The logout selects the tokens between the insertion of the successor and its commit:
when both have finished, the successor is unrevoked. -/
theorem successor_escapes :
    ∃ finish,
      run (Sys.step model) (revoking oneSession emptyCache rotateAndLogout)
          (List.replicate 6 (.exec false) ++ [.exec true] ++ List.replicate 5 (.exec false) ++
            List.replicate 7 (.exec true)) = some finish ∧
        (∀ pid, (finish.procs pid).code = .running (.done ())) ∧
        (true, Site.revokeUser 1) ∈ finish.journal ∧
        ∃ row ∈ finish.store.rows, Unrevoked 7 row := by
  refine ⟨_, rfl, ?_, ?_, ?_⟩
  · intro pid
    cases pid with
    | false => rfl
    | true => rfl
  · exact List.mem_of_getElem? (i := 1) rfl
  · exact ⟨_, List.mem_of_getElem? (i := 2) rfl, rfl, rfl⟩

/-- The logout after the rotation. -/
theorem revoked_after_revocation_logout :
    ∃ finish,
      run (Sys.step model) (revoking oneSession emptyCache rotateAndLogout)
          (List.replicate 11 (.exec false) ++ List.replicate 8 (.exec true)) = some finish ∧
        finish.store.rows.length = 5 ∧ ∀ row ∈ finish.store.rows, ¬ Unrevoked 7 row := by
  have belongs : ∀ row ∈ oneSession.rows, BelongsTo 7 1 row := by
    intro row membership
    rcases List.mem_cons.mp membership with isUser | isToken
    · rw [isUser]
      trivial
    · rw [List.mem_singleton.mp isToken]
      exact fun _ => rfl
  have apart : Meets (Sys.step model) (Separate (RevokesDuring 7 1))
      (revoking oneSession emptyCache rotateAndLogout)
      (List.replicate 11 (.exec false) ++ List.replicate 8 (.exec true)) := by
    apply meets_append.mpr
    constructor
    · exact separate_alone false 11 fun _ _ => rfl
    · intro middle reached
      cases reached
      apply separate_alone true 8
      intro other differ
      cases other with
      | false => rfl
      | true => exact absurd rfl differ
  exact ⟨_, rfl, rfl, revoked_after_revocation belongs apart rfl
    (List.mem_of_getElem? (i := 1) rfl) rfl⟩

end StarterTemplate.Authentication.Revocation
