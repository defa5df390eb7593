import Mathlib.Data.Fintype.Option
import StarterTemplate.Authentication.CacheProtocol
import StarterTemplate.Users.AuthzVersion

/-!
# Revocation and the principal cache

Any number of resolves run beside one `ConfirmPasswordReset` or `DeactivateUser`.  A
resolve that has read the old row writes it to the cache whenever it comes to that, also
after the invalidation; and `DeactivateUser` invalidates before it commits the bump.  As
long as no resolve of the user is between its read and its write at the last step of the
revoking run, and the cache holds no principal of the user when that step is the commit,
a resolve that starts after the run has returned is answered for the committed version
only.
-/

namespace StarterTemplate.Authentication

open Library Database ReadCommitted Users

/-- How a process of either kind ends. -/
inductive Outcome where
  | resolved (answer : Answer Principal)
  | revoked (answer : Answer Unit)

/-- The program of a resolve of a valid token. -/
def resolveProgram (payload : AccessTokenPayload) : App Outcome :=
  (resolvePrincipal (some payload)).bind fun answer => .done (.resolved answer)

/-- One run that revokes a user. -/
inductive RevokingRun where
  | confirmPasswordReset (input : SessionInput) (token newHash : String)
  | deactivateUser (input : LifecycleInput) (userId : Uuid)

def RevokingRun.program : RevokingRun → App Outcome
  | .confirmPasswordReset input token newHash =>
    (Authentication.confirmPasswordReset input token newHash).bind fun answer =>
      .done (.revoked answer)
  | .deactivateUser input userId =>
    (Users.deactivateUser input userId).bind fun answer => .done (.revoked answer)

/-- One revoking run, as the process `none`, and any number of resolves, none of which has
begun. -/
def resolving {Index : Type} (store : Table Row) (cache : PrincipalCache)
    (revocation : RevokingRun) (tokens : Index → AccessTokenPayload) :
    AppSys (Option Index) Outcome where
  store := store
  env := cache
  procs
    | none => .fresh (.running revocation.program)
    | some index => .fresh (.running (resolveProgram (tokens index)))
  journal := []

/-- The process of a system. -/
abbrev AppCode := Code Row Site CacheCall CacheReply Outcome

/-- The process is about to cache a principal of the user. -/
def Filling (userId : Uuid) (code : AppCode) : Prop :=
  ∃ tokenId principal next,
    code = .running (.call (.set tokenId principal) next) ∧ principal.userId = userId

/-- The process ends with the invalidation of the user. -/
def EndsByInvalidation (userId : Uuid) (code : AppCode) : Prop :=
  ∃ next result, code = .running (.call (.invalidateUser userId) next) ∧ next () = .done result

/-- The process ends with the commit of a bump of the user. -/
def EndsByBump (userId : Uuid) (process : Process Row Site CacheCall CacheReply Outcome) : Prop :=
  (∃ result, process.code = .running (.commit (.done result))) ∧
    Site.bump userId ∈ process.visited

/-- The condition on a step: a run that revokes the user takes its last step only when no
resolve is between its read and its write of a principal of the user and, if that step is
the commit, when the cache holds no principal of the user. -/
def Undisturbed {Index : Type} (userId : Uuid) (sys : AppSys (Option Index) Outcome) :
    AppEvent (Option Index) → Prop
  | .exec pid =>
    (EndsByInvalidation userId (sys.procs pid).code →
      ∀ other, ¬ Filling userId (sys.procs other).code) ∧
    (EndsByBump userId (sys.procs pid) →
      (∀ other, ¬ Filling userId (sys.procs other).code) ∧
        ∀ entry ∈ sys.env.entries, entry.principal.userId ≠ userId)
  | .abort _ | .drift _ => True

/-! ## The steps of a resolve -/

variable {userId : Uuid} {payload : AccessTokenPayload}

/-- Where a resolve can stand. -/
inductive ResolveAt (payload : AccessTokenPayload) : AppCode → Prop where
  | started : ResolveAt payload (.running (resolveProgram payload))
  | missed :
      ResolveAt payload (.running ((answerCached payload none).bind fun answer =>
        .done (.resolved answer)))
  | filling (user : UserRow) (backs : Backs payload user) :
      ResolveAt payload (.running (.call (.set payload.tokenId (.ofUser user)) fun _ =>
        .done (.resolved (.ok (.ofUser user)))))
  | stale (error : AuthError) :
      ResolveAt payload (.running (.call (.pop payload.tokenId) fun _ =>
        .done (.resolved (.err error))))
  | answered (answer : Answer Principal) : ResolveAt payload (.running (.done (.resolved answer)))
  | aborted : ResolveAt payload .aborted

/-- What the next step of a resolve does to its code and to the cache. -/
inductive ResolveStep (payload : AccessTokenPayload) (view : Table Row) :
    AppCode → PrincipalCache → AppCode → PrincipalCache → Prop where
  | hit (cache : PrincipalCache) (principal : Principal)
      (cached : cache.get payload.tokenId = some principal) :
      ResolveStep payload view (.running (resolveProgram payload)) cache
        (.running (.done (.resolved (.ok principal)))) cache
  | missed (cache : PrincipalCache) :
      ResolveStep payload view (.running (resolveProgram payload)) cache
        (.running ((answerCached payload none).bind fun answer => .done (.resolved answer))) cache
  | read (cache : PrincipalCache) (user : UserRow) (present : Row.user user ∈ view.rows)
      (backs : Backs payload user) :
      ResolveStep payload view
        (.running ((answerCached payload none).bind fun answer => .done (.resolved answer))) cache
        (.running (.call (.set payload.tokenId (.ofUser user)) fun _ =>
          .done (.resolved (.ok (.ofUser user))))) cache
  | turned (cache : PrincipalCache) (error : AuthError) :
      ResolveStep payload view
        (.running ((answerCached payload none).bind fun answer => .done (.resolved answer))) cache
        (.running (.call (.pop payload.tokenId) fun _ => .done (.resolved (.err error)))) cache
  | refused (cache : PrincipalCache) (error : AuthError) :
      ResolveStep payload view
        (.running ((answerCached payload none).bind fun answer => .done (.resolved answer))) cache
        (.running (.done (.resolved (.err error)))) cache
  | filled (cache : PrincipalCache) (user : UserRow) (backs : Backs payload user) :
      ResolveStep payload view
        (.running (.call (.set payload.tokenId (.ofUser user)) fun _ =>
          .done (.resolved (.ok (.ofUser user))))) cache
        (.running (.done (.resolved (.ok (.ofUser user))))) (cache.set payload.tokenId (.ofUser user))
  | popped (cache : PrincipalCache) (error : AuthError) :
      ResolveStep payload view
        (.running (.call (.pop payload.tokenId) fun _ => .done (.resolved (.err error)))) cache
        (.running (.done (.resolved (.err error)))) (cache.pop payload.tokenId)

theorem ResolveStep.at {view : Table Row} {before after : AppCode} {cache later : PrincipalCache}
    (step : ResolveStep payload view before cache after later) : ResolveAt payload after := by
  cases step with
  | hit | refused | filled | popped => exact .answered _
  | missed => exact .missed
  | read _ user present backs => exact .filling user backs
  | turned => exact .stale _

/-- The first step. -/
theorem resolveStep_cached (view : Table Row) (cache : PrincipalCache) :
    ResolveStep payload view (.running (resolveProgram payload)) cache
      (.running ((answerCached payload (cache.get payload.tokenId)).bind fun answer =>
        .done (.resolved answer))) cache := by
  cases cached : cache.get payload.tokenId with
  | none => exact .missed cache
  | some principal => exact .hit cache principal cached

/-- The step after a miss. -/
theorem resolveStep_read (view : Table Row) (cache : PrincipalCache) :
    ResolveStep payload view
      (.running ((answerCached payload none).bind fun answer => .done (.resolved answer))) cache
      (.running ((answerRead payload ((view.rows.filter (onTable Row.user? fun user =>
        user.id == payload.subject && !user.isErased)).filterMap Row.user?).head?).bind
        fun answer => .done (.resolved answer))) cache := by
  cases found : ((view.rows.filter (onTable Row.user? fun user =>
      user.id == payload.subject && !user.isErased)).filterMap Row.user?).head? with
  | none => exact .refused cache _
  | some user =>
    rcases mem_of_getById found with ⟨present, isUser, kept⟩
    simp only [answerRead]
    split
    · exact .refused cache _
    rename_i active
    split
    · exact .turned cache _
    · rename_i current
      exact .read cache user present
        ⟨isUser, by simpa using active, kept, by simpa using current⟩

section Steps

variable {Pid : Type} [Fintype Pid] [DecidableEq Pid] {sys next : AppSys Pid Outcome} {pid : Pid}

/-- A step of a resolve commits nothing. -/
theorem ResolveAt.exec (resolve : ResolveAt payload (sys.procs pid).code)
    (enabled : sys.exec model pid = some next) :
    ∃ process, next.procs = (sys.set pid process).procs ∧ next.store = sys.store ∧
      process.own = (sys.procs pid).own ∧ process.dropped = (sys.procs pid).dropped ∧
      ResolveStep payload (sys.view pid) (sys.procs pid).code sys.env process.code next.env := by
  generalize isCode : (sys.procs pid).code = code at resolve
  simp only [Sys.exec, isCode] at enabled
  cases resolve with
  | started =>
    cases enabled
    exact ⟨_, rfl, rfl, rfl, rfl, resolveStep_cached _ _⟩
  | missed =>
    cases enabled
    exact ⟨_, rfl, rfl, rfl, rfl, resolveStep_read _ _⟩
  | filling user backs =>
    cases enabled
    exact ⟨_, rfl, rfl, rfl, rfl, .filled _ user backs⟩
  | stale error =>
    cases enabled
    exact ⟨_, rfl, rfl, rfl, rfl, .popped _ error⟩
  | answered | aborted => cases enabled

end Steps

/-! ## The state of the revoking run -/

variable {process later : Process Row Site CacheCall CacheReply Outcome}
variable {stage next : ExposureStage}

/-- Outside its statements, and inside a statement that spares the row. -/
def Tame (userId : Uuid) (code : AppCode) : Prop :=
  ∀ site test change pending got next, code = .locking site test change pending got next →
    ∀ row, test row = true → key row ≠ .user userId

/-- What holds of the revoking run at a stage. -/
structure Revokes (userId : Uuid) (process : Process Row Site CacheCall CacheReply Outcome)
    (stage : ExposureStage) : Prop where
  follows : process.code.Follows (exposureProtocol userId) (fun _ _ => True) stage
  clean : stage = .clean → Tame userId process.code →
    RowKey.user userId ∉ process.own.rows.map key ∧ RowKey.user userId ∉ process.dropped
  dirty : stage = .dirty → Site.bump userId ∈ process.visited
  inside : ∀ site test change pending got next,
    process.code = .locking site test change pending got next → site ∈ process.visited

theorem tame_running (prog : App Outcome) : Tame userId (.running prog) := by
  intro _ _ _ _ _ _ isLocking
  cases isLocking

/-- A process between two statements is not inside one. -/
theorem inside_running {visited : List Site} (prog : App Outcome) :
    ∀ site test change pending got next,
      (.running prog : Code Row Site CacheCall CacheReply Outcome) =
        .locking site test change pending got next → site ∈ visited := by
  simp

theorem revokes_fresh {prog : App Outcome} (notDirty : stage ≠ .dirty)
    (follows : prog.Follows (exposureProtocol userId) (fun _ _ => True) stage) :
    Revokes userId (.fresh (.running prog)) stage where
  follows := follows
  clean _ _ := by simp [Process.fresh]
  dirty isDirty := absurd isDirty notDirty
  inside _ _ _ _ _ _ isLocking := by cases isLocking

/-- A step between two statements that leaves the row and the stage alone. -/
theorem Revokes.moved (revokes : Revokes userId process stage)
    (tame : Tame userId later.code → Tame userId process.code)
    (follows : later.code.Follows (exposureProtocol userId) (fun _ _ => True) stage)
    (own : RowKey.user userId ∉ process.own.rows.map key → Tame userId later.code →
      RowKey.user userId ∉ later.own.rows.map key)
    (dropped : RowKey.user userId ∉ process.dropped → Tame userId later.code →
      RowKey.user userId ∉ later.dropped)
    (visited : ∀ site ∈ process.visited, site ∈ later.visited)
    (inside : ∀ site test change pending got next,
      later.code = .locking site test change pending got next → site ∈ later.visited) :
    Revokes userId later stage where
  follows := follows
  clean isClean isTame :=
    (revokes.clean isClean (tame isTame)).imp (own · isTame) (dropped · isTame)
  dirty isDirty := visited _ (revokes.dirty isDirty)
  inside := inside

/-- Outside its statements the run can only end, or invalidate the user. -/
theorem follows_closed {prog : App Outcome} (closed : ¬ stage.Open)
    (follows : prog.Follows (exposureProtocol userId) (fun _ _ => True) stage) :
    (∃ result, prog = .done result) ∨
      (stage = .exposed ∧ ∃ rest, prog = .call (.invalidateUser userId) rest) := by
  cases prog with
  | done result => exact .inl ⟨result, rfl⟩
  | select =>
    rcases follows [] (by simp) with ⟨_, ⟨isOpen, _⟩, _⟩
    contradiction
  | lock =>
    rcases follows [] (by simp) with ⟨_, locks, _⟩
    cases locks with
    | bump | other => contradiction
  | insert =>
    rcases follows true with ⟨_, ⟨isOpen, _⟩, _⟩
    contradiction
  | commit =>
    rcases follows with ⟨_, commits, _⟩
    cases commits with
    | clean | dirty => simp [ExposureStage.Open] at closed
  | rollback =>
    rcases follows with ⟨_, ⟨isOpen, _⟩, _⟩
    contradiction
  | call request rest =>
    have reply : Nonempty (CacheReply request) := by
      cases request with
      | get => exact ⟨(none : Option Principal)⟩
      | set | pop | invalidateUser => exact ⟨()⟩
    rcases reply with ⟨reply⟩
    rcases follows reply with ⟨_, calls, _⟩
    cases calls with
    | early => contradiction
    | last => exact .inr ⟨rfl, rest, rfl⟩

section Advancing

variable {Pid : Type} [DecidableEq Pid] {sys following : AppSys Pid Outcome} {pid : Pid}

/-- Locking a row of another key keeps the user's row unwritten. -/
theorem unwritten_grant {change : Change Row} {row : Row} {code : AppCode}
    (other : key row ≠ .user userId) :
    (RowKey.user userId ∉ process.own.rows.map key →
      RowKey.user userId ∉ (process.grant change row code).own.rows.map key) ∧
    (RowKey.user userId ∉ process.dropped →
      RowKey.user userId ∉ (process.grant change row code).dropped) := by
  cases change with
  | keep => exact ⟨id, id⟩
  | patch patch =>
    refine ⟨?_, id⟩
    intro unwritten written
    rcases Table.mem_keys_put.mp written with isRow | old
    · exact other ((patch.keeps row).symm.trans isRow.symm)
    · exact unwritten old
  | remove =>
    refine ⟨id, ?_⟩
    intro kept
    simp [Process.grant, other.symm, kept]

/-- A step of the revoking run. -/
theorem Revokes.advanced (revokes : Revokes userId (sys.procs pid) stage)
    (advanced : Advanced (exposureProtocol userId) model sys pid stage following next)
    (follows : (following.procs pid).code.Follows (exposureProtocol userId) (fun _ _ => True)
      next) : Revokes userId (following.procs pid) next := by
  cases advanced with
  | selected site test rest running begins _ allowed =>
    rcases allowed with ⟨_, isSame⟩
    subst isSame
    rcases running with ⟨prog, code⟩
    rw [Sys.set_procs_self] at follows ⊢
    exact revokes.moved (fun _ => code ▸ tame_running prog) follows (fun unwritten _ => unwritten)
      (fun kept _ => kept) (fun _ => List.mem_cons_of_mem _) (inside_running _)
  | opened site test change rest code =>
    rw [Sys.set_procs_self] at follows ⊢
    refine revokes.moved (fun _ => code ▸ tame_running _) follows (fun unwritten _ => unwritten)
      (fun kept _ => kept) (fun _ => List.mem_cons_of_mem _) ?_
    intro _ _ _ _ _ _ isLocking
    cases isLocking
    exact .head _
  | granted site test change pending got rest row code _ _ passes =>
    rw [Sys.set_procs_self] at follows ⊢
    have member := revokes.inside _ _ _ _ _ _ code
    have spares : Tame userId ((sys.procs pid).grant change row
        (.locking site test change pending (got ++ [row]) rest)).code →
        ∀ other, test other = true → key other ≠ .user userId := by
      intro tame
      cases change with
      | keep | patch | remove => exact tame _ _ _ _ _ _ rfl
    refine revokes.moved ?_ follows ?_ ?_ ?_ ?_
    · intro tame _ _ _ _ _ _ isLocking
      rw [code] at isLocking
      cases isLocking
      exact spares tame
    · exact fun unwritten tame => (unwritten_grant (spares tame row passes)).1 unwritten
    · exact fun kept tame => (unwritten_grant (spares tame row passes)).2 kept
    · cases change with
      | keep | patch | remove => exact fun _ => id
    intro _ _ _ _ _ _ isLocking
    cases change with
    | keep | patch | remove =>
      cases isLocking
      exact member
  | skipped site test change target pending got rest code gone =>
    rw [Sys.set_procs_self] at follows ⊢
    have member := revokes.inside _ _ _ _ _ _ code
    refine revokes.moved ?_ follows (fun unwritten _ => unwritten) (fun kept _ => kept)
      (fun _ => id) ?_
    · intro tame _ _ _ _ _ _ isLocking
      rw [code] at isLocking
      cases isLocking
      exact tame _ _ _ _ _ _ rfl
    · intro _ _ _ _ _ _ isLocking
      cases isLocking
      exact member
  | closed site test change got rest code _ allowed =>
    rw [Sys.set_procs_self] at follows ⊢
    cases allowed with
    | bump _ isOpen =>
      exact ⟨follows, by simp, fun _ => revokes.inside _ _ _ _ _ _ code, inside_running _⟩
    | other _ _ isOpen spares =>
      refine revokes.moved ?_ follows (fun unwritten _ => unwritten) (fun kept _ => kept)
        (fun _ => id) (inside_running _)
      intro _ _ _ _ _ _ _ isLocking
      rw [code] at isLocking
      cases isLocking
      exact spares
  | refused row rest running _ allowed =>
    rcases allowed with ⟨_, isSame, _⟩
    subst isSame
    rcases running with ⟨prog, code⟩
    rw [Sys.set_procs_self] at follows ⊢
    exact revokes.moved (fun _ => code ▸ tame_running prog) follows (fun unwritten _ => unwritten)
      (fun kept _ => kept) (fun _ => id) (inside_running _)
  | inserted row rest running _ _ _ _ allowed =>
    rcases allowed with ⟨_, isSame, other⟩
    subst isSame
    rcases running with ⟨prog, code⟩
    rw [Sys.set_procs_self] at follows ⊢
    refine revokes.moved (fun _ => code ▸ tame_running prog) follows ?_ ?_ (fun _ => id)
      (inside_running _)
    · intro unwritten _ written
      rcases Table.mem_keys_put.mp written with isRow | old
      · exact other isRow.symm
      · exact unwritten old
    · intro kept _
      simp [Process.add, kept]
  | committed rest code _ allowed =>
    rw [Sys.set_procs_self] at follows ⊢
    cases allowed with
    | clean | dirty => exact revokes_fresh (by simp) follows
  | rolledBack rest _ allowed =>
    rcases allowed with ⟨_, isClean⟩
    subst isClean
    rw [Sys.set_procs_self] at follows ⊢
    exact revokes_fresh (by simp) follows
  | called request rest running _ allowed =>
    rcases running with ⟨prog, code⟩
    rw [Sys.set_procs_self] at follows ⊢
    cases allowed with
    | early _ isOpen target =>
      exact revokes.moved (fun _ => code ▸ tame_running prog) follows
        (fun unwritten _ => unwritten) (fun kept _ => kept) (fun _ => id) (inside_running _)
    | last => exact ⟨follows, by simp, by simp, inside_running _⟩

end Advancing

/-! ## The cache beside the database -/

section Caching

variable {Index : Type} {tokens : Index → AccessTokenPayload}
variable {sys following : AppSys (Option Index) Outcome}

/-- A token id determines the token's user and version. -/
def Determined (tokens : Index → AccessTokenPayload) : Prop :=
  ∀ left right, (tokens left).tokenId = (tokens right).tokenId →
    (tokens left).subject = (tokens right).subject ∧
      (tokens left).authzVersion = (tokens right).authzVersion

/-- Every entry is in the user index and agrees with the tokens of its id. -/
structure Coherent (tokens : Index → AccessTokenPayload) (cache : PrincipalCache) : Prop where
  indexed : ∀ entry ∈ cache.entries, (entry.principal.userId, entry.tokenId) ∈ cache.index
  agrees : ∀ entry ∈ cache.entries, ∀ index, (tokens index).tokenId = entry.tokenId →
    entry.principal.userId = (tokens index).subject ∧
      entry.principal.authzVersion = (tokens index).authzVersion

/-- The entries of the user are at the committed version. -/
def EntriesCurrent (userId : Uuid) (store : Table Row) (cache : PrincipalCache) : Prop :=
  ∀ entry ∈ cache.entries, entry.principal.userId = userId →
    authzVersion userId store = some entry.principal.authzVersion

/-- If the code is about to cache a principal of the user, then at the committed version. -/
def FillsCurrent (userId : Uuid) (store : Table Row) (code : AppCode) : Prop :=
  ∀ tokenId principal next, code = .running (.call (.set tokenId principal) next) →
    principal.userId = userId → authzVersion userId store = some principal.authzVersion

def FillingsCurrent (userId : Uuid) (sys : AppSys (Option Index) Outcome) : Prop :=
  ∀ index, FillsCurrent userId sys.store (sys.procs (some index)).code

/-- The resolves stand at one of their statements and have written nothing. -/
def ResolvesHold (tokens : Index → AccessTokenPayload) (sys : AppSys (Option Index) Outcome) :
    Prop :=
  ∀ index, ResolveAt (tokens index) (sys.procs (some index)).code ∧
    (sys.procs (some index)).own.rows = [] ∧ (sys.procs (some index)).dropped = []

/-- The revoking run has committed the bump and is about to invalidate the user. -/
def AboutToInvalidate (userId : Uuid) (code : AppCode) (stage : ExposureStage) : Prop :=
  stage = .exposed ∧ ∃ rest, code = .running (.call (.invalidateUser userId) rest)

/-- The assertions over the whole system.  The cache may lag behind the database only
between the commit of the bump and the invalidation. -/
structure Guarded (userId : Uuid) (tokens : Index → AccessTokenPayload)
    (sys : AppSys (Option Index) Outcome) (stage : ExposureStage) : Prop where
  revokes : Revokes userId (sys.procs none) stage
  resolves : ResolvesHold tokens sys
  coherent : Coherent tokens sys.env
  current : AboutToInvalidate userId (sys.procs none).code stage ∨
    (sys.procs none).code = .aborted ∨
    (EntriesCurrent userId sys.store sys.env ∧ FillingsCurrent userId sys)

/-! ### The operations of the cache -/

variable {cache later : PrincipalCache} {store : Table Row}

/-- An operation that only removes entries. -/
theorem Coherent.removed (coherent : Coherent tokens cache)
    (entries : ∀ entry ∈ later.entries, entry ∈ cache.entries ∧
      ((entry.principal.userId, entry.tokenId) ∈ cache.index →
        (entry.principal.userId, entry.tokenId) ∈ later.index)) : Coherent tokens later where
  indexed entry member :=
    (entries entry member).2 (coherent.indexed entry (entries entry member).1)
  agrees entry member := coherent.agrees entry (entries entry member).1

theorem mem_invalidateUser {entry : CacheEntry} {target : Uuid} (coherent : Coherent tokens cache)
    (member : entry ∈ (cache.invalidateUser target).entries) :
    entry ∈ cache.entries ∧ entry.principal.userId ≠ target := by
  rcases List.mem_filter.mp member with ⟨old, notIndexed⟩
  refine ⟨old, ?_⟩
  intro isTarget
  rw [← isTarget] at notIndexed
  exact absurd (coherent.indexed entry old) (of_decide_eq_true notIndexed)

theorem Coherent.invalidateUser (coherent : Coherent tokens cache) (target : Uuid) :
    Coherent tokens (cache.invalidateUser target) := by
  apply coherent.removed
  intro entry member
  rcases mem_invalidateUser coherent member with ⟨old, differ⟩
  exact ⟨old, fun indexed => List.mem_filter.mpr ⟨indexed, decide_eq_true differ⟩⟩

theorem Coherent.pop (coherent : Coherent tokens cache) (tokenId : String) :
    Coherent tokens (cache.pop tokenId) :=
  coherent.removed fun _ member => ⟨mem_of_mem_pop member, id⟩

variable {index : Index}

theorem Coherent.set (coherent : Coherent tokens cache) (determined : Determined tokens)
    {user : UserRow} (backs : Backs (tokens index) user) :
    Coherent tokens (cache.set (tokens index).tokenId (.ofUser user)) := by
  constructor
  · intro entry member
    rcases List.mem_cons.mp member with isNew | old
    · rw [isNew]
      exact .head _
    · exact .tail _ (coherent.indexed entry (mem_of_mem_pop old))
  intro entry member other sameId
  rcases List.mem_cons.mp member with isNew | old
  · subst isNew
    rcases determined other index sameId with ⟨sameUser, sameVersion⟩
    exact ⟨backs.1.trans sameUser.symm, backs.2.2.2.trans sameVersion.symm⟩
  · exact coherent.agrees entry (mem_of_mem_pop old) other sameId

/-- A resolve reads the committed row. -/
theorem ResolvesHold.view (resolves : ResolvesHold tokens sys) {user : UserRow}
    (present : Row.user user ∈ (sys.view (some index)).rows) :
    authzVersion user.id sys.store = some user.authzVersion := by
  rcases resolves index with ⟨_, noneOwn, noneDropped⟩
  rw [Sys.view, Process.mem_view] at present
  rcases present with ⟨own | ⟨stored, _⟩, _⟩
  · simp [noneOwn] at own
  · exact authzVersion_eq_some.mpr ⟨user, stored, rfl, rfl⟩

theorem fillsCurrent_of_not_filling {code : AppCode} (notFilling : ¬ Filling userId code) :
    FillsCurrent userId store code :=
  fun _ _ _ isFilling isUser => absurd ⟨_, _, _, isFilling, isUser⟩ notFilling

/-- The resolves as another step of the run leaves them. -/
theorem Guarded.kept (guarded : Guarded userId tokens sys stage)
    (others : ∀ index, following.procs (some index) = sys.procs (some index))
    (revokes : Revokes userId (following.procs none) next)
    (coherent : Coherent tokens following.env)
    (current : AboutToInvalidate userId (following.procs none).code next ∨
      (following.procs none).code = .aborted ∨
      (EntriesCurrent userId following.store following.env ∧
        ∀ index, FillsCurrent userId following.store (sys.procs (some index)).code)) :
    Guarded userId tokens following next := by
  refine ⟨revokes, fun index => ?_, coherent, current.imp id (.imp id (.imp id ?_))⟩
  · rw [others index]
    exact guarded.resolves index
  · intro fillings index
    rw [others index]
    exact fillings index

theorem Guarded.drift (guarded : Guarded userId tokens sys stage) (change : CacheDrift) :
    Guarded userId tokens { sys with env := model.drift change sys.env } stage := by
  cases change with
  | advance elapsed =>
    exact ⟨guarded.revokes, guarded.resolves, ⟨guarded.coherent.indexed, guarded.coherent.agrees⟩,
      guarded.current⟩
  | evict tokenId =>
    refine ⟨guarded.revokes, guarded.resolves, guarded.coherent.pop tokenId, ?_⟩
    refine guarded.current.imp id (.imp id (.imp ?_ id))
    exact fun entries entry member => entries entry (mem_of_mem_pop member)

/-! ### A step of a resolve -/

section Resolve

variable {view : Table Row} {before after : AppCode}

theorem ResolveStep.coherent (step : ResolveStep (tokens index) view before cache after later)
    (determined : Determined tokens) (coherent : Coherent tokens cache) :
    Coherent tokens later := by
  cases step with
  | hit | missed | read | turned | refused => exact coherent
  | filled _ user backs => exact coherent.set determined backs
  | popped => exact coherent.pop _

theorem ResolveStep.entries (step : ResolveStep payload view before cache after later)
    (fills : FillsCurrent userId store before) (current : EntriesCurrent userId store cache) :
    EntriesCurrent userId store later := by
  cases step with
  | hit | missed | read | turned | refused => exact current
  | filled _ user backs =>
    intro entry member isUser
    rcases List.mem_cons.mp member with isNew | old
    · subst isNew
      exact fills _ _ _ rfl isUser
    · exact current entry (mem_of_mem_pop old) isUser
  | popped => exact fun entry member => current entry (mem_of_mem_pop member)

theorem ResolveStep.fills (step : ResolveStep payload view before cache after later)
    (reads : ∀ user, Row.user user ∈ view.rows →
      authzVersion user.id store = some user.authzVersion) :
    FillsCurrent userId store after := by
  intro tokenId principal next isFilling isUser
  cases step with
  | read _ user present backs =>
    cases isFilling
    subst isUser
    exact reads user present
  | hit | missed | turned | refused | filled | popped => cases isFilling

/-- An answer `Ok` is for the committed version. -/
theorem ResolveStep.answered (step : ResolveStep (tokens index) view before cache after later)
    (coherent : Coherent tokens cache) (current : EntriesCurrent (tokens index).subject store cache)
    (fills : FillsCurrent (tokens index).subject store before) {principal : Principal}
    (isOk : after = .running (.done (.resolved (.ok principal)))) :
    authzVersion (tokens index).subject store = some (tokens index).authzVersion := by
  cases step with
  | hit _ _ cached =>
    rcases PrincipalCache.mem_of_get cached with ⟨entry, member, isToken, _, _⟩
    rcases coherent.agrees entry member index isToken.symm with ⟨sameUser, sameVersion⟩
    rw [← sameVersion]
    exact current entry member sameUser
  | filled _ user backs =>
    rw [← backs.2.2.2]
    exact fills _ _ _ rfl backs.1
  | missed | read | turned | refused | popped => cases isOk

end Resolve

variable [DecidableEq Index]

/-- Replacing the process of a resolve. -/
theorem procs_set_some {process : Process Row Site CacheCall CacheReply Outcome}
    (procs : following.procs = (sys.set (some index) process).procs) :
    following.procs none = sys.procs none ∧ following.procs (some index) = process ∧
      ∀ other, other ≠ index → following.procs (some other) = sys.procs (some other) := by
  refine ⟨?_, ?_, ?_⟩
  · rw [procs]
    exact Sys.set_procs_of_ne sys (by simp) _
  · rw [procs, Sys.set_procs_self]
  · intro other differ
    rw [procs]
    exact Sys.set_procs_of_ne sys (by simpa using differ) _

/-- The rule for replacing the process of a resolve. -/
theorem Guarded.replaced (guarded : Guarded userId tokens sys stage)
    {process : Process Row Site CacheCall CacheReply Outcome}
    (procs : following.procs = (sys.set (some index) process).procs)
    (sameStore : following.store = sys.store) (resolve : ResolveAt (tokens index) process.code)
    (noneWritten : process.own.rows = [] ∧ process.dropped = [])
    (coherent : Coherent tokens following.env) (current : EntriesCurrent userId sys.store sys.env →
      FillingsCurrent userId sys → EntriesCurrent userId sys.store following.env ∧ FillsCurrent
      userId sys.store process.code) : Guarded userId tokens following stage := by
  rcases procs_set_some procs with ⟨noneKept, isProcess, othersKept⟩
  constructor
  · rw [noneKept]
    exact guarded.revokes
  · intro other
    by_cases isIndex : other = index
    · subst isIndex
      rw [isProcess]
      exact ⟨resolve, noneWritten⟩
    · rw [othersKept other isIndex]
      exact guarded.resolves other
  · exact coherent
  rw [noneKept, FillingsCurrent, sameStore]
  refine guarded.current.imp id (.imp id ?_)
  rintro ⟨entries, fillings⟩
  rcases current entries fillings with ⟨laterEntries, fills⟩
  refine ⟨laterEntries, fun other => ?_⟩
  by_cases isIndex : other = index
  · subst isIndex
    rw [isProcess]
    exact fills
  · rw [othersKept other isIndex]
    exact fillings other

theorem Guarded.abort (guarded : Guarded userId tokens sys stage) (pid : Option Index) :
    ∃ next, Guarded userId tokens (sys.set pid (.fresh .aborted)) next := by
  cases pid with
  | none =>
    refine ⟨.clean, guarded.kept (fun index => Sys.set_procs_of_ne sys (by simp) _) ?_
      guarded.coherent (.inr (.inl ?_))⟩
    · refine ⟨trivial, fun _ _ => by simp [Process.fresh], by simp, ?_⟩
      intro _ _ _ _ _ _ isLocking
      cases isLocking
    · rfl
  | some index =>
    refine ⟨stage, guarded.replaced rfl rfl .aborted ⟨rfl, rfl⟩ guarded.coherent ?_⟩
    intro entries _
    refine ⟨entries, ?_⟩
    intro _ _ _ isRunning
    cases isRunning

variable [Fintype Index]

theorem Guarded.resolve (guarded : Guarded userId tokens sys stage) (determined : Determined tokens)
    (enabled : sys.exec model (some index) = some following) :
    Guarded userId tokens following stage := by
  rcases (guarded.resolves index).1.exec enabled with
    ⟨process, procs, sameStore, sameOwn, sameDropped, step⟩
  apply guarded.replaced procs sameStore step.at
  · rw [sameOwn, sameDropped]
    exact (guarded.resolves index).2
  · exact step.coherent determined guarded.coherent
  · intro entries fillings
    exact ⟨step.entries (fillings index) entries,
      step.fills fun user present => guarded.resolves.view present⟩

/-! ### A step of the revoking run -/

/-- The invalidation after the commit of the bump. -/
theorem Guarded.invalidated (guarded : Guarded userId tokens sys stage)
    (about : AboutToInvalidate userId (sys.procs none).code stage)
    (undisturbed : Undisturbed userId sys (.exec none))
    (enabled : sys.exec model none = some following) :
    ∃ next, Guarded userId tokens following next := by
  rcases about with ⟨isExposed, rest, code⟩
  have others : ∀ index, following.procs (some index) = sys.procs (some index) :=
    fun index => Sys.procs_exec_of_ne enabled (by simp)
  have follows := guarded.revokes.follows
  rw [isExposed, code] at follows
  rcases follows () with ⟨next, calls, ends⟩
  cases calls with
  | early _ isOpen => rcases isOpen with isClean | isDirty <;> contradiction
  | last =>
    have isDone : ∃ result, rest () = .done result := by
      rcases follows_closed (by simp [ExposureStage.Open]) ends with isDone | ⟨isExposed, _⟩
      · exact isDone
      · cases isExposed
    rcases isDone with ⟨result, isDone⟩
    have noFilling := undisturbed.1 ⟨rest, result, code, isDone⟩
    simp only [Sys.exec, code] at enabled
    cases enabled
    refine ⟨.finished, guarded.kept others ?_ (guarded.coherent.invalidateUser userId) ?_⟩
    · exact ⟨ends, by simp, by simp, inside_running _⟩
    · refine .inr (.inr ⟨?_, fun index => fillsCurrent_of_not_filling (noFilling (some index))⟩)
      intro entry member isUser
      exact absurd isUser (mem_invalidateUser guarded.coherent member).2

theorem Guarded.revoke (guarded : Guarded userId tokens sys stage)
    (undisturbed : Undisturbed userId sys (.exec none))
    (enabled : sys.exec model none = some following) :
    ∃ next, Guarded userId tokens following next := by
  rcases guarded.current with about | aborted | ⟨entries, fillings⟩
  · exact guarded.invalidated about undisturbed enabled
  · simp only [Sys.exec, aborted] at enabled
    cases enabled
  have others : ∀ index, following.procs (some index) = sys.procs (some index) :=
    fun index => Sys.procs_exec_of_ne enabled (by simp)
  rcases follows_exec guarded.revokes.follows enabled with ⟨next, advanced, follows⟩
  have revokes := guarded.revokes.advanced advanced follows
  refine ⟨next, ?_⟩
  cases advanced with
  | selected | opened | granted | skipped | closed | refused | inserted | rolledBack =>
    exact guarded.kept others revokes guarded.coherent (.inr (.inr ⟨entries, fillings⟩))
  | committed rest code _ allowed =>
    apply guarded.kept others revokes guarded.coherent
    cases allowed with
    | clean =>
      rcases guarded.revokes.clean rfl (code ▸ tame_running _) with ⟨unwritten, kept⟩
      have same : authzVersion userId (sys.view none) = authzVersion userId sys.store :=
        (sameUser_view unwritten kept).version
      exact .inr (.inr ⟨fun entry member isUser => same.trans (entries entry member isUser),
        fun index tokenId principal next isFilling isUser =>
          same.trans (fillings index tokenId principal next isFilling isUser)⟩)
    | dirty =>
      rcases follows_closed (by simp [ExposureStage.Open]) follows with
        ⟨result, isDone⟩ | ⟨_, last, isCall⟩
      · subst isDone
        rcases undisturbed.2 ⟨⟨result, code⟩, guarded.revokes.dirty rfl⟩ with
          ⟨noFilling, noEntry⟩
        exact .inr (.inr ⟨fun entry member isUser => absurd isUser (noEntry entry member),
          fun index => fillsCurrent_of_not_filling (noFilling (some index))⟩)
      · exact .inl ⟨rfl, last, isCall ▸ rfl⟩
  | called request rest running _ allowed =>
    cases allowed with
    | early _ isOpen target | last =>
      refine guarded.kept others revokes (guarded.coherent.invalidateUser _)
        (.inr (.inr ⟨?_, fillings⟩))
      intro entry member isUser
      exact entries entry (mem_invalidateUser guarded.coherent member).1 isUser

/-! ### Whole runs -/

theorem Guarded.step (guarded : Guarded userId tokens sys stage) (determined : Determined tokens)
    {event : AppEvent (Option Index)} (undisturbed : Undisturbed userId sys event)
    (enabled : Sys.step model sys event = some following) :
    ∃ next, Guarded userId tokens following next := by
  cases event with
  | exec pid =>
    cases pid with
    | none => exact guarded.revoke undisturbed enabled
    | some index => exact ⟨stage, guarded.resolve determined enabled⟩
  | abort pid =>
    simp only [Sys.step] at enabled
    split at enabled
    · cases enabled
    · cases enabled
    · cases enabled
      exact guarded.abort pid
  | drift change =>
    cases enabled
    exact ⟨stage, guarded.drift change⟩

/-- The revoking run has returned, and an answer `Ok` to a resolve that started later is
for the committed version. -/
structure Returned (tokens : Index → AccessTokenPayload) (index : Index)
    (sys : AppSys (Option Index) Outcome) : Prop where
  guarded : ∃ stage, Guarded (tokens index).subject tokens sys stage
  returned : ∃ result, (sys.procs none).code = .running (.done result)
  answers : ∀ principal,
    (sys.procs (some index)).code = .running (.done (.resolved (.ok principal))) →
    authzVersion (tokens index).subject sys.store = some (tokens index).authzVersion

omit [DecidableEq Index] [Fintype Index] in
/-- After the return the cache does not lag behind. -/
theorem Returned.current (returned : Returned tokens index sys) :
    ∃ stage, Guarded (tokens index).subject tokens sys stage ∧
      EntriesCurrent (tokens index).subject sys.store sys.env ∧
      FillingsCurrent (tokens index).subject sys := by
  rcases returned.guarded with ⟨stage, guarded⟩
  rcases returned.returned with ⟨result, code⟩
  rcases guarded.current with ⟨_, rest, isCall⟩ | aborted | current
  · simp [code] at isCall
  · simp [code] at aborted
  · exact ⟨stage, guarded, current⟩

theorem Returned.exec (returned : Returned tokens index sys) (determined : Determined tokens)
    {pid : Option Index} (enabled : sys.exec model pid = some following) :
    Returned tokens index following := by
  rcases returned.current with ⟨stage, guarded, entries, fillings⟩
  rcases returned.returned with ⟨result, code⟩
  cases pid with
  | none =>
    simp only [Sys.exec, code] at enabled
    cases enabled
  | some other =>
    rcases (guarded.resolves other).1.exec enabled with ⟨process, procs, sameStore, _, _, step⟩
    rcases procs_set_some procs with ⟨noneKept, isProcess, othersKept⟩
    refine ⟨⟨stage, guarded.resolve determined enabled⟩, ⟨result, noneKept ▸ code⟩, ?_⟩
    intro principal isOk
    rw [sameStore]
    by_cases isIndex : index = other
    · subst isIndex
      rw [isProcess] at isOk
      exact step.answered guarded.coherent entries (fillings index) isOk
    · rw [othersKept index isIndex] at isOk
      exact returned.answers principal isOk

theorem Returned.step (returned : Returned tokens index sys) (determined : Determined tokens)
    {event : AppEvent (Option Index)} (enabled : Sys.step model sys event = some following) :
    Returned tokens index following := by
  rcases returned.current with ⟨stage, guarded, _⟩
  rcases returned.returned with ⟨result, code⟩
  cases event with
  | exec pid => exact returned.exec determined enabled
  | abort pid =>
    cases pid with
    | none =>
      simp only [Sys.step, code] at enabled
      cases enabled
    | some other =>
      simp only [Sys.step] at enabled
      split at enabled
      · cases enabled
      · cases enabled
      cases enabled
      have procs : (sys.set (some other) (.fresh .aborted)).procs =
          (sys.set (some other) (.fresh .aborted)).procs := rfl
      rcases procs_set_some procs with ⟨noneKept, isProcess, othersKept⟩
      refine ⟨guarded.abort (some other), ⟨result, noneKept ▸ code⟩, ?_⟩
      intro principal isOk
      by_cases isIndex : index = other
      · subst isIndex
        rw [isProcess] at isOk
        cases isOk
      · rw [othersKept index isIndex] at isOk
        exact returned.answers principal isOk
  | drift change =>
    cases enabled
    exact ⟨⟨stage, guarded.drift change⟩, ⟨result, code⟩, returned.answers⟩

theorem RevokingRun.follows (revocation : RevokingRun) :
    revocation.program.Follows (exposureProtocol userId) (fun _ _ => True) .clean := by
  cases revocation with
  | confirmPasswordReset =>
    exact (confirmPasswordReset_exposure _ _ _).bind fun _ _ _ => trivial
  | deactivateUser => exact (deactivateUser_exposure _ _).bind fun _ _ _ => trivial

/-- In every run that meets the condition: a resolve that starts after the revoking run
has returned is answered `Ok` for the committed version only.  The cache may hold entries
at the start, as long as none of the user's is stale. -/
theorem revocation_not_undone {store : Table Row} {cache : PrincipalCache}
    {revocation : RevokingRun} {before after : List (AppEvent (Option Index))}
    {middle finish : AppSys (Option Index) Outcome} {index : Index} {result : Outcome}
    {principal : Principal} (determined : Determined tokens) (coherent : Coherent tokens cache)
    (current : EntriesCurrent (tokens index).subject store cache)
    (undisturbed : Meets (Sys.step model) (Undisturbed (tokens index).subject)
      (resolving store cache revocation tokens) (before ++ after))
    (passed : run (Sys.step model) (resolving store cache revocation tokens) before = some middle)
    (returned : (middle.procs none).code = .running (.done result))
    (unstarted : (middle.procs (some index)).code = .running (resolveProgram (tokens index)))
    (reached : run (Sys.step model) middle after = some finish)
    (answered : (finish.procs (some index)).code = .running (.done (.resolved (.ok principal)))) :
    authzVersion (tokens index).subject finish.store = some (tokens index).authzVersion := by
  have initial : Guarded (tokens index).subject tokens (resolving store cache revocation tokens)
      .clean :=
    ⟨revokes_fresh (by simp) revocation.follows, fun _ => ⟨.started, rfl, rfl⟩, coherent,
      .inr (.inr ⟨current, fun _ => nofun⟩)⟩
  have preserved : ∀ (state : AppSys (Option Index) Outcome) event next,
      (∃ stage, Guarded (tokens index).subject tokens state stage) →
      Undisturbed (tokens index).subject state event → Sys.step model state event = some next →
      ∃ stage, Guarded (tokens index).subject tokens next stage :=
    fun _ _ _ ⟨_, guarded⟩ condition enabled => guarded.step determined condition enabled
  rcases invariant_of_meets preserved ⟨.clean, initial⟩ (meets_append.mp undisturbed).1 passed
    with ⟨stage, guarded⟩
  have atReturn : Returned tokens index middle := by
    refine ⟨⟨stage, guarded⟩, ⟨result, returned⟩, ?_⟩
    intro principal isOk
    rw [unstarted] at isOk
    cases isOk
  have atFinish : Returned tokens index finish :=
    invariant_of_run (fun _ _ _ kept => kept.step determined) atReturn reached
  exact atFinish.answers principal answered

/-! ### Runs that meet the condition -/

omit [DecidableEq Index] [Fintype Index] in
/-- A resolve never takes the last step of a revoking run. -/
theorem ResolveAt.undisturbed (resolve : ResolveAt payload (sys.procs (some index)).code) :
    Undisturbed userId sys (.exec (some index)) := by
  generalize isCode : (sys.procs (some index)).code = code at resolve
  constructor
  · rintro ⟨next, result, isCall, _⟩
    rw [isCode] at isCall
    cases resolve <;> cases isCall
  · rintro ⟨⟨result, isCommit⟩, _⟩
    rw [isCode] at isCommit
    cases resolve <;> cases isCommit

theorem undisturbed_resolving (steps : Nat)
    (resolve : ResolveAt payload (sys.procs (some index)).code) :
    Meets (Sys.step model) (Undisturbed userId) sys
      (List.replicate steps (.exec (some index))) := by
  induction steps generalizing sys with
  | zero => trivial
  | succ steps ih =>
    refine ⟨resolve.undisturbed, ?_⟩
    intro next enabled
    rcases resolve.exec enabled with ⟨process, procs, _, _, _, step⟩
    apply ih
    rw [(procs_set_some procs).2.1]
    exact step.at

/-- No resolve has begun, and the cache is empty. -/
structure Waiting (userId : Uuid) (tokens : Index → AccessTokenPayload)
    (sys : AppSys (Option Index) Outcome) (stage : ExposureStage) : Prop where
  follows : (sys.procs none).code.Follows (exposureProtocol userId) (fun _ _ => True) stage
  unstarted : ∀ index, (sys.procs (some index)).code = .running (resolveProgram (tokens index))
  empty : sys.env.entries = []

omit [DecidableEq Index] [Fintype Index] in
theorem Waiting.not_filling (waiting : Waiting userId tokens sys stage) (pid : Option Index) :
    ¬ Filling userId (sys.procs pid).code := by
  rintro ⟨tokenId, principal, next, isSet, _⟩
  cases pid with
  | some index =>
    rw [waiting.unstarted index] at isSet
    cases isSet
  | none =>
    have follows := waiting.follows
    rw [isSet] at follows
    rcases follows () with ⟨_, calls, _⟩
    cases calls

/-- A revoking run that executes before the resolves, with an empty cache, is
undisturbed. -/
theorem undisturbed_waiting (steps : Nat) (waiting : Waiting userId tokens sys stage) :
    Meets (Sys.step model) (Undisturbed userId) sys (List.replicate steps (.exec none)) := by
  induction steps generalizing sys stage with
  | zero => trivial
  | succ steps ih =>
    constructor
    · exact ⟨fun _ => waiting.not_filling, fun _ => ⟨waiting.not_filling, by simp [waiting.empty]⟩⟩
    intro following enabled
    rcases follows_exec waiting.follows enabled with ⟨later, advanced, follows⟩
    have laterWaiting : Waiting userId tokens following later := by
      refine ⟨follows, ?_, ?_⟩
      · intro index
        rw [Sys.procs_exec_of_ne enabled (by simp)]
        exact waiting.unstarted index
      cases advanced with
      | called request rest running _ allowed =>
        cases allowed with
        | early | last => simp [model, PrincipalCache.invalidateUser, waiting.empty]
      | selected | opened | granted | skipped | closed | refused | inserted | committed
      | rolledBack => exact waiting.empty
    exact ih laterWaiting

end Caching

/-! ### A resolve that has read the old row -/

/-- The surroundings of the revoking runs. -/
def revokingInput : SessionInput where
  ipAddress := none
  userAgent := none
  hashToken := id
  issue _ _ := ("access", 900)
  now := 0
  writtenAt := 0
  rawRefresh := "unused"
  tokenId := 10
  familyId := 11
  auditId := 12
  credentialId := 13

def resetToken : InternalTokenRow := ⟨20, some 1, .passwordReset, "reset", 1000000, none, none⟩

def userWithReset : Table Row :=
  ⟨[.user resetUser, .internalToken resetToken], by simp [key]⟩

def resetRun : RevokingRun := .confirmPasswordReset revokingInput "reset" "hash"

def deactivateRun : RevokingRun := .deactivateUser ⟨revokingInput, 21, 22, [], 0, 0⟩ 1

/-- Two resolves of one token. -/
def heldTwice (_ : Bool) : AccessTokenPayload := heldToken

/-- A run in which a resolve reads before the commit of the reset and writes after its
invalidation. -/
def readBeforeReset : List (AppEvent (Option Bool)) :=
  List.replicate 2 (.exec (some false)) ++ List.replicate 17 (.exec none)

/-- A run in which a resolve comes between the invalidation and the commit of the
deactivation. -/
def readBeforeDeactivation : List (AppEvent (Option Bool)) :=
  List.replicate 6 (.exec none) ++ List.replicate 3 (.exec (some false)) ++
    List.replicate 6 (.exec none)

/-- In both runs a resolve that starts after the revoking run has returned is answered
`Ok` for the version 1, and the committed version is 2. -/
theorem revocation_undone :
    (∃ middle finish,
      run (Sys.step model) (resolving userWithReset emptyCache resetRun heldTwice)
        readBeforeReset = some middle ∧
      (middle.procs none).code = .running (.done (.revoked (.ok ()))) ∧
      (middle.procs (some true)).code = .running (resolveProgram heldToken) ∧
      run (Sys.step model) middle [.exec (some false), .exec (some true)] = some finish ∧
      (finish.procs (some true)).code =
        .running (.done (.resolved (.ok (.ofUser resetUser)))) ∧
      authzVersion 1 finish.store = some 2 ∧ heldToken.authzVersion = 1) ∧
    ∃ middle finish,
      run (Sys.step model) (resolving oneUser emptyCache deactivateRun heldTwice)
        readBeforeDeactivation = some middle ∧
      (middle.procs none).code = .running (.done (.revoked (.ok ()))) ∧
      (middle.procs (some true)).code = .running (resolveProgram heldToken) ∧
      run (Sys.step model) middle [.exec (some true)] = some finish ∧
      (finish.procs (some true)).code =
        .running (.done (.resolved (.ok (.ofUser resetUser)))) ∧
      authzVersion 1 finish.store = some 2 ∧ heldToken.authzVersion = 1 :=
  ⟨⟨_, _, rfl, rfl, rfl, rfl, rfl, rfl, rfl⟩, _, _, rfl, rfl, rfl, rfl, rfl, rfl, rfl⟩

/-- A token from before the reset and one from after it. -/
def oldAndNew (isNew : Bool) : AccessTokenPayload :=
  if isNew then ⟨1, 2, 900000000, "new"⟩ else heldToken

/-- The reset and then a resolve of the new token. -/
theorem revocation_not_undone_reset :
    ∃ middle finish,
      run (Sys.step model) (resolving userWithReset emptyCache resetRun oldAndNew)
        (List.replicate 17 (.exec none)) = some middle ∧
      (middle.procs none).code = .running (.done (.revoked (.ok ()))) ∧
      run (Sys.step model) middle (List.replicate 3 (.exec (some true))) = some finish ∧
      authzVersion 1 userWithReset = some 1 ∧ authzVersion 1 finish.store = some 2 := by
  have determined : Determined oldAndNew := by
    intro left right sameId
    cases left <;> cases right <;> simp_all [oldAndNew, heldToken]
  have coherent : Coherent oldAndNew emptyCache := ⟨nofun, nofun⟩
  have current : EntriesCurrent (oldAndNew true).subject userWithReset emptyCache := nofun
  have undisturbed : Meets (Sys.step model) (Undisturbed (oldAndNew true).subject)
      (resolving userWithReset emptyCache resetRun oldAndNew)
      (List.replicate 17 (.exec none) ++ List.replicate 3 (.exec (some true))) := by
    apply meets_append.mpr
    constructor
    · exact undisturbed_waiting 17 ⟨resetRun.follows, fun _ => rfl, rfl⟩
    · intro middle reached
      cases reached
      exact undisturbed_resolving 3 .started
  exact ⟨_, _, rfl, rfl, rfl, rfl,
    revocation_not_undone determined coherent current undisturbed rfl rfl rfl rfl rfl⟩

end StarterTemplate.Authentication
