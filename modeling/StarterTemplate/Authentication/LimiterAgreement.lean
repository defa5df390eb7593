import StarterTemplate.Authentication.RedisRateLimit

/-!
# The two rate limiters side by side

`FixedWindowRateLimiter` and `RedisRateLimiter` see the same attempts for one key.  Both
count the accepted attempts of the last window.  The first one still counts an attempt that
is exactly one window old, the second one does not, and this is the only difference.
-/

namespace StarterTemplate.Authentication

open Library

/-- Milliseconds as seconds. -/
def secondsOf (milliseconds : Nat) : Rat := milliseconds / 1000

/-- The same call of the limiter of one process, whose clock shows the same time. -/
def RedisCheck.localCall (call : RedisCheck) : CheckCall :=
  checkAt call.key (secondsOf call.nowMs)

def RedisEvent.localCall? : RedisEvent → Option CheckCall
  | .check call => some call.localCall
  | .elapse _ _ => none

/-- The calls among the events. -/
def localCalls (events : List RedisEvent) : List CheckCall := events.filterMap RedisEvent.localCall?

/-- Whether the run accepted an attempt; Redis may also just look at a key. -/
def RedisRun.verdict? (run : RedisRun) : Option Bool :=
  match run.request, run.answer with
  | .check _, .ok _ => some true
  | .check _, .error _ => some false
  | .elapse _ _, _ => none

/-- The parameters that both limiters get. -/
structure LimiterSettings where
  maxAttempts : Nat
  windowSeconds : Nat
  maxsize : Nat

namespace LimiterSettings

variable (settings : LimiterSettings)

def fixedWindow : FixedWindowRateLimiter :=
  ⟨settings.maxAttempts, settings.windowSeconds, settings.maxsize⟩

def redis : RedisRateLimiter := ⟨settings.maxAttempts, settings.windowSeconds⟩

/-- The cache after the calls. -/
def localState (events : List RedisEvent) : Attempts :=
  served settings.fixedWindow.check settings.fixedWindow.initial (localCalls events)

/-- The sorted sets after the events. -/
def redisState (events : List RedisEvent) : RedisAttempts :=
  served settings.redis.serve (fun _ => .absent) events

/-- The calls that the limiter of one process has answered. -/
def localPast (events : List RedisEvent) : List Checked :=
  history settings.fixedWindow.check settings.fixedWindow.initial (localCalls events)

/-- The events that happened in Redis. -/
def redisPast (events : List RedisEvent) : List RedisRun :=
  history settings.redis.serve (fun _ => .absent) events

/-- One more call after the events. -/
def localRun (events : List RedisEvent) (call : RedisCheck) : Checked :=
  finished settings.fixedWindow.check (settings.localState events) call.localCall

/-- One more event. -/
def redisRun (events : List RedisEvent) (event : RedisEvent) : RedisRun :=
  finished settings.redis.serve (settings.redisState events) event

end LimiterSettings

/-- The attempts are all for one key, and no two of them are exactly one window apart. -/
structure Apart (settings : LimiterSettings) (key : String) (events : List RedisEvent) : Prop where
  oneKey : ∀ call, .check call ∈ events → call.key = key
  offset : ∀ earlier later, .check earlier ∈ events → .check later ∈ events →
    later.nowMs ≠ earlier.nowMs + settings.windowSeconds * 1000

theorem Apart.init {settings : LimiterSettings} {key : String} {events : List RedisEvent}
    {event : RedisEvent} (apart : Apart settings key (events ++ [event])) :
    Apart settings key events where
  oneKey call isCall := apart.oneKey call (List.mem_append_left _ isCall)
  offset earlier later isEarlier isLater :=
    apart.offset earlier later (List.mem_append_left _ isEarlier) (List.mem_append_left _ isLater)

theorem RedisOrder.init {events : List RedisEvent} {event : RedisEvent}
    (order : RedisOrder (events ++ [event])) : RedisOrder events where
  steady := (List.pairwise_append.mp order.steady).1
  unique := by
    have unique := order.unique
    rw [List.filterMap_append] at unique
    exact unique.of_append_left

/-! ## One attempt -/

section Step

variable {settings : LimiterSettings} {key : String}

/-- Away from the boundary the two windows are the same. -/
theorem length_since_secondsOf {now : Nat} {moments : List Nat}
    (offset : ∀ moment ∈ moments, now ≠ moment + settings.windowSeconds * 1000) :
    (since (secondsOf now - settings.fixedWindow.windowSeconds) (moments.map secondsOf)).length =
      (stillInside settings.redis.windowMs now moments).length := by
  have sameTest : ∀ moment ∈ moments,
      decide (secondsOf now - settings.fixedWindow.windowSeconds ≤ secondsOf moment) =
        decide (now < moment + settings.redis.windowMs) := by
    intro moment isMoment
    have differs := offset moment isMoment
    have scaled : secondsOf now - settings.fixedWindow.windowSeconds ≤ secondsOf moment ↔
        (now : Rat) ≤ (moment + settings.windowSeconds * 1000 : Nat) := by
      simp only [secondsOf, LimiterSettings.fixedWindow]
      push_cast
      constructor
      · intro inside
        linarith
      · intro inside
        linarith
    rw [decide_eq_decide, scaled, Nat.cast_le]
    simp only [RedisRateLimiter.windowMs, LimiterSettings.redis]
    omega
  rw [since, List.filter_map, List.length_map, stillInside]
  exact congrArg List.length (List.filter_congr sameTest)

theorem accepted_eq (limiter : FixedWindowRateLimiter) (attempts : Attempts) (call : CheckCall) :
    Checked.accepted (finished limiter.check attempts call) =
      decide ((limiter.recent attempts call).length < limiter.maxAttempts) := by
  simp only [Checked.accepted, finished, FixedWindowRateLimiter.check]
  by_cases full : limiter.maxAttempts ≤ (limiter.recent attempts call).length
  · simp [full]
  · simp [full, not_le.mp full]

theorem verdict_check (limiter : RedisRateLimiter) (redis : RedisAttempts) (call : RedisCheck) :
    RedisRun.verdict? (finished limiter.serve redis (.check call)) =
      some (decide ((counted limiter redis call).length < limiter.maxAttempts)) := by
  simp only [RedisRun.verdict?, finished, RedisRateLimiter.serve, check_eq]
  by_cases full : limiter.maxAttempts ≤ (counted limiter redis call).length
  · simp [full]
  · simp [full, not_le.mp full]

/-- Both limiters have answered the events, and they have accepted the same attempts. -/
structure InStep (settings : LimiterSettings) (key : String) (events : List RedisEvent) :
    Prop where
  mirrors : Mirrors settings.fixedWindow (settings.localPast events)
    (settings.localState events)
  tallied : Tallied settings.redis (settings.redisPast events)
    (settings.redisState events)
  accepted : acceptedTimes (settings.localPast events) key =
    (redisAccepted (settings.redisPast events) key).map secondsOf
  verdicts : (settings.localPast events).map Checked.accepted =
    (settings.redisPast events).filterMap RedisRun.verdict?

variable {events : List RedisEvent}

theorem redisPast_append (event : RedisEvent) :
    settings.redisPast (events ++ [event]) =
      settings.redisPast events ++ [settings.redisRun events event] :=
  history_append events [event]

theorem redisState_append (event : RedisEvent) :
    settings.redisState (events ++ [event]) =
      (settings.redis.serve (settings.redisState events) event).2 :=
  served_append events [event]

theorem localCalls_append_check (call : RedisCheck) :
    localCalls (events ++ [.check call]) = localCalls events ++ [call.localCall] :=
  List.filterMap_append

theorem localCalls_append_elapse (name : String) (nowMs : Nat) :
    localCalls (events ++ [.elapse name nowMs]) = localCalls events := by
  rw [localCalls, List.filterMap_append]
  exact List.append_nil _

theorem localPast_append_check (call : RedisCheck) :
    settings.localPast (events ++ [.check call]) =
      settings.localPast events ++ [settings.localRun events call] := by
  rw [LimiterSettings.localPast, localCalls_append_check, history_append]
  rfl

/-- A look at a key changes nothing for the limiter of one process. -/
theorem inStep_elapse {name : String} {nowMs : Nat} (inStep : InStep settings key events) :
    InStep settings key (events ++ [.elapse name nowMs]) := by
  have sameCalls := @localCalls_append_elapse events name nowMs
  have sameLocal : settings.localPast (events ++ [.elapse name nowMs]) =
      settings.localPast events := by
    rw [LimiterSettings.localPast, sameCalls, LimiterSettings.localPast]
  constructor
  · rw [sameLocal, LimiterSettings.localState, sameCalls]
    exact inStep.mirrors
  · rw [redisPast_append, redisState_append]
    exact tallied_elapse inStep.tallied
  · have silent : RedisRun.acceptedAt (settings.redisRun events (.elapse name nowMs)) key = none :=
      rfl
    rw [sameLocal, redisPast_append, redisAccepted_append, silent, Option.toList_none,
      List.append_nil]
    exact inStep.accepted
  · rw [sameLocal, redisPast_append, List.filterMap_append]
    exact inStep.verdicts.trans (List.append_nil _).symm

/-- The calls so far are those among the events. -/
theorem mem_localPast {run : Checked} (isRun : run ∈ settings.localPast events) :
    ∃ call, .check call ∈ events ∧ run.request = call.localCall := by
  have isCall : run.request ∈ localCalls events := by
    have sameRequests : (settings.localPast events).map Finished.request = localCalls events :=
      map_request_history
    rw [← sameRequests]
    exact List.mem_map_of_mem isRun
  rcases List.mem_filterMap.mp isCall with ⟨event, isEvent, isLocal⟩
  cases event with
  | elapse name nowMs => cases isLocal
  | check call => exact ⟨call, isEvent, (Option.some.inj isLocal).symm⟩

/-- The accepted moments are those of calls among the events. -/
theorem mem_redisAccepted {moment : Nat}
    (isAccepted : moment ∈ redisAccepted (settings.redisPast events) key) :
    ∃ call, .check call ∈ events ∧ call.nowMs = moment := by
  rcases List.mem_filterMap.mp isAccepted with ⟨run, isRun, isMoment⟩
  have isEvent : run.request ∈ events := by
    have sameRequests : (settings.redisPast events).map Finished.request = events :=
      map_request_history
    rw [← sameRequests]
    exact List.mem_map_of_mem isRun
  have sameTime := nowMs_of_acceptedAt isMoment
  rw [RedisRun.acceptedAt] at isMoment
  split at isMoment
  · rename_i call _ isCall _
    rw [isCall] at isEvent sameTime
    exact ⟨call, isEvent, sameTime⟩
  · cases isMoment

/-- The limiter of one process has read and written its cache at the same moment, and has
one key to remember. -/
theorem measured_check {call : RedisCheck} (room : 1 ≤ settings.maxsize)
    (order : RedisOrder (events ++ [.check call]))
    (apart : Apart settings key (events ++ [.check call])) :
    Measured settings.fixedWindow (settings.localPast events) (settings.localRun events call) := by
  refine ⟨⟨?_, le_rfl, le_rfl⟩, ?_, ?_⟩
  · intro run isRun
    rcases mem_localPast isRun with ⟨earlier, isEarlier, isRequest⟩
    have steady : earlier.nowMs ≤ call.nowMs :=
      (List.pairwise_append.mp order.steady).2.2 _ isEarlier _ (.head _)
    rw [isRequest]
    exact div_le_div_of_nonneg_right (Nat.cast_le.mpr steady) (by norm_num)
  · exact lt_add_of_pos_right _ (by norm_num [ttlSlackSeconds])
  have among : keysSince (secondsOf call.nowMs - settings.fixedWindow.windowSeconds)
      (settings.localPast events ++ [settings.localRun events call]) ⊆ [key] := by
    intro found isFound
    rcases mem_keysSince.mp isFound with ⟨run, isRun, _, isKey⟩
    rw [← isKey, List.mem_singleton]
    rcases List.mem_append.mp isRun with isOld | isNew
    · rcases mem_localPast isOld with ⟨earlier, isEarlier, isRequest⟩
      rw [isRequest]
      exact apart.oneKey earlier (List.mem_append_left _ isEarlier)
    · rw [List.mem_singleton.mp isNew]
      exact apart.oneKey call List.mem_concat_self
  have count := (List.subperm_of_subset (List.nodup_dedup _) among).length_le
  have atMost : (keysSince (secondsOf call.nowMs - settings.fixedWindow.windowSeconds)
      (settings.localPast events ++ [settings.localRun events call])).length ≤
        settings.maxsize := count.trans room
  exact Int.ofNat_le.mpr atMost

theorem onTime_last (settings : LimiterSettings) {event : RedisEvent}
    (order : RedisOrder (events ++ [event])) :
    OnTime (settings.redisPast events) (settings.redisRun events event) :=
  onTime_history order (fun _ => .absent) _ _ [] (redisPast_append event)

section

variable {call : RedisCheck} (room : 1 ≤ settings.maxsize)
  (order : RedisOrder (events ++ [.check call]))
  (apart : Apart settings key (events ++ [.check call])) (inStep : InStep settings key events)
include room order apart inStep

/-- Both limiters count the same number of attempts. -/
theorem length_recent_eq :
    (settings.fixedWindow.recent (settings.localState events) call.localCall).length =
      (counted settings.redis (settings.redisState events) call).length := by
  have isKey : call.key = key := apart.oneKey call List.mem_concat_self
  have measured := measured_check room order apart
  have onTime := onTime_last settings order
  have offset : ∀ moment ∈ redisAccepted (settings.redisPast events) key,
      call.nowMs ≠ moment + settings.windowSeconds * 1000 := by
    intro moment isAccepted
    rcases mem_redisAccepted isAccepted with ⟨earlier, isEarlier, isMoment⟩
    rw [← isMoment]
    exact apart.offset earlier call (List.mem_append_left _ isEarlier)
      List.mem_concat_self
  calc _ = (since (secondsOf call.nowMs - settings.fixedWindow.windowSeconds)
          (acceptedTimes (settings.localPast events) call.key)).length :=
        congrArg List.length (recent_eq inStep.mirrors measured.1 measured.2)
    _ = (stillInside settings.redis.windowMs call.nowMs
          (redisAccepted (settings.redisPast events) key)).length := by
        rw [isKey, inStep.accepted]
        exact length_since_secondsOf offset
    _ = _ := by
        rw [← isKey, ← map_score_counted_eq inStep.tallied onTime, List.length_map]

/-- Both limiters give the same verdict. -/
theorem verdict_localRun :
    RedisRun.verdict? (settings.redisRun events (.check call)) =
      some (Checked.accepted (settings.localRun events call)) := by
  rw [LimiterSettings.redisRun, verdict_check, LimiterSettings.localRun, accepted_eq,
    length_recent_eq room order apart inStep]
  exact congrArg some (decide_eq_decide.mpr Int.ofNat_lt.symm)

end

/-- What the verdict says about the accepted moments. -/
theorem acceptedAt_of_verdict {run : RedisRun} {call : RedisCheck} {verdict : Bool}
    (isCheck : run.request = .check call) (isVerdict : RedisRun.verdict? run = some verdict) :
    RedisRun.acceptedAt run call.key = if verdict then some call.nowMs else none := by
  rw [RedisRun.verdict?, isCheck] at isVerdict
  rw [RedisRun.acceptedAt, isCheck]
  cases isAnswer : run.answer with
  | ok value =>
    rw [isAnswer] at isVerdict
    cases isVerdict
    simp
  | error error =>
    rw [isAnswer] at isVerdict
    cases isVerdict
    simp

theorem inStep_check {call : RedisCheck} (window : 1 ≤ settings.windowSeconds)
    (room : 1 ≤ settings.maxsize) (order : RedisOrder (events ++ [.check call]))
    (apart : Apart settings key (events ++ [.check call])) (inStep : InStep settings key events) :
    InStep settings key (events ++ [.check call]) := by
  have isKey : call.key = key := apart.oneKey call List.mem_concat_self
  have measured := measured_check room order apart
  have sameVerdict := verdict_localRun room order apart inStep
  constructor
  · rw [localPast_append_check, LimiterSettings.localState, localCalls_append_check, served_append]
    exact mirrors_check (Int.ofNat_le.mpr window) inStep.mirrors measured.1 measured.2
  · rw [redisPast_append, redisState_append]
    exact tallied_serve inStep.tallied (onTime_last settings order)
  · rw [localPast_append_check, redisPast_append, acceptedTimes_append, redisAccepted_append,
      inStep.accepted, List.map_append, ← isKey, acceptedAt_of_verdict rfl sameVerdict]
    cases isAccepted : Checked.accepted (settings.localRun events call) with
    | true => simp [LimiterSettings.localRun, finished, RedisCheck.localCall, checkAt]
    | false => simp
  · rw [localPast_append_check, redisPast_append, List.map_append, List.filterMap_append,
      inStep.verdicts, List.filterMap_cons_some sameVerdict]
    rfl

end Step

/-- The second attempt is too much, the third one is in the next window. -/
def threeAttempts : List RedisEvent :=
  [.check ⟨"login", 0, 1⟩, .check ⟨"login", 999, 2⟩, .check ⟨"login", 1001, 3⟩]

end StarterTemplate.Authentication
