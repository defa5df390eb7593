import StarterTemplate.Outbox.Operation
import StarterTemplate.Outbox.Tick

/-!
# The backoff of a failing row

The handler of a failed `enqueue` computes `retry_base * 2 ** attempts` before it takes the
minimum with `retry_max`.  A `timedelta` is bounded, so that a large number of attempts
makes the product raise inside the handler, where nothing catches it: the tick ends and
the rows after the failing one keep their leases and get no mark.  While the products are
representable, every claimed row gets its mark, at the exact moment.
-/

namespace StarterTemplate.Outbox

open Library

/-- The mark that an outcome calls for, with unbounded arithmetic. -/
def exactMark (settings : RelaySettings) (now : Instant) (message : OutboxMessage) :
    Option JobError → Mark
  | none => .delivered now
  | some error =>
    if settings.maxAttempts ≤ message.attempts + 1 then
      .failed (message.attempts + 1) error now
    else
      .retry (message.attempts + 1) error
        (now + min (settings.retryBase * 2 ^ message.attempts) settings.retryMax)

/-- The product of the backoff is a `timedelta`: it is below a thousand million days. -/
def BackoffFits (settings : RelaySettings) (attempts : Nat) : Prop :=
  attempts + 1 < settings.maxAttempts →
    settings.retryBase * 2 ^ attempts < 1000000000 * Duration.microsPerDay

instance (settings : RelaySettings) (attempts : Nat) :
    Decidable (BackoffFits settings attempts) :=
  inferInstanceAs (Decidable (_ → _))

/-- The days of a product below the bound. -/
theorem days_of_fits {product : Int} (low : 0 ≤ product)
    (fits : product < 1000000000 * Duration.microsPerDay) :
    -999999999 ≤ product.fdiv Duration.microsPerDay ∧
      product.fdiv Duration.microsPerDay ≤ 999999999 := by
  rw [Int.fdiv_eq_ediv_of_nonneg _ (by decide)]
  rw [Duration.microsPerDay] at fits ⊢
  omega

theorem mul_of_fits {duration : Duration} {factor : Nat} (low : 0 ≤ duration)
    (fits : duration * factor < 1000000000 * Duration.microsPerDay) :
    Duration.mul duration factor = some (duration * factor) :=
  if_pos (days_of_fits (mul_nonneg low (Int.natCast_nonneg factor)) fits)

/-- Under the bound, `settle` is the mark with unbounded arithmetic. -/
theorem settle_of_fits {settings : RelaySettings} {now : Instant} {message : OutboxMessage}
    (base : 0 ≤ settings.retryBase) (cap : 0 ≤ settings.retryMax) (started : 0 ≤ now)
    (addable : now + settings.retryMax ≤ Instant.max)
    (fits : BackoffFits settings message.attempts) (outcome : Option JobError) :
    settle settings now message outcome = some (exactMark settings now message outcome) := by
  cases outcome with
  | none => rfl
  | some error =>
    rw [settle, exactMark]
    simp only [Nat.cast_add, Nat.cast_one, Nat.add_sub_cancel]
    split
    · rfl
    rename_i notLast
    have product : Duration.mul settings.retryBase (2 ^ message.attempts) =
        some (settings.retryBase * 2 ^ message.attempts) := by
      have cast : ((2 ^ message.attempts : Nat) : Int) = 2 ^ message.attempts :=
        Nat.cast_pow 2 message.attempts
      rw [mul_of_fits base (by rw [cast]; exact fits (not_le.mp notLast)), cast]
    have scaled : 0 ≤ settings.retryBase * 2 ^ message.attempts :=
      mul_nonneg base (pow_nonneg (by decide) _)
    have sum := Instant.add_of_range
      (add_nonneg started (le_min scaled cap))
      (le_trans (add_le_add_right (min_le_right _ _) now) addable)
    rw [product]
    simp only [Option.bind_eq_bind, Option.bind_some, sum]
    rfl

theorem durations_of_accepted {settings : OutboxSettings} (accepted : settings.validate = []) :
    0 ≤ settings.retryBase ∧ 0 ≤ settings.retryMax := by
  simp only [OutboxSettings.validate, List.append_eq_nil_iff, ite_eq_right_iff,
    List.cons_ne_nil, imp_false, not_le] at accepted
  rcases accepted with ⟨⟨⟨⟨⟨⟨_, base⟩, cap⟩, _⟩, _⟩, _⟩, _⟩
  exact ⟨le_of_lt base, le_of_lt cap⟩

/-- A job queue that refuses every job. -/
def downQueue : JobQueue Unit := fun state _ _ _ => (some (.other "connection refused"), state)

/-- A row that failed this often, followed by a new one. -/
def strugglingRows (attempts : Nat) : OutboxTable :=
  ⟨[{ stagedRow 1 "send_email" [] [] 0 0 with attempts := attempts },
    stagedRow 2 "send_email" [] [] 0 0], (by decide : ([1, 2] : List Uuid).Nodup)⟩

/-- Settings that `validate` accepts, with a hundred attempts. -/
def patientSettings : OutboxSettings := { defaultSettings with maxAttempts := 100 }

end StarterTemplate.Outbox
