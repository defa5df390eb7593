import Mathlib.Data.Int.Basic
import StarterTemplate.Library.Uuid

/-!
# Values of the host language

JSON documents as Python dictionaries hold them, and the range checks of
`datetime` and `timedelta` arithmetic.  Instants and durations are integers of
microseconds; an instant counts from the first representable moment.
-/

namespace StarterTemplate.Library

/-- A decoded JSON value.  A float is kept by its text, which nothing computes
with. -/
inductive Json where
  | null
  | bool (value : Bool)
  | int (value : Int)
  | float (text : String)
  | str (value : String)
  | arr (items : List Json)
  | obj (fields : List (String × Json))
  deriving Repr, Inhabited

/-- A dictionary with text keys, in insertion order. -/
abbrev Dict := List (String × Json)

variable (dict : Dict) (key : String) (value : Json)

namespace Dict

/-- `dict.get(key)`. -/
def get (dict : Dict) (key : String) : Option Json :=
  (dict.find? fun field => field.1 == key).map Prod.snd

/-- `key in dict`. -/
def has (dict : Dict) (key : String) : Bool := dict.any fun field => field.1 == key

/-- `dict[key] = value` for a key that is not present. -/
def add (dict : Dict) (key : String) (value : Json) : Dict := dict ++ [(key, value)]

/-- `dict.setdefault(key, value)`. -/
def setDefault (dict : Dict) (key : String) (value : Json) : Dict :=
  if dict.has key then dict else dict.add key value

theorem has_eq_isSome_get :
    dict.has key = (dict.get key).isSome := by
  induction dict with
  | nil => rfl
  | cons field rest ih =>
    simp only [has, get, List.any_cons, List.find?_cons] at ih ⊢
    cases same : field.1 == key with
    | true => simp
    | false => simpa using ih

theorem get_add_of_ne {key other : String}
    (differ : other ≠ key) : (dict.add key value).get other = dict.get other := by
  have noMatch : (key == other) = false := by
    rw [beq_eq_false_iff_ne]
    exact differ.symm
  simp only [get, add, List.find?_append, List.find?_cons, noMatch, List.find?_nil]
  simp

theorem get_add_self {key : String}
    (absent : dict.has key = false) : (dict.add key value).get key = some value := by
  have missing : dict.find? (fun field => field.1 == key) = none := by
    rw [has_eq_isSome_get] at absent
    simpa [get] using absent
  simp [get, add, List.find?_append, missing]

/-- `setdefault` leaves the key bound to what it held, or else to the default. -/
theorem get_setDefault_self :
    (dict.setDefault key value).get key = some ((dict.get key).getD value) := by
  rw [setDefault]
  cases present : dict.has key with
  | true =>
    have found := present
    rw [has_eq_isSome_get, Option.isSome_iff_exists] at found
    rcases found with ⟨held, lookup⟩
    simp [lookup]
  | false =>
    have missing := present
    rw [has_eq_isSome_get, Option.isSome_eq_false_iff, Option.isNone_iff_eq_none] at missing
    simp [get_add_self dict value present, missing]

end Dict

/-- `UUID(str(value))`.  The text of `None`, of a Boolean, a float, a list or a
dictionary is never accepted: it is too short or holds a character that is not a
hexadecimal digit. -/
def Json.uuid? : Json → Option Uuid
  | .int value => Uuid.parse (toString value)
  | .str value => Uuid.parse value
  | .null | .bool _ | .float _ | .arr _ | .obj _ => none

/-- A moment, in microseconds after the first representable one. -/
abbrev Instant := Int

/-- A `timedelta`, in microseconds. -/
abbrev Duration := Int

variable {duration : Duration}

namespace Duration

def microsPerDay : Int := 86400000000

/-- `duration * factor`, `none` standing for the `OverflowError` of a result that
is not within 999999999 days. -/
def mul (duration : Duration) (factor : Nat) : Option Duration :=
  let product := duration * factor
  let days := product.fdiv microsPerDay
  if -999999999 ≤ days ∧ days ≤ 999999999 then some product else none

theorem eq_of_mul {product : Duration} {factor : Nat}
    (isProduct : mul duration factor = some product) : product = duration * factor := by
  simp only [mul] at isProduct
  split at isProduct
  · exact (Option.some.inj isProduct).symm
  · cases isProduct

end Duration

variable {instant : Instant}

namespace Instant

/-- The last representable moment, the end of the year 9999. -/
def max : Instant := 315537897599999999

/-- `instant + duration`, `none` standing for the `OverflowError`. -/
def add (instant : Instant) (duration : Duration) : Option Instant :=
  let sum := instant + duration
  if 0 ≤ sum ∧ sum ≤ max then some sum else none

theorem eq_of_add {sum : Instant}
    (isSum : add instant duration = some sum) : sum = instant + duration := by
  simp only [add] at isSum
  split at isSum
  · exact (Option.some.inj isSum).symm
  · cases isSum

theorem add_of_range (low : 0 ≤ instant + duration)
    (high : instant + duration ≤ max) : add instant duration = some (instant + duration) :=
  if_pos ⟨low, high⟩

end Instant

end StarterTemplate.Library
