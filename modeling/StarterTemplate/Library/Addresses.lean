import Mathlib.Data.List.Basic

/-!
# Texts of network addresses

The textual forms of IPv4 and IPv6 addresses: dotted quads, groups of hexadecimal digits
with at most one run of zero groups left out, a dotted quad in place of the last two groups,
and a zone.  Texts are joined at separators, and a joined text can be taken apart at the
first separator when the parts before it have none, and at the last one when the parts
after it have none.
-/

namespace StarterTemplate.Library

/-! ## Separators -/

section Separators

variable {Letter : Type} {separator : Letter} {left right before after : List Letter}

/-- Taken apart at the first separator. -/
theorem split_at_first (leftFree : separator ∉ left) (rightFree : separator ∉ right)
    (same : left ++ separator :: before = right ++ separator :: after) :
    left = right ∧ before = after := by
  rcases List.append_eq_append_iff.mp same with ⟨extra, isRight, isRest⟩ | ⟨extra, isLeft, isRest⟩
  · cases extra with
    | nil =>
      rw [List.append_nil] at isRight
      exact ⟨isRight.symm, (List.cons.inj isRest).2⟩
    | cons letter extra =>
      rw [isRight, ← (List.cons.inj isRest).1] at rightFree
      exact absurd (List.mem_append_right _ (.head _)) rightFree
  cases extra with
  | nil =>
    rw [List.append_nil] at isLeft
    exact ⟨isLeft, (List.cons.inj isRest).2.symm⟩
  | cons letter extra =>
    rw [isLeft, ← (List.cons.inj isRest).1] at leftFree
    exact absurd (List.mem_append_right _ (.head _)) leftFree

/-- Taken apart at the last separator. -/
theorem split_at_last (beforeFree : separator ∉ before) (afterFree : separator ∉ after)
    (same : left ++ separator :: before = right ++ separator :: after) :
    left = right ∧ before = after := by
  have reversed : before.reverse ++ separator :: left.reverse =
      after.reverse ++ separator :: right.reverse := by
    simpa using congrArg List.reverse same
  have parts := split_at_first (by simpa using beforeFree) (by simpa using afterFree) reversed
  exact ⟨List.reverse_inj.mp parts.2, List.reverse_inj.mp parts.1⟩

end Separators

/-! ## Addresses -/

/-- A decimal digit. -/
def IsDecimal (letter : Char) : Prop := letter ∈ "0123456789".toList

/-- A hexadecimal digit. -/
def IsHex (letter : Char) : Prop := letter ∈ "0123456789abcdefABCDEF".toList

/-- The letters of a text are tested one by one. -/
instance decidableLetters (test : Char → Prop) [DecidablePred test] (text : List Char) :
    Decidable (∀ letter ∈ text, test letter) :=
  text.decidableBAll test

instance : DecidablePred IsDecimal := fun letter => inferInstanceAs (Decidable (letter ∈ _))

instance : DecidablePred IsHex := fun letter => inferInstanceAs (Decidable (letter ∈ _))

/-- The number that decimal digits stand for. -/
def decimalValue (digits : List Char) : Nat :=
  digits.foldl (fun value digit => 10 * value + (digit.toNat - '0'.toNat)) 0

/-- A number from 0 to 255 without leading zeros. -/
structure IsOctet (text : List Char) : Prop where
  digits : ∀ letter ∈ text, IsDecimal letter
  nonempty : text ≠ []
  plain : text.head? = some '0' → text = ['0']
  small : decimalValue text ≤ 255

/-- One to four hexadecimal digits. -/
structure IsHextet (text : List Char) : Prop where
  digits : ∀ letter ∈ text, IsHex letter
  nonempty : text ≠ []
  short : text.length ≤ 4

instance : DecidablePred IsOctet := fun text =>
  decidable_of_iff ((∀ letter ∈ text, IsDecimal letter) ∧ text ≠ [] ∧
      (text.head? = some '0' → text = ['0']) ∧ decimalValue text ≤ 255)
    ⟨fun holds => ⟨holds.1, holds.2.1, holds.2.2.1, holds.2.2.2⟩,
      fun octet => ⟨octet.digits, octet.nonempty, octet.plain, octet.small⟩⟩

instance : DecidablePred IsHextet := fun text =>
  decidable_of_iff ((∀ letter ∈ text, IsHex letter) ∧ text ≠ [] ∧ text.length ≤ 4)
    ⟨fun holds => ⟨holds.1, holds.2.1, holds.2.2⟩,
      fun hextet => ⟨hextet.digits, hextet.nonempty, hextet.short⟩⟩

/-- A dotted quad. -/
def IsIPv4 (text : List Char) : Prop :=
  ∃ first second third fourth, IsOctet first ∧ IsOctet second ∧ IsOctet third ∧ IsOctet fourth ∧
    text = first ++ '.' :: (second ++ '.' :: (third ++ '.' :: fourth))

/-- Groups with colons between them. -/
def colonJoined : List (List Char) → List Char
  | [] => []
  | [group] => group
  | group :: groups => group ++ ':' :: colonJoined groups

/-- The text of an IPv6 address. -/
inductive IsIPv6 : List Char → Prop where
  | full {groups : List (List Char)} (hextets : ∀ group ∈ groups, IsHextet group)
      (eight : groups.length = 8) : IsIPv6 (colonJoined groups)
  | fullQuad {groups : List (List Char)} {quad : List Char}
      (hextets : ∀ group ∈ groups, IsHextet group) (six : groups.length = 6)
      (isQuad : IsIPv4 quad) : IsIPv6 (colonJoined (groups ++ [quad]))
  | compressed {left right : List (List Char)} (lefts : ∀ group ∈ left, IsHextet group)
      (rights : ∀ group ∈ right, IsHextet group) (few : left.length + right.length ≤ 7) :
      IsIPv6 (colonJoined left ++ ':' :: ':' :: colonJoined right)
  | compressedQuad {left right : List (List Char)} {quad : List Char}
      (lefts : ∀ group ∈ left, IsHextet group) (rights : ∀ group ∈ right, IsHextet group)
      (isQuad : IsIPv4 quad) (few : left.length + right.length ≤ 5) :
      IsIPv6 (colonJoined left ++ ':' :: ':' :: colonJoined (right ++ [quad]))
  | zoned {address zone : List Char} (isAddress : IsIPv6 address) (nonempty : zone ≠ [])
      (plain : '%' ∉ zone) : IsIPv6 (address ++ '%' :: zone)

variable {text : List Char} {letter : Char}

theorem IsOctet.not_mem (octet : IsOctet text)
    (noDigit : ¬ IsDecimal letter) : letter ∉ text :=
  fun isLetter => noDigit (octet.digits letter isLetter)

theorem IsHextet.not_mem (hextet : IsHextet text)
    (noDigit : ¬ IsHex letter) : letter ∉ text :=
  fun isLetter => noDigit (hextet.digits letter isLetter)

/-- A dotted quad has dots and no colons. -/
theorem IsIPv4.letters (quad : IsIPv4 text) : '.' ∈ text ∧ ':' ∉ text := by
  rcases quad with ⟨first, second, third, fourth, isFirst, isSecond, isThird, isFourth, isText⟩
  have noDigit : ¬ IsDecimal ':' := by decide
  rw [isText]
  refine ⟨List.mem_append_right _ (.head _), ?_⟩
  simp [isFirst.not_mem noDigit, isSecond.not_mem noDigit, isThird.not_mem noDigit,
    isFourth.not_mem noDigit]

variable {group : List Char} {groups : List (List Char)}

/-- Groups that begin with a hextet and do not end there. -/
theorem colonJoined_cons (more : groups ≠ []) :
    colonJoined (group :: groups) = group ++ ':' :: colonJoined groups := by
  cases groups with
  | nil => exact absurd rfl more
  | cons _ _ => rfl

/-- The text has a colon, and no dot before the first one. -/
def HasPlainHead (text : List Char) : Prop :=
  ∃ head rest, text = head ++ ':' :: rest ∧ '.' ∉ head ∧ ':' ∉ head

variable {rest : List Char}

theorem IsHextet.plainHead (hextet : IsHextet group) :
    HasPlainHead (group ++ ':' :: rest) :=
  ⟨group, rest, rfl, hextet.not_mem (by decide), hextet.not_mem (by decide)⟩

theorem plainHead_joined
    (hextet : IsHextet group) (more : groups ≠ []) :
    HasPlainHead (colonJoined (group :: groups)) := by
  rw [colonJoined_cons more]
  exact hextet.plainHead

theorem plainHead_compressed {left : List (List Char)}
    (lefts : ∀ group ∈ left, IsHextet group) :
    HasPlainHead (colonJoined left ++ ':' :: ':' :: rest) := by
  cases left with
  | nil => exact ⟨[], ':' :: rest, rfl, List.not_mem_nil, List.not_mem_nil⟩
  | cons group groups =>
    have hextet := lefts group (.head _)
    cases groups with
    | nil => exact hextet.plainHead
    | cons second groups =>
      rw [colonJoined_cons (List.cons_ne_nil _ _), List.append_assoc, List.cons_append]
      exact hextet.plainHead

theorem IsIPv6.plainHead (address : IsIPv6 text) : HasPlainHead text := by
  induction address with
  | full hextets eight =>
    rename_i groups
    cases groups with
    | nil => cases eight
    | cons group groups =>
      apply plainHead_joined (hextets group (.head _))
      intro isEmpty
      simp [isEmpty] at eight
  | fullQuad hextets six isQuad =>
    rename_i groups quad
    cases groups with
    | nil => cases six
    | cons group groups =>
      exact plainHead_joined (hextets group (.head _)) (by simp)
  | compressed lefts rights few
  | compressedQuad lefts rights isQuad few => exact plainHead_compressed lefts
  | zoned isAddress nonempty plain ih =>
    rcases ih with ⟨head, rest, isText, noDot, noColon⟩
    rw [isText, List.append_assoc, List.cons_append]
    exact ⟨head, _, rfl, noDot, noColon⟩

end StarterTemplate.Library
