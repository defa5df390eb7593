import Mathlib.Data.List.DropRight
import Mathlib.Data.Nat.Basic
import Mathlib.Tactic.NormNum
import Mathlib.Tactic.Ring

/-!
# UUIDs and their text form

The 128-bit identifiers of the Python standard library, with the text that `str`
prints and the text that the constructor accepts.  The accepted grammar is wider
than the printed one: the constructor drops `urn:` and `uuid:`, surrounding braces
and every hyphen, and hands the remaining 32 characters to `int(_, 16)`, which in
turn takes surrounding blanks, a sign, a `0x` prefix, single underscores and any
Unicode decimal digit.
-/

namespace StarterTemplate.Library

/-- A UUID is its 128-bit integer value. -/
structure Uuid where
  int : Nat
  bound : int < 2 ^ 128
  deriving DecidableEq

variable {char : Char} {digits : List Char} (value width : Nat) (uuid : Uuid)

namespace Uuid

/-- The UUID of an integer, reduced to 128 bits. -/
def ofNat (value : Nat) : Uuid := ⟨value % 2 ^ 128, Nat.mod_lt _ (by decide)⟩

instance (value : Nat) : OfNat Uuid value := ⟨ofNat value⟩

instance : Inhabited Uuid := ⟨0⟩

/-! ## Printing -/

/-- The lower-case hexadecimal digits in order. -/
def hexAlphabet : List Char :=
  ['0', '1', '2', '3', '4', '5', '6', '7', '8', '9', 'a', 'b', 'c', 'd', 'e', 'f']

/-- Lower-case hexadecimal digit. -/
def hexDigit (value : Nat) : Char := hexAlphabet[value]?.getD '0'

/-- The last `width` hexadecimal digits of a number, most significant first. -/
def hexDigits : (width : Nat) → Nat → List Char
  | 0, _ => []
  | width + 1, value => hexDigits width (value / 16) ++ [hexDigit (value % 16)]

/-- Insert the four hyphens of the canonical form. -/
def hyphenate (digits : List Char) : List Char :=
  digits.take 8 ++ '-' :: ((digits.drop 8).take 4 ++ '-' :: ((digits.drop 12).take 4 ++
    '-' :: ((digits.drop 16).take 4 ++ '-' :: digits.drop 20)))

/-- `str(uuid)`. -/
def str (uuid : Uuid) : String := String.ofList (hyphenate (hexDigits 32 uuid.int))

/-! ## Parsing -/

/-- First code points of the blocks of ten decimal digits of Unicode 15. -/
def decimalZeros : List Nat :=
  [0x30, 0x660, 0x6f0, 0x7c0, 0x966, 0x9e6, 0xa66, 0xae6, 0xb66, 0xbe6, 0xc66, 0xce6,
    0xd66, 0xde6, 0xe50, 0xed0, 0xf20, 0x1040, 0x1090, 0x17e0, 0x1810, 0x1946, 0x19d0,
    0x1a80, 0x1a90, 0x1b50, 0x1bb0, 0x1c40, 0x1c50, 0xa620, 0xa8d0, 0xa900, 0xa9d0,
    0xa9f0, 0xaa50, 0xabf0, 0xff10, 0x104a0, 0x10d30, 0x11066, 0x110f0, 0x11136,
    0x111d0, 0x112f0, 0x11450, 0x114d0, 0x11650, 0x116c0, 0x11730, 0x118e0, 0x11950,
    0x11c50, 0x11d50, 0x11da0, 0x11f50, 0x16a60, 0x16ac0, 0x16b50, 0x1d7ce, 0x1d7d8,
    0x1d7e2, 0x1d7ec, 0x1d7f6, 0x1e140, 0x1e2f0, 0x1e4f0, 0x1e950, 0x1fbf0]

/-- Value of a Unicode decimal digit. -/
def decimalValue (char : Char) : Option Nat :=
  (decimalZeros.find? fun first => first ≤ char.toNat && char.toNat < first + 10).map
    fun first => char.toNat - first

/-- Value of a digit in base 16 as `int` reads it. -/
def hexValue (char : Char) : Option Nat :=
  if 'a' ≤ char ∧ char ≤ 'f' then some (char.toNat - 'a'.toNat + 10)
  else if 'A' ≤ char ∧ char ≤ 'F' then some (char.toNat - 'A'.toNat + 10)
  else decimalValue char

/-- Characters `int` skips at both ends of its argument. -/
def isBlank (char : Char) : Bool :=
  char.toNat ∈ [0x9, 0xa, 0xb, 0xc, 0xd, 0x20, 0x85, 0xa0, 0x1680, 0x2000, 0x2001,
    0x2002, 0x2003, 0x2004, 0x2005, 0x2006, 0x2007, 0x2008, 0x2009, 0x200a, 0x2028,
    0x2029, 0x202f, 0x205f, 0x3000]

/-- Digits with single underscores between them; `ended` says that the text so far
ends in a digit. -/
def readDigits : List Char → (value : Nat) → (ended : Bool) → Option Nat
  | [], value, true => some value
  | [], _, false => none
  | char :: rest, value, ended =>
    if char = '_' ∧ ended = true then readDigits rest value false
    else
      match hexValue char with
      | some digit => readDigits rest (value * 16 + digit) true
      | none => none

/-- Drop one leading sign. -/
def dropSign : List Char → List Char
  | '+' :: rest => rest
  | text => text

/-- Drop a `0x` prefix together with the one underscore that may follow it. -/
def dropHexPrefix : List Char → List Char
  | '0' :: 'x' :: '_' :: rest => rest
  | '0' :: 'X' :: '_' :: rest => rest
  | '0' :: 'x' :: rest => rest
  | '0' :: 'X' :: rest => rest
  | text => text

/-- `int(text, 16)` for a text without a minus sign. -/
def intBase16 (text : List Char) : Option Nat :=
  readDigits (dropHexPrefix (dropSign ((text.dropWhile isBlank).rdropWhile isBlank))) 0 false

/-- `text.replace(pattern, "")`: remove the leftmost non-overlapping occurrences.
`skip` counts the characters of an occurrence still to be dropped. -/
def removeAll (pattern : List Char) : (skip : Nat) → List Char → List Char
  | _, [] => []
  | skip + 1, _ :: rest => removeAll pattern skip rest
  | 0, char :: rest =>
    if pattern.isPrefixOf (char :: rest) then removeAll pattern (pattern.length - 1) rest
    else char :: removeAll pattern 0 rest

/-- `text.strip('{}')`. -/
def stripBraces (text : List Char) : List Char :=
  (text.dropWhile fun char => char = '{' || char = '}').rdropWhile
    fun char => char = '{' || char = '}'

/-- The 32 characters that the constructor hands to `int`. -/
def bareHex (text : List Char) : List Char :=
  (stripBraces (removeAll "uuid:".toList 0 (removeAll "urn:".toList 0 text))).filter (· ≠ '-')

/-- `UUID(text)`, `none` standing for the `ValueError`. -/
def parse (text : String) : Option Uuid :=
  let hex := bareHex text.toList
  if hex.length = 32 then (intBase16 hex).map ofNat else none

/-! ## Printed identifiers parse back -/

theorem hexDigit_cases :
    hexDigit value ∈ hexAlphabet := by
  rw [hexDigit]
  cases found : hexAlphabet[value]? with
  | none => simp [hexAlphabet]
  | some digit => exact List.mem_of_getElem? found

theorem mem_hexDigits {width value : Nat}
    (member : char ∈ hexDigits width value) : char ∈ hexAlphabet := by
  induction width generalizing value with
  | zero => simp [hexDigits] at member
  | succ width ih =>
    rw [hexDigits, List.mem_append, List.mem_singleton] at member
    cases member with
    | inl leading => exact ih leading
    | inr last =>
      rw [last]
      exact hexDigit_cases _

@[simp] theorem length_hexDigits (value : Nat) :
    (hexDigits width value).length = width := by
  induction width generalizing value with
  | zero => rfl
  | succ width ih => simp [hexDigits, ih]

theorem hexValue_hexDigit {value : Nat} (small : value < 16) :
    hexValue (hexDigit value) = some value := by
  have checked : ∀ digit < 16, hexValue (hexDigit digit) = some digit := by decide
  exact checked value small

theorem hexDigit_ne_underscore : hexDigit value ≠ '_' := by
  intro equal
  have member := hexDigit_cases value
  rw [equal] at member
  revert member
  decide

/-- Reading printed digits appends their value to the one read before. -/
theorem readDigits_hexDigits (value read : Nat) (rest : List Char) (ended : Bool)
    (positive : width ≠ 0) :
    readDigits (hexDigits width value ++ rest) read ended =
      readDigits rest (read * 16 ^ width + value % 16 ^ width) true := by
  induction width generalizing value rest ended with
  | zero => exact absurd rfl positive
  | succ width ih =>
    have lastStep : ∀ ended, readDigits (hexDigit (value % 16) :: rest)
        (read * 16 ^ width + value / 16 % 16 ^ width) ended =
        readDigits rest (read * 16 ^ (width + 1) + value % 16 ^ (width + 1)) true := by
      intro ended
      have digit : hexValue (hexDigit (value % 16)) = some (value % 16) :=
        hexValue_hexDigit (Nat.mod_lt _ (by decide))
      have split : value % 16 ^ (width + 1) = value % 16 + 16 * (value / 16 % 16 ^ width) := by
        rw [Nat.pow_succ, Nat.mul_comm, Nat.mod_mul]
      simp only [readDigits, hexDigit_ne_underscore, false_and, if_false, digit, split]
      congr 1
      ring
    rw [hexDigits, List.append_assoc, List.singleton_append]
    cases width with
    | zero => simpa [hexDigits, Nat.mod_one] using lastStep ended
    | succ width => rw [ih (value / 16) _ ended (Nat.succ_ne_zero width), lastStep]

theorem removeAll_of_not_mem {first : Char} {pattern text : List Char}
    (absent : first ∉ text) : removeAll (first :: pattern) 0 text = text := by
  induction text with
  | nil => rfl
  | cons char rest ih =>
    rw [List.mem_cons, not_or] at absent
    have noMatch : (first :: pattern).isPrefixOf (char :: rest) = false := by
      simp [List.isPrefixOf, absent.1]
    simp [removeAll, noMatch, ih absent.2]

section

variable {text : List Char} {drop : Char → Bool} (keep : ∀ char ∈ text, drop char = false)
include keep

theorem dropWhile_of_all_not : text.dropWhile drop = text := by
  cases text with
  | nil => rfl
  | cons char rest => simp [List.dropWhile, keep char (by simp)]

theorem rdropWhile_of_all_not : text.rdropWhile drop = text := by
  rw [List.rdropWhile, dropWhile_of_all_not, List.reverse_reverse]
  intro char member
  exact keep char (List.mem_reverse.mp member)

end

theorem mem_hyphenate
    (member : char ∈ hyphenate digits) : char ∈ digits ∨ char = '-' := by
  simp only [hyphenate, List.mem_append, List.mem_cons] at member
  rcases member with part | same | part | same | part | same | part | same | part
  · exact .inl (List.mem_of_mem_take part)
  · exact .inr same
  · exact .inl (List.mem_of_mem_drop (List.mem_of_mem_take part))
  · exact .inr same
  · exact .inl (List.mem_of_mem_drop (List.mem_of_mem_take part))
  · exact .inr same
  · exact .inl (List.mem_of_mem_drop (List.mem_of_mem_take part))
  · exact .inr same
  · exact .inl (List.mem_of_mem_drop part)

/-- An id is written with the digits and hyphens. -/
theorem mem_str {uuid : Uuid} (member : char ∈ uuid.str.toList) :
    char ∈ hexAlphabet ∨ char = '-' := by
  rw [str, String.toList_ofList] at member
  exact (mem_hyphenate member).imp_left mem_hexDigits

theorem filter_hyphenate (bare : '-' ∉ digits) :
    (hyphenate digits).filter (· ≠ '-') = digits := by
  have keep : ∀ part : List Char, (∀ char ∈ part, char ∈ digits) →
      part.filter (· ≠ '-') = part := by
    intro part sub
    rw [List.filter_eq_self]
    intro char member
    have inside := sub char member
    simp only [decide_eq_true_eq]
    intro equal
    exact bare (equal ▸ inside)
  have joined : digits.take 8 ++ ((digits.drop 8).take 4 ++ ((digits.drop 12).take 4 ++
      ((digits.drop 16).take 4 ++ digits.drop 20))) = digits := by
    have step : ∀ at_ : Nat, (digits.drop at_).take 4 ++ digits.drop (at_ + 4) =
        digits.drop at_ := by
      intro at_
      rw [← List.drop_drop]
      exact List.take_append_drop 4 _
    rw [step 16, step 12, step 8]
    exact List.take_append_drop 8 _
  simp only [hyphenate, List.filter_append, List.filter_cons, ne_eq, not_true,
    decide_false, Bool.false_eq_true, if_false]
  rw [keep _ (fun _ member => List.mem_of_mem_take member),
    keep _ (fun _ member => List.mem_of_mem_drop (List.mem_of_mem_take member)),
    keep _ (fun _ member => List.mem_of_mem_drop (List.mem_of_mem_take member)),
    keep _ (fun _ member => List.mem_of_mem_drop (List.mem_of_mem_take member)),
    keep _ (fun _ member => List.mem_of_mem_drop member)]
  exact joined

theorem dropSign_of_head_ne {text : List Char} (keep : ∀ char ∈ text, char ≠ '+') :
    dropSign text = text := by
  cases text with
  | nil => rfl
  | cons char rest =>
    have differs := keep char (by simp)
    simp [dropSign, differs]

theorem dropHexPrefix_of_second_ne {text : List Char}
    (keep : ∀ char ∈ text, char ≠ 'x' ∧ char ≠ 'X') : dropHexPrefix text = text := by
  cases text with
  | nil => rfl
  | cons first rest =>
    cases rest with
    | nil => simp [dropHexPrefix]
    | cons second rest =>
      have differs := keep second (by simp)
      simp [dropHexPrefix, differs.1, differs.2]

/-- No hexadecimal digit is one of the characters the parser treats specially. -/
theorem hexAlphabet_plain (member : char ∈ hexAlphabet) :
    char ≠ 'u' ∧ char ≠ '{' ∧ char ≠ '}' ∧ char ≠ '-' ∧ char ≠ '+' ∧
      char ≠ 'x' ∧ char ≠ 'X' ∧ isBlank char = false := by
  have checked : hexAlphabet.all (fun char => decide (char ≠ 'u' ∧ char ≠ '{' ∧ char ≠ '}' ∧
      char ≠ '-' ∧ char ≠ '+' ∧ char ≠ 'x' ∧ char ≠ 'X' ∧ isBlank char = false)) = true := by
    decide
  exact of_decide_eq_true (List.all_eq_true.mp checked char member)

theorem intBase16_hexDigits :
    intBase16 (hexDigits 32 uuid.int) = some uuid.int := by
  have plain : ∀ char ∈ hexDigits 32 uuid.int, char ≠ '+' ∧ char ≠ 'x' ∧ char ≠ 'X' ∧
      isBlank char = false := fun char member =>
    (hexAlphabet_plain (mem_hexDigits member)).2.2.2.2
  have read := readDigits_hexDigits 32 uuid.int 0 [] false (by decide)
  rw [List.append_nil, Nat.zero_mul, Nat.zero_add,
    Nat.mod_eq_of_lt (lt_of_lt_of_eq uuid.bound (by norm_num))] at read
  rw [intBase16, dropWhile_of_all_not (fun char member => (plain char member).2.2.2),
    rdropWhile_of_all_not (fun char member => (plain char member).2.2.2),
    dropSign_of_head_ne (fun char member => (plain char member).1),
    dropHexPrefix_of_second_ne
      (fun char member => ⟨(plain char member).2.1, (plain char member).2.2.1⟩)]
  exact read

theorem bareHex_hyphenate :
    bareHex (hyphenate (hexDigits 32 value)) = hexDigits 32 value := by
  have plain : ∀ char ∈ hyphenate (hexDigits 32 value),
      char ≠ 'u' ∧ char ≠ '{' ∧ char ≠ '}' := by
    intro char member
    cases mem_hyphenate member with
    | inl digit =>
      have facts := hexAlphabet_plain (mem_hexDigits digit)
      exact ⟨facts.1, facts.2.1, facts.2.2.1⟩
    | inr hyphen =>
      rw [hyphen]
      decide
  have noU : 'u' ∉ hyphenate (hexDigits 32 value) :=
    fun member => (plain 'u' member).1 rfl
  have noHyphen : '-' ∉ hexDigits 32 value := fun member =>
    (hexAlphabet_plain (mem_hexDigits member)).2.2.2.1 rfl
  have notBrace : ∀ char ∈ hyphenate (hexDigits 32 value),
      (char = '{' || char = '}' : Bool) = false := by
    intro char member
    simp [(plain char member).2.1, (plain char member).2.2]
  rw [bareHex, show "urn:".toList = 'u' :: "rn:".toList from rfl,
    show "uuid:".toList = 'u' :: "uid:".toList from rfl,
    removeAll_of_not_mem noU, removeAll_of_not_mem noU, stripBraces,
    dropWhile_of_all_not notBrace, rdropWhile_of_all_not notBrace,
    filter_hyphenate noHyphen]

@[simp] theorem ofNat_int : ofNat uuid.int = uuid := by
  cases uuid with
  | mk int bound => simp only [ofNat, Nat.mod_eq_of_lt bound]

/-- The constructor accepts the printed form and recovers the identifier. -/
@[simp] theorem parse_str : parse uuid.str = some uuid := by
  simp only [parse, str, String.toList_ofList, bareHex_hyphenate, length_hexDigits,
    if_true, intBase16_hexDigits, Option.map_some, ofNat_int]

/-- Distinct identifiers print differently. -/
theorem str_injective : Function.Injective str := by
  intro left right equal
  have parsed := congrArg parse equal
  rw [parse_str, parse_str] at parsed
  exact Option.some.inj parsed

end Uuid

end StarterTemplate.Library
