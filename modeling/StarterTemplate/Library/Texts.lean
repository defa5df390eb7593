import Mathlib.Logic.Equiv.List
import StarterTemplate.Library.PyValues

/-!
# Texts in documents

The texts that a JSON document holds, the names of its fields included, the
occurrence of one text in another, and texts as numbers.
-/

namespace StarterTemplate.Library

mutual

/-- The texts of a document. -/
def Json.texts : Json → List String
  | .null | .bool _ | .int _ => []
  | .float text => [text]
  | .str value => [value]
  | .arr items => itemTexts items
  | .obj fields => fieldTexts fields

/-- The texts of the items of an array. -/
def itemTexts : List Json → List String
  | [] => []
  | item :: items => item.texts ++ itemTexts items

/-- The texts of the fields of an object. -/
def fieldTexts : List (String × Json) → List String
  | [] => []
  | field :: fields => pairTexts field ++ fieldTexts fields

/-- The texts of one field. -/
def pairTexts : String × Json → List String
  | (name, value) => name :: value.texts

end

/-- The texts of a dictionary. -/
def Dict.texts (dict : Dict) : List String := fieldTexts dict

theorem mem_itemTexts {text : String} {items : List Json} :
    text ∈ itemTexts items ↔ ∃ item ∈ items, text ∈ item.texts := by
  induction items with
  | nil => simp [itemTexts]
  | cons item items ih => simp [itemTexts, ih]

theorem Dict.mem_texts {text : String} {dict : Dict} :
    text ∈ dict.texts ↔ ∃ field ∈ dict, text = field.1 ∨ text ∈ field.2.texts := by
  rw [texts]
  induction dict with
  | nil => simp [fieldTexts]
  | cons field fields ih =>
    cases field with
    | mk name value => simp [fieldTexts, pairTexts, ih, or_assoc]

/-- A value of a dictionary brings no other text. -/
theorem Dict.mem_texts_of_get {text name : String} {dict : Dict} {value : Json}
    (isValue : dict.get name = some value) (isText : text ∈ value.texts) : text ∈ dict.texts := by
  rcases Option.map_eq_some_iff.mp isValue with ⟨field, found, isField⟩
  rw [← isField] at isText
  exact Dict.mem_texts.mpr ⟨field, List.mem_of_find?_eq_some found, .inr isText⟩

/-- The text holds the part. -/
def Mentions (part text : String) : Prop :=
  ∃ before after : List Char, text.toList = before ++ part.toList ++ after

/-- None of the texts holds the part. -/
def Silent (part : String) (texts : List String) : Prop := ∀ text ∈ texts, ¬ Mentions part text

section Occurrence

variable {part text : String} {texts more : List String}

@[simp] theorem mentions_self : Mentions part part := ⟨[], [], by simp⟩

/-- Every character of the part is one of the text. -/
theorem not_mentions_of_absent {char : Char} (isPart : char ∈ part.toList)
    (absent : char ∉ text.toList) : ¬ Mentions part text := by
  intro ⟨before, after, isText⟩
  apply absent
  rw [isText]
  exact List.mem_append_left _ (List.mem_append_right _ isPart)

@[simp] theorem silent_nil : Silent part [] := fun _ absent => absurd absent List.not_mem_nil

@[simp] theorem silent_cons :
    Silent part (text :: texts) ↔ ¬ Mentions part text ∧ Silent part texts := by
  simp [Silent]

@[simp] theorem silent_append :
    Silent part (texts ++ more) ↔ Silent part texts ∧ Silent part more := by
  simp only [Silent, List.mem_append]
  constructor
  · intro silent
    exact ⟨fun text isText => silent text (.inl isText), fun text isText => silent text (.inr isText)⟩
  · intro silent text possible
    exact possible.elim (silent.1 text) (silent.2 text)

theorem Silent.mono (silent : Silent part texts) (among : ∀ text ∈ more, text ∈ texts) :
    Silent part more :=
  fun text isText => silent text (among text isText)

theorem silent_of_absent {char : Char} (isPart : char ∈ part.toList)
    (absent : ∀ text ∈ texts, char ∉ text.toList) : Silent part texts :=
  fun text isText => not_mentions_of_absent isPart (absent text isText)

end Occurrence

/-! ## Texts as numbers -/

/-- A text as a number. -/
def textNumber (text : String) : Nat := Encodable.encode (text.toList.map Char.toNat)

def numberText (number : Nat) : String :=
  String.ofList (((Encodable.decode number : Option (List Nat)).getD []).map Char.ofNat)

theorem numberText_textNumber (text : String) : numberText (textNumber text) = text := by
  have sameChars : (text.toList.map Char.toNat).map Char.ofNat = text.toList := by
    rw [List.map_map]
    exact (List.map_congr_left fun character _ => Char.ofNat_toNat character).trans
      (List.map_id' text.toList)
  rw [numberText, textNumber, Encodable.encodek, Option.getD_some, sameChars,
    String.ofList_toList]

end StarterTemplate.Library
