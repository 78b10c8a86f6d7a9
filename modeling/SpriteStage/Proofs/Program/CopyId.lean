import Mathlib.Data.List.TakeWhile
import SpriteStage.Engine.Cursor

namespace SpriteStage

/-- The id ends in a tilde and a row of decimal digits. -/
def Numbered (id : String) : Prop :=
  ∃ front digits : List Char, digits ≠ [] ∧ (∀ c ∈ digits, c.isDigit = true) ∧
    id.toList = front ++ '~' :: digits

/-- The number behind the tilde of such an id. -/
def copyNumber? (id : String) : Option Nat :=
  let back := id.toList.reverse
  let digits := back.takeWhile Char.isDigit
  if !digits.isEmpty && (back.dropWhile Char.isDigit).head? = some '~' then
    some (Nat.ofDigitChars 10 digits.reverse 0)
  else none

/-- The number of a copy is what the digits behind the last tilde say. -/
theorem copyNumber?_of_digits {id : String} {front digits : List Char} (hdigits : digits ≠ [])
    (hall : ∀ c ∈ digits, c.isDigit = true) (hid : id.toList = front ++ '~' :: digits) :
    copyNumber? id = some (Nat.ofDigitChars 10 digits 0) := by
  have hback : id.toList.reverse = digits.reverse ++ '~' :: front.reverse := by simp [hid]
  have hreverse : ∀ c ∈ digits.reverse, c.isDigit = true := by simpa using hall
  have htilde : ¬ '~'.isDigit = true := by decide
  have htake : id.toList.reverse.takeWhile Char.isDigit = digits.reverse := by
    rw [hback, List.takeWhile_append_of_pos hreverse, List.takeWhile_cons_of_neg htilde, List.append_nil]
  have hdrop : id.toList.reverse.dropWhile Char.isDigit = '~' :: front.reverse := by
    rw [hback, List.dropWhile_append_of_pos hreverse, List.dropWhile_cons_of_neg htilde]
  simp [copyNumber?, htake, hdrop, hdigits]

/-- An id ends like that of a copy exactly if a number can be read off it. -/
theorem numbered_iff (id : String) : Numbered id ↔ (copyNumber? id).isSome = true := by
  constructor
  · rintro ⟨front, digits, hdigits, hall, hid⟩
    simp [copyNumber?_of_digits hdigits hall hid]
  · intro hsome
    have hsplit := List.takeWhile_append_dropWhile (p := Char.isDigit) (l := id.toList.reverse)
    have hall : ∀ c ∈ id.toList.reverse.takeWhile Char.isDigit, c.isDigit = true :=
      fun c hc => List.mem_takeWhile_imp hc
    simp only [copyNumber?] at hsome
    generalize id.toList.reverse.takeWhile Char.isDigit = digits at hsome hsplit hall
    generalize id.toList.reverse.dropWhile Char.isDigit = behind at hsome hsplit
    split at hsome
    case isFalse => cases hsome
    case isTrue hform =>
      simp only [Bool.and_eq_true, Bool.not_eq_true', List.isEmpty_eq_false_iff, decide_eq_true_eq] at hform
      obtain ⟨hdigits, hhead⟩ := hform
      obtain ⟨front, rfl⟩ := List.head?_eq_some_iff.1 hhead
      refine ⟨front.reverse, digits.reverse, by simpa using hdigits, by simpa using hall, ?_⟩
      simpa using (congrArg List.reverse hsplit).symm

instance (id : String) : Decidable (Numbered id) :=
  decidable_of_iff _ (numbered_iff id).symm

/-- The number of a copy can be read off its id. -/
@[simp] theorem copyNumber?_id_copy (b : Block) (number : Nat) :
    copyNumber? (b.copy number).id = some number := by
  have hid : (b.copy number).id.toList = b.id.toList ++ '~' :: Nat.toDigits 10 number := by
    simp [Block.copy]
  have hdigits : Nat.toDigits 10 number ≠ [] := List.ne_nil_of_length_pos Nat.length_toDigits_pos
  rw [copyNumber?_of_digits hdigits _ hid, Nat.ofDigitChars_ten_toDigits]
  intro c hc
  exact Nat.isDigit_of_mem_toDigits (by decide) (by decide) hc

end SpriteStage
