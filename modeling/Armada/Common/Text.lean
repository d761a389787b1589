import Mathlib.Data.List.Basic

/-!
# Strings of the runtime

The functions of `String` and `Number` that the services build texts with.
-/

namespace Armada.Common

/-- `String.prototype.toLowerCase`. -/
class LetterCase where
  toLowerCase : String → String

/-- A runtime that knows the letters from A to Z. -/
@[reducible] def asciiLetters : LetterCase := ⟨String.toLower⟩

/-- `String.prototype.padStart`. -/
def padStart (text : String) (targetLength : Nat) (fill : Char) : String :=
  .ofList (List.leftpad targetLength fill text.toList)

/-- `first || second`: the empty string is falsy. -/
def orText (first second : String) : String := if first = "" then second else first

/-- A number is written in digits. -/
theorem mem_toString {number : Nat} {char : Char} (member : char ∈ (toString number).toList) :
    char.isDigit = true := by
  rw [Nat.toString_eq_repr, Nat.repr, String.toList_ofList] at member
  exact Nat.isDigit_of_mem_toDigits (by decide) (by decide) member

/-- A number is never written as the empty text. -/
theorem toString_ne_empty (number : Nat) : (toString number).toList ≠ [] := by
  rw [Nat.toString_eq_repr, Nat.repr, String.toList_ofList]
  exact Nat.toDigits_ne_nil

/-- The padded text holds the fill and the characters of the text. -/
theorem mem_padStart {text : String} {targetLength : Nat} {fill char : Char}
    (member : char ∈ (padStart text targetLength fill).toList) :
    char = fill ∨ char ∈ text.toList := by
  rw [padStart, String.toList_ofList, List.leftpad, List.mem_append] at member
  exact member.imp_left List.eq_of_mem_replicate

/-- `||` answers one of its two texts. -/
theorem orText_cases (first second : String) :
    orText first second = first ∨ orText first second = second := by
  rw [orText]
  split
  · exact .inr rfl
  · exact .inl rfl

end Armada.Common
