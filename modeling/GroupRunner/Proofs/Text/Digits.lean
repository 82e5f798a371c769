import GroupRunner.Time.Seconds
import Mathlib.Algebra.Group.Nat.Defs

set_option autoImplicit false

namespace GroupRunner

variable {c : Char} {width n : Nat}

theorem isDigit_of_mem_toDigits (member : c ∈ Nat.toDigits 10 n) : c.isDigit = true :=
  Nat.isDigit_of_mem_toDigits (by decide) (by decide) member

theorem toList_toString (n : Nat) : (toString n).toList = Nat.toDigits 10 n := by
  rw [Nat.toString_eq_ofList_toDigits, String.toList_ofList]

theorem isDigit_of_mem_toString (member : c ∈ (toString n).toList) : c.isDigit = true := by
  rw [toList_toString] at member
  exact isDigit_of_mem_toDigits member

theorem toList_padZeros (width n : Nat) : (padZeros width n).toList =
    List.replicate (width - (Nat.toDigits 10 n).length) '0' ++ Nat.toDigits 10 n :=
  String.toList_ofList

theorem isDigit_of_mem_padZeros (member : c ∈ (padZeros width n).toList) : c.isDigit = true := by
  rw [toList_padZeros] at member
  rcases List.mem_append.1 member with zero | digit
  next => rw [List.eq_of_mem_replicate zero]; rfl
  next => exact isDigit_of_mem_toDigits digit

theorem toList_padZeros_one (n : Nat) : (padZeros 1 n).toList = Nat.toDigits 10 n := by
  have filled : 0 < (Nat.toDigits 10 n).length := Nat.length_toDigits_pos
  rw [toList_padZeros, Nat.sub_eq_zero_of_le filled, List.replicate_zero, List.nil_append]

theorem length_padZeros (positive : 0 < width) (fits : n < 10 ^ width) :
    (padZeros width n).toList.length = width := by
  have short := (Nat.length_toDigits_le_iff (by decide) positive).2 fits
  rw [toList_padZeros, List.length_append, List.length_replicate, Nat.sub_add_cancel short]

theorem ofDigitChars_padZeros (positive : 0 < width) (fits : n < 10 ^ width) (before : Nat) :
    Nat.ofDigitChars 10 (padZeros width n).toList before = 10 ^ width * before + n := by
  have places := length_padZeros positive fits
  rw [toList_padZeros] at places ⊢
  rw [Nat.ofDigitChars_eq_ofDigitChars_zero, places, Nat.ofDigitChars_append,
    Nat.ofDigitChars_replicate_zero, Nat.mul_zero, Nat.ofDigitChars_ten_toDigits]

end GroupRunner
