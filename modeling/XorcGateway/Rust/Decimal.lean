/-
# Decimal numbers as text

`u64::from_str` over the characters of a string, with the overflow checks of its
loop, and that it reads back what formatting a number writes. Formatting is
`toString` on the number.
-/

import Mathlib.Algebra.Group.Nat.Defs

namespace Rust

/-- The digit loop of `u64::from_str`: multiplication and addition are
checked. -/
def digitsFrom (acc : ℕ) : List Char → Option ℕ
  | [] => some acc
  | c :: rest =>
      if c.isDigit then
        let acc := 10 * acc + (c.toNat - '0'.toNat)
        if acc < 2 ^ 64 then digitsFrom acc rest else none
      else none

/-- Without the sign a number may start with. -/
def withoutPlus : List Char → List Char
  | '+' :: rest => rest
  | text => text

/-- `u64::from_str`. -/
def u64FromStr (s : String) : Option UInt64 :=
  let digits := withoutPlus s.toList
  if digits.isEmpty then none else (digitsFrom 0 digits).map UInt64.ofNat

example : u64FromStr "+18446744073709551615" = some 18446744073709551615 := by decide

example : u64FromStr "18446744073709551616" = none := by decide

/-- Reading more digits does not make a number smaller. -/
theorem le_ofDigitChars (acc : ℕ) (text : List Char) : acc ≤ Nat.ofDigitChars 10 text acc := by
  induction text generalizing acc with
  | nil => simp
  | cons c rest ih =>
      rw [Nat.ofDigitChars_cons]
      have hrest := ih (10 * acc + (c.toNat - '0'.toNat))
      omega

/-- Digits of a number that fits pass every check. -/
theorem digitsFrom_eq_some {acc : ℕ} {text : List Char} (hdigits : ∀ c ∈ text, c.isDigit)
    (hfits : Nat.ofDigitChars 10 text acc < 2 ^ 64) :
    digitsFrom acc text = some (Nat.ofDigitChars 10 text acc) := by
  induction text generalizing acc with
  | nil => simp [digitsFrom]
  | cons c rest ih =>
      rw [Nat.ofDigitChars_cons] at hfits ⊢
      have hstep : 10 * acc + (c.toNat - '0'.toNat) < 2 ^ 64 :=
        Nat.lt_of_le_of_lt (le_ofDigitChars _ rest) hfits
      rw [digitsFrom, if_pos (hdigits c List.mem_cons_self), if_pos hstep]
      exact ih (fun c' hc' => hdigits c' (List.mem_cons_of_mem c hc')) hfits

/-- Digits have no sign in front. -/
theorem withoutPlus_eq_self {text : List Char} (hdigits : ∀ c ∈ text, c.isDigit) :
    withoutPlus text = text := by
  unfold withoutPlus
  split
  · exact absurd (hdigits '+' List.mem_cons_self) (by decide)
  · rfl

/-- A formatted number is read back. -/
theorem u64FromStr_toString (n : UInt64) : u64FromStr (toString n.toNat) = some n := by
  have htext : (toString n.toNat).toList = Nat.toDigits 10 n.toNat := Nat.toList_repr
  have hdigits : ∀ c ∈ Nat.toDigits 10 n.toNat, c.isDigit := fun c hc =>
    Nat.isDigit_of_mem_toDigits (by decide) (by decide) hc
  have hread : digitsFrom 0 (Nat.toDigits 10 n.toNat) = some n.toNat := by
    rw [digitsFrom_eq_some hdigits]
    · rw [Nat.ofDigitChars_ten_toDigits]
    · rw [Nat.ofDigitChars_ten_toDigits]
      exact n.toNat_lt
  rw [u64FromStr, htext, withoutPlus_eq_self hdigits, hread]
  simp [Nat.toDigits_ne_nil]

end Rust
