/-
# Binary floating-point formats

The bit patterns of a format, their sign apart, are in the order of the values they
stand for: an exponent field above a mantissa field, with the leading bit of the
mantissa left out where the exponent is not zero. So the patterns of both signs are
the marks of one increasing scale. A value is rounded to the mark nearest to it,
and half-way between two to the even one. With room for any exponent, rounding is a
division whose quotient may carry into the exponent.
-/

import Mathlib.Algebra.Order.Group.Abs
import Mathlib.Algebra.Order.Ring.Int
import Mathlib.Data.Int.ConditionallyCompleteOrder
import Mathlib.Order.Interval.Set.OrdConnected
import Mathlib.Tactic.Linarith
import Mathlib.Tactic.Positivity
import Mathlib.Tactic.Ring

namespace Codec.FloatFormat

/-! ## The nearest mark of a scale -/

section Nearest

variable {α : Type*} [Field α] [LinearOrder α] [IsStrictOrderedRing α]

/-- Of these marks, the one is nearest to `x`; if another is as near, it is the even
one. -/
structure IsNearestEven (scale : ℤ → α) (marks : Set ℤ) (x : α) (mark : ℤ) : Prop where
  mem : mark ∈ marks
  nearest : ∀ other ∈ marks, |x - scale mark| ≤ |x - scale other|
  even : ∀ other ∈ marks, |x - scale other| = |x - scale mark| → other ≠ mark → mark % 2 = 0

variable {scale : ℤ → α} {marks : Set ℤ} {x y : α} {mark other : ℤ}

/-- A value is rounded to one mark only. -/
theorem IsNearestEven.unique (hscale : StrictMono scale) [marks.OrdConnected]
    (h : IsNearestEven scale marks x mark) (h' : IsNearestEven scale marks x other) :
    mark = other := by
  by_contra hne
  wlog hlt : mark < other generalizing mark other
  · exact this h' h (Ne.symm hne) (lt_of_le_of_ne (not_lt.mp hlt) (Ne.symm hne))
  have hsame : |x - scale other| = |x - scale mark| :=
    le_antisymm (h'.nearest _ h.mem) (h.nearest _ h'.mem)
  have hvalues : scale mark < scale other := hscale hlt
  -- both are as far away, so one is below and one above
  have hmiddle : 2 * x = scale mark + scale other := by
    rcases abs_eq_abs.mp hsame with hdiff | hdiff <;> linarith
  have heven := h.even other h'.mem hsame (Ne.symm hne)
  have heven' := h'.even mark h.mem hsame.symm hne
  -- and the mark in between is nearer than either
  have hbetween : mark + 1 ∈ marks :=
    Set.OrdConnected.out ‹_› h.mem h'.mem ⟨by omega, by omega⟩
  have hnext : scale (mark + 1) < scale other := hscale (by omega)
  have hself : scale mark < scale (mark + 1) := hscale (Int.lt_add_one_of_le le_rfl)
  have hnear := h.nearest (mark + 1) hbetween
  rw [abs_of_nonneg (by linarith : (0 : α) ≤ x - scale mark)] at hnear
  rcases abs_cases (x - scale (mark + 1)) with ⟨habs, _⟩ | ⟨habs, _⟩ <;> linarith

/-- Rounding keeps the order. -/
theorem IsNearestEven.mono (hscale : StrictMono scale) [marks.OrdConnected]
    (h : IsNearestEven scale marks x mark) (h' : IsNearestEven scale marks y other)
    (hle : x ≤ y) : mark ≤ other := by
  by_contra hlt
  have hvalues : scale other < scale mark := hscale (not_le.mp hlt)
  have hupper : scale other + scale mark ≤ 2 * x := by
    have hnear := h.nearest other h'.mem
    rcases abs_cases (x - scale mark) with ⟨habs, _⟩ | ⟨habs, _⟩ <;>
      rcases abs_cases (x - scale other) with ⟨habs', _⟩ | ⟨habs', _⟩ <;> linarith
  have hlower : 2 * y ≤ scale other + scale mark := by
    have hnear := h'.nearest mark h.mem
    rcases abs_cases (y - scale mark) with ⟨habs, _⟩ | ⟨habs, _⟩ <;>
      rcases abs_cases (y - scale other) with ⟨habs', _⟩ | ⟨habs', _⟩ <;> linarith
  obtain rfl : x = y := by linarith
  exact hlt (h.unique hscale h').le

end Nearest

/-! ## Patterns -/

/-- What a pattern with `t` mantissa bits stands for, in units of the least value
above zero. -/
def units (t pattern : ℕ) : ℕ :=
  if pattern / 2 ^ t = 0 then pattern % 2 ^ t
  else (2 ^ t + pattern % 2 ^ t) * 2 ^ (pattern / 2 ^ t - 1)

/-- The quotient nearest to the exact one, the even one of two. -/
def divNearest (n unit : ℕ) : ℕ :=
  if unit < 2 * (n % unit) ∨ (2 * (n % unit) = unit ∧ n / unit % 2 = 1) then n / unit + 1
  else n / unit

/-- The pattern a number of units is rounded to. -/
def round (t n : ℕ) : ℕ :=
  (n.log2 - t) * 2 ^ t + divNearest n (2 ^ (n.log2 - t))

/-- The mantissa of a number with its leading bit: shifted up where it has bits to
spare, rounded where it has too many. -/
def mantissa (t n : ℕ) : ℕ :=
  if n.log2 ≤ t then n * 2 ^ (t - n.log2) else divNearest n (2 ^ (n.log2 - t))

@[simp]
theorem units_zero (t : ℕ) : units t 0 = 0 := by
  simp [units]

/-! ## Both signs -/

/-- What a pattern with a sign stands for. -/
def signedUnits (t : ℕ) (mark : ℤ) : ℤ := mark.sign * units t mark.natAbs

section Rounding

/-- The marks of a format. -/
def scale (α : Type*) [Ring α] (t : ℕ) (mark : ℤ) : α := signedUnits t mark

variable {α : Type*}

variable [Field α] [LinearOrder α] [IsStrictOrderedRing α]

variable (α) {t : ℕ}

variable {α}

/-- What a pattern with a sign stands for, when the least value above zero is a power
of one half. -/
def value (α : Type*) [Field α] (t k : ℕ) (mark : ℤ) : α := scale α t mark / 2 ^ k

end Rounding

end Codec.FloatFormat
