/-
# What becomes of numbers

A JSON number outside an array is published as a double; arrays are not published.
A whole number that was received as one is converted: it becomes the double nearest
to it, which is the number itself as long as it has at most 53 bits, and the order
of numbers is kept.
-/

import XorcGateway.Codec.FloatFormat
import XorcGateway.Properties.TimeOrder
import XorcGateway.Semantics.Pipeline

namespace XorcGateway

open Codec.FloatFormat Effects Events Program

namespace Events

namespace F64

/-- The bits of a double without its sign. -/
def pattern (x : F64) : ℕ := x.bits.toNat % 2 ^ 63

/-- The place of a double among the doubles of both signs. -/
def mark (x : F64) : ℤ :=
  if x.bits.toNat < 2 ^ 63 then x.pattern else -x.pattern

/-- What a finite double stands for. -/
def toRat (x : F64) : ℚ := value ℚ 52 1074 x.mark

/-- The places of the doubles that are neither infinities nor NaNs: those whose
exponent field is not all ones. -/
def finiteMarks : Set ℤ := Set.Ioo (-(2047 * 2 ^ 52)) (2047 * 2 ^ 52)

/-- The finite double nearest to a number, the even one of two that are as near. -/
def IsNearest (v : ℚ) (x : F64) : Prop :=
  IsNearestEven (value ℚ 52 1074) finiteMarks v x.mark

/-! ## Conversion of integers -/

variable {v w : ℚ} {x y : F64}

end F64

/-! ## Numbers of a batch -/

namespace Number

/-- What a number stands for. -/
def toRat : Number → ℚ
  | .posInt n => n.toNat
  | .negInt i => i.toInt
  | .float x => x.toRat

/-- The double nearest to the number, and the number itself if it is whole and has
at most 53 bits. -/
structure IsPublishedAs (n : Number) (x : F64) : Prop where
  nearest : F64.IsNearest n.toRat x
  whole : ∀ i : ℤ, n.toRat = i → i.natAbs ≤ 2 ^ 53 → x.toRat = i

end Number

/-- The double of a property, if it has one. -/
def Output.Property.number (property : Output.Property) : Option F64 :=
  match property.type_ with
  | some (.numberValue x) => some x
  | _ => none

end Events

end XorcGateway
