/-
# JSON values as the gateway receives them

`serde_json` keeps an object as a map sorted by key and a number in one of
three representations. Doubles are their IEEE 754 bit patterns, so the one
place where the program converts an integer to a double is an executable
rounding, not an opaque operation.
-/

import Mathlib.Algebra.Group.Nat.Defs
import Mathlib.Data.Nat.Log

namespace XorcGateway.Events

/-- An `f64`, by its bit pattern. -/
structure F64 where
  bits : UInt64
  deriving DecidableEq

namespace F64

/-- The exponent and mantissa fields of the double nearest to `n`, ties to
even. A mantissa that rounds up to the next power of two carries into the
exponent field by itself. -/
def magnitude (n : ℕ) : ℕ :=
  if n = 0 then 0
  else
    let exponent := n.log2
    let mantissa :=
      if exponent ≤ 52 then n * 2 ^ (52 - exponent)
      else
        let unit := 2 ^ (exponent - 52)
        let quotient := n / unit
        let remainder := n % unit
        if unit < 2 * remainder ∨ (2 * remainder = unit ∧ quotient % 2 = 1) then quotient + 1
        else quotient
    (exponent + 1023) * 2 ^ 52 + (mantissa - 2 ^ 52)

/-- `i as f64` for a 64-bit integer. -/
def ofInt (i : ℤ) : F64 :=
  ⟨.ofNat (magnitude i.natAbs + if i < 0 then 2 ^ 63 else 0)⟩

example : ofInt 420 = ⟨0x407A400000000000⟩ := by decide

example : ofInt (-(2 ^ 53 + 1)) = ofInt (-(2 ^ 53)) := by decide

end F64

/-- `serde_json::Number`. -/
inductive Number
  | posInt (n : UInt64)
  | negInt (i : Int64)
  | float (x : F64)
  deriving DecidableEq

namespace Number

/-- `Number::as_i64`. -/
def asI64 : Number → Option ℤ
  | .posInt n => if n.toNat < 2 ^ 63 then some n.toNat else none
  | .negInt i => some i.toInt
  | .float _ => none

/-- `Number::as_u64`. -/
def asU64 : Number → Option ℕ
  | .posInt n => some n.toNat
  | .negInt _ => none
  | .float _ => none

/-- `Number::as_f64`, which always answers. -/
def asF64 : Number → F64
  | .posInt n => .ofInt n.toNat
  | .negInt i => .ofInt i.toInt
  | .float x => x

end Number

mutual

/-- `serde_json::Value`. -/
inductive Value
  | null
  | bool (b : Bool)
  | number (n : Number)
  | string (s : String)
  | array (elements : Elements)
  | object (map : Map)
  deriving DecidableEq

/-- The elements of an array. -/
inductive Elements
  | nil
  | cons (value : Value) (rest : Elements)
  deriving DecidableEq

/-- `serde_json::Map`, as its entries in iteration order. -/
inductive Map
  | nil
  | cons (key : String) (value : Value) (rest : Map)
  deriving DecidableEq

end

end XorcGateway.Events
