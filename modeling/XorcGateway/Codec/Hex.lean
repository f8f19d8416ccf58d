/-
# Hexadecimal digits

Numbers of a fixed number of digits as their lower-case text, and that text cut
into groups by a separator, as the hyphenated form of an identifier is. Reading
also takes upper-case digits.
-/

import Mathlib.Tactic.IntervalCases
import Mathlib.Tactic.Ring

namespace Codec.Hex

/-! ## Digits -/

def encodeDigit (n : ℕ) : UInt8 := .ofNat (if n < 10 then n + 48 else n + 87)

def decodeDigit (c : UInt8) : Option ℕ :=
  let n := c.toNat
  if 48 ≤ n ∧ n ≤ 57 then some (n - 48)
  else if 97 ≤ n ∧ n ≤ 102 then some (n - 87)
  else if 65 ≤ n ∧ n ≤ 70 then some (n - 55)
  else none

theorem decodeDigit_encodeDigit {n : ℕ} (h : n < 16) : decodeDigit (encodeDigit n) = some n := by
  interval_cases n <;> rfl

theorem encodeDigit_lt {n : ℕ} (h : n < 16) : encodeDigit n < 128 := by
  interval_cases n <;> decide

/-! ## Numbers -/

/-- The text of a number in `count` digits. -/
def encode : ℕ → ℕ → List UInt8
  | 0, _ => []
  | count + 1, n => encodeDigit (n / 16 ^ count % 16) :: encode count n

/-- Read digits behind those of `acc`. -/
def decodeFrom (acc : ℕ) : List UInt8 → Option ℕ
  | [] => some acc
  | c :: text => (decodeDigit c).bind fun digit => decodeFrom (acc * 16 + digit) text

/-- The number a text of digits stands for. -/
def decode (text : List UInt8) : Option ℕ := decodeFrom 0 text

@[simp]
theorem length_encode (count n : ℕ) : (encode count n).length = count := by
  induction count with
  | zero => rfl
  | succ count ih => rw [encode, List.length_cons, ih]

theorem encode_lt (count n : ℕ) : ∀ c ∈ encode count n, c < 128 := by
  induction count with
  | zero => simp [encode]
  | succ count ih =>
      rw [encode, List.forall_mem_cons]
      exact ⟨encodeDigit_lt (Nat.mod_lt _ (by decide)), ih⟩

theorem decodeFrom_encode (count acc n : ℕ) :
    decodeFrom acc (encode count n) = some (acc * 16 ^ count + n % 16 ^ count) := by
  induction count generalizing acc with
  | zero => simp [encode, decodeFrom, Nat.mod_one]
  | succ count ih =>
      rw [encode, decodeFrom, decodeDigit_encodeDigit (Nat.mod_lt _ (by decide)), Option.bind_some,
        ih, Nat.pow_succ, Nat.mod_mul]
      congr 1
      ring

/-- Decoding undoes encoding of a number that fits. -/
theorem decode_encode {count n : ℕ} (h : n < 16 ^ count) : decode (encode count n) = some n := by
  rw [decode, decodeFrom_encode, Nat.zero_mul, Nat.zero_add, Nat.mod_eq_of_lt h]

/-- The bytes of a text of digit pairs. -/
def decodeBytes : List UInt8 → Option (List UInt8)
  | [] => some []
  | [_] => none
  | high :: low :: text =>
      (decode [high, low]).bind fun n => (decodeBytes text).map (UInt8.ofNat n :: ·)

example : decodeBytes [0x66, 0x46, 0x30, 0x39] = some [0xFF, 0x09] := by decide

/-! ## Groups -/

/-- Put a separator between groups of the given lengths. -/
def join (separator : UInt8) : List ℕ → List UInt8 → List UInt8
  | count :: next :: groups, text =>
      text.take count ++ separator :: join separator (next :: groups) (text.drop count)
  | _, text => text

/-- Take the separators out again, if they are where they belong. -/
def split (separator : UInt8) : List ℕ → List UInt8 → Option (List UInt8)
  | count :: next :: groups, text =>
      if text[count]? = some separator then
        (split separator (next :: groups) (text.drop (count + 1))).map (text.take count ++ ·)
      else none
  | groups, text => if text.length = groups.sum then some text else none

theorem length_join (separator : UInt8) (groups : List ℕ) (text : List UInt8)
    (h : text.length = groups.sum) :
    (join separator groups text).length = text.length + (groups.length - 1) := by
  induction groups generalizing text with
  | nil => simp [join]
  | cons count groups ih =>
      cases groups with
      | nil => simp [join]
      | cons next groups =>
          have hrest := ih (text.drop count) (by simp_all)
          simp only [List.sum_cons, List.length_drop, List.length_cons] at h hrest
          simp only [join, List.length_append, List.length_take, List.length_cons, hrest]
          omega

/-- Splitting undoes joining. -/
theorem split_join (separator : UInt8) (groups : List ℕ) (text : List UInt8)
    (h : text.length = groups.sum) :
    split separator groups (join separator groups text) = some text := by
  induction groups generalizing text with
  | nil => simp [join, split, h]
  | cons count groups ih =>
      cases groups with
      | nil => simp [join, split, h]
      | cons next groups =>
          have hrest := ih (text.drop count) (by simp_all)
          have htake : (text.take count).length = count := by simp [h]
          have hseparator : (text.take count ++ separator ::
              join separator (next :: groups) (text.drop count))[count]? = some separator := by
            rw [List.getElem?_append_right (by omega), htake, Nat.sub_self]
            rfl
          have hdrop : (text.take count ++ separator ::
              join separator (next :: groups) (text.drop count)).drop (count + 1) =
              join separator (next :: groups) (text.drop count) := by
            rw [List.append_cons, List.drop_left' (by simp [htake])]
          rw [join, split, if_pos hseparator, hdrop, hrest, List.take_left' htake]
          simp

theorem mem_join {separator c : UInt8} {groups : List ℕ} {text : List UInt8}
    (h : c ∈ join separator groups text) : c = separator ∨ c ∈ text := by
  induction groups generalizing text with
  | nil => exact Or.inr h
  | cons count groups ih =>
      cases groups with
      | nil => exact Or.inr h
      | cons next groups =>
          rw [join, List.mem_append, List.mem_cons] at h
          rcases h with htake | hseparator | hrest
          · exact Or.inr (List.mem_of_mem_take htake)
          · exact Or.inl hseparator
          · exact (ih hrest).imp_right List.mem_of_mem_drop

end Codec.Hex
