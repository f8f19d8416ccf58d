/-
# Base64

The standard alphabet with padding, over byte lists: three bytes become four
characters, and a last group of one or two bytes is padded. Decoding also takes
a last group with less padding or none, and ignores the bits of it that no byte
needs.
-/

import Mathlib.Tactic.IntervalCases

namespace Codec.Base64

/-- The padding character, `=`. -/
def padding : UInt8 := 61

/-- The character of a six-bit value. -/
def encodeSextet (n : ℕ) : UInt8 :=
  .ofNat <|
    if n < 26 then n + 65
    else if n < 52 then n + 71
    else if n < 62 then n - 4
    else if n = 62 then 43
    else 47

def decodeSextet (c : UInt8) : Option ℕ :=
  let n := c.toNat
  if 65 ≤ n ∧ n ≤ 90 then some (n - 65)
  else if 97 ≤ n ∧ n ≤ 122 then some (n - 71)
  else if 48 ≤ n ∧ n ≤ 57 then some (n + 4)
  else if n = 43 then some 62
  else if n = 47 then some 63
  else none

theorem decodeSextet_encodeSextet {n : ℕ} (h : n < 64) :
    decodeSextet (encodeSextet n) = some n := by
  interval_cases n <;> rfl

theorem encodeSextet_ne_padding {n : ℕ} (h : n < 64) : encodeSextet n ≠ padding := by
  intro heq
  have hdecode := decodeSextet_encodeSextet h
  rw [heq] at hdecode
  cases hdecode

/-- The bytes of a whole group of four values. -/
def groupBytes (w x y z : ℕ) : List UInt8 :=
  [.ofNat (w * 4 + x / 16), .ofNat (x % 16 * 16 + y / 4), .ofNat (y % 4 * 64 + z)]

def encode : List UInt8 → List UInt8
  | [] => []
  | [a] =>
      [encodeSextet (a.toNat / 4), encodeSextet (a.toNat % 4 * 16), padding, padding]
  | [a, b] =>
      [encodeSextet (a.toNat / 4), encodeSextet (a.toNat % 4 * 16 + b.toNat / 16),
        encodeSextet (b.toNat % 16 * 4), padding]
  | a :: b :: c :: rest =>
      encodeSextet (a.toNat / 4) :: encodeSextet (a.toNat % 4 * 16 + b.toNat / 16) ::
        encodeSextet (b.toNat % 16 * 4 + c.toNat / 64) :: encodeSextet (c.toNat % 64) ::
          encode rest

/-- The byte of a last group of two characters. -/
def decodeTwo (w x : UInt8) : Option (List UInt8) := do
  let w ← decodeSextet w
  let x ← decodeSextet x
  return (groupBytes w x 0 0).take 1

/-- A last group without its padding, or with the first of two padding characters. -/
def decodeLast : List UInt8 → Option (List UInt8)
  | [w, x] => decodeTwo w x
  | [w, x, y] =>
      if y = padding then decodeTwo w x
      else do
        let w ← decodeSextet w
        let x ← decodeSextet x
        let y ← decodeSextet y
        return (groupBytes w x y 0).take 2
  | _ => none

def decode : List UInt8 → Option (List UInt8)
  | [] => some []
  | w :: x :: y :: z :: rest =>
      if z = padding ∧ rest = [] then
        decodeLast [w, x, y]
      else do
        let w ← decodeSextet w
        let x ← decodeSextet x
        let y ← decodeSextet y
        let z ← decodeSextet z
        let bytes ← decode rest
        return groupBytes w x y z ++ bytes
  | last => decodeLast last

theorem groupBytes_of_bytes (a b c : UInt8) :
    groupBytes (a.toNat / 4) (a.toNat % 4 * 16 + b.toNat / 16) (b.toNat % 16 * 4 + c.toNat / 64)
      (c.toNat % 64) = [a, b, c] := by
  have ha := a.toNat_lt
  have hb := b.toNat_lt
  have hc := c.toNat_lt
  have hfirst : a.toNat / 4 * 4 + (a.toNat % 4 * 16 + b.toNat / 16) / 16 = a.toNat := by omega
  have hsecond : (a.toNat % 4 * 16 + b.toNat / 16) % 16 * 16 +
      (b.toNat % 16 * 4 + c.toNat / 64) / 4 = b.toNat := by omega
  have hthird : (b.toNat % 16 * 4 + c.toNat / 64) % 4 * 64 + c.toNat % 64 = c.toNat := by omega
  simp only [groupBytes, hfirst, hsecond, hthird, UInt8.ofNat_toNat]

/-- Decoding undoes encoding. -/
theorem decode_encode (bytes : List UInt8) : decode (encode bytes) = some bytes := by
  fun_induction encode bytes with
  | case1 => rfl
  | case2 a =>
      have ha := a.toNat_lt
      have hgroup := groupBytes_of_bytes a 0 0
      simp only [UInt8.toNat_zero, Nat.zero_div, Nat.zero_mod, Nat.add_zero, Nat.zero_mul] at hgroup
      rw [decode, if_pos ⟨rfl, rfl⟩, decodeLast, if_pos rfl, decodeTwo,
        decodeSextet_encodeSextet (by omega), decodeSextet_encodeSextet (by omega)]
      simp [hgroup]
  | case3 a b =>
      have ha := a.toNat_lt
      have hb := b.toNat_lt
      have hgroup := groupBytes_of_bytes a b 0
      simp only [UInt8.toNat_zero, Nat.zero_div, Nat.zero_mod, Nat.add_zero] at hgroup
      rw [decode, if_pos ⟨rfl, rfl⟩, decodeLast, if_neg (encodeSextet_ne_padding (by omega)),
        decodeSextet_encodeSextet (by omega), decodeSextet_encodeSextet (by omega),
        decodeSextet_encodeSextet (by omega)]
      simp [hgroup]
  | case4 a b c rest ih =>
      have ha := a.toNat_lt
      have hb := b.toNat_lt
      have hc := c.toNat_lt
      have hlast : ¬ (encodeSextet (c.toNat % 64) = padding ∧ encode rest = []) :=
        fun h => encodeSextet_ne_padding (by omega) h.1
      rw [decode, if_neg hlast, decodeSextet_encodeSextet (by omega),
        decodeSextet_encodeSextet (by omega), decodeSextet_encodeSextet (by omega),
        decodeSextet_encodeSextet (by omega), ih]
      simp [groupBytes_of_bytes]

/-- Encoded text is made of visible ASCII characters. -/
theorem encode_visible (bytes : List UInt8) : ∀ c ∈ encode bytes, 32 ≤ c ∧ c < 127 := by
  have hsextet : ∀ n, n < 64 → 32 ≤ encodeSextet n ∧ encodeSextet n < 127 := by decide
  have hpadding : 32 ≤ padding ∧ padding < 127 := by decide
  fun_induction encode bytes with
  | case1 => simp
  | case2 a =>
      have ha := a.toNat_lt
      simp only [List.forall_mem_cons, List.not_mem_nil, false_imp_iff, implies_true, and_true]
      exact ⟨hsextet _ (by omega), hsextet _ (by omega), hpadding, hpadding⟩
  | case3 a b =>
      have ha := a.toNat_lt
      have hb := b.toNat_lt
      simp only [List.forall_mem_cons, List.not_mem_nil, false_imp_iff, implies_true, and_true]
      exact ⟨hsextet _ (by omega), hsextet _ (by omega), hsextet _ (by omega), hpadding⟩
  | case4 a b c rest ih =>
      have ha := a.toNat_lt
      have hb := b.toNat_lt
      have hc := c.toNat_lt
      simp only [List.forall_mem_cons]
      exact ⟨hsextet _ (by omega), hsextet _ (by omega), hsextet _ (by omega),
        hsextet _ (by omega), ih⟩

example : encode [0x66, 0x6F, 0x6F, 0x62] = "Zm9vYg==".toByteArray.data.toList := by decide

end Codec.Base64
