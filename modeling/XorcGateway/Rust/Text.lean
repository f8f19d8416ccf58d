/-
# Strings as UTF-8 bytes

A Rust `String` is a Lean `String`; what the standard library does with its
bytes is stated over byte lists. `fromUtf8Lossy` follows
`String::from_utf8_lossy`: every maximal ill-formed sequence becomes one
replacement character, and well-formed text is returned unchanged.
-/

import Mathlib.Data.List.Basic

namespace Rust

/-- `str::as_bytes`. -/
def asBytes (s : String) : List UInt8 := s.toByteArray.data.toList

theorem asBytes_ofList (chars : List Char) :
    asBytes (String.ofList chars) = chars.flatMap String.utf8EncodeChar := by
  simp [asBytes, List.utf8Encode]

theorem asBytes_eq_flatMap (s : String) :
    asBytes s = s.toList.flatMap String.utf8EncodeChar := by
  rw [← asBytes_ofList, String.ofList_toList]

theorem asBytes_append (s t : String) : asBytes (s ++ t) = asBytes s ++ asBytes t := by
  rw [asBytes_eq_flatMap, asBytes_eq_flatMap, asBytes_eq_flatMap, String.toList_append,
    List.flatMap_append]

@[simp]
theorem asBytes_inj {s t : String} : asBytes s = asBytes t ↔ s = t := by
  rw [asBytes, asBytes, Array.toList_inj, ← ByteArray.ext_iff, String.toByteArray_inj]

/-- The character of an ASCII byte. -/
def asciiChar (b : UInt8) : Char := Char.ofNat b.toNat

theorem utf8EncodeChar_asciiChar {b : UInt8} (h : b < 128) :
    String.utf8EncodeChar (asciiChar b) = [b] := by
  have hb : b.toNat < 128 := by simpa [UInt8.lt_iff_toNat_lt] using h
  have hvalid : b.toNat.isValidChar := Or.inl (by omega)
  have hval : (asciiChar b).val.toNat = b.toNat := by
    rw [asciiChar, Char.ofNat, dif_pos hvalid]
    rfl
  rw [String.utf8EncodeChar]
  simp [hval, show b.toNat ≤ 127 by omega]

/-- ASCII bytes are the text of their characters. -/
theorem asBytes_ofList_ascii {bytes : List UInt8} (h : ∀ b ∈ bytes, b < 128) :
    asBytes (String.ofList (bytes.map asciiChar)) = bytes := by
  rw [asBytes_ofList]
  induction bytes with
  | nil => rfl
  | cons b bytes ih =>
      have hrest := ih fun b' hb' => h b' (List.mem_cons_of_mem b hb')
      rw [List.map_cons, List.flatMap_cons, utf8EncodeChar_asciiChar (h b List.mem_cons_self),
        hrest]
      rfl

/-- A continuation byte, `0b10xx_xxxx`. -/
def isContinuation (b : UInt8) : Bool := 0x80 ≤ b && b ≤ 0xBF

/-- The second bytes allowed after a leading byte of a three or four byte
character. The restricted ranges exclude overlong forms, surrogates and
scalars beyond U+10FFFF. -/
def isSecondByte (first second : UInt8) : Bool :=
  if first = 0xE0 then 0xA0 ≤ second && second ≤ 0xBF
  else if first = 0xED then 0x80 ≤ second && second ≤ 0x9F
  else if first = 0xF0 then 0x90 ≤ second && second ≤ 0xBF
  else if first = 0xF4 then 0x80 ≤ second && second ≤ 0x8F
  else isContinuation second

/-- How many bytes one replacement character stands for at the start of
ill-formed input: the longest prefix that could still have begun a character. -/
def illFormedLength : List UInt8 → Nat
  | first :: second :: rest =>
      if 0xE0 ≤ first && first ≤ 0xEF then
        if isSecondByte first second then 2 else 1
      else if 0xF0 ≤ first && first ≤ 0xF4 then
        if isSecondByte first second then
          match rest with
          | third :: _ => if isContinuation third then 3 else 2
          | [] => 2
        else 1
      else 1
  | _ => 1

/-- The decoding loop of `from_utf8_lossy`. The fuel is the number of bytes
left, since every round consumes at least one. -/
def lossyChars : Nat → List UInt8 → List Char
  | 0, _ => []
  | _, [] => []
  | fuel + 1, b :: bytes =>
      match (b :: bytes).toByteArray.utf8DecodeChar? 0 with
      | some c => c :: lossyChars fuel ((b :: bytes).drop c.utf8Size)
      | none => '\uFFFD' :: lossyChars fuel ((b :: bytes).drop (illFormedLength (b :: bytes)))

/-- `String::from_utf8_lossy`. -/
def fromUtf8Lossy (bytes : List UInt8) : String :=
  String.ofList (lossyChars bytes.length bytes)

/-- The loop reads back an encoded character and goes on behind it. -/
theorem lossyChars_utf8EncodeChar (fuel : Nat) (c : Char) (bytes : List UInt8) :
    lossyChars (fuel + 1) (String.utf8EncodeChar c ++ bytes) = c :: lossyChars fuel bytes := by
  have hdecode : (String.utf8EncodeChar c ++ bytes).toByteArray.utf8DecodeChar? 0 = some c := by
    rw [List.toByteArray_append]
    exact ByteArray.utf8DecodeChar?_utf8EncodeChar_append
  have hdrop : (String.utf8EncodeChar c ++ bytes).drop c.utf8Size = bytes := by
    rw [← String.length_utf8EncodeChar c, List.drop_left]
  cases hencoded : String.utf8EncodeChar c ++ bytes with
  | nil => exact absurd (List.append_eq_nil_iff.mp hencoded).1 String.utf8EncodeChar_ne_nil
  | cons b rest =>
      rw [hencoded] at hdecode hdrop
      rw [lossyChars, hdecode]
      simp only [hdrop]

theorem lossyChars_flatMap (chars : List Char) (fuel : Nat)
    (hfuel : (chars.flatMap String.utf8EncodeChar).length ≤ fuel) :
    lossyChars fuel (chars.flatMap String.utf8EncodeChar) = chars := by
  induction chars generalizing fuel with
  | nil => cases fuel <;> rfl
  | cons c chars ih =>
      have hpos : 0 < (String.utf8EncodeChar c).length :=
        List.length_pos_of_ne_nil String.utf8EncodeChar_ne_nil
      rw [List.flatMap_cons, List.length_append] at hfuel
      obtain ⟨fuel, rfl⟩ : ∃ n, fuel = n + 1 := ⟨fuel - 1, by omega⟩
      rw [List.flatMap_cons, lossyChars_utf8EncodeChar, ih fuel (by omega)]

/-- Well-formed text survives the lossy decoding. -/
@[simp]
theorem fromUtf8Lossy_asBytes (s : String) : fromUtf8Lossy (asBytes s) = s := by
  rw [fromUtf8Lossy, asBytes_eq_flatMap, lossyChars_flatMap _ _ (Nat.le_refl _),
    String.ofList_toList]

end Rust
