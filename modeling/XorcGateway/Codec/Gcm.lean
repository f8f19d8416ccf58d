/-
# Galois/Counter Mode

Authenticated encryption over any cipher of 16-byte blocks, with 12-byte nonces
and 16-byte tags. The plaintext is combined with a stream of enciphered
counters, and the tag is a polynomial hash of the result, so opening needs
nothing from the cipher but that it is the same function.
-/

import Mathlib.Algebra.Group.Nat.Defs
import Mathlib.Data.List.Basic

namespace Codec.Gcm

/-! ## Blocks -/

/-- The big-endian bytes of a number. -/
def bigEndian (count n : ℕ) : List UInt8 :=
  (List.range count).map fun i => .ofNat (n / 256 ^ (count - 1 - i))

/-- The number big-endian bytes stand for. -/
def number (bytes : List UInt8) : ℕ :=
  bytes.foldl (fun acc b => acc * 256 + b.toNat) 0

/-- The 16-byte blocks of a text, the last one filled up with zeros. -/
def blocks (bytes : List UInt8) : List (BitVec 128) :=
  (List.range ((bytes.length + 15) / 16)).map fun i =>
    .ofNat 128 (number ((List.range 16).map fun j => bytes.getD (16 * i + j) 0))

/-! ## The hash -/

/-- The polynomial the field is reduced by, without its leading term. -/
def reduction : BitVec 128 := 0xE1#8 ++ 0#120

/-- Multiplication in the field with 2^128 elements; bit 0 is the leftmost. -/
def mul (x y : BitVec 128) : BitVec 128 :=
  ((List.range 128).foldl
    (fun (z, v) i =>
      (if x.getMsbD i then z ^^^ v else z,
        if v.getLsbD 0 then v >>> 1 ^^^ reduction else v >>> 1))
    (0, y)).1

example : mul 0x0388DACE60B6A392F328C2B971B2FE78 0x66E94BD4EF8A2C3B884CFA59CA342B2E =
    0x5E2EC746917062882C85B0685353DEB7 := by decide +kernel

/-- The associated data, the ciphertext and their lengths in bits, hashed under
`h`. -/
def ghash (h : BitVec 128) (ad ciphertext : List UInt8) : BitVec 128 :=
  (blocks ad ++ blocks ciphertext ++
      [BitVec.ofNat 128 (8 * ad.length * 2 ^ 64 + 8 * ciphertext.length)]).foldl
    (fun acc block => mul (acc ^^^ block) h) 0

/-! ## Sealing and opening -/

variable (cipher : List UInt8 → List UInt8)

/-- The block that is enciphered for a counter. -/
def counterBlock (nonce : List UInt8) (counter : ℕ) : List UInt8 :=
  nonce ++ bigEndian 4 counter

/-- The `i`-th byte of the key stream, which starts at counter 2. -/
def keystream (nonce : List UInt8) (i : ℕ) : UInt8 :=
  (cipher (counterBlock nonce (2 + i / 16))).getD (i % 16) 0

/-- Combine a text with the key stream. -/
def counterMode (nonce text : List UInt8) : List UInt8 :=
  text.mapIdx fun i b => b ^^^ keystream cipher nonce i

/-- The tag of a ciphertext; its mask is the block of counter 1. -/
def tag (nonce ad ciphertext : List UInt8) : List UInt8 :=
  let h := BitVec.ofNat 128 (number (cipher (List.replicate 16 0)))
  let mask := BitVec.ofNat 128 (number (cipher (counterBlock nonce 1)))
  bigEndian 16 (ghash h ad ciphertext ^^^ mask).toNat

def sealText (nonce ad plaintext : List UInt8) : List UInt8 :=
  let ciphertext := counterMode cipher nonce plaintext
  ciphertext ++ tag cipher nonce ad ciphertext

def openText (nonce ad sealed : List UInt8) : Option (List UInt8) :=
  let ciphertext := sealed.take (sealed.length - 16)
  if 16 ≤ sealed.length ∧
      sealed.drop (sealed.length - 16) = tag cipher nonce ad ciphertext then
    some (counterMode cipher nonce ciphertext)
  else none

@[simp]
theorem length_counterMode (nonce text : List UInt8) :
    (counterMode cipher nonce text).length = text.length := by
  simp [counterMode]

@[simp]
theorem length_tag (nonce ad ciphertext : List UInt8) :
    (tag cipher nonce ad ciphertext).length = 16 := by
  simp [tag, bigEndian]

@[simp]
theorem length_sealText (nonce ad plaintext : List UInt8) :
    (sealText cipher nonce ad plaintext).length = plaintext.length + 16 := by
  simp [sealText]

/-- The key stream cancels itself. -/
theorem counterMode_counterMode (nonce text : List UInt8) :
    counterMode cipher nonce (counterMode cipher nonce text) = text := by
  simp only [counterMode, List.mapIdx_mapIdx, Function.comp_def, UInt8.xor_assoc, UInt8.xor_self,
    UInt8.xor_zero]
  exact List.mapIdx_eq_iff.mpr fun i => by simp

/-- Opening gives back what was sealed. -/
theorem openText_sealText (nonce ad plaintext : List UInt8) :
    openText cipher nonce ad (sealText cipher nonce ad plaintext) = some plaintext := by
  have hsplit : (sealText cipher nonce ad plaintext).length - 16 =
      (counterMode cipher nonce plaintext).length := by simp
  rw [openText, hsplit, sealText, List.take_left, List.drop_left, if_pos ⟨by simp, rfl⟩,
    counterMode_counterMode]

end Codec.Gcm
