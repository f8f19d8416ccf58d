/-
# AES with 256-bit keys

The block cipher on lists of bytes, in the direction counter mode needs. A block
is its sixteen bytes, column after column; the substitution box is computed from
inversion in the field with 256 elements.
-/

import Mathlib.Logic.Function.Iterate

namespace Codec.Aes

/-! ## Bytes as field elements -/

/-- Multiplication by `x`. -/
def xtime (b : UInt8) : UInt8 := b <<< 1 ^^^ if b < 0x80 then 0 else 0x1B

def mul (a b : UInt8) : UInt8 :=
  ((List.range 8).foldl
    (fun (product, power) i =>
      (if b.toNat.testBit i then product ^^^ power else product, xtime power))
    (0, a)).1

/-- The 254th power: the inverse of every element but zero. -/
def inverse (b : UInt8) : UInt8 :=
  ((List.range 7).foldl
    (fun (product, power) _ => (mul product (mul power power), mul power power))
    (1, b)).1

def rotateLeft (b count : UInt8) : UInt8 := b <<< count ||| b >>> (8 - count)

/-- The substitution box. -/
def subByte (b : UInt8) : UInt8 :=
  let i := inverse b
  i ^^^ rotateLeft i 1 ^^^ rotateLeft i 2 ^^^ rotateLeft i 3 ^^^ rotateLeft i 4 ^^^ 0x63

example : subByte 0x53 = 0xED := by decide +kernel

/-! ## The key schedule -/

def xorBytes (a b : List UInt8) : List UInt8 := List.zipWith (· ^^^ ·) a b

/-- The next word of the schedule, from the words so far, newest first. -/
def nextWord (words : List (List UInt8)) : List UInt8 :=
  let last := words.getD 0 []
  let mixed :=
    if words.length % 8 = 0 then
      xorBytes ((last.rotateLeft 1).map subByte) [xtime^[words.length / 8 - 1] 1, 0, 0, 0]
    else if words.length % 8 = 4 then last.map subByte
    else last
  xorBytes (words.getD 7 []) mixed

def extend : ℕ → List (List UInt8) → List (List UInt8)
  | 0, words => words
  | count + 1, words => extend count (nextWord words :: words)

/-- The sixty words of the schedule of a 32-byte key. -/
def keySchedule (key : List UInt8) : List (List UInt8) :=
  let words := (List.range 8).map fun i => (key.drop (4 * i)).take 4
  (extend 52 words.reverse).reverse

/-- The key of a round. -/
def roundKey (schedule : List (List UInt8)) (round : ℕ) : List UInt8 :=
  ((schedule.drop (4 * round)).take 4).flatten

/-! ## The rounds -/

def shiftRows (block : List UInt8) : List UInt8 :=
  (List.range 16).map fun i => block.getD ((i + 4 * (i % 4)) % 16) 0

def mixColumns (block : List UInt8) : List UInt8 :=
  (List.range 16).map fun i =>
    let entry := fun r => block.getD (i / 4 * 4 + (i + r) % 4) 0
    mul 2 (entry 0) ^^^ mul 3 (entry 1) ^^^ entry 2 ^^^ entry 3

/-- Encipher one block under a 32-byte key. -/
def encipher (key block : List UInt8) : List UInt8 :=
  let schedule := keySchedule key
  let started := xorBytes block (roundKey schedule 0)
  let mixed := (List.range 13).foldl
    (fun block round =>
      xorBytes (mixColumns (shiftRows (block.map subByte))) (roundKey schedule (round + 1)))
    started
  xorBytes (shiftRows (mixed.map subByte)) (roundKey schedule 14)

end Codec.Aes
