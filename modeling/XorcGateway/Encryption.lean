/-
# Device id encryption

A device id travels as base64 text of a 12-byte nonce followed by 52 sealed
bytes, 36 of content and 16 of tag. Encryption copies into fixed buffers by
index and decryption splits the decoded bytes at a fixed offset, so both are
computations that may panic. The random nonce is an argument here; drawing it
is a call of the program that encrypts.
-/

import XorcGateway.Crates
import XorcGateway.Rust.Runtime

namespace XorcGateway

open Rust

structure Ciphertext where
  value : String
  deriving DecidableEq

structure Cleartext where
  value : String
  deriving DecidableEq

/-- `ring::error::Unspecified`. -/
structure Unspecified
  deriving DecidableEq

/-- `[u8; 12]`, as `encrypt` fills it. -/
abbrev Nonce := { bytes : List UInt8 // bytes.length = 12 }

/-- The key material behind `SEALING_KEY` and `OPENING_KEY`. Both are built from
`SECRET` on first use, in a request, and building them panics unless it is set and
has 32 bytes: a key of this type is one that has been built. -/
abbrev SecretKey := { bytes : List UInt8 // bytes.length = 32 }

variable (X : Crates) (secret : SecretKey)

/-- Encrypt a device ID with AES 256 GCM encryption. -/
def Ciphertext.encrypt (nonce : Nonce) (cleartext : Cleartext) : Except Panic Ciphertext := do
  -- 36 characters for the data, 16 for suffix
  let ciphertext ← copyInto (List.replicate 52 0) 0 (asBytes cleartext.value)
  let ciphertext ← unwrap (X.aead.sealInPlace secret.1 nonce.1 [] ciphertext 16)
  -- First 12 characters for nonce, the last 52 for the ciphertext
  let payload ← copyInto (List.replicate 64 0) 0 nonce.1
  let payload ← copyInto payload 12 ciphertext
  return ⟨X.base64.encode payload⟩

/-- Decrypt a device ID with AES 256 GCM encryption. The split comes before any
check of the decoded length. -/
def Cleartext.decrypt (ciphertext : Ciphertext) :
    Except Panic (Except Unspecified Cleartext) :=
  match X.base64.decode (asBytes ciphertext.value) with
  | none => return .error {}
  | some decoded => do
      let (nonce, cipher) ← splitAt decoded 12
      match X.aead.openInPlace secret.1 nonce [] 0 cipher with
      | none => return .error {}
      | some content => return .ok ⟨fromUtf8Lossy content⟩

variable {X secret}

/-- A value that is not base64 is refused, not a panic. -/
theorem decrypt_of_decode_none {s : String} (h : X.base64.decode (asBytes s) = none) :
    Cleartext.decrypt X secret ⟨s⟩ = .ok (.error {}) := by
  simp only [Cleartext.decrypt, h]
  rfl

/-- Fewer than twelve decoded bytes cannot be split. -/
theorem decrypt_of_lt {s : String} {decoded : List UInt8}
    (h : X.base64.decode (asBytes s) = some decoded) (hlength : decoded.length < 12) :
    Cleartext.decrypt X secret ⟨s⟩ = .error .splitOutOfBounds := by
  simp only [Cleartext.decrypt, h, splitAt_of_lt hlength]
  rfl

/-- Twelve bytes or more are a nonce and a rest, and opening decides. -/
theorem decrypt_of_le {s : String} {decoded : List UInt8}
    (h : X.base64.decode (asBytes s) = some decoded) (hlength : 12 ≤ decoded.length) :
    Cleartext.decrypt X secret ⟨s⟩ =
      .ok (match X.aead.openInPlace secret.1 (decoded.take 12) [] 0 (decoded.drop 12) with
        | none => .error {}
        | some content => .ok ⟨fromUtf8Lossy content⟩) := by
  simp only [Cleartext.decrypt, h, splitAt_of_le hlength, bind, Except.bind]
  cases X.aead.openInPlace secret.1 (decoded.take 12) [] 0 (decoded.drop 12) <;> rfl

/-- The bytes encryption seals: the content padded with zeros to 36. -/
def sealedContent (cleartext : Cleartext) : List UInt8 :=
  (asBytes cleartext.value ++ List.replicate (52 - (asBytes cleartext.value).length) 0).take 36

theorem sealedContent_of_length {cleartext : Cleartext}
    (h : (asBytes cleartext.value).length = 36) :
    sealedContent cleartext = asBytes cleartext.value := by
  rw [sealedContent, List.take_append_of_le_length (by omega), List.take_of_length_le (by omega)]

variable (secret) in
/-- A content that fits the first buffer never runs over the second, and the
payload is the nonce followed by what sealing produced. -/
theorem encrypt_of_le (haead : X.aead.Documented) (nonce : Nonce) {cleartext : Cleartext}
    (hlength : (asBytes cleartext.value).length ≤ 52) :
    ∃ sealed, Ciphertext.encrypt X secret nonce cleartext =
        .ok ⟨X.base64.encode (nonce.1 ++ sealed)⟩ ∧
      X.aead.openInPlace secret.1 nonce.1 [] 0 sealed = some (sealedContent cleartext) := by
  have hfirst : copyInto (List.replicate 52 0) 0 (asBytes cleartext.value) =
      .ok (asBytes cleartext.value ++
        List.replicate (52 - (asBytes cleartext.value).length) 0) := by
    rw [copyInto_of_le (by simpa using hlength), List.take_zero, List.nil_append, Nat.zero_add,
      List.drop_replicate]
  obtain ⟨sealed, hseal, hsealed, hopen⟩ := haead.seal_open secret.1 nonce.1
    (asBytes cleartext.value ++ List.replicate (52 - (asBytes cleartext.value).length) 0)
    secret.2 nonce.2 (by simp; omega) (by simp; omega)
  have hbuffer : (asBytes cleartext.value ++
      List.replicate (52 - (asBytes cleartext.value).length) 0).length = 52 := by
    simp
    omega
  rw [hbuffer] at hsealed hopen
  have hnonce : copyInto (List.replicate 64 0) 0 nonce.1 =
      .ok (nonce.1 ++ List.replicate 52 0) := by
    rw [copyInto_of_le (by simp [nonce.2]), List.take_zero, List.nil_append, Nat.zero_add,
      List.drop_replicate, nonce.2]
  have hpayload : copyInto (nonce.1 ++ List.replicate 52 0) 12 sealed =
      .ok (nonce.1 ++ sealed) := by
    rw [copyInto_of_le (by simp [nonce.2, hsealed])]
    simp [nonce.2, hsealed, List.drop_append]
  refine ⟨sealed, ?_, hopen⟩
  simp only [Ciphertext.encrypt, hfirst, hseal, hnonce, hpayload, unwrap_some, bind, Except.bind,
    pure, Except.pure]

/-- Decryption reads back the sealed content through the lossy decoding. -/
theorem decrypt_encrypt (haead : X.aead.Documented) (hbase64 : X.base64.Documented)
    {nonce : Nonce} {cleartext : Cleartext} {ciphertext : Ciphertext}
    (hlength : (asBytes cleartext.value).length ≤ 52)
    (hencrypt : Ciphertext.encrypt X secret nonce cleartext = .ok ciphertext) :
    Cleartext.decrypt X secret ciphertext =
      .ok (.ok ⟨fromUtf8Lossy (sealedContent cleartext)⟩) := by
  obtain ⟨sealed, hok, hopen⟩ := encrypt_of_le secret haead nonce hlength
  rw [hok] at hencrypt
  obtain rfl := Except.ok.inj hencrypt
  rw [decrypt_of_le (hbase64.decode_encode _) (by simp [nonce.2])]
  rw [List.take_left' nonce.2, List.drop_left' nonce.2, hopen]

/-- A 36-byte cleartext, which every hyphenated UUID is, makes the round trip. -/
theorem decrypt_encrypt_of_length (haead : X.aead.Documented) (hbase64 : X.base64.Documented)
    {nonce : Nonce} {cleartext : Cleartext} {ciphertext : Ciphertext}
    (hlength : (asBytes cleartext.value).length = 36)
    (hencrypt : Ciphertext.encrypt X secret nonce cleartext = .ok ciphertext) :
    Cleartext.decrypt X secret ciphertext = .ok (.ok cleartext) := by
  rw [decrypt_encrypt haead hbase64 (by omega) hencrypt, sealedContent_of_length hlength,
    fromUtf8Lossy_asBytes]

end XorcGateway
