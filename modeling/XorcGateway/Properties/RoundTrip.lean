/-
# The device id through its byte layout

What decryption makes of an encrypted device id, by the length of its text. The
buffer is sealed up to its last 16 bytes whatever was copied into it, so exactly
36 bytes come back: a shorter text has zero bytes behind it, a longer one loses
its end, and one that runs over the buffer never gets as far.
-/

import XorcGateway.Reference

namespace XorcGateway

open Rust

variable {X : Crates}

/-- The first 36 bytes of the text, padded with zero bytes to 36. -/
def Cleartext.padded (cleartext : Cleartext) : List UInt8 :=
  (asBytes cleartext.value).take 36 ++ List.replicate (36 - (asBytes cleartext.value).length) 0

theorem sealedContent_eq_padded {cleartext : Cleartext}
    (h : (asBytes cleartext.value).length ≤ 52) : sealedContent cleartext = cleartext.padded := by
  rw [sealedContent, Cleartext.padded, List.take_append, List.take_replicate]
  congr 2
  omega

/-- A text that fits the buffer is encrypted, and decrypts to its padded
bytes. -/
theorem exists_encrypt_decrypt (haead : X.aead.Documented) (hbase64 : X.base64.Documented)
    (secret : SecretKey) (nonce : Nonce) {cleartext : Cleartext}
    (hlength : (asBytes cleartext.value).length ≤ 52) :
    ∃ ciphertext, Ciphertext.encrypt X secret nonce cleartext = .ok ciphertext ∧
      Cleartext.decrypt X secret ciphertext =
        .ok (.ok ⟨fromUtf8Lossy cleartext.padded⟩) := by
  obtain ⟨sealed, hencrypt, _⟩ := encrypt_of_le secret haead nonce hlength
  refine ⟨_, hencrypt, ?_⟩
  rw [decrypt_encrypt haead hbase64 hlength hencrypt, sealedContent_eq_padded hlength]

/-- Text with zero bytes behind it is the text with null characters behind it. -/
theorem asBytes_append_nulls (s : String) (n : ℕ) :
    asBytes (String.ofList (s.toList ++ List.replicate n '\x00')) =
      asBytes s ++ List.replicate n 0 := by
  have hnull : String.utf8EncodeChar '\x00' = [0] := by decide
  rw [asBytes_ofList, List.flatMap_append, ← asBytes_eq_flatMap, List.flatMap_replicate, hnull,
    List.flatten_replicate_singleton]

/-- What a shorter text decrypts to is longer than the text. -/
theorem lossy_padded_ne {cleartext : Cleartext} (h : (asBytes cleartext.value).length < 36) :
    fromUtf8Lossy cleartext.padded ≠ cleartext.value := by
  rw [Cleartext.padded, List.take_of_length_le h.le, ← asBytes_append_nulls,
    fromUtf8Lossy_asBytes]
  intro heq
  have hlength := congrArg (fun s => s.toList.length) heq
  simp only [String.toList_ofList, List.length_append, List.length_replicate] at hlength
  omega

/-- A text that runs over the first buffer panics there. -/
theorem encrypt_of_gt (secret : SecretKey) (nonce : Nonce) {cleartext : Cleartext}
    (h : 52 < (asBytes cleartext.value).length) :
    Ciphertext.encrypt X secret nonce cleartext = .error .indexOutOfBounds := by
  have hne : asBytes cleartext.value ≠ [] := by
    intro hnil
    rw [hnil] at h
    cases h
  have hcopy : copyInto (List.replicate 52 0) 0 (asBytes cleartext.value) =
      .error .indexOutOfBounds :=
    copyInto_of_lt hne (by simpa using h)
  simp only [Ciphertext.encrypt, hcopy, bind, Except.bind]

/-- Encryption followed by decryption, for every text, key and nonce: up to 52
bytes the padded text comes back; so 36 bytes come back as they were, as the text
of every UUID does, and fewer never do; more than 52 panic. -/
theorem deviceId_round_trip (hX : X.DocumentedIds) (secret : SecretKey) (nonce : Nonce) :
    (∀ cleartext : Cleartext,
      ((asBytes cleartext.value).length ≤ 52 → ∃ ciphertext,
        Ciphertext.encrypt X secret nonce cleartext = .ok ciphertext ∧
        Cleartext.decrypt X secret ciphertext = .ok (.ok ⟨fromUtf8Lossy cleartext.padded⟩)) ∧
      ((asBytes cleartext.value).length = 36 → ∃ ciphertext,
        Ciphertext.encrypt X secret nonce cleartext = .ok ciphertext ∧
        Cleartext.decrypt X secret ciphertext = .ok (.ok cleartext)) ∧
      ((asBytes cleartext.value).length < 36 → ∃ ciphertext,
        Ciphertext.encrypt X secret nonce cleartext = .ok ciphertext ∧
        Cleartext.decrypt X secret ciphertext ≠ .ok (.ok cleartext)) ∧
      (52 < (asBytes cleartext.value).length →
        ∃ panic, Ciphertext.encrypt X secret nonce cleartext = .error panic)) ∧
    ∀ u, ∃ ciphertext,
      Ciphertext.encrypt X secret nonce ⟨X.uuid.hyphenated u⟩ = .ok ciphertext ∧
      Cleartext.decrypt X secret ciphertext = .ok (.ok ⟨X.uuid.hyphenated u⟩) := by
  have hexact : ∀ cleartext : Cleartext, (asBytes cleartext.value).length = 36 → ∃ ciphertext,
      Ciphertext.encrypt X secret nonce cleartext = .ok ciphertext ∧
      Cleartext.decrypt X secret ciphertext = .ok (.ok cleartext) := by
    intro cleartext hlength
    have hfits : (asBytes cleartext.value).length ≤ 52 := by omega
    obtain ⟨ciphertext, hencrypt, _⟩ :=
      exists_encrypt_decrypt hX.aead hX.base64 secret nonce hfits
    exact ⟨ciphertext, hencrypt, decrypt_encrypt_of_length hX.aead hX.base64 hlength hencrypt⟩
  refine ⟨fun cleartext => ⟨fun hlength => ?_, hexact cleartext, fun hlength => ?_,
    fun hlength => ?_⟩, fun u => hexact _ (hX.uuid.length_hyphenated u)⟩
  · exact exists_encrypt_decrypt hX.aead hX.base64 secret nonce hlength
  · have hfits : (asBytes cleartext.value).length ≤ 52 := by omega
    obtain ⟨ciphertext, hencrypt, hdecrypt⟩ :=
      exists_encrypt_decrypt hX.aead hX.base64 secret nonce hfits
    refine ⟨ciphertext, hencrypt, fun hsame => ?_⟩
    rw [hdecrypt, Except.ok.injEq, Except.ok.injEq] at hsame
    exact lossy_padded_ne hlength (congrArg Cleartext.value hsame)
  · exact ⟨_, encrypt_of_gt secret nonce hlength⟩

/-- A short text under the development key does not make the round trip. -/
theorem short_text_padded : ∃ ciphertext,
    Ciphertext.encrypt Reference.crates Reference.secret ⟨List.replicate 12 0, by simp⟩ ⟨"id"⟩ =
      .ok ciphertext ∧
    Cleartext.decrypt Reference.crates Reference.secret ciphertext ≠ .ok (.ok ⟨"id"⟩) :=
  ((deviceId_round_trip Reference.crates_documentedIds Reference.secret
    ⟨List.replicate 12 0, by simp⟩).1 ⟨"id"⟩).2.2.1 (by decide)

end XorcGateway
