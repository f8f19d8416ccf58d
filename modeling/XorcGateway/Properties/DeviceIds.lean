/-
# Device ids in headers

What a `XORC-Device-Id` header becomes. A value that is not base64, or does not
authenticate, is no device id; but a value that decodes to fewer than twelve
bytes is split before anything is checked, and the split panics. Nothing else on
the way of a device id can.
-/

import XorcGateway.Reference
import XorcGateway.Semantics.Pipeline

namespace XorcGateway

open Effects Events Rust Program

namespace Context

variable {X : Crates} {secret : SecretKey} {headers : HeaderMap}

/-- The header's value is base64 of a nonce and data that opens under the
server's key. -/
def Authenticates (X : Crates) (secret : SecretKey) (headers : HeaderMap) : Prop :=
  ∃ s decoded content, getValue X headers .xorcDeviceId = some s ∧
    X.base64.decode (asBytes s) = some decoded ∧ 12 ≤ decoded.length ∧
    X.aead.openInPlace secret.1 (decoded.take 12) [] 0 (decoded.drop 12) = some content

/-- The header's value decodes to too few bytes for a nonce. -/
def IsTooShort (X : Crates) (headers : HeaderMap) : Prop :=
  ∃ s decoded, getValue X headers .xorcDeviceId = some s ∧
    X.base64.decode (asBytes s) = some decoded ∧ decoded.length < 12

theorem deviceIdOf_of_isTooShort (h : IsTooShort X headers) :
    deviceIdOf X secret headers = .error .splitOutOfBounds := by
  obtain ⟨s, decoded, hvalue, hdecode, hlength⟩ := h
  rw [deviceIdOf, hvalue]
  simp only [decryptDeviceId, decrypt_of_lt hdecode hlength]
  rfl

variable (secret) in
/-- Any other header is read without panicking, and is a device id exactly if
it authenticates. -/
theorem deviceIdOf_of_not_isTooShort (h : ¬ IsTooShort X headers) :
    ∃ deviceId, deviceIdOf X secret headers = .ok deviceId ∧
      (deviceId.isSome ↔ Authenticates X secret headers) := by
  rw [deviceIdOf]
  cases hvalue : getValue X headers .xorcDeviceId with
  | none => exact ⟨none, rfl, by simp [Authenticates, hvalue]⟩
  | some s =>
      cases hdecode : X.base64.decode (asBytes s) with
      | none =>
          refine ⟨none, ?_, by simp [Authenticates, hvalue, hdecode]⟩
          simp only [decryptDeviceId, decrypt_of_decode_none hdecode]
          rfl
      | some decoded =>
          have hlength : 12 ≤ decoded.length := by
            by_contra hshort
            exact h ⟨s, decoded, hvalue, hdecode, by omega⟩
          cases hopen : X.aead.openInPlace secret.1 (decoded.take 12) [] 0 (decoded.drop 12) with
          | none =>
              refine ⟨none, ?_, by simp [Authenticates, hvalue, hdecode, hopen]⟩
              simp only [decryptDeviceId, decrypt_of_le hdecode hlength, hopen]
              rfl
          | some content =>
              refine ⟨some ⟨⟨s⟩, ⟨fromUtf8Lossy content⟩⟩, ?_, ?_⟩
              · simp only [decryptDeviceId, decrypt_of_le hdecode hlength, hopen]
                rfl
              · simp [Authenticates, hvalue, hdecode, hopen, hlength]

end Context

namespace Gateway

variable {X : Crates} {g : Globals} {body : List UInt8} {event : SDKEventBatch}
  {headers : HeaderMap} {t : List (Event Calls)}

/-- A request that is handled has a context. -/
theorem Handles.exists_context {res : Except Failure (SDKResponse × Context)}
    (h : Handles X g body event headers t (.returned res)) : ∃ context,
      Context.new X g.secret headers event.environment.appId event.device.getPlatform =
        .ok context := by
  cases h with
  | originRefused hcontext _ => exact ⟨_, hcontext⟩
  | invalid hcontext _ _ => exact ⟨_, hcontext⟩
  | blocked haccepts _ _ => exact ⟨_, haccepts.context_new⟩
  | published haccepts _ => exact ⟨_, haccepts.context_new⟩
  | canceled haccepts _ => exact ⟨_, haccepts.context_new⟩

/-- So its device id was not too short. -/
theorem Handles.not_isTooShort {res : Except Failure (SDKResponse × Context)}
    (h : Handles X g body event headers t (.returned res)) : ¬ Context.IsTooShort X headers := by
  intro hshort
  obtain ⟨context, hnew⟩ := h.exists_context
  rw [Context.new_eq_error_iff.mpr (Context.deviceIdOf_of_isTooShort hshort)] at hnew
  cases hnew

/-- A batch whose handling panics came with a device id that is too short. -/
theorem Handles.isTooShort (haead : X.aead.Documented) (huuid : X.uuid.Documented)
    (h : Handles X g body event headers t .panicked) : Context.IsTooShort X headers := by
  by_contra hlong
  obtain ⟨deviceId, hdeviceId, _⟩ := Context.deviceIdOf_of_not_isTooShort g.secret hlong
  exact not_handles_panicked haead huuid
    (Context.new_eq_ok_iff.mpr ⟨deviceId, hdeviceId, rfl⟩) h

end Gateway

section

variable (X : Crates) (g : Gateway.Globals) (haead : X.aead.Documented)
  (huuid : X.uuid.Documented)

include haead huuid

/-- The device-id path is free of panics for exactly those requests whose
`XORC-Device-Id` header, if it is base64 at all, decodes to twelve bytes or
more: then a context is built, with a device id exactly if the header
authenticates, every id the gateway encrypts itself fits the buffers, and every
batch is handled to a result. -/
theorem deviceId_path_total_iff (headers : HeaderMap) :
    ((∀ appId platform, ∃ context,
        Context.new X g.secret headers appId platform = .ok context ∧
          (context.deviceId.isSome ↔ Context.Authenticates X g.secret headers)) ∧
      (∀ nonce u, ∃ c,
        Ciphertext.encrypt X g.secret nonce ⟨X.uuid.hyphenated u⟩ = .ok c) ∧
      ∀ body event, NeverPanics (Gateway.handleEvent X g body event headers)) ↔
    ∀ s decoded, Context.getValue X headers .xorcDeviceId = some s →
      X.base64.decode (asBytes s) = some decoded → 12 ≤ decoded.length := by
  have hshort : (∀ s decoded, Context.getValue X headers .xorcDeviceId = some s →
      X.base64.decode (asBytes s) = some decoded → 12 ≤ decoded.length) ↔
      ¬ Context.IsTooShort X headers := by
    simp only [Context.IsTooShort, not_exists, not_and, not_lt]
  rw [hshort]
  refine ⟨fun h htoo => ?_, fun hnot => ?_⟩
  · obtain ⟨context, hnew, _⟩ := h.1 "" .unknown
    rw [Context.new_eq_error_iff.mpr (Context.deviceIdOf_of_isTooShort htoo)] at hnew
    cases hnew
  · obtain ⟨deviceId, hdeviceId, hiff⟩ := Context.deviceIdOf_of_not_isTooShort g.secret hnot
    have hnew : ∀ appId platform, ∃ context,
        Context.new X g.secret headers appId platform = .ok context ∧
          (context.deviceId.isSome ↔ Context.Authenticates X g.secret headers) :=
      fun appId platform => ⟨_, Context.new_eq_ok_iff.mpr ⟨deviceId, hdeviceId, rfl⟩, hiff⟩
    refine ⟨hnew, fun nonce u => Gateway.exists_encrypt_hyphenated haead huuid nonce u,
      fun body event t hpanics => ?_⟩
    obtain ⟨context, hcontext, _⟩ := hnew event.environment.appId event.device.getPlatform
    exact Gateway.not_handles_panicked haead huuid hcontext
      (Gateway.runs_handleEvent X g hpanics)

end

/-- Sixteen characters of base64, which are twelve bytes. -/
def twelveBytes : HeaderMap :=
  [(.xorcDeviceId, .fromStatic "AAAAAAAAAAAAAAAA" (by decide))]

theorem decoded_twelveBytes {s : String} {decoded : List UInt8}
    (hs : Context.getValue Reference.crates twelveBytes .xorcDeviceId = some s)
    (hdecoded : Reference.crates.base64.decode (asBytes s) = some decoded) :
    decoded = List.replicate 12 0 := by
  have hvalue : Context.getValue Reference.crates twelveBytes .xorcDeviceId =
      some "AAAAAAAAAAAAAAAA" := by decide +kernel
  have hbytes : Reference.crates.base64.decode (asBytes "AAAAAAAAAAAAAAAA") =
      some (List.replicate 12 0) := by decide +kernel
  obtain rfl := Option.some.inj (hvalue.symm.trans hs)
  exact Option.some.inj (hdecoded.symm.trans hbytes)

/-- They are enough to be split and too few to authenticate. -/
theorem neverPanics_of_twelve_bytes :
    (∃ context, Context.new Reference.crates Reference.globals.secret twelveBytes Reference.appId
      .unknown = .ok context ∧
        (context.deviceId.isSome ↔
          Context.Authenticates Reference.crates Reference.globals.secret twelveBytes)) ∧
    NeverPanics (Gateway.handleEvent Reference.crates Reference.globals
      (asBytes Reference.openBody) Reference.openBatch twelveBytes) := by
  have hlong : ∀ s decoded, Context.getValue Reference.crates twelveBytes .xorcDeviceId = some s →
      Reference.crates.base64.decode (asBytes s) = some decoded → 12 ≤ decoded.length := by
    intro s decoded hs hdecoded
    rw [decoded_twelveBytes hs hdecoded, List.length_replicate]
  obtain ⟨hnew, _, hhandled⟩ := (deviceId_path_total_iff Reference.crates Reference.globals
    Reference.aead_documented Reference.uuid_documented twelveBytes).mpr hlong
  exact ⟨hnew _ _, hhandled _ _⟩

/-- Four characters, which are three bytes. -/
def threeBytes : HeaderMap :=
  [(.xorcDeviceId, .fromStatic "AAAA" (by decide))]

/-- With them no context is built, and an ordinary batch panics before its
application is looked up. -/
theorem short_deviceId_panics :
    (∀ appId platform, Context.new Reference.crates Reference.globals.secret threeBytes appId
      platform = .error .splitOutOfBounds) ∧
    Runs (Gateway.handleEvent Reference.crates Reference.globals (asBytes Reference.openBody)
      Reference.openBatch threeBytes) [] .panicked := by
  have hshort : Context.IsTooShort Reference.crates threeBytes :=
    ⟨"AAAA", [0, 0, 0], by decide +kernel, by decide +kernel, by decide⟩
  have hnew : ∀ appId platform, Context.new Reference.crates Reference.globals.secret threeBytes
      appId platform = .error .splitOutOfBounds :=
    fun appId platform => Context.new_eq_error_iff.mpr (Context.deviceIdOf_of_isTooShort hshort)
  refine ⟨hnew, ?_⟩
  rw [Gateway.handleEvent, hnew, liftPanic_error, bind_eq_bind, panic_bind, runs_panic_iff]
  exact ⟨rfl, rfl⟩

end XorcGateway
