/-
# Where a published location comes from

The location of a device, its hashed address and its country, is written by the
gateway when the request's context has an address. The same two fields can be
sent by the client, and where the context has no address they are published as
the client sent them.
-/

import XorcGateway.Reference
import XorcGateway.Semantics.Pipeline

namespace XorcGateway

open Effects Events Rust Program

/-- A hashed address and a country. -/
structure DeviceLocation where
  ipHashedBlake2 : Option String := none
  country : Option String := none
  deriving DecidableEq

/-- The location of a connection, from its address if that is known. -/
def DeviceLocation.ofIp (X : Crates) (ip : Option IpAddr) : DeviceLocation where
  ipHashedBlake2 := ip.map fun ip =>
    X.base64.encode (X.location.blake2b (asBytes (X.location.displayIp ip)))
  country := ip.bind X.location.country

namespace Events

/-- The location a client sends. -/
def SDKEventBatch.location (batch : SDKEventBatch) : DeviceLocation where
  ipHashedBlake2 := batch.device.ipHashedBlake2
  country := batch.device.country

/-- The batch of a client that sends another location. -/
def SDKEventBatch.withLocation (batch : SDKEventBatch) (location : DeviceLocation) :
    SDKEventBatch :=
  { batch with device := { batch.device with
      ipHashedBlake2 := location.ipHashedBlake2
      country := location.country } }

/-- The location of a published batch. -/
def Output.SdkEventBatch.location (batch : Output.SdkEventBatch) : DeviceLocation where
  ipHashedBlake2 := batch.device.bind Output.Device.ipHashedBlake2
  country := batch.device.bind Output.Device.country

namespace SDKEventBatch

variable (X : Crates) (now : ℤ) (batch : SDKEventBatch) (context : Context)

/-- The published location is the connection's if that is known, and the client's
otherwise. -/
theorem intoProto_location :
    (batch.intoProto X now context).location =
      if context.ip.isSome then .ofIp X context.ip else batch.location := by
  cases hip : context.ip with
  | none => simp [intoProto, deviceFor, hip, SDKDevice.toDevice, Output.SdkEventBatch.location,
      SDKEventBatch.location]
  | some ip => simp [intoProto, deviceFor, hip, SDKDevice.toDevice, SDKDevice.setLocation,
      Output.SdkEventBatch.location, DeviceLocation.ofIp]

/-- The location a client sends is published if the connection's is unknown, and
makes no difference if it is known. -/
theorem intoProto_withLocation_iff (location : DeviceLocation) :
    (batch.withLocation location).intoProto X now context = batch.intoProto X now context ↔
      context.ip.isSome ∨ location = batch.location := by
  cases hip : context.ip with
  | some ip =>
      have hsame : (batch.withLocation location).intoProto X now context =
          batch.intoProto X now context := by
        simp only [intoProto, deviceFor, hip]
        rfl
      simp [hsame]
  | none =>
      constructor
      · intro hsame
        have hlocation := congrArg Output.SdkEventBatch.location hsame
        rw [intoProto_location, intoProto_location, hip] at hlocation
        exact Or.inr hlocation
      · rintro (hknown | rfl)
        · cases hknown
        · rfl

/-- The published location is the connection's exactly when that is known or the
client sends none. -/
theorem intoProto_location_eq_iff :
    (batch.intoProto X now context).location = .ofIp X context.ip ↔
      context.ip.isSome ∨ batch.location = {} := by
  rw [intoProto_location]
  cases hip : context.ip with
  | none => simp [DeviceLocation.ofIp]
  | some ip => simp

/-- Two batches that differ in their location fields only are published alike, with
the location of the connection, exactly when that is known or neither has any; and
alike at all exactly when it is known or the fields are the same. -/
theorem location_of_connection_iff (location : DeviceLocation) :
    (((batch.withLocation location).intoProto X now context = batch.intoProto X now context ∧
        (batch.intoProto X now context).location = .ofIp X context.ip) ↔
      context.ip.isSome ∨ (batch.location = {} ∧ location = {})) ∧
    ((batch.withLocation location).intoProto X now context = batch.intoProto X now context ↔
      context.ip.isSome ∨ location = batch.location) := by
  refine ⟨?_, intoProto_withLocation_iff X now batch context location⟩
  rw [intoProto_withLocation_iff, intoProto_location_eq_iff, ← or_and_left]
  apply or_congr_right
  constructor
  · rintro ⟨rfl, hnone⟩
    exact ⟨hnone, hnone⟩
  · rintro ⟨hnone, rfl⟩
    exact ⟨hnone.symm, hnone⟩

end SDKEventBatch

/-! ### A client that names its country -/

/-- The batch of a client that says where it is. -/
def finnishBatch : SDKEventBatch :=
  Reference.openBatch.withLocation { country := some "FI" }

/-- Without an address, the client is published where it says it is. -/
theorem finnish_location_published : ∃ context,
    Context.new Reference.crates Reference.secret [] Reference.appId
      finnishBatch.device.getPlatform = .ok context ∧
    context.ip = none ∧
    (finnishBatch.intoProto Reference.crates 0 context).location = { country := some "FI" } ∧
    (Reference.openBatch.intoProto Reference.crates 0 context).location = {} ∧
    finnishBatch.intoProto Reference.crates 0 context ≠
      Reference.openBatch.intoProto Reference.crates 0 context := by
  refine ⟨_, rfl, rfl, rfl, rfl, ?_⟩
  intro hsame
  have hlocation := congrArg Output.SdkEventBatch.location hsame
  revert hlocation
  decide

end Events

end XorcGateway
