/-
# The published batch in time order

The events of a batch are published sorted by their timestamps, each converted
by itself, with the timestamp as decimal text. Reading the text gives the number
back, so the order of the published timestamps is the order of the events.
-/

import XorcGateway.Reference
import XorcGateway.Rust.Decimal

namespace XorcGateway.Events

open Rust

/-- The time of a published event, read back from its text. -/
def Output.SdkEventData.time (data : Output.SdkEventData) : Option UInt64 :=
  data.timestamp.bind u64FromStr

/-- A published event has everything it says from this event. -/
structure SDKEvent.IsConvertedTo (event : SDKEvent) (data : Output.SdkEventData) : Prop where
  id : data.id = some event.id
  name : data.name = some event.name
  sessionId : data.sessionId = event.sessionId
  externalUserId : data.externalUserId = event.externalUserId
  referenceId : data.referenceId = event.referenceId
  properties : data.properties = event.flatProperties
  time : data.time = some event.timestamp

theorem SDKEvent.isConvertedTo_toSdkEventData (event : SDKEvent) :
    event.IsConvertedTo event.toSdkEventData where
  id := rfl
  name := rfl
  sessionId := rfl
  externalUserId := rfl
  referenceId := rfl
  properties := rfl
  time := u64FromStr_toString event.timestamp

/-- The published batch is the received one: the application under both of its
names, and the events, none lost and none twice, each converted by itself, in
the order of their timestamps. -/
structure SDKEventBatch.IsPublishedAs (batch : SDKEventBatch) (proto : Output.SdkEventBatch) :
    Prop where
  source : proto.header.source = batch.environment.appId
  environment : proto.environment.bind Output.SdkEnvironment.appId = some batch.environment.appId
  events : ∃ events : List SDKEvent, events.Perm batch.events ∧
    List.Forall₂ SDKEvent.IsConvertedTo events proto.event
  ordered : proto.event.Pairwise fun data later =>
    ∃ n m, data.time = some n ∧ later.time = some m ∧ n.toNat ≤ m.toNat

namespace SDKEventBatch

variable {X : Crates}

/-- The comparator of the conversion. -/
def byTimestamp (e₁ e₂ : SDKEvent) : Ordering := compare e₁.timestamp e₂.timestamp

theorem transCmp_byTimestamp : Std.TransCmp byTimestamp :=
  inferInstanceAs (Std.TransCmp (compareOn SDKEvent.timestamp))

theorem isLE_byTimestamp_iff {e₁ e₂ : SDKEvent} :
    (byTimestamp e₁ e₂).isLE = true ↔ e₁.timestamp.toNat ≤ e₂.timestamp.toNat := by
  rw [byTimestamp, Std.isLE_compare, UInt64.le_iff_toNat_le]

theorem intoProto_event (now : ℤ) (batch : SDKEventBatch) (context : Context) :
    (batch.intoProto X now context).event =
      (X.sortUnstableBy byTimestamp batch.events).map SDKEvent.toSdkEventData := rfl

/-- Whatever the context and the clock, a batch is published as received. -/
theorem intoProto_isPublishedAs (hsort : X.DocumentedSort) (now : ℤ) (batch : SDKEventBatch)
    (context : Context) : batch.IsPublishedAs (batch.intoProto X now context) where
  source := rfl
  environment := rfl
  events := by
    refine ⟨_, hsort.perm byTimestamp batch.events, ?_⟩
    rw [intoProto_event, List.forall₂_map_right_iff, List.forall₂_same]
    intro event _
    exact event.isConvertedTo_toSdkEventData
  ordered := by
    rw [intoProto_event, List.pairwise_map]
    apply (hsort.ordered byTimestamp batch.events transCmp_byTimestamp).imp
    intro event later hle
    exact ⟨_, _, event.isConvertedTo_toSdkEventData.time, later.isConvertedTo_toSdkEventData.time,
      isLE_byTimestamp_iff.mp hle⟩

/-- Two events sent in the wrong order. -/
def lateBatch : SDKEventBatch :=
  { Reference.openBatch with events :=
      [{ id := "1", timestamp := 18446744073709551615, name := "open" },
        { id := "2", timestamp := 9, name := "close" }] }

/-- They are published in the right one. -/
theorem lateBatch_isPublishedAs : lateBatch.IsPublishedAs
    (lateBatch.intoProto Reference.crates 0 Reference.registering.context) :=
  intoProto_isPublishedAs Reference.crates_documentedSort 0 lateBatch _

end SDKEventBatch

end XorcGateway.Events
