/-
# The recipient of a published batch

A record names its recipient twice: in the payload's header, which the client's
JSON may fill, and in the routing key, which comes from the context. With a
device id in the context both are that id; without one the key is empty and the
payload keeps whatever the client sent.
-/

import XorcGateway.Reference
import XorcGateway.Semantics.Pipeline

namespace XorcGateway

open Effects Events Rust Program

/-- Payload and key name the context's device id, or nobody. -/
structure FutureRecord.AgreesWith (record : FutureRecord) (context : Context) : Prop where
  recipient : ∀ r, record.payload.header.recipientId = some r ↔
    ∃ deviceId, context.deviceId = some deviceId ∧ deviceId.cleartext.value = r
  key : ∀ r, record.payload.header.recipientId = some r →
    record.key = some (asBytes (context.appId ++ "|" ++ r))
  key_none : record.key = none ↔ record.payload.header.recipientId = none

namespace Gateway

variable {X : Crates} {g : Globals}

theorem findRegisterEvent_isSome_iff {event : SDKEventBatch} :
    (findRegisterEvent event).isSome ↔ ∃ e ∈ event.events, e.isRegister := by
  rw [findRegisterEvent, Option.isSome_map, List.find?_isSome]

/-- The recipient and the key of a published record. -/
theorem publishedRecord_recipientId (now : ℤ) (context : Context) (event : SDKEventBatch) :
    (publishedRecord X g now context event).payload.header.recipientId =
      event.recipientFor context := rfl

theorem publishedRecord_key (now : ℤ) (context : Context) (event : SDKEventBatch) :
    (publishedRecord X g now context event).key = Kafka.routingKey context := rfl

/-- A record agrees with its context exactly when the context has a device id or
the client named no recipient. -/
theorem publishedRecord_agreesWith_iff (now : ℤ) (context : Context) (event : SDKEventBatch) :
    (publishedRecord X g now context event).AgreesWith context ↔
      context.deviceId.isSome ∨ event.recipientId = none := by
  have hrecipient := publishedRecord_recipientId (X := X) (g := g) now context event
  have hkey := publishedRecord_key (X := X) (g := g) now context event
  rw [SDKEventBatch.recipientFor] at hrecipient
  rw [Kafka.routingKey] at hkey
  cases hdevice : context.deviceId with
  | some deviceId =>
      rw [hdevice] at hrecipient hkey
      refine ⟨fun _ => Or.inl rfl, fun _ => ⟨fun r => ?_, fun r hr => ?_, ?_⟩⟩
      · simp [hrecipient, hdevice]
      · rw [hrecipient] at hr
        rw [hkey, ← Option.some.inj hr]
        rfl
      · simp [hrecipient, hkey]
  | none =>
      rw [hdevice] at hrecipient hkey
      refine ⟨fun h => Or.inr ?_, fun h => ?_⟩
      · have hnone := h.key_none
        rw [hrecipient, hkey] at hnone
        exact hnone.mp rfl
      · rcases h with h | h
        · simp at h
        · rw [h] at hrecipient
          exact ⟨by simp [hrecipient, hdevice], by simp [hrecipient], by simp [hrecipient, hkey]⟩

/-- A batch is published with a device id in its context exactly when its header
gave one or it registers. -/
theorem Publication.deviceId_isSome_iff {incoming : Incoming} (p : Publication X g incoming) :
    p.context'.deviceId.isSome ↔
      p.context.deviceId.isSome ∨ ∃ e ∈ p.event.events, e.isRegister := by
  rw [← findRegisterEvent_isSome_iff]
  have hprepares := p.prepares
  generalize p.context' = context' at hprepares
  generalize p.results = results at hprepares
  generalize p.pre = pre at hprepares
  cases hprepares with
  | plain hnone => simp [hnone]
  | registration hsome _ => simp [hsome, registered]

end Gateway

section

variable (X : Crates) (g : Gateway.Globals)

/-- Every record a request hands to the producer agrees with the context it is
published under exactly when the request's header decrypts, its batch registers,
or its JSON names no recipient. And two requests that differ in that field only,
published under one context, name the same recipient exactly when the header
decrypts, the batch registers, or the field is the same after all. -/
theorem published_recipient_iff :
    (∀ incoming t r record answer, Runs (Gateway.handleSdk X g incoming) t r →
      (⟨Call.send record, answer⟩ : Event Calls) ∈ t →
      ∃ p : Gateway.Publication X g incoming, record = p.record ∧
        (record.AgreesWith p.context' ↔ p.context.deviceId.isSome ∨
          (∃ e ∈ p.event.events, e.isRegister) ∨ p.event.recipientId = none)) ∧
    ∀ first second (p : Gateway.Publication X g first) (q : Gateway.Publication X g second)
      recipientId, q.event = { p.event with recipientId := recipientId } →
      q.context' = p.context' →
      (q.record.payload.header.recipientId = p.record.payload.header.recipientId ↔
        p.context.deviceId.isSome ∨ (∃ e ∈ p.event.events, e.isRegister) ∨
          recipientId = p.event.recipientId) := by
  refine ⟨fun incoming t r record answer hrun hsend => ?_,
    fun first second p q recipientId hevent hcontext => ?_⟩
  · obtain ⟨p, rfl, _⟩ := Gateway.exists_publication_of_send X g hrun hsend
    refine ⟨p, rfl, ?_⟩
    rw [Gateway.Publication.record, Gateway.publishedRecord_agreesWith_iff, p.deviceId_isSome_iff,
      or_assoc]
  · rw [← or_assoc, ← p.deviceId_isSome_iff, Gateway.Publication.record,
      Gateway.Publication.record, Gateway.publishedRecord_recipientId,
      Gateway.publishedRecord_recipientId, hevent, hcontext]
    simp only [SDKEventBatch.recipientFor]
    cases hdevice : p.context'.deviceId with
    | some deviceId => simp
    | none => simp

end

/-- The record of a registration agrees with the context it is published
under. -/
theorem register_record_agrees : ∃ p : Gateway.Publication Reference.crates Reference.globals
      (Reference.post Reference.registerBody []),
    p.record ∈ Gateway.sentRecords
      (Reference.handled (Reference.post Reference.registerBody []) Reference.working).1 ∧
    p.record.AgreesWith p.context' := by
  have hsent : Gateway.sentRecords (Reference.handled
      (Reference.post Reference.registerBody []) Reference.working).1 ≠ [] := by decide +kernel
  obtain ⟨record, hrecord⟩ := List.exists_mem_of_ne_nil _ hsent
  obtain ⟨answer, hsend⟩ := Gateway.mem_sentRecords.mp hrecord
  obtain ⟨p, rfl, hagrees⟩ := (published_recipient_iff Reference.crates Reference.globals).1
    _ _ _ _ _ (Reference.runs_handled _ _) hsend
  refine ⟨p, hrecord, hagrees.mpr (Or.inr (Or.inl ?_))⟩
  have hparsed := Reference.fromSlice_registerBody
  have hbody : asBytes Reference.registerBody = p.body := Option.some.inj p.body_eq
  rw [hbody, p.event_eq] at hparsed
  rw [Option.some.inj hparsed]
  decide +kernel

/-- Without a device id or a registration, the client's recipient is published:
it differs from that of the same batch without one, and has no key. -/
theorem client_recipient_published :
    (∃ t r record answer, Runs (Gateway.handleSdk Reference.crates Reference.globals
        (Reference.post Reference.recipientBody [])) t r ∧
      (⟨Call.send record, answer⟩ : Event Calls) ∈ t ∧
      record.payload.header.recipientId = some "somebody" ∧ record.key = none) ∧
    ∃ t r record answer, Runs (Gateway.handleSdk Reference.crates Reference.globals
        (Reference.post Reference.openBody [])) t r ∧
      (⟨Call.send record, answer⟩ : Event Calls) ∈ t ∧
      record.payload.header.recipientId = none ∧ record.key = none := by
  have hsomebody : ∃ record ∈ Gateway.sentRecords
      (Reference.handled (Reference.post Reference.recipientBody []) Reference.working).1,
      record.payload.header.recipientId = some "somebody" ∧ record.key = none := by
    decide +kernel
  have hnobody : ∃ record ∈ Gateway.sentRecords
      (Reference.handled (Reference.post Reference.openBody []) Reference.working).1,
      record.payload.header.recipientId = none ∧ record.key = none := by
    decide +kernel
  obtain ⟨record, hrecord, hsomebody⟩ := hsomebody
  obtain ⟨record', hrecord', hnobody⟩ := hnobody
  obtain ⟨answer, hsend⟩ := Gateway.mem_sentRecords.mp hrecord
  obtain ⟨answer', hsend'⟩ := Gateway.mem_sentRecords.mp hrecord'
  exact ⟨⟨_, _, record, answer, Reference.runs_handled _ _, hsend, hsomebody⟩,
    _, _, record', answer', Reference.runs_handled _ _, hsend', hnobody⟩

end XorcGateway
