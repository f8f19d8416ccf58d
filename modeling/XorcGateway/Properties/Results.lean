/-
# Which events are answered

The results of a batch without a register event are one for each event, in
order. With one there is a single result, for the first register event, whatever
else the batch has; all of it is published.
-/

import XorcGateway.Reference
import XorcGateway.Semantics.Responses

namespace XorcGateway

open Effects Events Rust Program

/-- One result for each event, in the order of the batch: under the event's id,
and with registration data exactly if it is a registration. -/
def Answers (event : SDKEventBatch) (results : List EventResult) : Prop :=
  List.Forall₂ (fun e result => result.id = e.id ∧ (result.registrationData.isSome ↔ e.isRegister))
    event.events results

namespace Gateway

variable {X : Crates} {g : Globals} {event : SDKEventBatch}

theorem findRegisterEvent_eq_none_iff :
    findRegisterEvent event = none ↔ ∀ e ∈ event.events, e.isRegister = false := by
  rw [findRegisterEvent, Option.map_eq_none_iff, List.find?_eq_none]
  simp

/-- Plain results answer a batch without registrations. -/
theorem answers_plain (h : findRegisterEvent event = none) :
    Answers event (event.events.map fun e => EventResult.new e.id .success) := by
  rw [Answers, List.forall₂_map_right_iff, List.forall₂_same]
  intro e he
  have hplain := findRegisterEvent_eq_none_iff.mp h e he
  simp [EventResult.new, hplain]

/-- The one result of a registration answers a batch of one event. -/
theorem answers_registrationResults_iff {eventId : String} {deviceId : DeviceId}
    {token : Option String} (h : findRegisterEvent event = some eventId) :
    Answers event (registrationResults eventId deviceId token) ↔ event.events.length = 1 := by
  constructor
  · intro hanswers
    exact hanswers.length_eq
  · intro hone
    obtain ⟨e, he⟩ := List.length_eq_one_iff.mp hone
    rw [findRegisterEvent, he, List.find?_singleton] at h
    by_cases hregister : e.isRegister = true
    · rw [if_pos hregister] at h
      obtain rfl := Option.some.inj h
      rw [Answers, he]
      refine .cons ⟨rfl, ?_⟩ .nil
      simp [EventResult.register, hregister]
    · rw [if_neg hregister] at h
      cases h

/-- Whatever way the results were prepared, they answer the batch exactly when
it has no registration or is a single event. -/
theorem Prepares.answers_iff {context context' : Context} {t : List (Event Calls)}
    {results : List EventResult} (h : Prepares X g context event t results context') :
    Answers event results ↔
      (∀ e ∈ event.events, e.isRegister = false) ∨ event.events.length = 1 := by
  rw [← findRegisterEvent_eq_none_iff]
  cases h with
  | plain hnone => exact iff_of_true (answers_plain hnone) (Or.inl hnone)
  | registration hregister _ =>
      rw [answers_registrationResults_iff hregister, hregister]
      simp

end Gateway

/-- A request answered 200 carries results, and they answer its batch exactly when
the batch has no register event or has only one event. -/
theorem events_answered_iff {X : Crates} {g : Gateway.Globals} {incoming : Gateway.Incoming}
    {t : List (Event Calls)} {response : Response}
    (hrun : Runs (Gateway.handleSdk X g incoming) t (.returned response))
    (hok : response.status = 200) :
    ∃ body event results, incoming.body = some body ∧ X.fromSlice body = some event ∧
      response.body = .json ⟨results⟩ ∧
      (Answers event results ↔
        (∀ e ∈ event.events, e.isRegister = false) ∨ event.events.length = 1) := by
  obtain ⟨p, _, _, _, _, hjson⟩ := Gateway.exists_publication_of_ok X g hrun hok
  exact ⟨p.body, p.event, p.results, p.body_eq, p.event_eq, hjson, p.prepares.answers_iff⟩

/-- The two events of a batch are answered. -/
theorem visit_events_answered : ∃ response,
    (Reference.handled (Reference.post Reference.visitBody []) Reference.working).2 =
      .returned response ∧
    ∃ results, response.body = .json ⟨results⟩ ∧ Answers Reference.visitBatch results := by
  obtain ⟨response, hresponse, hok⟩ := Reference.visit_answered
  have hrun := Reference.runs_handled (Reference.post Reference.visitBody []) Reference.working
  rw [hresponse] at hrun
  obtain ⟨_, event, results, hbody, hevent, hjson, hiff⟩ :=
    events_answered_iff hrun hok
  cases hbody
  obtain rfl := Option.some.inj (Reference.fromSlice_visitBody.symm.trans hevent)
  exact ⟨response, hresponse, results, hjson, hiff.mpr (Or.inl (by decide))⟩

/-- The events a response answers. -/
def answeredIds (response : Response) : List String :=
  match response.body with
  | .text _ => []
  | .json sdkResponse => sdkResponse.eventsStatus.map EventResult.id

/-- Of an event and a registration, only the registration is answered. -/
theorem mixed_batch_not_answered : ∃ response results,
    (Reference.handled (Reference.post Reference.mixedBody []) Reference.working).2 =
      .returned response ∧
    response.status = 200 ∧ response.body = .json ⟨results⟩ ∧ results.map EventResult.id = ["2"] ∧
    ¬ Answers Reference.mixedBatch results := by
  have hanswered : (Reference.handled (Reference.post Reference.mixedBody [])
      Reference.working).2.any (fun response =>
        response.status == 200 && answeredIds response == ["2"]) = true := by
    decide +kernel
  obtain ⟨response, hresponse, hmatches⟩ := Outcome.any_eq_true.mp hanswered
  rw [Bool.and_eq_true, beq_iff_eq, beq_iff_eq, answeredIds] at hmatches
  obtain ⟨hok, hids⟩ := hmatches
  cases hbody : response.body with
  | text s => simp [hbody] at hids
  | json sdkResponse =>
      simp only [hbody] at hids
      refine ⟨response, sdkResponse.eventsStatus, hresponse, hok, hbody, hids, fun hanswers => ?_⟩
      have hlength := hanswers.length_eq
      rw [← List.length_map (f := EventResult.id), hids] at hlength
      cases hlength

end XorcGateway
