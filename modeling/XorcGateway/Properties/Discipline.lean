/-
# The effects of a request

What other systems see of a request, in order: nothing; or one record; or, for a
registration, the lookup and the write of its entry and then one record.
-/

import XorcGateway.Properties.Admission
import XorcGateway.Properties.Recipients
import XorcGateway.Semantics.Responses

namespace XorcGateway

open Effects Events Rust Program

namespace Gateway

/-- The calls other systems see. -/
def externalCalls (t : List (Event Calls)) : List Call :=
  (t.map Event.call).filter fun call => call.IsExternal

@[simp]
theorem externalCalls_append (first second : List (Event Calls)) :
    externalCalls (first ++ second) = externalCalls first ++ externalCalls second := by
  simp [externalCalls]

@[simp]
theorem externalCalls_cons (e : Event Calls) (t : List (Event Calls)) :
    externalCalls (e :: t) =
      if e.call.IsExternal then e.call :: externalCalls t else externalCalls t := by
  simp [externalCalls, List.filter_cons]

theorem externalCalls_eq_nil_iff {t : List (Event Calls)} :
    externalCalls t = [] ↔ ∀ e ∈ t, ¬ e.call.IsExternal := by
  simp [externalCalls, List.filter_eq_nil_iff]

/-- What is counted and logged around a statement is not seen. -/
theorem externalCalls_reports {reports : List (Event Calls)}
    (h : ∀ e ∈ reports, IfaMatching.IsReport e.call) : externalCalls reports = [] := by
  rw [externalCalls_eq_nil_iff]
  intro e he hexternal
  have hreport := h e he
  cases hcall : e.call with
  | query statement =>
      rw [hcall] at hreport
      exact hreport
  | send record =>
      rw [hcall] at hreport
      exact hreport
  | _ =>
      rw [hcall] at hexternal
      exact hexternal

variable {X : Crates} {g : Globals}

/-- The blocking section is seen as a lookup and a write of one entry, or not at
all. -/
theorem Acquires.externalCalls_eq {appId : String} {ifa : Option String} {enabled : Bool}
    {t : List (Event Calls)} {u : Uuid} {c : Ciphertext}
    (h : Acquires X g appId ifa enabled t u c) :
    externalCalls t = [] ∨ ∃ a i, externalCalls t =
      [.query (.selectEntityId a i), .query (.insertKnownIfa a i u)] := by
  cases h with
  | unkeyed _ _ => exact Or.inl rfl
  | @found a i _ _ _ _ _ before after _ _ _ hbefore hafter =>
      refine Or.inr ⟨a, i, ?_⟩
      simp [externalCalls_reports hbefore, externalCalls_reports hafter, Call.IsExternal]
  | @missed a i _ _ _ _ _ before after _ _ _ hbefore hafter =>
      refine Or.inr ⟨a, i, ?_⟩
      simp [externalCalls_reports hbefore, externalCalls_reports hafter, Call.IsExternal]

/-- Reading the token is not seen. -/
theorem TokenRead.externalCalls_eq {sent token : Option String} {appId : String}
    {t : List (Event Calls)} (h : TokenRead sent appId t token) : externalCalls t = [] := by
  rw [externalCalls_eq_nil_iff]
  intro e he
  rw [h.loads e he]
  exact id

/-- Preparing a batch is seen only if it registers a device the context does not
know. -/
theorem Prepares.externalCalls_eq (haead : X.aead.Documented) (huuid : X.uuid.Documented)
    {context context' : Context} {event : SDKEventBatch} {t : List (Event Calls)}
    {results : List EventResult} (h : Prepares X g context event t results context') :
    externalCalls t = [] ∨ (∃ e ∈ event.events, e.isRegister) ∧ context.deviceId = none ∧
      ∃ a i d, externalCalls t =
        [.query (.selectEntityId a i), .query (.insertKnownIfa a i d)] := by
  cases h with
  | plain _ => exact Or.inl rfl
  | registration hregister hregisters =>
      cases hregisters with
      | known _ htoken => exact Or.inl htoken.externalCalls_eq
      | acquired hunknown hget htoken =>
          obtain ⟨u, c, hacquires, _⟩ := runs_getId X g haead huuid hget
          simp only [List.cons_append, externalCalls_cons, externalCalls_append,
            htoken.externalCalls_eq, List.append_nil]
          cases hacquires.externalCalls_eq with
          | inl hnothing => exact Or.inl (by simp [hnothing, Call.IsExternal])
          | inr hstatements =>
              obtain ⟨a, i, hstatements⟩ := hstatements
              refine Or.inr ⟨findRegisterEvent_isSome_iff.mp (by rw [hregister]; rfl), hunknown,
                a, i, u, ?_⟩
              simp [hstatements, Call.IsExternal]

/-- A batch that is seen at all is published. -/
theorem Handles.exists_send (haead : X.aead.Documented) (huuid : X.uuid.Documented)
    {body : List UInt8} {event : SDKEventBatch} {headers : HeaderMap} {t : List (Event Calls)}
    {r : Outcome (Except Failure (SDKResponse × Context))}
    (h : Handles X g body event headers t r) (hseen : ∃ e ∈ t, e.call.IsExternal) :
    ∃ record answer, (⟨Call.send record, answer⟩ : Event Calls) ∈ t := by
  cases h with
  | contextPanics _ => simp at hseen
  | originRefused _ _ => simp at hseen
  | invalid _ _ _ => simp [Call.IsExternal] at hseen
  | blocked _ _ _ => simp [Call.IsExternal] at hseen
  | sectionPanics _ hget =>
      obtain ⟨_, _, _, hreturned⟩ := runs_getId X g haead huuid hget
      cases hreturned
  | @published _ left _ _ _ now delivery _ _ =>
      exact ⟨publishedRecord X g now left event, .ok delivery, by simp⟩
  | @canceled _ left _ _ _ now canceled _ _ =>
      exact ⟨publishedRecord X g now left event, .error canceled, by simp⟩

/-- Answering is not seen. -/
theorem externalCalls_respond {res : Except Failure (SDKResponse × Context)}
    {t : List (Event Calls)} {r : Outcome Response} (h : Runs (respond X g res) t r) :
    externalCalls t = [] :=
  externalCalls_eq_nil_iff.mpr fun e he =>
    not_isExternal_of_isAnswering ((confined_respond X g res).of_steps h e he)

/-- So is the batch of a request that is seen. -/
theorem exists_send_of_seen (haead : X.aead.Documented) (huuid : X.uuid.Documented)
    {incoming : Incoming} {t : List (Event Calls)} {r : Outcome Response}
    (h : Runs (handleSdk X g incoming) t r) (hseen : ∃ e ∈ t, e.call.IsExternal) :
    ∃ record answer, (⟨Call.send record, answer⟩ : Event Calls) ∈ t := by
  rcases runs_handleSdk X g h with ⟨error, _, hrespond⟩ |
    ⟨body, event, _, _, ⟨res, first, second, rfl, hhandles, hrespond⟩ | ⟨hpanics, _⟩⟩
  · obtain ⟨e, he, hexternal⟩ := hseen
    exact absurd hexternal (not_isExternal_of_respond hrespond he).1
  · obtain ⟨record, answer, hsend⟩ :=
      hhandles.exists_send haead huuid ((seen_append_iff hrespond).mp hseen)
    exact ⟨record, answer, List.mem_append_left _ hsend⟩
  · exact hpanics.exists_send haead huuid hseen

/-- What is seen of a finished request: nothing, and then it is answered with an
error; or what its registration needs and its record, and then it is answered
200 or 503. -/
theorem runs_handleSdk_external (haead : X.aead.Documented) (huuid : X.uuid.Documented)
    {incoming : Incoming} {t : List (Event Calls)} {r : Outcome Response}
    (h : Runs (handleSdk X g incoming) t r) :
    (externalCalls t = [] ∧ ∀ response, r = .returned response →
        response.status ≠ 200 ∧ response.registrationData = []) ∨
      ∃ p : Publication X g incoming, ∃ answer last,
        t = p.before ++ ⟨Call.send p.record, answer⟩ :: last ∧ externalCalls last = [] ∧
        ∀ response, r = .returned response → response.status = 200 ∨
          response.status = 503 ∧ response.registrationData = [] := by
  rcases runs_handleSdk_publication X g h with ⟨hquiet, hrefused⟩ |
    ⟨p, second, ⟨delivery, ht, hrespond⟩ | ⟨canceled, ht, hrespond⟩⟩
  · refine Or.inl ⟨externalCalls_eq_nil_iff.mpr fun e he hexternal => ?_, hrefused⟩
    obtain ⟨record, answer, hsend⟩ := exists_send_of_seen haead huuid h ⟨e, he, hexternal⟩
    exact hquiet _ hsend trivial
  · refine Or.inr ⟨p, .ok delivery, p.reports ++ second, ht, ?_, ?_⟩
    · rw [externalCalls_append, externalCalls_respond hrespond]
      rfl
    · intro response hr
      rw [hr] at hrespond
      obtain ⟨builder, _, rfl⟩ := exists_builder_of_runs_respond X g hrespond
      exact Or.inl rfl
  · refine Or.inr ⟨p, .error canceled, second, ht, externalCalls_respond hrespond, ?_⟩
    intro response hr
    rw [hr] at hrespond
    obtain ⟨builder, _, rfl⟩ := exists_builder_of_runs_respond X g hrespond
    exact Or.inr ⟨rfl, rfl⟩

theorem sentRecords_eq_nil {t : List (Event Calls)}
    (h : ∀ record answer, (⟨Call.send record, answer⟩ : Event Calls) ∉ t) : sentRecords t = [] := by
  rw [List.eq_nil_iff_forall_not_mem]
  intro record hrecord
  obtain ⟨answer, hsend⟩ := mem_sentRecords.mp hrecord
  exact h record answer hsend

theorem not_mem_of_externalCalls {t : List (Event Calls)} (h : externalCalls t = [])
    (record : FutureRecord) (answer : SendResult) :
    (⟨Call.send record, answer⟩ : Event Calls) ∉ t :=
  fun hsend => externalCalls_eq_nil_iff.mp h _ hsend trivial

/-- A publication hands over its record and no other. -/
theorem Publication.sentRecords_eq {incoming : Incoming} (p : Publication X g incoming)
    {answer : SendResult} {last : List (Event Calls)} (hlast : externalCalls last = []) :
    sentRecords (p.before ++ ⟨Call.send p.record, answer⟩ :: last) = [p.record] := by
  have hbefore : sentRecords p.before = [] :=
    sentRecords_eq_nil fun record answer hsend => p.before_quiet _ hsend trivial
  have hafter : sentRecords last = [] := sentRecords_eq_nil (not_mem_of_externalCalls hlast)
  rw [sentRecords] at hbefore hafter ⊢
  rw [List.filterMap_append, hbefore, List.nil_append, List.filterMap_cons]
  exact congrArg (p.record :: ·) hafter

end Gateway

/-- What a finished request is held to: at most one record, with every event of
the batch, after validation; a success for exactly one; nothing seen of a request
the client is at fault for; at most a lookup and a write of the store, in this
order and before the record, and only to register a device the request does not
name; and registration data in a success only. -/
structure IsDisciplined (X : Crates) (g : Gateway.Globals) (incoming : Gateway.Incoming)
    (t : List (Event Calls)) (r : Outcome Response) : Prop where
  once : (Gateway.sentRecords t).length ≤ 1
  carries : ∀ record ∈ Gateway.sentRecords t, ∃ body event, incoming.body = some body ∧
    X.fromSlice body = some event ∧
    record.payload.event.Perm (event.events.map SDKEvent.toSdkEventData)
  validated : ∀ record ∈ Gateway.sentRecords t, ∃ before answer after body event apps context,
    t = before ++ ⟨Call.send record, answer⟩ :: after ∧ incoming.body = some body ∧
    X.fromSlice body = some event ∧ (⟨Call.loadApps, apps⟩ : Event Calls) ∈ before ∧
    Gateway.Accepts X g body event incoming.headers apps context
  accepted : ∀ response, r = .returned response → response.status = 200 →
    (Gateway.sentRecords t).length = 1
  refused : ∀ response, r = .returned response → 400 ≤ response.status →
    response.status < 500 → Gateway.externalCalls t = []
  statements : (∀ e ∈ t, ∀ statement, e.call ≠ .query statement) ∨
    ∃ body event context a i d record, incoming.body = some body ∧
      X.fromSlice body = some event ∧ (∃ e ∈ event.events, e.isRegister) ∧
      Context.new X g.secret incoming.headers event.environment.appId
        event.device.getPlatform = .ok context ∧ context.deviceId = none ∧
      Gateway.externalCalls t =
        [.query (.selectEntityId a i), .query (.insertKnownIfa a i d), .send record]
  data : ∀ response, r = .returned response → response.status ≠ 200 →
    response.registrationData = []

section

variable {X : Crates} {g : Gateway.Globals} {incoming : Gateway.Incoming}
  {t : List (Event Calls)} {r : Outcome Response}

/-- A request of which nothing is seen, and which fails, is disciplined. -/
theorem isDisciplined_of_silent (hnothing : Gateway.externalCalls t = [])
    (hrefused : ∀ response, r = .returned response →
      response.status ≠ 200 ∧ response.registrationData = []) :
    IsDisciplined X g incoming t r := by
  have hnone : Gateway.sentRecords t = [] :=
    Gateway.sentRecords_eq_nil (Gateway.not_mem_of_externalCalls hnothing)
  exact {
    once := by simp [hnone]
    carries := by simp [hnone]
    validated := by simp [hnone]
    accepted := fun response hr hok => absurd hok (hrefused response hr).1
    refused := fun _ _ _ _ => hnothing
    statements := by
      refine Or.inl fun e he statement hquery => ?_
      exact Gateway.externalCalls_eq_nil_iff.mp hnothing e he (by rw [hquery]; trivial)
    data := fun response hr _ => (hrefused response hr).2 }

/-- So is one that publishes its batch and is answered 200 or 503. -/
theorem isDisciplined_of_publication (haead : X.aead.Documented) (huuid : X.uuid.Documented)
    (hsort : ∀ order events, (X.sortUnstableBy order events).Perm events)
    (p : Gateway.Publication X g incoming) {answer : SendResult} {last : List (Event Calls)}
    (ht : t = p.before ++ ⟨Call.send p.record, answer⟩ :: last)
    (hlast : Gateway.externalCalls last = [])
    (hanswered : ∀ response, r = .returned response → response.status = 200 ∨
      response.status = 503 ∧ response.registrationData = []) :
    IsDisciplined X g incoming t r := by
  have hrecords : Gateway.sentRecords t = [p.record] := by
    rw [ht]
    exact p.sentRecords_eq hlast
  have hcalls : Gateway.externalCalls t = Gateway.externalCalls p.pre ++ [.send p.record] := by
    rw [ht]
    simp [Gateway.Publication.before, hlast, Call.IsExternal]
  exact {
    once := by simp [hrecords]
    carries := by
      intro record hrecord
      rw [hrecords, List.mem_singleton] at hrecord
      rw [hrecord]
      exact ⟨p.body, p.event, p.body_eq, p.event_eq, (hsort _ _).map _⟩
    validated := by
      intro record hrecord
      rw [hrecords, List.mem_singleton] at hrecord
      rw [hrecord]
      exact ⟨p.before, answer, last, p.body, p.event, p.apps, p.context, ht, p.body_eq,
        p.event_eq, by simp [Gateway.Publication.before], p.accepts⟩
    accepted := by simp [hrecords]
    refused := by
      intro response hr hlow hhigh
      have hstatus := hanswered response hr
      omega
    statements := by
      cases p.prepares.externalCalls_eq haead huuid with
      | inl hnothing =>
          refine Or.inl fun e he statement hquery => ?_
          have hmem : e.call ∈ Gateway.externalCalls t :=
            List.mem_filter.mpr ⟨List.mem_map_of_mem he, by rw [hquery]; rfl⟩
          rw [hcalls, hnothing, hquery] at hmem
          simp at hmem
      | inr hregisters =>
          obtain ⟨hregister, hunknown, a, i, d, hstatements⟩ := hregisters
          refine Or.inr ⟨p.body, p.event, p.context, a, i, d, p.record, p.body_eq, p.event_eq,
            hregister, p.accepts.context_new, hunknown, ?_⟩
          rw [hcalls, hstatements]
          rfl
    data := by
      intro response hr hnot
      cases hanswered response hr with
      | inl hok => exact absurd hok hnot
      | inr hfailed => exact hfailed.2 }

/-- Every finished request is disciplined, whatever it is answered by the store, the
thread pool and the producer. -/
theorem handleSdk_isDisciplined (haead : X.aead.Documented) (huuid : X.uuid.Documented)
    (hsort : ∀ order events, (X.sortUnstableBy order events).Perm events)
    (hrun : Runs (Gateway.handleSdk X g incoming) t r) : IsDisciplined X g incoming t r := by
  rcases Gateway.runs_handleSdk_external haead huuid hrun with ⟨hnothing, hrefused⟩ |
    ⟨p, answer, last, ht, hlast, hanswered⟩
  · exact isDisciplined_of_silent hnothing hrefused
  · exact isDisciplined_of_publication haead huuid hsort p ht hlast hanswered

end

/-- A registration in a world that works. -/
theorem register_isDisciplined :
    IsDisciplined Reference.crates Reference.globals (Reference.post Reference.registerBody [])
      (Reference.handled (Reference.post Reference.registerBody []) Reference.working).1
      (Reference.handled (Reference.post Reference.registerBody []) Reference.working).2 :=
  handleSdk_isDisciplined Reference.aead_documented Reference.uuid_documented
    (fun order events => List.perm_insertionSort (fun e₁ e₂ => (order e₁ e₂).isLE) events)
    (Reference.runs_handled _ _)

end XorcGateway
