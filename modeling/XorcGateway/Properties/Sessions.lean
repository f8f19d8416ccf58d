/-
# What a device keeps over its requests

A device that registers is handed a ciphertext, and brings it with its requests from
then on. The requests that do, over any number of registrations, are its session.
Opening a ciphertext that was brought gives the id back, and a registration with an
id hands the same text out again, so one id and one text go through the whole
session. Two sessions are told apart by what their first requests were given.
-/

import XorcGateway.Properties.Authenticity
import XorcGateway.Properties.Credentials

namespace XorcGateway

open Effects Events Rust Program

/-- The headers bring the ciphertext as their device id. -/
def HeaderMap.Brings (headers : HeaderMap) (c : Ciphertext) : Prop :=
  ∃ value, headers.get .xorcDeviceId = some value ∧ value.bytes = asBytes c.value

/-- A text that opens to an id is brought as the id. -/
theorem HeaderMap.Brings.deviceIdOf {X : Crates} {secret : SecretKey}
    (hhttp : X.http.Documented) {headers : HeaderMap} {c : Ciphertext} {d : Cleartext}
    (h : headers.Brings c) (hvisible : ∀ b ∈ asBytes c.value, isVisibleAscii b)
    (hdecrypt : Cleartext.decrypt X secret c = .ok (.ok d)) :
    Context.deviceIdOf X secret headers = .ok (some ⟨c, d⟩) := by
  obtain ⟨value, hheader, hbytes⟩ := h
  exact Context.deviceIdOf_of_decrypt hhttp hheader hbytes hvisible hdecrypt

/-- The record is for the id, and its key is made of application and id. -/
structure FutureRecord.IsFor (record : FutureRecord) (d : Cleartext) : Prop where
  recipient : record.payload.header.recipientId = some d.value
  key : record.key = some (asBytes (record.payload.header.source ++ "|" ++ d.value))

/-- The calls an id is looked up or made with. -/
def Call.IsAcquiring : Call → Prop
  | .blocking => True
  | c => c.InSection

/-- A program that looks up no id and makes none. -/
abbrev AcquiresNothing {α : Type} (p : Request α) : Prop :=
  Confined (S := Calls) (fun c => ¬ Call.IsAcquiring c) p

namespace Gateway

variable {X : Crates} {g : Globals} {incoming : Incoming}

/-! ## Requests that bring an id -/

section

variable {deviceId : DeviceId}
  (hbrought : Context.deviceIdOf X g.secret incoming.headers = .ok (some deviceId))

include hbrought

theorem exists_context_of_brought (appId : String) (platform : Platform) :
    ∃ context, Context.new X g.secret incoming.headers appId platform = .ok context ∧
      context.deviceId = some deviceId :=
  ⟨_, Context.new_eq_ok_iff.mpr ⟨_, hbrought, rfl⟩, rfl⟩

omit hbrought in
/-- With an id at hand, none is acquired. -/
theorem acquiresNothing_fetchId {context : Context} (hknown : context.deviceId = some deviceId)
    (event : SDKEventBatch) : AcquiresNothing (fetchId X g context event) := by
  rw [fetchId, hknown]
  exact .done _

omit hbrought in
theorem acquiresNothing_generateEventResults {context : Context}
    (hknown : context.deviceId = some deviceId) (event : SDKEventBatch) :
    AcquiresNothing (generateEventResults X g context event) := by
  rw [generateEventResults]
  cases findRegisterEvent event with
  | none => exact .done _
  | some eventId =>
      apply (acquiresNothing_fetchId hknown event).bind
      intro fetched
      cases fetched with
      | error e => exact .done _
      | ok deviceId =>
          apply Confined.bind
          · rw [withToken]
            split
            · exact .done _
            · exact .call id fun _ => .done _
          · exact fun _ => .done _

omit hbrought in
theorem acquiresNothing_publishEvents (results : List EventResult) (context : Context)
    (event : SDKEventBatch) : AcquiresNothing (publishEvents X g results context event) := by
  refine .call id fun now => .call id fun answer => ?_
  cases answer with
  | error canceled => exact .done _
  | ok delivery => exact .call id fun _ => .call id fun _ => .done _

omit hbrought in
theorem acquiresNothing_respond (res : Except Failure (SDKResponse × Context)) :
    AcquiresNothing (respond X g res) := by
  apply (confined_respond X g res).mono
  intro c hanswering hacquiring
  cases c with
  | inc counter amount => cases counter <;> first | exact hanswering | exact hacquiring
  | log line => cases line <;> first | exact hanswering | exact hacquiring
  | _ => exact hanswering

/-- A request that brings an id acquires none. -/
theorem acquiresNothing_handleSdk : AcquiresNothing (handleSdk X g incoming) := by
  have hhandled : ∀ body event,
      AcquiresNothing (handleEvent X g body event incoming.headers) := by
    intro body event
    obtain ⟨context, hcontext, hknown⟩ := exists_context_of_brought hbrought
      event.environment.appId event.device.getPlatform
    rw [handleEvent]
    simp only [hcontext, liftPanic_ok, bind_eq_bind, done_bind]
    split
    · exact .done _
    · apply Confined.call id
      intro apps
      simp only [done_bind]
      split
      · exact .done _
      · apply (acquiresNothing_generateEventResults hknown event).bind
        intro generated
        cases generated with
        | error e => exact .done _
        | ok prepared => exact acquiresNothing_publishEvents _ _ _
  apply Confined.bind
  · rw [handleBody]
    split
    · exact .done _
    · split
      · exact hhandled _ _
      · exact .done _
  · exact acquiresNothing_respond

end

variable {encoder : TextEncoder} {req : HttpRequest}

theorem confined_service_of_brought {deviceId : DeviceId}
    (hbrought : Context.deviceIdOf X g.secret req.incoming.headers = .ok (some deviceId)) :
    Confined (S := ServiceCalls) (Sum.elim (fun c => ¬ Call.IsAcquiring c) fun _ => True)
      (service X g encoder req) := by
  by_cases hroute : req.route = .sdkEvents
  · rw [service_of_sdkEvents _ _ _ hroute]
    exact (acquiresNothing_handleSdk hbrought).left _
  · apply (confined_service hroute).mono
    rintro (c | _) hcounts
    · cases c with
      | inc counter amount => cases counter <;> first | exact hcounts.elim | exact id
      | _ => exact hcounts.elim
    · trivial

/-! ## What is published and handed out -/

namespace Publication

variable (p : Publication X g incoming)

theorem context'_appId : p.context'.appId = p.event.environment.appId := by
  have happId : p.context.appId = p.event.environment.appId := by
    obtain ⟨_, _, hcontext⟩ := Context.new_eq_ok_iff.mp p.accepts.context_new
    rw [hcontext]
  have hprepares := p.prepares
  generalize p.context' = context' at hprepares ⊢
  generalize p.results = results at hprepares
  generalize p.pre = pre at hprepares
  cases hprepares with
  | plain _ => exact happId
  | registration _ _ => exact happId

/-- With an id in the context it is published under, a record is for it. -/
theorem record_isFor {deviceId : DeviceId} (h : p.context'.deviceId = some deviceId) :
    p.record.IsFor deviceId.cleartext := by
  constructor
  · rw [record, publishedRecord_recipientId, SDKEventBatch.recipientFor, h]
  · rw [record, publishedRecord_key, Kafka.routingKey, h, p.context'_appId]
    rfl

/-- An id that was brought is published under, and its text handed out again. -/
theorem of_brought {deviceId : DeviceId}
    (hbrought : Context.deviceIdOf X g.secret incoming.headers = .ok (some deviceId)) :
    p.context'.deviceId = some deviceId ∧
      ∀ data ∈ p.results.filterMap EventResult.registrationData,
        data.deviceId = deviceId.ciphertext := by
  have hknown : p.context.deviceId = some deviceId := by
    obtain ⟨_, hread, hcontext⟩ := Context.new_eq_ok_iff.mp p.accepts.context_new
    rw [hcontext]
    exact Except.ok.inj (hread.symm.trans hbrought)
  have hprepares := p.prepares
  generalize p.context' = context' at hprepares ⊢
  generalize p.results = results at hprepares ⊢
  generalize p.pre = pre at hprepares
  cases hprepares with
  | plain _ => exact ⟨hknown, by simp [EventResult.new]⟩
  | registration _ hregisters =>
      cases hregisters with
      | known hsame _ =>
          obtain rfl := Option.some.inj (hsame.symm.trans hknown)
          exact ⟨rfl, by simp [registrationResults, EventResult.register]⟩
      | acquired hunknown _ _ =>
          rw [hknown] at hunknown
          cases hunknown

/-- One text is handed out. -/
theorem handed_unique {data data' : RegistrationData}
    (h : data ∈ p.results.filterMap EventResult.registrationData)
    (h' : data' ∈ p.results.filterMap EventResult.registrationData) : data = data' := by
  have hprepares := p.prepares
  generalize p.context' = context' at hprepares
  generalize p.results = results at hprepares h h'
  generalize p.pre = pre at hprepares
  cases hprepares with
  | plain _ => simp [EventResult.new] at h
  | registration _ _ =>
      simp only [registrationResults, EventResult.register, List.filterMap_cons,
        List.filterMap_nil, List.mem_singleton] at h h'
      rw [h, h']

theorem reports_acquire_nothing : ∀ e ∈ p.reports, ¬ e.call.IsAcquiring := by
  intro e he
  simp only [reports, deliveryReport, List.mem_cons, List.not_mem_nil, or_false] at he
  rcases he with rfl | rfl <;> exact id

end Publication

/-- What is handed out are the results of a publication, and of one that went
through. -/
theorem exists_publication_of_handed {t : List (Event ServiceCalls)} {response : Response}
    (h : Runs (service X g encoder req) t (.returned response)) {data : RegistrationData}
    (hdata : data ∈ response.registrationData) :
    ∃ p : Publication X g req.incoming, ∃ delivery last,
      t = (p.before ++ (⟨Call.send p.record, .ok delivery⟩ : Event Calls) :: last).map Event.left ∧
      (∀ e ∈ last, ¬ e.call.IsAcquiring ∧ ∀ record, e.call ≠ Call.send record) ∧
      response.registrationData = p.results.filterMap EventResult.registrationData := by
  by_cases hroute : req.route = .sdkEvents
  · rw [service_of_sdkEvents _ _ _ hroute] at h
    obtain ⟨t, rfl, hruns⟩ := runs_left_iff.mp h
    rcases runs_handleSdk_publication X g hruns with ⟨_, hrefused⟩ |
      ⟨p, second, ⟨delivery, rfl, hrespond⟩ | ⟨_, _, hrespond⟩⟩
    · rw [(hrefused response rfl).2] at hdata
      cases hdata
    · obtain ⟨builder, _, rfl⟩ := exists_builder_of_runs_respond X g hrespond
      refine ⟨p, delivery, _, rfl, fun e he => ⟨?_, p.reports_send_nothing
        (respond_sends_nothing X g hrespond) e he⟩, rfl⟩
      rcases List.mem_append.mp he with he | he
      · exact p.reports_acquire_nothing e he
      · exact (acquiresNothing_respond _).of_steps hrespond e he
    · rw [(runs_respond_error X g hrespond).2] at hdata
      cases hdata
  · rw [registrationData_of_service hroute h] at hdata
    cases hdata

/-- What is handed out opens to an id, and can be sent as a header. -/
theorem exists_decrypt_of_handed (hhttp : X.http.Documented) (hX : X.DocumentedIds)
    {t : List (Event ServiceCalls)} {response : Response}
    (h : Runs (service X g encoder req) t (.returned response)) {data : RegistrationData}
    (hdata : data ∈ response.registrationData) :
    ∃ d, Cleartext.decrypt X g.secret data.deviceId = .ok (.ok d) ∧
      ∀ b ∈ asBytes data.deviceId.value, isVisibleAscii b := by
  obtain ⟨p, _, _, _, _, hresults⟩ := exists_publication_of_handed h hdata
  rw [hresults] at hdata
  obtain ⟨d, hregisters, _⟩ := p.registers_of_mem hdata
  exact ⟨d, hregisters.decrypts hhttp hX p.accepts.context_new⟩

/-- A record is handed over by a publication. -/
theorem exists_publication_of_sent {t : List (Event ServiceCalls)}
    {p : Program ServiceCalls Response} (h : Steps (service X g encoder req) t p)
    {record : FutureRecord} {answer : SendResult}
    (hsent : (⟨.inl (.send record), answer⟩ : Event ServiceCalls) ∈ t) :
    ∃ p : Publication X g req.incoming, record = p.record := by
  obtain ⟨hroute, _⟩ := accepts_of_service h hsent trivial
  obtain ⟨rest, r, _, hruns⟩ := h.exists_runs
  rw [service_of_sdkEvents _ _ _ hroute] at hruns
  obtain ⟨t', htrace, hruns⟩ := runs_left_iff.mp hruns
  obtain ⟨⟨c, given⟩, hmem, heq⟩ :=
    List.mem_map.mp (htrace ▸ List.mem_append_left rest hsent)
  cases heq
  obtain ⟨p, hrecord, _⟩ := exists_publication_of_send X g hruns hmem
  exact ⟨p, hrecord⟩

end Gateway

/-! ## Sessions -/

section

variable {ι σ : Type}

/-- The request has ended, and was handed the ciphertext. -/
def HandedTo (Q : Pool ServiceCalls ι σ Response) (j : ι) (c : Ciphertext) : Prop :=
  ∃ response data, Q.threads j = ofOutcome (.returned response) ∧
    data ∈ response.registrationData ∧ data.deviceId = c

/-- The requests of one device, as far as the gateway can tell: the first one, and
each that brings what one of them was handed. -/
inductive Session (requests : ι → HttpRequest) (Q : Pool ServiceCalls ι σ Response) (start : ι) :
    ι → Prop
  | start : Session requests Q start start
  | next {i j : ι} {c : Ciphertext} (hsession : Session requests Q start i)
      (hhanded : HandedTo Q i c) (hbrings : (requests j).incoming.headers.Brings c) :
      Session requests Q start j

/-- Whatever the request publishes is for the id, and whatever it is handed is the
text. -/
structure SpeaksFor (history : List (ι × Event ServiceCalls))
    (Q : Pool ServiceCalls ι σ Response) (j : ι) (c : Ciphertext) (d : Cleartext) : Prop where
  published : ∀ record answer,
    (j, (⟨.inl (.send record), answer⟩ : Event ServiceCalls)) ∈ history → record.IsFor d
  handed : ∀ c', HandedTo Q j c' → c' = c

end

section

variable {ι σ : Type} [DecidableEq ι] {X : Crates} {g : Gateway.Globals} {encoder : TextEncoder}
  {W : World ServiceCalls σ} {requests : ι → HttpRequest}
  {P Q : Pool ServiceCalls ι σ Response} {history : List (ι × Event ServiceCalls)}
  (hthreads : ∀ j, P.threads j = Gateway.service X g encoder (requests j))
  (hrun : Pool.Run W P history Q)

include hthreads hrun

/-- What a request has been handed comes with the publication its calls have made. -/
theorem HandedTo.exists_publication {j : ι} {c : Ciphertext} (h : HandedTo Q j c) :
    ∃ p : Gateway.Publication X g (requests j).incoming, ∃ delivery last,
      Pool.own j history =
        (p.before ++ (⟨Call.send p.record, .ok delivery⟩ : Event Calls) :: last).map Event.left ∧
      (∀ e ∈ last, ¬ e.call.IsAcquiring ∧ ∀ record, e.call ≠ Call.send record) ∧
      ∃ data ∈ p.results.filterMap EventResult.registrationData, data.deviceId = c := by
  obtain ⟨response, data, hended, hdata, rfl⟩ := h
  have hruns := hrun.runs hended
  rw [hthreads] at hruns
  obtain ⟨p, delivery, last, hown, hlast, hresults⟩ :=
    Gateway.exists_publication_of_handed hruns hdata
  rw [hresults] at hdata
  exact ⟨p, delivery, last, hown, hlast, data, hdata, rfl⟩

/-- A request is handed one text. -/
theorem HandedTo.unique {j : ι} {c c' : Ciphertext} (h : HandedTo Q j c) (h' : HandedTo Q j c') :
    c = c' := by
  obtain ⟨response, data, hended, hdata, rfl⟩ := h
  obtain ⟨response', data', hended', hdata', rfl⟩ := h'
  obtain rfl := Outcome.returned.inj (ofOutcome_inj.mp (hended.symm.trans hended'))
  have hruns := hrun.runs hended
  rw [hthreads] at hruns
  obtain ⟨p, _, _, _, _, hresults⟩ := Gateway.exists_publication_of_handed hruns hdata
  rw [hresults] at hdata hdata'
  rw [p.handed_unique hdata hdata']

/-- A request that brings an id speaks for it. -/
theorem speaksFor_of_brought {j : ι} {deviceId : DeviceId}
    (hbrought : Context.deviceIdOf X g.secret (requests j).incoming.headers = .ok (some deviceId)) :
    SpeaksFor history Q j deviceId.ciphertext deviceId.cleartext := by
  constructor
  · intro record answer hsent
    have hsteps := hrun.steps j
    rw [hthreads] at hsteps
    obtain ⟨p, rfl⟩ := Gateway.exists_publication_of_sent hsteps (Pool.mem_own_iff.mpr hsent)
    exact p.record_isFor (p.of_brought hbrought).1
  · intro c hhanded
    obtain ⟨p, _, _, _, _, data, hdata, rfl⟩ := hhanded.exists_publication hthreads hrun
    exact (p.of_brought hbrought).2 data hdata

/-- A request that was handed a ciphertext speaks for the id sealed in it. -/
theorem speaksFor_of_handed (hhttp : X.http.Documented) (hX : X.DocumentedIds) {j : ι}
    {c : Ciphertext} (h : HandedTo Q j c) :
    ∃ d, Cleartext.decrypt X g.secret c = .ok (.ok d) ∧
      (∀ b ∈ asBytes c.value, isVisibleAscii b) ∧ SpeaksFor history Q j c d := by
  obtain ⟨p, delivery, last, hown, hlast, data, hdata, rfl⟩ :=
    h.exists_publication hthreads hrun
  obtain ⟨d, hregisters, hcontext'⟩ := p.registers_of_mem hdata
  obtain ⟨hdecrypt, hvisible⟩ := hregisters.decrypts hhttp hX p.accepts.context_new
  refine ⟨d, hdecrypt, hvisible, fun record answer hsent => ?_,
    fun c' hhanded => hhanded.unique hthreads hrun h⟩
  rw [← Pool.mem_own_iff, hown] at hsent
  obtain ⟨⟨call, given⟩, hmem, heq⟩ := List.mem_map.mp hsent
  cases heq
  obtain ⟨rfl, _⟩ := p.send_unique (fun e he => (hlast e he).2) hmem
  exact p.record_isFor (by rw [hcontext']; rfl)

/-- Every request of a session speaks for the one id, and brings it unless it is the
first. -/
theorem Session.speaksFor (hhttp : X.http.Documented) (hX : X.DocumentedIds) {start : ι}
    {c : Ciphertext} (hstart : HandedTo Q start c) :
    ∃ d, Cleartext.decrypt X g.secret c = .ok (.ok d) ∧
      ∀ j, Session requests Q start j → SpeaksFor history Q j c d ∧ (j = start ∨
        Context.deviceIdOf X g.secret (requests j).incoming.headers = .ok (some ⟨c, d⟩)) := by
  obtain ⟨d, hdecrypt, hvisible, hspeaks⟩ := speaksFor_of_handed hthreads hrun hhttp hX hstart
  refine ⟨d, hdecrypt, fun j hsession => ?_⟩
  induction hsession with
  | start => exact ⟨hspeaks, Or.inl rfl⟩
  | next _ hhanded hbrings ih =>
      obtain rfl := ih.1.handed _ hhanded
      have hbrought := hbrings.deviceIdOf hhttp hvisible hdecrypt
      exact ⟨speaksFor_of_brought hthreads hrun hbrought, Or.inr hbrought⟩

/-- In every run of any HTTP requests, in any interleaving and any world: what the
first request of a session was handed opens to an id, and every request of the
session publishes its records for that id, is handed that very text if it is handed
any, and, after the first, enters no blocking section, asks no store and draws no id
or nonce. -/
theorem session_keeps_identity (hhttp : X.http.Documented) (hX : X.DocumentedIds) {start : ι}
    {c : Ciphertext} (hstart : HandedTo Q start c) :
    ∃ d, Cleartext.decrypt X g.secret c = .ok (.ok d) ∧
      ∀ j, Session requests Q start j →
        SpeaksFor history Q j c d ∧
        (j ≠ start → ∀ call (answer : Calls.Answer call),
          (j, (⟨.inl call, answer⟩ : Event ServiceCalls)) ∈ history → ¬ call.IsAcquiring) := by
  obtain ⟨d, hdecrypt, hspec⟩ := Session.speaksFor hthreads hrun hhttp hX hstart
  refine ⟨d, hdecrypt, fun j hsession => ⟨(hspec j hsession).1, fun hne call answer hmem => ?_⟩⟩
  have hbrought := (hspec j hsession).2.resolve_left hne
  have hsteps := hrun.steps j
  rw [hthreads] at hsteps
  exact (Gateway.confined_service_of_brought hbrought).of_steps hsteps _
    (Pool.mem_own_iff.mpr hmem)

end

/-- A request that opens the application and brings an id is published. -/
theorem Reference.sends_of_brought {value : HeaderValue} {deviceId : DeviceId}
    (h : Context.deviceIdOf crates secret [(.xorcDeviceId, value)] = .ok (some deviceId)) :
    ∃ record answer, (⟨Call.send record, answer⟩ : Event Calls) ∈
      (handled (post openBody [(.xorcDeviceId, value)]) working).1 := by
  let incoming := post openBody [(.xorcDeviceId, value)]
  have hcontext : ∀ {platform context}, Context.new crates globals.secret
      [(.xorcDeviceId, value)] appId platform = .ok context →
      context.deviceId = some deviceId ∧ context.apiToken = none := by
    intro platform context hnew
    obtain ⟨read, hread, rfl⟩ := Context.new_eq_ok_iff.mp hnew
    exact ⟨Except.ok.inj (hread.symm.trans h), rfl⟩
  have hloaded : ∀ apps, (⟨Call.loadApps, apps⟩ : Event Calls) ∈ (handled incoming working).1 →
      apps appId = some (AppRegistry.ofRow crates row) := by
    intro apps hmem
    rw [answer_eq_of_mem_exec hmem]
    rfl
  have hbody : incoming.body = some (asBytes openBody) := rfl
  have hrun := runs_handled incoming working
  generalize handled incoming working = handled at hrun hloaded ⊢
  rcases Gateway.runs_handleSdk _ _ hrun with ⟨_, hnone, _⟩ |
    ⟨body, event, hbody', hevent, hhandled⟩
  · rw [hbody, Option.bind_some, fromSlice_openBody] at hnone
    cases hnone
  obtain rfl := Option.some.inj (hbody.symm.trans hbody')
  obtain rfl := Option.some.inj (fromSlice_openBody.symm.trans hevent)
  rcases hhandled with ⟨res, first, second, htrace, hhandles, _⟩ | ⟨hhandles, _⟩
  · rw [htrace] at hloaded ⊢
    have hfound : ∀ (before after : List (Event Calls)) (now sent : Event Calls),
        sent ∈ before ++ now :: sent :: after ++ second := by simp
    cases hhandles with
    | originRefused _ horigin => cases horigin
    | blocked haccepts _ hunknown =>
        rw [(hcontext haccepts.context_new).1] at hunknown
        cases hunknown
    | @invalid context apps e hnew _ hinvalid =>
        have hvalid : (AppRegistry.mk globals.config.gateway.allowEmptySignature apps).validate
            crates globals.config openBatch context (asBytes openBody) = .ok () := by
          apply AppRegistry.validate_eq_ok_iff.mpr
          refine ⟨_, hloaded apps (by simp), ?_, by simp [openBatch], Or.inl rfl⟩
          intro token htoken
          rw [(hcontext hnew).2] at htoken
          cases htoken
        rw [hvalid] at hinvalid
        cases hinvalid
    | published _ _ => exact ⟨_, _, hfound _ _ _ _⟩
    | canceled _ _ => exact ⟨_, _, hfound _ _ _ _⟩
  · exact absurd hhandles (Gateway.not_handles_panicked aead_documented uuid_documented
      (Context.new_eq_ok_iff.mpr ⟨_, h, rfl⟩))

/-- A registration, and a later request of the device. -/
def Reference.returning (headers : HeaderMap) : Bool → HttpRequest
  | false => {
      method := .post
      path := "/xray/events/xorc/sdk/v1"
      incoming := post registerBody [] }
  | true => {
      method := .post
      path := "/xray/events/xorc/sdk/v1"
      incoming := post openBody headers }

/-- An answer that hands out anything hands out a text. -/
theorem Reference.exists_handed {outcome : Outcome Response}
    (h : outcome.any (fun response => !response.registrationData.isEmpty) = true) :
    ∃ response data, outcome = .returned response ∧ data ∈ response.registrationData := by
  obtain ⟨response, hresponse, hnonempty⟩ := Outcome.any_eq_true.mp h
  simp only [Bool.not_eq_true', List.isEmpty_eq_false_iff] at hnonempty
  obtain ⟨data, hdata⟩ := List.exists_mem_of_ne_nil _ hnonempty
  exact ⟨response, data, hresponse, hdata⟩

/-- The device comes back with the text, and its record is for the id it opens to. -/
theorem returning_device_keeps_id : ∃ headers history Q c d record answer,
    Pool.Run countersWorld ⟨fun _ => 0, fun j => Gateway.service Reference.crates
      Reference.globals Reference.encoder (Reference.returning headers j)⟩ history Q ∧
    HandedTo Q false c ∧ headers.Brings c ∧
    Cleartext.decrypt Reference.crates Reference.secret c = .ok (.ok d) ∧
    (true, (⟨.inl (.send record), answer⟩ : Event ServiceCalls)) ∈ history ∧
    record.IsFor d := by
  have hhanded : (Reference.handled (Reference.post Reference.registerBody [])
      Reference.working).2.any (fun response => !response.registrationData.isEmpty) = true := by
    decide +kernel
  obtain ⟨response, data, hresponse, hdata⟩ := Reference.exists_handed hhanded
  let handled : HttpRequest → List (Event Calls) × Outcome Response := fun req =>
    Reference.handledBy Reference.globals req.incoming Reference.working
  have hruns : ∀ headers j, Runs (Gateway.service Reference.crates Reference.globals
      Reference.encoder (Reference.returning headers j))
      ((handled (Reference.returning headers j)).1.map Event.left)
      (handled (Reference.returning headers j)).2 := by
    intro headers j
    apply Reference.runs_service
    cases j <;> rfl
  have hregistered : ∀ headers, (handled (Reference.returning headers false)).2 =
      .returned response := fun _ => hresponse
  have hsends : ∀ value deviceId, Context.deviceIdOf Reference.crates Reference.secret
      [(.xorcDeviceId, value)] = .ok (some deviceId) → ∃ record answer,
        (⟨Call.send record, answer⟩ : Event Calls) ∈
          (handled (Reference.returning [(.xorcDeviceId, value)] true)).1 :=
    fun _ _ => Reference.sends_of_brought
  clear_value handled
  have hfirst := hruns [] false
  rw [hregistered] at hfirst
  obtain ⟨d', hdecrypt', hvisible⟩ := Gateway.exists_decrypt_of_handed Reference.http_documented
    Reference.crates_documentedIds hfirst hdata
  obtain ⟨value, _, hbytes⟩ := Reference.http_documented.fromStr_eq_some _ hvisible
  let headers : HeaderMap := [(.xorcDeviceId, value)]
  have hbrings : headers.Brings data.deviceId := ⟨value, rfl, hbytes⟩
  obtain ⟨record, answer, hsent⟩ := hsends value _
    (hbrings.deviceIdOf Reference.http_documented hvisible hdecrypt')
  -- the registration first, then the request that brings what it was handed
  let threads : Bool → Program ServiceCalls Response := fun j =>
    Gateway.service Reference.crates Reference.globals Reference.encoder
      (Reference.returning headers j)
  have hrun : Pool.Run countersWorld ⟨fun _ => 0, threads⟩ _ ⟨_, _⟩ :=
    Pool.run_two_threads (show true ≠ false by decide) (hruns headers false) (hruns headers true)
      (evolves_countersWorld (fun _ => 0) _) (evolves_countersWorld _ _)
  have hhanded : ∀ counters : MetricFamilies, HandedTo ⟨counters, Function.update
      (Function.update threads false (ofOutcome (handled (Reference.returning headers false)).2))
      true (ofOutcome (handled (Reference.returning headers true)).2)⟩ false data.deviceId :=
    fun _ => ⟨response, data, by simp [hregistered], hdata, rfl⟩
  obtain ⟨d, hdecrypt, hsession⟩ := session_keeps_identity (fun _ => rfl) hrun
    Reference.http_documented Reference.crates_documentedIds (hhanded _)
  have hmade : (true, (⟨.inl (.send record), answer⟩ : Event ServiceCalls)) ∈
      ((handled (Reference.returning headers false)).1.map Event.left).map (Prod.mk false) ++
        ((handled (Reference.returning headers true)).1.map Event.left).map (Prod.mk true) :=
    List.mem_append_right _ (List.mem_map_of_mem (List.mem_map_of_mem (f := Event.left) hsent))
  exact ⟨headers, _, _, data.deviceId, d, record, answer, hrun, hhanded _, hbrings, hdecrypt,
    hmade, (hsession true (.next .start (hhanded _) hbrings)).1.published record answer hmade⟩

end XorcGateway
