/-
# What a request does

The complete runs of the request pipeline, by where they end. `Handles` lists
the runs of `handleEvent`, one constructor for each way out of the chain, and
`runs_handleSdk` puts the parsing in front of it and the response behind it.
Claims about the pipeline are case analyses over these descriptions.
-/

import XorcGateway.Semantics.Registration

namespace XorcGateway.Gateway

open Effects Events Rust Program

variable (X : Crates) (g : Globals)

/-! ## Publishing -/

/-- The record a batch is published as. -/
def publishedRecord (now : ℤ) (context : Context) (event : SDKEventBatch) : FutureRecord :=
  Kafka.recordFor g.config (event.intoProto X now context) context

/-- What is logged and counted once the producer's future has not failed. -/
def deliveryReport (results : List EventResult) (event : SDKEventBatch) : List (Event Calls) :=
  [⟨Call.log (.sentDownstream event.events.length), ()⟩,
    ⟨Call.inc .events results.length, ()⟩]

/-- Publishing reads the clock and hands over one record; only a failed future
is an error. -/
theorem runs_publishEvents {results : List EventResult} {context : Context}
    {event : SDKEventBatch} {t : List (Event Calls)}
    {r : Outcome (Except Failure (SDKResponse × Context))}
    (h : Runs (publishEvents X g results context event) t r) :
    ∃ now, (∃ delivery, t = ⟨Call.utcNow, now⟩ ::
          ⟨Call.send (publishedRecord X g now context event), .ok delivery⟩ ::
            deliveryReport results event ∧
        r = .returned (.ok (⟨results⟩, context))) ∨
      ∃ canceled, t = [⟨Call.utcNow, now⟩,
          ⟨Call.send (publishedRecord X g now context event), .error canceled⟩] ∧
        r = .returned (.error (.serviceUnavailable "Could not send to kafka", none)) := by
  simp only [publishEvents, Kafka.publish, perform, Program.perform, bind_eq_bind, call_bind,
    done_bind, pure_eq_done, runs_call_iff] at h
  obtain ⟨now, _, rfl, answer, rest, rfl, h⟩ := h
  refine ⟨now, ?_⟩
  cases answer with
  | ok delivery =>
      simp only [done_bind, runs_call_iff, runs_done_iff] at h
      obtain ⟨_, _, rfl, _, _, rfl, rfl, rfl⟩ := h
      exact Or.inl ⟨delivery, rfl, rfl⟩
  | error canceled =>
      simp only [done_bind, runs_done_iff] at h
      obtain ⟨rfl, rfl⟩ := h
      exact Or.inr ⟨canceled, rfl, rfl⟩

/-! ## Preparing the results -/

/-- The ways to the results of an accepted batch, with the context they leave
for publishing. -/
inductive Prepares (context : Context) (event : SDKEventBatch) :
    List (Event Calls) → List EventResult → Context → Prop
  | plain (h : findRegisterEvent event = none) :
      Prepares context event [] (event.events.map fun e => EventResult.new e.id .success) context
  | registration {eventId : String} {t : List (Event Calls)} {deviceId : DeviceId}
      {token : Option String} (h : findRegisterEvent event = some eventId)
      (hregisters : Registers X g context event t deviceId token) :
      Prepares context event t (registrationResults eventId deviceId token)
        (registered context deviceId token)

section

variable {X g} {context context' : Context} {event : SDKEventBatch} {t : List (Event Calls)}
  {results : List EventResult}

/-- Preparing a batch stays clear of the producer and of everything reported
about it; it is not refused its blocking section. -/
theorem Prepares.calls (h : Prepares X g context event t results context') :
    ∀ e ∈ t, e.call.InSection ∨ e.call = Call.loadApps ∨ e = ⟨Call.blocking, .ok ()⟩ := by
  intro e he
  cases h with
  | plain _ => simp at he
  | registration _ hregisters =>
      cases hregisters with
      | known _ htoken => exact Or.inr (Or.inl (htoken.loads e he))
      | acquired _ hget htoken =>
          rcases List.mem_append.mp he with he | he
          · rcases List.mem_cons.mp he with rfl | he
            · exact Or.inr (Or.inr rfl)
            · exact Or.inl ((confined_getId X g _ _ _).of_steps hget e he)
          · exact Or.inr (Or.inl (htoken.loads e he))

end

theorem runs_generateEventResults {context : Context} {event : SDKEventBatch}
    {t : List (Event Calls)}
    {r : Outcome (Except GatewayError (List EventResult × Context × SDKEventBatch))}
    (h : Runs (generateEventResults X g context event) t r) :
    (∃ results context', Prepares X g context event t results context' ∧
        r = .returned (.ok (results, context', event))) ∨
      (∃ eventId, findRegisterEvent event = some eventId) ∧ context.deviceId = none ∧
        ((∃ e, t = [⟨Call.blocking, .error e⟩] ∧
            r = .returned (.error (.serviceUnavailable "Aerospike is acting slow today"))) ∨
          ∃ get, t = ⟨Call.blocking, .ok ()⟩ :: get ∧ r = .panicked ∧
            Runs (getId X g context.appId event.device.ifa event.device.ifaTrackingEnabled)
              get .panicked) := by
  rw [generateEventResults] at h
  cases hregister : findRegisterEvent event with
  | none =>
      simp only [hregister, pure_eq_done, runs_done_iff] at h
      obtain ⟨rfl, rfl⟩ := h
      exact Or.inl ⟨_, _, .plain hregister, rfl⟩
  | some eventId =>
      simp only [hregister] at h
      rcases runs_createNewDevice X g h with ⟨deviceId, token, hregisters, hr⟩ | ⟨hunknown, hfail⟩
      · exact Or.inl ⟨_, _, .registration hregister hregisters, hr⟩
      · exact Or.inr ⟨⟨eventId, rfl⟩, hunknown, hfail⟩

/-! ## Handling a parsed batch -/

/-- A batch gets past the origin check and validation, against the table the
request finds. -/
structure Accepts (body : List UInt8) (event : SDKEventBatch) (headers : HeaderMap)
    (apps : HashMap String Application) (context : Context) : Prop where
  context_new : Context.new X g.secret headers event.environment.appId event.device.getPlatform =
    .ok context
  origin : refusesOrigin X g headers event = false
  valid : (AppRegistry.mk g.config.gateway.allowEmptySignature apps).validate X g.config event
    context body = .ok ()

/-- The complete runs of `handleEvent`. -/
inductive Handles (body : List UInt8) (event : SDKEventBatch) (headers : HeaderMap) :
    List (Event Calls) → Outcome (Except Failure (SDKResponse × Context)) → Prop
  | contextPanics {panic : Panic}
      (hcontext : Context.new X g.secret headers event.environment.appId
        event.device.getPlatform = .error panic) :
      Handles body event headers [] .panicked
  | originRefused {context : Context}
      (hcontext : Context.new X g.secret headers event.environment.appId
        event.device.getPlatform = .ok context)
      (horigin : refusesOrigin X g headers event = true) :
      Handles body event headers [] (.returned (.error (.unknownOrigin, some context)))
  | invalid {context : Context} {apps : HashMap String Application} {e : GatewayError}
      (hcontext : Context.new X g.secret headers event.environment.appId
        event.device.getPlatform = .ok context)
      (horigin : refusesOrigin X g headers event = false)
      (hinvalid : (AppRegistry.mk g.config.gateway.allowEmptySignature apps).validate X g.config
        event context body = .error e) :
      Handles body event headers [⟨Call.loadApps, apps⟩] (.returned (.error (e, some context)))
  | blocked {context : Context} {apps : HashMap String Application} {eventId : String}
      {e : BlockingError} (haccepts : Accepts X g body event headers apps context)
      (hregister : findRegisterEvent event = some eventId) (hunknown : context.deviceId = none) :
      Handles body event headers [⟨Call.loadApps, apps⟩, ⟨Call.blocking, .error e⟩]
        (.returned (.error (.serviceUnavailable "Aerospike is acting slow today", none)))
  | sectionPanics {context : Context} {apps : HashMap String Application}
      {get : List (Event Calls)} (haccepts : Accepts X g body event headers apps context)
      (hget : Runs (getId X g context.appId event.device.ifa event.device.ifaTrackingEnabled)
        get .panicked) :
      Handles body event headers (⟨Call.loadApps, apps⟩ :: ⟨Call.blocking, .ok ()⟩ :: get)
        .panicked
  | published {context context' : Context} {apps : HashMap String Application}
      {pre : List (Event Calls)} {results : List EventResult} {now : ℤ}
      {delivery : Except KafkaError (Int32 × Int64)}
      (haccepts : Accepts X g body event headers apps context)
      (hprepares : Prepares X g context event pre results context') :
      Handles body event headers
        (⟨Call.loadApps, apps⟩ :: pre ++ ⟨Call.utcNow, now⟩ ::
          ⟨Call.send (publishedRecord X g now context' event), .ok delivery⟩ ::
            deliveryReport results event)
        (.returned (.ok (⟨results⟩, context')))
  | canceled {context context' : Context} {apps : HashMap String Application}
      {pre : List (Event Calls)} {results : List EventResult} {now : ℤ} {canceled : Canceled}
      (haccepts : Accepts X g body event headers apps context)
      (hprepares : Prepares X g context event pre results context') :
      Handles body event headers
        (⟨Call.loadApps, apps⟩ :: pre ++ [⟨Call.utcNow, now⟩,
          ⟨Call.send (publishedRecord X g now context' event), .error canceled⟩])
        (.returned (.error (.serviceUnavailable "Could not send to kafka", none)))

theorem runs_handleEvent {body : List UInt8} {event : SDKEventBatch} {headers : HeaderMap}
    {t : List (Event Calls)} {r : Outcome (Except Failure (SDKResponse × Context))}
    (h : Runs (handleEvent X g body event headers) t r) :
    Handles X g body event headers t r := by
  rw [handleEvent] at h
  cases hcontext : Context.new X g.secret headers event.environment.appId
      event.device.getPlatform with
  | error panic =>
      simp only [hcontext, liftPanic_error, bind_eq_bind, panic_bind, runs_panic_iff] at h
      obtain ⟨rfl, rfl⟩ := h
      exact .contextPanics hcontext
  | ok context =>
      simp only [hcontext, liftPanic_ok, bind_eq_bind, done_bind] at h
      cases horigin : refusesOrigin X g headers event with
      | true =>
          rw [if_pos horigin] at h
          obtain ⟨rfl, rfl⟩ := runs_done_iff.mp h
          exact .originRefused hcontext horigin
      | false =>
          simp only [horigin, Bool.false_eq_true, if_false, perform, Program.perform, call_bind,
            done_bind, runs_call_iff] at h
          obtain ⟨apps, rest, rfl, h⟩ := h
          cases hvalid : (AppRegistry.mk g.config.gateway.allowEmptySignature apps).validate X
              g.config event context body with
          | error e =>
              simp only [hvalid, pure_eq_done, runs_done_iff] at h
              obtain ⟨rfl, rfl⟩ := h
              exact .invalid hcontext horigin hvalid
          | ok _ =>
              have haccepts : Accepts X g body event headers apps context :=
                ⟨hcontext, horigin, hvalid⟩
              simp only [hvalid] at h
              rcases runs_bind_iff.mp h with ⟨_, pre, rest, rfl, hpre, hrest⟩ | ⟨hpanic, rfl⟩
              · rcases runs_generateEventResults X g hpre with ⟨results, context', hprepares, hr⟩ |
                  ⟨⟨eventId, hregister⟩, hunknown, ⟨e, rfl, hr⟩ | ⟨_, _, hr, _⟩⟩
                · cases hr
                  obtain ⟨now, ⟨delivery, rfl, rfl⟩ | ⟨canceled, rfl, rfl⟩⟩ :=
                    runs_publishEvents X g hrest
                  · exact .published haccepts hprepares
                  · exact .canceled haccepts hprepares
                · cases hr
                  obtain ⟨rfl, rfl⟩ := runs_done_iff.mp hrest
                  exact .blocked haccepts hregister hunknown
                · cases hr
              · rcases runs_generateEventResults X g hpanic with ⟨_, _, _, hr⟩ |
                  ⟨_, _, ⟨_, _, hr⟩ | ⟨get, rfl, _, hget⟩⟩
                · cases hr
                · cases hr
                · exact .sectionPanics haccepts hget

variable {X g} in
/-- With the documented crates, handling a batch panics only where building its
context does. -/
theorem not_handles_panicked (haead : X.aead.Documented) (huuid : X.uuid.Documented)
    {body : List UInt8} {event : SDKEventBatch} {headers : HeaderMap} {t : List (Event Calls)}
    {context : Context}
    (hcontext : Context.new X g.secret headers event.environment.appId
      event.device.getPlatform = .ok context) :
    ¬ Handles X g body event headers t .panicked := by
  intro h
  cases h with
  | contextPanics hpanics =>
      rw [hcontext] at hpanics
      cases hpanics
  | sectionPanics _ hget =>
      obtain ⟨_, _, _, hreturned⟩ := runs_getId X g haead huuid hget
      cases hreturned

/-! ## The response -/

/-- The calls made while a response is built. -/
def IsAnswering : Call → Prop
  | .log (.responseError _) => True
  | .inc (.requests _ _) _ => True
  | _ => False

theorem confined_respond (res : Except Failure (SDKResponse × Context)) :
    Confined IsAnswering (respond X g res) := by
  cases res with
  | ok answer =>
      exact (confined_liftPanic _).bind fun builder => .call (by trivial) fun _ => .done _
  | error failure =>
      exact .call (by trivial) fun _ =>
        (confined_liftPanic _).bind fun response => .call (by trivial) fun _ => .done _

/-- The context the headers of an answer are made from. -/
def contextOf : Except Failure (SDKResponse × Context) → Option Context
  | .ok (_, context) => some context
  | .error (_, context) => context

/-- The answer on top of its CORS headers. -/
def answerTo : Except Failure (SDKResponse × Context) → Builder → Response
  | .ok (sdkResponse, _), builder =>
      (builder.header .contentType contentTypeJson).build 200 (.json sdkResponse)
  | .error (error, _), builder => builder.build error.status (.text error.text)

/-- Answering panics where the CORS headers do, and gives the one answer
otherwise. -/
theorem runs_respond_eq {res : Except Failure (SDKResponse × Context)} {t : List (Event Calls)}
    {r : Outcome Response} (h : Runs (respond X g res) t r) :
    r = match responseBuilderFor X g.cors (contextOf res) with
      | .error _ => .panicked
      | .ok builder => .returned (answerTo res builder) := by
  cases res with
  | ok answer =>
      obtain ⟨sdkResponse, context⟩ := answer
      rw [respond, respondOk] at h
      cases hbuilder : responseBuilderFor X g.cors (some context) with
      | error panic =>
          simp only [hbuilder, liftPanic_error, bind_eq_bind, panic_bind, runs_panic_iff] at h
          simp only [contextOf, hbuilder, h.2]
      | ok builder =>
          simp only [hbuilder, liftPanic_ok, perform, Program.perform, bind_eq_bind, done_bind,
            call_bind, pure_eq_done, runs_call_iff, runs_done_iff] at h
          obtain ⟨_, _, _, _, hr⟩ := h
          simp only [contextOf, hbuilder, answerTo, hr]
  | error failure =>
      obtain ⟨error, context⟩ := failure
      rw [respond, respondError, intoResponse_eq] at h
      cases hbuilder : responseBuilderFor X g.cors context with
      | error panic =>
          simp only [hbuilder, Except.map, perform, Program.perform, liftPanic_error, bind_eq_bind,
            done_bind, call_bind, panic_bind, runs_call_iff, runs_panic_iff] at h
          obtain ⟨_, _, _, _, hr⟩ := h
          simp only [contextOf, hbuilder, hr]
      | ok builder =>
          simp only [hbuilder, Except.map, perform, Program.perform, liftPanic_ok, bind_eq_bind,
            done_bind, call_bind, pure_eq_done, runs_call_iff, runs_done_iff] at h
          obtain ⟨_, _, _, _, _, _, _, hr⟩ := h
          simp only [contextOf, hbuilder, answerTo, hr]

/-- An answer that is given is the one answer, on the CORS headers of its
context. -/
theorem exists_builder_of_runs_respond {res : Except Failure (SDKResponse × Context)}
    {t : List (Event Calls)} {response : Response}
    (h : Runs (respond X g res) t (.returned response)) :
    ∃ builder, responseBuilderFor X g.cors (contextOf res) = .ok builder ∧
      response = answerTo res builder := by
  have hr := runs_respond_eq X g h
  cases hbuilder : responseBuilderFor X g.cors (contextOf res) with
  | error panic =>
      rw [hbuilder] at hr
      cases hr
  | ok builder =>
      rw [hbuilder] at hr
      exact ⟨builder, rfl, Outcome.returned.inj hr⟩

/-- A refusal is no success and hands nothing out. -/
theorem runs_respond_error {failure : Failure} {t : List (Event Calls)} {response : Response}
    (h : Runs (respond X g (.error failure)) t (.returned response)) :
    response.status ≠ 200 ∧ response.registrationData = [] := by
  obtain ⟨builder, _, rfl⟩ := exists_builder_of_runs_respond X g h
  exact ⟨GatewayError.status_ne_ok failure.1, rfl⟩

/-! ## Whole requests -/

/-- A request ends before it has a batch, or it handles one and answers. -/
theorem runs_handleSdk {incoming : Incoming} {t : List (Event Calls)} {r : Outcome Response}
    (h : Runs (handleSdk X g incoming) t r) :
    (∃ error, incoming.body.bind X.fromSlice = none ∧
        Runs (respond X g (.error (error, none))) t r) ∨
      ∃ body event, incoming.body = some body ∧ X.fromSlice body = some event ∧
        ((∃ res first second, t = first ++ second ∧
            Handles X g body event incoming.headers first (.returned res) ∧
            Runs (respond X g res) second r) ∨
          Handles X g body event incoming.headers t .panicked ∧ r = .panicked) := by
  rw [handleSdk, handleBody] at h
  simp only [bind_eq_bind, pure_eq_done] at h
  cases hbody : incoming.body with
  | none =>
      simp only [hbody, done_bind] at h
      exact Or.inl ⟨_, rfl, h⟩
  | some body =>
      cases hevent : X.fromSlice body with
      | none =>
          simp only [hbody, hevent, done_bind] at h
          exact Or.inl ⟨_, hevent, h⟩
      | some event =>
          simp only [hbody, hevent] at h
          refine Or.inr ⟨body, event, rfl, hevent, ?_⟩
          rcases runs_bind_iff.mp h with ⟨res, first, second, rfl, hfirst, hsecond⟩ | ⟨hpanic, hr⟩
          · exact Or.inl ⟨res, first, second, rfl, runs_handleEvent X g hfirst, hsecond⟩
          · exact Or.inr ⟨runs_handleEvent X g hpanic, hr⟩

/-! ## Requests that reach the producer -/

/-- The records handed to the producer. -/
def sentRecords (t : List (Event Calls)) : List FutureRecord :=
  t.filterMap fun e =>
    match e.call with
    | .send record => some record
    | _ => none

theorem mem_sentRecords {t : List (Event Calls)} {record : FutureRecord} :
    record ∈ sentRecords t ↔ ∃ answer, (⟨Call.send record, answer⟩ : Event Calls) ∈ t := by
  rw [sentRecords, List.mem_filterMap]
  refine ⟨fun h => ?_, fun h => ?_⟩
  · obtain ⟨⟨call, answer⟩, he, hrecord⟩ := h
    cases call with
    | send sent =>
        obtain rfl := Option.some.inj hrecord
        exact ⟨answer, he⟩
    | _ => cases hrecord
  · obtain ⟨answer, he⟩ := h
    exact ⟨_, he, rfl⟩

/-- The part of a run up to the record: a batch accepted against some table, the
results and the context it was prepared with, and the time of publishing. -/
structure Publication (incoming : Incoming) where
  body : List UInt8
  event : SDKEventBatch
  apps : HashMap String Application
  context : Context
  context' : Context
  pre : List (Event Calls)
  results : List EventResult
  now : ℤ
  body_eq : incoming.body = some body
  event_eq : X.fromSlice body = some event
  accepts : Accepts X g body event incoming.headers apps context
  prepares : Prepares X g context event pre results context'

namespace Publication

variable {X g} {incoming : Incoming} (p : Publication X g incoming)

def record : FutureRecord :=
  publishedRecord X g p.now p.context' p.event

/-- The calls before the record is handed over. -/
def before : List (Event Calls) :=
  ⟨Call.loadApps, p.apps⟩ :: p.pre ++ [⟨Call.utcNow, p.now⟩]

/-- The calls after a future that did not fail. -/
def reports : List (Event Calls) :=
  deliveryReport p.results p.event

end Publication

/-- The calls that hand a record over, or report that one was. -/
def IsPublishing : Call → Prop
  | .send _ => True
  | .log (.sentDownstream _) => True
  | .inc .events _ => True
  | _ => False

theorem not_isPublishing_of_inSection {call : Call} (h : call.InSection) :
    ¬ IsPublishing call := by
  intro hpublishing
  cases call with
  | inc counter amount => cases counter <;> first | exact h | exact hpublishing
  | log line => cases line <;> first | exact h | exact hpublishing
  | send record => exact h
  | _ => exact hpublishing

theorem not_isPublishing_of_isAnswering {call : Call} (h : IsAnswering call) :
    ¬ IsPublishing call := by
  intro hpublishing
  cases call with
  | inc counter amount => cases counter <;> first | exact h | exact hpublishing
  | log line => cases line <;> first | exact h | exact hpublishing
  | _ => exact h

variable {X g} in
/-- Nothing is published before the record. -/
theorem Publication.before_quiet {incoming : Incoming} (p : Publication X g incoming) :
    ∀ e ∈ p.before, ¬ IsPublishing e.call := by
  intro e he
  simp only [Publication.before, List.cons_append, List.mem_cons, List.mem_append,
    List.not_mem_nil, or_false] at he
  rcases he with rfl | he | rfl
  · simp [IsPublishing]
  · rcases p.prepares.calls e he with hcall | hcall | rfl
    · exact not_isPublishing_of_inSection hcall
    · simp [hcall, IsPublishing]
    · simp [IsPublishing]
  · simp [IsPublishing]

/-- Building a response is not publishing. -/
theorem respond_quiet {res : Except Failure (SDKResponse × Context)} {t : List (Event Calls)}
    {q : Request Response} (h : Steps (respond X g res) t q) :
    ∀ e ∈ t, ¬ IsPublishing e.call :=
  fun e he => not_isPublishing_of_isAnswering ((confined_respond X g res).of_steps h e he)

/-- A finished request either never handed a record over and was answered with
an error, or it handed over exactly one, after which only the failure of the
future makes it an error. -/
theorem runs_handleSdk_publication {incoming : Incoming} {t : List (Event Calls)}
    {r : Outcome Response} (h : Runs (handleSdk X g incoming) t r) :
    ((∀ e ∈ t, ¬ IsPublishing e.call) ∧ ∀ response, r = .returned response →
        response.status ≠ 200 ∧ response.registrationData = []) ∨
      ∃ p : Publication X g incoming, ∃ second,
        (∃ delivery, t = p.before ++ ⟨Call.send p.record, .ok delivery⟩ :: (p.reports ++ second) ∧
            Runs (respond X g (.ok (⟨p.results⟩, p.context'))) second r) ∨
          ∃ canceled, t = p.before ++ ⟨Call.send p.record, .error canceled⟩ :: second ∧
            Runs (respond X g
              (.error (.serviceUnavailable "Could not send to kafka", none))) second r := by
  have hrefused : ∀ {failure : Failure} {first second : List (Event Calls)},
      (∀ e ∈ first, ¬ IsPublishing e.call) → Runs (respond X g (.error failure)) second r →
      (∀ e ∈ first ++ second, ¬ IsPublishing e.call) ∧ ∀ response, r = .returned response →
        response.status ≠ 200 ∧ response.registrationData = [] := by
    intro failure first second hfirst hrespond
    refine ⟨fun e he => ?_, fun response hr => runs_respond_error X g (hr ▸ hrespond)⟩
    rcases List.mem_append.mp he with he | he
    · exact hfirst e he
    · exact respond_quiet X g hrespond e he
  rcases runs_handleSdk X g h with ⟨failure, _, hrespond⟩ |
    ⟨body, event, hbody, hevent, ⟨res, first, second, rfl, hfirst, hsecond⟩ | ⟨hpanicked, rfl⟩⟩
  · exact Or.inl ⟨respond_quiet X g hrespond,
      fun response hr => runs_respond_error X g (hr ▸ hrespond)⟩
  · cases hfirst with
    | originRefused _ _ => exact Or.inl (hrefused (by simp) hsecond)
    | invalid _ _ _ => exact Or.inl (hrefused (by simp [IsPublishing]) hsecond)
    | blocked _ _ _ => exact Or.inl (hrefused (by simp [IsPublishing]) hsecond)
    | @published context context' apps pre results now delivery haccepts hprepares =>
        refine Or.inr ⟨⟨body, event, apps, context, context', pre, results, now, hbody, hevent,
          haccepts, hprepares⟩, second, Or.inl ⟨delivery, ?_, hsecond⟩⟩
        simp [Publication.before, Publication.record, Publication.reports]
    | @canceled context context' apps pre results now canceled haccepts hprepares =>
        refine Or.inr ⟨⟨body, event, apps, context, context', pre, results, now, hbody, hevent,
          haccepts, hprepares⟩, second, Or.inr ⟨canceled, ?_, hsecond⟩⟩
        simp [Publication.before, Publication.record]
  · refine Or.inl ⟨?_, by simp⟩
    cases hpanicked with
    | contextPanics _ => simp
    | @sectionPanics _ _ get _ hget =>
        intro e he
        simp only [List.mem_cons] at he
        rcases he with rfl | rfl | he
        · simp [IsPublishing]
        · simp [IsPublishing]
        · exact not_isPublishing_of_inSection ((confined_getId X g _ _ _).of_steps hget e he)

/-- A success is answered to a publication whose future did not fail, with its
results. -/
theorem exists_publication_of_ok {incoming : Incoming} {t : List (Event Calls)}
    {response : Response} (h : Runs (handleSdk X g incoming) t (.returned response))
    (hok : response.status = 200) :
    ∃ p : Publication X g incoming, ∃ delivery second,
      t = p.before ++ ⟨Call.send p.record, .ok delivery⟩ :: (p.reports ++ second) ∧
      Runs (respond X g (.ok (⟨p.results⟩, p.context'))) second (.returned response) ∧
      response.body = .json ⟨p.results⟩ := by
  rcases runs_handleSdk_publication X g h with ⟨_, hrefused⟩ |
    ⟨p, second, ⟨delivery, ht, hrespond⟩ | ⟨canceled, _, hrespond⟩⟩
  · exact absurd hok (hrefused response rfl).1
  · obtain ⟨builder, _, hresponse⟩ := exists_builder_of_runs_respond X g hrespond
    exact ⟨p, delivery, second, ht, hrespond, by rw [hresponse]; rfl⟩
  · exact absurd hok (runs_respond_error X g hrespond).1

variable {X g} in
/-- A request that publishes hands over one record and gets one answer to it. -/
theorem Publication.send_unique {incoming : Incoming} (p : Publication X g incoming)
    {record : FutureRecord} {answer given : SendResult} {last : List (Event Calls)}
    (hlast : ∀ e ∈ last, ∀ record, e.call ≠ Call.send record)
    (he : (⟨Call.send record, given⟩ : Event Calls) ∈
      p.before ++ ⟨Call.send p.record, answer⟩ :: last) :
    record = p.record ∧ given = answer := by
  rcases List.mem_append.mp he with hbefore | hrest
  · exact absurd (show IsPublishing (Call.send record) by trivial) (p.before_quiet _ hbefore)
  · rcases List.mem_cons.mp hrest with hsend | hmem
    · cases hsend
      exact ⟨rfl, rfl⟩
    · exact absurd rfl (hlast _ hmem record)

theorem respond_sends_nothing {res : Except Failure (SDKResponse × Context)}
    {t : List (Event Calls)} {q : Request Response} (h : Steps (respond X g res) t q) :
    ∀ e ∈ t, ∀ record, e.call ≠ Call.send record := by
  intro e he record hcall
  have hquiet := respond_quiet X g h e he
  rw [hcall] at hquiet
  exact hquiet (by trivial)

variable {X g} in
theorem Publication.reports_send_nothing {incoming : Incoming} (p : Publication X g incoming)
    {last : List (Event Calls)} (hlast : ∀ e ∈ last, ∀ record, e.call ≠ Call.send record) :
    ∀ e ∈ p.reports ++ last, ∀ record, e.call ≠ Call.send record := by
  intro e he record
  rcases List.mem_append.mp he with he | he
  · simp only [Publication.reports, deliveryReport, List.mem_cons, List.not_mem_nil,
      or_false] at he
    rcases he with rfl | rfl <;> simp
  · exact hlast e he record

/-- What is answered to the record decides the response: the record is the one of
the request's publication, and only a failed future makes it an error. -/
theorem exists_publication_of_send {incoming : Incoming} {t : List (Event Calls)}
    {r : Outcome Response} (h : Runs (handleSdk X g incoming) t r) {record : FutureRecord}
    {answer : SendResult} (he : (⟨Call.send record, answer⟩ : Event Calls) ∈ t) :
    ∃ p : Publication X g incoming, record = p.record ∧ ∃ second,
      ((∃ delivery, answer = .ok delivery) ∧
          Runs (respond X g (.ok (⟨p.results⟩, p.context'))) second r) ∨
        ((∃ canceled, answer = .error canceled) ∧
          Runs (respond X g
            (.error (.serviceUnavailable "Could not send to kafka", none))) second r) := by
  rcases runs_handleSdk_publication X g h with ⟨hquiet, _⟩ |
    ⟨p, second, ⟨delivery, rfl, hrespond⟩ | ⟨canceled, rfl, hrespond⟩⟩
  · exact absurd (show IsPublishing (Call.send record) by trivial) (hquiet _ he)
  · obtain ⟨hrecord, hanswer⟩ :=
      p.send_unique (p.reports_send_nothing (respond_sends_nothing X g hrespond)) he
    exact ⟨p, hrecord, second, Or.inl ⟨⟨delivery, hanswer⟩, hrespond⟩⟩
  · obtain ⟨hrecord, hanswer⟩ := p.send_unique (respond_sends_nothing X g hrespond) he
    exact ⟨p, hrecord, second, Or.inr ⟨⟨canceled, hanswer⟩, hrespond⟩⟩

end XorcGateway.Gateway
