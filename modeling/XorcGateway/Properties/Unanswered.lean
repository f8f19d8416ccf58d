/-
# Which requests get no answer

A panic ends a request without a response: its client sees the connection close,
and no counter has it. A POST panics on a device id that is too short to be
split, before anything has happened; or on configured CORS texts that are no
header values, when everything has. A preflight panics on the same texts, and a
scrape on counters that cannot be encoded.

All of this is about a process whose lazily created globals have been created and
whose libraries return. A global whose creation has panicked is poisoned, and
panics again in every request that needs it.
-/

import XorcGateway.Properties.DeviceIds
import XorcGateway.Properties.RequestCounter

namespace XorcGateway

open Effects Events Rust Program

namespace Gateway

variable {X : Crates} {g : Globals}

/-! ## POST requests -/

/-- The batch was accepted against a table the request has loaded. -/
def WasAccepted (X : Crates) (g : Globals) (body : List UInt8) (event : SDKEventBatch)
    (headers : HeaderMap) (t : List (Event Calls)) : Prop :=
  ∃ apps context, (⟨Call.loadApps, apps⟩ : Event Calls) ∈ t ∧
    Accepts X g body event headers apps context

/-- A record was handed over, and its future did not fail. -/
def WasPublished (t : List (Event Calls)) : Prop :=
  ∃ record delivery, (⟨Call.send record, .ok delivery⟩ : Event Calls) ∈ t

variable {body : List UInt8} {event : SDKEventBatch} {headers : HeaderMap}
  {t : List (Event Calls)} {r : Outcome Response}

/-- A request that panics although its batch was handled has published it exactly
if it was accepted. -/
theorem Handles.wasPublished_iff {res : Except Failure (SDKResponse × Context)}
    (h : Handles X g body event headers t (.returned res)) {context : Context}
    (hcontext : contextOf res = some context) :
    WasPublished t ↔ WasAccepted X g body event headers t := by
  cases h with
  | originRefused _ _ => simp [WasPublished, WasAccepted]
  | invalid hnew _ hinvalid =>
      simp only [WasPublished, WasAccepted, List.mem_singleton, Event.mk.injEq, reduceCtorEq,
        false_and, exists_false, false_iff, not_exists, not_and]
      rintro apps' context' ⟨_, happs⟩ haccepts
      obtain rfl := eq_of_heq happs
      obtain rfl := Except.ok.inj (hnew.symm.trans haccepts.context_new)
      cases hinvalid.symm.trans haccepts.valid
  | blocked _ _ _ => cases hcontext
  | @published _ context' _ _ _ now delivery haccepts _ =>
      exact iff_of_true ⟨publishedRecord X g now context' event, delivery, by simp⟩
        ⟨_, _, by simp, haccepts⟩
  | canceled _ _ => cases hcontext

/-- Answering hands nothing over. -/
theorem wasPublished_append_iff {res : Except Failure (SDKResponse × Context)}
    {first second : List (Event Calls)} (h : Runs (respond X g res) second r) :
    WasPublished (first ++ second) ↔ WasPublished first := by
  refine exists_congr fun record => exists_congr fun delivery => ?_
  rw [List.mem_append, or_iff_left]
  exact fun he => (confined_respond X g res).of_steps h _ he

/-- Answering loads no table. -/
theorem wasAccepted_append_iff {res : Except Failure (SDKResponse × Context)}
    {first second : List (Event Calls)} (h : Runs (respond X g res) second r) :
    WasAccepted X g body event headers (first ++ second) ↔
      WasAccepted X g body event headers first := by
  refine exists_congr fun apps => exists_congr fun context => and_congr_left fun _ => ?_
  rw [List.mem_append, or_iff_left]
  exact fun he => (confined_respond X g res).of_steps h _ he

section

variable (hhttp : X.http.Documented) (haead : X.aead.Documented) (huuid : X.uuid.Documented)
  {incoming : Incoming}

include hhttp in
/-- Answering panics when the context is at hand and what its page is granted
cannot be sent. -/
theorem respond_panicked_iff {res : Except Failure (SDKResponse × Context)}
    {first second : List (Event Calls)}
    (hhandles : Handles X g body event headers first (.returned res))
    (hrespond : Runs (respond X g res) second r) :
    r = .panicked ↔
      ¬ HasSendableCors X g headers event ∧ ¬ IsBlocked first ∧ ¬ IsCanceled first := by
  have hr := runs_respond_eq X g hrespond
  rw [← not_or, ← hhandles.contextOf_eq_none_iff]
  cases hcontext : contextOf res with
  | none =>
      rw [hcontext, responseBuilderFor_no_context] at hr
      simp [hr]
  | some context =>
      have hbuilder := exists_responseBuilderFor_iff (g := g) hhttp (hhandles.isContextOf hcontext)
      rw [hcontext] at hr
      rw [← hbuilder]
      cases hmade : responseBuilderFor X g.cors (some context) with
      | error panic => simp [hr, hmade]
      | ok builder => simp [hr, hmade]

/-- A body parses to one batch. -/
theorem exists_parsed_iff (hbody : incoming.body = some body)
    (hevent : X.fromSlice body = some event) {p : SDKEventBatch → Prop} :
    (∃ body event, incoming.body = some body ∧ X.fromSlice body = some event ∧ p event) ↔
      p event := by
  constructor
  · rintro ⟨body', event', hbody', hevent', hp⟩
    obtain rfl := Option.some.inj (hbody.symm.trans hbody')
    obtain rfl := Option.some.inj (hevent.symm.trans hevent')
    exact hp
  · intro hp
    exact ⟨body, event, hbody, hevent, hp⟩

include hhttp haead huuid

/-- A POST panics when its device id is too short, or when its page would have
been let in with headers that cannot be sent and the context is still at hand. -/
theorem handleSdk_panicked_iff (h : Runs (handleSdk X g incoming) t r) :
    r = .panicked ↔ ∃ body event, incoming.body = some body ∧ X.fromSlice body = some event ∧
      (Context.IsTooShort X incoming.headers ∨
        ¬ HasSendableCors X g incoming.headers event ∧ ¬ IsBlocked t ∧ ¬ IsCanceled t) := by
  rcases runs_handleSdk X g h with ⟨error, hnone, hrespond⟩ |
    ⟨body, event, hbody, hevent, ⟨res, first, second, rfl, hhandles, hrespond⟩ |
      ⟨hhandles, rfl⟩⟩
  · have hr := runs_respond_eq X g hrespond
    rw [contextOf, responseBuilderFor_no_context] at hr
    simp only [hr, reduceCtorEq, false_iff]
    rintro ⟨body, event, hbody, hevent, _⟩
    simp [hbody, hevent] at hnone
  · rw [exists_parsed_iff hbody hevent, or_iff_right hhandles.not_isTooShort,
      (fails_append_iff hrespond).1, (fails_append_iff hrespond).2]
    exact respond_panicked_iff hhttp hhandles hrespond
  · rw [exists_parsed_iff hbody hevent]
    exact iff_of_true rfl (Or.inl (hhandles.isTooShort haead huuid))

/-- A POST that panics has published its batch exactly if the batch was
accepted. -/
theorem wasPublished_iff_of_panicked (h : Runs (handleSdk X g incoming) t .panicked)
    (hbody : incoming.body = some body) (hevent : X.fromSlice body = some event) :
    WasPublished t ↔ WasAccepted X g body event incoming.headers t := by
  rcases runs_handleSdk_of_parsed hbody hevent h with
    ⟨res, first, second, rfl, hhandles, hrespond⟩ | ⟨hhandles, _⟩
  · obtain ⟨_, hblocked, hcanceled⟩ := (respond_panicked_iff hhttp hhandles hrespond).mp rfl
    obtain ⟨context, hcontext⟩ : ∃ context, contextOf res = some context := by
      rw [← Option.ne_none_iff_exists', ne_eq, hhandles.contextOf_eq_none_iff, not_or]
      exact ⟨hblocked, hcanceled⟩
    rw [wasPublished_append_iff hrespond, wasAccepted_append_iff hrespond]
    exact hhandles.wasPublished_iff hcontext
  · cases hhandles with
    | contextPanics _ => simp [WasPublished, WasAccepted]
    | sectionPanics haccepts hget =>
        exact absurd (.sectionPanics haccepts hget)
          (not_handles_panicked haead huuid haccepts.context_new)

end

end Gateway

/-! ## All routes -/

/-- What keeps a request from an answer, by its route. -/
def GoesUnanswered (X : Crates) (g : Gateway.Globals) (encoder : TextEncoder) (req : HttpRequest)
    (t : List (Event ServiceCalls)) : Prop :=
  match req.route with
  | .sdkOptions => ∃ cors, g.cors = some cors ∧ ¬ cors.IsSendable X
  | .sdkEvents => ∃ body event, req.incoming.body = some body ∧ X.fromSlice body = some event ∧
      (Context.IsTooShort X req.incoming.headers ∨
        ¬ Gateway.HasSendableCors X g req.incoming.headers event ∧
          ¬ Gateway.IsBlocked (Event.lefts t) ∧ ¬ Gateway.IsCanceled (Event.lefts t))
  | .metrics => ∃ families, (⟨.inr .gather, families⟩ : Event ServiceCalls) ∈ t ∧
      encoder.encode families = none
  | .notFound => False

variable {X : Crates} {g : Gateway.Globals} {encoder : TextEncoder} {req : HttpRequest}
  {t : List (Event ServiceCalls)} {r : Outcome Response}

/-- A wildcard answer can be built when the configured texts are header
values. -/
theorem Cors.exists_responseBuilderWildcard_iff {cors : Cors} :
    (∃ builder, cors.responseBuilderWildcard X = .ok builder) ↔ cors.IsSendable X := by
  simp only [responseBuilderWildcard, unwrap_bind_eq_ok_iff, pure, Except.pure]
  constructor
  · rintro ⟨_, methods, hmethods, headers, hheaders, _⟩
    exact ⟨⟨methods, hmethods⟩, headers, hheaders⟩
  · rintro ⟨⟨methods, hmethods⟩, headers, hheaders⟩
    exact ⟨_, methods, hmethods, headers, hheaders, rfl⟩

/-- A preflight panics on texts that cannot be sent. -/
theorem Gateway.optionsRequest_panicked_iff {t : List (Event Calls)}
    (h : Runs (Gateway.optionsRequest X g) t r) :
    r = .panicked ↔ ∃ cors, g.cors = some cors ∧ ¬ cors.IsSendable X := by
  simp only [optionsRequest, perform, Program.perform, bind_eq_bind, call_bind, done_bind,
    runs_call_iff] at h
  obtain ⟨_, rest, rfl, h⟩ := h
  cases hcors : g.cors with
  | none =>
      simp only [handleOptions, hcors] at h
      obtain ⟨_, rfl⟩ := runs_done_iff.mp h
      simp
  | some cors =>
      simp only [handleOptions, hcors] at h
      simp only [Option.some.injEq, exists_eq_left', ← Cors.exists_responseBuilderWildcard_iff]
      cases hbuilder : cors.responseBuilderWildcard X with
      | error panic =>
          rw [hbuilder] at h
          obtain ⟨_, rfl⟩ := runs_panic_iff.mp h
          simp
      | ok builder =>
          rw [hbuilder] at h
          obtain ⟨_, rfl⟩ := runs_done_iff.mp h
          simp

/-- Once the globals it needs have been created, and as long as its libraries return,
a request of any route panics, whatever it is answered on the way, exactly if its
own route's condition holds; a POST that panics has published its batch exactly if
the batch was accepted. -/
theorem service_panicked_iff (hhttp : X.http.Documented) (haead : X.aead.Documented)
    (huuid : X.uuid.Documented) (h : Runs (Gateway.service X g encoder req) t r) :
    (r = .panicked ↔ GoesUnanswered X g encoder req t) ∧
    (r = .panicked → req.route = .sdkEvents → ∀ body event, req.incoming.body = some body →
      X.fromSlice body = some event → (Gateway.WasPublished (Event.lefts t) ↔
        Gateway.WasAccepted X g body event req.incoming.headers (Event.lefts t))) := by
  rw [Gateway.service] at h
  rw [GoesUnanswered]
  cases hroute : req.route with
  | sdkOptions =>
      simp only [hroute, runs_left_iff] at h
      obtain ⟨t, rfl, h⟩ := h
      exact ⟨Gateway.optionsRequest_panicked_iff h, by simp⟩
  | sdkEvents =>
      simp only [hroute, runs_left_iff] at h
      obtain ⟨t, rfl, h⟩ := h
      rw [Event.lefts_map_left]
      refine ⟨Gateway.handleSdk_panicked_iff hhttp haead huuid h, ?_⟩
      rintro rfl _ body event hbody hevent
      exact Gateway.wasPublished_iff_of_panicked hhttp haead huuid h hbody hevent
  | metrics =>
      simp only [hroute] at h
      obtain ⟨families, rfl, ⟨response, hresponse, rfl⟩ | ⟨hencode, rfl⟩⟩ :=
        Gateway.runs_metricsRequest h
      · refine ⟨?_, by simp⟩
        simp only [reduceCtorEq, false_iff]
        rintro ⟨families', hmem, hencode⟩
        cases List.mem_singleton.mp hmem
        rw [Gateway.handleMetrics, hencode] at hresponse
        cases hresponse
      · exact ⟨iff_of_true rfl ⟨families, List.mem_singleton_self _, hencode⟩, by simp⟩
  | notFound =>
      simp only [hroute, runs_left_iff] at h
      obtain ⟨t, rfl, h⟩ := h
      simp only [Gateway.notFoundRequest, perform, Program.perform, bind_eq_bind, call_bind,
        done_bind, pure_eq_done, runs_call_iff, runs_done_iff] at h
      obtain ⟨_, _, rfl, rfl, rfl⟩ := h
      simp

/-- The event is a record handed over whose future did not fail. -/
def Gateway.isPublication : Event Calls → Bool
  | ⟨.send _, .ok _⟩ => true
  | _ => false

/-- A gateway whose configured methods are broken over two lines. -/
def Reference.brokenGlobals : Gateway.Globals :=
  { Reference.corsGlobals with config := { Reference.corsGlobals.config with
      cors := some { allowedMethods := "POST,\nOPTIONS", allowedHeaders := "Content-Type" } } }

/-- A browser's POST to it. -/
def webRequest : HttpRequest where
  method := .post
  path := "/xray/events/xorc/sdk/v1"
  incoming := Reference.post Reference.webBody Reference.fromExample

/-- It is published and goes unanswered. -/
theorem broken_texts_unanswered : ∃ t,
    Runs (Gateway.service Reference.crates Reference.brokenGlobals Reference.encoder webRequest) t
      .panicked ∧
    GoesUnanswered Reference.crates Reference.brokenGlobals Reference.encoder webRequest t ∧
    Gateway.WasAccepted Reference.crates Reference.brokenGlobals (asBytes Reference.webBody)
      Reference.webBatch Reference.fromExample (Event.lefts t) := by
  have hpanics : (Reference.handledBy Reference.brokenGlobals webRequest.incoming
      Reference.working).2 = .panicked := by decide +kernel
  have hparsed : Reference.crates.fromSlice (asBytes Reference.webBody) =
      some Reference.webBatch := by decide +kernel
  have hservice := Reference.runs_service Reference.brokenGlobals Reference.working
    (show webRequest.route = .sdkEvents from rfl)
  rw [hpanics] at hservice
  obtain ⟨hunanswered, hpublished⟩ := service_panicked_iff Reference.http_documented
    Reference.aead_documented Reference.uuid_documented hservice
  refine ⟨_, hservice, hunanswered.mp rfl, (hpublished rfl rfl _ _ rfl hparsed).mp ?_⟩
  have hsent : (Reference.handledBy Reference.brokenGlobals webRequest.incoming
      Reference.working).1.any Gateway.isPublication = true := by decide +kernel
  obtain ⟨⟨call, answer⟩, hmem, hsend⟩ := List.any_eq_true.mp hsent
  rw [Event.lefts_map_left]
  cases call with
  | send record =>
      cases answer with
      | ok delivery => exact ⟨record, delivery, hmem⟩
      | error e => cases hsend
  | _ => cases hsend

end XorcGateway
