/-
# Which browsers may read the answers

An answer is granted to no page but the one that asked, and only if the
configuration lists it. Every answer to a listed page is granted, except that
the two failures of a dependency, the blocking section and the producer, lose
the context the headers are made from.
-/

import XorcGateway.Properties.Admission
import XorcGateway.Properties.DeviceIds
import XorcGateway.Semantics.Responses

namespace XorcGateway

open Effects Events Rust Program

/-- Some `[[origins]]` entry of the application lists the header's value. -/
def Config.Lists (config : Config) (appId : String) (value : HeaderValue) : Prop :=
  ∃ origins, config.origins = some origins ∧ ∃ entry ∈ origins, entry.appId = appId ∧
    ∃ origin ∈ entry.allowed, asBytes origin = value.bytes

/-- What the table lists, an entry lists. -/
theorem Cors.listed_of_allowedOrigins {config : Config} {cors : Cors}
    (hnew : Cors.new config = some cors) {appId : String} {allowed : List String}
    (hallowed : cors.allowedOrigins appId = some allowed) :
    ∃ origins, config.origins = some origins ∧ ∃ entry ∈ origins, entry.appId = appId ∧
      entry.allowed = allowed := by
  rw [Cors.allowedOrigins_of_new hnew] at hallowed
  obtain ⟨entry, hentry, happId, hlisted⟩ := HashMap.exists_mem_of_foldl_insert_get hallowed
  cases horigins : config.origins with
  | none => simp [horigins] at hentry
  | some origins =>
      rw [horigins, Option.getD_some] at hentry
      exact ⟨origins, rfl, entry, hentry, happId, hlisted⟩

section

variable {X : Crates} {g : Gateway.Globals} (hhttp : X.http.Documented)

include hhttp

/-- A valid origin is the request's header, and listed. -/
theorem listed_of_validOrigin {cors : Cors} (hcors : g.cors = some cors) {headers : HeaderMap}
    {appId : String} (hvalid : cors.validOrigin appId (Context.getValue X headers .origin) = true) :
    ∃ s value, Context.getValue X headers .origin = some s ∧ headers.get .origin = some value ∧
      X.http.fromStr s = some value ∧ g.config.Lists appId value := by
  obtain ⟨s, allowed, hs, hallowed, hmem⟩ := Cors.validOrigin_iff.mp hvalid
  obtain ⟨value, hvalue, htext, hmade⟩ := Context.origin_of_getValue hhttp hs
  obtain ⟨origins, horigins, entry, hentry, happId, rfl⟩ :=
    Cors.listed_of_allowedOrigins hcors hallowed
  have hbytes := ((hhttp.toStr_eq_some_iff value s).mp htext).2
  exact ⟨s, value, hs, hvalue, hmade, origins, horigins, entry, hentry, happId, s, hmem, hbytes⟩

/-- The CORS headers made from a request's context name the request's own
origin, which is listed, and only for web requests. -/
theorem allowOrigin_of_responseBuilderFor {headers : HeaderMap} {event : SDKEventBatch}
    {context : Context} (hcontext : Gateway.IsContextOf X headers event context)
    {builder : Builder} (hbuilder : responseBuilderFor X g.cors (some context) = .ok builder)
    {value : HeaderValue} (hvalue : (.accessControlAllowOrigin, value) ∈ builder.headers) :
    event.device.getPlatform = .web ∧ headers.get .origin = some value ∧
      g.config.Lists event.environment.appId value := by
  cases hcors : g.cors with
  | none =>
      rw [hcors] at hbuilder
      cases hbuilder
      simp at hvalue
  | some cors =>
      rw [hcors, responseBuilderFor] at hbuilder
      by_cases hallows : cors.Allows context
      · obtain ⟨origin, allowOrigin, _, _, horigin, hmade, _, _, hheaders⟩ :=
          (Cors.responseBuilderOrigin_of_allows hallows).mp hbuilder
        obtain rfl : value = allowOrigin := by simpa [hheaders] using hvalue
        obtain ⟨hvalid, hweb⟩ := hallows
        rw [hcontext.appId, hcontext.origin] at hvalid
        obtain ⟨s, sent, hs, hsent, hagain, hlists⟩ := listed_of_validOrigin hhttp hcors hvalid
        obtain rfl : s = origin := Option.some.inj (hs.symm.trans (hcontext.origin ▸ horigin))
        obtain rfl : sent = value := Option.some.inj (hagain.symm.trans hmade)
        exact ⟨hcontext.platform ▸ hweb, hsent, hlists⟩
      · rw [Cors.responseBuilderOrigin_of_not_allows hallows] at hbuilder
        cases hbuilder
        simp at hvalue

/-- An answer that allows an origin is to a web request that sent it, from an
application that lists it; and where CORS is configured, a web batch is published
only for such an origin. -/
theorem foreign_origin_excluded {incoming : Gateway.Incoming} {t : List (Event Calls)}
    {r : Outcome Response} (hrun : Runs (Gateway.handleSdk X g incoming) t r) :
    (∀ response value, r = .returned response →
      (.accessControlAllowOrigin, value) ∈ response.headers →
        ∃ body event, incoming.body = some body ∧ X.fromSlice body = some event ∧
          event.device.getPlatform = .web ∧ incoming.headers.get .origin = some value ∧
          g.config.Lists event.environment.appId value) ∧
    ∀ body event record answer, g.config.cors.isSome → incoming.body = some body →
      X.fromSlice body = some event → event.device.getPlatform = .web →
      (⟨Call.send record, answer⟩ : Event Calls) ∈ t →
        ∃ value, incoming.headers.get .origin = some value ∧
          g.config.Lists event.environment.appId value := by
  constructor
  · intro response value hr hvalue
    rw [hr] at hrun
    rcases Gateway.runs_handleSdk X g hrun with ⟨error, _, hrespond⟩ |
      ⟨body, event, hbody, hevent, ⟨res, first, second, _, hhandles, hrespond⟩ | ⟨_, hpanicked⟩⟩
    · obtain ⟨builder, hbuilder, rfl⟩ := Gateway.exists_builder_of_runs_respond X g hrespond
      rw [Gateway.mem_headers_answerTo (by simp)] at hvalue
      rw [Gateway.contextOf, responseBuilderFor_no_context] at hbuilder
      cases hbuilder
      simp at hvalue
    · obtain ⟨builder, hbuilder, rfl⟩ := Gateway.exists_builder_of_runs_respond X g hrespond
      rw [Gateway.mem_headers_answerTo (by simp)] at hvalue
      cases hcontext : Gateway.contextOf res with
      | none =>
          rw [hcontext, responseBuilderFor_no_context] at hbuilder
          cases hbuilder
          simp at hvalue
      | some context =>
          rw [hcontext] at hbuilder
          exact ⟨body, event, hbody, hevent, allowOrigin_of_responseBuilderFor hhttp
            (hhandles.isContextOf hcontext) hbuilder hvalue⟩
    · cases hpanicked
  · intro body event record answer hcors hbody hevent hweb hsend
    obtain ⟨p, _⟩ := Gateway.exists_publication_of_send X g hrun hsend
    obtain rfl := Option.some.inj (hbody.symm.trans p.body_eq)
    obtain rfl := Option.some.inj (hevent.symm.trans p.event_eq)
    obtain ⟨cors, hnew⟩ : ∃ cors, g.cors = some cors := by
      rwa [← Option.isSome_iff_exists, Gateway.Globals.cors, Cors.new, Option.isSome_map]
    obtain ⟨s, allowed, hs, hallowed, hmem⟩ :=
      (refusesOrigin_eq_false_iff X g).mp p.accepts.origin cors hnew hweb
    obtain ⟨_, value, _, hvalue, _, hlists⟩ := listed_of_validOrigin hhttp hnew
      (Cors.validOrigin_iff.mpr ⟨s, allowed, hs, hallowed, hmem⟩)
    exact ⟨value, hvalue, hlists⟩

end

/-- The page of the allowed origin is the one that is published for. -/
theorem example_origin_published :
    ∃ value, Reference.fromExample.get .origin = some value ∧
      Reference.corsGlobals.config.Lists Reference.appId value := by
  have hsent : Gateway.sentRecords (Reference.handledBy Reference.corsGlobals
      (Reference.post Reference.webBody Reference.fromExample) Reference.working).1 ≠ [] := by
    decide +kernel
  obtain ⟨record, hrecord⟩ := List.exists_mem_of_ne_nil _ hsent
  obtain ⟨answer, hsend⟩ := Gateway.mem_sentRecords.mp hrecord
  exact (foreign_origin_excluded Reference.http_documented
    (Reference.runs_handledBy Reference.corsGlobals _ _)).2 _ Reference.webBatch record answer rfl
    rfl (by decide +kernel) (by decide) hsend

/-! ## Allowed pages -/

section

variable {X : Crates} {g : Gateway.Globals}

/-- The answer to an allowed context grants its origin, if there is one, and
there is one exactly when the configured texts are header values. -/
theorem grants_of_allows {cors : Cors} (hcors : g.cors = some cors)
    {res : Except Gateway.Failure (SDKResponse × Context)} {context : Context}
    (hcontext : Gateway.contextOf res = some context) (hallows : cors.Allows context)
    {origin : String} {value : HeaderValue} (horigin : context.origin = some origin)
    (hmade : X.http.fromStr origin = some value) {t : List (Event Calls)} {r : Outcome Response}
    (hrespond : Runs (Gateway.respond X g res) t r) :
    (∃ response, r = .returned response ∧ cors.Grants X value response) ↔ cors.IsSendable X := by
  have hr := Gateway.runs_respond_eq X g hrespond
  rw [hcontext, hcors, responseBuilderFor] at hr
  rw [← Cors.exists_responseBuilderOrigin_iff hallows horigin hmade]
  constructor
  · rintro ⟨response, hresponse, _⟩
    cases hbuilder : cors.responseBuilderOrigin X context.appId context.origin context.platform with
    | error panic =>
        rw [hbuilder, hresponse] at hr
        cases hr
    | ok builder => exact ⟨builder, rfl⟩
  · rintro ⟨builder, hbuilder⟩
    rw [hbuilder] at hr
    refine ⟨_, hr, ?_⟩
    obtain ⟨_, allowOrigin, methods, headers, horigin', ho, hm, hh, hheaders⟩ :=
      (Cors.responseBuilderOrigin_of_allows hallows).mp hbuilder
    obtain rfl := Option.some.inj (horigin.symm.trans horigin')
    obtain rfl := Option.some.inj (hmade.symm.trans ho)
    constructor
    · rw [Gateway.mem_headers_answerTo (by simp), hheaders]
      simp
    · refine ⟨methods, hm, ?_⟩
      rw [Gateway.mem_headers_answerTo (by simp), hheaders]
      simp
    · refine ⟨headers, hh, ?_⟩
      rw [Gateway.mem_headers_answerTo (by simp), hheaders]
      simp

/-- With CORS configured, a web request with a valid origin is answered with headers
that let its page read the answer exactly when its device id is not too short, the
configured texts are header values, it is not refused its blocking section, and the
future of its record does not fail. -/
theorem allowed_page_reads_iff (hhttp : X.http.Documented) (haead : X.aead.Documented)
    (huuid : X.uuid.Documented) {cors : Cors} (hcors : g.cors = some cors)
    {incoming : Gateway.Incoming} {body : List UInt8} {event : SDKEventBatch}
    (hbody : incoming.body = some body) (hevent : X.fromSlice body = some event)
    (hweb : event.device.getPlatform = .web) {value : HeaderValue}
    (hvalue : incoming.headers.get .origin = some value)
    (hvalid : cors.validOrigin event.environment.appId
      (Context.getValue X incoming.headers .origin) = true)
    {t : List (Event Calls)} {r : Outcome Response}
    (hrun : Runs (Gateway.handleSdk X g incoming) t r) :
    (∃ response, r = .returned response ∧ cors.Grants X value response) ↔
      ¬ Context.IsTooShort X incoming.headers ∧ cors.IsSendable X ∧
        ¬ Gateway.IsBlocked t ∧ ¬ Gateway.IsCanceled t := by
  rcases Gateway.runs_handleSdk_of_parsed hbody hevent hrun with
    ⟨res, first, second, rfl, hhandles, hrespond⟩ | ⟨hpanics, rfl⟩
  · obtain ⟨hblocked, hcanceled⟩ := Gateway.fails_append_iff hrespond
    rw [hblocked, hcanceled, ← not_or, ← hhandles.contextOf_eq_none_iff,
      and_iff_right (hhandles.not_isTooShort)]
    cases hcontext : Gateway.contextOf res with
    | none =>
        refine iff_of_false (fun hgranted => ?_) (fun hkept => hkept.2 rfl)
        obtain ⟨response, rfl, hgrants⟩ := hgranted
        obtain ⟨builder, hbuilder, rfl⟩ := Gateway.exists_builder_of_runs_respond X g hrespond
        rw [hcontext, responseBuilderFor_no_context] at hbuilder
        cases hbuilder
        have horigin := hgrants.origin
        rw [Gateway.mem_headers_answerTo (by simp)] at horigin
        simp at horigin
    | some context =>
        have hof := hhandles.isContextOf hcontext
        obtain ⟨s, sent, hs, hsent, hmade, _⟩ := listed_of_validOrigin hhttp hcors hvalid
        obtain rfl := Option.some.inj (hvalue.symm.trans hsent)
        have hallows : cors.Allows context := by
          rw [Cors.Allows, hof.appId, hof.origin, hof.platform]
          exact ⟨hvalid, hweb⟩
        rw [grants_of_allows hcors hcontext hallows (hof.origin.trans hs) hmade hrespond]
        simp
  · have hshort := hpanics.isTooShort haead huuid
    refine iff_of_false (fun hgranted => ?_) (fun hlong => hlong.1 hshort)
    obtain ⟨response, hresponse, _⟩ := hgranted
    cases hresponse

end

/-- The CORS tables of the gateway with one allowed origin. -/
def exampleCors : Cors where
  allowedMethods := "POST,OPTIONS"
  allowedHeaders := "Content-Type"
  allowedOrigins := Cors.allowedOriginsOf
    [{ appId := Reference.appId, allowed := ["https://www.example.com"] }]

theorem exampleCors_isSendable : exampleCors.IsSendable Reference.crates where
  methods := ⟨.fromStatic "POST,OPTIONS" (by decide), rfl⟩
  headers := ⟨.fromStatic "Content-Type" (by decide), rfl⟩

theorem exampleCors_validOrigin : exampleCors.validOrigin Reference.webBatch.environment.appId
    (Context.getValue Reference.crates Reference.fromExample .origin) = true := by
  decide +kernel

/-- Where everything works, the allowed page can read the answer. -/
theorem example_page_reads : ∃ response,
    (Reference.handledBy Reference.corsGlobals (Reference.post Reference.webBody
      Reference.fromExample) Reference.working).2 = .returned response ∧
    exampleCors.Grants Reference.crates (.fromStatic "https://www.example.com" (by decide))
      response := by
  have hvalue : Context.getValue Reference.crates Reference.fromExample .xorcDeviceId = none := rfl
  refine (allowed_page_reads_iff Reference.http_documented Reference.aead_documented
    Reference.uuid_documented rfl rfl (by decide +kernel) (by decide) rfl exampleCors_validOrigin
    (Reference.runs_handledBy Reference.corsGlobals _ _)).mpr
    ⟨?_, exampleCors_isSendable, ?_, ?_⟩
  · rintro ⟨s, _, hs, _⟩
    cases hvalue.symm.trans hs
  · rintro ⟨e, he⟩
    cases answer_eq_of_mem_exec he
  · rintro ⟨record, canceled, he⟩
    cases answer_eq_of_mem_exec he

/-- When the future of the record fails, the allowed page is answered 503 and
cannot tell. -/
theorem example_page_refused :
    Reference.corsGlobals.cors = some exampleCors ∧
    exampleCors.validOrigin Reference.webBatch.environment.appId
      (Context.getValue Reference.crates Reference.fromExample .origin) = true ∧
    ∃ response,
      (Reference.handledBy Reference.corsGlobals (Reference.post Reference.webBody
        Reference.fromExample) { Reference.working with send := .error {} }).2 =
          .returned response ∧
      response.status = 503 ∧
      ¬ exampleCors.Grants Reference.crates (.fromStatic "https://www.example.com" (by decide))
        response := by
  have hanswered : (Reference.handledBy Reference.corsGlobals (Reference.post Reference.webBody
      Reference.fromExample) { Reference.working with send := .error {} }).2.any
        (fun response => response.status == 503 && response.headers.isEmpty) = true := by
    decide +kernel
  obtain ⟨response, hresponse, hplain⟩ := Outcome.any_eq_true.mp hanswered
  rw [Bool.and_eq_true, beq_iff_eq, List.isEmpty_iff] at hplain
  refine ⟨rfl, exampleCors_validOrigin, response, hresponse, hplain.1, fun hgrants => ?_⟩
  have horigin := hgrants.origin
  rw [hplain.2] at horigin
  simp at horigin

end XorcGateway
