/-
# What an answer tells a browser

The CORS headers of a response depend on the context that is still at hand when
it is built. Every way out of the chain that keeps the context keeps what the
headers are made from; the two failing dependencies lose it.
-/

import XorcGateway.Semantics.Pipeline

namespace XorcGateway

open Effects Events Rust Program

namespace Cors

variable (X : Crates)

/-- A page of this context may read the answers. -/
def Allows (self : Cors) (context : Context) : Prop :=
  self.validOrigin context.appId context.origin = true ∧ context.platform = .web

/-- The configured texts are header values. -/
structure IsSendable (cors : Cors) : Prop where
  methods : ∃ value, X.http.fromStr cors.allowedMethods = some value
  headers : ∃ value, X.http.fromStr cors.allowedHeaders = some value

/-- The response has the headers that let a page of the origin read it. -/
structure Grants (cors : Cors) (origin : HeaderValue) (response : Response) : Prop where
  origin : (.accessControlAllowOrigin, origin) ∈ response.headers
  methods : ∃ value, X.http.fromStr cors.allowedMethods = some value ∧
    (.accessControlAllowMethods, value) ∈ response.headers
  headers : ∃ value, X.http.fromStr cors.allowedHeaders = some value ∧
    (.accessControlAllowHeaders, value) ∈ response.headers

variable {X} {self : Cors} {context : Context} {builder : Builder}

/-- A context that is not allowed gets no headers. -/
theorem responseBuilderOrigin_of_not_allows (h : ¬ self.Allows context) :
    self.responseBuilderOrigin X context.appId context.origin context.platform = .ok {} := by
  rw [responseBuilderOrigin, if_neg]
  · rfl
  · intro hallowed
    rw [Bool.and_eq_true, beq_iff_eq] at hallowed
    exact h hallowed

/-- One that is allowed gets all three, each from its text. -/
theorem responseBuilderOrigin_of_allows (h : self.Allows context) :
    self.responseBuilderOrigin X context.appId context.origin context.platform = .ok builder ↔
      ∃ origin allowOrigin allowMethods allowHeaders, context.origin = some origin ∧
        X.http.fromStr origin = some allowOrigin ∧
        X.http.fromStr self.allowedMethods = some allowMethods ∧
        X.http.fromStr self.allowedHeaders = some allowHeaders ∧
        builder.headers = [
          (.accessControlAllowOrigin, allowOrigin),
          (.accessControlAllowMethods, allowMethods),
          (.accessControlAllowHeaders, allowHeaders)] := by
  rw [responseBuilderOrigin, if_pos (by simpa [Allows] using h)]
  simp only [unwrap_bind_eq_ok_iff, pure, Except.pure, Except.ok.injEq, Builder.header,
    List.nil_append, List.cons_append]
  constructor
  · rintro ⟨origin, horigin, allowOrigin, ho, allowMethods, hm, allowHeaders, hh, hbuilder⟩
    exact ⟨origin, allowOrigin, allowMethods, allowHeaders, horigin, ho, hm, hh, by rw [← hbuilder]⟩
  · rintro ⟨origin, allowOrigin, allowMethods, allowHeaders, horigin, ho, hm, hh, hheaders⟩
    refine ⟨origin, horigin, allowOrigin, ho, allowMethods, hm, allowHeaders, hh, ?_⟩
    rw [← hheaders]

/-- They are built when the configured texts are header values. -/
theorem exists_responseBuilderOrigin_iff (h : self.Allows context) {origin : String}
    {value : HeaderValue} (horigin : context.origin = some origin)
    (hmade : X.http.fromStr origin = some value) :
    (∃ builder, self.responseBuilderOrigin X context.appId context.origin context.platform =
      .ok builder) ↔ self.IsSendable X := by
  constructor
  · rintro ⟨builder, hbuilder⟩
    obtain ⟨_, _, methods, headers, _, _, hmethods, hheaders, _⟩ :=
      (responseBuilderOrigin_of_allows h).mp hbuilder
    exact ⟨⟨methods, hmethods⟩, headers, hheaders⟩
  · rintro ⟨⟨methods, hmethods⟩, headers, hheaders⟩
    exact ⟨⟨_⟩, (responseBuilderOrigin_of_allows h).mpr
      ⟨origin, value, methods, headers, horigin, hmade, hmethods, hheaders, rfl⟩⟩

end Cors

/-- A header value read as text and made a header value again is the same
value. -/
theorem Http.Documented.fromStr_of_toStr {http : Http} (h : http.Documented) {value : HeaderValue}
    {s : String} (hs : http.toStr value = some s) : http.fromStr s = some value := by
  obtain ⟨hvisible, hbytes⟩ := (h.toStr_eq_some_iff value s).mp hs
  obtain ⟨made, hmade, heq⟩ := h.fromStr_eq_some s (by rwa [hbytes])
  have hvalue : made = value := by
    cases made
    cases value
    simpa [hbytes] using heq
  rw [hmade, hvalue]

/-- The origin of a context, as a header value, is the request's header. -/
theorem Context.origin_of_getValue {X : Crates} (hhttp : X.http.Documented) {headers : HeaderMap}
    {name : HeaderName} {s : String} (h : Context.getValue X headers name = some s) :
    ∃ value, headers.get name = some value ∧ X.http.toStr value = some s ∧
      X.http.fromStr s = some value := by
  obtain ⟨value, hvalue, hs⟩ := Option.bind_eq_some_iff.mp h
  exact ⟨value, hvalue, hs, hhttp.fromStr_of_toStr hs⟩

namespace Gateway

/-- The request was refused its blocking section. -/
def IsBlocked (t : List (Event Calls)) : Prop :=
  ∃ e, (⟨Call.blocking, .error e⟩ : Event Calls) ∈ t

/-- The future of the request's record failed. -/
def IsCanceled (t : List (Event Calls)) : Prop :=
  ∃ record canceled, (⟨Call.send record, .error canceled⟩ : Event Calls) ∈ t

/-- The context is the request's, as far as CORS headers are made from it. -/
structure IsContextOf (X : Crates) (headers : HeaderMap) (event : SDKEventBatch)
    (context : Context) : Prop where
  appId : context.appId = event.environment.appId
  platform : context.platform = event.device.getPlatform
  origin : context.origin = Context.getValue X headers .origin

variable {X : Crates} {g : Globals} {incoming : Incoming} {body : List UInt8}
  {event : SDKEventBatch} {headers : HeaderMap} {t : List (Event Calls)}

/-- A new context is the request's. -/
theorem isContextOf_new {secret : SecretKey} {context : Context}
    (h : Context.new X secret headers event.environment.appId event.device.getPlatform =
      .ok context) : IsContextOf X headers event context := by
  obtain ⟨deviceId, _, rfl⟩ := Context.new_eq_ok_iff.mp h
  exact ⟨rfl, rfl, rfl⟩

/-- Preparing a batch leaves the context the request's. -/
theorem Prepares.isContextOf {context context' : Context} {results : List EventResult}
    (h : Prepares X g context event t results context')
    (hcontext : IsContextOf X headers event context) : IsContextOf X headers event context' := by
  cases h with
  | plain _ => exact hcontext
  | registration _ _ => exact ⟨hcontext.appId, hcontext.platform, hcontext.origin⟩

/-- Preparing a batch is not refused its blocking section, and hands nothing
over. -/
theorem Prepares.quiet {context context' : Context} {results : List EventResult}
    (h : Prepares X g context event t results context') :
    ¬ IsBlocked t ∧ ∀ record answer, (⟨Call.send record, answer⟩ : Event Calls) ∉ t := by
  constructor
  · rintro ⟨e, he⟩
    rcases h.calls _ he with hsection | hloads | hentered
    · exact hsection
    · cases hloads
    · simp at hentered
  · intro record answer he
    rcases h.calls _ he with hsection | hloads | hentered
    · exact hsection
    · cases hloads
    · cases congrArg Event.call hentered

/-- The context an answer is made from is the request's. -/
theorem Handles.isContextOf {res : Except Failure (SDKResponse × Context)}
    (h : Handles X g body event headers t (.returned res)) {context : Context}
    (hcontext : contextOf res = some context) : IsContextOf X headers event context := by
  cases h with
  | originRefused hnew _ =>
      obtain rfl := Option.some.inj hcontext
      exact isContextOf_new hnew
  | invalid hnew _ _ =>
      obtain rfl := Option.some.inj hcontext
      exact isContextOf_new hnew
  | blocked _ _ _ => cases hcontext
  | published haccepts hprepares =>
      obtain rfl := Option.some.inj hcontext
      exact hprepares.isContextOf (isContextOf_new haccepts.context_new)
  | canceled _ _ => cases hcontext

/-- It is lost exactly when the blocking section is refused or the future of the
record fails. -/
theorem Handles.contextOf_eq_none_iff {res : Except Failure (SDKResponse × Context)}
    (h : Handles X g body event headers t (.returned res)) :
    contextOf res = none ↔ IsBlocked t ∨ IsCanceled t := by
  cases h with
  | originRefused _ _ => simp [contextOf, IsBlocked, IsCanceled]
  | invalid _ _ _ => simp [contextOf, IsBlocked, IsCanceled]
  | @blocked _ _ _ e _ _ _ => exact iff_of_true rfl (Or.inl ⟨e, by simp⟩)
  | published _ hprepares =>
      obtain ⟨hblocked, hsent⟩ := hprepares.quiet
      simp only [IsBlocked, not_exists] at hblocked
      simp [contextOf, IsBlocked, IsCanceled, deliveryReport, hblocked, hsent]
  | @canceled _ context' _ _ _ now canceled _ _ =>
      exact iff_of_true rfl (Or.inr ⟨publishedRecord X g now context' event, canceled, by simp⟩)

/-- Its CORS headers are all an answer says about origins. -/
theorem mem_headers_answerTo {res : Except Failure (SDKResponse × Context)} {builder : Builder}
    {name : HeaderName} (hname : name ≠ .contentType) {value : HeaderValue} :
    (name, value) ∈ (answerTo res builder).headers ↔ (name, value) ∈ builder.headers := by
  cases res with
  | ok answer => simp [answerTo, Builder.build, Builder.header, hname]
  | error failure => rfl

/-- What the request's own page would be granted can be sent. -/
def HasSendableCors (X : Crates) (g : Globals) (headers : HeaderMap) (event : SDKEventBatch) :
    Prop :=
  ∀ cors, g.cors = some cors → event.device.getPlatform = .web →
    cors.validOrigin event.environment.appId (Context.getValue X headers .origin) = true →
      cors.IsSendable X

/-- Then, and only then, an answer can be built from the request's context. -/
theorem exists_responseBuilderFor_iff (hhttp : X.http.Documented) {context : Context}
    (hcontext : IsContextOf X headers event context) :
    (∃ builder, responseBuilderFor X g.cors (some context) = .ok builder) ↔
      HasSendableCors X g headers event := by
  cases hcors : g.cors with
  | none =>
      refine iff_of_true ⟨{}, rfl⟩ fun cors hsome => ?_
      cases hcors.symm.trans hsome
  | some cors =>
      simp only [responseBuilderFor, HasSendableCors, hcors, Option.some.injEq, forall_eq']
      by_cases hallows : cors.Allows context
      · have hvalid := hallows.1
        rw [hcontext.appId, hcontext.origin] at hvalid
        obtain ⟨origin, _, horigin, _⟩ := Cors.validOrigin_iff.mp hvalid
        obtain ⟨value, _, _, hmade⟩ := Context.origin_of_getValue hhttp horigin
        rw [Cors.exists_responseBuilderOrigin_iff hallows (hcontext.origin.trans horigin) hmade,
          ← hcontext.platform]
        exact ⟨fun hsendable _ _ => hsendable, fun hsendable => hsendable hallows.2 hvalid⟩
      · rw [Cors.responseBuilderOrigin_of_not_allows hallows]
        refine iff_of_true ⟨{}, rfl⟩ fun hweb hvalid => absurd ?_ hallows
        rw [Cors.Allows, hcontext.appId, hcontext.origin, hcontext.platform]
        exact ⟨hvalid, hweb⟩

/-! ## Requests with a batch -/

/-- A request whose body parses handles that batch. -/
theorem runs_handleSdk_of_parsed {r : Outcome Response} (hbody : incoming.body = some body)
    (hevent : X.fromSlice body = some event) (h : Runs (handleSdk X g incoming) t r) :
    (∃ res first second, t = first ++ second ∧
        Handles X g body event incoming.headers first (.returned res) ∧
        Runs (respond X g res) second r) ∨
      Handles X g body event incoming.headers t .panicked ∧ r = .panicked := by
  rcases runs_handleSdk X g h with ⟨_, hnone, _⟩ | ⟨body', event', hbody', hevent', hhandled⟩
  · simp [hbody, hevent] at hnone
  · obtain rfl := Option.some.inj (hbody.symm.trans hbody')
    obtain rfl := Option.some.inj (hevent.symm.trans hevent')
    exact hhandled

/-- Answering adds neither failure. -/
theorem fails_append_iff {res : Except Failure (SDKResponse × Context)}
    {first second : List (Event Calls)} {r : Outcome Response}
    (h : Runs (respond X g res) second r) :
    (IsBlocked (first ++ second) ↔ IsBlocked first) ∧
      (IsCanceled (first ++ second) ↔ IsCanceled first) := by
  have hanswering := (confined_respond X g res).of_steps h
  constructor
  · refine exists_congr fun e => ?_
    rw [List.mem_append, or_iff_left]
    exact fun he => hanswering _ he
  · refine exists_congr fun record => exists_congr fun canceled => ?_
    rw [List.mem_append, or_iff_left]
    exact fun he => hanswering _ he

end Gateway

end XorcGateway
