/-
# Who gets past validation

The gate of the POST pipeline, condition by condition: what an admitted request
is in terms of the rows the application table was built from, and that a request
reaches the store or Kafka exactly when it is admitted and not refused its
blocking section. Then the one thing the token check misses: a token header that
cannot be read as text counts as no token at all.
-/

import XorcGateway.Reference
import XorcGateway.Semantics.Responses

namespace XorcGateway

open Effects Events Rust Program

variable (X : Crates) (g : Gateway.Globals)

/-! ## Admitted requests -/

/-- The conditions a parsed batch has to meet, in the order they are checked,
against the row that decides about its application. -/
structure Admits (rows : List AppRow) (body : List UInt8) (event : SDKEventBatch)
    (headers : HeaderMap) (row : AppRow) : Prop where
  origin : ∀ cors, g.cors = some cors → event.device.getPlatform = .web →
    ∃ origin allowed, Context.getValue X headers .origin = some origin ∧
      cors.allowedOrigins event.environment.appId = some allowed ∧ origin ∈ allowed
  application : AppRegistry.rowFor rows event.environment.appId = some row
  token : ∀ token, Context.getValue X headers .xorcApiToken = some token →
    token = row.token.getD g.config.gateway.defaultToken
  events : event.events ≠ []
  signature : g.config.gateway.allowEmptySignature = true ∨ ∃ signature secret key decoded,
    Context.getValue X headers .xorcSignature = some signature ∧
      row.secretFor event.device.getPlatform = some secret ∧
      X.hex.decode (asBytes secret) = some key ∧
      X.base64.decode (asBytes signature) = some decoded ∧
      X.hmac.verify key body decoded = true

/-- The request's body parses to a batch that meets all conditions. -/
def IsAdmitted (rows : List AppRow) (incoming : Gateway.Incoming) : Prop :=
  ∃ body event row, incoming.body = some body ∧ X.fromSlice body = some event ∧
    Admits X g rows body event incoming.headers row

theorem refusesOrigin_eq_false_iff {headers : HeaderMap} {event : SDKEventBatch} :
    Gateway.refusesOrigin X g headers event = false ↔
      ∀ cors, g.cors = some cors → event.device.getPlatform = .web →
        ∃ origin allowed, Context.getValue X headers .origin = some origin ∧
          cors.allowedOrigins event.environment.appId = some allowed ∧ origin ∈ allowed := by
  rw [Gateway.refusesOrigin]
  cases hcors : g.cors with
  | none => simp
  | some cors =>
      simp only [Bool.and_eq_false_iff, Bool.not_eq_false', Option.some.injEq, forall_eq',
        Cors.validOrigin_iff, beq_eq_false_iff_ne]
      tauto

/-- The checks accept exactly the admitted requests. -/
theorem accepts_iff {rows : List AppRow} {body : List UInt8} {event : SDKEventBatch}
    {headers : HeaderMap} {context : Context}
    (hcontext : Context.new X g.secret headers event.environment.appId event.device.getPlatform =
      .ok context) :
    Gateway.Accepts X g body event headers (AppRegistry.buildApps X rows) context ↔
      ∃ row, Admits X g rows body event headers row := by
  obtain ⟨deviceId, _, rfl⟩ := Context.new_eq_ok_iff.mp hcontext
  refine ⟨fun h => ?_, fun h => ?_⟩
  · have horigin := (refusesOrigin_eq_false_iff X g).mp h.origin
    obtain ⟨app, happ, htoken, hevents, hsignature⟩ := AppRegistry.validate_eq_ok_iff.mp h.valid
    simp only [AppRegistry.buildApps_get, Option.map_eq_some_iff] at happ
    obtain ⟨row, hrow, rfl⟩ := happ
    refine ⟨row, horigin, hrow, htoken, hevents, ?_⟩
    rcases hsignature with hallow | ⟨signature, key, decoded, hsent, hkey, hdecoded, hverify⟩
    · exact Or.inl hallow
    · rw [AppRegistry.keyFor_ofRow, Option.bind_eq_some_iff] at hkey
      obtain ⟨secret, hsecret, hkey⟩ := hkey
      obtain ⟨bytes, hbytes, rfl⟩ := Option.map_eq_some_iff.mp hkey
      exact Or.inr ⟨signature, secret, bytes, decoded, hsent, hsecret, hbytes, hdecoded, hverify⟩
  · obtain ⟨row, h⟩ := h
    refine ⟨hcontext, (refusesOrigin_eq_false_iff X g).mpr h.origin, ?_⟩
    refine AppRegistry.validate_eq_ok_iff.mpr
      ⟨AppRegistry.ofRow X row, ?_, h.token, h.events, ?_⟩
    · exact (AppRegistry.buildApps_get X rows _).trans (by rw [h.application, Option.map_some])
    · rcases h.signature with hallow | ⟨signature, secret, key, decoded, hsent, hsecret, hkey,
        hdecoded, hverify⟩
      · exact Or.inl hallow
      · refine Or.inr ⟨signature, ⟨key⟩, decoded, hsent, ?_, hdecoded, hverify⟩
        rw [AppRegistry.keyFor_ofRow, hsecret, Option.bind_some, AppRegistry.createKey, hkey]
        rfl

/-- A request is admitted if its batch is accepted. -/
theorem isAdmitted_iff {rows : List AppRow} {incoming : Gateway.Incoming} {body : List UInt8}
    {event : SDKEventBatch} {context : Context} (hbody : incoming.body = some body)
    (hevent : X.fromSlice body = some event)
    (hcontext : Context.new X g.secret incoming.headers event.environment.appId
      event.device.getPlatform = .ok context) :
    IsAdmitted X g rows incoming ↔ Gateway.Accepts X g body event incoming.headers
      (AppRegistry.buildApps X rows) context := by
  rw [accepts_iff X g hcontext]
  constructor
  · rintro ⟨body', event', row, hbody', hevent', h⟩
    obtain rfl := Option.some.inj (hbody.symm.trans hbody')
    obtain rfl := Option.some.inj (hevent.symm.trans hevent')
    exact ⟨row, h⟩
  · rintro ⟨row, h⟩
    exact ⟨body, event, row, hbody, hevent, h⟩

/-! ## The gate -/

namespace Gateway

variable {X g}

theorem not_isExternal_of_isAnswering {call : Call} (h : IsAnswering call) :
    ¬ call.IsExternal := by
  cases call <;> simp_all [IsAnswering, Call.IsExternal]

/-- Building a response touches nothing outside. -/
theorem not_isExternal_of_respond {res : Except Failure (SDKResponse × Context)}
    {t : List (Event Calls)} {r : Outcome Response} (h : Runs (respond X g res) t r)
    {e : Event Calls} (he : e ∈ t) : ¬ e.call.IsExternal ∧ e.call ≠ Call.blocking := by
  have hanswering := (confined_respond X g res).of_steps h e he
  refine ⟨not_isExternal_of_isAnswering hanswering, fun hcall => ?_⟩
  rw [hcall] at hanswering
  exact hanswering

/-- What is seen of a request is seen before it is answered. -/
theorem seen_append_iff {res : Except Failure (SDKResponse × Context)}
    {first second : List (Event Calls)} {r : Outcome Response}
    (h : Runs (respond X g res) second r) :
    (∃ e ∈ first ++ second, e.call.IsExternal) ↔ ∃ e ∈ first, e.call.IsExternal := by
  simp only [List.mem_append, or_and_right, exists_or]
  apply or_iff_left
  rintro ⟨e, he, hexternal⟩
  exact (not_isExternal_of_respond h he).1 hexternal

variable {body : List UInt8} {event : SDKEventBatch} {headers : HeaderMap}
  {t : List (Event Calls)} {context : Context}

/-- What becomes of a handled batch: it is not accepted by the table it was
validated against, and fails with its context at hand; or it is accepted and
refused its blocking section, or hands a record over. -/
theorem Handles.verdict {apps : HashMap String Application}
    {res : Except Failure (SDKResponse × Context)}
    (hcontext : Context.new X g.secret headers event.environment.appId
      event.device.getPlatform = .ok context)
    (htable : ∀ loaded, t.head? = some ⟨Call.loadApps, loaded⟩ → loaded = apps)
    (h : Handles X g body event headers t (.returned res)) :
    (¬ Accepts X g body event headers apps context ∧ (∀ e ∈ t, e.call = Call.loadApps) ∧
        ∃ error, res = .error (error, some context)) ∨
      Accepts X g body event headers apps context ∧
        ((∃ e, t = [⟨Call.loadApps, apps⟩, ⟨Call.blocking, .error e⟩] ∧
            ∃ error, res = .error (error, none)) ∨
          ¬ IsBlocked t ∧ ∃ record answer, (⟨Call.send record, answer⟩ : Event Calls) ∈ t) := by
  have hsame : ∀ {context'}, Context.new X g.secret headers event.environment.appId
      event.device.getPlatform = .ok context' → context' = context := by
    intro context' hcontext'
    exact Except.ok.inj (hcontext'.symm.trans hcontext)
  cases h with
  | originRefused hcontext' horigin =>
      obtain rfl := hsame hcontext'
      refine Or.inl ⟨fun haccepts => ?_, by simp, _, rfl⟩
      cases haccepts.origin.symm.trans horigin
  | @invalid _ loaded _ hcontext' _ hinvalid =>
      obtain rfl := hsame hcontext'
      obtain rfl := htable loaded rfl
      refine Or.inl ⟨fun haccepts => ?_, by simp, _, rfl⟩
      cases haccepts.valid.symm.trans hinvalid
  | @blocked _ loaded _ e haccepts _ _ =>
      obtain rfl := hsame haccepts.context_new
      obtain rfl := htable loaded rfl
      exact Or.inr ⟨haccepts, Or.inl ⟨e, rfl, _, rfl⟩⟩
  | @published _ left loaded _ _ now delivery haccepts hprepares =>
      obtain rfl := hsame haccepts.context_new
      obtain rfl := htable loaded (by simp)
      have hblocked := hprepares.quiet.1
      simp only [IsBlocked, not_exists] at hblocked
      refine Or.inr ⟨haccepts, Or.inr ⟨?_, publishedRecord X g now left event, .ok delivery, ?_⟩⟩
      · simp [IsBlocked, deliveryReport, hblocked]
      · simp
  | @canceled _ left loaded _ _ now canceled haccepts hprepares =>
      obtain rfl := hsame haccepts.context_new
      obtain rfl := htable loaded (by simp)
      have hblocked := hprepares.quiet.1
      simp only [IsBlocked, not_exists] at hblocked
      refine Or.inr ⟨haccepts, Or.inr
        ⟨?_, publishedRecord X g now left event, .error canceled, ?_⟩⟩
      · simp [IsBlocked, hblocked]
      · simp

/-- A handled batch has an effect outside exactly when it is accepted against
the table it was validated with and not refused its blocking section; a batch
that is not accepted fails. -/
theorem handles_external_iff {apps : HashMap String Application}
    {res : Except Failure (SDKResponse × Context)}
    (hcontext : Context.new X g.secret headers event.environment.appId
      event.device.getPlatform = .ok context)
    (htable : ∀ loaded, t.head? = some ⟨Call.loadApps, loaded⟩ → loaded = apps)
    (h : Handles X g body event headers t (.returned res)) :
    ((∃ e ∈ t, e.call.IsExternal) ↔
        Accepts X g body event headers apps context ∧ ¬ IsBlocked t) ∧
      (¬ Accepts X g body event headers apps context → ∃ failure, res = .error failure) := by
  rcases h.verdict hcontext htable with ⟨hnot, hloads, error, rfl⟩ |
    ⟨haccepts, ⟨e, rfl, _⟩ | ⟨hfree, record, answer, hsend⟩⟩
  · refine ⟨iff_of_false ?_ fun haccepts => hnot haccepts.1, fun _ => ⟨_, rfl⟩⟩
    rintro ⟨e, he, hexternal⟩
    rw [hloads e he] at hexternal
    exact hexternal
  · refine ⟨iff_of_false ?_ fun hfree => hfree.2 ⟨e, by simp⟩, fun hnot => absurd haccepts hnot⟩
    simp [Call.IsExternal]
  · exact ⟨iff_of_true ⟨_, hsend, trivial⟩ ⟨haccepts, hfree⟩, fun hnot => absurd haccepts hnot⟩

end Gateway

/-- The gate of the POST pipeline. A request whose headers make a context sends
a query or a record exactly when it is admitted by the table it is validated
against and not refused the blocking section of its registration; a request that
is not admitted is not answered 200. -/
theorem external_effect_iff_admitted (haead : X.aead.Documented) (huuid : X.uuid.Documented)
    {rows : List AppRow} {incoming : Gateway.Incoming} {t : List (Event Calls)}
    {r : Outcome Response}
    (hcontext : ∀ appId platform, ∃ context,
      Context.new X g.secret incoming.headers appId platform = .ok context)
    (htable : ∀ loaded, t.head? = some ⟨Call.loadApps, loaded⟩ →
      loaded = AppRegistry.buildApps X rows)
    (hrun : Runs (Gateway.handleSdk X g incoming) t r) :
    ((∃ e ∈ t, e.call.IsExternal) ↔ IsAdmitted X g rows incoming ∧
        ¬ ∃ e, (⟨Call.blocking, .error e⟩ : Event Calls) ∈ t) ∧
      (¬ IsAdmitted X g rows incoming → ∀ response, r = .returned response →
        response.status ≠ 200) := by
  rcases Gateway.runs_handleSdk X g hrun with ⟨failure, hnone, hrespond⟩ |
    ⟨body, event, hbody, hevent, hhandled⟩
  · have hnot : ¬ IsAdmitted X g rows incoming := by
      intro hadmitted
      obtain ⟨body, event, _, hbody, hevent, _⟩ := hadmitted
      simp [hbody, hevent] at hnone
    refine ⟨⟨fun h => ?_, fun h => absurd h.1 hnot⟩, fun _ response hr => ?_⟩
    · obtain ⟨e, he, hexternal⟩ := h
      exact absurd hexternal (Gateway.not_isExternal_of_respond hrespond he).1
    · rw [hr] at hrespond
      exact (Gateway.runs_respond_error X g hrespond).1
  · obtain ⟨context, hnew⟩ := hcontext event.environment.appId event.device.getPlatform
    rw [isAdmitted_iff X g hbody hevent hnew]
    rcases hhandled with ⟨res, first, second, rfl, hfirst, hsecond⟩ | ⟨hpanicked, _⟩
    · have hhead : ∀ loaded, first.head? = some ⟨Call.loadApps, loaded⟩ →
          loaded = AppRegistry.buildApps X rows := by
        intro loaded hloaded
        exact htable loaded (by rw [List.head?_append, hloaded, Option.some_or])
      obtain ⟨hiff, hfailed⟩ := Gateway.handles_external_iff hnew hhead hfirst
      refine ⟨?_, fun hnot response hr => ?_⟩
      · rw [Gateway.seen_append_iff hsecond, hiff]
        exact and_congr_right' (Gateway.fails_append_iff hsecond).1.not.symm
      · obtain ⟨failure, rfl⟩ := hfailed hnot
        rw [hr] at hsecond
        exact (Gateway.runs_respond_error X g hsecond).1
    · exact absurd hpanicked (Gateway.not_handles_panicked haead huuid hnew)

/-- A registration of the configured application is admitted. -/
theorem isAdmitted_register : IsAdmitted Reference.crates Reference.globals [Reference.row]
    (Reference.post Reference.registerBody []) :=
  ⟨_, Reference.registerBatch, Reference.row, rfl, by decide +kernel,
    { origin := by simp [Gateway.Globals.cors, Cors.new, Reference.globals]
      application := by decide +kernel
      token := by simp [Context.getValue, HeaderMap.get, Reference.post]
      events := by simp [Reference.registerBatch]
      signature := Or.inl rfl }⟩

/-- In a world that works, it has its effect. -/
theorem external_effect_of_register :
    ∃ e ∈ (Reference.handled (Reference.post Reference.registerBody []) Reference.working).1,
      e.call.IsExternal :=
  (external_effect_iff_admitted Reference.crates Reference.globals Reference.aead_documented
    Reference.uuid_documented (fun appId platform => ⟨_, rfl⟩)
    (fun loaded hloaded => answer_eq_of_mem_exec (List.mem_of_head? hloaded))
    (Reference.runs_handled _ _)).1.mpr
    ⟨isAdmitted_register, fun h => by
      obtain ⟨e, he⟩ := h
      cases answer_eq_of_mem_exec he⟩

/-- Refused its blocking section, it is admitted all the same and has none. -/
theorem no_external_effect_of_refused_register :
    IsAdmitted Reference.crates Reference.globals [Reference.row]
      (Reference.post Reference.registerBody []) ∧
    (∀ appId platform, ∃ context,
      Context.new Reference.crates Reference.globals.secret [] appId platform = .ok context) ∧
    ∃ t r, Runs (Gateway.handleSdk Reference.crates Reference.globals
        (Reference.post Reference.registerBody [])) t r ∧
      (∀ loaded, (⟨Call.loadApps, loaded⟩ : Event Calls) ∈ t →
        loaded = AppRegistry.buildApps Reference.crates [Reference.row]) ∧
      ¬ ∃ e ∈ t, e.call.IsExternal := by
  let replies := { Reference.working with blocking := .error {} }
  refine ⟨isAdmitted_register, fun appId platform => ⟨_, rfl⟩, _, _,
    Reference.runs_handled _ replies, fun loaded hloaded => answer_eq_of_mem_exec hloaded, ?_⟩
  have hquiet : ∀ e ∈ (Reference.handled (Reference.post Reference.registerBody []) replies).1,
      ¬ e.call.IsExternal := by decide +kernel
  intro h
  obtain ⟨e, he, hexternal⟩ := h
  exact hquiet e he hexternal

/-! ## The token check -/

/-- A context has the header's text as its token, or none when the header cannot
be read. -/
theorem apiToken_of_header (hhttp : X.http.Documented) {secret : SecretKey} {headers : HeaderMap}
    {appId : String} {platform : Platform} {context : Context} {value : HeaderValue}
    (hheader : headers.get .xorcApiToken = some value)
    (hcontext : Context.new X secret headers appId platform = .ok context) (token : String) :
    context.apiToken = some token ↔
      (∀ b ∈ value.bytes, isVisibleAscii b) ∧ asBytes token = value.bytes := by
  obtain ⟨deviceId, _, rfl⟩ := Context.new_eq_ok_iff.mp hcontext
  rw [← hhttp.toStr_eq_some_iff]
  simp [Context.getValue, hheader]

/-- Of a request that sends a token header, validation accepts only the valid
token exactly when the header can be read as text, or it has the valid token's
bytes, or the request fails another check: there is no such application, there
are no events, or its signature is not accepted. -/
theorem token_checked_iff (hhttp : X.http.Documented) {config : Config} {secret : SecretKey}
    {self : AppRegistry} {headers : HeaderMap} {event : SDKEventBatch} {rawData : List UInt8}
    {appId : String} {platform : Platform} {context : Context} {value : HeaderValue}
    (hheader : headers.get .xorcApiToken = some value)
    (hcontext : Context.new X secret headers appId platform = .ok context) :
    (self.validate X config event context rawData = .ok () →
        ∃ app, self.apps event.environment.appId = some app ∧
          value.bytes = asBytes (AppRegistry.validToken config app)) ↔
      (∀ b ∈ value.bytes, isVisibleAscii b) ∨
        (∃ app, self.apps event.environment.appId = some app ∧
          value.bytes = asBytes (AppRegistry.validToken config app)) ∨
        ¬ ∃ app, self.apps event.environment.appId = some app ∧ event.events ≠ [] ∧
          (self.allowEmptySignature = true ∨ ∃ signature key decoded,
            Context.getValue X headers .xorcSignature = some signature ∧
              app.keyFor event.device.getPlatform = some key ∧
              X.base64.decode (asBytes signature) = some decoded ∧
              X.hmac.verify key.value rawData decoded = true) := by
  have htoken := apiToken_of_header X hhttp hheader hcontext
  have hsignature : context.signature = Context.getValue X headers .xorcSignature := by
    obtain ⟨deviceId, _, rfl⟩ := Context.new_eq_ok_iff.mp hcontext
    rfl
  rw [AppRegistry.validate_eq_ok_iff, hsignature]
  by_cases hvisible : ∀ b ∈ value.bytes, isVisibleAscii b
  · -- readable, so the token is compared
    obtain ⟨sent, hsent⟩ := hhttp.toStr_isSome_iff.mpr hvisible
    have hbytes := ((hhttp.toStr_eq_some_iff value sent).mp hsent).2
    refine ⟨fun _ => Or.inl hvisible, fun _ hvalid => ?_⟩
    obtain ⟨app, happ, hcompared, _⟩ := hvalid
    refine ⟨app, happ, ?_⟩
    rw [← hbytes, hcompared sent ((htoken sent).mpr ⟨hvisible, hbytes⟩)]
  · -- unreadable, so there is nothing to compare
    have hnone : ∀ token, context.apiToken ≠ some token :=
      fun token h => hvisible ((htoken token).mp h).1
    simp only [hvisible, false_or, hnone, false_imp_iff, implies_true, true_and]
    exact imp_iff_or_not

/-- The configured token is compared, so what is accepted with it has its
bytes. -/
theorem token_checked_of_configured :
    ∃ app, Reference.apps Reference.openBatch.environment.appId = some app ∧
      asBytes "46732a28cd44" =
        asBytes (AppRegistry.validToken Reference.globals.config app) := by
  let headers : HeaderMap := [(.xorcApiToken, .fromStatic "46732a28cd44" (by decide))]
  let registry : AppRegistry := ⟨true, Reference.apps⟩
  have hheader : headers.get .xorcApiToken = some (.fromStatic "46732a28cd44" (by decide)) := rfl
  obtain ⟨context, hcontext⟩ : ∃ context, Context.new Reference.crates Reference.secret headers
      Reference.appId .unknown = .ok context := ⟨_, rfl⟩
  have hvalid : registry.validate Reference.crates Reference.globals.config Reference.openBatch
      context (asBytes Reference.openBody) = .ok () := by
    obtain rfl := Except.ok.inj hcontext
    decide +kernel
  exact (token_checked_iff Reference.crates Reference.http_documented hheader hcontext).mpr
    (Or.inl (List.all_eq_true.mp (by decide))) hvalid

/-- A byte that is no text is accepted as any token. -/
theorem unreadable_token_accepted : ∃ context,
    Context.new Reference.crates Reference.secret
      [(.xorcApiToken, ⟨[0xFF], List.all_eq_true.mp rfl⟩)] Reference.appId .unknown =
        .ok context ∧
    (AppRegistry.mk true Reference.apps).validate Reference.crates Reference.globals.config
      Reference.openBatch context (asBytes Reference.openBody) = .ok () ∧
    ¬ ∃ app, Reference.apps Reference.openBatch.environment.appId = some app ∧
      [0xFF] = asBytes (AppRegistry.validToken Reference.globals.config app) := by
  refine ⟨_, rfl, by decide +kernel, ?_⟩
  intro h
  obtain ⟨app, happ, hbytes⟩ := h
  obtain rfl : AppRegistry.ofRow Reference.crates Reference.row = app := Option.some.inj happ
  exact absurd hbytes (by decide +kernel)

end XorcGateway
