/-
# The credentials a registration hands out

A registration answers with a ciphertext and perhaps a token. The ciphertext
decrypts to the id its batch is published under, whichever way that id was come
by, and a later request that sends both back has the same id in its context and
is not refused for its token, as long as the application's entry stays the same.
-/

import XorcGateway.Properties.Recipients
import XorcGateway.Semantics.Store

namespace XorcGateway

open Effects Events Rust Program

/-- A request's headers send a registration's data back: the ciphertext as the
device id, and the token, or no token header if there was none. -/
structure Presents (headers : HeaderMap) (data : RegistrationData) : Prop where
  deviceId : ∃ value, headers.get .xorcDeviceId = some value ∧
    value.bytes = asBytes data.deviceId.value
  apiToken : match data.apiToken with
    | some token => ∃ value, headers.get .xorcApiToken = some value ∧ value.bytes = asBytes token
    | none => headers.get .xorcApiToken = none

/-- Data whose parts can be sent as header values can be sent back. -/
theorem exists_presents {data : RegistrationData} {value : HeaderValue}
    (hdeviceId : value.bytes = asBytes data.deviceId.value)
    (hapiToken : ∀ token, data.apiToken = some token → ∀ b ∈ asBytes token, isHeaderByte b) :
    ∃ headers, Presents headers data := by
  cases htoken : data.apiToken with
  | none =>
      refine ⟨[(.xorcDeviceId, value)], ⟨value, by simp [HeaderMap.get], hdeviceId⟩, ?_⟩
      rw [htoken]
      rfl
  | some token =>
      refine ⟨[(.xorcDeviceId, value), (.xorcApiToken, ⟨asBytes token, hapiToken token htoken⟩)],
        ⟨value, by simp [HeaderMap.get], hdeviceId⟩, ?_⟩
      rw [htoken]
      exact ⟨_, rfl, rfl⟩

variable {X : Crates} {g : Gateway.Globals}

/-- A device id read from a header decrypts, and its ciphertext is header
text. -/
theorem Context.decrypt_of_deviceIdOf (hhttp : X.http.Documented) {secret : SecretKey}
    {headers : HeaderMap} {deviceId : DeviceId}
    (h : deviceIdOf X secret headers = .ok (some deviceId)) :
    Cleartext.decrypt X secret deviceId.ciphertext = .ok (.ok deviceId.cleartext) ∧
      ∀ b ∈ asBytes deviceId.ciphertext.value, isVisibleAscii b := by
  rw [deviceIdOf] at h
  cases hvalue : getValue X headers .xorcDeviceId with
  | none => simp [hvalue, Pure.pure, Except.pure] at h
  | some s =>
      have hvisible : ∀ b ∈ asBytes s, isVisibleAscii b := by
        obtain ⟨value, _, hs⟩ := Option.bind_eq_some_iff.mp hvalue
        obtain ⟨hbytes, heq⟩ := (hhttp.toStr_eq_some_iff value s).mp hs
        rwa [heq]
      simp only [hvalue, decryptDeviceId, Bind.bind, Except.bind, Pure.pure, Except.pure] at h
      cases hdecrypt : Cleartext.decrypt X secret ⟨s⟩ with
      | error panic => simp [hdecrypt] at h
      | ok result =>
          cases result with
          | error _ => simp [hdecrypt] at h
          | ok cleartext =>
              simp only [hdecrypt, Except.ok.injEq, Option.some.injEq] at h
              subst h
              exact ⟨hdecrypt, hvisible⟩

/-- A header with the ciphertext's text is read back as the device id. -/
theorem Context.deviceIdOf_of_decrypt (hhttp : X.http.Documented) {secret : SecretKey}
    {headers : HeaderMap} {value : HeaderValue} {c : Ciphertext} {d : Cleartext}
    (hheader : headers.get .xorcDeviceId = some value) (hbytes : value.bytes = asBytes c.value)
    (hvisible : ∀ b ∈ asBytes c.value, isVisibleAscii b)
    (hdecrypt : Cleartext.decrypt X secret c = .ok (.ok d)) :
    deviceIdOf X secret headers = .ok (some ⟨c, d⟩) := by
  have hvalue : getValue X headers .xorcDeviceId = some c.value := by
    rw [getValue, hheader, Option.bind_some, hhttp.toStr_eq_some_iff, hbytes]
    exact ⟨hvisible, rfl⟩
  have hc : Cleartext.decrypt X secret ⟨c.value⟩ = .ok (.ok d) := hdecrypt
  rw [deviceIdOf, hvalue]
  simp only [decryptDeviceId, hc]
  rfl

/-- The token a registration hands out is the application's valid one. -/
theorem Gateway.TokenRead.valid {sent token : Option String} {appId : String}
    {t : List (Event Calls)} (h : TokenRead sent appId t token) {config : Config}
    {app : Application}
    (hsent : ∀ s, sent = some s → s = AppRegistry.validToken config app)
    (happ : ∀ apps, (⟨Call.loadApps, apps⟩ : Event Calls) ∈ t → apps appId = some app) :
    ∀ s, token = some s → s = AppRegistry.validToken config app := by
  intro s hs
  cases h with
  | sent hsame => exact hsent s (hsame.trans hs)
  | own apps hnone =>
      rw [happ apps (by simp), Option.bind_some] at hs
      rw [AppRegistry.validToken, hs, Option.getD_some]

/-- The device id a registration hands out decrypts from its ciphertext, which
can be sent as a header: whether the header gave it, or the store, or it was
drawn. -/
theorem Gateway.Registers.decrypts (hhttp : X.http.Documented) (hX : X.DocumentedIds)
    {headers : HeaderMap} {appId : String} {platform : Platform} {context : Context}
    {event : SDKEventBatch} {t : List (Event Calls)} {deviceId : DeviceId} {token : Option String}
    (hcontext : Context.new X g.secret headers appId platform = .ok context)
    (h : Registers X g context event t deviceId token) :
    Cleartext.decrypt X g.secret deviceId.ciphertext = .ok (.ok deviceId.cleartext) ∧
      ∀ b ∈ asBytes deviceId.ciphertext.value, isVisibleAscii b := by
  cases h with
  | known hknown _ =>
      obtain ⟨fromHeader, hheader, rfl⟩ := Context.new_eq_ok_iff.mp hcontext
      obtain rfl : fromHeader = some deviceId := hknown
      exact Context.decrypt_of_deviceIdOf hhttp hheader
  | acquired _ hget _ =>
      obtain ⟨u, c, hacquires, hreturned⟩ := runs_getId X g hX.aead hX.uuid hget
      obtain rfl := Outcome.returned.inj hreturned
      obtain ⟨nonce, hencrypt⟩ := hacquires.encrypt
      have hlength := hX.uuid.length_hyphenated u
      refine ⟨decrypt_encrypt_of_length hX.aead hX.base64 hlength hencrypt, ?_⟩
      have hle : (asBytes (Cleartext.mk (X.uuid.hyphenated u)).value).length ≤ 52 := by
        simp [hlength]
      obtain ⟨sealed, hpayload, _⟩ := encrypt_of_le g.secret hX.aead nonce hle
      rw [hpayload] at hencrypt
      obtain rfl := Except.ok.inj hencrypt
      exact hX.base64.encode_visible _

/-- A registration reads its token somewhere in its run. -/
theorem Gateway.Registers.tokenRead {context : Context} {event : SDKEventBatch}
    {t : List (Event Calls)} {deviceId : DeviceId} {token : Option String}
    (h : Registers X g context event t deviceId token) :
    ∃ last, TokenRead context.apiToken context.appId last token ∧ ∀ e ∈ last, e ∈ t := by
  cases h with
  | known _ htoken => exact ⟨t, htoken, fun e he => he⟩
  | acquired _ _ htoken => exact ⟨_, htoken, fun e he => List.mem_append_right _ he⟩

/-- Registration data comes from a registration, whose id and token are in the
context the batch is published under. -/
theorem Gateway.Publication.registers_of_mem {incoming : Incoming} (p : Publication X g incoming)
    {data : RegistrationData} (h : data ∈ p.results.filterMap EventResult.registrationData) :
    ∃ d, Registers X g p.context p.event p.pre ⟨data.deviceId, d⟩ data.apiToken ∧
      p.context' = registered p.context ⟨data.deviceId, d⟩ data.apiToken := by
  have hprepares := p.prepares
  generalize p.context' = context' at hprepares ⊢
  generalize p.results = results at hprepares h
  generalize p.pre = pre at hprepares ⊢
  cases hprepares with
  | plain _ => simp [EventResult.new] at h
  | @registration eventId _ deviceId token _ hregisters =>
      obtain rfl : data = ⟨token, deviceId.ciphertext⟩ := by
        simpa [registrationResults, EventResult.register] using h
      exact ⟨deviceId.cleartext, hregisters, rfl⟩

/-- A request that sends the data back has its device id in the context. -/
theorem Presents.context (hhttp : X.http.Documented) {later : HeaderMap} {data : RegistrationData}
    (h : Presents later data) (hvisible : ∀ b ∈ asBytes data.deviceId.value, isVisibleAscii b)
    {secret : SecretKey} {d : Cleartext}
    (hdecrypt : Cleartext.decrypt X secret data.deviceId = .ok (.ok d)) (appId : String)
    (platform : Platform) :
    ∃ context, Context.new X secret later appId platform = .ok context ∧
      context.deviceId = some ⟨data.deviceId, d⟩ := by
  obtain ⟨value, hheader, hbytes⟩ := h.deviceId
  exact ⟨_, Context.new_eq_ok_iff.mpr ⟨_,
    Context.deviceIdOf_of_decrypt hhttp hheader hbytes hvisible hdecrypt, rfl⟩, rfl⟩

/-- A request that sends a valid token back, or none, is not refused for its
token. -/
theorem Presents.not_invalidToken (hhttp : X.http.Documented) {later : HeaderMap}
    {data : RegistrationData} (h : Presents later data) {app : Application}
    (hvalid : ∀ s, data.apiToken = some s → s = AppRegistry.validToken g.config app)
    {event : SDKEventBatch} {body : List UInt8} {t : List (Event Calls)}
    {context : Option Context}
    (happ : ∀ apps, (⟨Call.loadApps, apps⟩ : Event Calls) ∈ t →
      apps event.environment.appId = some app) :
    ¬ Runs (Gateway.handleEvent X g body event later) t
      (.returned (.error (.invalidToken, context))) := by
  intro hrun
  have hhandles := Gateway.runs_handleEvent X g hrun
  generalize hr : Outcome.returned (Except.error (GatewayError.invalidToken, context)) = r
    at hhandles
  cases hhandles with
  | @invalid context' apps e hcontext _ hinvalid =>
      cases hr
      refine AppRegistry.validate_ne_invalidToken (fun app' token happ' htoken => ?_) hinvalid
      obtain rfl : app = app' :=
        Option.some.inj ((happ apps (by simp)).symm.trans happ')
      obtain ⟨_, _, rfl⟩ := Context.new_eq_ok_iff.mp hcontext
      have hsent : Context.getValue X later .xorcApiToken = some token := htoken
      have hpresented := h.apiToken
      cases hdata : data.apiToken with
      | none =>
          rw [hdata] at hpresented
          simp [Context.getValue, show later.get .xorcApiToken = none from hpresented] at hsent
      | some s =>
          rw [hdata] at hpresented
          obtain ⟨value, hheader, hbytes⟩ := hpresented
          have hread : X.http.toStr value = some token := by
            rwa [Context.getValue, hheader, Option.bind_some] at hsent
          have hsame := ((hhttp.toStr_eq_some_iff value token).mp hread).2
          rw [hbytes, asBytes_inj] at hsame
          rw [hsame, hvalid s hdata]
  | _ => cases hr

/-- Registration hands out working credentials for one identity. If a request
ends in 200 with registration data, its ciphertext decrypts to the recipient the
batch was published for, which is also the device part of the record's key; and
while the application's entry stays the same, every later request that sends the
data back has that device id in its context and is not refused for its token. -/
theorem registration_credentials_work (hhttp : X.http.Documented) (hX : X.DocumentedIds)
    {incoming : Gateway.Incoming} {body : List UInt8} {event : SDKEventBatch}
    {t : List (Event Calls)} {response : Response} {data : RegistrationData} {app : Application}
    (hbody : incoming.body = some body) (hevent : X.fromSlice body = some event)
    (hrun : Runs (Gateway.handleSdk X g incoming) t (.returned response))
    (hok : response.status = 200) (hdata : data ∈ response.registrationData)
    (happ : ∀ apps, (⟨Call.loadApps, apps⟩ : Event Calls) ∈ t →
      apps event.environment.appId = some app) :
    ∃ d, Cleartext.decrypt X g.secret data.deviceId = .ok (.ok d) ∧
      (∃ record answer, (⟨Call.send record, answer⟩ : Event Calls) ∈ t) ∧
      (∀ record answer, (⟨Call.send record, answer⟩ : Event Calls) ∈ t →
        record.payload.header.recipientId = some d.value ∧
          record.key = some (asBytes (event.environment.appId ++ "|" ++ d.value))) ∧
      (∃ value, X.http.fromStr data.deviceId.value = some value ∧
        value.bytes = asBytes data.deviceId.value) ∧
      ∀ later event', Presents later data →
        event'.environment.appId = event.environment.appId →
        (∃ context, Context.new X g.secret later event'.environment.appId
            event'.device.getPlatform = .ok context ∧
          context.deviceId = some ⟨data.deviceId, d⟩) ∧
        ∀ body' t' context, (∀ apps, (⟨Call.loadApps, apps⟩ : Event Calls) ∈ t' →
            apps event.environment.appId = some app) →
          ¬ Runs (Gateway.handleEvent X g body' event' later) t'
            (.returned (.error (.invalidToken, context))) := by
  obtain ⟨p, delivery, second, rfl, hrespond, hjson⟩ :=
    Gateway.exists_publication_of_ok X g hrun hok
  obtain rfl := Option.some.inj (hbody.symm.trans p.body_eq)
  obtain rfl := Option.some.inj (hevent.symm.trans p.event_eq)
  have hmem : data ∈ p.results.filterMap EventResult.registrationData := by
    rwa [Response.registrationData, hjson] at hdata
  obtain ⟨d, hregisters, hcontext'⟩ := p.registers_of_mem hmem
  obtain ⟨hdecrypt, hvisible⟩ := hregisters.decrypts hhttp hX p.accepts.context_new
  have hsendable := hhttp.fromStr_eq_some data.deviceId.value hvisible
  have happId : p.context.appId = p.event.environment.appId := by
    obtain ⟨_, _, hcontext⟩ := Context.new_eq_ok_iff.mp p.accepts.context_new
    rw [hcontext]
  refine ⟨d, hdecrypt, ⟨p.record, .ok delivery, by simp⟩, fun record answer hsend => ?_,
    hsendable, fun later event' hpresents hsame => ⟨?_, fun body' t' context happ' => ?_⟩⟩
  · obtain ⟨rfl, _⟩ := p.send_unique
      (p.reports_send_nothing (Gateway.respond_sends_nothing X g hrespond)) hsend
    rw [Gateway.Publication.record, Gateway.publishedRecord_recipientId,
      Gateway.publishedRecord_key, SDKEventBatch.recipientFor, Kafka.routingKey, hcontext',
      ← happId]
    exact ⟨rfl, rfl⟩
  · exact hpresents.context hhttp hvisible hdecrypt _ _
  · have htoken : ∀ s, data.apiToken = some s → s = AppRegistry.validToken g.config app := by
      obtain ⟨last, hread, hlast⟩ := hregisters.tokenRead
      have hloaded : (⟨Call.loadApps, p.apps⟩ : Event Calls) ∈ p.before := by
        simp [Gateway.Publication.before]
      refine hread.valid (fun s hs => ?_) fun apps hmem => ?_
      · obtain ⟨app', happ', hcompared, _⟩ :=
          AppRegistry.validate_eq_ok_iff.mp p.accepts.valid
        obtain rfl : app = app' := Option.some.inj
          ((happ p.apps (List.mem_append_left _ hloaded)).symm.trans happ')
        exact hcompared s hs
      · have hpre : (⟨Call.loadApps, apps⟩ : Event Calls) ∈ p.before := by
          simp [Gateway.Publication.before, hlast _ hmem]
        rw [happId]
        exact happ apps (List.mem_append_left _ hpre)
    exact hpresents.not_invalidToken hhttp htoken (hsame ▸ happ')

/-- A first registration is answered with a device id that a later request of
the application can send back and then has in its context. -/
theorem register_credentials_work : ∃ response data d later context,
    (Reference.handled (Reference.post Reference.registerBody []) Reference.working).2 =
      .returned response ∧
    data ∈ response.registrationData ∧
    Cleartext.decrypt Reference.crates Reference.secret data.deviceId = .ok (.ok d) ∧
    Presents later data ∧
    Context.new Reference.crates Reference.secret later Reference.appId .unknown =
      .ok context ∧ context.deviceId = some ⟨data.deviceId, d⟩ := by
  have hrun := Reference.runs_handled (Reference.post Reference.registerBody []) Reference.working
  have hbody : (Reference.post Reference.registerBody []).body =
      some (asBytes Reference.registerBody) := rfl
  have hparsed := Reference.fromSlice_registerBody
  have hloaded : ∀ apps, (⟨Call.loadApps, apps⟩ : Event Calls) ∈
      (Reference.handled (Reference.post Reference.registerBody []) Reference.working).1 →
      apps Reference.appId = some (AppRegistry.ofRow Reference.crates Reference.row) := by
    intro apps hmem
    rw [answer_eq_of_mem_exec hmem]
    rfl
  have hended : (Reference.handled (Reference.post Reference.registerBody [])
      Reference.working).2.any (fun response =>
        response.status == 200 && !response.registrationData.isEmpty &&
          response.registrationData.all fun data =>
            data.apiToken.all fun token => (asBytes token).all isHeaderByte) = true := by
    decide +kernel
  obtain ⟨response, hr, hanswered⟩ := Outcome.any_eq_true.mp hended
  simp only [Bool.and_eq_true, beq_iff_eq, Bool.not_eq_true',
    List.isEmpty_eq_false_iff] at hanswered
  obtain ⟨⟨hok, hnonempty⟩, htokens⟩ := hanswered
  rw [hr] at hrun
  obtain ⟨data, hdata⟩ := List.exists_mem_of_ne_nil _ hnonempty
  have htoken : ∀ token, data.apiToken = some token → ∀ b ∈ asBytes token, isHeaderByte b := by
    intro token hsome
    have hall := List.all_eq_true.mp htokens data hdata
    rw [hsome] at hall
    exact List.all_eq_true.mp hall
  obtain ⟨d, hdecrypt, _, _, ⟨value, _, hbytes⟩, hlater⟩ :=
    registration_credentials_work Reference.http_documented Reference.crates_documentedIds
      hbody hparsed hrun hok hdata hloaded
  obtain ⟨later, hpresents⟩ := exists_presents hbytes htoken
  obtain ⟨context, hcontext, hdevice⟩ := (hlater later Reference.registerBatch hpresents rfl).1
  exact ⟨response, data, d, later, context, hr, hdata, hdecrypt, hpresents, hcontext, hdevice⟩

end XorcGateway
