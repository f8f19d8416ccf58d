/-
# Forged device ids

A device id that does not decrypt leaves the context without one, as a missing
header does, and nothing behind the context can tell the two apart. So a request
with a forged id is refused only when it would be refused without any.
-/

import XorcGateway.Properties.Admission
import XorcGateway.Properties.DeviceIds
import XorcGateway.Semantics.Responses

namespace XorcGateway

open Effects Events Rust Program

/-- The request has a device id header that does not decrypt under the server's
key. -/
structure Context.IsForged (X : Crates) (secret : SecretKey) (headers : HeaderMap) : Prop where
  present : ∃ value, headers.get .xorcDeviceId = some value
  invalid : ¬ Context.Authenticates X secret headers

/-- The request has no effect outside, gets no new identity, and is answered with
an error. -/
structure IsRefused (t : List (Event Calls)) (r : Outcome Response) : Prop where
  quiet : ∀ e ∈ t, ¬ e.call.IsExternal ∧ e.call ≠ Call.newV4
  answered : ∃ response, r = .returned response ∧ 400 ≤ response.status ∧
    response.registrationData = []

namespace Gateway

variable {X : Crates} {g : Globals}

/-- An error after calls without effect is a refusal once it is answered. -/
theorem isRefused_append_iff {error : GatewayError} {context : Option Context}
    {first second : List (Event Calls)} {r : Outcome Response}
    (hquiet : ∀ e ∈ first, ¬ e.call.IsExternal ∧ e.call ≠ Call.newV4)
    (hrespond : Runs (respond X g (.error (error, context))) second r) :
    IsRefused (first ++ second) r ↔
      ∃ builder, responseBuilderFor X g.cors context = .ok builder := by
  constructor
  · rintro ⟨_, response, hr, _⟩
    rw [hr] at hrespond
    obtain ⟨builder, hbuilder, _⟩ := exists_builder_of_runs_respond X g hrespond
    exact ⟨builder, hbuilder⟩
  · rintro ⟨builder, hbuilder⟩
    have hr := runs_respond_eq X g hrespond
    rw [contextOf, hbuilder] at hr
    refine ⟨fun e he => ?_, _, hr, error.le_status, rfl⟩
    rcases List.mem_append.mp he with he | he
    · exact hquiet e he
    · have hanswering := (confined_respond X g _).of_steps hrespond e he
      refine ⟨not_isExternal_of_isAnswering hanswering, fun hdraw => ?_⟩
      rw [hdraw] at hanswering
      exact hanswering

/-- A request that hands a record over is not refused. -/
theorem not_isRefused_of_send {t : List (Event Calls)} {r : Outcome Response}
    {record : FutureRecord} {answer : SendResult}
    (h : (⟨Call.send record, answer⟩ : Event Calls) ∈ t) : ¬ IsRefused t r :=
  fun hrefused => (hrefused.quiet _ h).1 trivial

/-- A handled batch is refused exactly when it is refused its blocking section, or
is not accepted and can be told so. -/
theorem Handles.isRefused_iff (hhttp : X.http.Documented) {body : List UInt8}
    {event : SDKEventBatch} {headers : HeaderMap} {first second : List (Event Calls)}
    {res : Except Failure (SDKResponse × Context)} {r : Outcome Response}
    {apps : HashMap String Application} {context : Context}
    (hcontext : Context.new X g.secret headers event.environment.appId
      event.device.getPlatform = .ok context)
    (htable : ∀ loaded, first.head? = some ⟨Call.loadApps, loaded⟩ → loaded = apps)
    (h : Handles X g body event headers first (.returned res))
    (hrespond : Runs (respond X g res) second r) :
    IsRefused (first ++ second) r ↔ IsBlocked first ∨
      ¬ Accepts X g body event headers apps context ∧ HasSendableCors X g headers event := by
  rcases h.verdict hcontext htable with ⟨hnot, hloads, error, rfl⟩ |
    ⟨haccepts, ⟨e, rfl, error, rfl⟩ | ⟨hfree, record, answer, hsend⟩⟩
  · have hquiet : ∀ e ∈ first, ¬ e.call.IsExternal ∧ e.call ≠ Call.newV4 := by
      intro e he
      rw [hloads e he]
      exact ⟨id, by simp⟩
    have hfree : ¬ IsBlocked first := by
      rintro ⟨e, he⟩
      cases hloads _ he
    rw [isRefused_append_iff hquiet hrespond,
      exists_responseBuilderFor_iff hhttp (isContextOf_new hcontext)]
    simp [hnot, hfree]
  · refine iff_of_true ?_ (Or.inl ⟨e, by simp⟩)
    rw [isRefused_append_iff (by simp [Call.IsExternal]) hrespond]
    exact ⟨{}, responseBuilderFor_no_context X _⟩
  · refine iff_of_false (not_isRefused_of_send (List.mem_append_left _ hsend)) ?_
    rintro (hblocked | hnot)
    · exact hfree hblocked
    · exact hnot.1 haccepts

end Gateway

/-- A forged id is no id in the context. The request is refused exactly when it is
not too short, and the request is refused its blocking section, or it is not admitted
and can be told so. -/
theorem forgedId_refused_iff {X : Crates} {g : Gateway.Globals} (hhttp : X.http.Documented)
    (haead : X.aead.Documented) (huuid : X.uuid.Documented) {rows : List AppRow}
    {incoming : Gateway.Incoming} {body : List UInt8} {event : SDKEventBatch}
    (hbody : incoming.body = some body) (hevent : X.fromSlice body = some event)
    (hforged : Context.IsForged X g.secret incoming.headers) {t : List (Event Calls)}
    {r : Outcome Response}
    (htable : ∀ loaded, t.head? = some ⟨Call.loadApps, loaded⟩ →
      loaded = AppRegistry.buildApps X rows)
    (hrun : Runs (Gateway.handleSdk X g incoming) t r) :
    (∀ appId platform context, Context.new X g.secret incoming.headers appId platform =
      .ok context → context.deviceId = none) ∧
    (IsRefused t r ↔ ¬ Context.IsTooShort X incoming.headers ∧
      (Gateway.IsBlocked t ∨ ¬ IsAdmitted X g rows incoming ∧
        Gateway.HasSendableCors X g incoming.headers event)) := by
  have hnone : ∀ appId platform context, Context.new X g.secret incoming.headers appId platform =
      .ok context → context.deviceId = none := by
    intro appId platform context hnew
    obtain ⟨deviceId, hdeviceId, rfl⟩ := Context.new_eq_ok_iff.mp hnew
    have hlong : ¬ Context.IsTooShort X incoming.headers := by
      intro hshort
      rw [Context.deviceIdOf_of_isTooShort hshort] at hdeviceId
      cases hdeviceId
    obtain ⟨deviceId', hdeviceId', hiff⟩ := Context.deviceIdOf_of_not_isTooShort g.secret hlong
    obtain rfl := Except.ok.inj (hdeviceId.symm.trans hdeviceId')
    rw [← Option.not_isSome_iff_eq_none, hiff]
    exact hforged.invalid
  refine ⟨hnone, ?_⟩
  rcases Gateway.runs_handleSdk_of_parsed hbody hevent hrun with
    ⟨res, first, second, rfl, hhandles, hrespond⟩ | ⟨hpanics, rfl⟩
  · obtain ⟨context, hnew⟩ := hhandles.exists_context
    have hhead : ∀ loaded, first.head? = some ⟨Call.loadApps, loaded⟩ →
        loaded = AppRegistry.buildApps X rows := by
      intro loaded hloaded
      exact htable loaded (by rw [List.head?_append, hloaded, Option.some_or])
    rw [hhandles.isRefused_iff hhttp hnew hhead hrespond, and_iff_right hhandles.not_isTooShort,
      (Gateway.fails_append_iff hrespond).1, isAdmitted_iff X g hbody hevent hnew]
  · refine iff_of_false (fun hrefused => ?_) (fun hlong => ?_)
    · obtain ⟨response, hr, _⟩ := hrefused.answered
      cases hr
    · exact hlong.1 (hpanics.isTooShort haead huuid)

theorem twelveBytes_isForged :
    Context.IsForged Reference.crates Reference.secret twelveBytes where
  present := ⟨_, rfl⟩
  invalid := by
    have hopen : Reference.crates.aead.openInPlace Reference.secret.1 (List.replicate 12 0) [] 0
        [] = none := by decide +kernel
    rintro ⟨s, decoded, content, hs, hdecoded, _, hcontent⟩
    obtain rfl := decoded_twelveBytes hs hdecoded
    cases hopen.symm.trans hcontent

/-- An outside world in which the application table is empty. -/
def withoutApps : Replies :=
  { Reference.working with apps := .new }

/-- A forged id is refused where its application is unknown. -/
theorem forgedId_refused_of_unknown_app :
    IsRefused (Reference.handled (Reference.post Reference.openBody twelveBytes) withoutApps).1
      (Reference.handled (Reference.post Reference.openBody twelveBytes) withoutApps).2 := by
  have htable : ∀ loaded,
      (Reference.handled (Reference.post Reference.openBody twelveBytes) withoutApps).1.head? =
        some ⟨Call.loadApps, loaded⟩ → loaded = AppRegistry.buildApps Reference.crates [] :=
    fun loaded hloaded => answer_eq_of_mem_exec (List.mem_of_head? hloaded)
  refine (forgedId_refused_iff Reference.http_documented Reference.aead_documented
    Reference.uuid_documented rfl Reference.fromSlice_openBody twelveBytes_isForged htable
    (Reference.runs_handled _ withoutApps)).2.mpr ⟨?_, Or.inr ⟨?_, ?_⟩⟩
  · rintro ⟨s, decoded, hs, hdecoded, hshort⟩
    obtain rfl := decoded_twelveBytes hs hdecoded
    simp at hshort
  · rintro ⟨body, event, row, hbody, hevent, hadmits⟩
    cases hadmits.application
  · intro cors hcors
    cases hcors

/-- With a registration in the batch, it is given a new identity instead. -/
theorem forgedId_registered :
    Context.IsForged Reference.crates Reference.secret twelveBytes ∧
    (∃ response, (Reference.handled (Reference.post Reference.registerBody twelveBytes)
      Reference.working).2 = .returned response ∧ response.status = 200 ∧
        response.registrationData ≠ []) ∧
    ¬ IsRefused (Reference.handled (Reference.post Reference.registerBody twelveBytes)
        Reference.working).1
      (Reference.handled (Reference.post Reference.registerBody twelveBytes)
        Reference.working).2 := by
  have hanswered : (Reference.handled (Reference.post Reference.registerBody twelveBytes)
      Reference.working).2.any (fun response => response.status == 200 &&
        !response.registrationData.isEmpty) = true := by decide +kernel
  obtain ⟨response, hresponse, hok⟩ := Outcome.any_eq_true.mp hanswered
  rw [Bool.and_eq_true, beq_iff_eq, Bool.not_eq_true', List.isEmpty_eq_false_iff] at hok
  refine ⟨twelveBytes_isForged, ⟨response, hresponse, hok⟩, fun hrefused => ?_⟩
  obtain ⟨_, hr, _, hnothing⟩ := hrefused.answered
  cases hresponse.symm.trans hr
  exact hok.2 hnothing

end XorcGateway
