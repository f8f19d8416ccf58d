/-
# What a process gives away about its secrets

The secret of an application is read in one place, where the signature of a request
is verified. Two processes whose applications differ in their secrets only behave the
same as long as every signature they are sent has the same verdict under the one
secret as under the other: no response, statement, record, log line or counter of a
request shows more of a secret than these verdicts.
-/

import XorcGateway.Effects.Exchange
import XorcGateway.Process
import XorcGateway.Properties.RequestCounter
import XorcGateway.Semantics.Pipeline

namespace XorcGateway

open Effects Events Rust Program

/-- The signature a request carries, decoded. -/
def HttpRequest.signature (X : Crates) (req : HttpRequest) : Option (List UInt8) :=
  (Context.getValue X req.incoming.headers .xorcSignature).bind fun text =>
    X.base64.decode (asBytes text)

section

variable (X : Crates) {ι : Type} (requests : ι → HttpRequest)

/-- Under either key every request gets the same verdict. -/
def VerificationKey.AlikeFor (key key' : VerificationKey) : Prop :=
  ∀ j body signature, (requests j).incoming.body = some body →
    (requests j).signature X = some signature →
    X.hmac.verify key.value body signature = X.hmac.verify key'.value body signature

/-- The applications have the same token and keys for the same platforms, under which
every request gets the same verdict. -/
structure Application.AlikeFor (app app' : Application) : Prop where
  token : app.token = app'.token
  keys : ∀ platform, Option.Rel (VerificationKey.AlikeFor X requests) (app.keyFor platform)
    (app'.keyFor platform)

/-- The tables have the same ids, with applications that are alike. -/
def AppRegistry.TablesAlike (apps apps' : HashMap String Application) : Prop :=
  ∀ id, Option.Rel (Application.AlikeFor X requests) (apps id) (apps' id)

/-- What a request may find in its place: another table if it is alike, and
otherwise the same answer. -/
def Calls.AlikeFor : ∀ c, Calls.Answer c → Calls.Answer c → Prop
  | .loadApps => AppRegistry.TablesAlike X requests
  | _ => Eq

end

/-- Options that are related are both nothing, or both something. -/
theorem eq_none_or_of_rel {α β : Type} {r : α → β → Prop} {a : Option α} {b : Option β}
    (h : Option.Rel r a b) :
    (a = none ∧ b = none) ∨ ∃ x y, a = some x ∧ b = some y ∧ r x y := by
  cases h with
  | none => exact Or.inl ⟨rfl, rfl⟩
  | some h => exact Or.inr ⟨_, _, rfl, rfl, h⟩

variable {X : Crates} {ι : Type} {requests : ι → HttpRequest}

namespace AppRegistry

variable {apps apps' : HashMap String Application}

theorem TablesAlike.token (h : TablesAlike X requests apps apps') (appId : String) :
    (apps appId).bind Application.token = (apps' appId).bind Application.token := by
  rcases eq_none_or_of_rel (h appId) with ⟨hnone, hnone'⟩ | ⟨app, app', happ, happ', halike⟩
  · rw [hnone, hnone']
  · rw [happ, happ']
    exact halike.token

/-- A request is validated alike. -/
theorem TablesAlike.validate (h : TablesAlike X requests apps apps') {j : ι} {body : List UInt8}
    (hbody : (requests j).incoming.body = some body) (config : Config) (allow : Bool)
    (event : SDKEventBatch) {context : Context}
    (hsignature : context.signature =
      Context.getValue X (requests j).incoming.headers .xorcSignature) :
    (⟨allow, apps⟩ : AppRegistry).validate X config event context body =
      (⟨allow, apps'⟩ : AppRegistry).validate X config event context body := by
  rw [AppRegistry.validate, AppRegistry.validate]
  rcases eq_none_or_of_rel (h event.environment.appId) with
    ⟨hnone, hnone'⟩ | ⟨app, app', happ, happ', halike⟩
  · simp only [hnone, hnone']
  · have htoken : validToken config app = validToken config app' := by
      rw [validToken, validToken, halike.token]
    simp only [happ, happ', htoken]
    cases hsent : context.signature with
    | none => rfl
    | some text =>
        rcases eq_none_or_of_rel (halike.keys event.device.getPlatform) with
          ⟨hnone, hnone'⟩ | ⟨key, key', hkey, hkey', hverdict⟩
        · simp only [hnone, hnone']
        · simp only [hkey, hkey']
          cases hdecoded : X.base64.decode (asBytes text) with
          | none => rfl
          | some signature =>
              have hcarried : (requests j).signature X = some signature := by
                rw [HttpRequest.signature, ← hsignature, hsent, Option.bind_some, hdecoded]
              simp only [hverdict j body signature hbody hcarried]

end AppRegistry

/-! ## Blind requests -/

namespace Gateway

/-- A stage that does not load the table is blind to its secrets. -/
theorem blind_of_confined {α : Type} {p : Request α} {allowed : Call → Prop}
    (h : Confined allowed p) (hallowed : ¬ allowed .loadApps) :
    Blind (Calls.AlikeFor X requests) p := by
  apply h.blind
  intro c hc answer answer' halike
  cases c with
  | loadApps => exact absurd hc hallowed
  | _ => exact halike

variable {g : Globals}

theorem blind_withToken (context : Context) :
    Blind (Calls.AlikeFor X requests) (withToken g context) := by
  rw [withToken]
  cases context.apiToken with
  | some token => exact .done _
  | none =>
      apply Blind.call
      · intro apps apps' (halike : AppRegistry.TablesAlike X requests apps apps')
        simp only [done_bind, AppRegistry.tokenFor, halike.token context.appId]
      · exact fun _ => .done _

theorem blind_fetchId (context : Context) (event : SDKEventBatch) :
    Blind (Calls.AlikeFor X requests) (fetchId X g context event) := by
  rw [fetchId]
  cases context.deviceId with
  | some deviceId => exact .done _
  | none =>
      apply Blind.call
      · rintro answer _ rfl
        rfl
      · intro answer
        cases answer with
        | error e => exact .done _
        | ok _ =>
            have hsection := confined_getId X g context.appId event.device.ifa
              event.device.ifaTrackingEnabled
            exact (blind_of_confined hsection id).bind fun _ => .done _

theorem blind_generateEventResults (context : Context) (event : SDKEventBatch) :
    Blind (Calls.AlikeFor X requests) (generateEventResults X g context event) := by
  rw [generateEventResults]
  cases findRegisterEvent event with
  | none => exact .done _
  | some eventId =>
      apply (blind_fetchId context event).bind
      intro fetched
      cases fetched with
      | error e => exact .done _
      | ok deviceId => exact (blind_withToken _).bind fun _ => .done _

theorem blind_publishEvents (results : List EventResult) (context : Context)
    (event : SDKEventBatch) :
    Blind (Calls.AlikeFor X requests) (publishEvents X g results context event) := by
  have hconfined : Confined (· ≠ Call.loadApps) (publishEvents X g results context event) := by
    refine .call (by simp) fun now => .call (by simp) fun answer => ?_
    cases answer with
    | error e => exact .done _
    | ok delivery => exact .call (by simp) fun _ => .call (by simp) fun _ => .done _
  exact blind_of_confined hconfined (by simp)

/-- A request is blind to the secrets behind the verdict on its own signature. -/
theorem blind_handleEvent {j : ι} {body : List UInt8}
    (hbody : (requests j).incoming.body = some body) (event : SDKEventBatch) :
    Blind (Calls.AlikeFor X requests)
      (handleEvent X g body event (requests j).incoming.headers) := by
  rw [handleEvent]
  cases hcontext : Context.new X g.secret (requests j).incoming.headers
      event.environment.appId event.device.getPlatform with
  | error panic => exact .panic
  | ok context =>
      have hsignature : context.signature =
          Context.getValue X (requests j).incoming.headers .xorcSignature := by
        obtain ⟨_, _, rfl⟩ := Context.new_eq_ok_iff.mp hcontext
        rfl
      simp only [liftPanic_ok, bind_eq_bind, done_bind]
      split
      · exact .done _
      · apply Blind.call
        · intro apps apps' (halike : AppRegistry.TablesAlike X requests apps apps')
          simp only [done_bind, halike.validate hbody g.config g.config.gateway.allowEmptySignature
            event hsignature]
        · intro apps
          simp only [done_bind]
          split
          · exact .done _
          · apply (blind_generateEventResults _ event).bind
            intro generated
            cases generated with
            | error e => exact .done _
            | ok prepared => exact blind_publishEvents _ _ _

theorem blind_handleSdk (j : ι) :
    Blind (Calls.AlikeFor X requests) (handleSdk X g (requests j).incoming) := by
  apply Blind.bind
  · rw [handleBody]
    cases hbody : (requests j).incoming.body with
    | none => exact .done _
    | some body =>
        cases hevent : X.fromSlice body with
        | none =>
            simp only [hevent]
            exact .done _
        | some event =>
            simp only [hevent]
            exact blind_handleEvent hbody event
  · exact fun res => blind_of_confined (confined_respond X g res) (by simp [IsAnswering])

/-- So is a request of any route. -/
theorem blind_service (encoder : TextEncoder) (j : ι) :
    Blind (alikeLeft (Calls.AlikeFor X requests)) (service X g encoder (requests j)) := by
  have hliftPanic : ∀ value : Except Panic Response,
      Blind (Calls.AlikeFor X requests) (liftPanic value) := by
    intro value
    have hsilent : Confined (S := Calls) (fun _ => False) (liftPanic value) :=
      confined_liftPanic value
    exact blind_of_confined hsilent id
  have hcount : ∀ (counter : Counter) {p : Unit → Request Response},
      (∀ answer, Blind (Calls.AlikeFor X requests) (p answer)) →
      Blind (Calls.AlikeFor X requests) (.call (.inc counter 1) p) := by
    intro counter p hp
    exact .call (fun _ _ _ => rfl) hp
  rw [service]
  cases (requests j).route with
  | sdkOptions => exact (hcount _ fun _ => hliftPanic _).left
  | sdkEvents => exact (blind_handleSdk j).left
  | notFound => exact (hcount _ fun _ => .done _).left
  | metrics =>
      apply Blind.call
      · rintro families _ rfl
        rfl
      · intro families
        simp only [done_bind]
        split
        · exact .done _
        · exact .panic

end Gateway

/-! ## Two processes -/

namespace AppRegistry

section

variable (X : Crates) {ρ : Type} (cdrs : Cdrs ρ) (requests : ι → HttpRequest)

/-- The rows stand for the same application with secrets that are alike, or neither
can be read. -/
def RowsAlike (row row' : ρ) : Prop :=
  ((∃ panic, readRow X cdrs row = .error panic) ∧ ∃ panic, readRow X cdrs row' = .error panic) ∨
    ∃ appRow appRow', readRow X cdrs row = .ok appRow ∧ readRow X cdrs row' = .ok appRow' ∧
      appRow.id = appRow'.id ∧ (ofRow X appRow).AlikeFor X requests (ofRow X appRow')

/-- The attempts fail alike, or receive rows that are alike. -/
inductive AttemptsAlike : Attempt ρ → Attempt ρ → Prop
  | noConnection : AttemptsAlike .noConnection .noConnection
  | queryFailed : AttemptsAlike .queryFailed .queryFailed
  | answered {frame frame' : AppsFrame ρ}
      (hrows : Option.Rel (List.Forall₂ (RowsAlike X cdrs requests))
        (frame.body.bind AppsBody.rows) (frame'.body.bind AppsBody.rows)) :
      AttemptsAlike (.answered frame) (.answered frame')

/-- A table with rows of a refresh inserted, one after the other. -/
def insertRows (apps : HashMap String Application) (rows : List ρ) :
    Except Panic (HashMap String Application) :=
  rows.foldlM (fun acc row => do
    let appRow ← readRow X cdrs row
    return acc.insert appRow.id (ofRow X appRow)) apps

/-- The registries have tables that are alike, and are refreshed alike. -/
structure UpdatersAlike (updater updater' : Updater) : Prop where
  apps : TablesAlike X requests updater.registry.apps updater'.registry.apps
  hasPool : updater.registry.hasPool = updater'.registry.hasPool
  running : updater.running = updater'.running

end

variable {ρ : Type} {cdrs : Cdrs ρ}

theorem insertRows_cons_of_ok {row : ρ} {appRow : AppRow} (h : readRow X cdrs row = .ok appRow)
    (apps : HashMap String Application) (rows : List ρ) :
    insertRows X cdrs apps (row :: rows) =
      insertRows X cdrs (apps.insert appRow.id (ofRow X appRow)) rows := by
  rw [insertRows, List.foldlM_cons, h]
  rfl

theorem insertRows_cons_of_error {row : ρ} {panic : Panic} (h : readRow X cdrs row = .error panic)
    {apps : HashMap String Application} {rows : List ρ} :
    insertRows X cdrs apps (row :: rows) = .error panic := by
  rw [insertRows, List.foldlM_cons, h]
  rfl

theorem TablesAlike.insert {apps apps' : HashMap String Application}
    (h : TablesAlike X requests apps apps') (id : String) {app app' : Application}
    (happ : app.AlikeFor X requests app') :
    TablesAlike X requests (apps.insert id app) (apps'.insert id app') := by
  intro other
  by_cases hother : other = id
  · rw [hother, HashMap.insert_get_self, HashMap.insert_get_self]
    exact .some happ
  · rw [HashMap.insert_get_of_ne _ hother, HashMap.insert_get_of_ne _ hother]
    exact h other

/-- Rows that are alike make tables that are, or none of them. -/
theorem appsOf_alike {rows rows' : List ρ}
    (h : List.Forall₂ (RowsAlike X cdrs requests) rows rows') :
    ((∃ panic, appsOf X cdrs rows = .error panic) ∧ ∃ panic, appsOf X cdrs rows' = .error panic) ∨
      ∃ apps apps', appsOf X cdrs rows = .ok apps ∧ appsOf X cdrs rows' = .ok apps' ∧
        TablesAlike X requests apps apps' := by
  -- the tables built so far are carried along
  suffices ∀ apps apps', TablesAlike X requests apps apps' →
      ((∃ panic, insertRows X cdrs apps rows = .error panic) ∧
          ∃ panic, insertRows X cdrs apps' rows' = .error panic) ∨
        ∃ after after', insertRows X cdrs apps rows = .ok after ∧
          insertRows X cdrs apps' rows' = .ok after' ∧ TablesAlike X requests after after' from
    this .new .new fun _ => .none
  induction h with
  | nil => exact fun apps apps' halike => Or.inr ⟨apps, apps', rfl, rfl, halike⟩
  | @cons row row' rows rows' hrow _ ih =>
      intro apps apps' halike
      rcases hrow with ⟨⟨panic, hpanic⟩, panic', hpanic'⟩ |
        ⟨appRow, appRow', hread, hread', hid, happ⟩
      · exact Or.inl ⟨⟨panic, insertRows_cons_of_error hpanic⟩, panic',
          insertRows_cons_of_error hpanic'⟩
      · rw [insertRows_cons_of_ok hread, insertRows_cons_of_ok hread', ← hid]
        exact ih _ _ (halike.insert appRow.id happ)

/-- A refresh keeps registries alike. -/
theorem UpdatersAlike.round {updater updater' : Updater}
    (h : UpdatersAlike X requests updater updater') {attempt attempt' : Attempt ρ}
    (hattempt : AttemptsAlike X cdrs requests attempt attempt') :
    UpdatersAlike X requests (updater.round X cdrs attempt) (updater'.round X cdrs attempt') := by
  rw [Updater.round, Updater.round, ← h.running]
  split
  case isFalse => exact h
  case isTrue hrunning =>
    unfold updateApps
    rw [← h.hasPool]
    by_cases hpool : updater.registry.hasPool = true
    · simp only [hpool, if_true]
      cases hattempt with
      | noConnection => exact ⟨h.apps, h.hasPool, rfl⟩
      | queryFailed => exact ⟨h.apps, h.hasPool, rfl⟩
      | answered hrows =>
          rcases eq_none_or_of_rel hrows with ⟨hnone, hnone'⟩ | ⟨rows, rows', hsome, hsome', hall⟩
          · simp only [hnone, hnone']
            exact ⟨fun _ => .none, h.hasPool, rfl⟩
          · simp only [hsome, hsome']
            rcases appsOf_alike hall with ⟨⟨panic, hpanic⟩, panic', hpanic'⟩ |
              ⟨apps, apps', happs, happs', halike⟩
            · simp only [hpanic, hpanic', Bind.bind, Except.bind]
              exact ⟨h.apps, h.hasPool, rfl⟩
            · simp only [happs, happs', Bind.bind, Except.bind]
              exact ⟨halike, h.hasPool, rfl⟩
    · simp only [hpool]
      exact ⟨h.apps, h.hasPool, rfl⟩

theorem follows_processWorld {met met' : Attempt ρ → Prop}
    (hmet : ∀ attempt, met attempt → ∃ attempt', met' attempt' ∧
      AttemptsAlike X cdrs requests attempt attempt') :
    Pool.Follows (alikeLeft (Calls.AlikeFor X requests)) (UpdatersAlike X requests)
      (processWorld X cdrs met) (processWorld X cdrs met') := by
  apply Pool.Follows.amid
  · rintro updater updater' _ halike ⟨attempt, hattempt, rfl⟩
    obtain ⟨attempt', hattempt', hround⟩ := hmet attempt hattempt
    exact ⟨_, ⟨attempt', hattempt', rfl⟩, halike.round hround⟩
  · rintro updater updater' ⟨c, answer⟩ _ halike ⟨hshows, rfl⟩
    by_cases hloads : c = .inl .loadApps
    · subst hloads
      obtain rfl : answer = _ := hshows
      exact ⟨⟨.inl .loadApps, updater'.registry.apps⟩, updater', .intro halike.apps, ⟨rfl, rfl⟩,
        halike⟩
    · refine ⟨⟨c, answer⟩, updater', .intro ?_, ⟨?_, rfl⟩, halike⟩
      · cases c with
        | inr _ => rfl
        | inl call =>
            cases call with
            | loadApps => exact absurd rfl hloads
            | _ => rfl
      · cases c with
        | inr _ => trivial
        | inl call =>
            cases call with
            | loadApps => exact absurd rfl hloads
            | _ => trivial

end AppRegistry

/-- The histories differ in the tables that were loaded, and in nothing else. -/
def DifferInTables {ι : Type} (history history' : List (ι × Event ServiceCalls)) : Prop :=
  List.Forall₂ (fun x y => x.1 = y.1 ∧
    (x.2 = y.2 ∨ x.2.call = .inl .loadApps ∧ y.2.call = .inl .loadApps)) history history'

theorem differInTables_of_alike {history history' : List (ι × Event ServiceCalls)}
    (h : Pool.AlikeHistories (alikeLeft (Calls.AlikeFor X requests)) history history') :
    DifferInTables history history' := by
  apply h.imp
  rintro ⟨i, e⟩ ⟨i', e'⟩ ⟨hthread, halike⟩
  refine ⟨hthread, ?_⟩
  cases halike with
  | @intro c answer answer' hanswers =>
      cases c with
      | inr _ =>
          cases hanswers
          exact Or.inl rfl
      | inl call =>
          cases call with
          | loadApps => exact Or.inr ⟨rfl, rfl⟩
          | _ =>
              cases hanswers
              exact Or.inl rfl

/-- Take two processes whose applications, from the start and after every refresh,
differ in their secrets only, and requests whose signatures have the same verdict
under the one secret as under the other. Every run of the one process is a run of the
other, with the same calls by the same requests and the same responses. -/
theorem secrets_show_as_verdicts {ι : Type} [DecidableEq ι] {X : Crates} {g : Gateway.Globals}
    {encoder : TextEncoder} {requests : ι → HttpRequest} {ρ : Type} {cdrs : Cdrs ρ}
    {met met' : Attempt ρ → Prop} {registry registry' : SharedRegistry}
    (happs : AppRegistry.TablesAlike X requests registry.apps registry'.apps)
    (hpool : registry.hasPool = registry'.hasPool)
    (hmet : ∀ attempt, met attempt → ∃ attempt', met' attempt' ∧
      AppRegistry.AttemptsAlike X cdrs requests attempt attempt')
    {P Q : Pool ServiceCalls ι AppRegistry.Updater Response}
    {history : List (ι × Event ServiceCalls)} (hstart : P.state = ⟨registry, true⟩)
    (hthreads : ∀ j, P.threads j = Gateway.service X g encoder (requests j))
    (hrun : Pool.Run (AppRegistry.processWorld X cdrs met) P history Q) :
    ∃ history' updater', DifferInTables history history' ∧
      Pool.Run (AppRegistry.processWorld X cdrs met') ⟨⟨registry', true⟩, P.threads⟩ history'
        ⟨updater', Q.threads⟩ := by
  have hblind : ∀ j, Blind (alikeLeft (Calls.AlikeFor X requests)) (P.threads j) := fun j =>
    hthreads j ▸ Gateway.blind_service encoder j
  have halike : AppRegistry.UpdatersAlike X requests P.state ⟨registry', true⟩ := by
    rw [hstart]
    exact ⟨happs, hpool, rfl⟩
  obtain ⟨history', updater', hhistories, hrun', _⟩ :=
    hrun.exchange (AppRegistry.follows_processWorld hmet) hblind halike
  exact ⟨history', updater', differInTables_of_alike hhistories, hrun'⟩

namespace Reference

/-- A row of an application for browsers, with a secret. -/
def secretRow (secret : String) : AppRow :=
  { row with token := none, webSecret := some secret }

/-- A registry with that application. -/
def secretRegistry (secret : String) : SharedRegistry where
  allowEmptySignature := false
  apps := AppRegistry.buildApps crates [secretRow secret]
  hasPool := false

/-- A gateway that insists on signatures. -/
def strictGlobals : Gateway.Globals :=
  { globals with config := { globals.config with
      gateway := { globals.config.gateway with allowEmptySignature := false } } }

/-- A browser's request with a made-up signature. -/
def forgedRequest : HttpRequest where
  method := .post
  path := "/xray/events/xorc/sdk/v1"
  incoming := post webBody [(.xorcSignature, .fromStatic "Zm9yZ2Vk" (by decide))]

/-- To it, one secret is as good as another. -/
theorem secretRegistry_alike : AppRegistry.TablesAlike crates (fun _ : Unit => forgedRequest)
    (secretRegistry "1b66af51").apps (secretRegistry "7dd60807").apps := by
  apply AppRegistry.TablesAlike.insert
  · exact fun _ => .none
  · refine ⟨rfl, fun platform => ?_⟩
    cases platform with
    | ios => exact .none
    | android => exact .none
    | unknown => exact .none
    | web => exact .some fun _ _ _ _ _ => rfl

end Reference

/-- What is said of a forged request, whatever the secret. -/
theorem Reference.exists_forged_run (secret : String)
    (hrefused : ((handledBy strictGlobals forgedRequest.incoming
      { working with apps := (secretRegistry secret).apps }).2.any fun response =>
        response.status == 412) = true) :
    ∃ (P Q : Pool ServiceCalls Unit AppRegistry.Updater Response) (history : _) (response : _),
      P.state = ⟨secretRegistry secret, true⟩ ∧
      (∀ j, P.threads j = Gateway.service crates strictGlobals encoder forgedRequest) ∧
      Pool.Run (AppRegistry.processWorld crates cdrs (· = .noConnection)) P history Q ∧
      Q.threads () = .done response ∧ response.status = 412 := by
  let replies := { working with apps := (secretRegistry secret).apps }
  let program := Gateway.handleSdk crates strictGlobals forgedRequest.incoming
  let threads : Unit → Program ServiceCalls Response := fun _ =>
    Gateway.service crates strictGlobals encoder forgedRequest
  have hthread : threads () = program.left := Gateway.service_of_sdkEvents _ _ _ rfl
  have hsteps := runs_left_iff (T := MetricsCalls).mpr
    ⟨_, rfl, runs_exec replies.reply program⟩
  have hworld : Evolves (AppRegistry.processWorld crates cdrs (· = .noConnection))
      ⟨secretRegistry secret, true⟩ ((program.exec replies.reply).1.map Event.left)
      ⟨secretRegistry secret, true⟩ :=
    AppRegistry.evolves_process rfl program
  obtain ⟨response, hresponse, hstatus⟩ := Outcome.any_eq_true.mp hrefused
  have hthreads : ∀ j,
      threads j = Gateway.service crates strictGlobals encoder forgedRequest := fun _ => rfl
  have hended : (program.exec replies.reply).2 = .returned response := hresponse
  clear_value threads
  have hrun := Pool.run_thread hsteps hthread hworld
  refine ⟨_, _, _, response, rfl, hthreads, hrun, ?_, eq_of_beq hstatus⟩
  simp [hended, ofOutcome]

/-- A forged request is refused under another secret as it is under this one. -/
theorem forged_request_shows_verdict :
    ∃ (P Q : Pool ServiceCalls Unit AppRegistry.Updater Response)
      (history history' : List (Unit × Event ServiceCalls)) (updater' : AppRegistry.Updater)
      (response : Response),
      P.state = ⟨Reference.secretRegistry "1b66af51", true⟩ ∧
      Pool.Run (AppRegistry.processWorld Reference.crates Reference.cdrs (· = .noConnection)) P
        history Q ∧
      Q.threads () = .done response ∧ response.status = 412 ∧
      DifferInTables history history' ∧
      Pool.Run (AppRegistry.processWorld Reference.crates Reference.cdrs (· = .noConnection))
        ⟨⟨Reference.secretRegistry "7dd60807", true⟩, P.threads⟩ history'
        ⟨updater', Q.threads⟩ := by
  obtain ⟨P, Q, history, response, hstart, hthreads, hrun, hended, hstatus⟩ :=
    Reference.exists_forged_run "1b66af51" (by decide +kernel)
  have hmet : ∀ attempt : Attempt (List (String × Reference.Column)), attempt = .noConnection →
      ∃ attempt', attempt' = .noConnection ∧ AppRegistry.AttemptsAlike Reference.crates
        Reference.cdrs (fun _ : Unit => Reference.forgedRequest) attempt attempt' := by
    rintro _ rfl
    exact ⟨.noConnection, rfl, .noConnection⟩
  obtain ⟨history', updater', hdiffer, hrun'⟩ := secrets_show_as_verdicts
    Reference.secretRegistry_alike rfl hmet hstart hthreads hrun
  exact ⟨P, Q, history, history', updater', response, hstart, hrun, hended, hstatus, hdiffer,
    hrun'⟩

end XorcGateway
