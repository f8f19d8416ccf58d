/-
# Who is behind an effect

Two kinds of process run this code. One outside development has its applications
from the configuration for good, so whatever it does to the store or to Kafka, it
does for a request signed with a configured secret. One that manages its
applications reads the id of each row by a name its statement does not select:
it starts only while there are no applications, and then lets nobody in.
-/

import XorcGateway.Process
import XorcGateway.Properties.Admission
import XorcGateway.Properties.RequestCounter
import XorcGateway.Properties.TestApps

namespace XorcGateway

open Effects Events Rust Program

namespace Gateway

variable {X : Crates} {g : Globals}

/-- A batch with an effect outside is accepted, against the table loaded first. -/
theorem Handles.accepts_of_external {body : List UInt8} {event : SDKEventBatch}
    {headers : HeaderMap} {t : List (Event Calls)}
    {r : Outcome (Except Failure (SDKResponse × Context))}
    (h : Handles X g body event headers t r) {e : Event Calls} (he : e ∈ t)
    (hexternal : e.call.IsExternal) :
    ∃ apps context, t.head? = some ⟨Call.loadApps, apps⟩ ∧
      Accepts X g body event headers apps context := by
  cases h with
  | contextPanics _ => simp at he
  | originRefused _ _ => simp at he
  | invalid _ _ _ =>
      obtain rfl := List.mem_singleton.mp he
      exact hexternal.elim
  | blocked haccepts _ _ => exact ⟨_, _, rfl, haccepts⟩
  | sectionPanics haccepts _ => exact ⟨_, _, rfl, haccepts⟩
  | published haccepts _ => exact ⟨_, _, rfl, haccepts⟩
  | canceled haccepts _ => exact ⟨_, _, rfl, haccepts⟩

/-- A POST under way that has had an effect outside was accepted against a table
it has loaded. -/
theorem accepts_of_external {incoming : Incoming} {t : List (Event Calls)} {p : Request Response}
    (h : Steps (handleSdk X g incoming) t p) {e : Event Calls} (he : e ∈ t)
    (hexternal : e.call.IsExternal) :
    ∃ body event apps context, incoming.body = some body ∧ X.fromSlice body = some event ∧
      (⟨Call.loadApps, apps⟩ : Event Calls) ∈ t ∧
      Accepts X g body event incoming.headers apps context := by
  obtain ⟨rest, r, _, hruns⟩ := h.exists_runs
  have hmem : e ∈ t ++ rest := List.mem_append_left rest he
  have hhandled : ∃ body event first second r', incoming.body = some body ∧
      X.fromSlice body = some event ∧ t ++ rest = first ++ second ∧ e ∈ first ∧
      Handles X g body event incoming.headers first r' := by
    rcases runs_handleSdk X g hruns with ⟨_, _, hrespond⟩ |
      ⟨body, event, hbody, hevent, ⟨res, first, second, htrace, hhandles, hrespond⟩ |
        ⟨hhandles, _⟩⟩
    · exact absurd hexternal (not_isExternal_of_respond hrespond hmem).1
    · have hfirst : e ∈ first := by
        rw [htrace] at hmem
        exact (List.mem_append.mp hmem).resolve_right fun hsecond =>
          (not_isExternal_of_respond hrespond hsecond).1 hexternal
      exact ⟨body, event, first, second, _, hbody, hevent, htrace, hfirst, hhandles⟩
    · exact ⟨body, event, _, [], _, hbody, hevent, (List.append_nil _).symm, hmem, hhandles⟩
  obtain ⟨body, event, first, second, r', hbody, hevent, htrace, hfirst, hhandles⟩ := hhandled
  obtain ⟨apps, context, hhead, haccepts⟩ := hhandles.accepts_of_external hfirst hexternal
  -- the request has begun, so its first call is among those it has made
  have hloaded : t.head? = some ⟨Call.loadApps, apps⟩ := by
    have hsame := congrArg List.head? htrace
    rw [List.head?_append_of_ne_nil _ (List.ne_nil_of_mem he), List.head?_append, hhead] at hsame
    exact hsame
  exact ⟨body, event, apps, context, hbody, hevent, List.mem_of_mem_head? hloaded, haccepts⟩

/-- Only a POST to the SDK endpoint has an effect outside, and only once its batch
was accepted. -/
theorem accepts_of_service {encoder : TextEncoder} {req : HttpRequest}
    {t : List (Event ServiceCalls)} {p : Program ServiceCalls Response}
    (h : Steps (service X g encoder req) t p) {c : Call} {answer : Calls.Answer c}
    (he : (⟨.inl c, answer⟩ : Event ServiceCalls) ∈ t) (hexternal : c.IsExternal) :
    req.route = .sdkEvents ∧ ∃ body event apps context, req.incoming.body = some body ∧
      X.fromSlice body = some event ∧ (⟨.inl .loadApps, apps⟩ : Event ServiceCalls) ∈ t ∧
      Accepts X g body event req.incoming.headers apps context := by
  by_cases hroute : req.route = .sdkEvents
  · rw [service_of_sdkEvents _ _ _ hroute] at h
    obtain ⟨t', q', rfl, _, hsteps⟩ := steps_left_iff.mp h
    obtain ⟨e, hmem, heq⟩ := List.mem_map.mp he
    cases heq
    obtain ⟨body, event, apps, context, hbody, hevent, hloaded, haccepts⟩ :=
      accepts_of_external hsteps hmem hexternal
    exact ⟨hroute, body, event, apps, context, hbody, hevent,
      List.mem_map_of_mem (f := Event.left) hloaded, haccepts⟩
  · -- the other routes only count the request
    have hcounts : IsRequestCount c := (confined_service hroute).of_steps h _ he
    cases c with
    | inc counter amount => exact absurd hexternal (by simp [Call.IsExternal])
    | _ => exact hcounts.elim

end Gateway

/-! ## Outside development -/

/-- The body is signed for the platform: the signature header is base64 of what
verifies under the platform's own secret of the row. -/
def AppRow.HasSigned (X : Crates) (row : AppRow) (platform : Platform) (headers : HeaderMap)
    (body : List UInt8) : Prop :=
  ∃ signature secret key decoded,
    Context.getValue X headers .xorcSignature = some signature ∧
    row.secretFor platform = some secret ∧ X.hex.decode (asBytes secret) = some key ∧
    X.base64.decode (asBytes signature) = some decoded ∧ X.hmac.verify key body decoded = true

section

variable {ι : Type} [DecidableEq ι] {X : Crates} {g : Gateway.Globals} {encoder : TextEncoder}
  {ρ : Type} {cdrs : Cdrs ρ} {startup : AppRegistry.Startup ρ} {registry : SharedRegistry}
  {reqs : ι → HttpRequest} {P Q : Pool ServiceCalls ι AppRegistry.Updater Response}
  {history : List (ι × Event ServiceCalls)}
  (hcreate : AppRegistry.create X cdrs g.config startup = .ok registry)
  (hstart : P.state = ⟨registry, true⟩)
  (hthreads : ∀ j, P.threads j = Gateway.service X g encoder (reqs j))

include hcreate hstart hthreads

/-- A process started outside development from a configuration that is accepted
there, serving any requests among any refreshes, in any interleaving: a query to the
store and a record handed to Kafka are made only for a POST to the SDK endpoint whose
batch is admitted by the configured applications and whose body is signed with the
secret configured for its application and platform. -/
theorem effects_are_signed {toml : String → Except String Config} {rustEnv : String}
    {file : Except String (Except String String)}
    (hparse : Config.parse toml rustEnv file = .ok g.config) (henv : rustEnv ≠ "development")
    (hrun : Pool.Run (AppRegistry.processWorld X cdrs fun _ => True) P history Q) {j : ι}
    {c : Call} {answer : Calls.Answer c}
    (hmem : (j, (⟨.inl c, answer⟩ : Event ServiceCalls)) ∈ history) (hexternal : c.IsExternal) :
    (reqs j).route = .sdkEvents ∧ ∃ testApps body event row, g.config.testApps = some testApps ∧
      (reqs j).incoming.body = some body ∧ X.fromSlice body = some event ∧
      Admits X g (testApps.map TestAppConfig.toRow) body event (reqs j).incoming.headers row ∧
      row.HasSigned X event.device.getPlatform (reqs j).incoming.headers body := by
  obtain ⟨hallow, hmanage⟩ := Config.of_parse_eq_ok hparse henv
  obtain ⟨testApps, happs, rfl⟩ := (AppRegistry.create_eq_ok_iff hmanage).mp hcreate
  have hsteps := hrun.steps j
  rw [hthreads] at hsteps
  obtain ⟨hroute, body, event, apps, context, hbody, hevent, hloaded, haccepts⟩ :=
    Gateway.accepts_of_service hsteps (Pool.mem_own_iff.mpr hmem) hexternal
  -- without a pool the table stays the configured one
  obtain ⟨attempts, _, rfl⟩ :=
    AppRegistry.loaded_of_run hstart hrun (Pool.mem_own_iff.mp hloaded)
  rw [AppRegistry.runUpdater_of_no_pool rfl] at haccepts
  obtain ⟨row, hadmits⟩ := (accepts_iff X g haccepts.context_new).mp haccepts
  refine ⟨hroute, testApps, body, event, row, happs, hbody, hevent, hadmits, ?_⟩
  exact hadmits.signature.resolve_left (by simp [hallow])

end

namespace Reference

/-- The application of a gateway in production, for browsers. -/
def signedApp : TestAppConfig where
  appId := appId
  token := none
  secretIos := none
  secretAndroid := none
  secretWeb := some "1b66af517dd60807aeff8b4582d202ef"

/-- A gateway in production. -/
def signedGlobals : Gateway.Globals :=
  { globals with config := { globals.config with
      gateway := { globals.config.gateway with allowEmptySignature := false }
      testApps := some [signedApp] } }

/-- A browser's request, signed with the application's secret. -/
def signedRequest : HttpRequest where
  method := .post
  path := "/xray/events/xorc/sdk/v1"
  incoming := post webBody [(.xorcSignature, .fromStatic
    "ZyvHMG2Arl9Hs5LxdbYL3RgyuU98UnHEs2zi/7X+OxP+vRzBRxeh+iaPbCyzmFg089jgZGrq1KaLDxS+nIW9Yg=="
    (by decide))]

def signedRegistry : SharedRegistry where
  allowEmptySignature := false
  apps := AppRegistry.buildApps signingCrates [signedApp.toRow]
  hasPool := false

end Reference

theorem Reference.exists_signed_run :
    ∃ (P Q : Pool ServiceCalls Unit AppRegistry.Updater Response) (history : _) (e : Event Calls),
      P.state = ⟨signedRegistry, true⟩ ∧
      (∀ j, P.threads j = Gateway.service signingCrates signedGlobals encoder signedRequest) ∧
      Pool.Run (AppRegistry.processWorld signingCrates cdrs fun _ => True) P history Q ∧
      ((), e.left) ∈ history ∧ e.call.IsExternal := by
  let replies := { working with apps := signedRegistry.apps }
  let program := Gateway.handleSdk signingCrates signedGlobals signedRequest.incoming
  let threads : Unit → Program ServiceCalls Response := fun _ =>
    Gateway.service signingCrates signedGlobals encoder signedRequest
  have hthread : threads () = program.left := Gateway.service_of_sdkEvents _ _ _ rfl
  have hsteps := runs_left_iff (T := MetricsCalls).mpr
    ⟨_, rfl, runs_exec replies.reply program⟩
  have hworld : Evolves (AppRegistry.processWorld signingCrates cdrs fun _ => True)
      ⟨signedRegistry, true⟩ ((program.exec replies.reply).1.map Event.left)
      ⟨signedRegistry, true⟩ :=
    AppRegistry.evolves_process rfl program
  have hany : (program.exec replies.reply).1.any (fun e => e.call.IsExternal) = true := by
    decide +kernel
  obtain ⟨e, he, hexternal⟩ := List.any_eq_true.mp hany
  have hthreads : ∀ j,
      threads j = Gateway.service signingCrates signedGlobals encoder signedRequest :=
    fun _ => rfl
  clear_value threads
  have hrun := Pool.run_thread hsteps hthread hworld
  exact ⟨_, _, _, e, rfl, hthreads, hrun, List.mem_map_of_mem (List.mem_map_of_mem he),
    of_decide_eq_true hexternal⟩

/-- The signed request gets through in production. -/
theorem signed_request_gets_through :
    ∃ (P Q : Pool ServiceCalls Unit AppRegistry.Updater Response) (history : _) (e : Event Calls),
      Pool.Run (AppRegistry.processWorld Reference.signingCrates Reference.cdrs fun _ => True)
        P history Q ∧
      ((), e.left) ∈ history ∧ e.call.IsExternal ∧
      ∃ testApps body event row, Reference.signedGlobals.config.testApps = some testApps ∧
        Reference.signedRequest.incoming.body = some body ∧
        Reference.signingCrates.fromSlice body = some event ∧
        Admits Reference.signingCrates Reference.signedGlobals
          (testApps.map TestAppConfig.toRow) body event
          Reference.signedRequest.incoming.headers row ∧
        row.HasSigned Reference.signingCrates event.device.getPlatform
          Reference.signedRequest.incoming.headers body := by
  obtain ⟨P, Q, history, e, hstart, hthreads, hrun, hmem, hexternal⟩ :=
    Reference.exists_signed_run
  let startup : AppRegistry.Startup (List (String × Reference.Column)) :=
    ⟨fun _ => none, none, .noConnection⟩
  have hparse : Config.parse (fun _ => .ok Reference.signedGlobals.config) "production"
      (.ok (.ok "")) = .ok Reference.signedGlobals.config := rfl
  have hcreate : AppRegistry.create Reference.signingCrates Reference.cdrs
      Reference.signedGlobals.config startup = .ok Reference.signedRegistry := rfl
  exact ⟨P, Q, history, e, hrun, hmem, hexternal,
    (effects_are_signed hcreate hstart hthreads hparse (by decide) hrun hmem hexternal).2⟩

/-! ## With managed applications -/

/-- Every row of an answer has the columns the refresh selects. -/
def Attempt.Selects {ρ : Type} (cdrs : Cdrs ρ) (attempt : Attempt ρ) : Prop :=
  ∀ rows, attempt.rows = some rows → ∀ row ∈ rows,
    cdrs.columns row = AppRegistry.selectedColumns

namespace AppRegistry

variable {X : Crates} {ρ : Type} {cdrs : Cdrs ρ} (hcdrs : cdrs.Documented)

include hcdrs

/-- The id of a row is read by a name that is not among the selected columns. -/
theorem rByName_of_selected {row : ρ} (hselected : cdrs.columns row = selectedColumns) :
    cdrs.rByName row "app_id" = none := by
  apply hcdrs.rByName_of_not_mem
  rw [hselected]
  decide

/-- Rows with the selected columns make a table only if there are none. -/
theorem appsOf_of_selected {rows : List ρ} {table : HashMap String Application}
    (hselected : ∀ row ∈ rows, cdrs.columns row = selectedColumns)
    (h : appsOf X cdrs rows = .ok table) : rows = [] ∧ table = .new := by
  obtain ⟨appRows, hread, rfl⟩ := appsOf_eq_ok_iff.mp h
  cases hread with
  | nil => exact ⟨rfl, rfl⟩
  | @cons row appRow rows appRows hrow _ =>
      obtain ⟨id, hid, _⟩ := readRow_eq_ok_iff.mp hrow
      cases (rByName_of_selected hcdrs (hselected row List.mem_cons_self)).symm.trans hid

/-- A refresh leaves an empty table empty. -/
theorem updateApps_of_empty {self self' : SharedRegistry} {attempt : Attempt ρ}
    {result : Except IoError Unit} (hempty : self.apps = .new) (hselects : attempt.Selects cdrs)
    (h : updateApps X cdrs self attempt = .ok (self', result)) : self'.apps = .new := by
  unfold updateApps at h
  split at h
  · cases attempt with
    | noConnection =>
        cases h
        exact hempty
    | queryFailed =>
        cases h
        exact hempty
    | answered frame =>
        cases hrows : frame.body.bind AppsBody.rows with
        | none =>
            simp only [hrows] at h
            cases h
            rfl
        | some rows =>
            simp only [hrows] at h
            obtain ⟨apps, happs, h⟩ := bind_eq_ok_iff.mp h
            cases h
            exact (appsOf_of_selected hcdrs (hselects rows hrows) happs).2
  · cases h
    exact hempty

/-- So the updater never fills it. -/
theorem runUpdater_of_empty {self : SharedRegistry} (hempty : self.apps = .new)
    {attempts : List (Attempt ρ)} (hselects : ∀ attempt ∈ attempts, attempt.Selects cdrs) :
    (runUpdater X cdrs self attempts).registry.apps = .new := by
  induction attempts using List.reverseRecOn with
  | nil => exact hempty
  | append_singleton attempts attempt ih =>
      have hbefore := ih fun other hother => hselects other (List.mem_append_left _ hother)
      rw [runUpdater_concat, Updater.round]
      split
      · cases h : updateApps X cdrs (runUpdater X cdrs self attempts).registry attempt with
        | error panic => exact hbefore
        | ok refreshed => exact updateApps_of_empty hcdrs hbefore (hselects _ (by simp)) h
      · exact hbefore

/-- And a registry that manages its applications starts with an empty one, if it
starts. -/
theorem create_of_manageApps {config : Config} (hmanage : config.cassandra.manageApps = true)
    {startup : Startup ρ} (hfirst : startup.first.Selects cdrs) {registry : SharedRegistry}
    (h : create X cdrs config startup = .ok registry) : registry.apps = .new := by
  rw [create, if_pos hmanage] at h
  obtain ⟨_, _, h⟩ := bind_eq_ok_iff.mp h
  obtain ⟨_, _, h⟩ := bind_eq_ok_iff.mp h
  obtain ⟨⟨refreshed, result⟩, hrefresh, h⟩ := bind_eq_ok_iff.mp h
  obtain ⟨_, _, h⟩ := bind_eq_ok_iff.mp h
  cases h
  exact updateApps_of_empty hcdrs rfl hfirst hrefresh

end AppRegistry

section

variable {ι : Type} [DecidableEq ι] {X : Crates} {g : Gateway.Globals} {encoder : TextEncoder}
  {ρ : Type} {cdrs : Cdrs ρ} {startup : AppRegistry.Startup ρ} {registry : SharedRegistry}
  {reqs : ι → HttpRequest} {P Q : Pool ServiceCalls ι AppRegistry.Updater Response}
  {history : List (ι × Event ServiceCalls)}

omit [DecidableEq ι] in
/-- An empty table accepts nothing. -/
theorem Gateway.not_accepts_new {body : List UInt8} {event : SDKEventBatch} {headers : HeaderMap}
    {context : Context} : ¬ Gateway.Accepts X g body event headers .new context := by
  intro haccepts
  obtain ⟨app, happ, _⟩ := AppRegistry.validate_eq_ok_iff.mp haccepts.valid
  cases happ

/-- A process that manages its applications, over a database whose answers have the
columns that were selected, serving any requests among any refreshes, in any
interleaving: if it has started at all, it queries no store and hands no record to
Kafka, and a POST that is answered is not answered 200. -/
theorem managed_process_admits_nobody (hcdrs : cdrs.Documented)
    (hmanage : g.config.cassandra.manageApps = true)
    (hcreate : AppRegistry.create X cdrs g.config startup = .ok registry)
    (hfirst : startup.first.Selects cdrs) (hstart : P.state = ⟨registry, true⟩)
    (hthreads : ∀ j, P.threads j = Gateway.service X g encoder (reqs j))
    (hrun : Pool.Run (AppRegistry.processWorld X cdrs fun attempt => attempt.Selects cdrs)
      P history Q) :
    (∀ j c (answer : Calls.Answer c),
      (j, (⟨.inl c, answer⟩ : Event ServiceCalls)) ∈ history → ¬ c.IsExternal) ∧
    (∀ j response, (reqs j).route = .sdkEvents →
      Q.threads j = ofOutcome (.returned response) → response.status ≠ 200) := by
  have hempty := AppRegistry.create_of_manageApps hcdrs hmanage hfirst hcreate
  have hloaded : ∀ j apps, (j, (⟨.inl .loadApps, apps⟩ : Event ServiceCalls)) ∈ history →
      apps = .new := by
    intro j apps hmem
    obtain ⟨attempts, hselects, rfl⟩ := AppRegistry.loaded_of_run hstart hrun hmem
    exact AppRegistry.runUpdater_of_empty hcdrs hempty hselects
  have hquiet : ∀ j c (answer : Calls.Answer c),
      (j, (⟨.inl c, answer⟩ : Event ServiceCalls)) ∈ history → ¬ c.IsExternal := by
    intro j c answer hmem hexternal
    have hsteps := hrun.steps j
    rw [hthreads] at hsteps
    obtain ⟨_, _, _, apps, _, _, _, hload, haccepts⟩ :=
      Gateway.accepts_of_service hsteps (Pool.mem_own_iff.mpr hmem) hexternal
    rw [hloaded j apps (Pool.mem_own_iff.mp hload)] at haccepts
    exact Gateway.not_accepts_new haccepts
  refine ⟨hquiet, fun j response hroute hended hok => ?_⟩
  -- an answer 200 would come with a record
  have hruns := hrun.runs hended
  rw [hthreads, Gateway.service_of_sdkEvents _ _ _ hroute] at hruns
  obtain ⟨t, hown, hruns⟩ := runs_left_iff.mp hruns
  obtain ⟨p, delivery, second, rfl, _⟩ := Gateway.exists_publication_of_ok X g hruns hok
  have hsent : (j, (⟨.inl (.send p.record), .ok delivery⟩ : Event ServiceCalls)) ∈ history := by
    rw [← Pool.mem_own_iff, hown]
    exact List.mem_map_of_mem (f := Event.left) (List.mem_append_right _ List.mem_cons_self)
  exact hquiet j _ _ hsent trivial

end

/-- A gateway that manages its applications, without any. -/
def Reference.managedGlobals : Gateway.Globals :=
  { globals with config := { globals.config with
      cassandra := { globals.config.cassandra with manageApps := true } } }

def Reference.managedRegistry : SharedRegistry where
  allowEmptySignature := true
  apps := .new
  hasPool := true

theorem Reference.exists_managed_run :
    ∃ (P Q : Pool ServiceCalls Unit AppRegistry.Updater Response) (history : _)
      (response : Response), P.state = ⟨managedRegistry, true⟩ ∧
      (∀ j, P.threads j = Gateway.service crates managedGlobals encoder (scraped false)) ∧
      Pool.Run (AppRegistry.processWorld crates cdrs fun attempt => attempt.Selects cdrs)
        P history Q ∧
      Q.threads () = ofOutcome (.returned response) := by
  let replies := { working with apps := .new }
  let program := Gateway.handleSdk crates managedGlobals (scraped false).incoming
  let threads : Unit → Program ServiceCalls Response := fun _ =>
    Gateway.service crates managedGlobals encoder (scraped false)
  have hthread : threads () = program.left := Gateway.service_of_sdkEvents _ _ _ rfl
  have hanswered : (program.exec replies.reply).2.any (fun _ => true) = true := by
    decide +kernel
  obtain ⟨response, hresponse, _⟩ := Outcome.any_eq_true.mp hanswered
  have hruns := runs_exec replies.reply program
  rw [hresponse] at hruns
  have hsteps := runs_left_iff (T := MetricsCalls).mpr ⟨_, rfl, hruns⟩
  have hworld : Evolves (AppRegistry.processWorld crates cdrs fun attempt => attempt.Selects cdrs)
      ⟨managedRegistry, true⟩ ((program.exec replies.reply).1.map Event.left)
      ⟨managedRegistry, true⟩ :=
    AppRegistry.evolves_process rfl program
  have hthreads : ∀ j, threads j = Gateway.service crates managedGlobals encoder (scraped false) :=
    fun _ => rfl
  clear_value threads
  have hrun := Pool.run_thread hsteps hthread hworld
  exact ⟨_, _, _, response, rfl, hthreads, hrun, by simp⟩

/-- It starts on an empty applications table, and turns a request away. -/
theorem managed_process_refuses :
    ∃ (P Q : Pool ServiceCalls Unit AppRegistry.Updater Response) (history : _)
      (response : Response),
      Pool.Run (AppRegistry.processWorld Reference.crates Reference.cdrs
        fun attempt => attempt.Selects Reference.cdrs) P history Q ∧
      Q.threads () = ofOutcome (.returned response) ∧ response.status ≠ 200 := by
  obtain ⟨P, Q, history, response, hstart, hthreads, hrun, hended⟩ :=
    Reference.exists_managed_run
  let startup : AppRegistry.Startup (List (String × Reference.Column)) :=
    ⟨fun _ => some (), some (), .answered ⟨some ⟨some []⟩⟩⟩
  have hcreate : AppRegistry.create Reference.crates Reference.cdrs
      Reference.managedGlobals.config startup = .ok Reference.managedRegistry := rfl
  have hfirst : startup.first.Selects Reference.cdrs := by
    intro rows hrows
    cases hrows
    simp
  exact ⟨P, Q, history, response, hrun, hended, (managed_process_admits_nobody
    Reference.cdrs_documented rfl hcreate hfirst hstart hthreads hrun).2 () response rfl hended⟩

end XorcGateway
