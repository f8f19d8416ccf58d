/-
# Test applications outside development

Outside development a configuration is refused when it has `manage_apps` on. The
ones accepted build the application table from `[[test_apps]]`, once and for
all, and the signature checks cannot be switched off in them.
-/

import XorcGateway.Reference

namespace XorcGateway.AppRegistry

open Events Rust

variable {X : Crates} {ρ : Type} {cdrs : Cdrs ρ}

/-- The application was received from the database by one of the attempts. -/
def IsLoaded (X : Crates) (cdrs : Cdrs ρ) (config : Config) (attempts : List (Attempt ρ))
    (id : String) (app : Application) : Prop :=
  -- without `manage_apps` no attempt is made
  config.cassandra.manageApps = true ∧ ∃ attempt ∈ attempts, ∃ rows, attempt.rows = some rows ∧
    ∃ row ∈ rows, ∃ appRow, readRow X cdrs row = .ok appRow ∧ appRow.id = id ∧
      app = ofRow X appRow

/-- What is promised of a registry the gateway has reached after these attempts:
every application was loaded, an application of `[[test_apps]]` that was not is
refused, and nothing is accepted without its signature. -/
structure IsManaged (X : Crates) (cdrs : Cdrs ρ) (config : Config) (attempts : List (Attempt ρ))
    (registry : AppRegistry) : Prop where
  loaded : ∀ id app, registry.apps id = some app → IsLoaded X cdrs config attempts id app
  rejected : ∀ testApps, config.testApps = some testApps → ∀ testApp ∈ testApps,
    (∀ app, ¬ IsLoaded X cdrs config attempts testApp.appId app) →
      ∀ event context rawData, event.environment.appId = testApp.appId →
        ∃ err, registry.validate X config event context rawData = .error err
  signed : ∀ event context rawData, registry.validate X config event context rawData = .ok () →
    ∃ app signature key decoded, registry.apps event.environment.appId = some app ∧
      context.signature = some signature ∧ app.keyFor event.device.getPlatform = some key ∧
      X.base64.decode (asBytes signature) = some decoded ∧
      X.hmac.verify key.value rawData decoded = true

/-- Every registry that is created, and refreshed any number of times, keeps the
promise. -/
def TestAppsStayOut (X : Crates) (cdrs : Cdrs ρ) (config : Config) : Prop :=
  ∀ startup registry, create X cdrs config startup = .ok registry → ∀ attempts,
    IsManaged X cdrs config (startup.first :: attempts)
      (runUpdater X cdrs registry attempts).registry.toAppRegistry

/-- Without `manage_apps` the registry is made of the configured applications,
which have to be there, and has no pool. -/
theorem create_eq_ok_iff {config : Config} (hmanage : config.cassandra.manageApps = false)
    {startup : Startup ρ} {registry : SharedRegistry} :
    create X cdrs config startup = .ok registry ↔ ∃ testApps, config.testApps = some testApps ∧
      registry = {
        allowEmptySignature := config.gateway.allowEmptySignature
        apps := buildApps X (testApps.map TestAppConfig.toRow)
        hasPool := false } := by
  rw [create, hmanage, if_neg Bool.false_ne_true, testApps]
  cases config.testApps with
  | none => simp [unwrap, bind, Except.bind]
  | some testApps => simp [bind, Except.bind, pure, Except.pure, eq_comm]

/-- The last of the configured applications is in the table. -/
theorem buildApps_last (rows : List AppRow) (last : AppRow) :
    buildApps X (rows ++ [last]) last.id = some (ofRow X last) := by
  rw [buildApps_get, rowFor_concat, if_pos rfl]
  rfl

/-- Where empty signatures are not allowed, the signature is checked. -/
theorem signed_of_not_allowed {config : Config} {registry : AppRegistry}
    (hallow : registry.allowEmptySignature = false) {event : SDKEventBatch} {context : Context}
    {rawData : List UInt8} (h : registry.validate X config event context rawData = .ok ()) :
    ∃ app signature key decoded, registry.apps event.environment.appId = some app ∧
      context.signature = some signature ∧ app.keyFor event.device.getPlatform = some key ∧
      X.base64.decode (asBytes signature) = some decoded ∧
      X.hmac.verify key.value rawData decoded = true := by
  obtain ⟨app, happ, _, _, hsigned⟩ := validate_eq_ok_iff.mp h
  cases hsigned with
  | inl hskipped => cases hallow.symm.trans hskipped
  | inr hsigned =>
      obtain ⟨signature, key, decoded, hsigned⟩ := hsigned
      exact ⟨app, signature, key, decoded, happ, hsigned⟩

/-- A registry without applications that checks signatures keeps the promise. -/
theorem isManaged_of_empty {config : Config} {attempts : List (Attempt ρ)}
    {registry : AppRegistry} (hempty : registry.apps = .new)
    (hallow : registry.allowEmptySignature = false) :
    IsManaged X cdrs config attempts registry where
  loaded id app happ := by
    rw [hempty] at happ
    cases happ
  rejected testApps htestApps testApp hmem hloaded event context rawData hevent := by
    refine ⟨.appDoesNotExist, ?_⟩
    rw [validate, hempty, HashMap.new_get]
  signed event context rawData haccepted := signed_of_not_allowed hallow haccepted

/-- Outside development, test applications stay out of an accepted configuration's
registry exactly when there are none. -/
theorem testAppsStayOut_iff {toml : String → Except String Config} {rustEnv : String}
    {file : Except String (Except String String)} {config : Config}
    (henv : rustEnv ≠ "development") (hparse : Config.parse toml rustEnv file = .ok config) :
    TestAppsStayOut X cdrs config ↔
      ∀ testApps, config.testApps = some testApps → testApps = [] := by
  obtain ⟨hallow, hmanage⟩ := Config.of_parse_eq_ok hparse henv
  constructor
  · intro hout testApps htestApps
    cases testApps using List.reverseRecOn with
    | nil => rfl
    | append_singleton testApps last =>
        -- nothing of what startup meets matters
        let startup : Startup ρ := ⟨fun _ => none, none, .noConnection⟩
        have hcreate : create X cdrs config startup = .ok {
            allowEmptySignature := config.gateway.allowEmptySignature
            apps := buildApps X ((testApps ++ [last]).map TestAppConfig.toRow)
            hasPool := false } :=
          (create_eq_ok_iff hmanage).mpr ⟨_, htestApps, rfl⟩
        have hlast : buildApps X ((testApps ++ [last]).map TestAppConfig.toRow) last.appId =
            some (ofRow X last.toRow) := by
          rw [List.map_append]
          exact buildApps_last _ last.toRow
        have hloaded := (hout startup _ hcreate []).loaded last.appId _ hlast
        cases hmanage.symm.trans hloaded.1
  · intro hempty startup registry hcreate attempts
    obtain ⟨testApps, htestApps, rfl⟩ := (create_eq_ok_iff hmanage).mp hcreate
    rw [runUpdater_of_no_pool rfl]
    apply isManaged_of_empty _ hallow
    rw [hempty testApps htestApps]
    rfl

/-! ### A production configuration -/

/-- A configuration for production, with these test applications. -/
def productionConfig (testApps : List TestAppConfig) : Config where
  kafka := { topic := "sdk" }
  gateway := { defaultToken := "T0BdxB0O", allowEmptySignature := false }
  cors := none
  origins := none
  testApps := some testApps
  cassandra := { keyspace := "sdk", contactPoints := "localhost:9042", manageApps := false }

theorem parse_productionConfig (testApps : List TestAppConfig) :
    Config.parse (fun _ => .ok (productionConfig testApps)) "production" (.ok (.ok "")) =
      .ok (productionConfig testApps) := rfl

/-- With an empty list there is nothing to keep out. -/
theorem testAppsStayOut_of_none :
    TestAppsStayOut Reference.crates Reference.cdrs (productionConfig []) :=
  (testAppsStayOut_iff (by decide) (parse_productionConfig [])).mpr
    fun testApps htestApps => (Option.some.inj htestApps).symm

/-- With one test application there is: it is in the table from the start. -/
theorem not_testAppsStayOut :
    Config.parse (fun _ => .ok (productionConfig [Reference.testApp])) "production" (.ok (.ok "")) =
        .ok (productionConfig [Reference.testApp]) ∧
      ¬ TestAppsStayOut Reference.crates Reference.cdrs (productionConfig [Reference.testApp]) := by
  refine ⟨rfl, fun hout => ?_⟩
  have hmanaged := hout ⟨fun _ => none, none, .noConnection⟩ _ rfl []
  have happ := hmanaged.loaded Reference.appId (ofRow Reference.crates Reference.row)
    (buildApps_last [] Reference.row)
  cases happ.1

end XorcGateway.AppRegistry
