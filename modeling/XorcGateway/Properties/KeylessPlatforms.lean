/-
# Platforms without a secret

A batch is closed to everybody exactly when its platform has no key or one of
the other checks fails. A missing secret and one that is not hexadecimal leave
no key, and an unknown platform never has one; but the empty text is
hexadecimal, and the key it gives is one that anybody can sign with.
-/

import XorcGateway.Reference

namespace XorcGateway.AppRegistry

open Events Rust

/-- The secret is missing, blank, or not hexadecimal. -/
def IsUnusable (X : Crates) (secret : Option String) : Prop :=
  ∀ s, secret = some s → s = "" ∨ X.hex.decode (asBytes s) = none

/-- Whatever signature a request brings, the batch is not accepted. -/
def IsClosed (X : Crates) (config : Config) (registry : AppRegistry) (event : SDKEventBatch)
    (context : Context) (rawData : List UInt8) : Prop :=
  ∀ signature, registry.validate X config event { context with signature } rawData ≠ .ok ()

/-- The checks besides the signature: there are events, and the token, if there
is one, is the application's. -/
structure PassesOtherChecks (config : Config) (app : Application) (event : SDKEventBatch)
    (context : Context) : Prop where
  events : event.events ≠ []
  token : ∀ token, context.apiToken = some token → token = validToken config app

variable {X : Crates} {config : Config} {registry : AppRegistry} {event : SDKEventBatch}
  {context : Context} {rawData : List UInt8}

/-- Where signatures are checked, a batch is closed exactly when its platform has
no key or another check fails. -/
theorem isClosed_iff (hhmac : X.hmac.Documented) (hbase64 : X.base64.Documented)
    (hallow : registry.allowEmptySignature = false) {app : Application}
    (happ : registry.apps event.environment.appId = some app) :
    IsClosed X config registry event context rawData ↔
      app.keyFor event.device.getPlatform = none ∨
        ¬ PassesOtherChecks config app event context := by
  obtain ⟨sign, hsign⟩ := hhmac.exists_sign
  constructor
  · intro hclosed
    rw [or_iff_not_imp_left]
    intro hkey hpasses
    obtain ⟨key, hkey⟩ := Option.ne_none_iff_exists'.mp hkey
    -- the signature under the key, as a client computes it
    let signature := X.base64.encode (sign key.value rawData)
    apply hclosed (some signature)
    rw [validate_eq_ok_iff]
    refine ⟨app, happ, hpasses.token, hpasses.events, Or.inr ⟨signature, key, _, rfl, hkey,
      hbase64.decode_encode _, ?_⟩⟩
    exact (hsign _ _ _).mpr rfl
  · rintro hrefused signature haccepted
    obtain ⟨app', happ', htoken, hevents, hsigned⟩ := validate_eq_ok_iff.mp haccepted
    obtain rfl := Option.some.inj (happ.symm.trans happ')
    cases hrefused with
    | inl hnone =>
        cases hsigned with
        | inl hskipped => cases hallow.symm.trans hskipped
        | inr hsigned =>
            obtain ⟨_, key, _, _, hkey, _⟩ := hsigned
            cases hnone.symm.trans hkey
    | inr hfails => exact hfails ⟨hevents, htoken⟩

/-- An unusable secret leaves its platform without a key unless it is blank. -/
theorem keyFor_eq_none_iff_of_isUnusable (hhex : X.hex.Documented) {row : AppRow}
    {platform : Platform} (hunusable : IsUnusable X (row.secretFor platform)) :
    (ofRow X row).keyFor platform = none ↔ row.secretFor platform ≠ some "" := by
  rw [keyFor_ofRow]
  cases hsecret : row.secretFor platform with
  | none => simp
  | some s =>
      rw [Option.bind_some, createKey, Option.map_eq_none_iff]
      constructor
      · rintro hdecode heq
        obtain rfl := Option.some.inj heq
        cases hdecode.symm.trans hhex.decode_nil
      · intro hne
        cases hunusable s hsecret with
        | inl hblank => exact absurd (congrArg some hblank) hne
        | inr hdecode => exact hdecode

/-- Where signatures are checked, a platform whose secret is unusable is closed
exactly when the secret is not blank or the request fails another check. -/
theorem unusable_secret_closed_iff (hhex : X.hex.Documented) (hhmac : X.hmac.Documented)
    (hbase64 : X.base64.Documented) (hallow : registry.allowEmptySignature = false)
    {row : AppRow} (happ : registry.apps event.environment.appId = some (ofRow X row)) :
    (IsUnusable X (row.secretFor event.device.getPlatform) →
        IsClosed X config registry event context rawData) ↔
      row.secretFor event.device.getPlatform ≠ some "" ∨
        ¬ PassesOtherChecks config (ofRow X row) event context := by
  rw [isClosed_iff hhmac hbase64 hallow happ]
  constructor
  · intro hclosed
    rw [or_iff_not_imp_left, not_not]
    intro hblank
    have hunusable : IsUnusable X (row.secretFor event.device.getPlatform) := by
      intro s hs
      exact Or.inl (Option.some.inj (hs.symm.trans hblank))
    cases hclosed hunusable with
    | inl hnone =>
        exact absurd hblank ((keyFor_eq_none_iff_of_isUnusable hhex hunusable).mp hnone)
    | inr hfails => exact hfails
  · intro hcond hunusable
    rwa [keyFor_eq_none_iff_of_isUnusable hhex hunusable]

/-! ### An application for browsers -/

/-- An application with this secret for the web and a proper one for iOS. -/
def webApp (secretWeb : Option String) : AppRow where
  id := Reference.appId
  token := some "46732a28cd44"
  iosSecret := some "1b66af517dd60807aeff8b4582d202ef500085bc0cec92bc3e67f0c58d6203b5"
  androidSecret := none
  webSecret := secretWeb

/-- A registry with that application which checks signatures. -/
def webRegistry (secretWeb : Option String) : AppRegistry where
  allowEmptySignature := false
  apps := buildApps Reference.signingCrates [webApp secretWeb]

/-- A request as it gets to validation without any header but the signature. -/
def webContext : Context where
  appId := Reference.appId
  platform := .web
  apiToken := none
  deviceId := none
  signature := none
  ip := none
  origin := none

theorem webRegistry_apps (secretWeb : Option String) :
    (webRegistry secretWeb).apps Reference.webBatch.environment.appId =
      some (ofRow Reference.signingCrates (webApp secretWeb)) := by
  have hrow : rowFor [webApp secretWeb] Reference.appId = some (webApp secretWeb) := by
    simp [rowFor, webApp]
  exact (buildApps_get Reference.signingCrates [webApp secretWeb] Reference.appId).trans
    (congrArg (Option.map (ofRow Reference.signingCrates)) hrow)

/-- Without a web secret, the platform is closed. -/
theorem missing_secret_closed :
    IsClosed Reference.signingCrates Reference.globals.config (webRegistry none)
      Reference.webBatch webContext (asBytes Reference.webBody) := by
  refine (unusable_secret_closed_iff Reference.hex_documented Reference.hmac_documented
    Reference.base64_documented rfl (webRegistry_apps none)).mpr (Or.inl ?_) ?_
  · decide
  · intro s hs
    cases hs

/-- With a blank one, a signature under the empty key gets the batch accepted. -/
theorem blank_secret_open :
    (webRegistry (some "")).allowEmptySignature = false ∧
    IsUnusable Reference.signingCrates
      ((webApp (some "")).secretFor Reference.webBatch.device.getPlatform) ∧
    (webRegistry (some "")).validate Reference.signingCrates Reference.globals.config
      Reference.webBatch { webContext with signature := some (Reference.base64.encode
        (Codec.Sha512.hmac [] (asBytes Reference.webBody))) } (asBytes Reference.webBody) =
      .ok () := by
  refine ⟨rfl, fun s hs => Or.inl (Option.some.inj hs).symm, validate_eq_ok_iff.mpr ?_⟩
  refine ⟨_, webRegistry_apps (some ""), ?_, ?_, Or.inr ⟨_, ⟨[]⟩, _, rfl, rfl,
    Reference.base64_documented.decode_encode _, ?_⟩⟩
  · intro token htoken
    cases htoken
  · decide
  · exact beq_self_eq_true _

end XorcGateway.AppRegistry
