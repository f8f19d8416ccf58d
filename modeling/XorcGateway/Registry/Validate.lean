/-
# Request validation

The checks an incoming batch passes before anything else happens, in the order
the code makes them.
-/

import XorcGateway.Error

namespace XorcGateway

open Events Rust

/-- The registry as a request finds it. -/
structure AppRegistry where
  allowEmptySignature : Bool
  apps : HashMap String Application

namespace AppRegistry

def tokenFor (self : AppRegistry) (appId : String) : Option String :=
  (self.apps appId).bind Application.token

/-- The token a request has to send, if it sends one. -/
def validToken (config : Config) (app : Application) : String :=
  app.token.getD config.gateway.defaultToken

/-- Validates the incoming request for several things:

* Does the application ID exist,
* Is the given `XORC-Api-Token` header same as in database or configuration,
* Are there events at all,
* If `allowEmptySignature` is `false`, is the `XORC-Signature` a HMAC signature
  created from the platform secret and raw data.

The token is compared only when the context has one. -/
def validate (X : Crates) (config : Config) (self : AppRegistry) (event : SDKEventBatch)
    (context : Context) (rawData : List UInt8) : Except GatewayError Unit :=
  match self.apps event.environment.appId with
  | none => .error .appDoesNotExist
  | some app =>
      if context.apiToken.any (· ≠ validToken config app) then .error .invalidToken
      else if event.events.isEmpty then .error .invalidPayload
      else if self.allowEmptySignature then .ok ()
      else
        match context.signature with
        | none => .error .missingSignature
        | some signature =>
            match app.keyFor event.device.getPlatform with
            | none => .error .appDoesNotExist
            | some platformKey =>
                match X.base64.decode (asBytes signature) with
                | none => .error .invalidSignature
                | some decodedSignature =>
                    if X.hmac.verify platformKey.value rawData decodedSignature then .ok ()
                    else .error .invalidSignature

/-- Validation accepts a batch exactly when its application exists, the token,
if any, is the application's, there are events, and the signature verifies under
the key of the batch's platform unless empty signatures are allowed. -/
theorem validate_eq_ok_iff {X : Crates} {config : Config} {self : AppRegistry}
    {event : SDKEventBatch} {context : Context} {rawData : List UInt8} :
    self.validate X config event context rawData = .ok () ↔
      ∃ app, self.apps event.environment.appId = some app ∧
        (∀ token, context.apiToken = some token → token = validToken config app) ∧
        event.events ≠ [] ∧
        (self.allowEmptySignature = true ∨ ∃ signature key decoded,
          context.signature = some signature ∧ app.keyFor event.device.getPlatform = some key ∧
          X.base64.decode (asBytes signature) = some decoded ∧
          X.hmac.verify key.value rawData decoded = true) := by
  rw [validate]
  cases happ : self.apps event.environment.appId with
  | none => simp
  | some app =>
      simp only [Option.some.injEq, exists_eq_left']
      by_cases htoken : context.apiToken.any (· ≠ validToken config app) = true
      · rw [if_pos htoken]
        obtain ⟨token, hsent, hne⟩ := (Option.any_eq_true ..).mp htoken
        simp only [reduceCtorEq, false_iff]
        intro hall
        exact absurd (hall.1 token hsent) (by simpa using hne)
      · have hsent : ∀ token, context.apiToken = some token → token = validToken config app := by
          intro token htok
          simpa [htok] using htoken
        rw [if_neg htoken, and_iff_right hsent]
        cases hevents : event.events with
        | nil => simp
        | cons first rest =>
            cases hallow : self.allowEmptySignature with
            | true => simp
            | false =>
                cases hsignature : context.signature with
                | none => simp
                | some signature =>
                    cases hkey : app.keyFor event.device.getPlatform with
                    | none => simp
                    | some key =>
                        cases hdecode : X.base64.decode (asBytes signature) with
                        | none => simp [hdecode]
                        | some decoded => simp [hdecode]

/-- A request without a token, or with the valid one, is not refused for its
token. -/
theorem validate_ne_invalidToken {X : Crates} {config : Config} {self : AppRegistry}
    {event : SDKEventBatch} {context : Context} {rawData : List UInt8}
    (h : ∀ app token, self.apps event.environment.appId = some app →
      context.apiToken = some token → token = validToken config app) :
    self.validate X config event context rawData ≠ .error .invalidToken := by
  rw [validate]
  cases happ : self.apps event.environment.appId with
  | none => simp
  | some app =>
      have htoken : context.apiToken.any (· ≠ validToken config app) = false := by
        cases hsent : context.apiToken with
        | none => rfl
        | some token => simp [h app token happ hsent]
      simp only [htoken, Bool.false_eq_true, if_false]
      repeat' split
      all_goals simp

end AppRegistry

end XorcGateway
