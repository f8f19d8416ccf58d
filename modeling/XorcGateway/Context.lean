/-
# The request context

What the gateway learns about a request from its headers. A header that is
absent and a header that cannot be read as text both become `none`.
-/

import XorcGateway.Calls

namespace XorcGateway

open Effects Events Rust

structure DeviceId where
  ciphertext : Ciphertext
  cleartext : Cleartext
  deriving DecidableEq

structure Context where
  appId : String
  platform : Platform
  apiToken : Option String
  deviceId : Option DeviceId
  signature : Option String
  ip : Option IpAddr
  origin : Option String
  deriving DecidableEq

variable (X : Crates) (secret : SecretKey)

/-- A fresh identity: a random UUID and its encryption. -/
def DeviceId.generate : Request DeviceId := do
  let uuid ← perform .newV4
  let cleartext : Cleartext := ⟨X.uuid.hyphenated uuid⟩
  let nonce ← perform .fillNonce
  let ciphertext ← liftPanic (Ciphertext.encrypt X secret nonce cleartext)
  return { ciphertext, cleartext }

namespace Context

def getValue (headers : HeaderMap) (name : HeaderName) : Option String :=
  (headers.get name).bind X.http.toStr

/-- The device id a header value stands for: the value and what it decrypts
to. -/
def decryptDeviceId (s : String) : Except Panic (Option DeviceId) := do
  let ciphertext : Ciphertext := ⟨s⟩
  match ← Cleartext.decrypt X secret ciphertext with
  | .ok cleartext => return some { ciphertext, cleartext }
  | .error _ => return none

/-- The device id the headers carry. -/
def deviceIdOf (headers : HeaderMap) : Except Panic (Option DeviceId) :=
  match getValue X headers .xorcDeviceId with
  | some s => decryptDeviceId X secret s
  | none => return none

def new (headers : HeaderMap) (appId : String) (platform : Platform) :
    Except Panic Context := do
  let deviceId ← deviceIdOf X secret headers
  return {
    apiToken := getValue X headers .xorcApiToken
    appId
    platform
    deviceId
    signature := getValue X headers .xorcSignature
    ip := (getValue X headers .xRealIp).bind X.location.parseIp
    origin := getValue X headers .origin }

variable {X secret}

/-- All but the device id is read straight from the request. -/
theorem new_eq_ok_iff {headers : HeaderMap} {appId : String} {platform : Platform}
    {context : Context} :
    Context.new X secret headers appId platform = .ok context ↔
      ∃ deviceId, deviceIdOf X secret headers = .ok deviceId ∧
        context = {
          apiToken := getValue X headers .xorcApiToken
          appId
          platform
          deviceId
          signature := getValue X headers .xorcSignature
          ip := (getValue X headers .xRealIp).bind X.location.parseIp
          origin := getValue X headers .origin } := by
  rw [Context.new]
  cases hdeviceId : deviceIdOf X secret headers with
  | error panic => simp [Bind.bind, Except.bind]
  | ok deviceId => simp [Bind.bind, Except.bind, Pure.pure, Except.pure, eq_comm]

/-- Building the context panics exactly when the device id does. -/
theorem new_eq_error_iff {headers : HeaderMap} {appId : String} {platform : Platform}
    {panic : Panic} :
    Context.new X secret headers appId platform = .error panic ↔
      deviceIdOf X secret headers = .error panic := by
  rw [Context.new]
  cases hdeviceId : deviceIdOf X secret headers with
  | error panic => simp [Bind.bind, Except.bind]
  | ok deviceId => simp [Bind.bind, Except.bind, Pure.pure, Except.pure]

end Context

end XorcGateway
