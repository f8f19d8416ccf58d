/-
# Answers to a batch

The result list of an accepted batch, and the HTTP responses the gateway builds.
A JSON body is kept as the value it serialises.
-/

import XorcGateway.Context

namespace XorcGateway.Events

inductive EventStatus
  | success
  deriving DecidableEq

/-- What a registered device authenticates with from then on. -/
structure RegistrationData where
  apiToken : Option String
  deviceId : Ciphertext
  deriving DecidableEq

structure EventResult where
  id : String
  registrationData : Option RegistrationData
  status : EventStatus
  deriving DecidableEq

namespace EventResult

def new (id : String) (status : EventStatus) : EventResult where
  id := id
  registrationData := none
  status := status

def register (id : String) (status : EventStatus) (apiToken : Option String)
    (ciphertext : Ciphertext) : EventResult where
  id := id
  registrationData := some { apiToken, deviceId := ciphertext }
  status := status

end EventResult

structure SDKResponse where
  eventsStatus : List EventResult
  deriving DecidableEq

end XorcGateway.Events

namespace XorcGateway

open Events Rust

/-- A response body: fixed text, or a serialised `SDKResponse`. -/
inductive Body
  | text (s : String)
  | json (response : SDKResponse)
  deriving DecidableEq

structure Response where
  status : ℕ
  headers : HeaderMap
  body : Body
  deriving DecidableEq

/-- The registration data a response hands out, if any. -/
def Response.registrationData (response : Response) : List RegistrationData :=
  match response.body with
  | .text _ => []
  | .json sdkResponse => sdkResponse.eventsStatus.filterMap EventResult.registrationData

/-- `http::response::Builder`, before its status and body are set. -/
structure Builder where
  headers : HeaderMap := []
  deriving DecidableEq

namespace Builder

def header (builder : Builder) (name : HeaderName) (value : HeaderValue) : Builder where
  headers := builder.headers ++ [(name, value)]

/-- Set the status and the body. -/
def build (builder : Builder) (status : ℕ) (body : Body) : Response where
  status := status
  headers := builder.headers
  body := body

end Builder

/-- `HeaderValue::from_static`. -/
def HeaderValue.fromStatic (s : String) (h : (asBytes s).all isHeaderByte) : HeaderValue where
  bytes := asBytes s
  valid := List.all_eq_true.mp h

end XorcGateway
