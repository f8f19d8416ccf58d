/-
# Errors and their responses

Every refusal of a request is one of these errors, with a fixed status and text.
The CORS headers of an error response depend on whether the error still carries
the request's context.
-/

import XorcGateway.Cors

namespace XorcGateway

open Events Rust

inductive GatewayError
  | appDoesNotExist
  | invalidToken
  | missingToken
  | missingSignature
  | invalidSignature
  | unknownOrigin
  | badDeviceId
  | invalidPayload
  | internalServerError (reason : String)
  | serviceUnavailable (reason : String)
  deriving DecidableEq

namespace GatewayError

/-- The text logged for an error. -/
def description : GatewayError → String
  | .appDoesNotExist => "Application does not exist"
  | .invalidToken => "The given SDK token was invalid"
  | .missingToken => "No SDK token given"
  | .missingSignature => "The signature header was missing"
  | .invalidSignature => "The signature header was invalid"
  | .unknownOrigin => "The ORIGIN didn't match to the CORS configuration"
  | .badDeviceId => "There is something fishy in the device id encryption"
  | .invalidPayload => "The request JSON was faulty"
  | .internalServerError reason => reason
  | .serviceUnavailable reason => reason

/-- The status an error is answered with. -/
def status : GatewayError → ℕ
  | .appDoesNotExist => 403
  | .invalidToken => 412
  | .missingToken => 412
  | .missingSignature => 412
  | .invalidSignature => 412
  | .unknownOrigin => 403
  | .badDeviceId => 400
  | .invalidPayload => 400
  | .internalServerError _ => 500
  | .serviceUnavailable _ => 503

/-- The text an error is answered with. -/
def text : GatewayError → String
  | .appDoesNotExist => "Unknown app"
  | .invalidToken => "Invalid XORC-Api-Token"
  | .missingToken => "Missing XORC-Api-Token"
  | .missingSignature => "Missing XORC-Signature"
  | .invalidSignature => "Invalid XORC-Signature"
  | .unknownOrigin => "Unknown Origin"
  | .badDeviceId => "Bad XORC-Device-Id"
  | .invalidPayload => "Invalid payload"
  | .internalServerError _ => "Invalid Server Error"
  | .serviceUnavailable _ => "Service unavailable"

theorem le_status (error : GatewayError) : 400 ≤ error.status := by
  cases error <;> simp [status]

theorem status_ne_ok (error : GatewayError) : error.status ≠ 200 := by
  have := error.le_status
  omega

end GatewayError

variable (X : Crates)

def responseBuilderFor (cors : Option Cors) (context : Option Context) : Except Panic Builder :=
  match cors, context with
  | some cors, some context =>
      cors.responseBuilderOrigin X context.appId context.origin context.platform
  | _, _ => return {}

def intoResponse (cors : Option Cors) (error : GatewayError) (context : Option Context) :
    Except Panic Response := do
  let builder ← responseBuilderFor X cors context
  return builder.build error.status (.text error.text)

/-- Without a context no CORS header is computed, so nothing can panic. -/
@[simp]
theorem responseBuilderFor_no_context (cors : Option Cors) :
    responseBuilderFor X cors none = .ok {} := by
  cases cors <;> rfl

/-- Whatever the headers, the status and the text are the error's. -/
theorem intoResponse_eq (cors : Option Cors) (error : GatewayError) (context : Option Context) :
    intoResponse X cors error context = (responseBuilderFor X cors context).map fun builder =>
      builder.build error.status (.text error.text) := by
  rw [intoResponse]
  cases responseBuilderFor X cors context <;> rfl

end XorcGateway
