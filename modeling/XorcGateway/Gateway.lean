/-
# The request pipeline

From the body and headers of a POST to its response: parse, build the context,
check the origin, validate, find or make a device id for a registration,
publish, answer. Each stage of the chain of futures is one function; an error
leaves the chain together with the context it still carries, if any.
-/

import XorcGateway.Bus.Kafka
import XorcGateway.Events.Batch
import XorcGateway.IfaMatching
import XorcGateway.Registry.Validate

namespace XorcGateway.Gateway

open Effects Events Rust

/-- What the lazily created globals of the process hold. The source creates each of
them on its first use, which may be inside a request and may panic; here all of
them have been created. -/
structure Globals where
  config : Config
  secret : SecretKey

/-- The CORS tables, as their first use has built them. -/
def Globals.cors (g : Globals) : Option Cors := Cors.new g.config

/-- A POST request: its headers, and its body unless reading it failed. -/
structure Incoming where
  headers : HeaderMap
  body : Option (List UInt8)

/-- An error with the context that is still at hand when it occurs. -/
abbrev Failure := GatewayError × Option Context

variable (X : Crates) (g : Globals)

/-- The identity a lookup leads to: the id that was found, encrypted, or a fresh
one. -/
def identityFor : Option String → Request DeviceId
  | some deviceId => do
      let cleartext : Cleartext := ⟨deviceId⟩
      let nonce ← perform .fillNonce
      let ciphertext ← liftPanic (Ciphertext.encrypt X g.secret nonce cleartext)
      return { ciphertext, cleartext }
  | none => DeviceId.generate X g.secret

/-- The blocking section of a registration: look the device up, make an id if
that gave none, and write the id back either way. -/
def getId (appId : String) (ifa : Option String) (trackingEnabled : Bool) :
    Request DeviceId := do
  let found ← IfaMatching.getIdForIfa X appId ifa trackingEnabled
  let deviceId ← identityFor X g found
  let _ ← IfaMatching.putIdForIfa X appId deviceId.cleartext ifa trackingEnabled
  return deviceId

/-- The device id of a registration: the one the context already has, or the
result of the blocking section. -/
def fetchId (context : Context) (event : SDKEventBatch) :
    Request (Except BlockingError DeviceId) :=
  match context.deviceId with
  | some deviceId => return .ok deviceId
  | none => do
      match ← perform .blocking with
      | .error e => return .error e
      | .ok () => do
          let deviceId ← getId X g context.appId event.device.ifa event.device.ifaTrackingEnabled
          return .ok deviceId

/-- The token handed out with a registration: the one the request sent, else
the application's own as the table has it by then. -/
def withToken (context : Context) : Request Context :=
  match context.apiToken with
  | some _ => return context
  | none => do
      let apps ← perform .loadApps
      let registry : AppRegistry := ⟨g.config.gateway.allowEmptySignature, apps⟩
      return { context with apiToken := registry.tokenFor context.appId }

def createNewDevice (context : Context) (event : SDKEventBatch) (eventId : String) :
    Request (Except GatewayError (List EventResult × Context × SDKEventBatch)) := do
  match ← fetchId X g context event with
  | .error _ => return .error (.serviceUnavailable "Aerospike is acting slow today")
  | .ok deviceId => do
      let ciphertext := deviceId.ciphertext
      let context :=
        if context.deviceId.isNone then { context with deviceId := some deviceId } else context
      let context ← withToken g context
      let results := [EventResult.register eventId .success context.apiToken ciphertext]
      return .ok (results, context, event)

/-- The id of the first register event of a batch. -/
def findRegisterEvent (event : SDKEventBatch) : Option String :=
  (event.events.find? SDKEvent.isRegister).map SDKEvent.id

def generateEventResults (context : Context) (event : SDKEventBatch) :
    Request (Except GatewayError (List EventResult × Context × SDKEventBatch)) :=
  match findRegisterEvent event with
  | some eventId => createNewDevice X g context event eventId
  | none =>
      let results := event.events.map fun e => EventResult.new e.id .success
      return .ok (results, context, event)

/-- The end of the chain: convert, publish, log and count. -/
def publishEvents (results : List EventResult) (context : Context) (event : SDKEventBatch) :
    Request (Except Failure (SDKResponse × Context)) := do
  let eventCount := event.events.length
  let now ← perform .utcNow
  let protoEvent := event.intoProto X now context
  match ← Kafka.publish g.config protoEvent context with
  | .error e => return .error (e, none)
  | .ok () => do
      perform (.log (.sentDownstream eventCount))
      perform (.inc .events results.length)
      return .ok (⟨results⟩, context)

/-- The CORS check in front of validation: only web requests have to name an
allowed origin. -/
def refusesOrigin (headers : HeaderMap) (event : SDKEventBatch) : Bool :=
  match g.cors with
  | some cors =>
      event.device.getPlatform == .web &&
        !cors.validOrigin event.environment.appId (Context.getValue X headers .origin)
  | none => false

/-- SDK event handling is here -/
def handleEvent (body : List UInt8) (event : SDKEventBatch) (headers : HeaderMap) :
    Request (Except Failure (SDKResponse × Context)) := do
  let context ← liftPanic
    (Context.new X g.secret headers event.environment.appId event.device.getPlatform)
  if refusesOrigin X g headers event then
    return .error (.unknownOrigin, some context)
  else do
    let apps ← perform .loadApps
    let registry : AppRegistry := ⟨g.config.gateway.allowEmptySignature, apps⟩
    match registry.validate X g.config event context body with
    | .error e => return .error (e, some context)
    | .ok () => do
        match ← generateEventResults X g context event with
        | .error e => return .error (e, none)
        | .ok (results, context, event) => publishEvents X g results context event

/-- The `Content-Type` of a successful answer. -/
def contentTypeJson : HeaderValue := .fromStatic "application/json" (by decide)

/-- A successful answer. -/
def respondOk (sdkResponse : SDKResponse) (context : Context) : Request Response := do
  let builder ← liftPanic (responseBuilderFor X g.cors (some context))
  perform (.inc (.requests "200" "sdk_events") 1)
  return (builder.header .contentType contentTypeJson).build 200 (.json sdkResponse)

/-- A refusal. -/
def respondError (failure : Failure) : Request Response := do
  perform (.log (.responseError failure.1.description))
  let response ← liftPanic (intoResponse X g.cors failure.1 failure.2)
  perform (.inc (.requests (toString response.status) "sdk_events") 1)
  return response

/-- The first half of `handleSdk`: read the body, parse it, handle the batch. -/
def handleBody (incoming : Incoming) : Request (Except Failure (SDKResponse × Context)) :=
  match incoming.body with
  | none => return .error (.internalServerError "body concat", none)
  | some body =>
      match X.fromSlice body with
      | some event => handleEvent X g body event incoming.headers
      | none => return .error (.invalidPayload, none)

/-- The second half of `handleSdk`: both outcomes become a response. -/
def respond : Except Failure (SDKResponse × Context) → Request Response
  | .ok (sdkResponse, context) => respondOk X g sdkResponse context
  | .error failure => respondError X g failure

/-- The request level SDK event handling -/
def handleSdk (incoming : Incoming) : Request Response := do
  let res ← handleBody X g incoming
  respond X g res

end XorcGateway.Gateway
