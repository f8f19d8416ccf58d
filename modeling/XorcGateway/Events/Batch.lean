/-
# From the incoming batch to the published one

The conversion overwrites what the request's context knows better than the
client: the recipient, when the context has a device id, and the location, when
it has an address.
-/

import XorcGateway.Context
import XorcGateway.Events.Event

namespace XorcGateway.Events

open Rust

variable (X : Crates)

namespace SDKDevice

/-- The address is published hashed, with the country it is located in. -/
def setLocation (device : SDKDevice) (ip : IpAddr) : SDKDevice :=
  { device with
    ipHashedBlake2 :=
      some (X.base64.encode (X.location.blake2b (asBytes (X.location.displayIp ip))))
    country := X.location.country ip }

/-- The language part of a locale such as `fi_FI`. -/
def languageOf (locale : String) : Option String :=
  if '_' ∈ locale.toList then some (String.ofList (locale.toList.takeWhile (· ≠ '_')))
  else none

/-- The published form of a device. -/
def toDevice (device : SDKDevice) : Output.Device where
  platform := some device.getPlatform.toString
  locale := device.locale
  language :=
    match device.language with
    | some language => some language
    | none => device.locale.bind languageOf
  timezone := device.timeZone
  manufacturer := device.manufacturer
  model := device.model
  osv := device.osVersion
  os := device.osName
  connectiontype := device.networkConnectionType
  ifa := device.ifa
  idfv := device.idfv
  notificationTypes := device.notificationTypes
  orientation := device.orientation
  h := device.h <|> some (-1)
  w := device.w <|> some (-1)
  ifaTrackingEnabled := some device.ifaTrackingEnabled
  notificationRegistered := some device.notificationRegistered
  ipHashedBlake2 := device.ipHashedBlake2
  country := device.country
  carrier := some { name := device.carrierName, mcc := device.carrierCountry }
  browser := some {
    name := device.browserName
    ua := device.browserUa
    version := device.browserVersion }

end SDKDevice

/-- The published form of an environment. -/
def SDKEnvironment.toSdkEnvironment (environment : SDKEnvironment) : Output.SdkEnvironment where
  appId := some environment.appId
  sdkVersion := environment.sdkVersion
  appVersion := environment.appVersion
  appStoreId := environment.appStoreId
  appInstanceId := environment.appInstanceId

namespace SDKEventBatch

/-- The recipient a batch is published for. -/
def recipientFor (batch : SDKEventBatch) (context : Context) : Option String :=
  match context.deviceId with
  | some deviceId => some deviceId.cleartext.value
  | none => batch.recipientId

/-- The device a batch is published with. -/
def deviceFor (batch : SDKEventBatch) (context : Context) : SDKDevice :=
  match context.ip with
  | some ip => batch.device.setLocation X ip
  | none => batch.device

def intoProto (now : ℤ) (batch : SDKEventBatch) (context : Context) : Output.SdkEventBatch where
  header := {
    createdAt := now
    source := batch.environment.appId
    type_ := some "events.SDKEventBatch"
    feed := some "xorc"
    recipientId := batch.recipientFor context }
  environment := some batch.environment.toSdkEnvironment
  device := some (batch.deviceFor X context).toDevice
  event := (X.sortUnstableBy (fun e₁ e₂ => compare e₁.timestamp e₂.timestamp) batch.events).map
    SDKEvent.toSdkEventData

end SDKEventBatch

end XorcGateway.Events
