/-
# The incoming batch

The structures the gateway deserialises a request body into. Every field the
program reads is here, under the source's name.
-/

import XorcGateway.Events.Json

namespace XorcGateway.Events

/-- Where a batch comes from, as the gateway distinguishes it. -/
inductive Platform
  | ios
  | android
  | web
  | unknown
  deriving DecidableEq, Repr

/-- The name a platform is published and logged under. -/
def Platform.toString : Platform → String
  | .ios => "ios"
  | .android => "android"
  | .web => "web"
  | .unknown => ""

structure SDKEnvironment where
  sdkVersion : Option String := none
  appVersion : Option String := none
  appStoreId : Option String := none
  appId : String := ""
  appInstanceId : Option String := none
  deriving DecidableEq

structure SDKEvent where
  id : String := "0"
  timestamp : UInt64
  name : String
  properties : Map := .nil
  sessionId : Option String := none
  externalUserId : Option String := none
  referenceId : Option String := none
  deriving DecidableEq

/-- The event that asks for a device id. -/
def SDKEvent.isRegister (event : SDKEvent) : Bool := event.name == "xorc_register"

structure SDKDevice where
  ifaTrackingEnabled : Bool := false
  notificationRegistered : Bool := false
  h : Option Int32 := none
  w : Option Int32 := none
  locale : Option String := none
  language : Option String := none
  timeZone : Option String := none
  manufacturer : Option String := none
  model : Option String := none
  osVersion : Option String := none
  osName : Option String := none
  networkConnectionType : Option String := none
  deviceName : Option String := none
  ifa : Option String := none
  idfv : Option String := none
  carrierName : Option String := none
  carrierCountry : Option String := none
  browserName : Option String := none
  browserVersion : Option String := none
  browserUa : Option String := none
  notificationTypes : Option Int32 := none
  orientation : Option String := none
  platform : Option String := none
  ipHashedBlake2 : Option String := none
  country : Option String := none
  deriving DecidableEq

/-- The declared platform decides; the operating system name is only a
fallback, and it can never say `web`. -/
def SDKDevice.getPlatform (device : SDKDevice) : Platform :=
  match device.platform with
  | some "android" => .android
  | some "ios" => .ios
  | some "web" => .web
  | _ =>
      match device.osName with
      | some "iOS" => .ios
      | some "iPhone OS" => .ios
      | some "Android" => .android
      | _ => .unknown

structure SDKEventBatch where
  environment : SDKEnvironment
  events : List SDKEvent
  device : SDKDevice
  recipientId : Option String := none
  deriving DecidableEq

end XorcGateway.Events
