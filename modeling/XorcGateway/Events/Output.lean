/-
# The published messages

The protobuf structures the conversion fills in. Only the fields the gateway
assigns are listed; the remaining ones keep their protobuf defaults. A Kafka
payload is the message itself: its wire encoding belongs to the protobuf
library.
-/

import XorcGateway.Events.Json

namespace XorcGateway.Events.Output

/-- `property::Type`. -/
inductive PropertyType
  | stringValue (s : String)
  | boolValue (b : Bool)
  | numberValue (x : F64)
  deriving DecidableEq

structure Property where
  key : String
  type_ : Option PropertyType
  deriving DecidableEq

structure SdkEventData where
  properties : List Property
  id : Option String
  sessionId : Option String
  timestamp : Option String
  name : Option String
  externalUserId : Option String
  referenceId : Option String
  deriving DecidableEq

structure SdkEnvironment where
  appId : Option String
  sdkVersion : Option String
  appVersion : Option String
  appStoreId : Option String
  appInstanceId : Option String
  deriving DecidableEq

structure Carrier where
  name : Option String
  mcc : Option String
  deriving DecidableEq

structure Browser where
  name : Option String
  ua : Option String
  version : Option String
  deriving DecidableEq

structure Device where
  platform : Option String
  locale : Option String
  language : Option String
  timezone : Option String
  manufacturer : Option String
  model : Option String
  osv : Option String
  os : Option String
  connectiontype : Option String
  ifa : Option String
  idfv : Option String
  notificationTypes : Option Int32
  orientation : Option String
  h : Option Int32
  w : Option Int32
  ifaTrackingEnabled : Option Bool
  notificationRegistered : Option Bool
  ipHashedBlake2 : Option String
  country : Option String
  carrier : Option Carrier
  browser : Option Browser
  deriving DecidableEq

structure Header where
  createdAt : ℤ
  source : String
  type_ : Option String
  feed : Option String
  recipientId : Option String
  deriving DecidableEq

structure SdkEventBatch where
  header : Header
  environment : Option SdkEnvironment
  device : Option Device
  event : List SdkEventData
  deriving DecidableEq

end XorcGateway.Events.Output
