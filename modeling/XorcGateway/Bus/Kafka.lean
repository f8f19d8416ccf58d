/-
# Publishing to Kafka

One record per accepted batch, keyed by application and device. The result of a
send is a delivery result inside the result of the producer's future.
-/

import XorcGateway.Error

namespace XorcGateway.Kafka

open Effects Events Rust

def routingKey (context : Context) : Option (List UInt8) :=
  context.deviceId.map fun deviceId =>
    asBytes (context.appId ++ "|" ++ deviceId.cleartext.value)

/-- The record a payload is sent as. -/
def recordFor (config : Config) (payload : Output.SdkEventBatch) (context : Context) :
    FutureRecord where
  topic := config.kafka.topic
  partition := none
  payload := payload
  key := routingKey context
  timestamp := none

def publish (config : Config) (payload : Output.SdkEventBatch) (context : Context) :
    Request (Except GatewayError Unit) := do
  match ← perform (.send (recordFor config payload context)) with
  -- only the outer result is looked at
  | .ok _ => return .ok ()
  | .error _ => return .error (.serviceUnavailable "Could not send to kafka")

end XorcGateway.Kafka
