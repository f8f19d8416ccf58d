/-
# Matching devices by their advertising identifier

The two operations on the `gw_known_ifas` store. Both parse the identifier and
the application id first, and only a request that passes both parsings sends a
statement. A failed read and a missing entry give the caller the same `none`.
-/

import XorcGateway.Context

namespace XorcGateway.IfaMatching

open Effects Events Rust

variable (X : Crates)

def parseIfa (ifa : Option String) (ifaTrackingEnabled : Bool) : Option Uuid :=
  (ifa.bind X.uuid.parseStr).bind fun ifa =>
    if ifaTrackingEnabled && ifa != Uuid.nil then some ifa else none

def runQuery (statement : Query) : Request (Except QueryError Frame) :=
  perform (.query statement)

/-- The entity id in a frame's first row. -/
def firstEntityId (rows : List Row) : Option Uuid :=
  rows.head?.bind Row.entityId

def getIdForIfa (appId : String) (ifa : Option String) (ifaTrackingEnabled : Bool) :
    Request (Option String) :=
  match parseIfa X ifa ifaTrackingEnabled with
  | none => return none
  | some ifa =>
      match X.uuid.parseStr appId with
      | none => return none
      | some appId => do
          match ← runQuery (.selectEntityId appId ifa) with
          | .error e => do
              perform (.log (.couldNotReadIfa e))
              perform (.inc (.scylladbRequests "get" "error") 1)
              return none
          | .ok frame =>
              match frame.body with
              | none => return none
              | some body =>
                  match body.rows with
                  | none => return none
                  | some rows =>
                      match firstEntityId rows with
                      | some entityId => do
                          perform (.inc (.scylladbRequests "get" "ok") 1)
                          return some (X.uuid.hyphenated entityId)
                      | none => do
                          perform (.inc (.scylladbRequests "get" "not_found") 1)
                          return none

/-- Why an entry is not written. -/
inductive PutError
  | /-- IFA storage is not allowed or ifa was faulty. -/
    notAllowed
  | faultyAppId
  | faultyEntityId
  | couldNotWrite (error : QueryError)
  deriving DecidableEq

def putIdForIfa (appId : String) (deviceId : Cleartext) (ifa : Option String)
    (ifaTrackingEnabled : Bool) : Request (Except PutError Unit) :=
  match parseIfa X ifa ifaTrackingEnabled with
  | none => return .error .notAllowed
  | some ifa =>
      match X.uuid.parseStr appId with
      | none => return .error .faultyAppId
      | some appId =>
          match X.uuid.parseStr deviceId.value with
          | none => return .error .faultyEntityId
          | some entityId => do
              match ← runQuery (.insertKnownIfa appId ifa entityId) with
              | .ok _ => do
                  perform (.inc (.scylladbRequests "put" "ok") 1)
                  return .ok ()
              | .error error => do
                  perform (.inc (.scylladbRequests "put" "error") 1)
                  return .error (.couldNotWrite error)

end XorcGateway.IfaMatching
