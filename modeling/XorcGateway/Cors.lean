/-
# Cross-origin requests

The allowed origins of each application, and the headers that tell a browser
about them. Building a header from configured text panics when the text is not
a header value.
-/

import XorcGateway.Events.Response

namespace XorcGateway

open Events Rust

/-- The CORS tables; a set of origins is the list it was built from. -/
structure Cors where
  allowedMethods : String
  allowedHeaders : String
  allowedOrigins : HashMap String (List String)

namespace Cors

/-- One `[[origins]]` entry after the other; an entry replaces an earlier one
for the same application. -/
def allowedOriginsOf (origins : List OriginConfig) : HashMap String (List String) :=
  origins.foldl (fun acc origin => acc.insert origin.appId origin.allowed) .new

def new (config : Config) : Option Cors :=
  config.cors.map fun corsConfig => {
    allowedOrigins := (config.origins.map allowedOriginsOf).getD .new
    allowedMethods := corsConfig.allowedMethods
    allowedHeaders := corsConfig.allowedHeaders }

/-- The table is built from the configured entries. -/
theorem allowedOrigins_of_new {config : Config} {cors : Cors} (h : new config = some cors) :
    cors.allowedOrigins = allowedOriginsOf (config.origins.getD []) := by
  obtain ⟨corsConfig, _, rfl⟩ := Option.map_eq_some_iff.mp h
  cases config.origins <;> rfl

def validOrigin (self : Cors) (appId : String) (origin : Option String) : Bool :=
  match origin with
  | some origin =>
      match self.allowedOrigins appId with
      | some appOrigins => appOrigins.contains origin
      | none => false
  | none => false

/-- A valid origin is one some table entry of the application lists. -/
theorem validOrigin_iff {self : Cors} {appId : String} {origin : Option String} :
    self.validOrigin appId origin ↔
      ∃ o appOrigins, origin = some o ∧ self.allowedOrigins appId = some appOrigins ∧
        o ∈ appOrigins := by
  cases origin with
  | none => simp [validOrigin]
  | some o => cases h : self.allowedOrigins appId <;> simp [validOrigin, h]

variable (X : Crates)

def responseBuilderOrigin (self : Cors) (appId : String) (origin : Option String)
    (platform : Platform) : Except Panic Builder :=
  if self.validOrigin appId origin && platform == .web then do
    let origin ← unwrap origin
    let allowOrigin ← unwrap (X.http.fromStr origin)
    let allowMethods ← unwrap (X.http.fromStr self.allowedMethods)
    let allowHeaders ← unwrap (X.http.fromStr self.allowedHeaders)
    return (({} : Builder).header .accessControlAllowOrigin allowOrigin
      |>.header .accessControlAllowMethods allowMethods
      |>.header .accessControlAllowHeaders allowHeaders)
  else return {}

def responseBuilderWildcard (self : Cors) : Except Panic Builder := do
  let allowMethods ← unwrap (X.http.fromStr self.allowedMethods)
  let allowHeaders ← unwrap (X.http.fromStr self.allowedHeaders)
  return (({} : Builder).header .accessControlAllowOrigin (.fromStatic "*" (by decide))
    |>.header .accessControlAllowMethods allowMethods
    |>.header .accessControlAllowHeaders allowHeaders)

end Cors

end XorcGateway
