/-
# The HTTP service

The routes of the gateway: the SDK endpoint with its preflight, the Prometheus
scrape, and everything else. A scrape is the one call a request makes that is not
among `Calls`: it collects what the process has counted so far.
-/

import XorcGateway.Effects.Extend
import XorcGateway.Gateway

namespace XorcGateway

open Effects Events Rust

/-- The counters `prometheus::gather` collects, with their values. -/
abbrev MetricFamilies := Counter → ℕ

inductive MetricsCall
  | /-- `prometheus::gather()` -/
    gather
  deriving DecidableEq

@[reducible]
def MetricsCalls : Signature.{0} where
  Call := MetricsCall
  Answer _ := MetricFamilies

/-- The calls of a request of any route. -/
abbrev ServiceCalls : Signature.{0} := Calls.sum MetricsCalls

/-- `prometheus::TextEncoder`. -/
structure TextEncoder where
  encode : MetricFamilies → Option String
  formatType : HeaderValue

/-- `http::Method`, as far as the routes tell methods apart. -/
inductive Method
  | options
  | post
  | get
  | other (name : String)
  deriving DecidableEq

/-- A request as it comes from the server: its line, and what `Incoming` has. -/
structure HttpRequest where
  method : Method
  path : String
  incoming : Gateway.Incoming

/-- ROUTES -/
inductive Route
  | /-- OPTIONS to /xray/events/xorc/sdk/v1 :: for CORS/web-push -/
    sdkOptions
  | /-- POST to /xray/events/xorc/sdk/v1 :: SDK Events, sent to kafka/rmq -/
    sdkEvents
  | /-- GET to /metrics :: Prometheus metrics -/
    metrics
  | notFound
  deriving DecidableEq

def HttpRequest.route (req : HttpRequest) : Route :=
  match req.method, req.path with
  | .options, "/xray/events/xorc/sdk/v1" => .sdkOptions
  | .post, "/xray/events/xorc/sdk/v1" => .sdkEvents
  | .get, "/metrics" => .metrics
  | _, _ => .notFound

namespace Gateway

variable (X : Crates) (g : Globals) (encoder : TextEncoder)

/-- OPTIONS requests -/
def handleOptions : Except Panic Response := do
  let builder ←
    match g.cors with
    | some cors => cors.responseBuilderWildcard X
    | none => pure {}
  return builder.build 200 (.text "")

/-- Prometheus endpoint -/
def handleMetrics (metricFamilies : MetricFamilies) : Except Panic Response := do
  let buffer ← unwrap (encoder.encode metricFamilies)
  return (({} : Builder).header .contentType encoder.formatType).build 200 (.text buffer)

/-- The answer to a request of no route. -/
def notFound : Response := ({} : Builder).build 404 (.text "")

/-- A preflight is counted before its answer is built. -/
def optionsRequest : Request Response := do
  perform (.inc (.requests "200" "options") 1)
  liftPanic (handleOptions X g)

def notFoundRequest : Request Response := do
  perform (.inc (.requests "404" "not_found") 1)
  return notFound

def metricsRequest : Program ServiceCalls Response := do
  let metricFamilies ← Program.perform (S := ServiceCalls) (.inr .gather)
  match handleMetrics encoder metricFamilies with
  | .ok response => return response
  | .error _ => .panic

def service (req : HttpRequest) : Program ServiceCalls Response :=
  match req.route with
  | .sdkOptions => (optionsRequest X g).left
  | .sdkEvents => (handleSdk X g req.incoming).left
  | .metrics => metricsRequest encoder
  | .notFound => notFoundRequest.left

theorem service_of_sdkEvents {req : HttpRequest} (h : req.route = .sdkEvents) :
    service X g encoder req = (handleSdk X g req.incoming).left := by
  rw [service, h]

end Gateway

end XorcGateway
