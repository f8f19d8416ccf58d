/-
# What the service does with a request

The complete runs of a request of any route: the one label it is counted under,
which is the last call it makes, and the ways its answer can fail to be built.
-/

import XorcGateway.Semantics.Responses
import XorcGateway.Service

namespace XorcGateway

open Effects Events Rust Program

/-- The calls that count a request. -/
def IsRequestCount : Call → Prop
  | .inc (.requests _ _) _ => True
  | _ => False

/-- The label a finished request is counted under. A panicking POST is not
counted, and neither is a scrape. -/
def HttpRequest.countedAs (req : HttpRequest) (r : Outcome Response) : Option (String × String) :=
  match req.route, r with
  | .sdkOptions, _ => some ("200", "options")
  | .sdkEvents, .returned response => some (toString response.status, "sdk_events")
  | .sdkEvents, .panicked => none
  | .metrics, _ => none
  | .notFound, _ => some ("404", "not_found")

namespace Gateway

variable {X : Crates} {g : Globals}

/-! ## Counting -/

end Gateway

/-- What a call adds to a counter. -/
def added (counter : Counter) : Event ServiceCalls → ℕ
  | ⟨.inl (.inc c amount), _⟩ => if c = counter then amount else 0
  | _ => 0

namespace Gateway

variable {X : Crates} {g : Globals} {encoder : TextEncoder} {req : HttpRequest}
  {t : List (Event ServiceCalls)} {r : Outcome Response}

/-- The runs of a scrape. -/
theorem runs_metricsRequest (h : Runs (metricsRequest encoder) t r) :
    ∃ families, t = [⟨.inr .gather, families⟩] ∧
      ((∃ response, handleMetrics encoder families = .ok response ∧ r = .returned response) ∨
        encoder.encode families = none ∧ r = .panicked) := by
  simp only [metricsRequest, Program.perform, bind_eq_bind, call_bind, done_bind,
    runs_call_iff] at h
  obtain ⟨families, rest, rfl, h⟩ := h
  refine ⟨families, ?_⟩
  cases hencode : encoder.encode families with
  | none =>
      have hpanics : handleMetrics encoder families = .error .unwrap := by
        rw [handleMetrics, hencode]
        rfl
      rw [hpanics] at h
      obtain ⟨rfl, rfl⟩ := runs_panic_iff.mp h
      exact ⟨rfl, Or.inr ⟨rfl, rfl⟩⟩
  | some buffer =>
      have hanswer : ∃ response, handleMetrics encoder families = .ok response := by
        rw [handleMetrics, hencode]
        exact ⟨_, rfl⟩
      obtain ⟨response, hresponse⟩ := hanswer
      rw [hresponse] at h
      obtain ⟨rfl, rfl⟩ := runs_done_iff.mp h
      exact ⟨rfl, Or.inl ⟨response, hresponse, rfl⟩⟩

/-- The routes other than the SDK endpoint's at most count the request. -/
theorem confined_service (h : req.route ≠ .sdkEvents) :
    Confined (S := ServiceCalls) (Sum.elim IsRequestCount fun _ => True)
      (service X g encoder req) := by
  rw [service]
  cases hroute : req.route with
  | sdkEvents => exact absurd hroute h
  | sdkOptions => exact (Confined.bind (.perform (by trivial)) fun _ => confined_liftPanic _).left _
  | notFound => exact (Confined.bind (.perform (by trivial)) fun _ => .done _).left _
  | metrics =>
      refine Confined.bind (.perform (by trivial)) fun families => ?_
      cases handleMetrics encoder families with
      | ok response => exact .done response
      | error panic => exact .panic

theorem handleOptions_body {response : Response} (h : handleOptions X g = .ok response) :
    response.body = .text "" := by
  rw [handleOptions] at h
  cases hcors : g.cors with
  | none =>
      rw [hcors] at h
      cases h
      rfl
  | some cors =>
      rw [hcors] at h
      obtain ⟨builder, _, hbuild⟩ := bind_eq_ok_iff.mp h
      cases hbuild
      rfl

theorem handleMetrics_body {families : MetricFamilies} {response : Response}
    (h : handleMetrics encoder families = .ok response) : ∃ text, response.body = .text text := by
  rw [handleMetrics] at h
  obtain ⟨buffer, _, hbuild⟩ := bind_eq_ok_iff.mp h
  cases hbuild
  exact ⟨buffer, rfl⟩

/-- They hand nothing out. -/
theorem registrationData_of_service {response : Response} (h : req.route ≠ .sdkEvents)
    (hruns : Runs (service X g encoder req) t (.returned response)) :
    response.registrationData = [] := by
  suffices ∃ text, response.body = .text text by
    obtain ⟨text, hbody⟩ := this
    rw [Response.registrationData, hbody]
  rw [service] at hruns
  cases hroute : req.route with
  | sdkEvents => exact absurd hroute h
  | sdkOptions =>
      simp only [hroute, runs_left_iff] at hruns
      obtain ⟨_, _, hruns⟩ := hruns
      simp only [optionsRequest, perform, Program.perform, bind_eq_bind, call_bind, done_bind,
        runs_call_iff] at hruns
      obtain ⟨_, _, _, hruns⟩ := hruns
      cases hoptions : handleOptions X g with
      | error panic => simp [hoptions] at hruns
      | ok built =>
          simp only [hoptions, liftPanic_ok, runs_done_iff] at hruns
          obtain rfl := Outcome.returned.inj hruns.2
          exact ⟨_, handleOptions_body hoptions⟩
  | metrics =>
      simp only [hroute] at hruns
      obtain ⟨_, _, ⟨built, hbuilt, hr⟩ | ⟨_, hr⟩⟩ := runs_metricsRequest hruns
      · obtain rfl := Outcome.returned.inj hr
        exact handleMetrics_body hbuilt
      · cases hr
  | notFound =>
      simp only [hroute, runs_left_iff] at hruns
      obtain ⟨_, _, hruns⟩ := hruns
      simp only [notFoundRequest, perform, Program.perform, bind_eq_bind, call_bind, done_bind,
        pure_eq_done, runs_call_iff, runs_done_iff] at hruns
      obtain ⟨_, _, _, _, hr⟩ := hruns
      obtain rfl := Outcome.returned.inj hr
      exact ⟨_, rfl⟩

end Gateway

end XorcGateway
