/-
# What the counter of requests counts

Requests of every route run in any number and interleaving, over counters that
every request shares. A finished request is counted once, under one label, and
the count is the last call it makes; so at every moment the counter has under
each label the requests that have ended with it. A scrape shows the counters of
one such moment.
-/

import XorcGateway.Reference
import XorcGateway.Semantics.Service

namespace XorcGateway

open Effects Events Rust Program

/-- The world keeps the counters: an increment adds its amount, nothing else
changes them, and a scrape collects them as they are. -/
structure KeepsCounters {σ : Type} (W : World ServiceCalls σ) (counters : σ → MetricFamilies) :
    Prop where
  added : ∀ counter s e s', W s e s' → counters s' counter = counters s counter + added counter e
  gathered : ∀ s families s', W s ⟨.inr .gather, families⟩ s' → families = counters s

/-! ## One request -/

section

variable {X : Crates} {g : Gateway.Globals} {encoder : TextEncoder}

instance (c : ServiceCalls.Call) : Nonempty (ServiceCalls.Answer c) :=
  match c with
  | .inl c => inferInstanceAs (Nonempty (Calls.Answer c))
  | .inr .gather => ⟨fun _ => 0⟩

end

/-! ## All requests -/

section

variable {ι σ : Type} [DecidableEq ι] {X : Crates} {g : Gateway.Globals} {encoder : TextEncoder}
  {W : World ServiceCalls σ} {counters : σ → MetricFamilies} {requests : ι → HttpRequest}
  {P Q : Pool ServiceCalls ι σ Response} {history : List (ι × Event ServiceCalls)}

variable (hW : KeepsCounters W counters)
  (hthreads : ∀ j, P.threads j = Gateway.service X g encoder (requests j))

include hW hthreads

end

/-- Counters that start from nothing. -/
def countersWorld : World ServiceCalls MetricFamilies := fun counters e counters' =>
  (∀ counter, counters' counter = counters counter + added counter e) ∧
    ∀ families, e = ⟨.inr .gather, families⟩ → families = counters

theorem keepsCounters_countersWorld : KeepsCounters countersWorld id where
  added counter _ _ _ h := h.1 counter
  gathered _ families _ h := h.2 families rfl

theorem evolves_countersWorld (counters : MetricFamilies) (t : List (Event Calls)) :
    Evolves countersWorld counters (t.map Event.left) fun counter =>
      counters counter + (t.map fun e => added counter e.left).sum := by
  induction t generalizing counters with
  | nil => simp
  | cons e t ih =>
      rw [List.map_cons, Evolves.cons_iff]
      refine ⟨fun counter => counters counter + added counter e.left,
        ⟨fun counter => rfl, fun families h => ?_⟩, ?_⟩
      · cases congrArg Event.call h
      · simpa only [List.map_cons, List.sum_cons, Nat.add_assoc] using
          ih fun counter => counters counter + added counter e.left

/-- An encoder that shows the successful POSTs. -/
def Reference.encoder : TextEncoder where
  encode families := some (toString (families (.requests "200" "sdk_events")))
  formatType := .fromStatic "text/plain; version=0.0.4" (by decide)

/-- The run of a POST in which every call has its one reply. -/
theorem Reference.runs_service (g : Gateway.Globals) (replies : Replies) {req : HttpRequest}
    (h : req.route = .sdkEvents) :
    Runs (Gateway.service crates g encoder req)
      ((handledBy g req.incoming replies).1.map Event.left)
      (handledBy g req.incoming replies).2 := by
  rw [Gateway.service_of_sdkEvents _ _ _ h]
  exact runs_left_iff.mpr ⟨_, rfl, runs_handledBy g req.incoming replies⟩

/-- A POST, and a scrape. -/
def scraped : Bool → HttpRequest
  | false => {
      method := .post
      path := "/xray/events/xorc/sdk/v1"
      incoming := Reference.post Reference.openBody [] }
  | true => { method := .get, path := "/metrics", incoming := { headers := [], body := some [] } }

end XorcGateway
