/-
# What an acknowledgement is worth

Requests run in any number and interleaving against any world of answers. The
future of a send has two results inside each other, and only the outer one is
looked at. So a request is honest about its record, in every state it passes
through, unless the producer reports the record as failed inside a future that
did not fail.
-/

import XorcGateway.Reference
import XorcGateway.Semantics.Pipeline

namespace XorcGateway

open Effects Events Rust Program

variable {ι σ : Type}

/-- The producer reported the thread's record as delivered. -/
def WasDelivered (history : List (ι × Event Calls)) (j : ι) : Prop :=
  ∃ record position,
    (j, (⟨Call.send record, .ok (.ok position)⟩ : Event Calls)) ∈ history

/-- The producer reported the thread's record as not queued or not delivered. -/
def WasRejected (history : List (ι × Event Calls)) (j : ι) : Prop :=
  ∃ record e, (j, (⟨Call.send record, .ok (.error e)⟩ : Event Calls)) ∈ history

/-- The thread's record was reported as anything but delivered: rejected, or
canceled with its future. -/
def WasFailed (history : List (ι × Event Calls)) (j : ι) : Prop :=
  ∃ record answer, (j, (⟨Call.send record, answer⟩ : Event Calls)) ∈ history ∧
    ∀ position, answer ≠ .ok (.ok position)

/-- A success is answered, logged or counted only for a delivered record, and a
record reported as failed, in either way, is answered 503 without registration
data. -/
structure IsHonest (history : List (ι × Event Calls)) (Q : Pool Calls ι σ Response) (j : ι) :
    Prop where
  answered : ∀ response, Q.threads j = .done response → response.status = 200 →
    WasDelivered history j
  logged : ∀ n, (j, (⟨Call.log (.sentDownstream n), ()⟩ : Event Calls)) ∈ history →
    WasDelivered history j
  counted : ∀ n, (j, (⟨Call.inc .events n, ()⟩ : Event Calls)) ∈ history →
    WasDelivered history j
  failed : WasFailed history j → ∀ response, Q.threads j = .done response →
    response.status = 503 ∧ response.registrationData = []

variable {X : Crates} {g : Gateway.Globals} {W : World Calls σ}
  {incoming : ι → Gateway.Incoming} {P Q : Pool Calls ι σ Response}
  {history : List (ι × Event Calls)}

/-- A run up to a report of success has the answer of its send behind it. -/
theorem exists_delivery_of_report {request : Gateway.Incoming} {t : List (Event Calls)}
    {p : Request Response} (h : Steps (Gateway.handleSdk X g request) t p) {e : Event Calls}
    (he : e ∈ t) (hpublishing : Gateway.IsPublishing e.call)
    (hreport : ∀ record, e.call ≠ .send record) :
    ∃ record delivery, (⟨Call.send record, .ok delivery⟩ : Event Calls) ∈ t := by
  obtain ⟨rest, r, _, hruns⟩ := h.exists_runs
  rcases Gateway.runs_handleSdk_publication X g hruns with ⟨hquiet, _⟩ |
    ⟨publication, second, ⟨delivery, htrace, _⟩ | ⟨canceled, htrace, hrespond⟩⟩
  · exact absurd hpublishing (hquiet e (List.mem_append_left rest he))
  · refine ⟨publication.record, delivery, ?_⟩
    -- the report is behind the send, so a prefix that has it has the send
    have hprefix : t <+: publication.before ++ ⟨Call.send publication.record, .ok delivery⟩ ::
        (publication.reports ++ second) := by
      rw [← htrace]
      exact List.prefix_append t rest
    rcases prefix_before_or_past hprefix with hbefore | ⟨past, rfl, _⟩
    · exact absurd hpublishing (publication.before_quiet e (hbefore.subset he))
    · simp
  · exfalso
    have hmem : e ∈ t ++ rest := List.mem_append_left rest he
    rw [htrace] at hmem
    simp only [List.mem_append, List.mem_cons] at hmem
    rcases hmem with hbefore | rfl | hsecond
    · exact publication.before_quiet e hbefore hpublishing
    · exact hreport _ rfl
    · exact Gateway.respond_quiet X g hrespond e hsecond hpublishing

/-- A rejected record is a failed one. -/
theorem WasRejected.wasFailed {j : ι} (h : WasRejected history j) : WasFailed history j := by
  obtain ⟨record, e, hmem⟩ := h
  exact ⟨record, _, hmem, fun _ heq => by cases Except.ok.inj heq⟩

section

variable [DecidableEq ι] (hthreads : ∀ j, P.threads j = Gateway.handleSdk X g (incoming j))
  (hrun : Pool.Run W P history Q)

include hthreads hrun

/-- A finished request as a run of its own. -/
theorem runs_of_done {j : ι} {response : Response} (hdone : Q.threads j = .done response) :
    Runs (Gateway.handleSdk X g (incoming j)) (Pool.own j history) (.returned response) := by
  have hruns := hrun.runs (r := .returned response) hdone
  rwa [hthreads] at hruns

/-- In every state reached, a request whose record the producer has not rejected
is honest. -/
theorem isHonest_of_not_wasRejected {j : ι} (hnot : ¬ WasRejected history j) :
    IsHonest history Q j := by
  have hsteps := hrun.steps j
  rw [hthreads] at hsteps
  have hdelivered : ∀ {record delivery},
      (⟨Call.send record, .ok delivery⟩ : Event Calls) ∈ Pool.own j history →
      WasDelivered history j := by
    intro record delivery hmem
    cases delivery with
    | ok position => exact ⟨record, position, Pool.mem_own_iff.mp hmem⟩
    | error e => exact absurd ⟨record, e, Pool.mem_own_iff.mp hmem⟩ hnot
  refine ⟨fun response hdone hok => ?_, fun n hmem => ?_, fun n hmem => ?_,
    fun hfailed response hdone => ?_⟩
  · obtain ⟨publication, delivery, second, htrace, _⟩ :=
      Gateway.exists_publication_of_ok X g (runs_of_done hthreads hrun hdone) hok
    have hsend : (⟨Call.send publication.record, .ok delivery⟩ : Event Calls) ∈
        Pool.own j history := by
      rw [htrace]
      exact List.mem_append_right _ List.mem_cons_self
    exact hdelivered hsend
  · obtain ⟨record, delivery, hsend⟩ := exists_delivery_of_report hsteps
      (Pool.mem_own_iff.mpr hmem) (by trivial) (by simp)
    exact hdelivered hsend
  · obtain ⟨record, delivery, hsend⟩ := exists_delivery_of_report hsteps
      (Pool.mem_own_iff.mpr hmem) (by trivial) (by simp)
    exact hdelivered hsend
  · obtain ⟨record, answer, hmem, hnone⟩ := hfailed
    -- the record was not rejected, so what failed is the future itself
    obtain ⟨_, _, second, ⟨⟨delivery, rfl⟩, _⟩ | ⟨_, hrespond⟩⟩ :=
      Gateway.exists_publication_of_send X g (runs_of_done hthreads hrun hdone)
        (Pool.mem_own_iff.mpr hmem)
    · cases delivery with
      | ok position => exact absurd rfl (hnone position)
      | error e => exact absurd ⟨record, e, hmem⟩ hnot
    · obtain ⟨builder, _, rfl⟩ := Gateway.exists_builder_of_runs_respond X g hrespond
      exact ⟨rfl, rfl⟩

/-- A request that is answered although its record was rejected is answered 200,
which is not honest. -/
theorem not_isHonest_of_wasRejected {j : ι} {response : Response}
    (hrejected : WasRejected history j) (hdone : Q.threads j = .done response) :
    response.status = 200 ∧ ¬ IsHonest history Q j := by
  have hok : response.status = 200 := by
    obtain ⟨record, e, hmem⟩ := hrejected
    obtain ⟨_, _, second, ⟨_, hrespond⟩ | ⟨⟨canceled, hcanceled⟩, _⟩⟩ :=
      Gateway.exists_publication_of_send X g (runs_of_done hthreads hrun hdone)
        (Pool.mem_own_iff.mpr hmem)
    · obtain ⟨builder, _, rfl⟩ := Gateway.exists_builder_of_runs_respond X g hrespond
      rfl
    · cases hcanceled
  refine ⟨hok, fun hhonest => ?_⟩
  have hstatus := (hhonest.failed hrejected.wasFailed response hdone).1
  rw [hok] at hstatus
  cases hstatus

/-- Any number of requests, in any interleaving and with any answers: each is
honest in every state reached as long as the producer has not rejected its
record, and once it is answered it is honest only then. -/
theorem isHonest_iff_not_wasRejected (j : ι) :
    (¬ WasRejected history j → IsHonest history Q j) ∧
      ∀ response, Q.threads j = .done response →
        (IsHonest history Q j ↔ ¬ WasRejected history j) :=
  ⟨isHonest_of_not_wasRejected hthreads hrun, fun _ hdone =>
    ⟨fun hhonest hrejected => (not_isHonest_of_wasRejected hthreads hrun hrejected hdone).2 hhonest,
      isHonest_of_not_wasRejected hthreads hrun⟩⟩

end

/-- One request, alone and played through with fixed replies. -/
theorem exists_single_run {incoming : Gateway.Incoming} {replies : Replies} {response : Response}
    (h : (Reference.handled incoming replies).2 = .returned response) :
    ∃ Q, Pool.Run (fun _ _ _ => True)
        ⟨(), fun _ : Unit => Gateway.handleSdk Reference.crates Reference.globals incoming⟩
        ((Reference.handled incoming replies).1.map (Prod.mk ())) Q ∧
      Q.threads () = .done response := by
  have hrun := Reference.runs_handled incoming replies
  rw [h] at hrun
  exact ⟨_, Pool.run_thread hrun rfl (Evolves.of_loop fun _ _ => trivial), rfl⟩

/-- The reply its send gets is the one the request was played through with. -/
theorem answer_of_mem_single_run {incoming : Gateway.Incoming} {replies : Replies}
    {record : FutureRecord} {answer : SendResult}
    (h : ((), (⟨Call.send record, answer⟩ : Event Calls)) ∈
      (Reference.handled incoming replies).1.map (Prod.mk ())) : answer = replies.send := by
  obtain ⟨e, he, heq⟩ := List.mem_map.mp h
  obtain rfl : e = ⟨Call.send record, answer⟩ := (Prod.ext_iff.mp heq).2
  exact answer_eq_of_mem_exec he

/-- A delivered record is acknowledged, and honestly. -/
theorem delivered_record_acknowledged : ∃ history Q response,
    Pool.Run (fun _ _ _ => True) ⟨(), fun _ : Unit => Gateway.handleSdk Reference.crates
      Reference.globals (Reference.post Reference.openBody [])⟩ history Q ∧
    Q.threads () = .done response ∧ response.status = 200 ∧ IsHonest history Q () := by
  obtain ⟨response, hresponse, hok⟩ := Reference.open_answered
  obtain ⟨Q, hrun, hdone⟩ := exists_single_run hresponse
  refine ⟨_, Q, response, hrun, hdone, hok,
    (isHonest_iff_not_wasRejected (fun _ => rfl) hrun ()).1 fun hrejected => ?_⟩
  obtain ⟨record, e, hmem⟩ := hrejected
  cases answer_of_mem_single_run hmem

/-- A rejected record is acknowledged all the same. -/
theorem rejected_record_acknowledged : ∃ history Q response,
    Pool.Run (fun _ _ _ => True) ⟨(), fun _ : Unit => Gateway.handleSdk Reference.crates
      Reference.globals (Reference.post Reference.openBody [])⟩ history Q ∧
    WasRejected history () ∧ Q.threads () = .done response ∧ response.status = 200 ∧
    ¬ IsHonest history Q () := by
  let replies : Replies := { Reference.working with send := .ok (.error {}) }
  have hanswered : (Reference.handled (Reference.post Reference.openBody [])
      replies).2.any (fun _ => true) = true := by decide +kernel
  obtain ⟨response, hresponse, _⟩ := Outcome.any_eq_true.mp hanswered
  obtain ⟨Q, hrun, hdone⟩ := exists_single_run hresponse
  have hsent : Gateway.sentRecords
      (Reference.handled (Reference.post Reference.openBody []) replies).1 ≠ [] := by
    decide +kernel
  obtain ⟨record, hrecord⟩ := List.exists_mem_of_ne_nil _ hsent
  obtain ⟨answer, hsend⟩ := Gateway.mem_sentRecords.mp hrecord
  obtain rfl : answer = .ok (.error {}) := answer_eq_of_mem_exec hsend
  have hrejected : WasRejected ((Reference.handled (Reference.post Reference.openBody [])
      replies).1.map (Prod.mk ())) () := ⟨record, {}, List.mem_map.mpr ⟨_, hsend, rfl⟩⟩
  obtain ⟨hok, hdishonest⟩ := not_isHonest_of_wasRejected (fun _ => rfl) hrun hrejected hdone
  exact ⟨_, Q, response, hrun, hrejected, hdone, hok, hdishonest⟩

end XorcGateway
