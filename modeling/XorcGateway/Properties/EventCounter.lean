/-
# What the counter of sent events counts

The counter is advanced when the future of a send did not fail, by the number of
results; the payload has the events of the batch. A record that is rejected is
counted all the same, and a batch with a register event has one result for all
its events. Everything else is counted once and for what it is, by any number of
requests in any interleaving.
-/

import XorcGateway.Properties.Delivery
import XorcGateway.Properties.Results
import XorcGateway.Properties.TimeOrder

namespace XorcGateway

open Effects Events Rust Program

variable {ι σ : Type}

/-- What a call adds to the counter of sent events. -/
def increment (e : Event Calls) : ℕ :=
  match e.call with
  | .inc .events amount => amount
  | _ => 0

/-- The events in the payload a call delivered. -/
def deliveredBy : Event Calls → ℕ
  | ⟨.send record, .ok (.ok _)⟩ => record.payload.event.length
  | _ => 0

/-- The counter of sent events after these calls. -/
def eventsCounter (t : List (Event Calls)) : ℕ := (t.map increment).sum

/-- The events in all payloads these calls delivered. -/
def eventsDelivered (t : List (Event Calls)) : ℕ := (t.map deliveredBy).sum

@[simp]
theorem eventsCounter_cons (e : Event Calls) (t : List (Event Calls)) :
    eventsCounter (e :: t) = increment e + eventsCounter t := by
  simp [eventsCounter]

@[simp]
theorem eventsCounter_append (first second : List (Event Calls)) :
    eventsCounter (first ++ second) = eventsCounter first + eventsCounter second := by
  simp [eventsCounter]

@[simp]
theorem eventsDelivered_cons (e : Event Calls) (t : List (Event Calls)) :
    eventsDelivered (e :: t) = deliveredBy e + eventsDelivered t := by
  simp [eventsDelivered]

@[simp]
theorem eventsDelivered_append (first second : List (Event Calls)) :
    eventsDelivered (first ++ second) = eventsDelivered first + eventsDelivered second := by
  simp [eventsDelivered]

theorem eventsCounter_eq_zero {t : List (Event Calls)}
    (h : ∀ amount, (⟨Call.inc .events amount, ()⟩ : Event Calls) ∉ t) : eventsCounter t = 0 := by
  apply List.sum_eq_zero_iff_forall_eq_nat.mpr
  rw [List.forall_mem_map]
  intro e he
  obtain ⟨call, answer⟩ := e
  cases call with
  | inc counter amount =>
      cases counter with
      | events => exact absurd he (h amount)
      | _ => rfl
  | _ => rfl

theorem eventsDelivered_eq_zero {t : List (Event Calls)}
    (h : ∀ record position, (⟨Call.send record, .ok (.ok position)⟩ : Event Calls) ∉ t) :
    eventsDelivered t = 0 := by
  apply List.sum_eq_zero_iff_forall_eq_nat.mpr
  rw [List.forall_mem_map]
  intro e he
  obtain ⟨call, answer⟩ := e
  cases call with
  | send record =>
      rcases answer with _ | _ | position
      · rfl
      · rfl
      · exact absurd he (h record position)
  | _ => rfl

/-- Calls that do not publish count for nothing. -/
theorem counts_nothing {t : List (Event Calls)} (h : ∀ e ∈ t, ¬ Gateway.IsPublishing e.call) :
    eventsCounter t = 0 ∧ eventsDelivered t = 0 := by
  constructor
  · apply eventsCounter_eq_zero
    intro amount hmem
    exact h _ hmem (by trivial)
  · apply eventsDelivered_eq_zero
    intro record position hmem
    exact h _ hmem (by trivial)

/-! ## One request -/

variable {X : Crates} {g : Gateway.Globals}

namespace Gateway

/-- A batch has a result for each of its events: it has no register event, or
nothing else. -/
def HasResultForEach (event : SDKEventBatch) : Prop :=
  (∀ e ∈ event.events, e.isRegister = false) ∨ event.events.length = 1

theorem Prepares.length_results_eq_iff {context context' : Context} {event : SDKEventBatch}
    {t : List (Event Calls)} {results : List EventResult}
    (h : Prepares X g context event t results context') :
    results.length = event.events.length ↔ HasResultForEach event := by
  rw [HasResultForEach, ← findRegisterEvent_eq_none_iff]
  cases h with
  | plain hnone => simp [hnone]
  | registration hregister _ => simp [hregister, registrationResults, eq_comm]

theorem Prepares.results_ne_nil {context context' : Context} {event : SDKEventBatch}
    {t : List (Event Calls)} {results : List EventResult}
    (h : Prepares X g context event t results context') (hevents : event.events ≠ []) :
    results ≠ [] := by
  cases h with
  | plain _ => simpa using hevents
  | registration _ _ => simp [registrationResults]

/-- There is always a result: a batch without events is not accepted. -/
theorem Publication.results_ne_nil {request : Incoming} (publication : Publication X g request) :
    publication.results ≠ [] := by
  obtain ⟨_, _, _, hevents, _⟩ := AppRegistry.validate_eq_ok_iff.mp publication.accepts.valid
  exact publication.prepares.results_ne_nil hevents

/-- There are as many results as events in the payload exactly if every event of
the batch has one. -/
theorem Publication.length_results_eq_iff (hsort : X.DocumentedSort) {request : Incoming}
    (publication : Publication X g request) :
    publication.results.length = publication.record.payload.event.length ↔
      HasResultForEach publication.event := by
  have hpayload : publication.record.payload.event =
      (X.sortUnstableBy SDKEventBatch.byTimestamp publication.event.events).map
        SDKEvent.toSdkEventData :=
    SDKEventBatch.intoProto_event publication.now publication.event publication.context'
  rw [hpayload, List.length_map, (hsort.perm _ _).length_eq]
  exact publication.prepares.length_results_eq_iff

/-- The batch is the one the body parses to. -/
theorem Publication.batch_eq {request : Incoming} (publication : Publication X g request) :
    request.body.bind X.fromSlice = some publication.event := by
  rw [publication.body_eq]
  exact publication.event_eq

/-- A canceled future is not counted. -/
theorem Publication.not_counted_of_canceled {request : Incoming}
    (publication : Publication X g request) {canceled : Canceled}
    {res : Except Failure (SDKResponse × Context)} {second : List (Event Calls)}
    {q : Request Response} (hrespond : Steps (respond X g res) second q) (amount : ℕ) :
    (⟨Call.inc .events amount, ()⟩ : Event Calls) ∉
      publication.before ++ ⟨Call.send publication.record, .error canceled⟩ :: second := by
  rw [List.mem_append, List.mem_cons]
  rintro (hbefore | hsend | hsecond)
  · exact publication.before_quiet _ hbefore (by trivial)
  · cases hsend
  · exact respond_quiet X g hrespond _ hsecond (by trivial)

/-- What the calls of a request come to: it has not counted, or it has counted
its results after its one record was delivered, or after it was rejected. -/
inductive Counts (X : Crates) (g : Globals) (request : Incoming) (t : List (Event Calls)) : Prop
  | silent (h : ∀ amount, (⟨Call.inc .events amount, ()⟩ : Event Calls) ∉ t) :
      Counts X g request t
  | delivered (publication : Publication X g request) {position : Int32 × Int64}
      (sent : (⟨Call.send publication.record, .ok (.ok position)⟩ : Event Calls) ∈ t)
      (not_rejected : ∀ record e,
        (⟨Call.send record, .ok (.error e)⟩ : Event Calls) ∉ t)
      (counter : eventsCounter t = publication.results.length)
      (payload : eventsDelivered t = publication.record.payload.event.length) :
      Counts X g request t
  | rejected (publication : Publication X g request) {e : KafkaError}
      (sent : (⟨Call.send publication.record, .ok (.error e)⟩ : Event Calls) ∈ t)
      (counter : eventsCounter t = publication.results.length)
      (payload : eventsDelivered t = 0) : Counts X g request t

theorem counts_of_steps {request : Incoming} {t : List (Event Calls)} {p : Request Response}
    (h : Steps (handleSdk X g request) t p) : Counts X g request t := by
  obtain ⟨rest, r, _, hruns⟩ := h.exists_runs
  rcases runs_handleSdk_publication X g hruns with ⟨hquiet, _⟩ |
    ⟨publication, second, ⟨delivery, htrace, hrespond⟩ | ⟨canceled, htrace, hrespond⟩⟩
  · refine .silent fun amount hmem => ?_
    exact hquiet _ (List.mem_append_left rest hmem) (by trivial)
  · have hunique : ∀ record answer, (⟨Call.send record, answer⟩ : Event Calls) ∈ t →
        answer = .ok delivery := by
      intro record answer hmem
      have hrun := List.mem_append_left rest hmem
      rw [htrace] at hrun
      exact (publication.send_unique
        (publication.reports_send_nothing (respond_sends_nothing X g hrespond)) hrun).2
    have hprefix : t <+: (publication.before ++ [⟨Call.send publication.record, .ok delivery⟩,
        ⟨Call.log (.sentDownstream publication.event.events.length), ()⟩]) ++
          ⟨Call.inc .events publication.results.length, ()⟩ :: second := by
      rw [List.append_assoc]
      exact ⟨rest, htrace⟩
    rcases prefix_before_or_past hprefix with hbefore | ⟨past, ht, hpast⟩
    · refine .silent fun amount hmem => ?_
      have hearlier := hbefore.subset hmem
      simp only [List.mem_append, List.mem_cons, List.not_mem_nil, or_false] at hearlier
      rcases hearlier with hearlier | hearlier | hearlier
      · exact publication.before_quiet _ hearlier (by trivial)
      · cases hearlier
      · cases hearlier
    · have hsent : (⟨Call.send publication.record, .ok delivery⟩ : Event Calls) ∈ t := by
        simp [ht]
      have hbefore := counts_nothing publication.before_quiet
      have hpast := counts_nothing fun e he => respond_quiet X g hrespond e (hpast.subset he)
      have hcounter : eventsCounter t = publication.results.length := by
        simp [ht, hbefore, hpast, increment]
      have hpayload : eventsDelivered t =
          deliveredBy ⟨Call.send publication.record, .ok delivery⟩ := by
        simp [ht, hbefore, hpast, deliveredBy]
      cases delivery with
      | ok position =>
          refine .delivered publication hsent ?_ hcounter hpayload
          intro record e hmem
          cases hunique record _ hmem
      | error e => exact .rejected publication hsent hcounter hpayload
  · refine .silent fun amount hmem => ?_
    have hrun := List.mem_append_left rest hmem
    rw [htrace] at hrun
    exact publication.not_counted_of_canceled hrespond amount hrun

end Gateway

/-! ## All requests -/

/-- A request the counter counts for what it is: its record is not rejected, and
if it is delivered, there is a result for each event of the batch. -/
structure IsCountable (X : Crates) (incoming : ι → Gateway.Incoming)
    (history : List (ι × Event Calls)) (j : ι) : Prop where
  not_rejected : ¬ WasRejected history j
  result_for_each : WasDelivered history j → ∀ event,
    (incoming j).body.bind X.fromSlice = some event → Gateway.HasResultForEach event

/-- The request has advanced the counter. -/
def WasCounted (history : List (ι × Event Calls)) (j : ι) : Prop :=
  ∃ amount, (j, (⟨Call.inc .events amount, ()⟩ : Event Calls)) ∈ history

/-- The request is not between its delivery and its count. -/
def IsSettled (history : List (ι × Event Calls)) (j : ι) : Prop :=
  WasDelivered history j → WasCounted history j

/-- The counter is the number of events in delivered payloads, as far as these
have been counted, and only requests with a delivered record have advanced it. -/
structure CountsDelivered (history : List (ι × Event Calls)) : Prop where
  never_ahead : eventsCounter (history.map Prod.snd) ≤ eventsDelivered (history.map Prod.snd)
  settled : (∀ j, IsSettled history j) →
    eventsCounter (history.map Prod.snd) = eventsDelivered (history.map Prod.snd)
  failed : ∀ j, ¬ WasDelivered history j → ¬ WasCounted history j

section

variable [DecidableEq ι] {W : World Calls σ} {incoming : ι → Gateway.Incoming}
  {P Q : Pool Calls ι σ Response} {history : List (ι × Event Calls)}

theorem own_eq_zero_of_not_wasCounted {j : ι} (h : ¬ WasCounted history j) :
    eventsCounter (Pool.own j history) = 0 :=
  eventsCounter_eq_zero fun amount hmem => h ⟨amount, Pool.mem_own_iff.mp hmem⟩

theorem own_eq_zero_of_not_wasDelivered {j : ι} (h : ¬ WasDelivered history j) :
    eventsDelivered (Pool.own j history) = 0 :=
  eventsDelivered_eq_zero fun record position hmem =>
    h ⟨record, position, Pool.mem_own_iff.mp hmem⟩

section

variable (hsort : X.DocumentedSort)
  (hthreads : ∀ j, P.threads j = Gateway.handleSdk X g (incoming j))
  (hrun : Pool.Run W P history Q)

include hthreads hrun

theorem counts_of_run (j : ι) : Gateway.Counts X g (incoming j) (Pool.own j history) := by
  have hsteps := hrun.steps j
  rw [hthreads] at hsteps
  exact Gateway.counts_of_steps hsteps

/-- A finished request has counted if the future of its send did not fail. -/
theorem wasCounted_of_finished {j : ι} {r : Outcome Response}
    (hfinished : Q.threads j = .ofOutcome r) {record : FutureRecord}
    {delivery : Except KafkaError (Int32 × Int64)}
    (hmem : (j, (⟨Call.send record, .ok delivery⟩ : Event Calls)) ∈ history) :
    WasCounted history j := by
  have hruns := hrun.runs hfinished
  rw [hthreads] at hruns
  have hown := Pool.mem_own_iff.mpr hmem
  rcases Gateway.runs_handleSdk_publication X g hruns with ⟨hquiet, _⟩ |
    ⟨publication, second, ⟨_, htrace, _⟩ | ⟨canceled, htrace, hrespond⟩⟩
  · exact absurd (by trivial) (hquiet _ hown)
  · refine ⟨publication.results.length, Pool.mem_own_iff.mp ?_⟩
    rw [htrace]
    simp [Gateway.Publication.reports, Gateway.deliveryReport]
  · rw [htrace] at hown
    cases (publication.send_unique (Gateway.respond_sends_nothing X g hrespond) hown).2

/-- A finished request is not between anything. -/
theorem isSettled_of_finished {j : ι} {r : Outcome Response}
    (hfinished : Q.threads j = .ofOutcome r) : IsSettled history j := by
  rintro ⟨_, _, hmem⟩
  exact wasCounted_of_finished hthreads hrun hfinished hmem

/-- A request answered with an error has not counted. -/
theorem not_wasCounted_of_refused {j : ι} {response : Response}
    (hdone : Q.threads j = .done response) (hrefused : response.status ≠ 200) :
    ¬ WasCounted history j := by
  intro hcounted
  obtain ⟨amount, hmem⟩ := hcounted
  have hruns := runs_of_done hthreads hrun hdone
  have hown := Pool.mem_own_iff.mpr hmem
  rcases Gateway.runs_handleSdk_publication X g hruns with ⟨hquiet, _⟩ |
    ⟨publication, second, ⟨delivery, _, hrespond⟩ | ⟨canceled, htrace, hrespond⟩⟩
  · exact hquiet _ hown (by trivial)
  · obtain ⟨builder, _, rfl⟩ := Gateway.exists_builder_of_runs_respond X g hrespond
    exact hrefused rfl
  · rw [htrace] at hown
    exact publication.not_counted_of_canceled hrespond amount hown

include hsort

/-- A countable request has not counted, or its record is delivered and it has
counted the events of the payload. -/
theorem IsCountable.silent_or_exact {j : ι} (h : IsCountable X incoming history j) :
    ¬ WasCounted history j ∨ WasDelivered history j ∧
      eventsCounter (Pool.own j history) = eventsDelivered (Pool.own j history) := by
  cases counts_of_run hthreads hrun j with
  | silent hsilent =>
      left
      rintro ⟨amount, hmem⟩
      exact hsilent amount (Pool.mem_own_iff.mpr hmem)
  | delivered publication sent _ counter payload =>
      right
      have hdelivered : WasDelivered history j := ⟨_, _, Pool.mem_own_iff.mp sent⟩
      refine ⟨hdelivered, ?_⟩
      rw [counter, payload, publication.length_results_eq_iff hsort]
      exact h.result_for_each hdelivered publication.event publication.batch_eq
  | rejected publication sent _ _ =>
      exact absurd ⟨_, _, Pool.mem_own_iff.mp sent⟩ h.not_rejected

/-- Once it is settled, it has counted what was delivered. -/
theorem IsCountable.exact_of_isSettled {j : ι} (h : IsCountable X incoming history j)
    (hsettled : IsSettled history j) :
    eventsCounter (Pool.own j history) = eventsDelivered (Pool.own j history) := by
  rcases h.silent_or_exact hsort hthreads hrun with hsilent | ⟨_, hexact⟩
  · rw [own_eq_zero_of_not_wasCounted hsilent,
      own_eq_zero_of_not_wasDelivered (mt hsettled hsilent)]
  · exact hexact

/-- A finished request is counted for what it is exactly when it is countable. -/
theorem counted_iff_isCountable {j : ι} {r : Outcome Response}
    (hfinished : Q.threads j = .ofOutcome r) :
    eventsCounter (Pool.own j history) = eventsDelivered (Pool.own j history) ↔
      IsCountable X incoming history j := by
  constructor
  · intro hexact
    cases counts_of_run hthreads hrun j with
    | silent hsilent =>
        -- nothing was counted, so no future came through
        have hnone : ∀ record delivery,
            (j, (⟨Call.send record, .ok delivery⟩ : Event Calls)) ∉ history := by
          intro record delivery hmem
          obtain ⟨amount, hcounted⟩ := wasCounted_of_finished hthreads hrun hfinished hmem
          exact hsilent amount (Pool.mem_own_iff.mpr hcounted)
        refine ⟨?_, ?_⟩
        · rintro ⟨record, e, hmem⟩
          exact hnone record _ hmem
        · rintro ⟨record, position, hmem⟩
          exact absurd hmem (hnone record _)
    | delivered publication sent not_rejected counter payload =>
        rw [counter, payload, publication.length_results_eq_iff hsort] at hexact
        refine ⟨?_, fun _ event hevent => ?_⟩
        · rintro ⟨record, e, hmem⟩
          exact not_rejected record e (Pool.mem_own_iff.mpr hmem)
        · obtain rfl := Option.some.inj (publication.batch_eq.symm.trans hevent)
          exact hexact
    | rejected publication _ counter payload =>
        rw [counter, payload] at hexact
        exact absurd (List.length_eq_zero_iff.mp hexact) publication.results_ne_nil
  · intro hcountable
    exact hcountable.exact_of_isSettled hsort hthreads hrun
      (isSettled_of_finished hthreads hrun hfinished)

/-- Where every request is countable, the counter counts what was delivered. -/
theorem countsDelivered_of_isCountable (hall : ∀ j, IsCountable X incoming history j) :
    CountsDelivered history where
  never_ahead := by
    apply Pool.sum_le_sum_of_own
    intro j
    rcases (hall j).silent_or_exact hsort hthreads hrun with hsilent | ⟨_, hexact⟩
    · exact (own_eq_zero_of_not_wasCounted hsilent).trans_le (Nat.zero_le _)
    · exact hexact.le
  settled hsettled := by
    have hown := fun j => (hall j).exact_of_isSettled hsort hthreads hrun (hsettled j)
    apply le_antisymm
    · exact Pool.sum_le_sum_of_own fun j => (hown j).le
    · exact Pool.sum_le_sum_of_own fun j => (hown j).ge
  failed j hnot := by
    rcases (hall j).silent_or_exact hsort hthreads hrun with hsilent | ⟨hdelivered, _⟩
    · exact hsilent
    · exact absurd hdelivered hnot

/-- Any number of requests, in any interleaving and with any answers: as long as
every request is countable, the counter counts what was delivered, and a request that
has finished is counted for what it is exactly when it is countable. A request
answered with an error has never counted. -/
theorem eventsCounter_counts_delivered :
    ((∀ j, IsCountable X incoming history j) → CountsDelivered history) ∧
    (∀ j r, Q.threads j = .ofOutcome r → IsSettled history j ∧
      (eventsCounter (Pool.own j history) = eventsDelivered (Pool.own j history) ↔
        IsCountable X incoming history j)) ∧
    ∀ j response, Q.threads j = .done response → response.status ≠ 200 →
      ¬ WasCounted history j := by
  refine ⟨countsDelivered_of_isCountable hsort hthreads hrun, fun j r hfinished => ?_,
    fun j response => not_wasCounted_of_refused hthreads hrun⟩
  exact ⟨isSettled_of_finished hthreads hrun hfinished,
    counted_iff_isCountable hsort hthreads hrun hfinished⟩

end

end

/-- The two events of a delivered batch are counted. -/
theorem visit_events_counted : ∃ history Q response,
    Pool.Run (fun _ _ _ => True) ⟨(), fun _ : Unit => Gateway.handleSdk Reference.crates
      Reference.globals (Reference.post Reference.visitBody [])⟩ history Q ∧
    Q.threads () = .done response ∧ response.status = 200 ∧ CountsDelivered history ∧
    eventsCounter (history.map Prod.snd) = 2 ∧ eventsDelivered (history.map Prod.snd) = 2 := by
  obtain ⟨response, hresponse, hok⟩ := Reference.visit_answered
  obtain ⟨Q, hrun, hdone⟩ := exists_single_run hresponse
  have hdelivered : eventsDelivered (((Reference.handled (Reference.post Reference.visitBody [])
      Reference.working).1.map (Prod.mk ())).map Prod.snd) = 2 := by decide +kernel
  obtain ⟨hcounts, hfinished, _⟩ :=
    eventsCounter_counts_delivered Reference.crates_documentedSort (fun _ => rfl) hrun
  have hcountable := hcounts fun j => by
    refine ⟨?_, fun _ event hevent => ?_⟩
    · rintro ⟨record, e, hmem⟩
      cases answer_of_mem_single_run hmem
    · obtain rfl := Option.some.inj (Reference.fromSlice_visitBody.symm.trans hevent)
      exact Or.inl (by decide)
  have hsettled := hcountable.settled fun j => (hfinished j (.returned response) hdone).1
  exact ⟨_, Q, response, hrun, hdone, hok, hcountable, hsettled.trans hdelivered, hdelivered⟩

/-- An event and a registration are delivered, and one event is counted. -/
theorem mixed_events_miscounted : ∃ history Q response,
    Pool.Run (fun _ _ _ => True) ⟨(), fun _ : Unit => Gateway.handleSdk Reference.crates
      Reference.globals (Reference.post Reference.mixedBody [])⟩ history Q ∧
    Q.threads () = .done response ∧ response.status = 200 ∧
    eventsCounter (history.map Prod.snd) = 1 ∧ eventsDelivered (history.map Prod.snd) = 2 ∧
    ¬ CountsDelivered history := by
  have haccepted : (Reference.handled (Reference.post Reference.mixedBody [])
      Reference.working).2.any (fun response => response.status == 200) = true := by
    decide +kernel
  obtain ⟨response, hresponse, hok⟩ := Outcome.any_eq_true.mp haccepted
  obtain ⟨Q, hrun, hdone⟩ := exists_single_run hresponse
  have hcounter : eventsCounter (((Reference.handled (Reference.post Reference.mixedBody [])
      Reference.working).1.map (Prod.mk ())).map Prod.snd) = 1 := by decide +kernel
  have hdelivered : eventsDelivered (((Reference.handled (Reference.post Reference.mixedBody [])
      Reference.working).1.map (Prod.mk ())).map Prod.snd) = 2 := by decide +kernel
  refine ⟨_, Q, response, hrun, hdone, eq_of_beq hok, hcounter, hdelivered, fun hcounts => ?_⟩
  have hsettled := hcounts.settled fun _ =>
    isSettled_of_finished (fun _ => rfl) hrun (r := .returned response) hdone
  rw [hcounter, hdelivered] at hsettled
  cases hsettled

end XorcGateway
