/-
# What the counters of the IFA store count

Each statement is counted when its answer is there, under its kind and outcome:
a write always, and a lookup unless its answer has no rows result. So requests in
any interleaving owe the counters at most the statements they have just sent,
and once they have ended they owe nothing.
-/

import XorcGateway.Effects.Debt
import XorcGateway.Properties.RequestCounter

namespace XorcGateway

open Effects Events Rust Program

/-- The label a statement is counted under once it is answered. -/
def Query.countedAs : Query → Except QueryError Frame → Option (String × String)
  | .selectEntityId _ _, .error _ => some ("get", "error")
  | .selectEntityId _ _, .ok frame =>
      (frame.body.bind ResponseBody.rows).map fun rows =>
        ("get", if (IfaMatching.firstEntityId rows).isSome then "ok" else "not_found")
  | .insertKnownIfa _ _ _, .ok _ => some ("put", "ok")
  | .insertKnownIfa _ _ _, .error _ => some ("put", "error")

/-- The label of an answered call, if it is a statement that is counted. -/
def statementLabel : Event Calls → Option (String × String)
  | ⟨.query statement, answer⟩ => statement.countedAs answer
  | _ => none

/-- The label a call of any route is counted under. -/
def ServiceCalls.statementLabel (e : Event ServiceCalls) : Option (String × String) :=
  match e with
  | ⟨.inl c, answer⟩ => XorcGateway.statementLabel ⟨c, answer⟩
  | ⟨.inr _, _⟩ => none

/-- A statement falls due under its label. -/
def dueUnder (label : String × String) (e : Event ServiceCalls) : ℕ :=
  if ServiceCalls.statementLabel e = some label then 1 else 0

/-- An increment of the label's counter pays. -/
def paidUnder (label : String × String) : Event ServiceCalls → ℕ :=
  added (.scylladbRequests label.1 label.2)

/-- Statements, and what counts them. -/
def IsStoreCall : Call → Prop
  | .query _ => True
  | .inc (.scylladbRequests _ _) _ => True
  | _ => False

theorem nothing_due {e : Event Calls} (h : ¬ IsStoreCall e.call) (label : String × String) :
    dueUnder label e.left = 0 ∧ paidUnder label e.left = 0 := by
  obtain ⟨call, answer⟩ := e
  cases call with
  | query statement => exact absurd trivial h
  | inc counter amount =>
      cases counter with
      | scylladbRequests method status => exact absurd trivial h
      | _ => exact ⟨rfl, rfl⟩
  | _ => exact ⟨rfl, rfl⟩

/-! ## One request -/

section

variable (X : Crates) (g : Gateway.Globals) (label : String × String)

/-- The debt of a program among the calls of a POST. -/
abbrev OwesUnder {α : Type} (d : ℕ) (p : Request α) : Prop :=
  Owes (fun e => dueUnder label e.left) (fun e => paidUnder label e.left) d p

variable {label} in
theorem owesUnder_of_confined {α : Type} {allowed : Call → Prop} {p : Request α}
    (hp : Confined allowed p) (hallowed : ∀ c, allowed c → ¬ IsStoreCall c) :
    OwesUnder label 0 p :=
  .of_confined hp fun _ he => nothing_due (hallowed _ he) label

/-- A call of no interest to the store. -/
theorem owesUnder_skip {α : Type} {d : ℕ} {c : Call} {next : Calls.Answer c → Request α}
    (hc : ¬ IsStoreCall c) (hnext : ∀ answer, OwesUnder label d (next answer)) :
    OwesUnder label d (.call c next) :=
  .skip (fun _ => nothing_due hc label) hnext

/-- Counting a statement under its label pays what is due with it. -/
theorem owesUnder_report {α : Type} {e : Event Calls} {method status : String}
    (he : statementLabel e = some (method, status)) {next : Unit → Request α}
    (hnext : OwesUnder label 0 (next ())) :
    OwesUnder label (dueUnder label e.left)
      (.call (.inc (.scylladbRequests method status) 1) next) := by
  refine .pay (fun _ => rfl) (fun _ => ?_) fun _ => hnext
  have hdue : dueUnder label e.left = if some (method, status) = some label then 1 else 0 :=
    he ▸ rfl
  obtain ⟨m, s⟩ := label
  rw [hdue]
  simp [paidUnder, Event.left, added]

/-- With a statement that is not counted nothing is due. -/
theorem owesUnder_uncounted {α : Type} {e : Event Calls} (he : statementLabel e = none)
    {p : Request α} (hp : OwesUnder label 0 p) : OwesUnder label (dueUnder label e.left) p := by
  have hdue : dueUnder label e.left = 0 := by
    show (if statementLabel e = some label then 1 else 0) = 0
    simp [he]
  rwa [hdue]

theorem owes_getIdForIfa (appId : String) (ifa : Option String) (enabled : Bool) :
    OwesUnder label 0 (IfaMatching.getIdForIfa X appId ifa enabled) := by
  rw [IfaMatching.getIdForIfa]
  cases IfaMatching.parseIfa X ifa enabled with
  | none => exact .done none
  | some i =>
      cases X.uuid.parseStr appId with
      | none => exact .done none
      | some a =>
          refine .fallDue (fun _ => rfl) fun answer => ?_
          cases answer with
          | error e =>
              exact owesUnder_skip label (by simp [IsStoreCall]) fun _ =>
                owesUnder_report label rfl (.done none)
          | ok frame =>
              rcases frame with ⟨_ | ⟨_ | rows⟩⟩
              · exact owesUnder_uncounted label rfl (.done none)
              · exact owesUnder_uncounted label rfl (.done none)
              · simp only [done_bind]
                cases hrow : IfaMatching.firstEntityId rows with
                | none =>
                    refine owesUnder_report label ?_ (.done none)
                    simp [statementLabel, Query.countedAs, hrow]
                | some id =>
                    refine owesUnder_report label ?_ (.done _)
                    simp [statementLabel, Query.countedAs, hrow]

theorem owes_putIdForIfa (appId : String) (deviceId : Cleartext) (ifa : Option String)
    (enabled : Bool) :
    OwesUnder label 0 (IfaMatching.putIdForIfa X appId deviceId ifa enabled) := by
  rw [IfaMatching.putIdForIfa]
  cases IfaMatching.parseIfa X ifa enabled with
  | none => exact .done _
  | some i =>
      cases X.uuid.parseStr appId with
      | none => exact .done _
      | some a =>
          cases X.uuid.parseStr deviceId.value with
          | none => exact .done _
          | some d =>
              refine .fallDue (fun _ => rfl) fun answer => ?_
              cases answer with
              | error e => exact owesUnder_report label rfl (.done _)
              | ok frame => exact owesUnder_report label rfl (.done _)

/-- Panicking or not, nothing is due. -/
theorem owesUnder_liftPanic {α : Type} (value : Except Panic α) :
    OwesUnder label 0 (liftPanic value) := by
  have hconfined : Confined (S := Calls) (fun _ => False) (liftPanic value) :=
    confined_liftPanic value
  exact owesUnder_of_confined hconfined (by simp)

theorem owes_identityFor (found : Option String) :
    OwesUnder label 0 (Gateway.identityFor X g found) := by
  have hencrypt : ∀ (cleartext : Cleartext) (nonce : Nonce), OwesUnder label 0
      ((liftPanic (Ciphertext.encrypt X g.secret nonce cleartext)).bind fun ciphertext =>
        .done (DeviceId.mk ciphertext cleartext)) := fun cleartext nonce =>
    (owesUnder_liftPanic label _).bind fun ciphertext => .done _
  cases found with
  | none =>
      exact owesUnder_skip label (by simp [IsStoreCall]) fun uuid =>
        owesUnder_skip label (by simp [IsStoreCall]) fun nonce => hencrypt _ nonce
  | some deviceId =>
      exact owesUnder_skip label (by simp [IsStoreCall]) fun nonce => hencrypt _ nonce

theorem owes_getId (appId : String) (ifa : Option String) (enabled : Bool) :
    OwesUnder label 0 (Gateway.getId X g appId ifa enabled) :=
  (owes_getIdForIfa X label appId ifa enabled).bind fun found =>
    (owes_identityFor X g label found).bind fun deviceId =>
      (owes_putIdForIfa X label appId deviceId.cleartext ifa enabled).bind fun _ => .done _

theorem owes_fetchId (context : Context) (event : SDKEventBatch) :
    OwesUnder label 0 (Gateway.fetchId X g context event) := by
  rw [Gateway.fetchId]
  cases context.deviceId with
  | some deviceId => exact .done _
  | none =>
      refine owesUnder_skip label (by simp [IsStoreCall]) fun answer => ?_
      cases answer with
      | error e => exact .done _
      | ok _ => exact (owes_getId X g label _ _ _).bind fun deviceId => .done _

theorem owes_withToken (context : Context) : OwesUnder label 0 (Gateway.withToken g context) := by
  rw [Gateway.withToken]
  cases context.apiToken with
  | some token => exact .done _
  | none => exact owesUnder_skip label (by simp [IsStoreCall]) fun apps => .done _

theorem owes_generateEventResults (context : Context) (event : SDKEventBatch) :
    OwesUnder label 0 (Gateway.generateEventResults X g context event) := by
  rw [Gateway.generateEventResults]
  cases Gateway.findRegisterEvent event with
  | none => exact .done _
  | some eventId =>
      refine (owes_fetchId X g label context event).bind fun fetched => ?_
      cases fetched with
      | error e => exact .done _
      | ok deviceId => exact (owes_withToken g label _).bind fun context => .done _

theorem owes_publishEvents (results : List EventResult) (context : Context)
    (event : SDKEventBatch) :
    OwesUnder label 0 (Gateway.publishEvents X g results context event) := by
  refine owesUnder_skip label (by simp [IsStoreCall]) fun now => ?_
  refine owesUnder_skip label (by simp [IsStoreCall]) fun answer => ?_
  cases answer with
  | error canceled => exact .done _
  | ok delivery =>
      exact owesUnder_skip label (by simp [IsStoreCall]) fun _ =>
        owesUnder_skip label (by simp [IsStoreCall]) fun _ => .done _

theorem owes_handleEvent (body : List UInt8) (event : SDKEventBatch) (headers : HeaderMap) :
    OwesUnder label 0 (Gateway.handleEvent X g body event headers) := by
  refine (owesUnder_liftPanic label _).bind fun context => ?_
  split
  · exact .done _
  · refine owesUnder_skip label (by simp [IsStoreCall]) fun apps => ?_
    simp only [done_bind]
    cases (AppRegistry.mk g.config.gateway.allowEmptySignature apps).validate X g.config event
        context body with
    | error e => exact .done _
    | ok _ =>
        refine (owes_generateEventResults X g label context event).bind fun prepared => ?_
        cases prepared with
        | error e => exact .done _
        | ok prepared => exact owes_publishEvents X g label _ _ _

/-- A POST pays for its statements before it ends. -/
theorem owes_handleSdk (incoming : Gateway.Incoming) :
    OwesUnder label 0 (Gateway.handleSdk X g incoming) := by
  have hbody : OwesUnder label 0 (Gateway.handleBody X g incoming) := by
    rw [Gateway.handleBody]
    cases incoming.body with
    | none => exact .done _
    | some body =>
        dsimp only
        cases X.fromSlice body with
        | none => exact .done _
        | some event => exact owes_handleEvent X g label body event _
  refine hbody.bind fun res => owesUnder_of_confined (Gateway.confined_respond X g res) ?_
  intro c hanswering hstore
  cases c with
  | inc counter amount => cases counter <;> first | exact hanswering | exact hstore
  | query statement => exact hanswering
  | _ => exact hstore

/-- So does a request of any route. -/
theorem owes_service (encoder : TextEncoder) (req : HttpRequest) :
    Owes (dueUnder label) (paidUnder label) 0 (Gateway.service X g encoder req) := by
  rw [Gateway.service]
  cases req.route with
  | sdkOptions =>
      refine .left (owesUnder_skip label (by simp [IsStoreCall]) fun _ => ?_)
      exact owesUnder_liftPanic label _
  | sdkEvents => exact .left (owes_handleSdk X g label _)
  | metrics =>
      refine .skip (fun _ => ⟨rfl, rfl⟩) fun families => ?_
      simp only [done_bind]
      cases Gateway.handleMetrics encoder families with
      | error panic => exact .panic
      | ok response => exact .done _
  | notFound => exact .left (owesUnder_skip label (by simp [IsStoreCall]) fun _ => .done _)

end

/-! ## All requests -/

/-- The statements in a history that are counted under the label. -/
def statementsUnder {ι : Type} (label : String × String) (history : List (ι × Event ServiceCalls)) :
    ℕ :=
  history.countP fun x => ServiceCalls.statementLabel x.2 = some label

theorem sum_due {ι : Type} (label : String × String) (history : List (ι × Event ServiceCalls)) :
    ((history.map Prod.snd).map (dueUnder label)).sum = statementsUnder label history := by
  induction history with
  | nil => rfl
  | cons x history ih =>
      simp only [List.map_cons, List.sum_cons, ih, statementsUnder, List.countP_cons, dueUnder,
        decide_eq_true_eq]
      exact Nat.add_comm _ _

section

variable {ι σ : Type} [DecidableEq ι] {X : Crates} {g : Gateway.Globals} {encoder : TextEncoder}
  {W : World ServiceCalls σ} {counters : σ → MetricFamilies} {requests : ι → HttpRequest}
  {P Q : Pool ServiceCalls ι σ Response} {history : List (ι × Event ServiceCalls)}

/-- In every state that any requests reach, in any interleaving and with any answers,
no label counts more statements than were answered with it; and once the requests
under way have ended, each label counts exactly those. -/
theorem statements_counted (hW : KeepsCounters W counters)
    (hthreads : ∀ j, P.threads j = Gateway.service X g encoder (requests j))
    (hrun : Pool.Run W P history Q) (method status : String) :
    counters Q.state (.scylladbRequests method status) ≤
      counters P.state (.scylladbRequests method status) +
        statementsUnder (method, status) history ∧
    ((∀ x ∈ history, ∃ r, Q.threads x.1 = .ofOutcome r) →
      counters Q.state (.scylladbRequests method status) =
        counters P.state (.scylladbRequests method status) +
          statementsUnder (method, status) history) := by
  have howes : ∀ j, Owes (dueUnder (method, status)) (paidUnder (method, status)) 0
      (P.threads j) := by
    intro j
    rw [hthreads]
    exact owes_service X g (method, status) encoder (requests j)
  rw [hrun.evolves.adds (hW.added (.scylladbRequests method status)), ← sum_due]
  refine ⟨Nat.add_le_add_left (hrun.paid_le_due howes) _, fun hended => ?_⟩
  rw [← hrun.paid_eq_due howes hended, paidUnder]

end

/-- The registration of a device. -/
def registerRequest : HttpRequest where
  method := .post
  path := "/xray/events/xorc/sdk/v1"
  incoming := Reference.post Reference.registerBody []

/-- A registration over an empty store has counted its lookup and its write. -/
theorem registration_counted : ∃ history Q,
    Pool.Run countersWorld ⟨fun _ => 0, fun _ : Unit => Gateway.service Reference.crates
      Reference.globals Reference.encoder registerRequest⟩ history Q ∧
    Q.state (.scylladbRequests "get" "not_found") = 1 ∧
    Q.state (.scylladbRequests "put" "ok") = 1 := by
  let start : Pool ServiceCalls Unit MetricFamilies Response := ⟨fun _ => 0, fun _ =>
    Gateway.service Reference.crates Reference.globals Reference.encoder registerRequest⟩
  have hpost := Reference.runs_service Reference.globals Reference.working
    (show registerRequest.route = .sdkEvents from rfl)
  obtain ⟨Q, hrun, r, hended⟩ : ∃ Q, Pool.Run countersWorld start _ Q ∧
      ∃ r, Q.threads () = ofOutcome r :=
    ⟨_, Pool.run_thread (i := ()) hpost rfl (evolves_countersWorld start.state _),
      (Reference.handledBy Reference.globals registerRequest.incoming Reference.working).2,
      by simp⟩
  have hthreads : ∀ j, start.threads j = Gateway.service Reference.crates Reference.globals
      Reference.encoder ((fun _ => registerRequest) j) := fun _ => by simp only [start]
  have hcounted := fun method status => (statements_counted keepsCounters_countersWorld
    hthreads hrun method status).2 fun _ _ => ⟨r, hended⟩
  have hlookup : statementsUnder ("get", "not_found") (((Reference.handledBy Reference.globals
      registerRequest.incoming Reference.working).1.map Event.left).map (Prod.mk ())) = 1 := by
    decide +kernel
  have hwrite : statementsUnder ("put", "ok") (((Reference.handledBy Reference.globals
      registerRequest.incoming Reference.working).1.map Event.left).map (Prod.mk ())) = 1 := by
    decide +kernel
  refine ⟨_, Q, hrun, ?_, ?_⟩
  · rw [← hlookup]
    exact (hcounted "get" "not_found").trans (Nat.zero_add _)
  · rw [← hwrite]
    exact (hcounted "put" "ok").trans (Nat.zero_add _)

end XorcGateway
