/-
# How the process ends

The main thread returns only behind both of the others, with every connection
closed; where a thread has panicked, so does `main`, and if it was the updater,
without having waited for the gateway. The updater does not make it wait: from the
`unpark` on it begins one refresh at most, and no clock is needed for it to end.
-/

import XorcGateway.Properties.Authenticity
import XorcGateway.Properties.Refreshes
import XorcGateway.Shutdown

namespace XorcGateway.Shutdown

open Abstract AppRegistry

/-! ## What a step can do -/

section

variable (X : Crates) {ρ : Type} (cdrs : Cdrs ρ) (s : Threads)

/-- The steps of the process, one constructor for each way a thread can go on. -/
inductive Takes : Action ρ → Threads → Prop
  | interrupted (hmain : s.main = .waiting) : Takes .interrupted { s with main := .sending }
  | signalFailed (hmain : s.main = .waiting) : Takes .signalFailed { s with main := .returned }
  | sendStop (hmain : s.main = .sending) :
      Takes .sendStop { s with main := .storing, stopSent := true }
  | storeControl (hmain : s.main = .storing) :
      Takes .storeControl { s with main := .unparkingUpdater, control := false }
  | unparkUpdater (hmain : s.main = .unparkingUpdater) :
      Takes .unparkUpdater { s with main := .joiningUpdater, token := true }
  | joinedUpdater (hmain : s.main = .joiningUpdater) (hupdater : s.updater = .exited) :
      Takes .joinUpdater { s with main := .unparkingGateway }
  | failedUpdater (hmain : s.main = .joiningUpdater) (hupdater : s.updater = .panicked) :
      Takes .joinUpdater { s with main := .panicked }
  | unparkGateway (hmain : s.main = .unparkingGateway) :
      Takes .unparkGateway { s with main := .joiningGateway }
  | joinedGateway (hmain : s.main = .joiningGateway) (hgateway : s.gateway = .exited) :
      Takes .joinGateway { s with main := .returned }
  | failedGateway (hmain : s.main = .joiningGateway) (hgateway : s.gateway = .panicked) :
      Takes .joinGateway { s with main := .panicked }
  | loadedTrue (hupdater : s.updater = .checking)
      (hread : s.control = true ∨ s.synchronised = false) :
      Takes (.load true) { s with updater := .refreshing }
  | loadedFalse (hupdater : s.updater = .checking) (hread : s.control = false) :
      Takes (.load false) { s with updater := .exited }
  | refreshed {attempt : Attempt ρ} {registry : SharedRegistry} {result : Except IoError Unit}
      (hupdater : s.updater = .refreshing)
      (hrefresh : updateApps X cdrs s.registry attempt = .ok (registry, result)) :
      Takes (.refresh attempt) { s with updater := .parked, registry := registry }
  | refreshPanicked {attempt : Attempt ρ} {panic : Rust.Panic} (hupdater : s.updater = .refreshing)
      (hrefresh : updateApps X cdrs s.registry attempt = .error panic) :
      Takes (.refresh attempt) { s with updater := .panicked }
  | woken {timedOut : Bool} (hupdater : s.updater = .parked)
      (hwoken : timedOut = true ∨ s.token = true) :
      Takes (.wake timedOut) { s with
        updater := .checking
        token := false
        synchronised := s.synchronised || s.token }
  | bound (hgateway : s.gateway = .starting) :
      Takes (.bind true) { s with gateway := .serving 0 }
  | bindPanicked (hgateway : s.gateway = .starting) :
      Takes (.bind false) { s with gateway := .panicked }
  | accepted {n : ℕ} (hgateway : s.gateway = .serving n) :
      Takes .accept { s with gateway := .serving (n + 1) }
  | closed {n : ℕ} (hgateway : s.gateway = .serving (n + 1)) :
      Takes .close { s with gateway := .serving n }
  | drained {n : ℕ} (hgateway : s.gateway = .draining (n + 1)) :
      Takes .close { s with gateway := .draining n }
  | serverFailed {n : ℕ} (hgateway : s.gateway = .serving n) :
      Takes .serverFailed { s with gateway := .draining n }
  | stopped {n : ℕ} (hgateway : s.gateway = .serving n) (hsent : s.stopSent = true) :
      Takes .stop { s with gateway := .draining n }
  | idled (hgateway : s.gateway = .draining 0) : Takes .idle { s with gateway := .exited }

end

variable {X : Crates} {ρ : Type} {cdrs : Cdrs ρ} {s s' : Threads} {a : Action ρ}

theorem takes_of_mainStep (h : s.mainStep a = some s') : Takes X cdrs s a s' := by
  cases a with
  | joinUpdater =>
      simp only [Threads.mainStep] at h
      split at h
      · cases h
        exact .joinedUpdater ‹_› ‹_›
      · cases h
        exact .failedUpdater ‹_› ‹_›
      · cases h
  | joinGateway =>
      simp only [Threads.mainStep] at h
      split at h
      · cases h
        exact .joinedGateway ‹_› ‹_›
      · cases h
        exact .failedGateway ‹_› ‹_›
      · cases h
  | interrupted =>
      obtain ⟨hmain, ⟨⟩⟩ := Option.ite_none_right_eq_some.mp h
      exact .interrupted hmain
  | signalFailed =>
      obtain ⟨hmain, ⟨⟩⟩ := Option.ite_none_right_eq_some.mp h
      exact .signalFailed hmain
  | sendStop =>
      obtain ⟨hmain, ⟨⟩⟩ := Option.ite_none_right_eq_some.mp h
      exact .sendStop hmain
  | storeControl =>
      obtain ⟨hmain, ⟨⟩⟩ := Option.ite_none_right_eq_some.mp h
      exact .storeControl hmain
  | unparkUpdater =>
      obtain ⟨hmain, ⟨⟩⟩ := Option.ite_none_right_eq_some.mp h
      exact .unparkUpdater hmain
  | unparkGateway =>
      obtain ⟨hmain, ⟨⟩⟩ := Option.ite_none_right_eq_some.mp h
      exact .unparkGateway hmain
  | _ => cases h

theorem takes_of_updaterStep (h : s.updaterStep X cdrs a = some s') : Takes X cdrs s a s' := by
  cases a with
  | load control =>
      obtain ⟨⟨hupdater, hread⟩, ⟨⟩⟩ := Option.ite_none_right_eq_some.mp h
      cases control with
      | true => exact .loadedTrue hupdater (hread.imp Eq.symm And.right)
      | false => exact .loadedFalse hupdater (hread.resolve_right fun h => nomatch h.1).symm
  | refresh attempt =>
      obtain ⟨hupdater, h⟩ := Option.ite_none_right_eq_some.mp h
      split at h
      · cases h
        exact .refreshed hupdater ‹_›
      · cases h
        exact .refreshPanicked hupdater ‹_›
  | wake timedOut =>
      obtain ⟨⟨hupdater, hwoken⟩, ⟨⟩⟩ := Option.ite_none_right_eq_some.mp h
      exact .woken hupdater hwoken
  | _ => cases h

theorem takes_of_gatewayStep (h : s.gatewayStep a = some s') : Takes X cdrs s a s' := by
  cases a with
  | bind succeeds =>
      obtain ⟨hgateway, ⟨⟩⟩ := Option.ite_none_right_eq_some.mp h
      cases succeeds with
      | true => exact .bound hgateway
      | false => exact .bindPanicked hgateway
  | accept =>
      simp only [Threads.gatewayStep] at h
      split at h
      · cases h
        exact .accepted ‹_›
      · cases h
  | close =>
      simp only [Threads.gatewayStep] at h
      split at h
      · cases h
        exact .closed ‹_›
      · cases h
        exact .drained ‹_›
      · cases h
  | serverFailed =>
      simp only [Threads.gatewayStep] at h
      split at h
      · cases h
        exact .serverFailed ‹_›
      · cases h
  | stop =>
      simp only [Threads.gatewayStep] at h
      split at h
      · cases h
        exact .stopped ‹_› ‹_›
      · cases h
  | idle =>
      simp only [Threads.gatewayStep] at h
      split at h
      · cases h
        exact .idled ‹_›
      · cases h
  | _ => cases h

/-- A step is one of its constructors, and none is taken behind the main
thread. -/
theorem takes_of_step (h : (process X cdrs).step s a = some s') :
    s.isOver = false ∧ Takes X cdrs s a s' := by
  simp only [process] at h
  split at h
  · cases h
  · refine ⟨Bool.eq_false_iff.mpr ‹_›, ?_⟩
    rcases Option.or_eq_some_iff.mp h with hmain | ⟨_, h⟩
    · exact takes_of_mainStep hmain
    · rcases Option.or_eq_some_iff.mp h with hupdater | ⟨_, hgateway⟩
      · exact takes_of_updaterStep hupdater
      · exact takes_of_gatewayStep hgateway

/-! ## The updater of the process -/

/-- The attempts of a run's refreshes. -/
def attempts (labels : List (Action ρ)) : List (Attempt ρ) :=
  labels.filterMap fun
    | .refresh attempt => some attempt
    | _ => none

theorem mem_attempts_iff {labels : List (Action ρ)} {attempt : Attempt ρ} :
    attempt ∈ attempts labels ↔ .refresh attempt ∈ labels := by
  rw [attempts, List.mem_filterMap]
  constructor
  · rintro ⟨a, ha, hattempt⟩
    cases a with
    | refresh met =>
        obtain rfl := Option.some.inj hattempt
        exact ha
    | _ => cases hattempt
  · intro hmem
    exact ⟨_, hmem, rfl⟩

variable {registry : SharedRegistry} {labels : List (Action ρ)}

/-- The registry of the process and its updater thread are the updater after the
refreshes so far. -/
theorem runUpdater_of_runs (h : (process X cdrs).Runs (.start registry) labels s) :
    runUpdater X cdrs registry (attempts labels) =
      ⟨s.registry, decide (s.updater ≠ .panicked)⟩ := by
  refine h.invariant
    (fun past s => runUpdater X cdrs registry (attempts past) =
      ⟨s.registry, decide (s.updater ≠ .panicked)⟩) (fun past s a s' ih hstep => ?_)
    (by simp [attempts, runUpdater, Threads.start])
  have hsnoc : attempts (past ++ [a]) = attempts past ++ attempts [a] := List.filterMap_append
  have hskip : attempts [a] = [] → s'.registry = s.registry →
      (s'.updater = .panicked ↔ s.updater = .panicked) →
      runUpdater X cdrs registry (attempts (past ++ [a])) =
        ⟨s'.registry, decide (s'.updater ≠ .panicked)⟩ := by
    intro hnone hregistry hupdater
    rw [hsnoc, hnone, List.append_nil, ih, hregistry]
    simp only [ne_eq, hupdater]
  cases (takes_of_step hstep).2 with
  | @refreshed attempt _ _ hupdater hrefresh =>
      rw [hsnoc, show attempts [.refresh attempt] = [attempt] from rfl, runUpdater_concat, ih]
      simp [Updater.round, hupdater, hrefresh]
  | @refreshPanicked attempt _ hupdater hrefresh =>
      rw [hsnoc, show attempts [.refresh attempt] = [attempt] from rfl, runUpdater_concat, ih]
      simp [Updater.round, hupdater, hrefresh]
  | loadedTrue hupdater _ => exact hskip rfl rfl (by simp [hupdater])
  | loadedFalse hupdater _ => exact hskip rfl rfl (by simp [hupdater])
  | woken hupdater _ => exact hskip rfl rfl (by simp [hupdater])
  | _ => exact hskip rfl rfl Iff.rfl

/-! ## Joining -/

def Action.isAccept : Action ρ → Bool
  | .accept => true
  | _ => false

def Action.isClose : Action ρ → Bool
  | .close => true
  | _ => false

/-- The connections that are open. -/
def Threads.connections (s : Threads) : ℕ :=
  match s.gateway with
  | .serving n => n
  | .draining n => n
  | _ => 0

/-- No connection gets lost. -/
theorem connections_of_runs (h : (process X cdrs).Runs (.start registry) labels s) :
    labels.countP Action.isAccept = labels.countP Action.isClose + s.connections := by
  refine h.invariant (fun past s => past.countP Action.isAccept =
    past.countP Action.isClose + s.connections) (fun past s a s' ih hstep => ?_) rfl
  rw [List.countP_append, List.countP_append, List.countP_singleton, List.countP_singleton]
  cases (takes_of_step hstep).2 with
  | accepted hgateway => simp_all [Threads.connections, Action.isAccept, Action.isClose]; omega
  | closed hgateway => simp_all [Threads.connections, Action.isAccept, Action.isClose]; omega
  | drained hgateway => simp_all [Threads.connections, Action.isAccept, Action.isClose]; omega
  | bound hgateway => simp_all [Threads.connections, Action.isAccept, Action.isClose]
  | bindPanicked hgateway => simp_all [Threads.connections, Action.isAccept, Action.isClose]
  | serverFailed hgateway => simp_all [Threads.connections, Action.isAccept, Action.isClose]
  | stopped hgateway _ => simp_all [Threads.connections, Action.isAccept, Action.isClose]
  | idled hgateway => simp_all [Threads.connections, Action.isAccept, Action.isClose]
  | _ => simpa [Threads.connections, Action.isAccept, Action.isClose] using ih

/-- What the main thread knows of the others. -/
def Threads.Joined (s : Threads) : Prop :=
  match s.main with
  | .unparkingGateway => s.updater = .exited
  | .joiningGateway => s.updater = .exited
  | .returned => s.updater = .exited ∧ s.gateway = .exited
  | .panicked => s.updater = .panicked ∨ s.updater = .exited ∧ s.gateway = .panicked
  | _ => True

/-- Unless its signals fail, the main thread gets behind a thread only by joining
it. -/
theorem joined_of_runs (h : (process X cdrs).Runs (.start registry) labels s)
    (hsignals : .signalFailed ∉ labels) : s.Joined := by
  refine h.invariant (fun past s => .signalFailed ∉ past → s.Joined)
    (fun past s a s' ih hstep => ?_) (fun _ => trivial) hsignals
  intro hsignals
  rw [List.mem_append, not_or] at hsignals
  have hjoined := ih hsignals.1
  obtain ⟨hover, htakes⟩ := takes_of_step hstep
  have hsame : s'.main = s.main → (s.updater = .exited → s'.updater = .exited) → s'.Joined := by
    intro hmain hexited
    rw [Threads.Joined] at hjoined ⊢
    rw [hmain]
    cases hstate : s.main with
    | unparkingGateway => exact hexited (by simpa only [hstate] using hjoined)
    | joiningGateway => exact hexited (by simpa only [hstate] using hjoined)
    | returned => simp [Threads.isOver, hstate] at hover
    | panicked => simp [Threads.isOver, hstate] at hover
    | _ => trivial
  cases htakes with
  | signalFailed _ => simp at hsignals
  | joinedUpdater _ hupdater => exact hupdater
  | failedUpdater _ hupdater => exact Or.inl hupdater
  | unparkGateway hmain =>
      simp only [Threads.Joined, hmain] at hjoined
      exact hjoined
  | joinedGateway hmain hgateway =>
      simp only [Threads.Joined, hmain] at hjoined
      exact ⟨hjoined, hgateway⟩
  | failedGateway hmain hgateway =>
      simp only [Threads.Joined, hmain] at hjoined
      exact Or.inr ⟨hjoined, hgateway⟩
  | loadedTrue hupdater _ => exact hsame rfl (by simp [hupdater])
  | loadedFalse hupdater _ => exact hsame rfl (by simp [hupdater])
  | refreshed hupdater _ => exact hsame rfl (by simp [hupdater])
  | refreshPanicked hupdater _ => exact hsame rfl (by simp [hupdater])
  | woken hupdater _ => exact hsame rfl (by simp [hupdater])
  | interrupted _ => trivial
  | sendStop _ => trivial
  | storeControl _ => trivial
  | unparkUpdater _ => trivial
  | _ => exact hsame rfl id

/-- A thread that has ended stays ended. -/
theorem updater_exited_persists (h : (process X cdrs).Runs s labels s')
    (hexited : s.updater = .exited) : s'.updater = .exited := by
  refine h.invariant (fun _ s => s.updater = .exited) (fun _ s a s' hexited hstep => ?_) hexited
  cases (takes_of_step hstep).2 <;> simp_all

/-- The gateway is joined behind the updater. -/
theorem updater_exited_of_joinGateway (h : (process X cdrs).Runs (.start registry) labels s)
    (hsignals : .signalFailed ∉ labels) (hjoin : .joinGateway ∈ labels) : s.updater = .exited := by
  obtain ⟨first, second, rfl⟩ := List.append_of_mem hjoin
  obtain ⟨before, hfirst, hrest⟩ := h.split
  have hjoined := joined_of_runs hfirst fun hmem => hsignals (List.mem_append_left _ hmem)
  have hexited : before.updater = .exited := by
    cases hrest with
    | cons hstep _ =>
        cases (takes_of_step hstep).2 with
        | joinedGateway hmain _ => simpa only [Threads.Joined, hmain] using hjoined
        | failedGateway hmain _ => simpa only [Threads.Joined, hmain] using hjoined
  exact updater_exited_persists hrest hexited

/-- In every run, with any refreshes and connections and in any order of steps,
unless the stream of signals fails: when `main` returns, the updater and the gateway
have ended and every connection that was accepted has been closed; when it panics,
one of them has panicked, and if it was the updater, the gateway has not been
joined. -/
theorem main_ends (h : (process X cdrs).Runs (.start registry) labels s)
    (hsignals : .signalFailed ∉ labels) :
    (s.main = .returned → s.updater = .exited ∧ s.gateway = .exited ∧
      labels.countP Action.isAccept = labels.countP Action.isClose) ∧
    (s.main = .panicked →
      (s.updater = .panicked ∧ .joinGateway ∉ labels) ∨
        s.updater = .exited ∧ s.gateway = .panicked) := by
  have hjoined := joined_of_runs h hsignals
  rw [Threads.Joined] at hjoined
  refine ⟨fun hmain => ?_, fun hmain => ?_⟩
  · simp only [hmain] at hjoined
    have hconnections := connections_of_runs h
    rw [Threads.connections, hjoined.2] at hconnections
    exact ⟨hjoined.1, hjoined.2, hconnections⟩
  · simp only [hmain] at hjoined
    refine hjoined.imp_left fun hpanicked => ⟨hpanicked, fun hjoin => ?_⟩
    cases hpanicked.symm.trans (updater_exited_of_joinGateway h hsignals hjoin)

/-- One connection, one failed refresh, an interrupt. -/
def cleanExit : List (Action (List (String × Reference.Column))) :=
  [.bind true, .accept, .load true, .refresh .noConnection, .interrupted, .sendStop, .stop,
    .storeControl, .unparkUpdater, .wake false, .load false, .joinUpdater, .unparkGateway, .close,
    .idle, .joinGateway]

/-- The process ends with nothing open. -/
theorem cleanExit_returns : ∃ s : Threads,
    (process Reference.crates Reference.cdrs).Runs (.start Reference.managedRegistry) cleanExit s ∧
    s.main = .returned ∧ s.gateway = .exited := by
  obtain ⟨s, hrun, hmain⟩ : ∃ s : Threads,
      (process Reference.crates Reference.cdrs).run (.start Reference.managedRegistry) cleanExit =
        some s ∧ s.main = .returned := ⟨_, rfl, rfl⟩
  have hruns := Machine.runs_of_run hrun
  exact ⟨s, hruns, hmain, ((main_ends hruns (by simp [cleanExit])).1 hmain).2.1⟩

/-! ## Stopping the updater -/

def Action.isUpdater : Action ρ → Bool
  | .load _ => true
  | .refresh _ => true
  | .wake _ => true
  | _ => false

/-- The updater goes into another refresh. -/
def Action.beginsRefresh : Action ρ → Bool
  | .load control => control
  | _ => false

/-- The main thread has told the updater: its token is there, or the updater has
taken it and knows. -/
structure Threads.IsTold (s : Threads) : Prop where
  control : s.control = false
  told : s.token = true ∨ s.synchronised = true
  ending : s.synchronised = true → s.updater = .checking ∨ s.updater = .exited

/-- The steps the updater has left once it is told. -/
def Threads.stepsLeft (s : Threads) : ℕ :=
  match s.updater with
  | .checking => if s.synchronised then 1 else 4
  | .refreshing => 3
  | .parked => 2
  | .exited => 0
  | .panicked => 0

/-- The refreshes it may still begin. -/
def Threads.refreshesLeft (s : Threads) : ℕ :=
  if s.updater = .checking ∧ s.synchronised = false then 1 else 0

/-- A step of a told updater brings it nearer to its end, and the other threads do
not set it back. -/
theorem isTold_step (htold : s.IsTold) (hstep : (process X cdrs).step s a = some s') :
    s'.IsTold ∧ s'.stepsLeft + (if a.isUpdater then 1 else 0) ≤ s.stepsLeft ∧
      s'.refreshesLeft + (if a.beginsRefresh then 1 else 0) ≤ s.refreshesLeft := by
  obtain ⟨hcontrol, htold, hending⟩ := htold
  cases (takes_of_step hstep).2 with
  | loadedTrue hupdater hread =>
      have hold : s.synchronised = false := hread.resolve_left (by simp [hcontrol])
      refine ⟨⟨hcontrol, htold, by simp [hold]⟩, ?_, ?_⟩
      · simp [Threads.stepsLeft, hupdater, hold, Action.isUpdater]
      · simp [Threads.refreshesLeft, hupdater, hold, Action.beginsRefresh]
  | loadedFalse hupdater hread =>
      refine ⟨⟨hcontrol, htold, fun _ => Or.inr rfl⟩, ?_, ?_⟩
      · simp only [Threads.stepsLeft, hupdater, Action.isUpdater, if_true]
        split <;> omega
      · simp [Threads.refreshesLeft, Action.beginsRefresh]
  | refreshed hupdater _ =>
      refine ⟨⟨hcontrol, htold, fun hsync => ?_⟩, ?_, ?_⟩
      · simp [hupdater] at hending
        simp [hending] at hsync
      · simp [Threads.stepsLeft, hupdater, Action.isUpdater]
      · simp [Threads.refreshesLeft, Action.beginsRefresh]
  | refreshPanicked hupdater _ =>
      refine ⟨⟨hcontrol, htold, fun hsync => ?_⟩, ?_, ?_⟩
      · simp [hupdater] at hending
        simp [hending] at hsync
      · simp [Threads.stepsLeft, hupdater, Action.isUpdater]
      · simp [Threads.refreshesLeft, Action.beginsRefresh]
  | woken hupdater _ =>
      -- a parked updater has not synchronised, so there is a token for it to take
      have hold : s.synchronised = false := by simpa [hupdater] using hending
      have htoken : s.token = true := htold.resolve_right (by simp [hold])
      refine ⟨⟨hcontrol, Or.inr (by simp [htoken]), fun _ => Or.inl rfl⟩, ?_, ?_⟩
      · simp [Threads.stepsLeft, hupdater, htoken, Action.isUpdater]
      · simp [Threads.refreshesLeft, htoken, Action.beginsRefresh]
  | storeControl _ => exact ⟨⟨rfl, htold, hending⟩, le_rfl, le_rfl⟩
  | unparkUpdater _ => exact ⟨⟨hcontrol, Or.inl rfl, hending⟩, le_rfl, le_rfl⟩
  | _ => exact ⟨⟨hcontrol, htold, hending⟩, le_rfl, le_rfl⟩

/-- The main thread has not come to tell the updater. -/
def Threads.IsUntold (s : Threads) : Prop :=
  match s.main with
  | .waiting => s.token = false ∧ s.synchronised = false
  | .sending => s.token = false ∧ s.synchronised = false
  | .storing => s.token = false ∧ s.synchronised = false
  | .unparkingUpdater => s.token = false ∧ s.synchronised = false ∧ s.control = false
  | _ => True

theorem isUntold_of_runs (h : (process X cdrs).Runs (.start registry) labels s) :
    s.IsUntold := by
  refine h.invariant (fun _ s => s.IsUntold) (fun _ s a s' ih hstep => ?_) ⟨rfl, rfl⟩
  simp only [Threads.IsUntold] at ih ⊢
  cases (takes_of_step hstep).2 with
  | interrupted hmain => simpa only [hmain] using ih
  | sendStop hmain => simpa only [hmain] using ih
  | storeControl hmain =>
      simp only [hmain] at ih
      exact ⟨ih.1, ih.2, rfl⟩
  | woken _ _ => cases hmain : s.main <;> simp_all
  | signalFailed _ => trivial
  | unparkUpdater _ => trivial
  | joinedUpdater _ _ => trivial
  | failedUpdater _ _ => trivial
  | unparkGateway _ => trivial
  | joinedGateway _ _ => trivial
  | failedGateway _ _ => trivial
  | _ => exact ih

/-- Waiting for a told updater, the main thread can go on, or the updater can,
without a timeout. -/
theorem enabled_of_isTold (htold : s.IsTold) (hmain : s.main = .joiningUpdater) :
    (process X cdrs).Enabled s .joinUpdater ∨
      ∃ a, a.isUpdater = true ∧ a ≠ .wake true ∧ (process X cdrs).Enabled s a := by
  have hover : s.isOver = false := by simp [Threads.isOver, hmain]
  simp only [Machine.Enabled, process, hover, Bool.false_eq_true, if_false]
  cases hupdater : s.updater with
  | checking =>
      refine Or.inr ⟨.load false, rfl, by simp, ?_⟩
      simp [Threads.mainStep, Threads.updaterStep, hupdater, htold.control]
  | refreshing =>
      refine Or.inr ⟨.refresh .noConnection, rfl, by simp, ?_⟩
      simp only [Threads.mainStep, Threads.updaterStep, hupdater, if_true]
      cases updateApps X cdrs s.registry .noConnection <;> rfl
  | parked =>
      have hold : s.synchronised = false := by simpa [hupdater] using htold.ending
      have htoken : s.token = true := htold.told.resolve_right (by simp [hold])
      refine Or.inr ⟨.wake false, rfl, by simp, ?_⟩
      simp [Threads.mainStep, Threads.updaterStep, hupdater, htoken]
  | exited => exact Or.inl (by simp [Threads.mainStep, hmain, hupdater])
  | panicked => exact Or.inl (by simp [Threads.mainStep, hmain, hupdater])

/-- In every run, from the `unpark` on the updater takes four steps at most and
begins one refresh at most, although the flag may be read late; and while the main
thread waits for it, one of the two can always go on, without waiting for a
timeout. -/
theorem updater_stops {before after : List (Action ρ)}
    (h : (process X cdrs).Runs (.start registry) (before ++ .unparkUpdater :: after) s) :
    after.countP Action.isUpdater ≤ 4 ∧ after.countP Action.beginsRefresh ≤ 1 ∧
    (s.main = .joiningUpdater → (process X cdrs).Enabled s .joinUpdater ∨
      ∃ a, a.isUpdater = true ∧ a ≠ .wake true ∧ (process X cdrs).Enabled s a) := by
  obtain ⟨middle, hfirst, hrest⟩ := h.split
  have huntold := isUntold_of_runs hfirst
  cases hrest with
  | @cons _ told _ _ _ hstep hafter =>
      have htold : told.IsTold := by
        cases (takes_of_step hstep).2 with
        | unparkUpdater hmain =>
            simp only [Threads.IsUntold, hmain] at huntold
            exact ⟨huntold.2.2, Or.inl rfl, by simp [huntold.2.1]⟩
      have hsteps := hafter.countP_le_rank Threads.IsTold Action.isUpdater Threads.stepsLeft
        (fun s a s' htold hstep => ⟨(isTold_step htold hstep).1, (isTold_step htold hstep).2.1⟩)
        htold
      have hrefreshes := hafter.countP_le_rank Threads.IsTold Action.beginsRefresh
        Threads.refreshesLeft
        (fun s a s' htold hstep => ⟨(isTold_step htold hstep).1, (isTold_step htold hstep).2.2⟩)
        htold
      have hfour : told.stepsLeft ≤ 4 := by
        rw [Threads.stepsLeft]
        split <;> (try split) <;> omega
      have hone : told.refreshesLeft ≤ 1 := by
        rw [Threads.refreshesLeft]
        split <;> omega
      refine ⟨by omega, by omega, fun hmain => enabled_of_isTold ?_ hmain⟩
      exact hafter.invariant (fun _ s => s.IsTold)
        (fun _ s a s' htold hstep => (isTold_step htold hstep).1) htold

/-- An updater that reads the flag late. -/
def lateUpdater : List (Action (List (String × Reference.Column))) :=
  [.load true, .refresh .noConnection, .wake false, .load false]

/-- It takes all of its four steps, and begins its one refresh. -/
theorem lateUpdater_stops : ∃ s : Threads,
    (process Reference.crates Reference.cdrs).Runs (.start Reference.managedRegistry)
      ([.interrupted, .sendStop, .storeControl] ++ .unparkUpdater :: lateUpdater) s ∧
    lateUpdater.countP Action.isUpdater = 4 ∧ lateUpdater.countP Action.beginsRefresh = 1 := by
  obtain ⟨s, hrun⟩ : ∃ s : Threads,
      (process Reference.crates Reference.cdrs).run (.start Reference.managedRegistry)
        ([.interrupted, .sendStop, .storeControl] ++ .unparkUpdater :: lateUpdater) =
        some s := ⟨_, rfl⟩
  have hruns := Machine.runs_of_run hrun
  obtain ⟨hfour, hone, _⟩ := updater_stops hruns
  exact ⟨s, hruns, le_antisymm hfour (by decide), le_antisymm hone (by decide)⟩

/-! ## A database with applications -/

/-- A refresh that receives an application panics. -/
theorem updateApps_of_application (hcdrs : cdrs.Documented) (hpool : registry.hasPool = true)
    {attempt : Attempt ρ} {rows : List ρ} (hrows : attempt.rows = some rows) (hne : rows ≠ [])
    (hselects : attempt.Selects cdrs) :
    ∃ panic, updateApps X cdrs registry attempt = .error panic := by
  cases attempt with
  | noConnection => cases hrows
  | queryFailed => cases hrows
  | answered frame =>
      have happs : ∃ panic, appsOf X cdrs rows = .error panic := by
        cases htable : appsOf X cdrs rows with
        | error panic => exact ⟨panic, rfl⟩
        | ok table =>
            exact absurd (appsOf_of_selected hcdrs (hselects rows hrows) htable).1 hne
      obtain ⟨panic, happs⟩ := happs
      have hbody : frame.body.bind AppsBody.rows = some rows := hrows
      exact ⟨panic, by simp [updateApps, hpool, hbody, happs, Bind.bind, Except.bind]⟩

/-- So the updater does not survive it. -/
theorem runUpdater_of_application (hcdrs : cdrs.Documented) (hpool : registry.hasPool = true)
    {met : List (Attempt ρ)} {attempt : Attempt ρ} (hmet : attempt ∈ met) {rows : List ρ}
    (hrows : attempt.rows = some rows) (hne : rows ≠ []) (hselects : attempt.Selects cdrs) :
    (runUpdater X cdrs registry met).running = false := by
  induction met using List.reverseRecOn with
  | nil => simp at hmet
  | append_singleton met last ih =>
      rw [runUpdater_concat, Updater.round]
      split
      · rename_i hrunning
        rcases List.mem_append.mp hmet with hbefore | hlast
        · simp [ih hbefore] at hrunning
        · obtain rfl := List.mem_singleton.mp hlast
          obtain ⟨panic, hpanic⟩ := updateApps_of_application (X := X) hcdrs
            ((runUpdater_frame registry met).1.trans hpool) hrows hne hselects
          rw [hpanic]
      · rename_i hstopped
        exact Bool.eq_false_iff.mpr hstopped

/-- In a process that manages its applications, over a database whose answers have
the columns that were selected: once a refresh has received an application, `main`
does not return, and it ends without having joined the gateway. -/
theorem application_prevents_exit (hcdrs : cdrs.Documented) (hpool : registry.hasPool = true)
    (h : (process X cdrs).Runs (.start registry) labels s) (hsignals : .signalFailed ∉ labels)
    {attempt : Attempt ρ} (hmet : .refresh attempt ∈ labels) {rows : List ρ}
    (hrows : attempt.rows = some rows) (hne : rows ≠ []) (hselects : attempt.Selects cdrs) :
    s.main ≠ .returned ∧ .joinGateway ∉ labels := by
  have hstopped : s.updater = .panicked := by
    have hrunning := runUpdater_of_application (X := X) hcdrs hpool (mem_attempts_iff.mpr hmet)
      hrows hne hselects
    simpa [runUpdater_of_runs h] using hrunning
  refine ⟨fun hmain => ?_, fun hjoin => ?_⟩
  · have hjoined := joined_of_runs h hsignals
    simp only [Threads.Joined, hmain] at hjoined
    cases hstopped.symm.trans hjoined.1
  · cases hstopped.symm.trans (updater_exited_of_joinGateway h hsignals hjoin)

/-- The refresh receives a row, and the process is interrupted. -/
def failedExit : List (Action (List (String × Reference.Column))) :=
  [.bind true, .accept, .load true, .refresh (.answered ⟨some ⟨some [databaseRow]⟩⟩), .interrupted,
    .sendStop, .storeControl, .unparkUpdater, .joinUpdater]

/-- The process ends in a panic, with a connection open. -/
theorem failedExit_panics : ∃ s : Threads,
    (process Reference.crates Reference.cdrs).Runs (.start Reference.managedRegistry) failedExit
      s ∧
    s.main = .panicked ∧ s.gateway = .serving 1 ∧ .joinGateway ∉ failedExit := by
  obtain ⟨s, hrun, hmain, hgateway⟩ : ∃ s : Threads,
      (process Reference.crates Reference.cdrs).run (.start Reference.managedRegistry) failedExit =
        some s ∧ s.main = .panicked ∧ s.gateway = .serving 1 := ⟨_, rfl, rfl, rfl⟩
  have hruns := Machine.runs_of_run hrun
  have hselects : (Attempt.answered ⟨some ⟨some [databaseRow]⟩⟩).Selects Reference.cdrs := by
    intro rows hrows row hrow
    cases hrows
    obtain rfl := List.mem_singleton.mp hrow
    rfl
  exact ⟨s, hruns, hmain, hgateway, (application_prevents_exit Reference.cdrs_documented rfl hruns
    (by simp [failedExit]) (by simp [failedExit]) rfl (List.cons_ne_nil _ _) hselects).2⟩

end XorcGateway.Shutdown
