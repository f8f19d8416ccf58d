/-
# From start to exit

The main thread starts the updater and the gateway, waits for an interrupt, tells
both to stop and joins them, one after the other. The updater looks at the control
flag before each refresh and parks for a minute after it; the gateway serves
connections until it is told to stop or its listener fails, and then waits for the
connections that are left.

The steps begin once `APP_REGISTRY` is created. The source creates it on its first
use, by the updater or by a request, and creating it may panic.

The flag is written and read with `Ordering::Relaxed`: only what the updater reads
behind a park that consumed the main thread's `unpark` is sure to be what that
thread wrote before.
-/

import XorcGateway.Abstract.Machine
import XorcGateway.Registry.Refresh

namespace XorcGateway.Shutdown

open Abstract

/-- What the main thread does next. -/
inductive MainThread
  | /-- Waits for SIGINT. -/
    waiting
  | /-- `server_tx.send(())` -/
    sending
  | /-- `control.store(false, Ordering::Relaxed)` -/
    storing
  | unparkingUpdater
  | joiningUpdater
  | unparkingGateway
  | joiningGateway
  | returned
  | panicked
  deriving DecidableEq

/-- What the updater thread does next. -/
inductive UpdaterThread
  | /-- `control.load(Ordering::Relaxed)` -/
    checking
  | /-- `self.update_apps()` -/
    refreshing
  | /-- `thread::park_timeout(Duration::from_secs(60))` -/
    parked
  | exited
  | panicked
  deriving DecidableEq

/-- What the gateway thread does, with the connections that are open. -/
inductive GatewayThread
  | /-- Reads `PORT`, builds the runtime and binds the address. -/
    starting
  | serving (connections : ℕ)
  | /-- `runtime.shutdown_on_idle()` -/
    draining (connections : ℕ)
  | exited
  | panicked
  deriving DecidableEq

structure Threads where
  main : MainThread
  updater : UpdaterThread
  gateway : GatewayThread
  /-- `APP_REGISTRY`, once it is created. -/
  registry : SharedRegistry
  control : Bool
  /-- A message stands in the channel to the gateway. -/
  stopSent : Bool
  /-- The updater's park token. -/
  token : Bool
  /-- The updater has seen what came before the `unpark`. -/
  synchronised : Bool

inductive Action (ρ : Type)
  | /-- SIGINT arrives. -/
    interrupted
  | /-- The stream of signals fails. -/
    signalFailed
  | sendStop
  | storeControl
  | unparkUpdater
  | joinUpdater
  | unparkGateway
  | joinGateway
  | /-- The updater reads the flag. -/
    load (control : Bool)
  | refresh (attempt : Attempt ρ)
  | /-- The updater leaves its park, by a token or not. -/
    wake (timedOut : Bool)
  | /-- The gateway is up, or panics on the way. -/
    bind (succeeds : Bool)
  | accept
  | close
  | /-- The listener fails. -/
    serverFailed
  | /-- The gateway receives the message. -/
    stop
  | /-- No connection is left. -/
    idle

namespace Threads

/-- The threads at start, with the registry that was created. -/
def start (registry : SharedRegistry) : Threads where
  main := .waiting
  updater := .checking
  gateway := .starting
  registry := registry
  control := true
  stopSent := false
  token := false
  synchronised := false

variable (X : Crates) {ρ : Type} (cdrs : Cdrs ρ) (self : Threads)

/-- The process ends with its main thread. -/
def isOver : Bool :=
  match self.main with
  | .returned => true
  | .panicked => true
  | _ => false

def mainStep : Action ρ → Option Threads
  | .interrupted =>
      if self.main = .waiting then some { self with main := .sending } else none
  | .signalFailed =>
      if self.main = .waiting then some { self with main := .returned } else none
  | .sendStop =>
      if self.main = .sending then some { self with main := .storing, stopSent := true }
      else none
  | .storeControl =>
      if self.main = .storing then
        some { self with main := .unparkingUpdater, control := false }
      else none
  | .unparkUpdater =>
      if self.main = .unparkingUpdater then
        some { self with main := .joiningUpdater, token := true }
      else none
  | .joinUpdater =>
      match self.main, self.updater with
      | .joiningUpdater, .exited => some { self with main := .unparkingGateway }
      -- `thread.join().unwrap()`
      | .joiningUpdater, .panicked => some { self with main := .panicked }
      | _, _ => none
  | .unparkGateway =>
      if self.main = .unparkingGateway then some { self with main := .joiningGateway } else none
  | .joinGateway =>
      match self.main, self.gateway with
      | .joiningGateway, .exited => some { self with main := .returned }
      | .joiningGateway, .panicked => some { self with main := .panicked }
      | _, _ => none
  | _ => none

def updaterStep : Action ρ → Option Threads
  | .load control =>
      -- an old value may be read until the updater has synchronised
      if self.updater = .checking ∧
          (control = self.control ∨ control = true ∧ self.synchronised = false) then
        some { self with updater := if control then .refreshing else .exited }
      else none
  | .refresh attempt =>
      if self.updater = .refreshing then
        match AppRegistry.updateApps X cdrs self.registry attempt with
        | .ok (registry, _) => some { self with updater := .parked, registry := registry }
        | .error _ => some { self with updater := .panicked }
      else none
  | .wake timedOut =>
      if self.updater = .parked ∧ (timedOut = true ∨ self.token = true) then
        some { self with
          updater := .checking
          token := false
          synchronised := self.synchronised || self.token }
      else none
  | _ => none

def gatewayStep : Action ρ → Option Threads
  | .bind succeeds =>
      if self.gateway = .starting then
        some { self with gateway := if succeeds then .serving 0 else .panicked }
      else none
  | .accept =>
      match self.gateway with
      | .serving n => some { self with gateway := .serving (n + 1) }
      | _ => none
  | .close =>
      match self.gateway with
      | .serving (n + 1) => some { self with gateway := .serving n }
      | .draining (n + 1) => some { self with gateway := .draining n }
      | _ => none
  | .serverFailed =>
      match self.gateway with
      | .serving n => some { self with gateway := .draining n }
      | _ => none
  | .stop =>
      match self.gateway, self.stopSent with
      | .serving n, true => some { self with gateway := .draining n }
      | _, _ => none
  | .idle =>
      match self.gateway with
      | .draining 0 => some { self with gateway := .exited }
      | _ => none
  | _ => none

end Threads

/-- The process, one step of one thread at a time. -/
def process (X : Crates) {ρ : Type} (cdrs : Cdrs ρ) : Machine Threads (Action ρ) where
  step self action :=
    if self.isOver then none
    else
      (self.mainStep action).or ((self.updaterStep X cdrs action).or (self.gatewayStep action))

end XorcGateway.Shutdown
