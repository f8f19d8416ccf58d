/-
# The running process

The requests of a process share one registry with the thread that refreshes it.
Loading the table is one read of an atomic cell, and so is a refresh's write of
it: a request sees the table of some refresh, and any number of refreshes may
happen between two of its calls.
-/

import XorcGateway.Effects.Background
import XorcGateway.Registry.Refresh
import XorcGateway.Service

namespace XorcGateway

open Effects Events Rust Relation

namespace AppRegistry

variable (X : Crates) {ρ : Type} (cdrs : Cdrs ρ)

/-- A round of the updater that meets one of these attempts. -/
def Updater.Refreshes (met : Attempt ρ → Prop) (self refreshed : Updater) : Prop :=
  ∃ attempt, met attempt ∧ refreshed = self.round X cdrs attempt

/-- What a call finds of the registry: the table, if it loads it. -/
def Updater.Shows (self : Updater) : Event ServiceCalls → Prop
  | ⟨.inl .loadApps, apps⟩ => apps = self.registry.apps
  | _ => True

/-- A request changes nothing in the registry. -/
def Updater.serving : World ServiceCalls Updater :=
  fun self e served => self.Shows e ∧ served = self

/-- Requests among refreshes. -/
def processWorld (met : Attempt ρ → Prop) : World ServiceCalls Updater :=
  World.amid (Updater.Refreshes X cdrs met) Updater.serving

theorem Updater.serving_isPassive : World.IsPassive Updater.serving :=
  fun _ _ _ h => h.2

variable {X cdrs}

/-- The refreshes of the background are a run of the updater. -/
theorem reflTransGen_refreshes_iff {met : Attempt ρ → Prop} {registry : SharedRegistry}
    {self : Updater} :
    ReflTransGen (Updater.Refreshes X cdrs met) ⟨registry, true⟩ self ↔
      ∃ attempts, (∀ attempt ∈ attempts, met attempt) ∧
        self = runUpdater X cdrs registry attempts := by
  constructor
  · intro h
    induction h with
    | refl => exact ⟨[], by simp, rfl⟩
    | tail _ hround ih =>
        obtain ⟨attempts, hmet, rfl⟩ := ih
        obtain ⟨attempt, hattempt, rfl⟩ := hround
        refine ⟨attempts ++ [attempt], ?_, (runUpdater_concat ..).symm⟩
        simpa [or_imp, forall_and] using ⟨hmet, hattempt⟩
  · rintro ⟨attempts, hmet, rfl⟩
    induction attempts using List.reverseRecOn with
    | nil => exact .refl
    | append_singleton attempts attempt ih =>
        rw [runUpdater_concat]
        exact (ih fun other hother => hmet other (List.mem_append_left _ hother)).tail
          ⟨attempt, hmet attempt (by simp), rfl⟩

/-- A table a request has loaded is the one some refreshes have left. -/
theorem loaded_of_run {ι : Type} [DecidableEq ι] {met : Attempt ρ → Prop}
    {registry : SharedRegistry} {P Q : Pool ServiceCalls ι Updater Response}
    {history : List (ι × Event ServiceCalls)} (hstart : P.state = ⟨registry, true⟩)
    (hrun : Pool.Run (processWorld X cdrs met) P history Q) {j : ι}
    {apps : HashMap String Application}
    (hmem : (j, (⟨.inl .loadApps, apps⟩ : Event ServiceCalls)) ∈ history) :
    ∃ attempts, (∀ attempt ∈ attempts, met attempt) ∧
      apps = (runUpdater X cdrs registry attempts).registry.apps := by
  obtain ⟨self, hmoves, ⟨hshows, _⟩, _⟩ := hrun.answered Updater.serving_isPassive hmem
  rw [hstart, reflTransGen_refreshes_iff] at hmoves
  obtain ⟨attempts, hmet, rfl⟩ := hmoves
  exact ⟨attempts, hmet, hshows⟩

/-- A request can be played through while nothing is refreshed. -/
theorem evolves_process {met : Attempt ρ → Prop} {self : Updater} {replies : Replies}
    (happs : replies.apps = self.registry.apps) (p : Request Response) :
    Evolves (processWorld X cdrs met) self ((p.exec replies.reply).1.map Event.left) self := by
  refine Evolves.of_loop fun e he => World.amid_of _ _ _ ⟨?_, rfl⟩
  obtain ⟨made, hmade, rfl⟩ := List.mem_map.mp he
  rw [Program.answer_of_mem_exec hmade]
  cases made.call with
  | loadApps => exact happs
  | _ => trivial

end AppRegistry

end XorcGateway
