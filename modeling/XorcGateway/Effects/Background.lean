/-
# Worlds that move by themselves

Between two calls a state may change without anybody calling: another part of the
system works in the background. Where the calls themselves change nothing, a run
moves as the background does, and every answer was given in some state that the
background reached.
-/

import Mathlib.Logic.Relation
import XorcGateway.Effects.Pool

namespace Effects

open Relation

universe u

variable {S : Signature.{u}} {ι σ α : Type*}

/-- Any number of background moves in front of a call. -/
def World.amid (background : σ → σ → Prop) (W : World S σ) : World S σ :=
  fun s e s' => ∃ m, ReflTransGen background s m ∧ W m e s'

/-- Calls change nothing. -/
def World.IsPassive (W : World S σ) : Prop :=
  ∀ s e s', W s e s' → s' = s

variable {background : σ → σ → Prop} {W : World S σ}

/-- The background may rest. -/
theorem World.amid_of (s : σ) (e : Event S) (s' : σ) (h : W s e s') :
    World.amid background W s e s' :=
  ⟨s, .refl, h⟩

/-- Among passive calls only the background moves. -/
theorem Evolves.reflTransGen_of_passive (hW : World.IsPassive W) {s s' : σ} {t : List (Event S)}
    (h : Evolves (World.amid background W) s t s') : ReflTransGen background s s' := by
  induction h with
  | refl => exact .refl
  | step first _ ih =>
      obtain ⟨m, hmoves, hcall⟩ := first
      rw [hW _ _ _ hcall] at ih
      exact hmoves.trans ih

namespace Pool

variable [DecidableEq ι] {P Q : Pool S ι σ α}

/-- A call that was made got its answer in a state on the background's way. -/
theorem Run.answered (hW : World.IsPassive W) {history : List (ι × Event S)}
    (h : Run (World.amid background W) P history Q) {i : ι} {e : Event S}
    (hmem : (i, e) ∈ history) :
    ∃ m, ReflTransGen background P.state m ∧ W m e m ∧ ReflTransGen background m Q.state := by
  obtain ⟨first, second, rfl⟩ := List.append_of_mem hmem
  obtain ⟨M, after, hfirst, ⟨m, hmoves, hcall⟩, hsecond⟩ := h.allowed
  have hafter := hW _ _ _ hcall
  rw [hafter] at hcall
  exact ⟨m, (hfirst.evolves.reflTransGen_of_passive hW).trans hmoves, hcall,
    hafter ▸ hsecond.evolves.reflTransGen_of_passive hW⟩

end Pool

end Effects
