/-
# Machines and their runs

A machine takes labelled steps between its states. What every step preserves
holds wherever a run gets, and a rank that no step raises bounds how often a run
can take the steps that lower it.
-/

import Mathlib.Data.List.Induction
import Mathlib.Order.Basic

namespace Abstract

/-- What each label does in a state, where it can be taken. -/
structure Machine (σ α : Type*) where
  step : σ → α → Option σ

namespace Machine

variable {σ α : Type*} (m : Machine σ α)

/-- The label can be taken. -/
def Enabled (s : σ) (a : α) : Prop := (m.step s a).isSome

/-- A run with its labels. -/
inductive Runs : σ → List α → σ → Prop
  | nil (s : σ) : Runs s [] s
  | cons {s s' s'' : σ} {a : α} {labels : List α} (first : m.step s a = some s')
      (rest : Runs s' labels s'') : Runs s (a :: labels) s''

/-- Where the labels lead, if they can be taken one after the other. -/
def run (s : σ) : List α → Option σ
  | [] => some s
  | a :: labels => (m.step s a).bind fun s' => run s' labels

variable {m} {s s' s'' : σ} {a : α} {labels : List α}

theorem runs_of_run (h : m.run s labels = some s') : m.Runs s labels s' := by
  induction labels generalizing s with
  | nil =>
      obtain rfl := Option.some.inj h
      exact .nil s
  | cons a labels ih =>
      obtain ⟨middle, hfirst, hrest⟩ := Option.bind_eq_some_iff.mp h
      exact .cons hfirst (ih hrest)

namespace Runs

theorem split {first second : List α} (h : m.Runs s (first ++ second) s') :
    ∃ middle, m.Runs s first middle ∧ m.Runs middle second s' := by
  induction first generalizing s with
  | nil => exact ⟨s, .nil s, h⟩
  | cons a first ih =>
      cases h with
      | cons hstep hrest =>
          obtain ⟨middle, hfirst, hsecond⟩ := ih hrest
          exact ⟨middle, .cons hstep hfirst, hsecond⟩

/-- What the steps of a run preserve, together with the labels taken so far, the
run preserves. -/
theorem invariant (I : List α → σ → Prop)
    (hstep : ∀ past s a s', I past s → m.step s a = some s' → I (past ++ [a]) s')
    (h : m.Runs s labels s') (hinit : I [] s) : I labels s' := by
  -- the labels taken so far are carried along
  suffices ∀ past, I past s → I (past ++ labels) s' from this [] hinit
  clear hinit
  induction h with
  | nil => simp
  | @cons s s' s'' a labels hfirst _ ih =>
      intro past hpast
      have hrest := ih (past ++ [a]) (hstep past s a s' hpast hfirst)
      rwa [List.append_assoc, List.singleton_append] at hrest

/-- A rank that no step raises, and some labels lower, bounds how often a run takes
those. -/
theorem countP_le_rank (I : σ → Prop) (p : α → Bool) (rank : σ → ℕ)
    (hstep : ∀ s a s', I s → m.step s a = some s' →
      I s' ∧ rank s' + (if p a then 1 else 0) ≤ rank s)
    (h : m.Runs s labels s') (hinit : I s) : labels.countP p + rank s' ≤ rank s := by
  induction h with
  | nil => simp
  | @cons s s' s'' a labels hfirst _ ih =>
      obtain ⟨hnext, hlower⟩ := hstep s a s' hinit hfirst
      have hrest := ih hnext
      rw [List.countP_cons]
      omega

end Runs

end Machine

end Abstract
