/-
# Debts

Two amounts are read off every answered call: what falls due with it, and what
it pays. A program owes what it still has to pay before it ends, whatever it is
answered on the way. A program that starts without debt has, wherever it stands,
paid what fell due but for what it owes there; so a pool of such programs has
paid everything once its threads have ended.
-/

import Mathlib.Algebra.Order.Monoid.Canonical.Defs
import XorcGateway.Effects.Extend
import XorcGateway.Effects.Pool

namespace Effects

universe u w

variable {S T : Signature.{u}} {α β : Type w} {M : Type*} [AddCommMonoid M]
  {due paid : Event S → M}

namespace Program

/-- `Owes due paid d p`: by the time `p` ends it has paid `d` on top of what falls
due on the way. -/
inductive Owes (due paid : Event S → M) : M → Program S α → Prop
  | done (value : α) : Owes due paid 0 (.done value)
  | panic : Owes due paid 0 .panic
  | call {d : M} {c : S.Call} {next : S.Answer c → Program S α} (rest : S.Answer c → M)
      (hrest : ∀ answer, rest answer + paid ⟨c, answer⟩ = d + due ⟨c, answer⟩)
      (hnext : ∀ answer, Owes due paid (rest answer) (next answer)) :
      Owes due paid d (.call c next)

namespace Owes

/-- A call that is neither due nor paid. -/
theorem skip {d : M} {c : S.Call} {next : S.Answer c → Program S α}
    (hc : ∀ answer, due ⟨c, answer⟩ = 0 ∧ paid ⟨c, answer⟩ = 0)
    (hnext : ∀ answer, Owes due paid d (next answer)) : Owes due paid d (.call c next) :=
  .call (fun _ => d) (fun answer => by rw [(hc answer).1, (hc answer).2]) hnext

/-- What falls due with a call is owed behind it. -/
theorem fallDue {c : S.Call} {next : S.Answer c → Program S α}
    (hpaid : ∀ answer, paid ⟨c, answer⟩ = 0)
    (hnext : ∀ answer, Owes due paid (due ⟨c, answer⟩) (next answer)) :
    Owes due paid 0 (.call c next) :=
  .call (fun answer => due ⟨c, answer⟩) (fun answer => by rw [hpaid, add_zero, zero_add]) hnext

/-- A call that pays exactly what is owed. -/
theorem pay {d : M} {c : S.Call} {next : S.Answer c → Program S α}
    (hdue : ∀ answer, due ⟨c, answer⟩ = 0) (hpaid : ∀ answer, paid ⟨c, answer⟩ = d)
    (hnext : ∀ answer, Owes due paid 0 (next answer)) : Owes due paid d (.call c next) :=
  .call (fun _ => 0) (fun answer => by rw [hpaid, hdue, zero_add, add_zero]) hnext

theorem bind {d : M} {p : Program S α} {f : α → Program S β} (hp : Owes due paid d p)
    (hf : ∀ value, Owes due paid 0 (f value)) : Owes due paid d (p.bind f) := by
  induction hp with
  | done value => exact hf value
  | panic => exact .panic
  | call rest hrest _ ih => exact .call rest hrest ih

/-- A program whose calls are neither due nor paid. -/
theorem of_confined {allowed : S.Call → Prop} {p : Program S α} (hp : Confined allowed p)
    (hcalls : ∀ e : Event S, allowed e.call → due e = 0 ∧ paid e = 0) : Owes due paid 0 p := by
  induction hp with
  | done value => exact .done value
  | panic => exact .panic
  | call hc _ ih => exact .skip (fun answer => hcalls _ hc) ih

/-- The same program among calls of two kinds. -/
theorem left {due paid : Event (S.sum T) → M} {d : M} {p : Program S α}
    (hp : Owes (fun e => due e.left) (fun e => paid e.left) d p) : Owes due paid d p.left := by
  induction hp with
  | done value => exact .done value
  | panic => exact .panic
  | call rest hrest _ ih => exact .call rest hrest ih

/-- At every point of a run, what is paid and what is still owed there make up
what has fallen due. -/
theorem of_steps {d : M} {p q : Program S α} {t : List (Event S)} (hp : Owes due paid d p)
    (h : Steps p t q) :
    ∃ d', Owes due paid d' q ∧ d' + (t.map paid).sum = d + (t.map due).sum := by
  induction h generalizing d with
  | refl => exact ⟨d, hp, by simp⟩
  | @call c next answer t q _ ih =>
      cases hp with
      | call rest hrest hnext =>
          obtain ⟨d', hq, hd'⟩ := ih (hnext answer)
          refine ⟨d', hq, ?_⟩
          simp only [List.map_cons, List.sum_cons]
          rw [add_left_comm, hd', ← add_assoc, add_comm (paid _), hrest, add_assoc]

/-- A program that has ended owes nothing. -/
theorem eq_zero_of_ended {d : M} {r : Outcome α} (h : Owes due paid d (ofOutcome r)) : d = 0 := by
  cases r <;> cases h <;> rfl

end Owes

end Program

namespace Pool

variable {ι σ : Type*} [DecidableEq ι] {W : World S σ} {P Q : Pool S ι σ α}
  {history : List (ι × Event S)}

/-- In every state of a pool whose threads start without debt, what is paid and
what the threads still owe make up what has fallen due. -/
theorem Run.exists_debts (hthreads : ∀ i, Program.Owes due paid 0 (P.threads i))
    (h : Run W P history Q) :
    ∃ debt : ι → M, (∀ i, Program.Owes due paid (debt i) (Q.threads i)) ∧
      ∑ i ∈ (history.map Prod.fst).toFinset, debt i + ((history.map Prod.snd).map paid).sum =
        ((history.map Prod.snd).map due).sum := by
  have hown := fun i => (hthreads i).of_steps (h.steps i)
  choose debt howes hdebt using hown
  refine ⟨debt, howes, ?_⟩
  have hmem : ∀ x ∈ history, x.1 ∈ (history.map Prod.fst).toFinset := fun x hx =>
    List.mem_toFinset.mpr (List.mem_map_of_mem hx)
  rw [sum_eq_sum_own paid hmem, sum_eq_sum_own due hmem, ← Finset.sum_add_distrib]
  exact Finset.sum_congr rfl fun i _ => by rw [hdebt, zero_add]

/-- Once the threads that have made calls have ended, everything is paid. -/
theorem Run.paid_eq_due (hthreads : ∀ i, Program.Owes due paid 0 (P.threads i))
    (h : Run W P history Q)
    (hended : ∀ x ∈ history, ∃ r, Q.threads x.1 = Program.ofOutcome r) :
    ((history.map Prod.snd).map paid).sum = ((history.map Prod.snd).map due).sum := by
  obtain ⟨debt, howes, hsum⟩ := h.exists_debts hthreads
  rw [← hsum, Finset.sum_eq_zero, zero_add]
  intro i hi
  obtain ⟨x, hx, rfl⟩ := List.mem_map.mp (List.mem_toFinset.mp hi)
  obtain ⟨r, hr⟩ := hended x hx
  have hlast := howes x.1
  rw [hr] at hlast
  exact hlast.eq_zero_of_ended

/-- Nothing is paid before it is due. -/
theorem Run.paid_le_due [PartialOrder M] [CanonicallyOrderedAdd M]
    (hthreads : ∀ i, Program.Owes due paid 0 (P.threads i)) (h : Run W P history Q) :
    ((history.map Prod.snd).map paid).sum ≤ ((history.map Prod.snd).map due).sum := by
  obtain ⟨debt, _, hsum⟩ := h.exists_debts hthreads
  rw [← hsum]
  exact le_add_self

end Pool

end Effects
