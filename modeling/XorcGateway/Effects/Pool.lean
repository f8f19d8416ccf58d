/-
# Pools of programs over one shared world

Threads are programs that make their calls one at a time, in any interleaving,
against a shared state. A `World` says which answers a state allows and what a
call does to it, failures included. The run relation keeps the whole history of
answered calls.

Two projections carry every proof about a pool. Forgetting the other threads
turns a history into a stepping of one program (`Run.steps`), so facts about a
program hold of each thread whatever the others do. Forgetting the threads turns
it into an evolution of the world (`Run.evolves`).
-/

import Mathlib.Algebra.BigOperators.Group.Finset.Piecewise
import Mathlib.Algebra.Order.BigOperators.Group.Finset
import Mathlib.Data.Set.Card
import Mathlib.Logic.Function.Basic
import XorcGateway.Effects.Program

namespace Effects

universe u

variable {S : Signature.{u}} {ι σ α : Type*}

/-- Which answered calls a state allows, and the states they may lead to. -/
abbrev World (S : Signature.{u}) (σ : Type*) := σ → Event S → σ → Prop

/-- The world's own view of a sequence of answered calls. -/
inductive Evolves (W : World S σ) : σ → List (Event S) → σ → Prop
  | refl (s : σ) : Evolves W s [] s
  | step {s s' s'' : σ} {e : Event S} {t : List (Event S)} (first : W s e s')
      (rest : Evolves W s' t s'') : Evolves W s (e :: t) s''

namespace Evolves

variable {W : World S σ}

@[simp]
theorem nil_iff {s s' : σ} : Evolves W s [] s' ↔ s' = s := by
  refine ⟨fun h => ?_, fun h => ?_⟩
  · cases h
    rfl
  · subst h
    exact .refl _

@[simp]
theorem cons_iff {s s'' : σ} {e : Event S} {t : List (Event S)} :
    Evolves W s (e :: t) s'' ↔ ∃ s', W s e s' ∧ Evolves W s' t s'' := by
  refine ⟨fun h => ?_, fun h => ?_⟩
  · cases h with
    | step first rest => exact ⟨_, first, rest⟩
  · obtain ⟨s', first, rest⟩ := h
    exact .step first rest

theorem append_iff {s s'' : σ} {first second : List (Event S)} :
    Evolves W s (first ++ second) s'' ↔
      ∃ s', Evolves W s first s' ∧ Evolves W s' second s'' := by
  induction first generalizing s with
  | nil => simp
  | cons e first ih =>
      simp only [List.cons_append, cons_iff, ih]
      refine ⟨fun h => ?_, fun h => ?_⟩
      · obtain ⟨s', he, middle, hfirst, hsecond⟩ := h
        exact ⟨middle, ⟨s', he, hfirst⟩, hsecond⟩
      · obtain ⟨middle, ⟨s', he, hfirst⟩, hsecond⟩ := h
        exact ⟨s', he, middle, hfirst, hsecond⟩

/-- Calls that leave the state alone. -/
theorem of_loop {s : σ} {t : List (Event S)} (h : ∀ e ∈ t, W s e s) : Evolves W s t s := by
  induction t with
  | nil => exact .refl s
  | cons e t ih =>
      exact .step (h e List.mem_cons_self) (ih fun e he => h e (List.mem_cons_of_mem _ he))

/-- An evolution of a world is one of every world that allows more. -/
theorem mono {W' : World S σ} (hW : ∀ s e s', W s e s' → W' s e s') {s s' : σ}
    {t : List (Event S)} (h : Evolves W s t s') : Evolves W' s t s' := by
  induction h with
  | refl => exact .refl _
  | step first _ ih => exact .step (hW _ _ _ first) ih

/-- What every answered call preserves, a whole evolution preserves. -/
theorem preserves (Inv : σ → Prop) {s s' : σ} {t : List (Event S)}
    (hstep : ∀ e ∈ t, ∀ before after, W before e after → Inv before → Inv after)
    (h : Evolves W s t s') (hinit : Inv s) : Inv s' := by
  induction h with
  | refl => exact hinit
  | step first rest ih =>
      exact ih (fun e he => hstep e (List.mem_cons_of_mem _ he))
        (hstep _ List.mem_cons_self _ _ first hinit)

/-- An amount that every call advances by its own share advances by their total. -/
theorem adds {M : Type*} [AddMonoid M] {amount : σ → M} {share : Event S → M}
    (hstep : ∀ s e s', W s e s' → amount s' = amount s + share e) {s s' : σ}
    {t : List (Event S)} (h : Evolves W s t s') :
    amount s' = amount s + (t.map share).sum := by
  induction h with
  | refl => simp
  | step first _ ih => rw [ih, hstep _ _ _ first, List.map_cons, List.sum_cons, add_assoc]

end Evolves

/-- A shared state and the threads that run against it. -/
structure Pool (S : Signature.{u}) (ι σ α : Type*) where
  state : σ
  threads : ι → Program S α

namespace Pool

variable [DecidableEq ι] {W : World S σ} {P Q R : Pool S ι σ α}

/-- The part of a history made by one thread. -/
def own (i : ι) (history : List (ι × Event S)) : List (Event S) :=
  history.filterMap fun x => if x.1 = i then some x.2 else none

@[simp]
theorem own_nil (i : ι) : own i ([] : List (ι × Event S)) = [] := rfl

@[simp]
theorem own_append (i : ι) (first second : List (ι × Event S)) :
    own i (first ++ second) = own i first ++ own i second :=
  List.filterMap_append

@[simp]
theorem own_cons_self (i : ι) (e : Event S) (history : List (ι × Event S)) :
    own i ((i, e) :: history) = e :: own i history := by
  simp [own]

theorem own_cons_of_ne {i j : ι} (h : j ≠ i) (e : Event S) (history : List (ι × Event S)) :
    own i ((j, e) :: history) = own i history := by
  simp [own, h]

theorem mem_own_iff {i : ι} {e : Event S} {history : List (ι × Event S)} :
    e ∈ own i history ↔ (i, e) ∈ history := by
  simp [own]

omit [DecidableEq ι] in
/-- Where nothing is read off a history twice, it is read off one thread. -/
theorem thread_unique {β : Type*} {f : Event S → Option β} {history : List (ι × Event S)}
    (hnodup : (history.filterMap fun x => f x.2).Nodup) {i j : ι} {e e' : Event S} {b : β}
    (hi : (i, e) ∈ history) (hj : (j, e') ∈ history) (he : f e = some b) (he' : f e' = some b) :
    i = j := by
  by_contra hne
  have hpairwise := List.pairwise_filterMap.mp hnodup
  have hsymm : Std.Symm fun x y : ι × Event S =>
      ∀ b, f x.2 = some b → ∀ b', f y.2 = some b' → b ≠ b' :=
    ⟨fun x y hxy b hb b' hb' => (hxy b' hb' b hb).symm⟩
  exact hpairwise.forall hi hj (fun heq => hne (Prod.ext_iff.mp heq).1) b he b he' rfl

/-- Runs of a pool: at each step some thread that is waiting on a call gets an
answer the world allows. No fairness is assumed. -/
inductive Run (W : World S σ) : Pool S ι σ α → List (ι × Event S) → Pool S ι σ α → Prop
  | refl (P : Pool S ι σ α) : Run W P [] P
  | step {P Q : Pool S ι σ α} {history : List (ι × Event S)} (run : Run W P history Q)
      (i : ι) {c : S.Call} {next : S.Answer c → Program S α} (answer : S.Answer c) {s : σ}
      (waiting : Q.threads i = .call c next) (allowed : W Q.state ⟨c, answer⟩ s) :
      Run W P (history ++ [(i, ⟨c, answer⟩)])
        ⟨s, Function.update Q.threads i (next answer)⟩

/-- Each thread, seen alone, steps through its own program. -/
theorem Run.steps {history : List (ι × Event S)} (h : Run W P history Q) (i : ι) :
    Program.Steps (P.threads i) (own i history) (Q.threads i) := by
  induction h with
  | refl => exact .refl _
  | @step Q history run j c next answer s waiting _ ih =>
      rw [own_append]
      by_cases hij : j = i
      · subst j
        have hlast : Program.Steps (Q.threads i) [⟨c, answer⟩] (next answer) := by
          rw [waiting]
          exact .call answer (.refl _)
        simpa using ih.trans hlast
      · simpa [own_cons_of_ne hij, Function.update_of_ne (Ne.symm hij)] using ih

/-- A thread that has ended made a complete run of its program. -/
theorem Run.runs {history : List (ι × Event S)} (h : Run W P history Q) {i : ι}
    {r : Outcome α} (hended : Q.threads i = Program.ofOutcome r) :
    Program.Runs (P.threads i) (own i history) r := by
  have hsteps := h.steps i
  rwa [hended] at hsteps

/-- The world, seen alone, evolves by the calls of all threads. -/
theorem Run.evolves {history : List (ι × Event S)} (h : Run W P history Q) :
    Evolves W P.state (history.map Prod.snd) Q.state := by
  induction h with
  | refl => exact .refl _
  | @step Q history run i c next answer s _ allowed ih =>
      rw [List.map_append, Evolves.append_iff]
      exact ⟨Q.state, ih, .step allowed (.refl s)⟩

theorem Run.trans {first second : List (ι × Event S)} (hfirst : Run W P first Q)
    (hsecond : Run W Q second R) : Run W P (first ++ second) R := by
  induction hsecond with
  | refl => simpa using hfirst
  | step run i answer waiting allowed ih =>
      rw [← List.append_assoc]
      exact .step ih i answer waiting allowed

/-- A run against a world is a run against every world that allows more. -/
theorem Run.mono {W' : World S σ} (hW : ∀ s e s', W s e s' → W' s e s')
    {history : List (ι × Event S)} (h : Run W P history Q) : Run W' P history Q := by
  induction h with
  | refl => exact .refl _
  | step _ i answer waiting allowed ih => exact .step ih i answer waiting (hW _ _ _ allowed)

/-- A history can be cut anywhere, and the pool reached there is one the run
passed through. -/
theorem Run.split {first second : List (ι × Event S)} (h : Run W P (first ++ second) R) :
    ∃ Q, Run W P first Q ∧ Run W Q second R := by
  generalize hhistory : first ++ second = history at h
  induction h generalizing second with
  | refl =>
      obtain ⟨rfl, rfl⟩ := List.append_eq_nil_iff.mp hhistory
      exact ⟨_, .refl _, .refl _⟩
  | @step R history run i c next answer s waiting allowed ih =>
      rcases List.eq_nil_or_concat second with rfl | ⟨init, last, rfl⟩
      · rw [List.append_nil] at hhistory
        subst hhistory
        exact ⟨_, .step run i answer waiting allowed, .refl _⟩
      · rw [List.concat_eq_append, ← List.append_assoc] at hhistory
        obtain ⟨hinit, hlast⟩ := List.append_inj' hhistory rfl
        obtain rfl : last = (i, ⟨c, answer⟩) := by simpa using hlast
        obtain ⟨Q, hfirst, hsecond⟩ := ih hinit
        refine ⟨Q, hfirst, ?_⟩
        rw [List.concat_eq_append]
        exact .step hsecond i answer waiting allowed

/-- A call that was made was allowed by the world of some earlier pool of the
same run. -/
theorem Run.allowed {first second : List (ι × Event S)} {i : ι} {e : Event S}
    (h : Run W P (first ++ (i, e) :: second) R) :
    ∃ Q after, Run W P first Q ∧ W Q.state e after.state ∧ Run W after second R := by
  obtain ⟨Q, hfirst, hrest⟩ := h.split
  rw [← List.singleton_append] at hrest
  obtain ⟨after, hone, hsecond⟩ := hrest.split
  refine ⟨Q, after, hfirst, ?_, hsecond⟩
  have hevolves := hone.evolves
  simp only [List.map_cons, List.map_nil, Evolves.cons_iff, Evolves.nil_iff] at hevolves
  obtain ⟨s, hs, hafter⟩ := hevolves
  rwa [hafter]

/-- Any stepping the world allows can be taken by one thread while the others
stand still. -/
theorem run_thread {s s' : σ} {threads : ι → Program S α} {i : ι} {t : List (Event S)}
    {p q : Program S α} (hsteps : Program.Steps p t q) (hthread : threads i = p)
    (hworld : Evolves W s t s') :
    Run W ⟨s, threads⟩ (t.map (Prod.mk i)) ⟨s', Function.update threads i q⟩ := by
  induction hsteps generalizing s threads with
  | refl p =>
      obtain rfl := Evolves.nil_iff.mp hworld
      rw [← hthread, Function.update_eq_self]
      exact .refl _
  | @call c next answer t q rest ih =>
      obtain ⟨middle, hfirst, hrest⟩ := Evolves.cons_iff.mp hworld
      have hone : Run W ⟨s, threads⟩ [(i, ⟨c, answer⟩)]
          ⟨middle, Function.update threads i (next answer)⟩ :=
        .step (.refl _) i answer hthread hfirst
      have htail := @ih middle (Function.update threads i (next answer))
        (Function.update_self ..) hrest
      rw [Function.update_idem] at htail
      simpa using hone.trans htail

/-- Two threads can take their steps one after the other. -/
theorem run_two_threads {s middle s' : σ} {threads : ι → Program S α} {i j : ι} (hne : j ≠ i)
    {t t' : List (Event S)} {q q' : Program S α} (hfirst : Program.Steps (threads i) t q)
    (hsecond : Program.Steps (threads j) t' q') (hworld : Evolves W s t middle)
    (hworld' : Evolves W middle t' s') :
    Run W ⟨s, threads⟩ (t.map (Prod.mk i) ++ t'.map (Prod.mk j))
      ⟨s', Function.update (Function.update threads i q) j q'⟩ := by
  have hwaiting : Function.update threads i q j = threads j := Function.update_of_ne hne q threads
  exact (run_thread hfirst rfl hworld).trans (run_thread hsecond hwaiting hworld')

/-! ## Shares of a total -/

section

variable {M : Type*} [AddCommMonoid M]

/-- A total over a history is the sum of what each thread has in it. -/
theorem sum_eq_sum_own (f : Event S → M) {history : List (ι × Event S)} {threads : Finset ι}
    (h : ∀ x ∈ history, x.1 ∈ threads) :
    ((history.map Prod.snd).map f).sum = ∑ i ∈ threads, ((own i history).map f).sum := by
  induction history with
  | nil => simp
  | cons x history ih =>
      obtain ⟨j, e⟩ := x
      have hshare : ∀ i, ((own i ((j, e) :: history)).map f).sum =
          (if j = i then f e else 0) + ((own i history).map f).sum := by
        intro i
        by_cases hij : j = i
        · subst j
          simp
        · simp [own_cons_of_ne hij, hij]
      have hmem := h (j, e) List.mem_cons_self
      have hrest := ih fun x hx => h x (List.mem_cons_of_mem _ hx)
      simp only [List.map_cons, List.sum_cons, hrest, hshare]
      rw [Finset.sum_add_distrib, Finset.sum_ite_eq, if_pos hmem]

/-- Where every thread has at most as much of one total as of another, so has the
history. -/
theorem sum_le_sum_of_own [PartialOrder M] [IsOrderedAddMonoid M] {f g : Event S → M}
    {history : List (ι × Event S)}
    (h : ∀ i, ((own i history).map f).sum ≤ ((own i history).map g).sum) :
    ((history.map Prod.snd).map f).sum ≤ ((history.map Prod.snd).map g).sum := by
  have hthreads : ∀ x ∈ history, x.1 ∈ (history.map Prod.fst).toFinset := fun x hx =>
    List.mem_toFinset.mpr (List.mem_map_of_mem hx)
  rw [sum_eq_sum_own f hthreads, sum_eq_sum_own g hthreads]
  exact Finset.sum_le_sum fun i _ => h i

end

end Pool

end Effects
