/-
# Answers a program cannot tell apart

A program that goes on in the same way after either of two answers gives nothing
away about which one it got. Threads that are blind to a difference between two
worlds behave in the one as they do in the other: each of their runs can be had
with the other world's answers, with the same calls in the same order and the same
ends.
-/

import XorcGateway.Effects.Background
import XorcGateway.Effects.Extend

namespace Effects

open Relation

universe u w

variable {S T : Signature.{u}} {ι σ τ α : Type*} {alike : ∀ c, S.Answer c → S.Answer c → Prop}

/-- The same call, with answers that are alike. -/
inductive Event.IsAlike (alike : ∀ c, S.Answer c → S.Answer c → Prop) : Event S → Event S → Prop
  | intro {c : S.Call} {answer answer' : S.Answer c} (h : alike c answer answer') :
      IsAlike alike ⟨c, answer⟩ ⟨c, answer'⟩

/-- Calls of the second kind have to be answered the same. -/
def alikeLeft (alike : ∀ c, S.Answer c → S.Answer c → Prop) :
    ∀ c, (S.sum T).Answer c → (S.sum T).Answer c → Prop
  | .inl c => alike c
  | .inr _ => Eq

namespace Program

/-- The program does not tell answers apart that are alike. -/
inductive Blind (alike : ∀ c, S.Answer c → S.Answer c → Prop) {α : Type w} : Program S α → Prop
  | done (value : α) : Blind alike (.done value)
  | panic : Blind alike .panic
  | call {c : S.Call} {next : S.Answer c → Program S α}
      (hsame : ∀ answer answer', alike c answer answer' → next answer = next answer')
      (hnext : ∀ answer, Blind alike (next answer)) : Blind alike (.call c next)

namespace Blind

variable {p q : Program S α} {t t' : List (Event S)}

theorem bind {β : Type _} {f : α → Program S β} (hp : Blind alike p)
    (hf : ∀ value, Blind alike (f value)) : Blind alike (p.bind f) := by
  induction hp with
  | done value => exact hf value
  | panic => exact .panic
  | call hsame _ ih =>
      apply Blind.call
      · intro answer answer' h
        rw [hsame answer answer' h]
      · exact ih

/-- Among calls of two kinds the program is as blind as before. -/
theorem left (hp : Blind alike p) : Blind (alikeLeft alike) (p.left (T := T)) := by
  induction hp with
  | done value => exact .done value
  | panic => exact .panic
  | call hsame _ ih =>
      apply Blind.call
      · intro answer answer' h
        rw [hsame answer answer' h]
      · exact ih

/-- A program stays blind. -/
theorem of_steps (hp : Blind alike p) (h : Steps p t q) : Blind alike q := by
  induction h with
  | refl => exact hp
  | call answer _ ih =>
      cases hp with
      | call _ hnext => exact ih (hnext answer)

end Blind

/-- A program that only makes calls whose answers are alike if they are the same is
blind. -/
theorem Confined.blind {allowed : S.Call → Prop} {p : Program S α} (hp : Confined allowed p)
    (h : ∀ c, allowed c → ∀ answer answer', alike c answer answer' → answer = answer') :
    Blind alike p := by
  induction hp with
  | done value => exact .done value
  | panic => exact .panic
  | @call c next hc _ ih =>
      apply Blind.call
      · intro answer answer' halike
        rw [h c hc answer answer' halike]
      · exact ih

end Program

namespace Pool

open Program

variable [DecidableEq ι] {W : World S σ} {W' : World S τ} {P Q : Pool S ι σ α}

/-- The second world can follow the first: whatever the first one answers, the second
can answer alike. -/
def Follows (alike : ∀ c, S.Answer c → S.Answer c → Prop) (related : σ → τ → Prop)
    (W : World S σ) (W' : World S τ) : Prop :=
  ∀ s s' e after, related s s' → W s e after →
    ∃ e' after', Event.IsAlike alike e e' ∧ W' s' e' after' ∧ related after after'

/-- Worlds that move by themselves follow one another if their moves and their answers
do. -/
theorem Follows.amid {related : σ → τ → Prop} {background : σ → σ → Prop}
    {background' : τ → τ → Prop}
    (hmoves : ∀ s s' m, related s s' → background s m → ∃ m', background' s' m' ∧ related m m')
    (h : Follows alike related W W') :
    Follows alike related (World.amid background W) (World.amid background' W') := by
  intro s s' e after hrelated ⟨m, hbackground, hcall⟩
  obtain ⟨m', hbackground', hrelated'⟩ :
      ∃ m', ReflTransGen background' s' m' ∧ related m m' := by
    clear hcall
    induction hbackground with
    | refl => exact ⟨s', .refl, hrelated⟩
    | tail _ hmove ih =>
        obtain ⟨m', hpath, hrelated'⟩ := ih
        obtain ⟨m'', hmove', hrelated''⟩ := hmoves _ _ _ hrelated' hmove
        exact ⟨m'', hpath.tail hmove', hrelated''⟩
  obtain ⟨e', after', halike, hcall', hafter⟩ := h m m' e after hrelated' hcall
  exact ⟨e', after', halike, ⟨m', hbackground', hcall'⟩, hafter⟩

/-- The same calls of the same threads, answered alike. -/
def AlikeHistories (alike : ∀ c, S.Answer c → S.Answer c → Prop) :
    List (ι × Event S) → List (ι × Event S) → Prop :=
  List.Forall₂ fun x y => x.1 = y.1 ∧ Event.IsAlike alike x.2 y.2

/-- Blind threads run against a world that can follow as they do against the world it
follows. -/
theorem Run.exchange {related : σ → τ → Prop} (hworlds : Follows alike related W W')
    (hblind : ∀ i, Blind alike (P.threads i)) {history : List (ι × Event S)}
    (hrun : Run W P history Q) {s : τ} (hstart : related P.state s) :
    ∃ history' s', AlikeHistories alike history history' ∧
      Run W' ⟨s, P.threads⟩ history' ⟨s', Q.threads⟩ ∧ related Q.state s' := by
  induction hrun with
  | refl => exact ⟨[], s, .nil, .refl _, hstart⟩
  | @step Q history run i c next answer after waiting allowed ih =>
      obtain ⟨history', s', halike, hrun', hrelated⟩ := ih
      obtain ⟨_, after', @⟨_, _, answer', h⟩, hallowed, hafter⟩ :=
        hworlds _ _ _ _ hrelated allowed
      have hthread : Blind alike (Q.threads i) := (hblind i).of_steps (run.steps i)
      rw [waiting] at hthread
      cases hthread with
      | call hsame _ =>
          refine ⟨history' ++ [(i, ⟨c, answer'⟩)], after', ?_, ?_, hafter⟩
          · exact List.rel_append halike (.cons ⟨rfl, .intro h⟩ .nil)
          · rw [hsame answer answer' h]
            exact .step hrun' i answer' waiting hallowed

end Pool

end Effects
