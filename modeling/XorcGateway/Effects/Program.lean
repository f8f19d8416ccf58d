/-
# Programs that call the outside world

A program is a finite tree: it returns, it panics, or it makes one call and
continues with whatever answer comes back. Nothing here says which answers are
possible, so a statement about all runs of a program is a statement about every
outcome of every call it makes.

`Steps` is the only execution relation. A complete run is a stepping that ends
in a returned or panicked program, and a concurrent run (module `Pool`) projects
to steppings of its threads, so per-program facts are proved once and used in
both places.
-/

import Mathlib.Data.List.Basic

namespace Effects

universe u w

/-- The calls a program may make, and the type of answers to each. -/
structure Signature where
  /-- A call together with its arguments. -/
  Call : Type u
  /-- What the caller may get back. -/
  Answer : Call → Type u

/-- A call that was made, with the answer it received. -/
structure Event (S : Signature.{u}) where
  call : S.Call
  answer : S.Answer call

/-- A finite tree of calls. `panic` is a leaf without a value. -/
inductive Program (S : Signature.{u}) (α : Type w)
  | done (value : α)
  | panic
  | call (c : S.Call) (next : S.Answer c → Program S α)

/-- How a complete run ends. -/
inductive Outcome (α : Type w)
  | returned (value : α)
  | panicked
  deriving DecidableEq

/-- Whether a run returned, and returned such a value. -/
def Outcome.any {α : Type w} (p : α → Bool) : Outcome α → Bool
  | .returned value => p value
  | .panicked => false

theorem Outcome.any_eq_true {α : Type w} {p : α → Bool} {r : Outcome α} :
    r.any p = true ↔ ∃ value, r = .returned value ∧ p value = true := by
  cases r <;> simp [any]

namespace Program

variable {S : Signature.{u}} {α β γ : Type w}

/-- Sequencing: a panic of the first program is a panic of the whole. -/
def bind : Program S α → (α → Program S β) → Program S β
  | .done value, f => f value
  | .panic, _ => .panic
  | .call c next, f => .call c fun answer => (next answer).bind f

instance : Monad (Program S) where
  pure := .done
  bind := Program.bind

/-- Make one call and return its answer. -/
def perform {S : Signature.{u}} (c : S.Call) : Program S (S.Answer c) :=
  .call c .done

@[simp]
theorem pure_eq_done (value : α) : (pure value : Program S α) = .done value := rfl

@[simp]
theorem bind_eq_bind (p : Program S α) (f : α → Program S β) : p >>= f = p.bind f := rfl

@[simp]
theorem done_bind (value : α) (f : α → Program S β) :
    (Program.done value : Program S α).bind f = f value := rfl

@[simp]
theorem panic_bind (f : α → Program S β) :
    (Program.panic : Program S α).bind f = .panic := rfl

@[simp]
theorem call_bind (c : S.Call) (next : S.Answer c → Program S α) (f : α → Program S β) :
    (Program.call c next).bind f = .call c fun answer => (next answer).bind f := rfl

theorem bind_assoc (p : Program S α) (f : α → Program S β) (g : β → Program S γ) :
    (p.bind f).bind g = p.bind fun value => (f value).bind g := by
  induction p with
  | done value => rfl
  | panic => rfl
  | call c next ih => simp only [call_bind, ih]

/-! ## Stepping -/

/-- `Steps p t q`: making the calls of `t`, in order and with those answers,
takes `p` to `q`. -/
inductive Steps : Program S α → List (Event S) → Program S α → Prop
  | /-- No call made yet. -/
    refl (p : Program S α) : Steps p [] p
  | /-- One answered call, then the rest. -/
    call {c : S.Call} {next : S.Answer c → Program S α} (answer : S.Answer c)
      {t : List (Event S)} {q : Program S α} (rest : Steps (next answer) t q) :
      Steps (.call c next) (⟨c, answer⟩ :: t) q

@[simp]
theorem steps_done_iff {value : α} {t : List (Event S)} {q : Program S α} :
    Steps (.done value) t q ↔ t = [] ∧ q = .done value := by
  refine ⟨fun h => ?_, fun h => ?_⟩
  · cases h
    exact ⟨rfl, rfl⟩
  · obtain ⟨rfl, rfl⟩ := h
    exact .refl _

@[simp]
theorem steps_panic_iff {t : List (Event S)} {q : Program S α} :
    Steps (.panic : Program S α) t q ↔ t = [] ∧ q = .panic := by
  refine ⟨fun h => ?_, fun h => ?_⟩
  · cases h
    exact ⟨rfl, rfl⟩
  · obtain ⟨rfl, rfl⟩ := h
    exact .refl _

theorem steps_call_iff {c : S.Call} {next : S.Answer c → Program S α}
    {t : List (Event S)} {q : Program S α} :
    Steps (.call c next) t q ↔
      (t = [] ∧ q = .call c next) ∨
        ∃ answer rest, t = ⟨c, answer⟩ :: rest ∧ Steps (next answer) rest q := by
  refine ⟨fun h => ?_, fun h => ?_⟩
  · cases h with
    | refl => exact Or.inl ⟨rfl, rfl⟩
    | call answer rest => exact Or.inr ⟨answer, _, rfl, rest⟩
  · rcases h with ⟨rfl, rfl⟩ | ⟨answer, rest, rfl, hrest⟩
    · exact .refl _
    · exact .call answer hrest

/-- Steppings compose. -/
theorem Steps.trans {p q r : Program S α} {first second : List (Event S)}
    (hfirst : Steps p first q) (hsecond : Steps q second r) :
    Steps p (first ++ second) r := by
  induction hfirst with
  | refl => exact hsecond
  | call answer _ ih => exact .call answer (ih hsecond)

/-- A stepping can be cut anywhere: the program reached there is determined by
the calls made so far. -/
theorem Steps.split {p q : Program S α} {first second : List (Event S)}
    (h : Steps p (first ++ second) q) :
    ∃ middle, Steps p first middle ∧ Steps middle second q := by
  induction first generalizing p with
  | nil => exact ⟨p, .refl p, h⟩
  | cons event first ih =>
      cases h with
      | call answer rest =>
          obtain ⟨middle, hfirst, hsecond⟩ := ih rest
          exact ⟨middle, .call answer hfirst, hsecond⟩

/-! ## Complete runs -/

/-- The program an outcome leaves behind. -/
def ofOutcome : Outcome α → Program S α
  | .returned value => .done value
  | .panicked => .panic

theorem ofOutcome_inj {r r' : Outcome α} :
    (ofOutcome r : Program S α) = ofOutcome r' ↔ r = r' := by
  cases r <;> cases r' <;> simp [ofOutcome]

/-- A complete run with its trace and outcome. -/
def Runs (p : Program S α) (t : List (Event S)) (r : Outcome α) : Prop :=
  Steps p t (ofOutcome r)

@[simp]
theorem runs_done_iff {value : α} {t : List (Event S)} {r : Outcome α} :
    Runs (.done value) t r ↔ t = [] ∧ r = .returned value := by
  cases r <;> simp [Runs, ofOutcome, eq_comm]

@[simp]
theorem runs_panic_iff {t : List (Event S)} {r : Outcome α} :
    Runs (.panic : Program S α) t r ↔ t = [] ∧ r = .panicked := by
  cases r <;> simp [Runs, ofOutcome]

@[simp]
theorem runs_call_iff {c : S.Call} {next : S.Answer c → Program S α}
    {t : List (Event S)} {r : Outcome α} :
    Runs (.call c next) t r ↔
      ∃ answer rest, t = ⟨c, answer⟩ :: rest ∧ Runs (next answer) rest r := by
  rw [Runs, steps_call_iff]
  refine ⟨fun h => ?_, Or.inr⟩
  rcases h with ⟨_, hr⟩ | h
  · cases r <;> simp [ofOutcome] at hr
  · exact h

/-- A run of a sequence either finishes its first part and runs the second, or
ends with a panic of the first. -/
theorem runs_bind_iff {p : Program S α} {f : α → Program S β}
    {t : List (Event S)} {r : Outcome β} :
    Runs (p.bind f) t r ↔
      (∃ value first second, t = first ++ second ∧
          Runs p first (.returned value) ∧ Runs (f value) second r) ∨
        (Runs p t .panicked ∧ r = .panicked) := by
  induction p generalizing t with
  | done value => simp
  | panic => simp
  | call c next ih =>
      simp only [call_bind, runs_call_iff, ih]
      refine ⟨fun h => ?_, fun h => ?_⟩
      · obtain ⟨answer, rest, rfl, ⟨value, first, second, rfl, hp, hf⟩ | ⟨hp, hr⟩⟩ := h
        · exact Or.inl ⟨value, ⟨c, answer⟩ :: first, second, rfl, ⟨answer, first, rfl, hp⟩, hf⟩
        · exact Or.inr ⟨⟨answer, rest, rfl, hp⟩, hr⟩
      · rcases h with ⟨value, _, second, rfl, ⟨answer, first, rfl, hp⟩, hf⟩ |
          ⟨⟨answer, rest, rfl, hp⟩, hr⟩
        · exact ⟨answer, first ++ second, rfl, Or.inl ⟨value, first, second, rfl, hp, hf⟩⟩
        · exact ⟨answer, rest, rfl, Or.inr ⟨hp, hr⟩⟩

/-- Run a program against a fixed reply to each call. It is one of the runs
`Runs` allows, and it can be evaluated. -/
def exec (reply : ∀ c, S.Answer c) : Program S α → List (Event S) × Outcome α
  | .done value => ([], .returned value)
  | .panic => ([], .panicked)
  | .call c next =>
      let (t, r) := (next (reply c)).exec reply
      (⟨c, reply c⟩ :: t, r)

theorem runs_exec (reply : ∀ c, S.Answer c) (p : Program S α) :
    Runs p (p.exec reply).1 (p.exec reply).2 := by
  induction p with
  | done value => simp [exec]
  | panic => simp [exec]
  | call c next ih => simpa [exec] using ih (reply c)

/-- Every answer of such a run is the fixed reply. -/
theorem answer_of_mem_exec {reply : ∀ c, S.Answer c} {p : Program S α} {e : Event S}
    (he : e ∈ (p.exec reply).1) : e = ⟨e.call, reply e.call⟩ := by
  induction p with
  | done value => simp [exec] at he
  | panic => simp [exec] at he
  | call c next ih =>
      simp only [exec, List.mem_cons] at he
      rcases he with rfl | he
      · rfl
      · exact ih (reply c) he

theorem answer_eq_of_mem_exec {reply : ∀ c, S.Answer c} {p : Program S α} {c : S.Call}
    {answer : S.Answer c} (h : ⟨c, answer⟩ ∈ (p.exec reply).1) : answer = reply c := by
  have hevent := answer_of_mem_exec h
  simpa using hevent

/-- When every call can be answered, a program under way can be run to its end. -/
theorem Steps.exists_runs [∀ c, Nonempty (S.Answer c)] {p q : Program S α}
    {t : List (Event S)} (h : Steps p t q) :
    ∃ rest r, Runs q rest r ∧ Runs p (t ++ rest) r :=
  let reply := fun c => Classical.choice (inferInstanceAs (Nonempty (S.Answer c)))
  ⟨_, _, runs_exec reply q, h.trans (runs_exec reply q)⟩

/-- The calls up to some point are all before a given call, or they have it. -/
theorem prefix_before_or_past {t before after : List (Event S)} {e : Event S}
    (h : t <+: before ++ e :: after) :
    t <+: before ∨ ∃ past, t = before ++ e :: past ∧ past <+: after := by
  rcases List.prefix_or_prefix_of_prefix h (List.prefix_append before (e :: after)) with
    hbefore | ⟨past, rfl⟩
  · exact Or.inl hbefore
  · rw [List.prefix_append_right_inj, List.prefix_cons_iff] at h
    rcases h with rfl | ⟨past, rfl, hpast⟩
    · exact Or.inl (by simp)
    · exact Or.inr ⟨past, rfl, hpast⟩

/-! ## Panic freedom -/

/-- No run of the program panics, whatever it is answered. -/
def NeverPanics (p : Program S α) : Prop :=
  ∀ t, ¬ Runs p t .panicked

/-! ## Confinement -/

/-- The program makes only allowed calls, whatever it is answered. -/
inductive Confined (allowed : S.Call → Prop) : Program S α → Prop
  | done (value : α) : Confined allowed (.done value)
  | panic : Confined allowed .panic
  | call {c : S.Call} {next : S.Answer c → Program S α} (hc : allowed c)
      (hnext : ∀ answer, Confined allowed (next answer)) : Confined allowed (.call c next)

namespace Confined

variable {allowed : S.Call → Prop}

theorem perform {S : Signature.{u}} {allowed : S.Call → Prop} {c : S.Call} (hc : allowed c) :
    Confined allowed (Program.perform c) :=
  .call hc fun answer => .done answer

theorem bind {p : Program S α} {f : α → Program S β} (hp : Confined allowed p)
    (hf : ∀ value, Confined allowed (f value)) : Confined allowed (p.bind f) := by
  induction hp with
  | done value => exact hf value
  | panic => exact .panic
  | call hc _ ih => exact .call hc ih

theorem mono {allowed' : S.Call → Prop} {p : Program S α} (hp : Confined allowed p)
    (h : ∀ c, allowed c → allowed' c) : Confined allowed' p := by
  induction hp with
  | done value => exact .done value
  | panic => exact .panic
  | call hc _ ih => exact .call (h _ hc) ih

/-- The calls a confined program made are allowed, finished or not. -/
theorem of_steps {p q : Program S α} {t : List (Event S)} (hp : Confined allowed p)
    (hsteps : Steps p t q) : ∀ e ∈ t, allowed e.call := by
  induction hsteps with
  | refl => simp
  | call answer _ ih =>
      cases hp with
      | call hc hnext =>
          intro e he
          rcases List.mem_cons.mp he with rfl | he
          · exact hc
          · exact ih (hnext answer) e he

end Confined

end Program

end Effects
