/-
# Programs with more calls

A program that makes calls of one kind is also a program that could make calls of
another kind and does not. It takes the same steps, with the same answers, and
ends in the same way.
-/

import XorcGateway.Effects.Program

namespace Effects

universe u w

/-- Calls of either kind. -/
@[reducible]
def Signature.sum (S T : Signature.{u}) : Signature.{u} where
  Call := S.Call ⊕ T.Call
  Answer
    | .inl c => S.Answer c
    | .inr c => T.Answer c

variable {S T : Signature.{u}} {α β : Type w}

/-- An answered call of the first kind. -/
def Event.left (e : Event S) : Event (S.sum T) where
  call := .inl e.call
  answer := e.answer

/-- The answered calls of the first kind. -/
def Event.lefts (t : List (Event (S.sum T))) : List (Event S) :=
  t.filterMap fun
    | ⟨.inl c, answer⟩ => some ⟨c, answer⟩
    | ⟨.inr _, _⟩ => none

@[simp]
theorem Event.lefts_map_left (t : List (Event S)) :
    Event.lefts (T := T) (t.map Event.left) = t := by
  rw [lefts, List.filterMap_map]
  exact List.filterMap_some

namespace Program

/-- The program among calls of two kinds. -/
def left : Program S α → Program (S.sum T) α
  | .done value => .done value
  | .panic => .panic
  | .call c next => .call (.inl c) fun answer => (next answer).left

@[simp]
theorem left_ofOutcome (r : Outcome α) :
    (ofOutcome r : Program S α).left (T := T) = ofOutcome r := by
  cases r <;> rfl

/-- It takes the steps of the program, and no others. -/
theorem steps_left_iff {p : Program S α} {t : List (Event (S.sum T))}
    {q : Program (S.sum T) α} :
    Steps p.left t q ↔ ∃ t' q', t = t'.map Event.left ∧ q = q'.left ∧ Steps p t' q' := by
  constructor
  · intro h
    induction p generalizing t with
    | done value =>
        obtain ⟨rfl, rfl⟩ := steps_done_iff.mp h
        exact ⟨[], .done value, rfl, rfl, .refl _⟩
    | panic =>
        obtain ⟨rfl, rfl⟩ := steps_panic_iff.mp h
        exact ⟨[], .panic, rfl, rfl, .refl _⟩
    | call c next ih =>
        rcases steps_call_iff.mp h with ⟨rfl, rfl⟩ | ⟨answer, rest, rfl, hrest⟩
        · exact ⟨[], .call c next, rfl, rfl, .refl _⟩
        · obtain ⟨t', q', rfl, rfl, hsteps⟩ := ih answer hrest
          exact ⟨⟨c, answer⟩ :: t', q', rfl, rfl, .call (S := S) (c := c) answer hsteps⟩
  · rintro ⟨t', q', rfl, rfl, hsteps⟩
    induction hsteps with
    | refl => exact .refl _
    | @call c next answer t q _ ih => exact .call (S := S.sum T) (c := .inl c) answer ih

theorem ofOutcome_eq_left_iff {q : Program S α} {r : Outcome α} :
    (ofOutcome r : Program (S.sum T) α) = q.left ↔ q = ofOutcome r := by
  cases q <;> cases r <;> simp [left, ofOutcome, eq_comm]

/-- It runs as the program does. -/
theorem runs_left_iff {p : Program S α} {t : List (Event (S.sum T))} {r : Outcome α} :
    Runs p.left t r ↔ ∃ t', t = t'.map Event.left ∧ Runs p t' r := by
  rw [Runs, steps_left_iff]
  constructor
  · rintro ⟨t', q', rfl, hr, hsteps⟩
    obtain rfl := ofOutcome_eq_left_iff.mp hr
    exact ⟨t', rfl, hsteps⟩
  · rintro ⟨t', rfl, hsteps⟩
    exact ⟨t', ofOutcome r, rfl, (left_ofOutcome r).symm, hsteps⟩

/-- It keeps to the calls the program keeps to. -/
theorem Confined.left {allowed : S.Call → Prop} {p : Program S α} (h : Confined allowed p)
    (allowed' : T.Call → Prop) : Confined (Sum.elim allowed allowed') (p.left (T := T)) := by
  induction h with
  | done value => exact .done value
  | panic => exact .panic
  | call hc _ ih => exact .call hc ih

end Program

end Effects
