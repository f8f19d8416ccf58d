/-
# Segments joined by a doubled separator

Lists over any alphabet, joined with two copies of one symbol between them. The
symbol itself may occur inside a segment. A joined list can still be taken apart
in one way only, as long as no segment contains the symbol twice in a row or ends
with it: then the first pair of separators in the joined list is the one behind
the first segment.
-/

import Mathlib.Data.List.Basic

namespace Codec.Segments

variable {α : Type*} {u : α}

/-- A segment that cannot be mistaken for a joint: no two separators in a row,
and none at the end, where one more would follow. -/
structure IsPlain (u : α) (segment : List α) : Prop where
  pair : ¬ [u, u] <:+: segment
  last : segment.getLast? ≠ some u

/-- The segments with two separators between each and the next. -/
def join (u : α) : List (List α) → List α
  | [] => []
  | [segment] => segment
  | segment :: segments => segment ++ u :: u :: join u segments

/-- The rest of a plain segment is plain. -/
theorem IsPlain.tail {c : α} {segment : List α} (h : IsPlain u (c :: segment)) :
    IsPlain u segment where
  pair := fun hpair => h.pair (hpair.trans (List.suffix_cons c segment).isInfix)
  last := by
    intro hlast
    apply h.last
    cases segment with
    | nil => cases hlast
    | cons d rest => rwa [List.getLast?_cons_cons]

/-- A plain segment cannot begin with the joint that ends another one. -/
theorem IsPlain.cons_ne {c : α} {segment rest rest' : List α} (h : IsPlain u (c :: segment)) :
    c :: segment ++ u :: u :: rest ≠ u :: u :: rest' := by
  intro heq
  rw [List.cons_append, List.cons.injEq] at heq
  obtain ⟨rfl, heq⟩ := heq
  cases segment with
  | nil => exact h.last rfl
  | cons d segment =>
      rw [List.cons_append, List.cons.injEq] at heq
      obtain ⟨rfl, _⟩ := heq
      exact h.pair ⟨[], segment, rfl⟩

/-- The first joint tells where the first segment ends. -/
theorem append_joint_inj {segment segment' rest rest' : List α} (h : IsPlain u segment)
    (h' : IsPlain u segment') :
    segment ++ u :: u :: rest = segment' ++ u :: u :: rest' ↔
      segment = segment' ∧ rest = rest' := by
  refine ⟨fun heq => ?_, fun heq => by rw [heq.1, heq.2]⟩
  induction segment generalizing segment' with
  | nil =>
      cases segment' with
      | nil => exact ⟨rfl, by simpa using heq⟩
      | cons c segment' => exact absurd heq.symm h'.cons_ne
  | cons c segment ih =>
      cases segment' with
      | nil => exact absurd heq h.cons_ne
      | cons c' segment' =>
          rw [List.cons_append, List.cons_append, List.cons.injEq] at heq
          obtain ⟨rfl, heq⟩ := heq
          obtain ⟨rfl, hrest⟩ := ih h.tail h'.tail heq
          exact ⟨rfl, hrest⟩

/-- A plain segment has no joint in it. -/
theorem IsPlain.ne_append_joint {segment before rest : List α} (h : IsPlain u segment) :
    segment ≠ before ++ u :: u :: rest := by
  rintro rfl
  exact h.pair ⟨before, rest, by simp⟩

theorem join_cons_cons (first second : List α) (segments : List (List α)) :
    join u (first :: second :: segments) = first ++ u :: u :: join u (second :: segments) :=
  rfl

/-- Plain segments can be read back from what they are joined to. -/
theorem join_inj {segments segments' : List (List α)} (hne : segments ≠ [])
    (hne' : segments' ≠ []) (h : ∀ segment ∈ segments, IsPlain u segment)
    (h' : ∀ segment ∈ segments', IsPlain u segment) :
    join u segments = join u segments' ↔ segments = segments' := by
  refine ⟨fun heq => ?_, fun heq => by rw [heq]⟩
  induction segments generalizing segments' with
  | nil => exact absurd rfl hne
  | cons first segments ih =>
      rcases segments' with _ | ⟨first', segments'⟩
      · exact absurd rfl hne'
      · have hfirst := h first List.mem_cons_self
        have hfirst' := h' first' List.mem_cons_self
        have hrest : ∀ segment ∈ segments, IsPlain u segment :=
          fun segment hs => h segment (List.mem_cons_of_mem first hs)
        have hrest' : ∀ segment ∈ segments', IsPlain u segment :=
          fun segment hs => h' segment (List.mem_cons_of_mem first' hs)
        -- one side may end where the other goes on with a joint
        rcases segments with _ | ⟨second, segments⟩ <;>
          rcases segments' with _ | ⟨second', segments'⟩
        · rw [show first = first' from heq]
        · exact absurd heq hfirst.ne_append_joint
        · exact absurd heq.symm hfirst'.ne_append_joint
        · rw [join_cons_cons, join_cons_cons, append_joint_inj hfirst hfirst'] at heq
          obtain ⟨rfl, heq⟩ := heq
          rw [ih (by simp) (by simp) hrest hrest' heq]

/-- Joining behind a list of segments that each carry their joint. -/
theorem flatMap_append_join (before segments : List (List α)) (hne : segments ≠ []) :
    before.flatMap (· ++ [u, u]) ++ join u segments = join u (before ++ segments) := by
  induction before with
  | nil => rfl
  | cons segment before ih =>
      rw [List.flatMap_cons, List.append_assoc, ih, List.cons_append]
      cases hrest : before ++ segments with
      | nil => exact absurd (List.append_eq_nil_iff.mp hrest).2 hne
      | cons second rest => rw [join_cons_cons]; simp

end Codec.Segments
