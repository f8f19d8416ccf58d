/-
# Directories that are filled as they are asked

A directory has at most one value under each key. A claim under a key is answered
with the value that is there; if there is none, whatever it is answered is
settled from then on. So all claims under one key are answered alike, whoever
makes them and in whatever order.
-/

import Mathlib.Logic.Function.Basic

namespace Abstract

/-- At most one value under each key. -/
abbrev Directory (κ α : Type*) := κ → Option α

namespace Directory

variable {κ α : Type*} [DecidableEq κ]

/-- A claim under a key, with the value it is answered. -/
inductive Claim (dir : Directory κ α) (key : κ) (value : α) : Directory κ α → Prop
  | found (h : dir key = some value) : Claim dir key value dir
  | settled (h : dir key = none) : Claim dir key value (Function.update dir key (some value))

/-- Claims one after the other. -/
inductive Claims : Directory κ α → List (κ × α) → Directory κ α → Prop
  | nil (dir : Directory κ α) : Claims dir [] dir
  | snoc {dir dir' dir'' : Directory κ α} {claims : List (κ × α)} {key : κ} {value : α}
      (before : Claims dir claims dir') (last : Claim dir' key value dir'') :
      Claims dir (claims ++ [(key, value)]) dir''

variable {dir dir' : Directory κ α} {key other : κ} {value value' : α}

/-- A claim leaves the value it is answered. -/
theorem Claim.entry (h : Claim dir key value dir') : dir' key = some value := by
  cases h with
  | found hentry => exact hentry
  | settled _ => exact Function.update_self ..

/-- A claim takes nothing away. -/
theorem Claim.keeps (h : Claim dir key value dir') (hentry : dir other = some value') :
    dir' other = some value' := by
  cases h with
  | found _ => exact hentry
  | settled hnone =>
      rw [Function.update_of_ne _ _ dir]
      · exact hentry
      · rintro rfl
        rw [hnone] at hentry
        cases hentry

namespace Claims

variable {claims : List (κ × α)}

/-- Whatever a claim was answered is there in the end. -/
theorem entry (h : Claims dir claims dir') (hmem : (key, value) ∈ claims) :
    dir' key = some value := by
  induction h with
  | nil => simp at hmem
  | snoc _ last ih =>
      rcases List.mem_append.mp hmem with hmem | hmem
      · exact last.keeps (ih hmem)
      · obtain ⟨rfl, rfl⟩ := Prod.mk.inj (List.mem_singleton.mp hmem)
        exact last.entry

end Claims

end Directory

end Abstract
