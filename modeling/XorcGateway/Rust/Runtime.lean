/-
# Panics, fixed buffers and hash maps

Indexing and slicing in Rust check their bounds and panic outside them. A
computation that may panic is an `Except Panic`, so the bounds checks stay
visible in every function that indexes. A `HashMap` is the lookup function it
implements; its iteration order is never used.
-/

import Mathlib.Data.List.Induction
import Mathlib.Logic.Function.Basic

namespace Rust

/-- The panics the program's own code can raise. -/
inductive Panic
  | /-- `buffer[i]` with `i` outside the buffer. -/
    indexOutOfBounds
  | /-- `split_at` with the split point behind the end. -/
    splitOutOfBounds
  | /-- `unwrap` on an `Err` or a `None`. -/
    unwrap
  deriving DecidableEq, Repr

/-- `Result::unwrap` and `Option::unwrap`. -/
def unwrap {α : Type} : Option α → Except Panic α
  | some value => .ok value
  | none => .error .unwrap

@[simp]
theorem unwrap_some {α : Type} (value : α) : unwrap (some value) = .ok value := rfl

/-- A computation that does not panic does not panic on its way. -/
theorem bind_eq_ok_iff {α β : Type} {x : Except Panic α} {f : α → Except Panic β} {b : β} :
    (x >>= f) = .ok b ↔ ∃ a, x = .ok a ∧ f a = .ok b := by
  cases x <;> simp [bind, Except.bind]

/-- What follows an `unwrap` is reached with the value it finds. -/
theorem unwrap_bind_eq_ok_iff {α β : Type} {o : Option α} {f : α → Except Panic β} {b : β} :
    (unwrap o >>= f) = .ok b ↔ ∃ value, o = some value ∧ f value = .ok b := by
  cases o with
  | none => simp [unwrap, bind, Except.bind]
  | some value => simp [bind, Except.bind]

/-- `slice::split_at_mut`. -/
def splitAt (bytes : List UInt8) (middle : Nat) : Except Panic (List UInt8 × List UInt8) :=
  if middle ≤ bytes.length then .ok (bytes.take middle, bytes.drop middle)
  else .error .splitOutOfBounds

theorem splitAt_of_le {bytes : List UInt8} {middle : Nat} (h : middle ≤ bytes.length) :
    splitAt bytes middle = .ok (bytes.take middle, bytes.drop middle) :=
  if_pos h

theorem splitAt_of_lt {bytes : List UInt8} {middle : Nat} (h : bytes.length < middle) :
    splitAt bytes middle = .error .splitOutOfBounds :=
  if_neg (by omega)

/-- `for (i, c) in source.iter().enumerate() { buffer[i + offset] = *c; }` -/
def copyInto (buffer : List UInt8) (offset : Nat) : List UInt8 → Except Panic (List UInt8)
  | [] => .ok buffer
  | c :: source =>
      if offset < buffer.length then copyInto (buffer.set offset c) (offset + 1) source
      else .error .indexOutOfBounds

/-- A source that fits overwrites exactly its own stretch of the buffer. -/
theorem copyInto_of_le {source buffer : List UInt8} {offset : Nat}
    (h : offset + source.length ≤ buffer.length) :
    copyInto buffer offset source =
      .ok (buffer.take offset ++ source ++ buffer.drop (offset + source.length)) := by
  induction source generalizing buffer offset with
  | nil => simp [copyInto]
  | cons c source ih =>
      simp only [List.length_cons] at h
      have hset : offset + 1 + source.length ≤ (buffer.set offset c).length := by
        rw [List.length_set]
        omega
      have htake : (buffer.set offset c).take (offset + 1) = buffer.take offset ++ [c] := by
        rw [List.set_eq_take_append_cons_drop, if_pos (by omega)]
        simp [List.take_append, List.take_take,
          Nat.min_eq_left (show offset ≤ buffer.length by omega)]
      rw [copyInto, if_pos (by omega), ih hset, htake, List.drop_set_of_lt (by omega)]
      simp [Nat.add_assoc, Nat.add_comm 1]

/-- A source that does not fit panics at the first byte behind the buffer. -/
theorem copyInto_of_lt {source buffer : List UInt8} {offset : Nat} (hne : source ≠ [])
    (h : buffer.length < offset + source.length) :
    copyInto buffer offset source = .error .indexOutOfBounds := by
  induction source generalizing buffer offset with
  | nil => exact absurd rfl hne
  | cons c source ih =>
      rw [copyInto]
      by_cases hoffset : offset < buffer.length
      · rw [if_pos hoffset]
        simp only [List.length_cons] at h
        refine ih ?_ (by rw [List.length_set]; omega)
        rintro rfl
        simp at h
        omega
      · rw [if_neg hoffset]

/-! ## Hash maps -/

/-- `std::collections::HashMap`, as its `get`. -/
abbrev HashMap (κ α : Type) := κ → Option α

namespace HashMap

variable {κ α : Type} [DecidableEq κ]

/-- `HashMap::new`. -/
def new : HashMap κ α := fun _ => none

/-- `HashMap::insert`: a later insert under the same key replaces the value. -/
def insert (map : HashMap κ α) (key : κ) (value : α) : HashMap κ α :=
  Function.update map key (some value)

omit [DecidableEq κ] in
@[simp]
theorem new_get (key : κ) : (new : HashMap κ α) key = none := rfl

@[simp]
theorem insert_get_self (map : HashMap κ α) (key : κ) (value : α) :
    map.insert key value key = some value :=
  Function.update_self ..

theorem insert_get_of_ne (map : HashMap κ α) {key other : κ} (h : other ≠ key) (value : α) :
    map.insert key value other = map other :=
  Function.update_of_ne h ..

/-- Of the values inserted under a key, the last one stays. -/
theorem foldl_insert_get {β : Type} (key : β → κ) (value : β → α) (entries : List β) (k : κ) :
    entries.foldl (fun map entry => map.insert (key entry) (value entry)) new k =
      (entries.reverse.find? fun entry => key entry = k).map value := by
  induction entries using List.reverseRecOn with
  | nil => rfl
  | append_singleton entries last ih =>
      rw [List.foldl_append, List.foldl_cons, List.foldl_nil, List.reverse_concat, List.find?_cons]
      by_cases h : key last = k
      · subst h
        simp
      · rw [insert_get_of_ne _ (Ne.symm h), ih]
        simp [h]

/-- What stays under a key was inserted under it. -/
theorem exists_mem_of_foldl_insert_get {β : Type} {key : β → κ} {value : β → α}
    {entries : List β} {k : κ} {v : α}
    (h : entries.foldl (fun map entry => map.insert (key entry) (value entry)) new k = some v) :
    ∃ entry ∈ entries, key entry = k ∧ value entry = v := by
  rw [foldl_insert_get, Option.map_eq_some_iff] at h
  obtain ⟨entry, hentry, hvalue⟩ := h
  have hmem := List.mem_of_find?_eq_some hentry
  have hkey := List.find?_some hentry
  exact ⟨entry, List.mem_reverse.mp hmem, of_decide_eq_true hkey, hvalue⟩

/-- Something stays under a key exactly when something was inserted under it. -/
theorem foldl_insert_get_isSome_iff {β : Type} {key : β → κ} {value : β → α}
    {entries : List β} {k : κ} :
    (entries.foldl (fun map entry => map.insert (key entry) (value entry)) new k).isSome ↔
      ∃ entry ∈ entries, key entry = k := by
  rw [foldl_insert_get, Option.isSome_map, List.find?_isSome]
  simp

/-- In some order of insertion, any one of the values stays. -/
theorem exists_perm_foldl_insert_get {β : Type} (key : β → κ) (value : β → α)
    {entries : List β} {entry : β} (h : entry ∈ entries) :
    ∃ entries' : List β, entries'.Perm entries ∧
      entries'.foldl (fun map entry => map.insert (key entry) (value entry)) new (key entry) =
        some (value entry) := by
  obtain ⟨before, after, rfl⟩ := List.append_of_mem h
  refine ⟨before ++ after ++ [entry], ?_, ?_⟩
  · rw [List.append_assoc]
    have hlast : (after ++ [entry]).Perm ([entry] ++ after) := List.perm_append_comm
    exact hlast.append_left before
  · rw [List.foldl_append]
    exact insert_get_self ..

end HashMap

end Rust
