/-
# The keys of two properties

The repeated prefix makes keys long, but it does not make them collide. Taken
apart at its doubled underscores, an emitted key has the keys of its path as
segments, the outer ones many times over; their number gives the depth and their
order the path. So the leaves of a properties map get different keys, however
deep they are, as long as the names in it are ordinary ones.
-/

import Mathlib.Data.List.Lex
import XorcGateway.Codec.Segments
import XorcGateway.Properties.Flattening

namespace XorcGateway.Events

open Codec.Segments Output

namespace Map

/-- No object in the map has a key twice, as `serde_json` keeps them. -/
inductive HasDistinctKeys : Map → Prop
  | nil : HasDistinctKeys .nil
  | cons {key : String} {value : Value} {rest : Map} (hkey : key ∉ rest.keys)
      (hvalue : ∀ map, value = .object map → HasDistinctKeys map)
      (hrest : HasDistinctKeys rest) : HasDistinctKeys (.cons key value rest)

/-- Every key of every object in the map satisfies the predicate. -/
inductive AllKeys (p : String → Prop) : Map → Prop
  | nil : AllKeys p .nil
  | cons {key : String} {value : Value} {rest : Map} (hkey : p key)
      (hvalue : ∀ map, value = .object map → AllKeys p map)
      (hrest : AllKeys p rest) : AllKeys p (.cons key value rest)

/-- What holds of every key holds of the keys of every path. -/
theorem AllKeys.of_mem_path {p : String → Prop} {map : Map} (h : map.AllKeys p) {leaf : Leaf}
    (hleaf : map.Reaches leaf) : ∀ key ∈ leaf.path, p key := by
  induction hleaf with
  | here _ =>
      cases h with
      | cons hkey _ _ => simpa using hkey
  | inside _ ih =>
      cases h with
      | cons hkey hvalue _ =>
          intro key hmem
          rcases List.mem_cons.mp hmem with rfl | hmem
          · exact hkey
          · exact ih (hvalue _ rfl) key hmem
  | later _ ih =>
      cases h with
      | cons _ _ hrest => exact ih hrest

/-- Distinct keys are related by being different. -/
theorem HasDistinctKeys.keysPairwise {map : Map} (h : map.HasDistinctKeys) :
    map.KeysPairwise (· ≠ ·) := by
  induction h with
  | nil => exact .nil
  | cons hkey _ _ ihvalue ihrest =>
      exact .cons (fun later hlater heq => hkey (heq ▸ hlater)) ihvalue ihrest

/-- Two leaves have two paths. -/
theorem HasDistinctKeys.nodup_paths {map : Map} (h : map.HasDistinctKeys) :
    (map.leaves.map Leaf.path).Nodup := by
  refine List.pairwise_map.mpr (h.keysPairwise.pairwise_leaves.imp ?_)
  intro leaf leaf' hlex
  exact List.Lex.to_ne hlex

end Map

/-! ## Segments of an emitted key -/

/-- The segments of the key emitted for a path behind some others: each level
puts those it has in front of themselves. -/
def emittedSegments (before : List String) : List String → List String
  | [] => before
  | [key] => before ++ [key]
  | key :: keys => emittedSegments (before ++ (before ++ [key])) keys

theorem emittedSegments_cons_cons (before : List String) (key next : String)
    (keys : List String) :
    emittedSegments before (key :: next :: keys) =
      emittedSegments (before ++ (before ++ [key])) (next :: keys) := rfl

theorem emittedKey_cons_cons (pre key next : String) (keys : List String) :
    emittedKey pre (key :: next :: keys) =
      emittedKey (pre ++ (pre ++ key) ++ "__") (next :: keys) := rfl

/-- No segment comes from anywhere else. -/
theorem mem_emittedSegments {before keys : List String} {segment : String}
    (h : segment ∈ emittedSegments before keys) : segment ∈ before ∨ segment ∈ keys := by
  fun_induction emittedSegments before keys with
  | case1 before => exact Or.inl h
  | case2 before key => simpa using h
  | case3 before key keys _ ih =>
      rcases ih h with hbefore | hkeys
      · simp only [List.mem_append, List.mem_singleton] at hbefore
        rcases hbefore with hmem | hmem | rfl
        · exact Or.inl hmem
        · exact Or.inl hmem
        · exact Or.inr List.mem_cons_self
      · exact Or.inr (List.mem_cons_of_mem key hkeys)

/-- The segments of a path begin with those in front of it and go on. -/
theorem exists_emittedSegments_eq {keys : List String} (hne : keys ≠ []) (before : List String) :
    ∃ first rest, emittedSegments before keys = before ++ first :: rest := by
  induction keys generalizing before with
  | nil => exact absurd rfl hne
  | cons key keys ih =>
      cases keys with
      | nil => exact ⟨key, [], rfl⟩
      | cons next keys =>
          obtain ⟨first, rest, hrest⟩ := ih (by simp) (before ++ (before ++ [key]))
          rw [emittedSegments_cons_cons, hrest]
          cases before with
          | nil => exact ⟨key, first :: rest, by simp⟩
          | cons b before => exact ⟨b, before ++ [key] ++ first :: rest, by simp⟩

/-- The segments determine the path: a shorter one has fewer, and one as long
has its keys where the other has them. -/
theorem emittedSegments_inj {keys keys' : List String} (hne : keys ≠ []) (hne' : keys' ≠ [])
    {before : List String} (h : emittedSegments before keys = emittedSegments before keys') :
    keys = keys' := by
  have hlonger : ∀ (before : List String) (key next key' : String) (keys : List String),
      emittedSegments before (key :: next :: keys) ≠ before ++ [key'] := by
    intro before key next key' keys heq
    obtain ⟨first, rest, hrest⟩ :=
      exists_emittedSegments_eq (List.cons_ne_nil next keys) (before ++ (before ++ [key]))
    rw [emittedSegments_cons_cons, hrest] at heq
    have hlength := congrArg List.length heq
    simp only [List.length_append, List.length_cons, List.length_nil] at hlength
    omega
  induction keys generalizing before keys' with
  | nil => exact absurd rfl hne
  | cons key keys ih =>
      rcases keys' with _ | ⟨key', keys'⟩
      · exact absurd rfl hne'
      · rcases keys with _ | ⟨next, keys⟩ <;> rcases keys' with _ | ⟨next', keys'⟩
        · simpa [emittedSegments] using h
        · exact absurd h.symm (hlonger before key' next' key keys')
        · exact absurd h (hlonger before key next key' keys)
        · rw [emittedSegments_cons_cons, emittedSegments_cons_cons] at h
          obtain ⟨first, rest, hrest⟩ :=
            exists_emittedSegments_eq (List.cons_ne_nil next keys) (before ++ (before ++ [key]))
          obtain ⟨first', rest', hrest'⟩ := exists_emittedSegments_eq
            (List.cons_ne_nil next' keys') (before ++ (before ++ [key']))
          have hkey : before ++ (before ++ [key]) = before ++ (before ++ [key']) := by
            rw [hrest, hrest'] at h
            exact (List.append_inj h (by simp)).1
          obtain rfl : key = key' := by simpa using hkey
          rw [ih (by simp) (by simp) h]

/-- An emitted key is its segments, joined by double underscores. -/
theorem toList_emittedKey {keys : List String} (hne : keys ≠ []) {pre : String}
    {before : List String}
    (hpre : pre.toList = (before.map String.toList).flatMap (· ++ ['_', '_'])) :
    (emittedKey pre keys).toList =
      join '_' ((emittedSegments before keys).map String.toList) := by
  induction keys generalizing before pre with
  | nil => exact absurd rfl hne
  | cons key keys ih =>
      cases keys with
      | nil =>
          rw [emittedKey, emittedSegments, String.toList_append, hpre, List.map_append]
          exact flatMap_append_join _ [key.toList] (by simp)
      | cons next keys =>
          rw [emittedKey_cons_cons, emittedSegments_cons_cons]
          refine ih (by simp) ?_
          simp [hpre]

/-- A name without two underscores in a row and without one at its end. -/
def IsPlainKey (key : String) : Prop := IsPlain '_' key.toList

/-- Paths with plain names are emitted under different keys. -/
theorem emittedKey_inj {keys keys' : List String} (hne : keys ≠ []) (hne' : keys' ≠ [])
    (hplain : ∀ key ∈ keys, IsPlainKey key) (hplain' : ∀ key ∈ keys', IsPlainKey key)
    (h : emittedKey "" keys = emittedKey "" keys') : keys = keys' := by
  have hsegments : ∀ {keys : List String}, (∀ key ∈ keys, IsPlainKey key) →
      ∀ segment ∈ (emittedSegments [] keys).map String.toList, IsPlain '_' segment := by
    intro keys hkeys segment hmem
    obtain ⟨key, hkey, rfl⟩ := List.mem_map.mp hmem
    rcases mem_emittedSegments hkey with hnil | hmem
    · simp at hnil
    · exact hkeys key hmem
  have hnonempty : ∀ {keys : List String}, keys ≠ [] →
      (emittedSegments [] keys).map String.toList ≠ [] := by
    intro keys hkeys
    obtain ⟨first, rest, hrest⟩ := exists_emittedSegments_eq hkeys []
    simp [hrest]
  have hempty : "".toList = (([] : List String).map String.toList).flatMap (· ++ ['_', '_']) :=
    rfl
  have hjoined : join '_' ((emittedSegments [] keys).map String.toList) =
      join '_' ((emittedSegments [] keys').map String.toList) := by
    rw [← toList_emittedKey hne hempty, ← toList_emittedKey hne' hempty, h]
  rw [join_inj (hnonempty hne) (hnonempty hne') (hsegments hplain) (hsegments hplain')] at hjoined
  have hinj : Function.Injective String.toList := fun _ _ => String.toList_injective
  exact emittedSegments_inj hne hne' (List.map_injective_iff.mpr hinj hjoined)

namespace SDKEvent

/-- Every leaf is emitted as one property, and no two leaves, at the same depth
or not, under the same key. -/
theorem flatProperties_keys_distinct (event : SDKEvent)
    (hdistinct : event.properties.HasDistinctKeys)
    (hplain : event.properties.AllKeys IsPlainKey) :
    ∃ key : Leaf → String,
      event.flatProperties =
        event.properties.leaves.map (fun leaf => ⟨key leaf, some leaf.value⟩) ∧
      event.properties.leaves.Pairwise fun leaf leaf' => key leaf ≠ key leaf' := by
  refine ⟨fun leaf => emittedKey "" leaf.path, flatProperties_eq event, ?_⟩
  have hpaths := List.pairwise_map.mp hdistinct.nodup_paths
  refine hpaths.imp_of_mem fun {leaf leaf'} hleaf hleaf' hne heq => hne ?_
  have hreached := Map.mem_leaves_iff.mp hleaf
  have hreached' := Map.mem_leaves_iff.mp hleaf'
  exact emittedKey_inj (Map.path_ne_nil hreached) (Map.path_ne_nil hreached')
    (hplain.of_mem_path hreached) (hplain.of_mem_path hreached') heq

/-- Leaves of three depths, with a single underscore where names allow one and an
empty name: `{"a": {"b_c": {"": "x", "d": "y"}}, "_a": "z"}`. -/
def mixedDepths : SDKEvent where
  timestamp := 1500000000000
  name := "app_open"
  properties := .cons "a" (.object (.cons "b_c" (.object
    (.cons "" (.string "x") (.cons "d" (.string "y") .nil))) .nil)) (.cons "_a" (.string "z") .nil)

/-- Their keys are all different. -/
theorem mixedDepths_keys_distinct : ∃ key : Leaf → String,
    mixedDepths.flatProperties =
      mixedDepths.properties.leaves.map (fun leaf => ⟨key leaf, some leaf.value⟩) ∧
    mixedDepths.properties.leaves.Pairwise fun leaf leaf' => key leaf ≠ key leaf' := by
  have hscalar : ∀ {p : Map → Prop} {s : String} (map : Map), Value.string s = .object map →
      p map := fun _ h => by cases h
  have hplain : ∀ key ∈ ["a", "b_c", "", "d", "_a"], IsPlainKey key := by
    intro key hkey
    have hpair : ¬ ['_', '_'] <:+: key.toList := by
      revert key
      decide
    have hlast : key.toList.getLast? ≠ some '_' := by
      revert key
      decide
    exact ⟨hpair, hlast⟩
  refine flatProperties_keys_distinct mixedDepths ?_ ?_
  · refine .cons (by decide) (fun map h => ?_) (.cons (by decide) hscalar .nil)
    cases h
    refine .cons (by decide) (fun map h => ?_) .nil
    cases h
    exact .cons (by decide) hscalar (.cons (by decide) hscalar .nil)
  · refine .cons (hplain _ (by simp)) (fun map h => ?_) (.cons (hplain _ (by simp)) hscalar .nil)
    cases h
    refine .cons (hplain _ (by simp)) (fun map h => ?_) .nil
    cases h
    exact .cons (hplain _ (by simp)) hscalar (.cons (hplain _ (by simp)) hscalar .nil)

end SDKEvent

end XorcGateway.Events
