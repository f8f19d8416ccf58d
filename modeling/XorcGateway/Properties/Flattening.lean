/-
# The names of flattened properties

The specification lists the scalar leaves of a properties map with their object
paths, in the order the flattening visits them. The flattening emits exactly one
property for each leaf, with the leaf's value; its key is the path joined by two
underscores as long as the path has at most two keys, and a longer text
otherwise.
-/

import XorcGateway.Events.Event

namespace XorcGateway.Events

open Output

/-- The published value of a scalar. -/
def Value.scalar : Value → Option PropertyType
  | .string s => some (.stringValue s)
  | .bool b => some (.boolValue b)
  | .number n => some (.numberValue n.toF64)
  | _ => none

/-- A scalar leaf: the keys that lead to it, outermost first, and its value. -/
structure Leaf where
  path : List String
  value : PropertyType
  deriving DecidableEq

/-- The leaf one object further out. -/
def Leaf.under (key : String) (leaf : Leaf) : Leaf :=
  { leaf with path := key :: leaf.path }

namespace Map

/-- The object path leads from the map to a scalar of that value. -/
inductive Reaches : Map → Leaf → Prop
  | here {key : String} {value : Value} {rest : Map} {p : PropertyType}
      (hscalar : value.scalar = some p) : Reaches (.cons key value rest) ⟨[key], p⟩
  | inside {key : String} {map rest : Map} {leaf : Leaf} (hmap : Reaches map leaf) :
      Reaches (.cons key (.object map) rest) (leaf.under key)
  | later {key : String} {value : Value} {rest : Map} {leaf : Leaf} (hrest : Reaches rest leaf) :
      Reaches (.cons key value rest) leaf

/-- The scalar leaves of a map, depth first. -/
def leaves : Map → List Leaf
  | .nil => []
  | .cons key (.string s) rest => ⟨[key], .stringValue s⟩ :: leaves rest
  | .cons key (.bool b) rest => ⟨[key], .boolValue b⟩ :: leaves rest
  | .cons key (.number n) rest => ⟨[key], .numberValue n.toF64⟩ :: leaves rest
  | .cons key (.object map) rest => (leaves map).map (Leaf.under key) ++ leaves rest
  | .cons _ .null rest => leaves rest
  | .cons _ (.array _) rest => leaves rest
termination_by structural map => map

theorem reaches_nil_iff {leaf : Leaf} : Reaches .nil leaf ↔ False := by
  refine ⟨fun h => ?_, False.elim⟩
  cases h

theorem reaches_cons_iff {key : String} {value : Value} {rest : Map} {leaf : Leaf} :
    Reaches (.cons key value rest) leaf ↔
      (∃ p, value.scalar = some p ∧ leaf = ⟨[key], p⟩) ∨
        (∃ map inner, value = .object map ∧ Reaches map inner ∧ leaf = inner.under key) ∨
          Reaches rest leaf := by
  refine ⟨fun h => ?_, fun h => ?_⟩
  · cases h with
    | here hscalar => exact Or.inl ⟨_, hscalar, rfl⟩
    | inside hmap => exact Or.inr (Or.inl ⟨_, _, rfl, hmap, rfl⟩)
    | later hrest => exact Or.inr (Or.inr hrest)
  · rcases h with ⟨p, hscalar, rfl⟩ | ⟨map, inner, rfl, hmap, rfl⟩ | hrest
    · exact .here hscalar
    · exact .inside hmap
    · exact .later hrest

/-- The list has every leaf and nothing else. -/
theorem mem_leaves_iff {map : Map} {leaf : Leaf} : leaf ∈ map.leaves ↔ map.Reaches leaf := by
  fun_induction leaves map generalizing leaf with
  | case1 => simp [reaches_nil_iff]
  | case2 key s rest ih => simp [reaches_cons_iff, Value.scalar, ih]
  | case3 key b rest ih => simp [reaches_cons_iff, Value.scalar, ih]
  | case4 key n rest ih => simp [reaches_cons_iff, Value.scalar, ih]
  | case5 key map rest ihmap ihrest =>
      simp [reaches_cons_iff, Value.scalar, ihmap, ihrest, eq_comm (a := leaf)]
  | case6 key rest ih => simp [reaches_cons_iff, Value.scalar, ih]
  | case7 key elements rest ih => simp [reaches_cons_iff, Value.scalar, ih]

/-- A path has at least one key. -/
theorem path_ne_nil {map : Map} {leaf : Leaf} (h : map.Reaches leaf) : leaf.path ≠ [] := by
  induction h with
  | here _ => simp
  | inside _ _ => simp [Leaf.under]
  | later _ ih => exact ih

/-! ### The order of the leaves -/

/-- The keys of an object, in iteration order. -/
def keys : Map → List String
  | .nil => []
  | .cons key _ rest => key :: keys rest
termination_by structural map => map

/-- A leaf's path starts with a key of the outermost object. -/
theorem Reaches.path_eq_cons {map : Map} {leaf : Leaf} (h : map.Reaches leaf) :
    ∃ key path, leaf.path = key :: path ∧ key ∈ map.keys := by
  induction h with
  | @here key value rest p _ => exact ⟨key, [], rfl, by simp [keys]⟩
  | @inside key map rest leaf _ _ => exact ⟨key, leaf.path, rfl, by simp [keys]⟩
  | @later key value rest leaf _ ih =>
      obtain ⟨first, path, hpath, hfirst⟩ := ih
      exact ⟨first, path, hpath, by simp [keys, hfirst]⟩

/-- In every object of the map, each key is related to the keys behind it. -/
inductive KeysPairwise (r : String → String → Prop) : Map → Prop
  | nil : KeysPairwise r .nil
  | cons {key : String} {value : Value} {rest : Map} (hkey : ∀ later ∈ rest.keys, r key later)
      (hvalue : ∀ map, value = .object map → KeysPairwise r map) (hrest : KeysPairwise r rest) :
      KeysPairwise r (.cons key value rest)

/-- A path into an entry comes before every path into the entries behind it. -/
theorem lex_of_mem_leaves {r : String → String → Prop} {key : String} {rest : Map}
    (hkey : ∀ later ∈ rest.keys, r key later) (path : List String) {leaf : Leaf}
    (hleaf : leaf ∈ rest.leaves) : List.Lex r (key :: path) leaf.path := by
  obtain ⟨later, path', hpath, hlater⟩ := (mem_leaves_iff.mp hleaf).path_eq_cons
  rw [hpath]
  exact .rel (hkey later hlater)

/-- How the keys of each object are related is how the paths are,
lexicographically. -/
theorem KeysPairwise.pairwise_leaves {r : String → String → Prop} {map : Map}
    (h : map.KeysPairwise r) :
    map.leaves.Pairwise fun leaf leaf' => List.Lex r leaf.path leaf'.path := by
  fun_induction leaves map with
  | case1 => exact .nil
  | case2 key s rest ih =>
      cases h with
      | cons hkey _ hrest => exact .cons (fun _ => lex_of_mem_leaves hkey []) (ih hrest)
  | case3 key b rest ih =>
      cases h with
      | cons hkey _ hrest => exact .cons (fun _ => lex_of_mem_leaves hkey []) (ih hrest)
  | case4 key n rest ih =>
      cases h with
      | cons hkey _ hrest => exact .cons (fun _ => lex_of_mem_leaves hkey []) (ih hrest)
  | case5 key map rest ihmap ihrest =>
      cases h with
      | cons hkey hvalue hrest =>
          refine List.pairwise_append.mpr ⟨?_, ihrest hrest, ?_⟩
          · rw [List.pairwise_map]
            exact (ihmap (hvalue map rfl)).imp fun hlex => .cons hlex
          · intro leaf hinside leaf' hbehind
            obtain ⟨inner, _, rfl⟩ := List.mem_map.mp hinside
            exact lex_of_mem_leaves hkey inner.path hbehind
  | case6 key rest ih =>
      cases h with
      | cons _ _ hrest => exact ih hrest
  | case7 key elements rest ih =>
      cases h with
      | cons _ _ hrest => exact ih hrest

end Map

/-! ## Keys -/

/-- The keys of a path, once each and in order, with two underscores between
them. -/
def pathKey : List String → String
  | [] => ""
  | [key] => key
  | key :: keys => key ++ "__" ++ pathKey keys

/-- The key the flattening builds for a path below a prefix: each level puts its
prefix in front of a key that already has it. -/
def emittedKey (pre : String) : List String → String
  | [] => pre
  | [key] => pre ++ key
  | key :: keys => emittedKey (pre ++ (pre ++ key) ++ "__") keys

/-- A longer prefix gives a longer key. -/
theorem length_lt_emittedKey {keys : List String} (hne : keys ≠ []) {joined pre : String}
    (h : joined.length < pre.length) :
    (joined ++ pathKey keys).length < (emittedKey pre keys).length := by
  induction keys generalizing joined pre with
  | nil => exact absurd rfl hne
  | cons key keys ih =>
      cases keys with
      | nil => simpa [pathKey, emittedKey] using h
      | cons next keys =>
          have hlonger : (joined ++ key ++ "__").length < (pre ++ (pre ++ key) ++ "__").length := by
            simp only [String.length_append]
            omega
          have hkeys := ih (by simp) hlonger
          rw [emittedKey, pathKey]
          · simpa [String.append_assoc] using hkeys
          · simp
          · simp

/-- The emitted key is the joined path exactly up to two keys. -/
theorem emittedKey_eq_pathKey_iff {keys : List String} :
    emittedKey "" keys = pathKey keys ↔ keys.length ≤ 2 := by
  rcases keys with _ | ⟨first, _ | ⟨second, _ | ⟨third, keys⟩⟩⟩
  · simp [emittedKey, pathKey]
  · simp [emittedKey, pathKey]
  · simp [emittedKey, pathKey, String.append_assoc]
  · have hlength : (first ++ "__" ++ second ++ "__").length <
        ((first ++ "__") ++ ((first ++ "__") ++ second) ++ "__").length := by
      simp only [String.length_append, show "__".length = 2 from rfl]
      omega
    have hne : third :: keys ≠ [] := by simp
    have hlonger := length_lt_emittedKey hne hlength
    refine ⟨fun heq => ?_, fun hle => by simp at hle⟩
    have hkey : pathKey (first :: second :: third :: keys) =
        first ++ "__" ++ second ++ "__" ++ pathKey (third :: keys) := by
      simp [pathKey, String.append_assoc]
    rw [← hkey, ← heq] at hlonger
    simp [emittedKey, String.append_assoc] at hlonger

/-! ## The flattening -/

namespace SDKEvent

/-- One property for each leaf, pushed in the order of the leaves. -/
theorem flattenProperties_eq (pre : String) (map : Map) (container : List Property) :
    flattenProperties pre map container = container ++
      map.leaves.map fun leaf => ⟨emittedKey pre leaf.path, some leaf.value⟩ := by
  fun_induction flattenProperties pre map container with
  | case1 => simp [Map.leaves]
  | case2 pre container key s rest ih => simp [Map.leaves, ih, emittedKey]
  | case3 pre container key b rest ih => simp [Map.leaves, ih, emittedKey]
  | case4 pre container key n rest ih => simp [Map.leaves, ih, emittedKey]
  | case5 pre container key map rest prefixedKey ihmap ihrest =>
      have hleaves : ∀ leaf ∈ map.leaves,
          (⟨emittedKey (pre ++ prefixedKey ++ "__") leaf.path, some leaf.value⟩ : Property) =
            ⟨emittedKey pre (leaf.under key).path, some (leaf.under key).value⟩ := by
        intro leaf hleaf
        obtain ⟨path, value⟩ := leaf
        cases path with
        | nil => exact absurd rfl (Map.path_ne_nil (Map.mem_leaves_iff.mp hleaf))
        | cons next path => simp [Leaf.under, emittedKey, prefixedKey]
      rw [ihrest, ihmap, Map.leaves, List.map_append, List.map_map, List.append_assoc,
        List.map_congr_left hleaves]
      rfl
  | case6 pre container key rest ih => simp [Map.leaves, ih]
  | case7 pre container key elements rest ih => simp [Map.leaves, ih]

/-- The properties of an event, one for each leaf. -/
theorem flatProperties_eq (event : SDKEvent) :
    event.flatProperties =
      event.properties.leaves.map fun leaf => ⟨emittedKey "" leaf.path, some leaf.value⟩ := by
  rw [flatProperties, flattenProperties_eq, List.nil_append]

/-- Every property is named after the path of its leaf exactly when no leaf is
more than two keys deep. -/
theorem flatProperties_named_iff (event : SDKEvent) :
    event.flatProperties =
        event.properties.leaves.map (fun leaf => ⟨pathKey leaf.path, some leaf.value⟩) ↔
      ∀ leaf, event.properties.Reaches leaf → leaf.path.length ≤ 2 := by
  rw [flatProperties_eq, List.map_inj_left]
  refine forall_congr' fun leaf => ?_
  rw [Map.mem_leaves_iff]
  refine imp_congr_right fun _ => ?_
  rw [← emittedKey_eq_pathKey_iff]
  simp

/-- One leaf three keys deep, `{"a": {"b": {"c": "x"}}}`. -/
def threeDeep : SDKEvent where
  timestamp := 1500000000000
  name := "app_open"
  properties := .cons "a" (.object (.cons "b" (.object (.cons "c" (.string "x") .nil)) .nil)) .nil

/-- Its key has the outer key twice. -/
theorem flatProperties_threeDeep :
    threeDeep.properties.Reaches ⟨["a", "b", "c"], .stringValue "x"⟩ ∧
      threeDeep.flatProperties = [⟨"a__a__b__c", some (.stringValue "x")⟩] ∧
      pathKey ["a", "b", "c"] = "a__b__c" ∧ ¬ (∀ event : SDKEvent, event.flatProperties =
        event.properties.leaves.map fun leaf => ⟨pathKey leaf.path, some leaf.value⟩) := by
  have hflat : threeDeep.flatProperties = [⟨"a__a__b__c", some (.stringValue "x")⟩] := by decide
  refine ⟨.inside (.inside (.here rfl)), hflat, rfl, fun hall => ?_⟩
  have hnamed := hall threeDeep
  rw [hflat] at hnamed
  exact absurd hnamed (by decide)

end SDKEvent

end XorcGateway.Events
