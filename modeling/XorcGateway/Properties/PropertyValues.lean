/-
# The values of flattened properties

The flattening appends to its container and never looks at it again, so what it
emits for a map can be read off the map alone: the values of the scalar leaves,
depth first in the order of the keys. That order is the one the maps are kept
in, so it is the lexicographic order of the paths, and each leaf has its place
in it.
-/

import XorcGateway.Properties.Flattening
import XorcGateway.Rust.Text

namespace XorcGateway.Events

open Output Rust

/-- Strings are ordered by their bytes. -/
def BytesLt (key later : String) : Prop := asBytes key < asBytes later

instance (key later : String) : Decidable (BytesLt key later) :=
  inferInstanceAs (Decidable (asBytes key < asBytes later))

/-- Every object in the map is ordered by key, as `serde_json` keeps them. -/
def Map.HasOrderedKeys (map : Map) : Prop := map.KeysPairwise BytesLt

/-- A list has the scalar leaves of the map, each once, depth first and in the
order of the keys. -/
structure Map.IsTraversal (map : Map) (leaves : List Leaf) : Prop where
  complete : ∀ leaf, leaf ∈ leaves ↔ map.Reaches leaf
  ordered : leaves.Pairwise fun leaf leaf' => List.Lex BytesLt leaf.path leaf'.path

theorem Map.HasOrderedKeys.isTraversal_leaves {map : Map} (h : map.HasOrderedKeys) :
    map.IsTraversal map.leaves where
  complete _ := mem_leaves_iff
  ordered := h.pairwise_leaves

namespace SDKEvent

/-- What a map adds to the container does not depend on it, and leaves what is
there alone. -/
theorem flattenProperties_eq_append (pre : String) (map : Map) (container : List Property) :
    flattenProperties pre map container = container ++ flattenProperties pre map [] := by
  rw [flattenProperties_eq, flattenProperties_eq, List.nil_append]

/-- The values a map adds do not depend on the prefix either. -/
theorem map_type_flattenProperties (pre : String) (map : Map) (container : List Property) :
    (flattenProperties pre map container).map Property.type_ =
      container.map Property.type_ ++ map.leaves.map fun leaf => some leaf.value := by
  rw [flattenProperties_eq, List.map_append, List.map_map]
  rfl

/-- The emitted values are those of the scalar leaves, depth first in the order of
the keys, and no container loses or changes a property. -/
theorem flatProperties_values (event : SDKEvent) (hordered : event.properties.HasOrderedKeys) :
    event.properties.IsTraversal event.properties.leaves ∧
      event.flatProperties.map Property.type_ =
        event.properties.leaves.map (fun leaf => some leaf.value) ∧
      ∀ pre map container,
        flattenProperties pre map container = container ++ flattenProperties pre map [] := by
  refine ⟨hordered.isTraversal_leaves, ?_, flattenProperties_eq_append⟩
  exact map_type_flattenProperties "" event.properties []

/-- Values of every kind: `{"a": null, "b": ["x"], "c": {}, "d": {"e": true, "f":
{"g": -5}}, "h": "y"}`. -/
def everyKind : SDKEvent where
  timestamp := 1500000000000
  name := "app_open"
  properties :=
    .cons "a" .null (.cons "b" (.array (.cons (.string "x") .nil)) (.cons "c" (.object .nil)
      (.cons "d" (.object (.cons "e" (.bool true) (.cons "f" (.object
        (.cons "g" (.number (.negInt (-5))) .nil)) .nil))) (.cons "h" (.string "y") .nil))))

theorem everyKind_ordered : everyKind.properties.HasOrderedKeys := by
  have hinner : Map.HasOrderedKeys (.cons "e" (.bool true) (.cons "f" (.object
      (.cons "g" (.number (.negInt (-5))) .nil)) .nil)) := by
    refine .cons (by decide) (by simp) (.cons (by decide) ?_ .nil)
    rintro map hmap
    obtain rfl := Value.object.inj hmap
    exact .cons (by decide) (by simp) .nil
  refine .cons (by decide) (by simp) (.cons (by decide) (by simp) (.cons (by decide) ?_
    (.cons (by decide) ?_ (.cons (by decide) (by simp) .nil))))
  · rintro map hmap
    obtain rfl := Value.object.inj hmap
    exact .nil
  · rintro map hmap
    obtain rfl := Value.object.inj hmap
    exact hinner

/-- Of these, the three scalars outside the array are emitted. -/
theorem everyKind_values : everyKind.flatProperties.map Property.type_ =
    [some (.boolValue true), some (.numberValue ⟨0xC014000000000000⟩),
      some (.stringValue "y")] := by
  have hleaves : everyKind.properties.leaves.map (fun leaf => some leaf.value) =
      [some (.boolValue true), some (.numberValue ⟨0xC014000000000000⟩),
        some (.stringValue "y")] := by decide
  exact (flatProperties_values everyKind everyKind_ordered).2.1.trans hleaves

end SDKEvent

end XorcGateway.Events
