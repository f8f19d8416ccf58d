/-
# Events and their flattened properties

An event's properties may nest; the published event has a flat list. Nested
keys are built by threading a prefix through the recursion, and every property
is pushed onto one shared container.
-/

import XorcGateway.Events.Input
import XorcGateway.Events.Output

namespace XorcGateway.Events

open Output

/-- The double a JSON number is published as: whichever representation answers
first, converted. -/
def Number.toF64 (n : Number) : F64 :=
  match n.asI64 with
  | some i => .ofInt i
  | none =>
      match n.asU64 with
      | some i => .ofInt i
      | none => n.asF64

namespace SDKEvent

/-- Push the scalars of `properties` onto the container, descending into
objects. Nulls and arrays are skipped with a warning. -/
def flattenProperties (pre : String) (properties : Map) (container : List Property) :
    List Property :=
  match properties with
  | .nil => container
  | .cons key (.string s) rest =>
      flattenProperties pre rest (container ++ [⟨pre ++ key, some (.stringValue s)⟩])
  | .cons key (.bool b) rest =>
      flattenProperties pre rest (container ++ [⟨pre ++ key, some (.boolValue b)⟩])
  | .cons key (.number n) rest =>
      flattenProperties pre rest (container ++ [⟨pre ++ key, some (.numberValue n.toF64)⟩])
  | .cons key (.object map) rest =>
      let prefixedKey := pre ++ key
      -- the outer prefix is put in front of a key that already starts with it
      flattenProperties pre rest (flattenProperties (pre ++ prefixedKey ++ "__") map container)
  | .cons _ .null rest => flattenProperties pre rest container
  | .cons _ (.array _) rest => flattenProperties pre rest container
termination_by structural properties

/-- The flat properties of an event. -/
def flatProperties (event : SDKEvent) : List Property :=
  flattenProperties "" event.properties []

/-- The published form of an event. -/
def toSdkEventData (event : SDKEvent) : SdkEventData where
  properties := event.flatProperties
  id := some event.id
  sessionId := event.sessionId
  timestamp := some (toString event.timestamp.toNat)
  name := some event.name
  externalUserId := event.externalUserId
  referenceId := event.referenceId

end SDKEvent

end XorcGateway.Events
