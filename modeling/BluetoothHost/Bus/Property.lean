import BluetoothHost.Address
import BluetoothHost.Bytes
import BluetoothHost.Error
import BluetoothHost.Uuid

/-!
# Properties

Objects on the bus have named properties with typed values. A property list is bounded; adding
to it stops at the first property for which there is no room.
-/

namespace BluetoothHost

/-- A typed property value. -/
inductive PropertyValue
  /-- A truth value. -/
  | bool (value : Bool)
  /-- An octet. -/
  | byte (value : UInt8)
  /-- A number of 16 bits. -/
  | uint16 (value : UInt16)
  /-- A fixed word. -/
  | text (value : String)
  /-- A UUID. -/
  | uuid (value : Uuid)
  /-- The path of another object. -/
  | path (value : ObjectPath)
  /-- The address of a device. -/
  | address (value : Address)
  /-- Raw bytes. -/
  | bytes (value : Configuration)
deriving DecidableEq

namespace PropertyValue

/-- The truth value, if it is one. -/
def bool? : PropertyValue → Option Bool
  | bool value => some value
  | _ => none

/-- The number of 16 bits, if it is one. -/
def uint16? : PropertyValue → Option UInt16
  | uint16 value => some value
  | _ => none

/-- The value with a UUID in its full form, so that equal UUIDs become the same value. -/
def expanded : PropertyValue → PropertyValue
  | uuid value => uuid (.uuid128 value.expand)
  | value => value

/-- Two values are the same when they have the same type and content; of a UUID the form does
not matter. -/
instance : Setoid PropertyValue where
  r left right := left.expanded = right.expanded
  iseqv := ⟨fun _ => rfl, fun same => same.symm, fun first second => first.trans second⟩

/-- Sameness of values is decided on their expanded forms. -/
instance (left right : PropertyValue) : Decidable (left ≈ right) :=
  inferInstanceAs (Decidable (left.expanded = right.expanded))

end PropertyValue

/-- A named property. -/
structure Property where
  /-- Its name. -/
  name : String
  /-- Its value. -/
  value : PropertyValue
deriving DecidableEq

namespace Property

/-- The value under a name: the first property of that name decides. -/
def lookup? (properties : List Property) (name : String) : Option PropertyValue :=
  (properties.find? fun property => property.name = name).map Property.value

/-- The list with further properties behind it, as many as there is room for, and whether there
was room for all. -/
def append (properties more : List Property) : Except Error Unit × List Property :=
  (if properties.length + more.length ≤ Limits.properties then .ok () else .error .noResources,
    properties ++ more.take (Limits.properties - properties.length))

end Property

end BluetoothHost
