import BluetoothHost.Gatt.Characteristic
import BluetoothHost.Gatt.Handle
import BluetoothHost.Uuid.Wire

/-!
# Attributes

An attribute has a handle, a type and a value. The value of a declaration is fixed when it is
made and says what is declared; a characteristic value or a descriptor is served by whoever
implements it, and its value here is the last one seen.
-/

namespace BluetoothHost

/-- An entry of the local database. -/
structure Attribute where
  /-- Its handle. -/
  handle : Handle
  /-- Its type. -/
  type : Uuid
  /-- Its value, or the last one seen. -/
  value : AttributeValue
  /-- What peers may do with it; a declaration has no entry and can always be read. -/
  permissions : Option Permissions := none
  /-- The handles that the attribute server gave to the service declared here. -/
  range : Option HandleRange := none
  /-- Whether the next accepted update is sent to peers. -/
  notifyReady : Bool := false
deriving DecidableEq

namespace Attribute

/-- The value of a characteristic declaration as it is written first: the properties, two bytes that
are left for the handle of the value, and the UUID of the characteristic. -/
def blankValue (properties : CharacteristicProperties) (uuid : Uuid) :
    Except Error AttributeValue :=
  match (Bytes.empty Limits.attributeValue).extend [properties.bits, 0, 0] with
  | (.error cause, _) => .error cause
  | (.ok (), value) =>
    match uuid.write value with
    | (.error cause, _) => .error cause
    | (.ok (), value) => .ok value

/-- An attribute whose value is fixed. -/
def constant (handle : Handle) (type : Uuid) (value : AttributeValue) : Attribute where
  handle := handle
  type := type
  value := value

/-- A characteristic value or a descriptor, not seen yet. -/
def served (handle : Handle) (uuid : Uuid) (permissions : Permissions) : Attribute where
  handle := handle
  type := uuid
  value := Bytes.empty Limits.attributeValue
  permissions := some permissions

/-- The attribute with some bytes of its value, from a place on, replaced by others. -/
def patch? (entry : Attribute) (start : Nat) (bytes : List UInt8) : Option Attribute :=
  if inside : start + bytes.length ≤ entry.value.data.length then
    some { entry with
      value.data := entry.value.data.take start ++ bytes ++
        entry.value.data.drop (start + bytes.length)
      value.length_le := by
        have fits := entry.value.length_le
        simp only [List.length_append, List.length_take, List.length_drop]
        omega }
  else
    none

/-- Whether the type is that of a service declaration. -/
def isService (entry : Attribute) : Bool :=
  entry.type ≈ Uuid.primaryService || entry.type ≈ Uuid.secondaryService

/-- The service that is declared here. -/
def serviceUuid? (entry : Attribute) : Option Uuid :=
  if entry.isService then Uuid.ofBytes? entry.value.data else none

/-- Whether the type is that of a characteristic declaration. -/
def isCharacteristic (entry : Attribute) : Bool := entry.type ≈ Uuid.characteristic

/-- The properties of the characteristic that is declared here. -/
def characteristicProperties? (entry : Attribute) : Option CharacteristicProperties :=
  if entry.isCharacteristic then entry.value.data.head?.map CharacteristicProperties.mk
  else none

/-- The handle of the value of the characteristic that is declared here. -/
def valueHandle? (entry : Attribute) : Option Handle :=
  if entry.isCharacteristic then
    match entry.value.data with
    | _ :: low :: high :: _ => some (UInt16.ofNat (LittleEndian.decode [low, high]))
    | _ => none
  else
    none

/-- The characteristic that is declared here. -/
def characteristicUuid? (entry : Attribute) : Option Uuid :=
  if entry.isCharacteristic then
    match entry.value.data with
    | _ :: _ :: _ :: rest => Uuid.ofBytes? rest
    | _ => none
  else
    none

/-- Whether the service with this UUID is declared here. -/
def declaresService (entry : Attribute) (uuid : Uuid) : Bool :=
  entry.serviceUuid?.any fun declared => declared ≈ uuid

/-- Whether the attribute is found under a UUID: a primary service under the UUID that it
declares, any other attribute under its type. -/
def isFoundUnder (entry : Attribute) (uuid : Uuid) : Bool :=
  if entry.type ≈ Uuid.primaryService then entry.declaresService uuid
  else entry.type ≈ uuid

end Attribute

/-- Whoever implements the attributes of some services: it answers reads and takes writes. Its
surroundings `E` are whatever it acts on. -/
structure AttributeHandler (E : Type) where
  /-- Answer a read. -/
  read : Attribute → E → Except Error AttributeValue × E
  /-- Take a write. -/
  write : Attribute → List UInt8 → E → Except Error Unit × E

end BluetoothHost
