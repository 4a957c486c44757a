import BluetoothHost.Gatt.Attribute

/-!
# What declarations say

The value of a declaration is written once, as bytes, and whoever wants to know what is declared
reads the bytes again. Reading gives back what was written, the form of a UUID included, so as long
as the bytes stay the same the declaration keeps saying the same. The bytes also decide under which
UUID a declaration is found.
-/

namespace BluetoothHost

namespace Uuid

/-- A form takes up at most sixteen bytes. -/
theorem length_bytes_le (uuid : Uuid) : uuid.bytes.length ≤ 16 := by
  cases uuid <;> simp [width]

/-- A form is read back from its bytes. -/
theorem ofBytes?_bytes (uuid : Uuid) : ofBytes? uuid.bytes = some uuid := by
  cases uuid with
  | uuid16 number =>
    have small : number.toNat % LittleEndian.count 2 = number.toNat :=
      Nat.mod_eq_of_lt number.toNat_lt
    simp [ofBytes?, bytes, LittleEndian.decode_encode, small]
  | uuid32 number =>
    have small : number.toNat % LittleEndian.count 4 = number.toNat :=
      Nat.mod_eq_of_lt number.toNat_lt
    simp [ofBytes?, bytes, LittleEndian.decode_encode, small]
  | uuid128 number =>
    have small : number.toNat % LittleEndian.count 16 = number.toNat :=
      Nat.mod_eq_of_lt number.isLt
    simp [ofBytes?, bytes, LittleEndian.decode_encode, small]

end Uuid

namespace Attribute

/-- The value of a service declaration: the UUID of the service. -/
def serviceValue (uuid : Uuid) : AttributeValue where
  data := uuid.bytes
  length_le := Nat.le_trans uuid.length_bytes_le (by decide)

/-- The value of a characteristic declaration: the properties, the handle of the value and the
UUID of the characteristic. -/
def characteristicValue (properties : CharacteristicProperties) (valueHandle : Handle)
    (uuid : Uuid) : AttributeValue where
  data := properties.bits :: LittleEndian.encode 2 valueHandle.toNat ++ uuid.bytes
  length_le := by
    have := uuid.length_bytes_le
    simp only [List.cons_append, List.length_cons, List.length_append,
      LittleEndian.length_encode, Limits.attributeValue]
    omega

/-- The declaration of a primary service. -/
def serviceDeclaration (handle : Handle) (uuid : Uuid) : Attribute where
  handle := handle
  type := .primaryService
  value := serviceValue uuid

/-- The declaration of a characteristic. -/
def characteristicDeclaration (handle : Handle) (properties : CharacteristicProperties)
    (valueHandle : Handle) (uuid : Uuid) : Attribute where
  handle := handle
  type := .characteristic
  value := characteristicValue properties valueHandle uuid

end Attribute

/-- What is declared. -/
inductive Declaration
  /-- A primary service with its UUID. -/
  | service (uuid : Uuid)
  /-- A characteristic with its properties and its UUID. -/
  | characteristic (properties : CharacteristicProperties) (uuid : Uuid)
deriving DecidableEq

namespace Declaration

/-- The attribute by which it is declared under a handle. The value of a characteristic has the
next one. -/
def attributeAt (handle : Handle) : Declaration → Attribute
  | service uuid => .serviceDeclaration handle uuid
  | characteristic properties uuid =>
    .characteristicDeclaration handle properties (handle + 1) uuid

/-- The UUID under which the attribute is found. -/
def key : Declaration → Uuid
  | service uuid => uuid
  | characteristic _ _ => .characteristic

end Declaration

namespace Attribute

/-- The attribute reads as a declaration of this. -/
def Declares (entry : Attribute) : Declaration → Prop
  | .service uuid => entry.serviceUuid? = some uuid
  | .characteristic properties uuid =>
    entry.characteristicProperties? = some properties ∧
      entry.valueHandle? = some (entry.handle + 1) ∧ entry.characteristicUuid? = some uuid

/-- An attribute with the handle, the type and the bytes of a declaration reads as that
declaration. -/
theorem declares_of_bytes {entry : Attribute} {declaration : Declaration}
    (type : entry.type = (declaration.attributeAt entry.handle).type)
    (value : entry.value = (declaration.attributeAt entry.handle).value) :
    entry.Declares declaration := by
  cases declaration with
  | service uuid =>
    have named : entry.type = Uuid.primaryService := type
    have typed : entry.isService = true := by
      rw [isService, named]
      decide
    have bytes : entry.value.data = uuid.bytes := congrArg Bytes.data value
    rw [Declares, serviceUuid?, if_pos typed, bytes, Uuid.ofBytes?_bytes]
  | characteristic properties uuid =>
    have named : entry.type = Uuid.characteristic := type
    have typed : entry.isCharacteristic = true := by
      rw [isCharacteristic, named]
      decide
    have bytes : entry.value.data = properties.bits ::
        LittleEndian.encode 2 (entry.handle + 1).toNat ++ uuid.bytes :=
      congrArg Bytes.data value
    have spelled : LittleEndian.encode 2 (entry.handle + 1).toNat =
        [UInt8.ofNat (entry.handle + 1).toNat, UInt8.ofNat ((entry.handle + 1).toNat / 256)] := rfl
    rw [spelled] at bytes
    refine ⟨?_, ?_, ?_⟩
    · rw [characteristicProperties?, if_pos typed, bytes]
      rfl
    · have small : (entry.handle + 1).toNat % LittleEndian.count 2 = (entry.handle + 1).toNat :=
        Nat.mod_eq_of_lt (entry.handle + 1).toNat_lt
      rw [valueHandle?, if_pos typed, bytes]
      show some (UInt16.ofNat (LittleEndian.decode
        (LittleEndian.encode 2 (entry.handle + 1).toNat))) = some (entry.handle + 1)
      rw [LittleEndian.decode_encode, small, UInt16.ofNat_toNat]
    · rw [characteristicUuid?, if_pos typed, bytes]
      exact Uuid.ofBytes?_bytes uuid

/-- Such an attribute is found under the key of the declaration and under no other UUID. -/
theorem isFoundUnder_iff_key {entry : Attribute} {declaration : Declaration}
    (type : entry.type = (declaration.attributeAt entry.handle).type)
    (value : entry.value = (declaration.attributeAt entry.handle).value) (uuid : Uuid) :
    entry.isFoundUnder uuid = true ↔ declaration.key ≈ uuid := by
  have declares := declares_of_bytes type value
  cases declaration with
  | service own =>
    have typed : entry.type ≈ Uuid.primaryService := by
      rw [type]
      exact Setoid.refl _
    have declared : entry.serviceUuid? = some own := declares
    rw [isFoundUnder, if_pos typed, declaresService, declared]
    exact decide_eq_true_iff
  | characteristic properties own =>
    have named : entry.type = Uuid.characteristic := type
    have other : ¬Uuid.characteristic ≈ Uuid.primaryService := by decide
    rw [isFoundUnder, named, if_neg other]
    exact decide_eq_true_iff

end Attribute

end BluetoothHost
