import BluetoothHost.Proofs.Gatt.Catalogue
import BluetoothHost.Proofs.Gatt.Declaration
import BluetoothHost.Proofs.Gatt.Materialize
import BluetoothHost.Proofs.Uuid.Wire

/-!
# Declarations written and read

The declaration of a characteristic is written before the handle of its value is known to be taken:
the place for it is left empty and filled in when both attributes exist. Whoever reads the bytes
finds the properties, the handle of the value and the UUID in its form; the declaration of a service
gives its UUID likewise.
-/

namespace BluetoothHost

namespace Database

variable {database after : Database}

/-- Two attributes were added that read as this characteristic. -/
structure AddsCharacteristic (uuid : Uuid) (properties : CharacteristicProperties)
    (permissions : Permissions) (value : Handle) (declaration : Attribute)
    (before after : Database) : Prop where
  /-- They stand behind all others. -/
  appended : after.attributes =
    before.attributes ++ [declaration, .served value uuid permissions]
  /-- The declaration is found under its handle. -/
  declared : after.findHandle? declaration.handle = some declaration
  /-- So is the value. -/
  served : after.findHandle? value = some (.served value uuid permissions)
  /-- Their handles are neighbours. -/
  successor : value.toNat = declaration.handle.toNat + 1
  /-- The declaration was made with an empty place for the handle of the value, filled in later. -/
  patched : (Attribute.characteristicDeclaration declaration.handle properties 0 uuid).patch? 1
    (LittleEndian.encode 2 value.toNat) = some declaration
  /-- It reads as these properties. -/
  properties : declaration.characteristicProperties? = some properties
  /-- It names the attribute of the value. -/
  valueHandle : declaration.valueHandle? = some value
  /-- It reads as this UUID in this form. -/
  uuid : declaration.characteristicUuid? = some uuid

/-- A characteristic that was added reads as what was asked for. -/
theorem addCharacteristic_reads (orderly : database.Orderly) {uuid : Uuid}
    {properties : CharacteristicProperties} {permissions : Permissions} {value : Handle}
    (added : database.addCharacteristic uuid properties permissions = (.ok value, after)) :
    ∃ declaration,
      AddsCharacteristic uuid properties permissions value declaration database after := by
  have ordered := addCharacteristic_orderly orderly uuid properties permissions
  rw [added] at ordered
  rcases addCharacteristic_eq orderly uuid properties permissions with ⟨cause, refused⟩ |
    ⟨handle, -, room, -, -, result⟩
  · rw [refused] at added
    cases added
  rw [result] at added
  cases added
  have declares : (Attribute.characteristicDeclaration handle properties (handle + 1) uuid).Declares
      (.characteristic properties uuid) := Attribute.declares_of_bytes rfl rfl
  obtain ⟨bits, named, form⟩ := declares
  refine ⟨.characteristicDeclaration handle properties (handle + 1) uuid, rfl, ?_, ?_,
    toNat_succ room, Attribute.patch?_characteristicDeclaration _ _ _ _, bits, named, form⟩
  · exact (findHandle?_eq_some_iff ordered.ascending).mpr ⟨by simp, rfl⟩
  · exact (findHandle?_eq_some_iff ordered.ascending).mpr ⟨by simp, rfl⟩

/-- An attribute was added that reads as the declaration of this service. -/
structure AddsService (uuid : Uuid) (service : Handle) (declaration : Attribute)
    (before after : Database) : Prop where
  /-- It stands behind all others. -/
  appended : after.attributes = before.attributes ++ [declaration]
  /-- It is found under the handle of the service. -/
  declared : after.findHandle? service = some declaration
  /-- It reads as this UUID in this form. -/
  uuid : declaration.serviceUuid? = some uuid

/-- A service that was begun reads as what was asked for. -/
theorem addService_reads (orderly : database.Orderly) {uuid : Uuid} {service : Handle}
    (added : database.addService uuid = (.ok service, after)) :
    ∃ declaration, AddsService uuid service declaration database after := by
  have ordered := addService_orderly orderly uuid
  rw [added] at ordered
  rcases addService_eq orderly uuid with ⟨cause, refused⟩ | ⟨handle, -, result⟩
  · rw [refused] at added
    cases added
  rw [result] at added
  cases added
  have declares : (Attribute.serviceDeclaration service uuid).Declares (.service uuid) :=
    Attribute.declares_of_bytes rfl rfl
  refine ⟨.serviceDeclaration service uuid, rfl, ?_, declares⟩
  exact (findHandle?_eq_some_iff ordered.ascending).mpr ⟨by simp, rfl⟩

end Database

namespace Catalogue

variable {B A : Type} [MessageBus B] [AttributeServer A] {first : Handle} {announces : Bool}
  {actions : List (Action B A)} {env later : Environment B A} {catalogue : Catalogue}

/-- A UUID is written behind the bytes of a buffer as a whole, and is read back from them in its
form, or is refused, exactly if there is no room for it. Two, four or sixteen bytes are read as a
UUID, and written as they were. Whatever befell a fresh catalogue, a characteristic that is added
has a declaration that reads as its properties, its UUID in its form and the handle that is
returned, which is that of its value and the next one behind the declaration. The declaration of a
service that is begun reads as its UUID in its form. -/
theorem run_codecs (ran : (fresh first announces).run actions env = (catalogue, later))
    (uuid : Uuid) (properties : CharacteristicProperties) (permissions : Permissions) :
    (∀ (capacity : Nat) (out : Bytes capacity), uuid.WrittenBehind out) ∧
    (∀ bytes, (Uuid.ofBytes? bytes).isSome = true ↔ bytes.length ∈ [2, 4, 16]) ∧
    (∀ bytes read, Uuid.ofBytes? bytes = some read →
      ∀ (capacity : Nat) (fits : bytes.length ≤ capacity),
        read.write (Bytes.empty capacity) = (.ok (), ⟨bytes, fits⟩)) ∧
    (∀ value after,
      catalogue.database.addCharacteristic uuid properties permissions = (.ok value, after) →
        ∃ declaration, Database.AddsCharacteristic uuid properties permissions value declaration
          catalogue.database after) ∧
    ∀ service after, catalogue.database.addService uuid = (.ok service, after) →
      ∃ declaration, Database.AddsService uuid service declaration catalogue.database after := by
  have orderly : catalogue.database.Orderly := (run_fresh_recorded ran).database.orderly
  refine ⟨fun capacity out => uuid.writtenBehind out, Uuid.ofBytes?_isSome_iff, ?_, ?_, ?_⟩
  · intro bytes read found capacity fits
    exact Uuid.write_of_ofBytes? found fits
  · intro value after added
    exact Database.addCharacteristic_reads orderly added
  · intro service after begun
    exact Database.addService_reads orderly begun

/-- Under a service with a UUID of 32 bits, a characteristic with one of 128 bits is added. Its
declaration reads as that UUID in that form, and a buffer with room for fewer bytes stays empty. -/
theorem run_codecs_of_long_form :
    let long : Uuid := .uuid128 0x12345678_1234_5678_1234_56789ABCDEF0#128
    let actions : List (Action Transport.PlainBus CountingServer) :=
      [.addService (.uuid32 0x0000180F)]
    let catalogue := ((fresh 1 true).run actions countingEnvironment).1
    let after := (catalogue.database.addCharacteristic long (.read ||| .notify) .both).2
    catalogue.database.addCharacteristic long (.read ||| .notify) .both = (.ok 3, after) ∧
      (after.findHandle? 2).bind Attribute.characteristicUuid? = some long ∧
      (after.findHandle? 2).bind Attribute.valueHandle? = some 3 ∧
      long.write (Bytes.empty 15) = (.error .noResources, Bytes.empty 15) ∧
      Uuid.write (.uuid16 0x2A19) (Bytes.empty 2) = (.ok (), ⟨[0x19, 0x2A], by decide⟩) := by
  intro long actions catalogue after
  have ran : (fresh 1 true).run actions countingEnvironment =
      (catalogue, countingEnvironment) := rfl
  have added : catalogue.database.addCharacteristic long (.read ||| .notify) .both =
      (.ok 3, after) := by
    decide +kernel
  obtain ⟨written, -, again, reads, -⟩ := run_codecs ran long (.read ||| .notify) .both
  obtain ⟨declaration, made⟩ := reads 3 after added
  have handle : declaration.handle = 2 := by
    have successor := made.successor
    apply UInt16.toNat_inj.mp
    exact (Nat.succ.inj successor).symm
  have found : after.findHandle? 2 = some declaration := handle ▸ made.declared
  refine ⟨added, ?_, ?_, (written 15 (Bytes.empty 15)).full (by decide), ?_⟩
  · rw [found]
    exact made.uuid
  · rw [found]
    exact made.valueHandle
  · exact again [0x19, 0x2A] (.uuid16 0x2A19) (by decide) 2 (by decide)

end Catalogue

end BluetoothHost
