import BluetoothHost.Proofs.Gatt.Declaration
import BluetoothHost.Proofs.Gatt.Order

/-!
# Room for more attributes

Three things can run out when a service is begun or extended: the places for attributes, the
handles, and the places on the chain. An addition asks for one after the other, so it may have taken
some of what it needs before it is refused the rest. Here each step of an addition is followed with
and without room for it. It turns out that an addition is done if all that it needs is there at the
beginning, that it is refused otherwise, and that a refusal leaves nothing behind. None of this asks
how the attributes came to be there.
-/

namespace BluetoothHost

/-- In an empty buffer a UUID becomes the value of a service declaration. -/
theorem Uuid.write_empty (uuid : Uuid) :
    uuid.write (Bytes.empty Limits.attributeValue) = (.ok (), Attribute.serviceValue uuid) :=
  Bytes.extend_of_le (Attribute.serviceValue uuid).length_le

namespace Attribute

/-- What is written first is the value of a declaration with handle zero. -/
theorem blankValue_eq (properties : CharacteristicProperties) (uuid : Uuid) :
    blankValue properties uuid = .ok (characteristicValue properties 0 uuid) := by
  have short : [properties.bits, 0, 0].length ≤ Limits.attributeValue :=
    show 3 ≤ 64 by decide
  have front : (Bytes.empty Limits.attributeValue).extend [properties.bits, 0, 0] =
      (.ok (), ⟨[properties.bits, 0, 0], short⟩) := Bytes.extend_of_le short
  have all : uuid.write (⟨[properties.bits, 0, 0], short⟩ : AttributeValue) =
      (.ok (), characteristicValue properties 0 uuid) :=
    Bytes.extend_of_le (characteristicValue properties 0 uuid).length_le
  simp only [blankValue, front, all]

/-- With such a value a constant declares a characteristic. -/
theorem constant_characteristic (handle value : Handle) (properties : CharacteristicProperties)
    (uuid : Uuid) : constant handle .characteristic (characteristicValue properties value uuid) =
      characteristicDeclaration handle properties value uuid :=
  rfl

/-- A declaration made with an empty place for the handle of the value becomes the declaration with
that handle. -/
theorem patch?_characteristicDeclaration (handle value : Handle)
    (properties : CharacteristicProperties) (uuid : Uuid) :
    (characteristicDeclaration handle properties 0 uuid).patch? 1
        (LittleEndian.encode 2 value.toNat) =
      some (characteristicDeclaration handle properties value uuid) := by
  have inside : 1 + (LittleEndian.encode 2 value.toNat).length ≤
      (characteristicDeclaration handle properties 0 uuid).value.data.length := by
    simp [characteristicDeclaration, characteristicValue]
  rw [patch?, dif_pos inside]
  rfl

end Attribute

namespace Database

/-- There are places and handles for so many more attributes. -/
def Accommodates (count : Nat) (database : Database) : Prop :=
  database.size + count ≤ Limits.attributes ∧
    database.nextHandle + count ≤ Limits.lastHandle.toNat + 1

/-- A service is under construction, and so many more attributes can be listed on its chain and have
places and handles. -/
def Extensible (count : Nat) (database : Database) : Prop :=
  database.chain ≠ [] ∧ database.chain.length + count ≤ Limits.chain ∧
    database.Accommodates count

variable {database after : Database} {entry : Attribute} {count : Nat}

/-! ### One step at a time -/

/-- Handles in a row do not wrap around below the last. -/
theorem toNat_succ {handle : Handle} (room : handle.toNat < Limits.lastHandle.toNat) :
    (handle + 1).toNat = handle.toNat + 1 := by
  have small : handle.toNat < 65535 := room
  rw [UInt16.toNat_add, UInt16.toNat_one]
  omega

/-- They ascend. -/
theorem lt_succ {handle : Handle} (room : handle.toNat < Limits.lastHandle.toNat) :
    handle < handle + 1 := by
  have successor := toNat_succ room
  exact UInt16.lt_iff_toNat_lt.mpr (by omega)

/-- The counter stands at a handle as long as one is left. -/
theorem toNat_next (room : database.nextHandle + 1 ≤ Limits.lastHandle.toNat + 1) :
    (UInt16.ofNat database.nextHandle).toNat = database.nextHandle := by
  have small : database.nextHandle + 1 ≤ 65536 := room
  exact UInt16.toNat_ofNat_of_lt' (show database.nextHandle < 65536 by omega)

/-- Handles that are left are given out from the counter on. -/
theorem reserve_done (room : database.nextHandle + count ≤ Limits.lastHandle.toNat + 1) :
    database.reserve count = .ok (UInt16.ofNat database.nextHandle) :=
  if_pos room

/-- Others are not. -/
theorem reserve_refused (few : ¬database.nextHandle + count ≤ Limits.lastHandle.toNat + 1) :
    database.reserve count = .error .noResources :=
  if_neg few

/-- An attribute that has a place gets it. -/
theorem insert_done (room : database.size < Limits.attributes) (entry : Attribute) :
    database.insert entry = (.ok (placeFor database.attributes entry.handle),
      { database with attributes := placed entry database.attributes }) :=
  if_pos room

/-- Then there is one attribute more. -/
theorem size_placed (database : Database) (entry : Attribute) :
    size { database with attributes := placed entry database.attributes } = database.size + 1 :=
  length_placed entry database.attributes

/-- Without a place it is refused. -/
theorem insert_refused (full : ¬database.size < Limits.attributes) (entry : Attribute) :
    database.insert entry = (.error .noResources, database) :=
  if_neg full

/-- Taking away what was added last leads back. -/
theorem removeAt_of_insert {index : Nat} (added : database.insert entry = (.ok index, after)) :
    after.removeAt index = database := by
  unfold insert at added
  dsimp only at added
  split at added
  · cases added
    rw [removeAt, List.eraseIdx_insertIdx_self]
  · cases added

/-- Bytes of an attribute are replaced in its place. -/
theorem patchAt_split {front back : List Attribute} {patched : Attribute} {start : Nat}
    {bytes : List UInt8} (attributes_eq : database.attributes = front ++ entry :: back)
    (inside : entry.patch? start bytes = some patched) :
    database.patchAt front.length start bytes =
      (.ok (), { database with attributes := front ++ patched :: back }) := by
  have here : database.attributes[front.length]? = some entry := by simp [attributes_eq]
  rw [patchAt, here, Option.bind_some, inside]
  dsimp only
  rw [modify_split attributes_eq]

/-- All attributes are listed if the chain has a place for each. -/
theorem track_done {nodes : List Node}
    (room : database.chain.length + nodes.length ≤ Limits.chain) :
    database.track nodes = (.ok (), { database with chain := database.chain ++ nodes }) := by
  induction nodes generalizing database with
  | nil => rw [track, List.append_nil]
  | cons node rest ih =>
    rw [List.length_cons] at room
    have further : (database.chain ++ [node]).length + rest.length ≤ Limits.chain := by
      rw [List.length_append, List.length_singleton]
      omega
    rw [track, if_pos (by omega), ih further, List.append_assoc, List.singleton_append]

/-- Then the handles are passed as well. -/
theorem enlist_done {nodes : List Node}
    (room : database.chain.length + nodes.length ≤ Limits.chain) :
    database.enlist nodes = (.ok (), { database with
      chain := database.chain ++ nodes
      nextHandle := database.nextHandle + nodes.length }) :=
  track_done room

/-! ### Beginning a service -/

/-- A service is begun if its declaration has a place and a handle. -/
theorem addService_done (room : database.Accommodates 1) (uuid : Uuid) :
    database.addService uuid = (.ok (UInt16.ofNat database.nextHandle), { database with
      attributes := placed (.serviceDeclaration (UInt16.ofNat database.nextHandle) uuid)
        database.attributes
      chain := [⟨UInt16.ofNat database.nextHandle, .service⟩]
      nextHandle := database.nextHandle + 1 }) := by
  obtain ⟨places, handles⟩ := room
  have listed : ([] : List Node).length + 1 ≤ Limits.chain := by decide
  simp only [addService, reserve_done handles, uuid.write_empty, insert_done places]
  rw [enlist_done]
  · rfl
  · exact listed

/-- Otherwise nothing happens. -/
theorem addService_refused (full : ¬database.Accommodates 1) (uuid : Uuid) :
    database.addService uuid = (.error .noResources, database) := by
  by_cases handles : database.nextHandle + 1 ≤ Limits.lastHandle.toNat + 1
  · have places : ¬database.size < Limits.attributes := fun places => full ⟨places, handles⟩
    simp only [addService, reserve_done handles, uuid.write_empty, insert_refused places]
  · simp only [addService, reserve_refused handles]

/-! ### Adding a characteristic -/

section Characteristic

variable (uuid : Uuid) (properties : CharacteristicProperties) (permissions : Permissions)

/-- Both attributes of a characteristic are added if they have places. The handle of the value is
written into the declaration, which still stands where it was placed. -/
theorem insertCharacteristic_done {handle : Handle} (places : database.size + 2 ≤ Limits.attributes)
    (higher : handle < handle + 1) :
    database.insertCharacteristic handle uuid properties permissions = (.ok (), { database with
      attributes := placed (.served (handle + 1) uuid permissions)
        (placed (.characteristicDeclaration handle properties (handle + 1) uuid)
          database.attributes) }) := by
  let blank : Attribute := .characteristicDeclaration handle properties 0 uuid
  let filled : Attribute := .characteristicDeclaration handle properties (handle + 1) uuid
  let value : Attribute := .served (handle + 1) uuid permissions
  obtain ⟨front, back, length, split⟩ :=
    @exists_split_of_placed handle value higher database.attributes
  have declared := insert_done (Nat.lt_of_succ_lt places) blank
  have served : insert { database with attributes := placed blank database.attributes } value =
      (.ok _, _) := insert_done (by rw [size_placed]; exact places) value
  have patched : patchAt
      { database with attributes := placed value (placed blank database.attributes) }
        front.length 1 (LittleEndian.encode 2 (handle + 1).toNat) = (.ok (), { database with
      attributes := placed value (placed filled database.attributes) }) := by
    rw [split filled rfl]
    exact patchAt_split (split blank rfl) (Attribute.patch?_characteristicDeclaration _ _ _ _)
  rw [insertCharacteristic, Attribute.blankValue_eq]
  dsimp only
  rw [Attribute.constant_characteristic, declared]
  dsimp only
  rw [served]
  exact length ▸ patched

/-- Otherwise nothing is left of them. If the declaration had a place, it is taken away again. -/
theorem insertCharacteristic_refused {handle : Handle}
    (full : ¬database.size + 2 ≤ Limits.attributes) :
    database.insertCharacteristic handle uuid properties permissions =
      (.error .noResources, database) := by
  let blank : Attribute := .characteristicDeclaration handle properties 0 uuid
  rw [insertCharacteristic, Attribute.blankValue_eq]
  dsimp only
  rw [Attribute.constant_characteristic]
  by_cases first : database.size < Limits.attributes
  · have declared := insert_done first blank
    have refused : insert { database with attributes := placed blank database.attributes }
        (.served (handle + 1) uuid permissions) = (.error .noResources, _) :=
      insert_refused (by rw [size_placed]; exact full) _
    rw [declared]
    dsimp only
    rw [refused]
    dsimp only
    rw [removeAt_of_insert declared]
  · rw [insert_refused first]

/-- A characteristic is added if its two attributes have places, handles and places on the chain of
a service. -/
theorem addCharacteristic_done (room : database.Extensible 2) :
    database.addCharacteristic uuid properties permissions =
      (.ok (UInt16.ofNat database.nextHandle + 1), { database with
        attributes := placed (.served (UInt16.ofNat database.nextHandle + 1) uuid permissions)
          (placed (.characteristicDeclaration (UInt16.ofNat database.nextHandle) properties
            (UInt16.ofNat database.nextHandle + 1) uuid) database.attributes)
        chain := database.chain ++ [⟨UInt16.ofNat database.nextHandle, .declaration⟩,
          ⟨UInt16.ofNat database.nextHandle + 1, .value⟩]
        nextHandle := database.nextHandle + 2 }) := by
  obtain ⟨building, listed, places, handles⟩ := room
  have next : (UInt16.ofNat database.nextHandle).toNat = database.nextHandle :=
    toNat_next (Nat.le_of_succ_le handles)
  have below : (UInt16.ofNat database.nextHandle).toNat < Limits.lastHandle.toNat := by omega
  have isBuilding : ¬database.chain.isEmpty = true := by simpa using building
  rw [addCharacteristic, if_neg isBuilding, if_neg (Nat.not_lt.mpr listed), reserve_done handles]
  dsimp only
  rw [insertCharacteristic_done uuid properties permissions places (lt_succ below)]
  dsimp only
  rw [enlist_done listed]
  rfl

/-- Otherwise nothing happens, whatever it is that runs out. -/
theorem addCharacteristic_refused (full : ¬database.Extensible 2) :
    database.addCharacteristic uuid properties permissions =
      (.error (if database.chain.isEmpty then .notAvailable else .noResources), database) := by
  unfold addCharacteristic
  split
  · rfl
  rename_i building
  split
  · rfl
  rename_i listed
  by_cases handles : database.nextHandle + 2 ≤ Limits.lastHandle.toNat + 1
  · have places : ¬database.size + 2 ≤ Limits.attributes := fun places =>
      full ⟨by simpa using building, Nat.not_lt.mp listed, places, handles⟩
    rw [reserve_done handles]
    dsimp only
    rw [insertCharacteristic_refused uuid properties permissions places]
  · rw [reserve_refused handles]

end Characteristic

/-! ### Adding a descriptor -/

/-- A descriptor is added if it has a place, a handle and a place on the chain of a service. -/
theorem addDescriptor_done (room : database.Extensible 1) (uuid : Uuid)
    (permissions : Permissions) :
    database.addDescriptor uuid permissions =
      (.ok (UInt16.ofNat database.nextHandle), { database with
        attributes := placed (.served (UInt16.ofNat database.nextHandle) uuid permissions)
          database.attributes
        chain := database.chain ++ [⟨UInt16.ofNat database.nextHandle, .descriptor⟩]
        nextHandle := database.nextHandle + 1 }) := by
  obtain ⟨building, listed, places, handles⟩ := room
  have isBuilding : ¬database.chain.isEmpty = true := by simpa using building
  rw [addDescriptor, if_neg isBuilding, if_neg (Nat.not_le.mpr listed), reserve_done handles]
  dsimp only
  rw [insert_done places]
  dsimp only
  rw [enlist_done listed]
  rfl

/-- Otherwise nothing happens. -/
theorem addDescriptor_refused (full : ¬database.Extensible 1) (uuid : Uuid)
    (permissions : Permissions) :
    database.addDescriptor uuid permissions =
      (.error (if database.chain.isEmpty then .notAvailable else .noResources), database) := by
  unfold addDescriptor
  split
  · rfl
  rename_i building
  split
  · rfl
  rename_i listed
  by_cases handles : database.nextHandle + 1 ≤ Limits.lastHandle.toNat + 1
  · have places : ¬database.size < Limits.attributes := fun places =>
      full ⟨by simpa using building, Nat.not_le.mp listed, places, handles⟩
    rw [reserve_done handles]
    dsimp only
    rw [insert_refused places]
  · rw [reserve_refused handles]

/-! ### What room decides -/

/-- A service is begun exactly if its declaration has room. -/
theorem addService_isOk_iff (database : Database) (uuid : Uuid) :
    (database.addService uuid).1.isOk = true ↔ database.Accommodates 1 := by
  by_cases room : database.Accommodates 1
  · rw [addService_done room]
    exact iff_of_true rfl room
  · rw [addService_refused room]
    exact iff_of_false Bool.false_ne_true room

/-- A characteristic is added exactly if both its attributes have room. -/
theorem addCharacteristic_isOk_iff (database : Database) (uuid : Uuid)
    (properties : CharacteristicProperties) (permissions : Permissions) :
    (database.addCharacteristic uuid properties permissions).1.isOk = true ↔
      database.Extensible 2 := by
  by_cases room : database.Extensible 2
  · rw [addCharacteristic_done uuid properties permissions room]
    exact iff_of_true rfl room
  · rw [addCharacteristic_refused uuid properties permissions room]
    exact iff_of_false Bool.false_ne_true room

/-- A descriptor is added exactly if it has room. -/
theorem addDescriptor_isOk_iff (database : Database) (uuid : Uuid) (permissions : Permissions) :
    (database.addDescriptor uuid permissions).1.isOk = true ↔ database.Extensible 1 := by
  by_cases room : database.Extensible 1
  · rw [addDescriptor_done room]
    exact iff_of_true rfl room
  · rw [addDescriptor_refused room]
    exact iff_of_false Bool.false_ne_true room

end Database

end BluetoothHost
