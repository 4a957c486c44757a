import BluetoothHost.Gatt.Database

/-!
# Building services

A service is built one attribute at a time, beginning with its declaration. An attribute gets the
next handle, a place in the order of the handles and a place on the chain. Each of the three can run
out, and an addition stops at the first that does. What a characteristic has placed by then is taken
away again.
-/

namespace BluetoothHost.Database

/-- The first of `count` handles that are free, while there are that many. -/
def reserve (database : Database) (count : Nat) : Except Error Handle :=
  if database.nextHandle + count ≤ Limits.lastHandle.toNat + 1 then
    .ok (UInt16.ofNat database.nextHandle)
  else
    .error .noResources

/-- The place for a handle: in front of the first attribute with a higher one. -/
def placeFor (attributes : List Attribute) (handle : Handle) : Nat :=
  attributes.findIdx fun entry => handle < entry.handle

/-- Add an attribute in the place for its handle, if there is room for it. The answer is that
place. -/
def insert (database : Database) (entry : Attribute) : Except Error Nat × Database :=
  let index := placeFor database.attributes entry.handle
  if database.size < Limits.attributes then
    (.ok index, { database with attributes := database.attributes.insertIdx index entry })
  else
    (.error .noResources, database)

/-- Take away the attribute at a place. -/
def removeAt (database : Database) (index : Nat) : Database :=
  { database with attributes := database.attributes.eraseIdx index }

/-- Replace some bytes in the value of the attribute at a place. -/
def patchAt (database : Database) (index start : Nat) (bytes : List UInt8) :
    Except Error Unit × Database :=
  match database.attributes[index]?.bind fun entry => entry.patch? start bytes with
  | some patched => (.ok (), database.modify index fun _ => patched)
  | none => (.error .invalidArguments, database)

/-- List attributes on the chain, one after the other. -/
def track (database : Database) : List Node → Except Error Unit × Database
  | [] => (.ok (), database)
  | node :: rest =>
    if database.chain.length < Limits.chain then
      track { database with chain := database.chain ++ [node] } rest
    else
      (.error .noResources, database)

/-- Pass the handles that attributes have taken and list them on the chain. -/
def enlist (database : Database) (nodes : List Node) : Except Error Unit × Database :=
  track { database with nextHandle := database.nextHandle + nodes.length } nodes

/-- Add the declaration of a primary service, which is then under construction. A service left
unregistered stays in the database but can no longer be added to. -/
def addService (database : Database) (uuid : Uuid) : Except Error Handle × Database :=
  match database.reserve 1 with
  | .error cause => (.error cause, database)
  | .ok handle =>
    match uuid.write (Bytes.empty Limits.attributeValue) with
    | (.error cause, _) => (.error cause, database)
    | (.ok (), value) =>
      match database.insert (.constant handle .primaryService value) with
      | (.error cause, database) => (.error cause, database)
      | (.ok _, database) =>
        let (outcome, database) :=
          { database with chain := [] }.enlist [⟨handle, .service⟩]
        (outcome.map fun _ => handle, database)

/-- Add the two attributes of a characteristic: its declaration with a handle, and its value with
the next one. If there is no room for the value, the declaration is taken away again. The handle of
the value is written into the declaration when both are there. -/
def insertCharacteristic (database : Database) (handle : Handle) (uuid : Uuid)
    (properties : CharacteristicProperties) (permissions : Permissions) :
    Except Error Unit × Database :=
  match Attribute.blankValue properties uuid with
  | .error cause => (.error cause, database)
  | .ok blank =>
    match database.insert (.constant handle .characteristic blank) with
    | (.error cause, database) => (.error cause, database)
    | (.ok index, database) =>
      match database.insert (.served (handle + 1) uuid permissions) with
      | (.error cause, database) => (.error cause, database.removeAt index)
      | (.ok _, database) =>
        database.patchAt index 1 (LittleEndian.encode 2 (handle + 1).toNat)

/-- Add a characteristic to the service under construction: its declaration and, with the next
handle, its value. The answer is the handle of the value. -/
def addCharacteristic (database : Database) (uuid : Uuid) (properties : CharacteristicProperties)
    (permissions : Permissions) : Except Error Handle × Database :=
  if database.chain.isEmpty then (.error .notAvailable, database)
  else if Limits.chain < database.chain.length + 2 then (.error .noResources, database)
  else
    match database.reserve 2 with
    | .error cause => (.error cause, database)
    | .ok handle =>
      match database.insertCharacteristic handle uuid properties permissions with
      | (.error cause, database) => (.error cause, database)
      | (.ok (), database) =>
        let (outcome, database) :=
          database.enlist [⟨handle, .declaration⟩, ⟨handle + 1, .value⟩]
        (outcome.map fun _ => handle + 1, database)

/-- Add a descriptor to the service under construction. -/
def addDescriptor (database : Database) (uuid : Uuid) (permissions : Permissions) :
    Except Error Handle × Database :=
  if database.chain.isEmpty then (.error .notAvailable, database)
  else if Limits.chain ≤ database.chain.length then (.error .noResources, database)
  else
    match database.reserve 1 with
    | .error cause => (.error cause, database)
    | .ok handle =>
      match database.insert (.served handle uuid permissions) with
      | (.error cause, database) => (.error cause, database)
      | (.ok _, database) =>
        let (outcome, database) := database.enlist [⟨handle, .descriptor⟩]
        (outcome.map fun _ => handle, database)

end BluetoothHost.Database
