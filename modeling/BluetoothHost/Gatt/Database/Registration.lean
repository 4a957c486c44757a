import BluetoothHost.Gatt.Database
import BluetoothHost.Gatt.ServiceChanged

/-!
# Registering services

The service under construction is registered with the attribute server by one walk along its
chain: handles are reserved for the whole service, then each characteristic and each descriptor
is registered in turn. At the first refusal the walk ends and what was registered is dropped
again. Either way the chain is used up and peers are told which handles are concerned.
-/

namespace BluetoothHost

/-- How far the registration of a service has come. -/
structure Registration where
  /-- The first handle of the service, once the server has accepted it. -/
  first : Option Handle := none
  /-- The highest handle of the service so far. -/
  last : Handle := 0
  /-- The characteristic declared last, until its value has been registered. -/
  declared : Option (CharacteristicProperties × Uuid) := none
  /-- The handle of the value of the latest characteristic. -/
  characteristic : Option Handle := none
deriving DecidableEq

namespace Registration

/-- The handles of the service so far. -/
def range? (registration : Registration) : Option HandleRange :=
  registration.first.map fun first => ⟨first, max registration.last first⟩

/-- The registration with a further handle of the service. -/
def extend (registration : Registration) (handle : Handle) : Registration :=
  { registration with last := max registration.last handle }

end Registration

namespace Database

variable {B A : Type}

/-- The number of handles that an attribute takes up on the server. A characteristic takes one
for its declaration, one for its value and, if its changes are sent to peers, one more for its
configuration. -/
def handlesNeeded (database : Database) (node : Node) : Nat :=
  match node.role with
  | .service | .descriptor => 1
  | .value => 0
  | .declaration =>
    let properties := (database.findHandle? node.handle).bind Attribute.characteristicProperties?
    if properties.any CharacteristicProperties.pushesUpdates then 3 else 2

/-- The number of handles that all attributes of a chain take up on the server. -/
def handlesNeededFor (database : Database) : List Node → Nat
  | [] => 0
  | node :: nodes => database.handlesNeeded node + database.handlesNeededFor nodes

/-- The size under which a chain is registered on the server. -/
def tableSize (database : Database) (chain : List Node) : UInt16 :=
  UInt16.ofNat (min (database.handlesNeededFor chain) 0xFFFF)

/-- Tell the peers that a range has changed, if they are to be told. -/
def announce [AttributeServer A] (database : Database) (range : HandleRange)
    (env : Environment B A) : Environment B A :=
  if database.announces then (env.sendServiceChanged range).2 else env

/-- Register the service itself. -/
def registerService [AttributeServer A] (entry : Attribute) (size : UInt16)
    (registration : Registration) (env : Environment B A) :
    Except Error Unit × Registration × Environment B A :=
  match entry.serviceUuid? with
  | none => (.error .invalidArguments, registration, env)
  | some uuid =>
    match env.registerService uuid size with
    | (none, env) => (.error (.failed "Service registration failed"), registration, env)
    | (some first, env) => (.ok (), { registration with first := some first, last := first }, env)

/-- Take note of what a characteristic declaration declares. -/
def noteDeclaration (entry : Attribute) (registration : Registration) :
    Except Error Unit × Registration :=
  match entry.characteristicProperties?, entry.characteristicUuid? with
  | some properties, some uuid =>
    (.ok (), { registration with declared := some (properties, uuid) })
  | _, _ => (.error .invalidArguments, registration)

/-- Register a characteristic with its value. -/
def registerCharacteristic [AttributeServer A] (entry : Attribute)
    (registration : Registration) (env : Environment B A) :
    Except Error Unit × Registration × Environment B A :=
  match registration.declared, registration.first with
  | some (properties, uuid), some service =>
    let permissions := entry.permissions.getD .none
    match env.registerCharacteristic service uuid properties permissions with
    | (none, env) =>
      (.error (.failed "Characteristic registration failed"), registration, env)
    | (some handle, env) =>
      let last := if properties.pushesUpdates then handleAfter handle else handle
      (.ok (),
        { registration.extend last with declared := none, characteristic := some handle }, env)
  | _, _ => (.error .invalidArguments, registration, env)

/-- Register a descriptor of the latest characteristic. -/
def registerDescriptor [AttributeServer A] (entry : Attribute) (registration : Registration)
    (env : Environment B A) : Except Error Unit × Registration × Environment B A :=
  match registration.characteristic with
  | none => (.error .invalidArguments, registration, env)
  | some characteristic =>
    match env.registerDescriptor characteristic entry.type with
    | (none, env) => (.error (.failed "Descriptor registration failed"), registration, env)
    | (some handle, env) => (.ok (), registration.extend handle, env)

/-- Register one attribute of the chain. -/
def registerNode [AttributeServer A] (database : Database) (size : UInt16) (node : Node)
    (registration : Registration) (env : Environment B A) :
    Except Error Unit × Registration × Environment B A :=
  match database.findHandle? node.handle with
  | none => (.error .doesNotExist, registration, env)
  | some entry =>
    match node.role with
    | .service => registerService entry size registration env
    | .declaration =>
      let (outcome, registration) := noteDeclaration entry registration
      (outcome, registration, env)
    | .value => registerCharacteristic entry registration env
    | .descriptor => registerDescriptor entry registration env

/-- Register the attributes of a chain in order, up to the first refusal. -/
def registerNodes [AttributeServer A] (database : Database) (size : UInt16) :
    List Node → Registration → Environment B A →
      Except Error Unit × Registration × Environment B A
  | [], registration, env => (.ok (), registration, env)
  | node :: nodes, registration, env =>
    match database.registerNode size node registration env with
    | (.error cause, registration, env) => (.error cause, registration, env)
    | (.ok (), registration, env) => database.registerNodes size nodes registration env

/-- Remember the handles that the server gave to the service declared at a handle. -/
def rememberRange (database : Database) (service : Handle) (range : HandleRange) : Database :=
  match database.position? service with
  | none => database
  | some index => database.modify index fun entry => { entry with range := some range }

/-- The local handles from the head of a chain to its end. -/
def localRange (head : Node) (chain : List Node) : HandleRange :=
  ⟨head.handle, max (chain.getLast?.getD head).handle head.handle⟩

/-- Register the service under construction. The answer is its range of handles on the server.
When the server refuses the service itself, no handle of the server is concerned and peers are
told the local handles that the service had. -/
def materialize [AttributeServer A] (database : Database) (env : Environment B A) :
    Except Error HandleRange × Database × Environment B A :=
  let consumed := { database with chain := [] }
  match database.chain with
  | [] => (.error .notAvailable, consumed, env)
  | head :: rest =>
    if head.role = .service then
      let chain := head :: rest
      let (outcome, registration, env) :=
        database.registerNodes (database.tableSize chain) chain {} env
      match outcome, registration.range? with
      | .ok (), some range =>
        (.ok range, consumed.rememberRange head.handle range, database.announce range env)
      | .ok (), none =>
        (.error .notAvailable, consumed, database.announce (localRange head chain) env)
      | .error cause, some range =>
        (.error cause, consumed, database.announce range (env.removeRange range))
      | .error cause, none =>
        (.error cause, consumed, database.announce (localRange head chain) env)
    else
      (.error .notAvailable, consumed, env)

/-- Remove the service declared at a handle with everything up to the next service declaration.
If it was registered, its handles on the server are dropped and peers are told. -/
def removeService [AttributeServer A] (database : Database) (service : Handle)
    (env : Environment B A) : Except Error Unit × Database × Environment B A :=
  match database.position? service with
  | none => (.error .doesNotExist, database, env)
  | some index =>
    match database.attributes.drop index with
    | [] => (.error .doesNotExist, database, env)
    | declaration :: above =>
      if declaration.isService then
        let env :=
          match declaration.range with
          | none => env
          | some range => database.announce range (env.removeRange range)
        let attributes := database.attributes.take index ++
          above.dropWhile fun entry => !entry.isService
        let chain :=
          if database.chain.head?.any fun head => head.handle == service then []
          else database.chain
        (.ok (), { database with attributes, chain }, env)
      else
        (.error .invalidArguments, database, env)

end Database

end BluetoothHost
