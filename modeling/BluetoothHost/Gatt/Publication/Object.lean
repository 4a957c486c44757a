import BluetoothHost.Bytes
import BluetoothHost.Gatt.Characteristic
import BluetoothHost.Gatt.Handle
import BluetoothHost.Text
import BluetoothHost.Uuid.Text

/-!
# Published objects

A client implements a service as objects of its own on the bus: one for the service and, below
it, one for each characteristic and descriptor. The host keeps what it has been told of each.
-/

namespace BluetoothHost

/-- What an object stands for. -/
inductive GattInterface
  /-- A service. -/
  | service
  /-- A characteristic. -/
  | characteristic
  /-- A descriptor. -/
  | descriptor
deriving DecidableEq

namespace GattInterface

/-- The name of the interface on the bus. -/
def name : GattInterface → String
  | service => "org.bluez.GattService1"
  | characteristic => "org.bluez.GattCharacteristic1"
  | descriptor => "org.bluez.GattDescriptor1"

/-- The interface with a name. -/
def ofName? (name : String) : Option GattInterface :=
  [service, characteristic, descriptor].find? fun candidate => candidate.name == name

end GattInterface

/-- The flags that a client published with an object. -/
inductive PublishedFlags
  /-- None were published. -/
  | absent
  /-- Some flag is unknown, or the list is empty. -/
  | unusable
  /-- They name these properties. -/
  | named (properties : CharacteristicProperties)
deriving DecidableEq

namespace PublishedFlags

/-- What a list of flags says. -/
def ofList (flags : List String) : PublishedFlags :=
  match CharacteristicProperties.ofFlags? flags with
  | some properties => named properties
  | none => unusable

end PublishedFlags

/-- An object of a client's service. -/
structure PublishedObject where
  /-- Its path. -/
  path : ObjectPath
  /-- What it stands for. -/
  interface : GattInterface
  /-- Its UUID, if a valid one was published. -/
  uuid : Option Uuid := none
  /-- Its flags. -/
  flags : PublishedFlags := .absent
  /-- The value last published. -/
  value : AttributeValue := Bytes.empty Limits.attributeValue
  /-- The attribute that was built for it. -/
  linked : Option Handle := none
deriving DecidableEq

namespace PublishedObject

/-- An object of which only the path is known. -/
def create (path : String) (interface : GattInterface) : Except Error PublishedObject :=
  match Text.ofString? Limits.objectPath path with
  | some path => .ok { path, interface }
  | none => .error .invalidArguments

/-- The object with a UUID given as text; text that is no UUID leaves it without one. -/
def withUuid (object : PublishedObject) (text : String) : PublishedObject :=
  { object with uuid := (Uuid.parse text).toOption }

/-- The object with a list of flags. -/
def withFlags (object : PublishedObject) (flags : List String) : PublishedObject :=
  { object with flags := .ofList flags }

/-- The object with a value. -/
def withValue (object : PublishedObject) (value : List UInt8) : Except Error PublishedObject :=
  match Bytes.ofList? Limits.attributeValue value with
  | some value => .ok { object with value }
  | none => .error .noResources

/-- The properties of a characteristic, as far as the flags are usable. -/
def properties (object : PublishedObject) : Except Error CharacteristicProperties :=
  match object.flags with
  | .absent => .ok .unflagged
  | .named properties => .ok properties
  | .unusable => .error .invalidArguments

/-- Whether the object has this path. -/
def hasPath (path : String) (object : PublishedObject) : Bool := object.path.value == path

/-- Whether the path of the object is `root` or continues it with a further segment. -/
def isUnder (object : PublishedObject) (root : String) : Bool :=
  let path := object.path.value.toList
  root.toList.isPrefixOf path &&
    match path.drop root.toList.length with
    | [] => true
    | next :: _ => next == '/'

end PublishedObject

end BluetoothHost
