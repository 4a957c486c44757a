import BluetoothHost.Error
import BluetoothHost.Gatt.Attribute

/-!
# The local database

The attributes of all local services in ascending order of their handles. Handles come from a
counter that only grows, so none is given out twice. While a service is under construction, its
attributes are listed on a chain, from which the service is registered afterwards. The value of a
characteristic always has the handle behind that of its declaration.
-/

namespace BluetoothHost

/-- What an attribute is within its service. -/
inductive NodeRole
  /-- The declaration of the service. -/
  | service
  /-- The declaration of a characteristic. -/
  | declaration
  /-- The value of a characteristic. -/
  | value
  /-- A descriptor of a characteristic. -/
  | descriptor
deriving DecidableEq

/-- An attribute of the service under construction. -/
structure Node where
  /-- Its handle. -/
  handle : Handle
  /-- What it is within the service. -/
  role : NodeRole
deriving DecidableEq

/-- The attributes of all local services. -/
structure Database where
  /-- The attributes in ascending order of their handles. -/
  attributes : List Attribute := []
  /-- The attributes of the service under construction, in the order of their creation. -/
  chain : List Node := []
  /-- The next handle to be given out; beyond the highest handle when none is left. -/
  nextHandle : Nat := Limits.firstHandle.toNat
  /-- Whether peers are told about changes. -/
  announces : Bool := true
deriving DecidableEq

namespace Database

/-- The number of attributes. -/
def size (database : Database) : Nat := database.attributes.length

/-- Whether there is no attribute. -/
def isEmpty (database : Database) : Bool := database.attributes.isEmpty

/-- The next handle to be given out, while there is one. -/
def nextHandle? (database : Database) : Option Handle :=
  if database.nextHandle ≤ Limits.lastHandle.toNat then some (UInt16.ofNat database.nextHandle)
  else none

/-- Binary search for a handle among attributes in ascending order. Each step halves the list, so
as many steps as there are attributes are always enough. -/
def search (handle : Handle) : (steps : Nat) → List Attribute → Option Nat
  | 0, _ => none
  | steps + 1, attributes =>
    let middle := attributes.length / 2
    match attributes.drop middle with
    | [] => none
    | entry :: above =>
      if entry.handle = handle then some middle
      else if handle < entry.handle then search handle steps (attributes.take middle)
      else (search handle steps above).map fun index => middle + 1 + index

/-- The place of the attribute with a handle. -/
def position? (database : Database) (handle : Handle) : Option Nat :=
  search handle database.attributes.length database.attributes

/-- The attribute with a handle. -/
def findHandle? (database : Database) (handle : Handle) : Option Attribute :=
  (database.position? handle).bind fun index => database.attributes[index]?

/-- The place of the first attribute found under a UUID. -/
def positionOf? (database : Database) (uuid : Uuid) : Option Nat :=
  database.attributes.findIdx? fun entry => entry.isFoundUnder uuid

/-- The first attribute found under a UUID. -/
def findUuid? (database : Database) (uuid : Uuid) : Option Attribute :=
  database.attributes.find? fun entry => entry.isFoundUnder uuid

/-- The range of handles of the first registered service that declares a UUID. -/
def serviceRange? (database : Database) (uuid : Uuid) : Option HandleRange :=
  (database.attributes.filter fun entry => entry.declaresService uuid).findSome?
    Attribute.range

/-- Change the attribute at a place. -/
def modify (database : Database) (index : Nat) (change : Attribute → Attribute) : Database :=
  { database with attributes := database.attributes.modify index change }

end Database

end BluetoothHost
