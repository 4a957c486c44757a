import BluetoothHost.Address
import BluetoothHost.Gatt.Characteristic
import BluetoothHost.Gatt.Handle
import BluetoothHost.Uuid

/-!
# The attribute server

The server speaks the attribute protocol with peers. It assigns the handles that peers see, and
it may refuse whatever it is asked for. A server is any type with these operations; each returns
the server as it is afterwards.
-/

namespace BluetoothHost

/-- A remote device known to the attribute server. -/
structure Peer where
  /-- Its address. -/
  address : Address
  /-- Whether it is trusted. -/
  trusted : Bool
  /-- Whether it is connected. -/
  connected : Bool
deriving DecidableEq

/-- The operations of an attribute server. -/
class AttributeServer (A : Type) where
  /-- Reserve handles for a service; the answer is the first of them. -/
  registerService : A → Uuid → (size : UInt16) → Option Handle × A
  /-- Register a characteristic of a service; the answer is the handle of its value. -/
  registerCharacteristic :
    A → (service : Handle) → Uuid → CharacteristicProperties → Permissions → Option Handle × A
  /-- Register a descriptor of a characteristic; the answer is its handle. -/
  registerDescriptor : A → (characteristic : Handle) → Uuid → Option Handle × A
  /-- Drop every handle of a range. -/
  removeRange : A → HandleRange → A
  /-- Store a new value of a characteristic; the answer is whether it was taken. -/
  updateValue : A → Uuid → List UInt8 → Bool × A
  /-- Send the value of a characteristic to the peers that asked for it. -/
  notify : A → Uuid → List UInt8 → A
  /-- The remote devices known at present. -/
  peers : A → List Peer
  /-- Send a raw indication to a peer. -/
  sendIndication : A → Address → List UInt8 → A

end BluetoothHost
