import BluetoothHost.Bus.Message
import BluetoothHost.Gatt.Server
import BluetoothHost.Journal

/-!
# The environment of the host

The neighbours that the whole host shares are the message bus and the attribute server. They
travel through every operation together with the journal, into which each operation here writes
the call that it makes. Profile sessions live inside the transports that they serve and write
into the same journal, so that the calls to all neighbours stand in one order.
-/

namespace BluetoothHost

/-- The bus and the attribute server, with the journal of all calls so far. -/
structure Environment (B A : Type) where
  /-- The message bus. -/
  bus : B
  /-- The attribute server. -/
  server : A
  /-- The calls so far, the latest last. -/
  journal : List Call := []

namespace Environment

variable {B A : Type}

/-- Write a call into the journal. -/
def record (env : Environment B A) (call : Call) : Environment B A :=
  { env with journal := env.journal ++ [call] }

section Bus

variable [MessageBus B]

/-- Answer a method call. -/
def sendReply (env : Environment B A) (token : ReplyToken) (reply : Reply) :
    Except Error Unit × Environment B A :=
  let (outcome, bus) := MessageBus.sendReply env.bus token reply
  (outcome, { env with bus }.record (.reply token reply outcome.isOk))

/-- Watch for the departure of a client. -/
def watchDisconnect (env : Environment B A) (client : String) :
    Option WatchId × Environment B A :=
  let (watch, bus) := MessageBus.watchDisconnect env.bus client
  (watch, { env with bus }.record (.watch client watch))

/-- End a watch. -/
def removeWatch (env : Environment B A) (watch : WatchId) : Environment B A :=
  { env with bus := MessageBus.removeWatch env.bus watch }.record (.unwatch watch)

/-- Announce the new value of a property. -/
def propertyChanged (env : Environment B A) (path : String) (property : Property) :
    Environment B A :=
  { env with bus := MessageBus.propertyChanged env.bus path property }.record
    (.signal path property)

/-- Write the value of a published object. -/
def setRemoteValue (env : Environment B A) (client path : String) (value : List UInt8) :
    Except Error Unit × Environment B A :=
  let (outcome, bus) := MessageBus.setRemoteValue env.bus client path value
  (outcome, { env with bus }.record (.remoteWrite client path value))

end Bus

section Server

variable [AttributeServer A]

/-- Register a service. -/
def registerService (env : Environment B A) (uuid : Uuid) (size : UInt16) :
    Option Handle × Environment B A :=
  let (handle, server) := AttributeServer.registerService env.server uuid size
  (handle, { env with server }.record (.registerService uuid size handle))

/-- Register a characteristic. -/
def registerCharacteristic (env : Environment B A) (service : Handle) (uuid : Uuid)
    (properties : CharacteristicProperties) (permissions : Permissions) :
    Option Handle × Environment B A :=
  let (handle, server) :=
    AttributeServer.registerCharacteristic env.server service uuid properties permissions
  (handle,
    { env with server }.record (.registerCharacteristic service uuid properties permissions handle))

/-- Register a descriptor. -/
def registerDescriptor (env : Environment B A) (characteristic : Handle) (uuid : Uuid) :
    Option Handle × Environment B A :=
  let (handle, server) := AttributeServer.registerDescriptor env.server characteristic uuid
  (handle, { env with server }.record (.registerDescriptor characteristic uuid handle))

/-- Drop a range of handles. -/
def removeRange (env : Environment B A) (range : HandleRange) : Environment B A :=
  { env with server := AttributeServer.removeRange env.server range }.record (.removeRange range)

/-- Store a new value of a characteristic. -/
def updateValue (env : Environment B A) (uuid : Uuid) (value : List UInt8) :
    Bool × Environment B A :=
  let (accepted, server) := AttributeServer.updateValue env.server uuid value
  (accepted, { env with server }.record (.updateValue uuid value accepted))

/-- Send a value to the peers that asked for it. -/
def notify (env : Environment B A) (uuid : Uuid) (value : List UInt8) : Environment B A :=
  { env with server := AttributeServer.notify env.server uuid value }.record (.notify uuid value)

/-- Send an indication to a peer. -/
def sendIndication (env : Environment B A) (peer : Address) (message : List UInt8) :
    Environment B A :=
  { env with server := AttributeServer.sendIndication env.server peer message }.record
    (.indicate peer message)

end Server

end Environment

end BluetoothHost
