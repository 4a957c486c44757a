import BluetoothHost.Bus.Reply
import BluetoothHost.Gatt.Characteristic
import BluetoothHost.Gatt.Handle

/-!
# The journal of calls

The host acts on a message bus, an attribute server and profile sessions. Every call that can
change one of them is written down with the answer that was given. The journal decides nothing;
it is what statements about the conduct of the host speak of.
-/

namespace BluetoothHost

/-- Names a request that a profile session is working on. -/
structure RequestId where
  /-- The number of the request. -/
  number : UInt32
deriving DecidableEq

/-- A call to a profile session, with its answer. -/
inductive SessionCall
  /-- The session was asked for its lock. -/
  | lock (granted : Bool)
  /-- The lock was given back. -/
  | unlock
  /-- The session was asked to start its stream for a client. -/
  | resume (client : String) (request : Option RequestId)
  /-- The session was asked to stop its stream for a client. -/
  | suspend (client : String) (request : Option RequestId)
  /-- A request was called off. -/
  | cancel (request : RequestId)
  /-- The volume was to be set. -/
  | setVolume (level : UInt8)
  /-- Noise reduction was to be switched. -/
  | setNoiseReduction (enabled : Bool)
  /-- The ringtone within the voice stream was to be switched. -/
  | setInbandRingtone (enabled : Bool)
deriving DecidableEq

/-- A call to a neighbour of the host, with its answer. -/
inductive Call
  /-- A method call was answered; `accepted` says whether the bus took the reply. -/
  | reply (token : ReplyToken) (reply : Reply) (accepted : Bool)
  /-- A watch for a client was asked for. -/
  | watch (client : String) (watch : Option WatchId)
  /-- A watch was ended. -/
  | unwatch (watch : WatchId)
  /-- The new value of a property was announced. -/
  | signal (path : String) (property : Property)
  /-- The value of a published object was to be written. -/
  | remoteWrite (client path : String) (value : List UInt8)
  /-- A profile session was called; sessions are told apart by their labels. -/
  | session (label : Nat) (call : SessionCall)
  /-- A service was to be registered. -/
  | registerService (uuid : Uuid) (size : UInt16) (handle : Option Handle)
  /-- A characteristic was to be registered. -/
  | registerCharacteristic (service : Handle) (uuid : Uuid) (properties : CharacteristicProperties)
      (permissions : Permissions) (handle : Option Handle)
  /-- A descriptor was to be registered. -/
  | registerDescriptor (characteristic : Handle) (uuid : Uuid) (handle : Option Handle)
  /-- A range of handles was dropped. -/
  | removeRange (range : HandleRange)
  /-- A new value was to be stored. -/
  | updateValue (uuid : Uuid) (value : List UInt8) (accepted : Bool)
  /-- A value was sent to peers. -/
  | notify (uuid : Uuid) (value : List UInt8)
  /-- An indication was sent to a peer. -/
  | indicate (peer : Address) (message : List UInt8)
deriving DecidableEq

end BluetoothHost
