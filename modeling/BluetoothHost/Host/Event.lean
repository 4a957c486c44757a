import BluetoothHost.Gatt.Publication.Object
import BluetoothHost.Media.Transport

/-!
# Events

Everything that the host reacts to: method calls and news from bus clients, and reports from the
profile layer.
-/

namespace BluetoothHost

/-- A method call of a bus client. -/
inductive MethodCall
  /-- Acquire a transport with an access string. -/
  | acquire (transport : ObjectPath) (access : AccessText)
  /-- Release a transport in the directions of an access string. -/
  | release (transport : ObjectPath) (access : AccessText)
  /-- Read the properties of a transport. -/
  | getProperties (transport : ObjectPath)
  /-- Set a property of a transport. -/
  | setProperty (transport : ObjectPath) (name : PropertyName) (value : PropertyValue)
  /-- Register a service that the client implements. -/
  | registerService (path : ObjectPath)
  /-- Give up a service. -/
  | unregisterService (path : ObjectPath)
deriving DecidableEq

/-- What the host reacts to. -/
inductive Event (S : Type)
  /-- A client called a method. -/
  | methodCall (client : ClientName) (token : ReplyToken) (call : MethodCall)
  /-- The profile layer configured a stream. -/
  | transportConfigured (device : Address) (devicePath : ObjectPath) (uuid : Uuid) (codec : UInt8)
      (configuration : Configuration) (session : S)
  /-- The profile layer closed a transport. -/
  | transportClosed (transport : ObjectPath)
  /-- A session finished starting the stream for a client, or failed to. -/
  | resumeComplete (transport : ObjectPath) (client : ClientName) (request : RequestId)
      (result : Except Error Unit)
  /-- A session finished stopping the stream for a client. -/
  | suspendComplete (transport : ObjectPath) (client : ClientName) (request : RequestId)
  /-- A device began or ceased to play. -/
  | playbackChanged (transport : ObjectPath) (playing : Bool)
  /-- A device reported its delay in tenths of a millisecond. -/
  | delayReported (transport : ObjectPath) (delay : UInt16)
  /-- A device reported its volume. -/
  | volumeReported (transport : ObjectPath) (volume : UInt16)
  /-- A client left the bus. -/
  | clientDisconnected (client : ClientName)
  /-- A client published an object. -/
  | objectPublished (client : ClientName) (object : PublishedObject)
  /-- A client withdrew an object. -/
  | objectWithdrawn (client : ClientName) (path : ObjectPath)
  /-- A client says that all objects of a service are known. -/
  | clientReady (client : ClientName) (path : ObjectPath)
  /-- A client published a new value of an object. -/
  | valueChanged (client : ClientName) (path : ObjectPath) (value : AttributeValue)

end BluetoothHost
