import BluetoothHost.Bus.Reply

/-!
# The message bus

Clients reach the host over a message bus, which may lose replies and refuse requests. A bus is
any type with these operations; each returns the bus as it is afterwards.
-/

namespace BluetoothHost

/-- The operations of a message bus. -/
class MessageBus (B : Type) where
  /-- Answer a method call. -/
  sendReply : B → ReplyToken → Reply → Except Error Unit × B
  /-- Ask to be told when a client leaves. -/
  watchDisconnect : B → (client : String) → Option WatchId × B
  /-- End a watch. -/
  removeWatch : B → WatchId → B
  /-- Announce the new value of a property of an object. -/
  propertyChanged : B → (path : String) → Property → B
  /-- Write the value of an object that a client published. -/
  setRemoteValue : B → (client path : String) → List UInt8 → Except Error Unit × B

end BluetoothHost
