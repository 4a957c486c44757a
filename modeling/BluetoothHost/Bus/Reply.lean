import BluetoothHost.Bus.Property
import BluetoothHost.Media.Stream

/-!
# Replies

A method call is answered once, under the token that came with it.
-/

namespace BluetoothHost

/-- Ties a reply to the method call that it answers. -/
structure ReplyToken where
  /-- The number of the token. -/
  number : UInt32
deriving DecidableEq

/-- Names a watch for the departure of a client. -/
structure WatchId where
  /-- The number of the watch. -/
  number : UInt32
deriving DecidableEq

/-- The answer to a method call. -/
inductive Reply
  /-- The stream as the client may use it. -/
  | acquired (stream : Stream)
  /-- A property list. -/
  | properties (list : List Property)
  /-- Success without a result. -/
  | done
  /-- The cause for which the call is refused. -/
  | error (cause : Error)
deriving DecidableEq

end BluetoothHost
