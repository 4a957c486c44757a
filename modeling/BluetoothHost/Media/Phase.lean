/-!
# Phases of a transport

A transport moves from idle to active when a client acquires it and back when the last owner
leaves. Clients see a coarser picture: a transport that waits for its stream to start still
looks idle, and one that waits for its stream to stop still looks active.
-/

namespace BluetoothHost

/-- The phase in which a transport is. -/
inductive Phase
  /-- Nobody uses the transport and nothing plays. -/
  | idle
  /-- Nobody uses the transport though the device plays. -/
  | pending
  /-- The first client waits for the stream to start. -/
  | requesting
  /-- The stream runs for its owners. -/
  | active
  /-- The last owner waits for the stream to stop. -/
  | suspending
deriving DecidableEq

namespace Phase

/-- Whether the transport is being used, so that its session is locked. -/
def inUse : Phase → Bool
  | idle | pending => false
  | requesting | active | suspending => true

/-- The word that clients see for a phase. -/
def text : Phase → String
  | idle | requesting => "idle"
  | pending => "pending"
  | active | suspending => "active"

end Phase

end BluetoothHost
