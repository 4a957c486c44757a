import BluetoothHost.FirstMatch
import BluetoothHost.Media.Transport.Acquire
import BluetoothHost.Media.Transport.Completion
import BluetoothHost.Media.Transport.Properties
import BluetoothHost.Media.Transport.Release

/-!
# The table of transports

The live transports in the order of their creation. Each has an identifier of 16 bits that no
other live transport has; identifiers are handed out by a counter that wraps around and passes
over those in use. Method calls and reports are routed by identifier or by object path.
-/

namespace BluetoothHost

/-- The live transports. -/
structure TransportTable (S : Type) where
  /-- The transports. -/
  transports : List (Transport S) := []
  /-- Where the search for the next identifier begins. -/
  nextId : UInt16 := 0
  /-- The packet size of voice transports. -/
  voiceMtu : UInt16 := Limits.defaultVoiceMtu

namespace TransportTable

variable {S B A : Type}

/-- The number of live transports. -/
def size (table : TransportTable S) : Nat := table.transports.length

/-- Whether there is no live transport. -/
def isEmpty (table : TransportTable S) : Bool := table.transports.isEmpty

/-- Whether a transport has this identifier. -/
def hasId (id : TransportId) (transport : Transport S) : Bool := transport.id == id

/-- The transport with an identifier. -/
def get? (table : TransportTable S) (id : TransportId) : Option (Transport S) :=
  table.transports.find? (hasId id)

/-- The identifier of the transport whose object has this path. -/
def findPath? (table : TransportTable S) (path : String) : Option TransportId :=
  (table.transports.find? fun transport => transport.path.value == path).map Transport.id

/-- The first identifier from the counter on that no live transport has. Of as many neighbours as
there are transports and one more, some identifier is free. -/
def freeId? (table : TransportTable S) : Option TransportId :=
  ((List.range (table.size + 1)).map fun offset =>
    (⟨table.nextId + UInt16.ofNat offset⟩ : TransportId)).find? fun id => (table.get? id).isNone

/-- Create a transport. A refused configuration uses up an identifier but leaves the list of
transports alone. -/
def create (table : TransportTable S) (config : TransportConfig) (session : S) :
    Except Error TransportId × TransportTable S :=
  if Limits.transports ≤ table.size then (.error .noResources, table)
  else
    match table.freeId? with
    | none => (.error .noResources, table)
    | some id =>
      let table := { table with nextId := id.number + 1 }
      match Transport.create id config session table.voiceMtu with
      | .error cause => (.error cause, table)
      | .ok transport => (.ok id, { table with transports := table.transports ++ [transport] })

/-- The table with the transport of an identifier replaced. -/
def replace (table : TransportTable S) (id : TransportId) (transport : Transport S) :
    TransportTable S :=
  { table with transports := updateFirst (hasId id) (fun _ => transport) table.transports }

/-- Carry out an operation on the transport with an identifier. -/
def act {α : Type} (table : TransportTable S) (id : TransportId)
    (operation : Transport S → Environment B A → Except Error α × Transport S × Environment B A)
    (env : Environment B A) : Except Error α × TransportTable S × Environment B A :=
  match table.get? id with
  | none => (.error .doesNotExist, table, env)
  | some transport =>
    let (outcome, transport, env) := operation transport env
    (outcome, table.replace id transport, env)

/-- Carry out an operation that cannot fail on the transport with an identifier. -/
def apply (table : TransportTable S) (id : TransportId)
    (operation : Transport S → Environment B A → Transport S × Environment B A)
    (env : Environment B A) : Except Error Unit × TransportTable S × Environment B A :=
  table.act id (fun transport env => (.ok (), operation transport env)) env

section Operations

variable [ProfileSession S] [MessageBus B]

/-- Take a transport down and give its session back. -/
def remove (table : TransportTable S) (id : TransportId) (env : Environment B A) :
    Except Error S × TransportTable S × Environment B A :=
  match table.get? id with
  | none => (.error .doesNotExist, table, env)
  | some transport =>
    let (transport, env) := transport.shutDown env
    (.ok transport.session,
      { table with transports := table.transports.eraseP (hasId id) }, env)

/-- A client acquires a transport. -/
def acquire (table : TransportTable S) (id : TransportId) (client : String) (token : ReplyToken)
    (access : String) (env : Environment B A) :
    Except Error Completion × TransportTable S × Environment B A :=
  table.act id (fun transport => transport.acquire client token access) env

/-- A client releases a transport. -/
def release (table : TransportTable S) (id : TransportId) (client : String) (token : ReplyToken)
    (access : String) (env : Environment B A) :
    Except Error Completion × TransportTable S × Environment B A :=
  table.act id (fun transport => transport.release client token access) env

/-- A client sets a property of a transport. -/
def setProperty (table : TransportTable S) (id : TransportId) (client name : String)
    (value : PropertyValue) (env : Environment B A) :
    Except Error Unit × TransportTable S × Environment B A :=
  table.act id (fun transport => transport.setProperty client name value) env

/-- The properties of a transport. -/
def properties (table : TransportTable S) (id : TransportId) : Except Error (List Property) :=
  match table.get? id with
  | none => .error .doesNotExist
  | some transport => transport.properties

/-- The session of a transport finished starting the stream, or failed to. -/
def resumeComplete (table : TransportTable S) (id : TransportId) (client : String)
    (request : RequestId) (result : Except Error Unit) (env : Environment B A) :
    Except Error Unit × TransportTable S × Environment B A :=
  table.apply id (fun transport => transport.resumeComplete client request result) env

/-- The session of a transport finished stopping the stream. -/
def suspendComplete (table : TransportTable S) (id : TransportId) (client : String)
    (request : RequestId) (env : Environment B A) :
    Except Error Unit × TransportTable S × Environment B A :=
  table.apply id (fun transport => transport.suspendComplete client request) env

/-- The device of a transport began or ceased to play. -/
def reportPlaying (table : TransportTable S) (id : TransportId) (playing : Bool)
    (env : Environment B A) : Except Error Unit × TransportTable S × Environment B A :=
  table.apply id (fun transport => transport.reportPlaying playing) env

/-- The device of a transport reported its delay. -/
def reportDelay (table : TransportTable S) (id : TransportId) (delay : UInt16)
    (env : Environment B A) : Except Error Unit × TransportTable S × Environment B A :=
  table.act id (fun transport => transport.reportDelay delay) env

/-- The device of a transport reported its volume. -/
def reportVolume (table : TransportTable S) (id : TransportId) (volume : UInt16)
    (env : Environment B A) : Except Error Unit × TransportTable S × Environment B A :=
  table.act id (fun transport => transport.reportVolume volume) env

/-- A client left the bus: of each of these transports it ceases to be an owner. The number says
how many it owned. -/
def disconnectEach (client : String) :
    List (Transport S) → Environment B A → Nat × List (Transport S) × Environment B A
  | [], env => (0, [], env)
  | transport :: rest, env =>
    let (owned, transport, env) := transport.clientDisconnected client env
    let (count, rest, env) := disconnectEach client rest env
    ((if owned then 1 else 0) + count, transport :: rest, env)

/-- A client left the bus. The number says how many transports it owned. -/
def clientDisconnected (table : TransportTable S) (client : String) (env : Environment B A) :
    Nat × TransportTable S × Environment B A :=
  let (count, transports, env) := disconnectEach client table.transports env
  (count, { table with transports }, env)

end Operations

end TransportTable

end BluetoothHost
