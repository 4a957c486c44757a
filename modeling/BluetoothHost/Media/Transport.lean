import BluetoothHost.Media.Endpoint
import BluetoothHost.Media.Owner

/-!
# Media transports

A transport is one configured stream of a device. Clients own it by holding a lock on it; its
phase follows their requests, the answers of the profile session and what the device plays.

```text
idle    --acquire-->              requesting --started--> active
idle    --playback-->             pending    --acquire, started--> active
active  --last owner releases-->  suspending --stopped--> idle or pending
```

This module holds the transport, its creation and the two steps that all operations share:
`moveTo`, which changes the phase and announces it, and `removeOwner`, which ends an ownership in
whatever condition it is.
-/

namespace BluetoothHost

/-- Names a transport among those of the host. -/
structure TransportId where
  /-- The number of the transport. -/
  number : UInt16
deriving DecidableEq

/-- What a device and the host agreed on for a stream. -/
structure TransportConfig where
  /-- The device. -/
  device : Address
  /-- The object path of the device. -/
  devicePath : String
  /-- The service under which the stream was configured. -/
  uuid : Uuid
  /-- The codec. -/
  codec : UInt8
  /-- The configuration of the codec. -/
  configuration : List UInt8
deriving DecidableEq

/-- Whether a method call has been settled or will be answered later. -/
inductive Completion
  /-- It succeeded and can be answered. -/
  | done
  /-- It was answered already or will be when the session reports. -/
  | pending
deriving DecidableEq

/-- One configured stream of a device. -/
structure Transport (S : Type) where
  /-- The name of the transport. -/
  id : TransportId
  /-- The path of its object. -/
  path : ObjectPath
  /-- The device. -/
  device : Address
  /-- The path of the object of the device. -/
  devicePath : ObjectPath
  /-- The service under which the stream was configured. -/
  uuid : Uuid
  /-- The codec. -/
  codec : UInt8
  /-- The configuration of the codec. -/
  configuration : Configuration
  /-- The kind of endpoint with what it remembers. -/
  endpoint : Endpoint
  /-- The profile session. -/
  session : S
  /-- The owners. -/
  owners : OwnerSet
  /-- Every direction that is held. -/
  lock : Lock
  /-- The phase. -/
  phase : Phase
  /-- The stream found when it was last started. -/
  stream : Option Stream
deriving DecidableEq

namespace Transport

variable {S B A : Type}

/-- The text of the object path of a transport. -/
def pathText (devicePath : String) (id : TransportId) : String :=
  devicePath ++ "/fd" ++ toString id.number.toNat

/-- A fresh transport for a configuration. -/
def create (id : TransportId) (config : TransportConfig) (session : S) (voiceMtu : UInt16) :
    Except Error (Transport S) :=
  match Endpoint.ofUuid config.uuid voiceMtu with
  | .error cause => .error cause
  | .ok endpoint =>
    match Text.ofString? Limits.objectPath config.devicePath,
        Text.ofString? Limits.objectPath (pathText config.devicePath id) with
    | some devicePath, some path =>
      match Bytes.ofList? Limits.configuration config.configuration with
      | none => .error .noResources
      | some configuration =>
        .ok {
          id, path, device := config.device, devicePath, uuid := config.uuid
          codec := config.codec, configuration, endpoint, session
          owners := .empty, lock := .none, phase := .idle, stream := none }
    | _, _ => .error .invalidArguments

/-- Move to a phase; clients are told when the word that they see for it changes. -/
def moveTo [MessageBus B] (transport : Transport S) (phase : Phase) (env : Environment B A) :
    Transport S × Environment B A :=
  ({ transport with phase },
    if transport.phase.text = phase.text then env
    else env.propertyChanged transport.path.value ⟨"State", .text phase.text⟩)

variable [ProfileSession S] [MessageBus B]

/-- Fail a request in flight: the session is told unless it has reported already, and the method
call is answered with an input/output error. -/
def abandon (transport : Transport S) (request : Request) (env : Environment B A) :
    Transport S × Environment B A :=
  let (transport, env) :=
    match request.id with
    | none => (transport, env)
    | some id =>
      let (session, env) := Session.cancel transport.session id env
      ({ transport with session }, env)
  (transport, (env.sendReply request.token (.error .inputOutput)).2)

/-- Give up the session once nobody uses the transport any more. -/
def settle (transport : Transport S) (env : Environment B A) : Transport S × Environment B A :=
  if transport.owners.isEmpty && transport.phase.inUse then
    let (phase, session, env) := Session.settle transport.session env
    { transport with session }.moveTo phase env
  else
    (transport, env)

/-- End the ownership of a client. What it held becomes free, its request in flight fails and its
watch ends; with the last owner of a transport in use the session is given up. -/
def removeOwner (transport : Transport S) (client : String) (env : Environment B A) :
    Transport S × Environment B A :=
  match transport.owners.get? client with
  | none => (transport, env)
  | some owner =>
    let transport := { transport with
      owners := transport.owners.erase client
      lock := transport.lock &&& ~~~owner.lock }
    let (transport, env) :=
      match owner.pending with
      | none => (transport, env)
      | some request => transport.abandon request env
    let env :=
      match owner.watch with
      | none => env
      | some watch => env.removeWatch watch
    transport.settle env

/-- End the ownership of each of these clients in turn. -/
def removeOwners (transport : Transport S) (clients : List ClientName) (env : Environment B A) :
    Transport S × Environment B A :=
  match clients with
  | [] => (transport, env)
  | client :: clients =>
    let (transport, env) := transport.removeOwner client.value env
    transport.removeOwners clients env

/-- End every ownership, the oldest first. -/
def removeAllOwners (transport : Transport S) (env : Environment B A) :
    Transport S × Environment B A :=
  transport.removeOwners (transport.owners.owners.map Owner.client) env

/-- A client left the bus, so its watch has fired already. The truth value says whether it was an
owner. -/
def clientDisconnected (transport : Transport S) (client : String) (env : Environment B A) :
    Bool × Transport S × Environment B A :=
  if transport.owners.contains client then
    let owners := transport.owners.modify client fun owner => { owner with watch := none }
    let (transport, env) := { transport with owners }.removeOwner client env
    (true, transport, env)
  else
    (false, transport, env)

/-- Take the transport down: every ownership ends and the stream is forgotten. -/
def shutDown (transport : Transport S) (env : Environment B A) : Transport S × Environment B A :=
  let (transport, env) := transport.removeAllOwners env
  ({ transport with stream := none }, env)

end Transport

end BluetoothHost
