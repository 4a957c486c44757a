import BluetoothHost.Media.Transport

/-!
# Reports of the profile session

The session reports a request complete by its client and identifier. A report that does not match
the request in flight of that client, in kind and identifier, is passed over.
-/

namespace BluetoothHost.Transport

variable {S B A : Type} [ProfileSession S] [MessageBus B]

/-- The owner whose request in flight has this kind and identifier, with that request. -/
def awaiting? (transport : Transport S) (client : String) (kind : RequestKind) (id : RequestId) :
    Option (Owner × Request) :=
  match transport.owners.get? client with
  | none => none
  | some owner =>
    match owner.pending with
    | none => none
    | some request =>
      if request.kind = kind ∧ request.id = some id then some (owner, request) else none

/-- Give the stream that was started to the owner that waits for it. An owner that the reply does
not reach loses its lock again. -/
def deliver (transport : Transport S) (owner : Owner) (token : ReplyToken) (stream : Stream)
    (env : Environment B A) : Transport S × Environment B A :=
  let client := owner.client.value
  let transport := { transport with stream := some stream }
  match env.sendReply token (.acquired (stream.masked owner.lock)) with
  | (.error _, env) => transport.removeOwner client env
  | (.ok (), env) =>
    let owners := transport.owners.modify client fun owner => { owner with pending := none }
    { transport with owners }.moveTo .active env

/-- The session finished starting the stream for a client, or failed to. -/
def resumeComplete (transport : Transport S) (client : String) (id : RequestId)
    (result : Except Error Unit) (env : Environment B A) : Transport S × Environment B A :=
  match transport.awaiting? client .acquire id with
  | none => (transport, env)
  | some (owner, request) =>
    let owners := transport.owners.modify client fun owner =>
      { owner with pending := some { request with id := none } }
    let transport := { transport with owners }
    match result, transport.endpoint.stream transport.session with
    | .ok (), some stream => transport.deliver owner request.token stream env
    | _, _ => transport.removeOwner client env

/-- The session finished stopping the stream for a client, which thereby leaves. -/
def suspendComplete (transport : Transport S) (client : String) (id : RequestId)
    (env : Environment B A) : Transport S × Environment B A :=
  match transport.awaiting? client .release id with
  | none => (transport, env)
  | some (_, request) =>
    let owners := transport.owners.modify client fun owner => { owner with pending := none }
    let env := (env.sendReply request.token .done).2
    { transport with owners }.removeOwner client env

end BluetoothHost.Transport
