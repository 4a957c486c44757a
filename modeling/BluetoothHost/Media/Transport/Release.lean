import BluetoothHost.Media.Transport

/-!
# Releasing a transport

An owner gives up directions that it holds. One that gives up all of them leaves; the last owner
of a running stream leaves only after the session has stopped the stream.
-/

namespace BluetoothHost.Transport

variable {S B A : Type} [ProfileSession S] [MessageBus B]

/-- Have the stream stopped for the last owner, which leaves at once if there is nothing to wait
for. -/
def suspend (transport : Transport S) (client : String) (token : ReplyToken)
    (env : Environment B A) : Completion × Transport S × Environment B A :=
  let (transport, env) := transport.moveTo .suspending env
  match Session.suspend transport.session client env with
  | (some id, session, env) =>
    let owners := transport.owners.modify client fun owner =>
      { owner with pending := some { kind := .release, token, id := some id } }
    (.pending, { transport with session, owners }, env)
  | (none, session, env) =>
    let (transport, env) := { transport with session }.removeOwner client env
    (.done, transport, env)

/-- An owner gives up everything that it holds. Where other owners remain, or its acquire is still
in flight, it leaves at once; a release that is in flight already has to be waited for. -/
def releaseAll (transport : Transport S) (client : String) (pending : Option Request)
    (token : ReplyToken) (env : Environment B A) :
    Except Error Completion × Transport S × Environment B A :=
  if 1 < transport.owners.size ∨ pending.any fun request => request.kind == .acquire then
    let (transport, env) := transport.removeOwner client env
    (.ok .done, transport, env)
  else if pending.isSome then
    (.error .alreadyInProgress, transport, env)
  else
    let (completion, transport, env) := transport.suspend client token env
    (.ok completion, transport, env)

/-- A client releases the transport in the directions of an access string. -/
def release (transport : Transport S) (client : String) (token : ReplyToken) (access : String)
    (env : Environment B A) : Except Error Completion × Transport S × Environment B A :=
  match transport.owners.get? client with
  | none => (.error .notAuthorized, transport, env)
  | some owner =>
    let lock := (Access.parse access).lock
    if lock.isEmpty then (.error .invalidArguments, transport, env)
    else if lock = owner.lock then transport.releaseAll client owner.pending token env
    else if owner.lock.contains lock then
      let owners := transport.owners.modify client fun record =>
        { record with lock := owner.lock &&& ~~~lock }
      (.ok .done, { transport with owners, lock := transport.lock &&& ~~~lock }, env)
    else (.error .notAuthorized, transport, env)

end BluetoothHost.Transport
