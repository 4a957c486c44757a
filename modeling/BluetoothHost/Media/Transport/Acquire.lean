import BluetoothHost.Media.Transport

/-!
# Acquiring a transport

A client asks for a lock with an access string. On an active transport it joins the owners and
is given the stream at once; otherwise the session is asked to start the stream and the call is
answered when the session reports. A refused call leaves the transport as it was.
-/

namespace BluetoothHost.Transport

variable {S B A : Type} [ProfileSession S] [MessageBus B]

/-- Whether a client may ask for this access now; the first objection that applies is given. -/
def admission (transport : Transport S) (client : String) (access : Access) :
    Except Error ClientName :=
  if transport.owners.contains client then .error .notAuthorized
  else if access.lock.isEmpty then .error .invalidArguments
  else if access.weak ∧ transport.phase ≠ .pending then .error .notPlaying
  else if transport.lock.intersects access.lock then .error .notAuthorized
  else if transport.owners.hasInFlight then .error .alreadyInProgress
  else if Limits.owners ≤ transport.owners.size then .error .noResources
  else
    match Text.ofString? Limits.clientName client with
    | some name => .ok name
    | none => .error .invalidArguments

/-- Join the owners of a running stream. The client is an owner only once the bus has taken the
reply that gives it the stream. -/
def join (transport : Transport S) (client : ClientName) (token : ReplyToken) (lock : Lock)
    (stream : Stream) (env : Environment B A) :
    Except Error Completion × Transport S × Environment B A :=
  match env.sendReply token (.acquired (stream.masked lock)) with
  | (.error cause, env) => (.error cause, transport, env)
  | (.ok (), env) =>
    let (watch, env) := env.watchDisconnect client.value
    match transport.owners.insert { client, lock, watch } with
    | .error cause => (.error cause, transport, env)
    | .ok owners =>
      (.ok .pending, { transport with owners, lock := transport.lock ||| lock }, env)

/-- Have the stream started for the first owner. Directions are taken before the session is asked
and given back when it refuses. -/
def request (transport : Transport S) (client : ClientName) (token : ReplyToken) (lock : Lock)
    (env : Environment B A) : Except Error Completion × Transport S × Environment B A :=
  let locked := transport.lock ||| lock
  match Session.start transport.session transport.phase.inUse client.value env with
  | (none, session, env) =>
    (.error .notAuthorized, { transport with session, lock := locked &&& ~~~lock }, env)
  | (some id, session, env) =>
    let (watch, env) := env.watchDisconnect client.value
    let pending : Request := { kind := .acquire, token, id := some id }
    match transport.owners.insert { client, lock, pending, watch } with
    | .error cause =>
      let (session, env) := Session.cancel session id env
      (.error cause, { transport with session, lock := locked &&& ~~~lock }, env)
    | .ok owners =>
      let transport := { transport with session, owners, lock := locked }
      let (transport, env) :=
        if transport.phase = .idle then transport.moveTo .requesting env else (transport, env)
      (.ok .pending, transport, env)

/-- A client acquires the transport. -/
def acquire (transport : Transport S) (client : String) (token : ReplyToken) (access : String)
    (env : Environment B A) : Except Error Completion × Transport S × Environment B A :=
  let access := Access.parse access
  match transport.admission client access with
  | .error cause => (.error cause, transport, env)
  | .ok name =>
    match transport.phase, transport.stream with
    | .active, some stream => transport.join name token access.lock stream env
    | _, _ => transport.request name token access.lock env

end BluetoothHost.Transport
