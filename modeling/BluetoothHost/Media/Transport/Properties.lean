import BluetoothHost.Media.Transport

/-!
# Properties of a transport

Clients read the properties that all transports have and those of the kind of endpoint; owners
may set some of the latter. The device reports playback, delay and volume from its side.
-/

namespace BluetoothHost.Transport

variable {S B A : Type}

/-- The properties that every transport has. -/
def commonProperties (transport : Transport S) : List Property :=
  [⟨"Device", .path transport.devicePath⟩, ⟨"UUID", .uuid transport.uuid⟩,
    ⟨"Codec", .byte transport.codec⟩, ⟨"Configuration", .bytes transport.configuration⟩,
    ⟨"State", .text transport.phase.text⟩]

/-- All properties of a transport, the common ones first. -/
def properties [ProfileSession S] (transport : Transport S) : Except Error (List Property) :=
  match Property.append [] transport.commonProperties with
  | (.error cause, _) => .error cause
  | (.ok (), list) =>
    match Property.append list (transport.endpoint.properties transport.session) with
    | (.error cause, _) => .error cause
    | (.ok (), list) => .ok list

/-- A client sets a property; only owners may. -/
def setProperty [ProfileSession S] (transport : Transport S) (client name : String)
    (value : PropertyValue) (env : Environment B A) :
    Except Error Unit × Transport S × Environment B A :=
  if transport.owners.contains client then
    let (outcome, endpoint, session, env) :=
      transport.endpoint.setProperty name value transport.session env
    (outcome, { transport with endpoint, session }, env)
  else
    (.error .invalidArguments, transport, env)

/-- The device reported its delay; clients are told when it is new. -/
def reportDelay [MessageBus B] (transport : Transport S) (delay : UInt16) (env : Environment B A) :
    Except Error Unit × Transport S × Environment B A :=
  match transport.endpoint.reportDelay? delay with
  | none => (.error .notSupported, transport, env)
  | some (isNew, endpoint) =>
    (.ok (), { transport with endpoint },
      if isNew then env.propertyChanged transport.path.value ⟨"Delay", .uint16 delay⟩ else env)

/-- The device reported its volume; clients are told when it is new. -/
def reportVolume [MessageBus B] (transport : Transport S) (volume : UInt16)
    (env : Environment B A) : Except Error Unit × Transport S × Environment B A :=
  if volume > Limits.volume then (.error .invalidArguments, transport, env)
  else
    match transport.endpoint.reportVolume? volume with
    | none => (.error .notSupported, transport, env)
    | some (isNew, endpoint) =>
      (.ok (), { transport with endpoint },
        if isNew then env.propertyChanged transport.path.value ⟨"Volume", .uint16 volume⟩ else env)

/-- The device began or ceased to play. A transport that is not in use follows it, and a running
stream that ceases is taken from all owners; while the session starts or stops the stream, nothing
changes. -/
def reportPlaying [ProfileSession S] [MessageBus B] (transport : Transport S) (playing : Bool)
    (env : Environment B A) : Transport S × Environment B A :=
  match playing, transport.phase with
  | true, .idle => transport.moveTo .pending env
  | false, .pending => transport.moveTo .idle env
  | false, .active => transport.removeAllOwners env
  | _, _ => (transport, env)

end BluetoothHost.Transport
