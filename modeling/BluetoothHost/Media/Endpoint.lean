import BluetoothHost.Limits
import BluetoothHost.Media.Session

/-!
# Endpoints

The service UUID under which a connection was made decides what kind of endpoint a transport
has. Audio endpoints remember the delay and the volume of the device; voice endpoints have one
packet size for both directions, set by the host. The kind decides which stream clients are given
and which properties the transport has beside the common ones.
-/

namespace BluetoothHost

/-- The direction of an audio endpoint. -/
inductive AudioRole
  /-- The device sends. -/
  | source
  /-- The device receives. -/
  | sink
deriving DecidableEq

/-- The endpoint of a transport. -/
inductive Endpoint
  /-- Audio, with the delay in tenths of a millisecond and the volume once it is known. -/
  | audio (role : AudioRole) (delay : UInt16) (volume : Option UInt16)
  /-- Voice, with the device as the headset and the host as its gateway. -/
  | headset (mtu : UInt16)
  /-- Voice, with the device as the gateway and the host as its headset. -/
  | gateway (mtu : UInt16)
deriving DecidableEq

namespace Endpoint

/-- The endpoint for a service, if the service is one of those that carry a stream. -/
def ofUuid (uuid : Uuid) (voiceMtu : UInt16) : Except Error Endpoint :=
  if uuid ≈ Uuid.audioSource then .ok (audio .source 0 none)
  else if uuid ≈ Uuid.audioSink then .ok (audio .sink 0 none)
  else if uuid ≈ Uuid.handsFreeGateway ∨ uuid ≈ Uuid.headsetGateway then .ok (headset voiceMtu)
  else if uuid ≈ Uuid.handsFree ∨ uuid ≈ Uuid.headset then .ok (gateway voiceMtu)
  else .error .invalidArguments

/-- The endpoint after the device reported its delay, or nothing if it has no delay. The truth
value says whether the delay is new. -/
def reportDelay? (endpoint : Endpoint) (delay : UInt16) : Option (Bool × Endpoint) :=
  match endpoint with
  | audio role known volume => some (known != delay, audio role delay volume)
  | _ => none

/-- The endpoint after the device reported its volume, or nothing if it has no volume. The truth
value says whether the volume is new. -/
def reportVolume? (endpoint : Endpoint) (volume : UInt16) : Option (Bool × Endpoint) :=
  match endpoint with
  | audio role delay known => some (known != some volume, audio role delay (some volume))
  | _ => none

section Session

variable {S B A : Type} [ProfileSession S]

/-- The stream that clients are given. -/
def stream (endpoint : Endpoint) (session : S) : Option Stream :=
  match endpoint with
  | audio _ _ _ => ProfileSession.stream session
  | headset mtu | gateway mtu =>
    (ProfileSession.stream session).map fun stream => stream.withMtu mtu

/-- The properties that the kind of endpoint adds; a volume beyond the highest is not shown. -/
def properties (endpoint : Endpoint) (session : S) : List Property :=
  match endpoint with
  | audio _ delay volume =>
    ⟨"Delay", .uint16 delay⟩ ::
      ((volume.filter (· ≤ Limits.volume)).map fun level => ⟨"Volume", .uint16 level⟩).toList
  | headset _ =>
    [⟨"NREC", .bool (ProfileSession.noiseReduction session)⟩,
      ⟨"InbandRingtone", .bool (ProfileSession.inbandRingtone session)⟩,
      ⟨"Routing", .text (if ProfileSession.voiceOverHci session then "HCI" else "PCM")⟩]
  | gateway _ => []

/-- Set the volume of an audio endpoint. The session is told only of a volume that is new, and
the endpoint remembers only a volume that the session took. -/
def setVolume (role : AudioRole) (delay : UInt16) (known : Option UInt16) (value : PropertyValue)
    (session : S) (env : Environment B A) :
    Except Error Unit × Endpoint × S × Environment B A :=
  let kept := audio role delay known
  match value.uint16? with
  | none => (.error .invalidArguments, kept, session, env)
  | some volume =>
    if volume > Limits.volume then (.error .invalidArguments, kept, session, env)
    else if known = some volume then (.ok (), kept, session, env)
    else
      match Session.setVolume session volume.toUInt8 env with
      | (.error cause, session, env) => (.error cause, kept, session, env)
      | (.ok (), session, env) => (.ok (), audio role delay (some volume), session, env)

/-- Set the delay of an audio endpoint. -/
def setDelay (role : AudioRole) (delay : UInt16) (volume : Option UInt16) (value : PropertyValue) :
    Except Error Unit × Endpoint :=
  match value.uint16? with
  | none => (.error .invalidArguments, audio role delay volume)
  | some delay => (.ok (), audio role delay volume)

/-- Set a property that the kind of endpoint adds, where it can be set. A headset looks at the
type of the value before it looks at the name. -/
def setProperty (endpoint : Endpoint) (name : String) (value : PropertyValue) (session : S)
    (env : Environment B A) : Except Error Unit × Endpoint × S × Environment B A :=
  match endpoint with
  | audio role delay volume =>
    if name = "Delay" then
      let (outcome, endpoint) := setDelay role delay volume value
      (outcome, endpoint, session, env)
    else if name = "Volume" then setVolume role delay volume value session env
    else (.error .invalidArguments, endpoint, session, env)
  | headset _ =>
    match value.bool? with
    | none => (.error .invalidArguments, endpoint, session, env)
    | some enabled =>
      if name = "NREC" then
        let (outcome, session, env) := Session.setNoiseReduction session enabled env
        (outcome, endpoint, session, env)
      else if name = "InbandRingtone" then
        let (outcome, session, env) := Session.setInbandRingtone session enabled env
        (outcome, endpoint, session, env)
      else (.error .invalidArguments, endpoint, session, env)
  | gateway _ => (.error .invalidArguments, endpoint, session, env)

end Session

end Endpoint

end BluetoothHost
