import BluetoothHost.Environment
import BluetoothHost.Media.Phase

/-!
# Profile sessions

A session is the audio or voice connection under a transport, run by the profile layer. It has
one lock, by which users of the connection keep out of each other's way, and it starts and stops
its stream on request: a request is accepted under an identifier and reported complete later. A
session is any type with these operations; each returns the session as it is afterwards.
-/

namespace BluetoothHost

/-- The operations of a profile session. Those that only some profiles have come with the answer
of a session that lacks them. -/
class ProfileSession (S : Type) where
  /-- The label under which calls to the session are written down. -/
  label : S → Nat
  /-- Take the lock; the answer is whether it was granted. -/
  lock : S → Bool × S
  /-- Give the lock back. -/
  unlock : S → S
  /-- Start the stream for a client; a refusal has no request. -/
  resume : S → (client : String) → Option RequestId × S
  /-- Stop the stream for a client; without a request it has stopped at once. -/
  suspend : S → (client : String) → Option RequestId × S
  /-- Call a request off. -/
  cancel : S → RequestId → S
  /-- The stream, once there is one. -/
  stream : S → Option Stream
  /-- Whether the device plays. -/
  isPlaying : S → Bool
  /-- Set the volume of the device. -/
  setVolume : S → UInt8 → Except Error Unit × S := fun session _ => (.error .notSupported, session)
  /-- Whether noise reduction is on. -/
  noiseReduction : S → Bool := fun _ => false
  /-- Switch noise reduction. -/
  setNoiseReduction : S → Bool → Except Error Unit × S := fun session _ => (.ok (), session)
  /-- Whether the ringtone comes within the voice stream. -/
  inbandRingtone : S → Bool := fun _ => false
  /-- Switch the ringtone within the voice stream. -/
  setInbandRingtone : S → Bool → Except Error Unit × S := fun session _ => (.ok (), session)
  /-- Whether voice packets pass through the host controller interface. -/
  voiceOverHci : S → Bool := fun _ => true

namespace Session

variable {S B A : Type} [ProfileSession S]

/-- Write a call to a session into the journal. -/
def record (session : S) (call : SessionCall) (env : Environment B A) : Environment B A :=
  env.record (.session (ProfileSession.label session) call)

/-- Take the lock. -/
def lock (session : S) (env : Environment B A) : Bool × S × Environment B A :=
  let (granted, session') := ProfileSession.lock session
  (granted, session', record session (.lock granted) env)

/-- Give the lock back. -/
def unlock (session : S) (env : Environment B A) : S × Environment B A :=
  (ProfileSession.unlock session, record session .unlock env)

/-- Ask for the stream to start. -/
def requestStart (session : S) (client : String) (env : Environment B A) :
    Option RequestId × S × Environment B A :=
  let (request, session') := ProfileSession.resume session client
  (request, session', record session (.resume client request) env)

/-- Ask for the stream to stop. -/
def suspend (session : S) (client : String) (env : Environment B A) :
    Option RequestId × S × Environment B A :=
  let (request, session') := ProfileSession.suspend session client
  (request, session', record session (.suspend client request) env)

/-- Call a request off. -/
def cancel (session : S) (request : RequestId) (env : Environment B A) : S × Environment B A :=
  (ProfileSession.cancel session request, record session (.cancel request) env)

/-- Set the volume. -/
def setVolume (session : S) (level : UInt8) (env : Environment B A) :
    Except Error Unit × S × Environment B A :=
  let (outcome, session') := ProfileSession.setVolume session level
  (outcome, session', record session (.setVolume level) env)

/-- Switch noise reduction. -/
def setNoiseReduction (session : S) (enabled : Bool) (env : Environment B A) :
    Except Error Unit × S × Environment B A :=
  let (outcome, session') := ProfileSession.setNoiseReduction session enabled
  (outcome, session', record session (.setNoiseReduction enabled) env)

/-- Switch the ringtone within the voice stream. -/
def setInbandRingtone (session : S) (enabled : Bool) (env : Environment B A) :
    Except Error Unit × S × Environment B A :=
  let (outcome, session') := ProfileSession.setInbandRingtone session enabled
  (outcome, session', record session (.setInbandRingtone enabled) env)

/-- Start the stream for a client. A session that is not in use is locked first, and unlocked
again if it then refuses to start. -/
def start (session : S) (inUse : Bool) (client : String) (env : Environment B A) :
    Option RequestId × S × Environment B A :=
  if inUse then
    requestStart session client env
  else
    match lock session env with
    | (false, session, env) => (none, session, env)
    | (true, session, env) =>
      match requestStart session client env with
      | (some request, session, env) => (some request, session, env)
      | (none, session, env) => (none, unlock session env)

/-- Give up the use of the session; a transport is then pending or idle, as the device plays or
does not. -/
def settle (session : S) (env : Environment B A) : Phase × S × Environment B A :=
  (if ProfileSession.isPlaying session then .pending else .idle, unlock session env)

end Session

end BluetoothHost
