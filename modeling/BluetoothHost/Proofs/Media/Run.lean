import BluetoothHost.Proofs.Media.Operations

/-!
# Runs of a transport

Clients, the session and the device act on a transport in any order, and between two operations
the session and the bus may go on by themselves. A run is a list of such moves. Each move makes
one change to a sound transport, so that a run keeps it sound.
-/

namespace BluetoothHost.Transport

/-- What can befall a transport. -/
inductive Move (S B : Type)
  /-- A client acquires it. -/
  | acquire (client : String) (token : ReplyToken) (access : String)
  /-- A client releases it. -/
  | release (client : String) (token : ReplyToken) (access : String)
  /-- The session finished starting the stream, or failed to. -/
  | resumeComplete (client : String) (id : RequestId) (result : Except Error Unit)
  /-- The session finished stopping the stream. -/
  | suspendComplete (client : String) (id : RequestId)
  /-- The device began or ceased to play. -/
  | reportPlaying (playing : Bool)
  /-- A client left the bus. -/
  | clientDisconnected (client : String)
  /-- A client sets a property. -/
  | setProperty (client name : String) (value : PropertyValue)
  /-- The device reported its delay. -/
  | reportDelay (delay : UInt16)
  /-- The device reported its volume. -/
  | reportVolume (volume : UInt16)
  /-- It is taken down. -/
  | shutDown
  /-- Its session and the bus have gone on by themselves. -/
  | evolve (session : S) (bus : B)

variable {S B A : Type} [ProfileSession S] [MessageBus B]

/-- The transport and its neighbours after a move. -/
def perform (transport : Transport S) (move : Move S B) (env : Environment B A) :
    Transport S × Environment B A :=
  match move with
  | .acquire client token access => (transport.acquire client token access env).2
  | .release client token access => (transport.release client token access env).2
  | .resumeComplete client id result => transport.resumeComplete client id result env
  | .suspendComplete client id => transport.suspendComplete client id env
  | .reportPlaying playing => transport.reportPlaying playing env
  | .clientDisconnected client => (transport.clientDisconnected client env).2
  | .setProperty client name value => (transport.setProperty client name value env).2
  | .reportDelay delay => (transport.reportDelay delay env).2
  | .reportVolume volume => (transport.reportVolume volume env).2
  | .shutDown => transport.shutDown env
  | .evolve session bus => ({ transport with session }, { env with bus })

/-- The transport and its neighbours after a list of moves. -/
def run (transport : Transport S) : List (Move S B) → Environment B A →
    Transport S × Environment B A
  | [], env => (transport, env)
  | move :: moves, env =>
    let (transport, env) := transport.perform move env
    transport.run moves env

/-- A run goes on from where it got to. -/
theorem run_append (transport : Transport S) (earlier later : List (Move S B))
    (env : Environment B A) :
    transport.run (earlier ++ later) env =
      (transport.run earlier env).1.run later (transport.run earlier env).2 := by
  induction earlier generalizing transport env with
  | nil => rfl
  | cons move moves ih => exact ih _ _

/-- The operation that a move completes: a report of the session completes the one that is in
flight under the same names, other moves complete none. -/
def completion (transport : Transport S) : Move S B → Option Operation
  | .resumeComplete client id _ => transport.reported client .acquire id
  | .suspendComplete client id => transport.reported client .release id
  | _ => none

/-- Whether a move is a client asking for the transport or giving it up. -/
def Move.isRequest {S B : Type} : Move S B → Bool
  | .acquire _ _ _ | .release _ _ _ => true
  | _ => false

/-- Every other move is something that a sound transport reacts to. -/
theorem perform_reaction {transport : Transport S} (sound : transport.Sound) {move : Move S B}
    (other : move.isRequest = false) (env : Environment B A) :
    ∃ calls, env.Makes calls (transport.perform move env).2 ∧
      Reaction transport (transport.completion move) (transport.perform move env).1 calls := by
  cases move with
  | acquire | release => cases other
  | resumeComplete client id result => exact resumeComplete_reaction sound client id result env
  | suspendComplete client id => exact transport.suspendComplete_reaction client id env
  | reportPlaying playing => exact transport.reportPlaying_reaction playing env
  | clientDisconnected client => exact transport.clientDisconnected_reaction client env
  | setProperty client name value => exact transport.setProperty_reaction client name value env
  | reportDelay delay => exact transport.reportDelay_reaction delay env
  | reportVolume volume => exact transport.reportVolume_reaction volume env
  | shutDown =>
    obtain ⟨calls, made, exodus⟩ := transport.shutDown_exodus env
    exact ⟨calls, made, .emptied exodus⟩
  | evolve session bus =>
    have step := @Reaction.adjusted S _ transport transport.endpoint session [] (by simp)
    exact ⟨[], env.makes_nil, step⟩

/-- Every move makes one change to a sound transport. -/
theorem perform_change {transport : Transport S} (sound : transport.Sound) (move : Move S B)
    (env : Environment B A) :
    ∃ calls, env.Makes calls (transport.perform move env).2 ∧
      Change transport (transport.completion move) (transport.perform move env).1 calls := by
  cases request : move.isRequest with
  | false =>
    obtain ⟨calls, made, step⟩ := perform_reaction sound request env
    exact ⟨calls, made, .reacting step⟩
  | true =>
    cases move with
    | acquire client token access =>
      obtain ⟨calls, made, step⟩ := acquire_acquiring sound client token access env
      exact ⟨calls, made, .acquiring step⟩
    | release client token access =>
      obtain ⟨calls, made, step⟩ := release_releasing sound client token access env
      exact ⟨calls, made, .releasing step⟩
    | _ => cases request

/-- A move keeps a transport sound. -/
theorem perform_sound {transport : Transport S} (sound : transport.Sound) (move : Move S B)
    (env : Environment B A) : (transport.perform move env).1.Sound := by
  obtain ⟨_, -, change⟩ := perform_change sound move env
  exact change.sound sound

/-- A run keeps a transport sound. -/
theorem run_sound {transport : Transport S} (sound : transport.Sound) (moves : List (Move S B))
    (env : Environment B A) : (transport.run moves env).1.Sound := by
  induction moves generalizing transport env with
  | nil => exact sound
  | cons move moves ih => exact ih (perform_sound sound move env) _

/-- A transport is sound after every run from its creation. -/
theorem run_created_sound {id : TransportId} {config : TransportConfig} {session : S}
    {voiceMtu : UInt16} {transport after : Transport S}
    (created : create id config session voiceMtu = .ok transport) {moves : List (Move S B)}
    {env later : Environment B A} (ran : transport.run moves env = (after, later)) :
    after.Sound := by
  have sound := run_sound (sound_create created) moves env
  rwa [ran] at sound

/-! ### Plain neighbours -/

/-- A session that grants its lock to one user at a time and accepts every request. -/
structure PlainSession where
  /-- Whether the lock is taken. -/
  locked : Bool := false
  /-- Whether the device plays. -/
  playing : Bool := false
  /-- The number of the next request. -/
  next : UInt32 := 0
deriving DecidableEq

/-- The stream of a plain session is always known. -/
instance : ProfileSession PlainSession where
  label _ := 0
  lock session := (!session.locked, { session with locked := true })
  unlock session := { session with locked := false }
  resume session _ := (some ⟨session.next⟩, { session with next := session.next + 1 })
  suspend session _ := (some ⟨session.next⟩, { session with next := session.next + 1 })
  cancel session _ := session
  stream _ := some { descriptor := 3, readMtu := 672, writeMtu := 895 }
  isPlaying session := session.playing

/-- A bus that takes every reply and grants every watch under the same number. -/
inductive PlainBus
  /-- It remembers nothing. -/
  | ready
deriving DecidableEq

/-- A plain bus never refuses. -/
instance : MessageBus PlainBus where
  sendReply bus _ _ := (.ok (), bus)
  watchDisconnect bus _ := (some ⟨0⟩, bus)
  removeWatch bus _ := bus
  propertyChanged bus _ _ := bus
  setRemoteValue bus _ _ _ := (.ok (), bus)

/-- A plain bus, no attribute server, and nothing called so far. -/
def plainEnvironment : Environment PlainBus Unit where
  bus := .ready
  server := ()

/-- A configuration of an audio stream towards the device. -/
def plainConfig : TransportConfig where
  device := ⟨#v[0, 0, 0, 0, 0, 1]⟩
  devicePath := "/org/bluez/hci0/dev_01"
  uuid := Uuid.audioSink
  codec := 0
  configuration := []

/-- A fresh transport over a plain session. -/
def plainTransport (playing : Bool) : Transport PlainSession where
  id := ⟨0⟩
  path := ⟨"/org/bluez/hci0/dev_01/fd0", by decide⟩
  device := plainConfig.device
  devicePath := ⟨"/org/bluez/hci0/dev_01", by decide⟩
  uuid := Uuid.audioSink
  codec := 0
  configuration := .empty _
  endpoint := .audio .sink 0 none
  session := { playing }
  owners := .empty
  lock := .none
  phase := .idle
  stream := none

/-- The plain transport is the one that is created for the configuration. -/
theorem create_plain (playing : Bool) :
    create ⟨0⟩ plainConfig { playing } Limits.defaultVoiceMtu = .ok (plainTransport playing) := by
  rfl

end BluetoothHost.Transport
