import BluetoothHost.Proofs.Media.Announcements

/-!
# Playback and the state at rest

A transport that nobody owns shows whether the device plays. While a client waits for the stream, or
has it, what the device reports is passed over, and the session is asked again once the last owner
has left. No report is lost thereby: what is kept at all times is only that an idle transport is not
playing and a pending one is. An acquire of a pending transport leaves it pending, so that reports
are still followed until its stream has started.
-/

namespace BluetoothHost

/-- The host's calls to a session have no influence on whether the device plays. -/
structure SteadyPlayback (S : Type) [ProfileSession S] : Prop where
  /-- Taking the lock. -/
  lock : ∀ session : S, ProfileSession.isPlaying (ProfileSession.lock session).2 =
    ProfileSession.isPlaying session
  /-- Giving the lock back. -/
  unlock : ∀ session : S, ProfileSession.isPlaying (ProfileSession.unlock session) =
    ProfileSession.isPlaying session
  /-- Starting the stream. -/
  resume : ∀ (session : S) client,
    ProfileSession.isPlaying (ProfileSession.resume session client).2 =
      ProfileSession.isPlaying session
  /-- Stopping the stream. -/
  suspend : ∀ (session : S) client,
    ProfileSession.isPlaying (ProfileSession.suspend session client).2 =
      ProfileSession.isPlaying session
  /-- Calling a request off. -/
  cancel : ∀ (session : S) id, ProfileSession.isPlaying (ProfileSession.cancel session id) =
    ProfileSession.isPlaying session
  /-- Setting the volume. -/
  setVolume : ∀ (session : S) level,
    ProfileSession.isPlaying (ProfileSession.setVolume session level).2 =
      ProfileSession.isPlaying session
  /-- Switching noise reduction. -/
  setNoiseReduction : ∀ (session : S) enabled,
    ProfileSession.isPlaying (ProfileSession.setNoiseReduction session enabled).2 =
      ProfileSession.isPlaying session
  /-- Switching the ringtone. -/
  setInbandRingtone : ∀ (session : S) enabled,
    ProfileSession.isPlaying (ProfileSession.setInbandRingtone session enabled).2 =
      ProfileSession.isPlaying session

namespace Transport

variable {S B A : Type} [ProfileSession S]

/-- The session tells whether the device plays, and a transport at rest shows it. -/
structure Tuned (playing : Bool) (transport : Transport S) : Prop where
  /-- The session knows. -/
  known : ProfileSession.isPlaying transport.session = playing
  /-- An idle transport is not playing. -/
  idle : transport.phase = .idle → playing = false
  /-- A pending transport is playing. -/
  pending : transport.phase = .pending → playing = true

/-! ### What every change keeps -/

section Changes

variable {playing : Bool} {before prior after : Transport S} {client : String}
  {token : ReplyToken} {outcome : Except Error Completion} {completed : Option Operation}
  {owner record : Owner} {remaining : List Owner} {calls : List Call}

/-- Another session that says the same will do. -/
theorem Tuned.of_session (tuned : Tuned playing before) (phase : after.phase = before.phase)
    (same : ProfileSession.isPlaying after.session = ProfileSession.isPlaying before.session) :
    Tuned playing after where
  known := same.trans tuned.known
  idle := fun idle => tuned.idle (phase.symm.trans idle)
  pending := fun pending => tuned.pending (phase.symm.trans pending)

/-- While the transport is in use its phase shows nothing of playback. -/
theorem Tuned.of_inUse (known : ProfileSession.isPlaying after.session = playing)
    (used : after.phase.inUse = true) : Tuned playing after where
  known := known
  idle := by
    intro idle
    rw [idle] at used
    cases used
  pending := by
    intro pending
    rw [pending] at used
    cases used

/-- The phase in which a session is left shows what it says of playback. -/
theorem Tuned.of_restPhase {session : S} (known : ProfileSession.isPlaying after.session = playing)
    (same : ProfileSession.isPlaying session = playing)
    (rest : after.phase = restPhase session) : Tuned playing after where
  known := known
  idle := by
    intro idle
    rw [rest, restPhase, same] at idle
    cases playing
    · rfl
    · cases idle
  pending := by
    intro pending
    rw [rest, restPhase, same] at pending
    cases playing
    · cases pending
    · rfl

variable (steady : SteadyPlayback S)
include steady

/-- Dismissing a request does not change what plays. -/
theorem Dismissal.isPlaying_eq {session later : S} {pending : Option Request}
    (dismissal : Dismissal session pending later calls) :
    ProfileSession.isPlaying later = ProfileSession.isPlaying session := by
  cases dismissal with
  | cancelled => exact steady.cancel _ _
  | _ => rfl

/-- Once the last owner has left the session is asked, and before it has gone on. -/
theorem Departure.tuned (departure : Departure before record remaining after calls)
    (tuned : Tuned playing before) : Tuned playing after := by
  cases departure with
  | stays dismissed _ => exact tuned.of_session rfl (dismissed.isPlaying_eq steady)
  | settles dismissed _ _ =>
    have same := (dismissed.isPlaying_eq steady).trans tuned.known
    exact .of_restPhase ((steady.unlock _).trans same) same rfl

/-- The end of a request keeps a transport tuned. -/
theorem Ending.tuned (ending : Ending before owner completed record prior calls)
    (tuned : Tuned playing before) : Tuned playing prior := by
  cases ending with
  | suspended _ _ _ stopped =>
    have same := steady.suspend before.session owner.client.value
    rw [stopped] at same
    exact .of_inUse (same.trans tuned.known) rfl
  | undelivered => exact tuned.of_session rfl rfl
  | _ => exact tuned

/-- A client that leaves does. -/
theorem Leaving.tuned (leaving : Leaving before client completed after calls)
    (tuned : Tuned playing before) : Tuned playing after := by
  obtain ⟨-, ending, departure⟩ := leaving
  exact departure.tuned steady (ending.tuned steady tuned)

/-- So does the departure of all owners. -/
theorem Exodus.tuned (exodus : Exodus before after calls) (tuned : Tuned playing before) :
    Tuned playing after := by
  induction exodus with
  | done => exact tuned.of_session rfl rfl
  | next _ departure _ ih => exact ih (departure.tuned steady tuned)

/-- A transport that is acquired is in use, unless it stays pending. -/
theorem Acquiring.tuned (step : Acquiring before client token outcome after calls)
    (tuned : Tuned playing before) : Tuned playing after := by
  cases step with
  | refused => exact tuned
  | undelivered => exact tuned
  | locked _ denied =>
    have same := steady.lock before.session
    rw [denied] at same
    exact tuned.of_session rfl same
  | @unstarted locked session _ granted denied =>
    have taken := steady.lock before.session
    have asked := steady.resume locked client
    rw [granted] at taken
    rw [denied] at asked
    exact tuned.of_session rfl ((steady.unlock session).trans (asked.trans taken))
  | joined => exact tuned.of_session rfl rfl
  | @started _ _ _ _ locked session _ _ _ granted accepted =>
    have taken := steady.lock before.session
    have asked := steady.resume locked client
    rw [granted] at taken
    rw [accepted] at asked
    have same : ProfileSession.isPlaying session = playing :=
      asked.trans (taken.trans tuned.known)
    by_cases idle : before.phase = .idle
    · exact .of_inUse same (by simp [idle, Phase.inUse])
    · exact tuned.of_session (if_neg idle) (asked.trans taken)

/-- So does a release. -/
theorem Releasing.tuned (step : Releasing before client token outcome after calls)
    (tuned : Tuned playing before) : Tuned playing after := by
  cases step with
  | refused => exact tuned
  | narrowed => exact tuned.of_session rfl rfl
  | left leaving => exact leaving.tuned steady tuned
  | suspending _ _ _ _ accepted =>
    have same := steady.suspend before.session client
    rw [accepted] at same
    exact .of_inUse (same.trans tuned.known) rfl

/-- A request that is reported complete leaves the transport in use, or without its last owner. -/
theorem Reaction.tuned {operation : Operation}
    (step : Reaction before (some operation) after calls) (tuned : Tuned playing before) :
    Tuned playing after := by
  cases step with
  | leaving step => exact step.tuned steady tuned
  | granted => exact .of_inUse tuned.known rfl

end Changes

/-! ### What every operation keeps -/

section Operations

variable {playing : Bool} {transport : Transport S}

/-- The volume is set without an influence on playback. -/
theorem setVolume_isPlaying (steady : SteadyPlayback S) (role : AudioRole) (delay : UInt16)
    (known : Option UInt16) (value : PropertyValue) (session : S) (env : Environment B A) :
    ProfileSession.isPlaying (Endpoint.setVolume role delay known value session env).2.2.1 =
      ProfileSession.isPlaying session := by
  unfold Endpoint.setVolume
  cases value.uint16? with
  | none => rfl
  | some volume =>
    have same := steady.setVolume session volume.toUInt8
    dsimp only
    split
    · rfl
    · split
      · rfl
      · unfold Session.setVolume
        revert same
        rcases ProfileSession.setVolume session volume.toUInt8 with ⟨_ | _, after⟩ <;>
          exact fun same => same

/-- So is every property of an endpoint. -/
theorem setEndpoint_isPlaying (steady : SteadyPlayback S) (endpoint : Endpoint) (name : String)
    (value : PropertyValue) (session : S) (env : Environment B A) :
    ProfileSession.isPlaying (endpoint.setProperty name value session env).2.2.1 =
      ProfileSession.isPlaying session := by
  cases endpoint with
  | audio role delay known =>
    unfold Endpoint.setProperty
    dsimp only
    split
    · rfl
    · split
      · exact setVolume_isPlaying steady role delay known value session env
      · rfl
  | headset mtu =>
    unfold Endpoint.setProperty
    cases value.bool? with
    | none => rfl
    | some enabled =>
      dsimp only
      split
      · exact steady.setNoiseReduction session enabled
      · split
        · exact steady.setInbandRingtone session enabled
        · rfl
  | gateway mtu => rfl

variable [MessageBus B]

/-- A report of the playback that the session knows brings a transport at rest to show it. -/
theorem reportPlaying_tuned (steady : SteadyPlayback S)
    (known : ProfileSession.isPlaying transport.session = playing) (env : Environment B A) :
    Tuned playing (transport.reportPlaying playing env).1 := by
  unfold reportPlaying
  split
  · exact ⟨known, nofun, fun _ => rfl⟩
  · exact ⟨known, fun _ => rfl, nofun⟩
  · rename_i active
    obtain ⟨_, -, exodus⟩ := @removeOwners_exodus S B A _ _ transport _ rfl env
    have tuned : Tuned false transport := .of_inUse known (by rw [active]; rfl)
    exact (exodus _).tuned steady tuned
  · rename_i notIdle notPending _
    refine ⟨known, fun idle => ?_, fun pending => ?_⟩
    · apply Bool.eq_false_iff.mpr
      intro plays
      exact notIdle plays idle
    · apply eq_true_of_ne_false
      intro ceased
      exact notPending ceased pending

/-- The end of a request is passed over, or brings a transport to rest, or into use. -/
theorem resumeComplete_tuned (steady : SteadyPlayback S) (sound : transport.Sound)
    (tuned : Tuned playing transport) (client : String) (id : RequestId)
    (result : Except Error Unit) (env : Environment B A) :
    Tuned playing (transport.resumeComplete client id result env).1 := by
  obtain ⟨_, -, step⟩ := resumeComplete_reaction sound client id result env
  unfold reported at step
  cases awaiting : transport.awaiting? client .acquire id with
  | none =>
    simp only [resumeComplete, awaiting]
    exact tuned
  | some found =>
    rw [awaiting] at step
    exact step.tuned steady tuned

/-- So is the end of a release. -/
theorem suspendComplete_tuned (steady : SteadyPlayback S) (tuned : Tuned playing transport)
    (client : String) (id : RequestId) (env : Environment B A) :
    Tuned playing (transport.suspendComplete client id env).1 := by
  obtain ⟨_, -, step⟩ := transport.suspendComplete_reaction client id env
  unfold reported at step
  cases awaiting : transport.awaiting? client .release id with
  | none =>
    simp only [suspendComplete, awaiting]
    exact tuned
  | some found =>
    rw [awaiting] at step
    exact step.tuned steady tuned

/-- A client that leaves the bus leaves a transport at rest, or to others. -/
theorem clientDisconnected_tuned (steady : SteadyPlayback S) (tuned : Tuned playing transport)
    (client : String) (env : Environment B A) :
    Tuned playing (transport.clientDisconnected client env).2.1 := by
  rcases transport.clientDisconnected_cases client env with ⟨-, passed⟩ | ⟨_, -, leaving⟩
  · rw [passed]
    exact tuned
  · exact leaving.tuned steady tuned

omit [MessageBus B] in
/-- Settings have nothing to do with playback. -/
theorem setProperty_tuned (steady : SteadyPlayback S) (tuned : Tuned playing transport)
    (client name : String) (value : PropertyValue) (env : Environment B A) :
    Tuned playing (transport.setProperty client name value env).2.1 := by
  unfold setProperty
  split
  · exact tuned.of_session rfl (setEndpoint_isPlaying steady _ name value _ env)
  · exact tuned

/-- Nor has the delay of the device. -/
theorem reportDelay_tuned (tuned : Tuned playing transport) (delay : UInt16)
    (env : Environment B A) : Tuned playing (transport.reportDelay delay env).2.1 := by
  unfold reportDelay
  split
  · exact tuned
  · exact tuned.of_session rfl rfl

/-- Nor has its volume. -/
theorem reportVolume_tuned (tuned : Tuned playing transport) (volume : UInt16)
    (env : Environment B A) : Tuned playing (transport.reportVolume volume env).2.1 := by
  unfold reportVolume
  split
  · exact tuned
  · split
    · exact tuned
    · exact tuned.of_session rfl rfl

/-- Whether a move brings news of playback, from the session or the device. -/
def Move.isNews : Move S B → Bool
  | .evolve _ _ | .reportPlaying _ => true
  | _ => false

/-- Other moves neither change playback nor lose it. -/
theorem perform_tuned (steady : SteadyPlayback S) (sound : transport.Sound)
    (tuned : Tuned playing transport) {move : Move S B} (silent : move.isNews = false)
    (env : Environment B A) : Tuned playing (transport.perform move env).1 := by
  cases move with
  | acquire client token access =>
    obtain ⟨_, -, step⟩ := acquire_acquiring sound client token access env
    exact step.tuned steady tuned
  | release client token access =>
    obtain ⟨_, -, step⟩ := release_releasing sound client token access env
    exact step.tuned steady tuned
  | resumeComplete client id result =>
    exact resumeComplete_tuned steady sound tuned client id result env
  | suspendComplete client id => exact suspendComplete_tuned steady tuned client id env
  | clientDisconnected client => exact clientDisconnected_tuned steady tuned client env
  | setProperty client name value => exact setProperty_tuned steady tuned client name value env
  | reportDelay delay => exact reportDelay_tuned tuned delay env
  | reportVolume volume => exact reportVolume_tuned tuned volume env
  | shutDown =>
    obtain ⟨_, -, exodus⟩ := transport.shutDown_exodus env
    exact exodus.tuned steady tuned
  | evolve => cases silent
  | reportPlaying => cases silent

end Operations

/-! ### Runs -/

section Runs

/-- In these moves the device plays or not as the session says, at first as the former truth value
and in the end as the latter: whenever the session comes to say otherwise, the transport is told. -/
inductive Reported : Bool → List (Move S B) → Bool → Prop
  /-- Nothing happens. -/
  | done (playing : Bool) : Reported playing [] playing
  /-- Something else happens. -/
  | silent {playing last : Bool} {move : Move S B} {moves : List (Move S B)}
      (silent : move.isNews = false) (rest : Reported playing moves last) :
      Reported playing (move :: moves) last
  /-- The session goes on and says the same. -/
  | same {last : Bool} {moves : List (Move S B)} (session : S) (bus : B)
      (rest : Reported (ProfileSession.isPlaying session) moves last) :
      Reported (ProfileSession.isPlaying session) (.evolve session bus :: moves) last
  /-- The session goes on, and the transport is told what it says then. -/
  | changed {playing last : Bool} {moves : List (Move S B)} (session : S) (bus : B)
      (rest : Reported (ProfileSession.isPlaying session) moves last) :
      Reported playing
        (.evolve session bus :: .reportPlaying (ProfileSession.isPlaying session) :: moves) last
  /-- The transport is told again. -/
  | repeated {playing last : Bool} {moves : List (Move S B)} (rest : Reported playing moves last) :
      Reported playing (.reportPlaying playing :: moves) last

variable [MessageBus B]

/-- A run keeps track of playback that is reported. -/
theorem run_tuned (steady : SteadyPlayback S) {playing last : Bool} {moves : List (Move S B)}
    (reported : Reported playing moves last) {transport : Transport S} (sound : transport.Sound)
    (tuned : Tuned playing transport) (env : Environment B A) :
    Tuned last (transport.run moves env).1 := by
  induction reported generalizing transport env with
  | done => exact tuned
  | silent silent _ ih =>
    exact ih (perform_sound sound _ env) (perform_tuned steady sound tuned silent env) _
  | same session bus _ ih =>
    have kept : Tuned _ { transport with session } := tuned.of_session rfl tuned.known.symm
    exact ih (perform_sound sound (.evolve session bus) env) kept _
  | changed session bus _ ih =>
    have evolved := perform_sound sound (.evolve session bus) env
    have told : Tuned _ (({ transport with session }).reportPlaying _ { env with bus }).1 :=
      reportPlaying_tuned steady rfl _
    exact ih (perform_sound evolved (.reportPlaying _) _) told _
  | repeated _ ih =>
    have told := reportPlaying_tuned steady tuned.known env
    exact ih (perform_sound sound (.reportPlaying _) env) told _

/-- A fresh transport is idle, which is right for a session that does not play. -/
theorem created_tuned {id : TransportId} {config : TransportConfig} {session : S}
    {voiceMtu : UInt16} {transport : Transport S}
    (created : create id config session voiceMtu = .ok transport)
    (silent : ProfileSession.isPlaying session = false) : Tuned false transport := by
  unfold create at created
  repeat' split at created
  all_goals cases created
  exact ⟨silent, fun _ => rfl, nofun⟩

/-- A transport whose session does not play when it is created, and which is told whenever that
changes, shows at rest what the session says, whoever was the last owner and however it left, and
whatever was reported while a request was in flight: without an owner it is pending exactly if the
session plays, and idle otherwise. -/
theorem run_playback (steady : SteadyPlayback S) {id : TransportId} {config : TransportConfig}
    {session : S} {voiceMtu : UInt16} {transport : Transport S}
    (created : create id config session voiceMtu = .ok transport)
    (silent : ProfileSession.isPlaying session = false) {moves : List (Move S B)} {last : Bool}
    (reported : Reported false moves last) (env : Environment B A) {after : Transport S}
    {later : Environment B A} (ran : transport.run moves env = (after, later)) :
    ProfileSession.isPlaying after.session = last ∧
      (after.owners.owners = [] →
        after.phase = if ProfileSession.isPlaying after.session then .pending else .idle) := by
  have tuned := run_tuned steady reported (sound_create created) (created_tuned created silent) env
  rw [ran] at tuned
  refine ⟨tuned.known, fun unowned => ?_⟩
  obtain ⟨-, idle | pending⟩ := (run_created_sound created ran).free_of_unowned unowned
  · rw [idle, tuned.known, tuned.idle idle]
    rfl
  · rw [pending, tuned.known, tuned.pending pending]
    rfl

/-- The calls to a plain session have no influence on playback. -/
theorem plainSession_steady : SteadyPlayback PlainSession := by
  constructor <;> (intros; rfl)

/-- The device begins to play while the first client waits for the stream, which then does not
start. The report was passed over, but the transport is left pending. -/
theorem run_playback_of_failed :
    let session : PlainSession := { locked := true, playing := true, next := 1 }
    let moves : List (Move PlainSession PlainBus) := [.acquire ":1.7" ⟨1⟩ "rw",
      .evolve session .ready, .reportPlaying true, .resumeComplete ":1.7" ⟨0⟩ (.error .notPlaying)]
    let after := ((plainTransport false).run moves plainEnvironment).1
    ((plainTransport false).run (moves.take 3) plainEnvironment).1.phase = .requesting ∧
      after.owners.owners = [] ∧ after.phase = .pending := by
  intro session moves after
  have reported : Reported false moves true :=
    .silent rfl (.changed session PlainBus.ready (.silent rfl (.done true)))
  obtain ⟨plays, rest⟩ := run_playback plainSession_steady (create_plain false) rfl reported
    plainEnvironment (Prod.eta _).symm
  have unowned : after.owners.owners = [] := rfl
  have settled := rest unowned
  rw [plays] at settled
  exact ⟨rfl, unowned, settled⟩

end Runs

end Transport

end BluetoothHost
