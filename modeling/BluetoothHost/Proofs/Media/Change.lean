import BluetoothHost.Media.Transport.Acquire
import BluetoothHost.Media.Transport.Completion
import BluetoothHost.Media.Transport.Properties
import BluetoothHost.Media.Transport.Release
import BluetoothHost.Proofs.Calls
import BluetoothHost.Proofs.Media.Condition

/-!
# What can happen to a transport

Every operation on a sound transport makes one of a few changes to it, and each change comes with
exactly the calls that it makes. The changes are listed here once, guards included, so that
whatever every change keeps is kept by every operation. An ownership ends in many ways, so its end
is described in three parts: what precedes it, how the request in flight is failed, and whether
the session is given up.
-/

namespace BluetoothHost

/-- Something that a session was asked to do and reports complete later: for whom, what, and
under which identifier. -/
structure Operation where
  /-- The client. -/
  client : String
  /-- Whether the stream is to start or to stop. -/
  kind : RequestKind
  /-- The identifier that the session gave it. -/
  id : RequestId
deriving DecidableEq

namespace Transport

variable {S : Type} [ProfileSession S]

/-- A call to a session, under the label that the session has when it is called. -/
def sessionCall (session : S) (call : SessionCall) : Call :=
  .session (ProfileSession.label session) call

/-- The announcement of a phase, which is made only when clients see another word for it. -/
def announcement (transport : Transport S) (phase : Phase) : List Call :=
  if transport.phase.text = phase.text then []
  else [.signal transport.path.value ⟨"State", .text phase.text⟩]

/-- The phase in which a transport is left once its session has been given up. -/
def restPhase (session : S) : Phase :=
  if ProfileSession.isPlaying session then .pending else .idle

/-- The end of a watch, if there is one. -/
def unwatching : Option WatchId → List Call
  | none => []
  | some watch => [.unwatch watch]

/-- The request of a leaving owner is failed: the session is told unless it has reported, and the
method call is answered with an error, whether or not the bus takes the answer. -/
inductive Dismissal (session : S) : Option Request → S → List Call → Prop
  /-- There is none. -/
  | nothing : Dismissal session none session []
  /-- The session has reported already. -/
  | reported (kind : RequestKind) (token : ReplyToken) (accepted : Bool) :
      Dismissal session (some ⟨kind, token, none⟩) session
        [.reply token (.error .inputOutput) accepted]
  /-- The session is still working on it. -/
  | cancelled (kind : RequestKind) (token : ReplyToken) (id : RequestId) (accepted : Bool) :
      Dismissal session (some ⟨kind, token, some id⟩) (ProfileSession.cancel session id)
        [sessionCall session (.cancel id), .reply token (.error .inputOutput) accepted]

/-- The record of an owner goes and these owners remain. -/
inductive Departure (before : Transport S) (record : Owner) (remaining : List Owner) :
    Transport S → List Call → Prop
  /-- The session is kept for the others, or was not held to be in use. -/
  | stays {session : S} {calls : List Call}
      (dismissed : Dismissal before.session record.pending session calls)
      (kept : remaining ≠ [] ∨ before.phase.inUse = false) :
      Departure before record remaining
        { before with
          session, owners := ⟨remaining⟩, lock := before.lock &&& ~~~record.lock }
        (calls ++ unwatching record.watch)
  /-- Nobody uses the session any more, so it is given up. -/
  | settles {session : S} {calls : List Call}
      (dismissed : Dismissal before.session record.pending session calls)
      (last : remaining = []) (used : before.phase.inUse = true) :
      Departure before record remaining
        { before with
          session := ProfileSession.unlock session, owners := ⟨remaining⟩
          lock := before.lock &&& ~~~record.lock, phase := restPhase session }
        (calls ++ unwatching record.watch ++
          sessionCall session .unlock :: before.announcement (restPhase session))

/-- What precedes the end of an ownership: the operation that is reported complete, if it is a
report that ends it, and the record and the transport as they are then, with the calls made so
far. -/
inductive Ending (before : Transport S) (owner : Owner) :
    Option Operation → Owner → Transport S → List Call → Prop
  /-- Nothing does. -/
  | plain : Ending before owner none owner before []
  /-- The client left the bus, which ended its watch. -/
  | disconnected : Ending before owner none { owner with watch := none } before []
  /-- The stream did not start. -/
  | failed {token : ReplyToken} {id : RequestId}
      (pending : owner.pending = some ⟨.acquire, token, some id⟩) :
      Ending before owner (some ⟨owner.client.value, .acquire, id⟩)
        { owner with pending := some ⟨.acquire, token, none⟩ } before []
  /-- The stream started, but the bus did not take the reply. -/
  | undelivered {token : ReplyToken} {id : RequestId} {stream : Stream}
      (pending : owner.pending = some ⟨.acquire, token, some id⟩)
      (found : before.endpoint.stream before.session = some stream) :
      Ending before owner (some ⟨owner.client.value, .acquire, id⟩)
        { owner with pending := some ⟨.acquire, token, none⟩ }
        { before with stream := some stream }
        [.reply token (.acquired (stream.masked owner.lock)) false]
  /-- The stream has stopped as asked. -/
  | stopped {token : ReplyToken} {id : RequestId}
      (pending : owner.pending = some ⟨.release, token, some id⟩) (accepted : Bool) :
      Ending before owner (some ⟨owner.client.value, .release, id⟩) { owner with pending := none }
        before [.reply token .done accepted]
  /-- The stream stopped at once. -/
  | suspended {session : S} (single : before.owners.owners = [owner])
      (pending : owner.pending = none) (active : before.phase = .active)
      (stopped : ProfileSession.suspend before.session owner.client.value = (none, session)) :
      Ending before owner none owner { before with session, phase := .suspending }
        [sessionCall before.session (.suspend owner.client.value none)]

/-- The ownership of a client ends, perhaps by a report that an operation is complete. -/
inductive Leaving (before : Transport S) (client : String) :
    Option Operation → Transport S → List Call → Prop
  | intro {front back : List Owner} {owner record : Owner} {completed : Option Operation}
      {prior after : Transport S} {earlier later : List Call}
      (stands : before.owners.Stands client front owner back)
      (ending : Ending before owner completed record prior earlier)
      (departure : Departure prior record (front ++ back) after later) :
      Leaving before client completed after (earlier ++ later)

/-- The owners leave, the oldest first, until there are none; the stream may be forgotten then. -/
inductive Exodus : Transport S → Transport S → List Call → Prop
  /-- Nobody is left. -/
  | done {transport : Transport S} (unowned : transport.owners.owners = [])
      (stream : Option Stream) : Exodus transport { transport with stream } []
  /-- The oldest owner leaves before the others. -/
  | next {first second third : Transport S} {owner : Owner} {back : List Owner}
      {earlier later : List Call} (owners_eq : first.owners.owners = owner :: back)
      (departure : Departure first owner back second earlier)
      (further : Exodus second third later) : Exodus first third (earlier ++ later)

/-- What an acquire does, by its outcome. -/
inductive Acquiring (before : Transport S) (client : String) (token : ReplyToken) :
    Except Error Completion → Transport S → List Call → Prop
  /-- The client may not ask for this access now. -/
  | refused (cause : Error) : Acquiring before client token (.error cause) before []
  /-- The stream runs, but the bus did not take the reply. -/
  | undelivered (cause : Error) {stream : Stream} {lock : Lock}
      (running : Condition.running.Holds before) (known : before.stream = some stream) :
      Acquiring before client token (.error cause) before
        [.reply token (.acquired (stream.masked lock)) false]
  /-- The session did not grant its lock. -/
  | locked {session : S} (free : Condition.free.Holds before)
      (denied : ProfileSession.lock before.session = (false, session)) :
      Acquiring before client token (.error .notAuthorized) { before with session }
        [sessionCall before.session (.lock false)]
  /-- The session granted its lock but did not start, so the lock was given back. -/
  | unstarted {locked session : S} (free : Condition.free.Holds before)
      (granted : ProfileSession.lock before.session = (true, locked))
      (denied : ProfileSession.resume locked client = (none, session)) :
      Acquiring before client token (.error .notAuthorized)
        { before with session := ProfileSession.unlock session }
        [sessionCall before.session (.lock true), sessionCall locked (.resume client none),
          sessionCall session .unlock]
  /-- The client has joined the owners of a running stream. -/
  | joined {name : ClientName} {lock : Lock} {stream : Stream} {watch : Option WatchId}
      (isClient : name.value = client) (running : Condition.running.Holds before)
      (known : before.stream = some stream)
      (fresh : ∀ other ∈ before.owners.owners, other.client ≠ name)
      (free : before.lock.Apart lock) (wanted : lock.isEmpty = false) :
      Acquiring before client token (.ok .pending)
        { before with
          owners := ⟨before.owners.owners ++ [{ client := name, lock, watch }]⟩
          lock := before.lock ||| lock }
        [.reply token (.acquired (stream.masked lock)) true, .watch client watch]
  /-- The client is the first owner, and the session is asked to start the stream. -/
  | started {name : ClientName} {lock : Lock} {id : RequestId} {watch : Option WatchId}
      {locked session : S} (isClient : name.value = client) (free : Condition.free.Holds before)
      (wanted : lock.isEmpty = false)
      (granted : ProfileSession.lock before.session = (true, locked))
      (accepted : ProfileSession.resume locked client = (some id, session)) :
      Acquiring before client token (.ok .pending)
        { before with
          session
          owners := ⟨[{ client := name, lock, pending := some ⟨.acquire, token, some id⟩, watch }]⟩
          lock, phase := if before.phase = .idle then .requesting else before.phase }
        [sessionCall before.session (.lock true), sessionCall locked (.resume client (some id)),
          .watch client watch]

/-- What a release does, by its outcome. -/
inductive Releasing (before : Transport S) (client : String) (token : ReplyToken) :
    Except Error Completion → Transport S → List Call → Prop
  /-- The client does not hold the directions, or its release is in flight already. -/
  | refused (cause : Error) : Releasing before client token (.error cause) before []
  /-- The client gave up a part of what it holds. -/
  | narrowed {front back : List Owner} {owner : Owner} {part : Lock}
      (stands : before.owners.Stands client front owner back)
      (within : owner.lock.contains part = true) (different : part ≠ owner.lock) :
      Releasing before client token (.ok .done)
        { before with
          owners := ⟨front ++ { owner with lock := owner.lock &&& ~~~part } :: back⟩
          lock := before.lock &&& ~~~part } []
  /-- The client is no owner any more. -/
  | left {after : Transport S} {calls : List Call}
      (leaving : Leaving before client none after calls) :
      Releasing before client token (.ok .done) after calls
  /-- The client is the last owner, and the session is asked to stop the stream. -/
  | suspending {owner : Owner} {id : RequestId} {session : S}
      (isClient : owner.client.value = client)
      (single : before.owners.owners = [owner]) (settled : owner.pending = none)
      (active : before.phase = .active)
      (accepted : ProfileSession.suspend before.session client = (some id, session)) :
      Releasing before client token (.ok .pending)
        { before with
          session, phase := .suspending
          owners := ⟨[{ owner with pending := some ⟨.release, token, some id⟩ }]⟩ }
        [sessionCall before.session (.suspend client (some id))]

/-- A call that touches neither owners nor phase: a setting, or the news of one. -/
def IsSetting : Call → Prop
  | .session _ (.setVolume _) | .session _ (.setNoiseReduction _)
  | .session _ (.setInbandRingtone _) => True
  | .signal _ property => property.name ≠ "State"
  | _ => False

/-- What can happen to a transport at once, other than that a client acquires or releases it, with
the operation that is thereby reported complete. -/
inductive Reaction (before : Transport S) :
    Option Operation → Transport S → List Call → Prop
  /-- Nothing does. -/
  | kept : Reaction before none before []
  /-- An ownership ends without a release. -/
  | leaving {client : String} {completed : Option Operation} {after : Transport S}
      {calls : List Call} (step : Leaving before client completed after calls) :
      Reaction before completed after calls
  /-- The stream has started and the owner that waited for it has been given it. -/
  | granted {owner : Owner} {token : ReplyToken} {id : RequestId} {stream : Stream}
      (single : before.owners.owners = [owner])
      (pending : owner.pending = some ⟨.acquire, token, some id⟩)
      (found : before.endpoint.stream before.session = some stream) :
      Reaction before (some ⟨owner.client.value, .acquire, id⟩)
        { before with
          owners := ⟨[{ owner with pending := none }]⟩, stream := some stream, phase := .active }
        (.reply token (.acquired (stream.masked owner.lock)) true :: before.announcement .active)
  /-- The device began or ceased to play while the transport was not in use. -/
  | followed {phase : Phase} (unused : before.phase.inUse = false) (follows : phase.inUse = false) :
      Reaction before none { before with phase } (before.announcement phase)
  /-- A setting changed, or the session went on by itself. -/
  | adjusted (endpoint : Endpoint) (session : S) {calls : List Call}
      (settings : ∀ call ∈ calls, IsSetting call) :
      Reaction before none { before with endpoint, session } calls
  /-- All owners leave. -/
  | emptied {after : Transport S} {calls : List Call} (exodus : Exodus before after calls) :
      Reaction before none after calls

/-- Everything that can happen to a transport at once, with the operation that is thereby reported
complete. -/
inductive Change (before : Transport S) : Option Operation → Transport S → List Call → Prop
  /-- A client asks for it. -/
  | acquiring {client : String} {token : ReplyToken} {outcome : Except Error Completion}
      {after : Transport S} {calls : List Call}
      (step : Acquiring before client token outcome after calls) : Change before none after calls
  /-- A client gives it up. -/
  | releasing {client : String} {token : ReplyToken} {outcome : Except Error Completion}
      {after : Transport S} {calls : List Call}
      (step : Releasing before client token outcome after calls) : Change before none after calls
  /-- It reacts to something else. -/
  | reacting {completed : Option Operation} {after : Transport S} {calls : List Call}
      (step : Reaction before completed after calls) : Change before completed after calls

/-! ### The calls with which ownerships end -/

section Parting

variable {before after : Transport S} {record : Owner} {remaining : List Owner}
  {completed : Option Operation} {calls : List Call}

/-- A call with which ownerships end: a request is called off or failed, a watch ends, the session
is given up, or the state is announced. -/
def IsParting : Call → Prop
  | .session _ (.cancel _) | .session _ .unlock | .reply _ (.error _) _ | .unwatch _ => True
  | .signal _ property => property.name = "State"
  | _ => False

omit [ProfileSession S] in
/-- An announcement of the phase is such a call. -/
theorem announcement_parting (transport : Transport S) (phase : Phase) :
    ∀ call ∈ transport.announcement phase, IsParting call := by
  unfold announcement
  split <;> simp [IsParting]

/-- So is the end of a watch. -/
theorem unwatching_parting (watch : Option WatchId) :
    ∀ call ∈ unwatching watch, IsParting call := by
  cases watch <;> simp [unwatching, IsParting]

/-- So are the calls with which a request is failed. -/
theorem Dismissal.parting {session later : S} {pending : Option Request}
    (dismissal : Dismissal session pending later calls) : ∀ call ∈ calls, IsParting call := by
  cases dismissal <;> simp [sessionCall, IsParting]

/-- A record goes with such calls only. -/
theorem Departure.parting (departure : Departure before record remaining after calls) :
    ∀ call ∈ calls, IsParting call := by
  cases departure with
  | stays dismissed _ =>
    exact List.forall_mem_append.mpr ⟨dismissed.parting, unwatching_parting _⟩
  | settles dismissed _ _ =>
    have ended := List.forall_mem_append.mpr ⟨dismissed.parting, unwatching_parting record.watch⟩
    exact List.forall_mem_append.mpr
      ⟨ended, List.forall_mem_cons.mpr ⟨trivial, announcement_parting before _⟩⟩

/-- So do all owners together. -/
theorem Exodus.parting (exodus : Exodus before after calls) : ∀ call ∈ calls, IsParting call := by
  induction exodus with
  | done => simp
  | next _ departure _ ih => exact List.forall_mem_append.mpr ⟨departure.parting, ih⟩

end Parting

/-! ### What the end of an ownership leaves -/

section Leaving

variable {before prior after : Transport S} {client : String} {owner record : Owner}
  {remaining : List Owner} {completed : Option Operation} {calls : List Call}

/-- A transport that is not in use is idle or pending. -/
theorem inUse_eq_false {phase : Phase} :
    phase.inUse = false ↔ phase = .idle ∨ phase = .pending := by
  cases phase <;> simp [Phase.inUse]

/-- A session that was given up leaves the transport unused. -/
theorem restPhase_inUse (session : S) : (restPhase session).inUse = false := by
  unfold restPhase
  split <;> rfl

/-- Whatever precedes the end of an ownership leaves the owners, their locks and the use of the
session as they are. -/
theorem Ending.frame (ending : Ending before owner completed record prior calls) :
    record.client = owner.client ∧ record.lock = owner.lock ∧ prior.owners = before.owners ∧
      prior.lock = before.lock ∧ prior.phase.inUse = before.phase.inUse := by
  cases ending with
  | suspended _ _ active _ => exact ⟨rfl, rfl, rfl, rfl, by rw [active]; rfl⟩
  | _ => exact ⟨rfl, rfl, rfl, rfl, rfl⟩

/-- While others own the transport, its phase stays and its stream is not lost. -/
theorem Ending.shared_frame (ending : Ending before owner completed record prior calls)
    (others : before.owners.owners ≠ [owner]) :
    prior.phase = before.phase ∧ (before.stream.isSome → prior.stream.isSome) := by
  cases ending with
  | suspended single _ _ _ => exact absurd single others
  | undelivered => exact ⟨rfl, fun _ => rfl⟩
  | _ => exact ⟨rfl, fun known => known⟩

/-- The others remain, the directions of the owner are free, and the transport is left unused by
its last owner. -/
theorem Departure.frame (departure : Departure prior record remaining after calls) :
    after.owners = ⟨remaining⟩ ∧ after.lock = prior.lock &&& ~~~record.lock ∧
      after.stream = prior.stream ∧ (remaining = [] → after.phase.inUse = false) ∧
      (remaining ≠ [] → after.phase = prior.phase) := by
  cases departure with
  | stays _ kept =>
    refine ⟨rfl, rfl, rfl, fun last => ?_, fun _ => rfl⟩
    exact kept.resolve_left (absurd last)
  | settles _ last _ =>
    exact ⟨rfl, rfl, rfl, fun _ => restPhase_inUse _, fun others => absurd last others⟩

/-- The end of an ownership keeps a transport sound. -/
theorem Leaving.sound (leaving : Leaving before client completed after calls)
    (sound : before.Sound) : after.Sound := by
  obtain @⟨front, back, owner, record, _, prior, _, _, _, stands, ending, departure⟩ := leaving
  obtain ⟨-, lock_eq, -, prior_lock, -⟩ := ending.frame
  obtain ⟨owners_after, lock_after, stream_after, unused, phase_after⟩ := departure.frame
  have shared : Shared after.owners.owners after.lock := by
    have whole := sound.shared
    rw [stands.owners_eq] at whole
    rw [owners_after, lock_after, prior_lock, lock_eq]
    exact whole.remove
  by_cases others : front ++ back = []
  · refine ⟨shared, .free, ?_, inUse_eq_false.mp (unused others)⟩
    rw [owners_after, others]
  · obtain ⟨-, settled, active, known⟩ := sound.running_of_others stands.owners_eq others
    have several : before.owners.owners ≠ [owner] := by
      intro single
      exact others (OwnerSet.alone_of_single (single.symm.trans stands.owners_eq)).2
    obtain ⟨prior_phase, prior_stream⟩ := ending.shared_frame several
    refine .running shared ?_ ?_ ?_ ?_
    · rwa [owners_after]
    · intro other member
      rw [owners_after] at member
      apply settled other
      rw [stands.owners_eq]
      simp only [List.mem_append, List.mem_cons] at member ⊢
      grind
    · rw [phase_after others, prior_phase, active]
    · rw [stream_after]
      exact prior_stream known

/-- The oldest owner leaves as any other does. -/
theorem Departure.leaving {back : List Owner} (owners_eq : before.owners.owners = owner :: back)
    (departure : Departure before owner back after calls) :
    Leaving before owner.client.value none after calls := by
  have stands : before.owners.Stands owner.client.value [] owner back :=
    ⟨owners_eq, rfl, by simp⟩
  exact .intro stands .plain departure

/-- The owners leave a sound transport behind. -/
theorem Exodus.sound (exodus : Exodus before after calls) (sound : before.Sound) :
    after.Sound := by
  induction exodus with
  | done unowned stream => exact ⟨sound.shared, .free, sound.free_of_unowned unowned⟩
  | next owners_eq departure _ ih => exact ih ((departure.leaving owners_eq).sound sound)

/-- Nobody is left. -/
theorem Exodus.unowned (exodus : Exodus before after calls) : after.owners.owners = [] := by
  induction exodus with
  | done unowned => exact unowned
  | next _ _ _ ih => exact ih

end Leaving

/-! ### What every change keeps -/

section Sound

variable {before after : Transport S} {client : String} {token : ReplyToken}
  {outcome : Except Error Completion} {completed : Option Operation} {calls : List Call}

/-- An acquire keeps a transport sound. -/
theorem Acquiring.sound (step : Acquiring before client token outcome after calls)
    (sound : before.Sound) : after.Sound := by
  cases step with
  | refused => exact sound
  | undelivered => exact sound
  | locked free _ => exact ⟨sound.shared, .free, free⟩
  | unstarted free _ _ => exact ⟨sound.shared, .free, free⟩
  | joined _ running _ fresh free wanted =>
    obtain ⟨-, settled, active, known⟩ := running
    refine .running (sound.shared.join fresh free wanted) (by simp) ?_ active known
    intro other member
    rcases List.mem_append.mp member with before | single
    · exact settled other before
    · rw [List.mem_singleton.mp single]
  | started _ free wanted _ _ =>
    obtain ⟨unowned, unused⟩ := free
    refine ⟨⟨?_, List.pairwise_singleton _ _, by simpa using wanted⟩, .starting,
      ⟨_, _, _, rfl, rfl⟩, ?_⟩
    · rw [OwnerSet.lock_cons, OwnerSet.lock_nil]
      ext <;> simp [Lock.none]
    · rcases unused with idle | pending
      · simp [idle]
      · simp [pending]

/-- A release keeps a transport sound. -/
theorem Releasing.sound (step : Releasing before client token outcome after calls)
    (sound : before.Sound) : after.Sound := by
  cases step with
  | refused => exact sound
  | narrowed stands within different =>
    have shared := sound.shared
    rw [stands.owners_eq] at shared
    obtain ⟨condition, holds⟩ := sound.condition
    refine ⟨shared.narrow within different rfl rfl, condition, holds.of_pending ?_ rfl rfl⟩
    simp [stands.owners_eq]
  | left leaving => exact leaving.sound sound
  | @suspending owner _ _ _ single _ _ _ =>
    have shared : Shared ([] ++ owner :: []) before.lock := by
      rw [List.nil_append, ← single]
      exact sound.shared
    exact ⟨shared.update rfl rfl, .stopping, ⟨_, _, _, rfl, rfl⟩, rfl⟩

/-- A reaction keeps a transport sound. -/
theorem Reaction.sound (step : Reaction before completed after calls) (sound : before.Sound) :
    after.Sound := by
  cases step with
  | kept => exact sound
  | leaving step => exact step.sound sound
  | @granted owner _ _ _ single _ _ =>
    have shared : Shared ([] ++ owner :: []) before.lock := by
      rw [List.nil_append, ← single]
      exact sound.shared
    exact .running (shared.update rfl rfl) (by simp) (by simp) rfl rfl
  | followed unused follows =>
    obtain ⟨condition, holds⟩ := sound.condition
    have rest := inUse_eq_false.mp follows
    cases condition with
    | free => exact ⟨sound.shared, .free, holds.1, rest⟩
    | starting =>
      exact ⟨sound.shared, .starting, holds.1, rest.imp_right .inl⟩
    | running =>
      rw [holds.2.2.1] at unused
      cases unused
    | stopping =>
      rw [holds.2] at unused
      cases unused
  | adjusted => exact ⟨sound.shared, sound.condition⟩
  | emptied exodus => exact exodus.sound sound

/-- Every change keeps a transport sound. -/
theorem Change.sound (change : Change before completed after calls) (sound : before.Sound) :
    after.Sound := by
  cases change with
  | acquiring step => exact step.sound sound
  | releasing step => exact step.sound sound
  | reacting step => exact step.sound sound

end Sound

end Transport

end BluetoothHost
