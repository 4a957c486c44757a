import BluetoothHost.Proofs.Media.Run

/-!
# How the lock is shared along a run

The lock that is kept beside the owners is at all times what they hold together, no two of them hold
the same direction and each holds one. There are only two directions, so there are at most two
owners: the bound on their number is never met, and the transport itself never refuses an acquire
for want of room. The bus may still refuse the reply with that cause, and then an acquire passes it
on.
-/

namespace BluetoothHost.Transport

variable {S B A : Type} [ProfileSession S] [MessageBus B] {transport : Transport S}
  {client : String}

omit [ProfileSession S] in
/-- Owners that share out a lock never fill the set of owners. -/
theorem Sound.size_le (sound : transport.Sound) : transport.owners.size ≤ 2 :=
  sound.shared.length_le_two

omit [ProfileSession S] in
/-- No client is turned away for want of room. -/
theorem admission_ne_noResources (sound : transport.Sound) (client : String) (access : Access) :
    transport.admission client access ≠ .error .noResources := by
  have bound := sound.size_le
  have room : ¬Limits.owners ≤ transport.owners.size := by
    show ¬4 ≤ transport.owners.size
    omega
  intro refused
  unfold admission at refused
  simp only [if_neg room] at refused
  repeat' split at refused
  all_goals simp [Error.noResources, Error.notPlaying] at refused

/-- When the stream has to be started first, an admitted client is turned away only because the
session refuses. -/
theorem request_error {lock : Lock} {name : ClientName} {token : ReplyToken}
    {env : Environment B A} {cause : Error} (admitted : transport.Admitted client lock name)
    (refused : (transport.request name token lock env).1 = .error cause) :
    cause = .notAuthorized := by
  unfold request at refused
  rcases started : Session.start transport.session transport.phase.inUse name.value env with
    ⟨_ | id, session, later⟩
  · simp only [started] at refused
    cases refused
    rfl
  · simp only [started, admitted.insert_eq] at refused
    cases refused

omit [ProfileSession S] in
/-- When the stream runs, an admitted client is turned away exactly if the bus does not take the
reply, for the cause that the bus gives. -/
theorem join_error_iff {lock : Lock} {name : ClientName} {token : ReplyToken} {stream : Stream}
    {env : Environment B A} {cause : Error} (admitted : transport.Admitted client lock name) :
    (transport.join name token lock stream env).1 = .error cause ↔
      (MessageBus.sendReply env.bus token (.acquired (stream.masked lock))).1 = .error cause := by
  unfold join Environment.sendReply
  rcases answered : MessageBus.sendReply env.bus token (.acquired (stream.masked lock)) with
    ⟨_ | _, bus⟩
  · simp only [Except.error.injEq]
  · simp only [admitted.insert_eq, reduceCtorEq]

/-- An acquire fails for want of room exactly if the client is admitted, the stream runs and the bus
refuses the reply for that cause. -/
theorem acquire_noResources_iff (sound : transport.Sound) {token : ReplyToken} {access : String}
    {env : Environment B A} :
    (transport.acquire client token access env).1 = .error .noResources ↔
      ∃ name stream, transport.admission client (Access.parse access) = .ok name ∧
        transport.phase = .active ∧ transport.stream = some stream ∧
        (MessageBus.sendReply env.bus token
          (.acquired (stream.masked (Access.parse access).lock))).1 = .error .noResources := by
  unfold acquire
  dsimp only
  cases admission : transport.admission client (Access.parse access) with
  | error cause =>
    have other : cause ≠ .noResources := fun same =>
      admission_ne_noResources sound client _ (same ▸ admission)
    constructor
    · intro refused
      exact absurd (Except.error.inj refused) other
    · rintro ⟨name, stream, admitted, -⟩
      cases admitted
  | ok name =>
    have admitted := admitted_of_ok admission
    dsimp only
    split
    · rename_i stream active running
      rw [join_error_iff admitted]
      constructor
      · intro refused
        exact ⟨name, stream, rfl, active, running, refused⟩
      · rintro ⟨_, other, -, -, same, refused⟩
        rwa [Option.some.inj (running.symm.trans same)]
    · rename_i stopped
      constructor
      · intro refused
        have same := request_error admitted refused
        cases same
      · rintro ⟨_, stream, -, active, running, -⟩
        exact (stopped stream active running).elim

/-- After every run from its creation the lock of a transport is what its owners hold together, its
owners are different clients with locks that have nothing in common, and each holds something.
Hence there are at most two, and the record of a client that may acquire the transport always finds
room among them. An acquire fails for want of room exactly if the client is admitted while the
stream runs and the bus refuses the reply for that cause. -/
theorem run_shared {id : TransportId} {config : TransportConfig} {session : S}
    {voiceMtu : UInt16} {transport : Transport S}
    (created : create id config session voiceMtu = .ok transport) (moves : List (Move S B))
    (env : Environment B A) {after : Transport S} {later : Environment B A}
    (ran : transport.run moves env = (after, later)) :
    after.lock = after.owners.lock ∧
    after.owners.owners.Pairwise
      (fun one other => one.client ≠ other.client ∧ one.lock.intersects other.lock = false) ∧
    (∀ owner ∈ after.owners.owners, owner.lock.isEmpty = false) ∧
    after.owners.size ≤ 2 ∧
    (∀ client access name pending watch, after.admission client access = .ok name →
      ∃ owners, after.owners.insert { client := name, lock := access.lock, pending, watch } =
        .ok owners) ∧
    ∀ client token access, (after.acquire client token access later).1 = .error .noResources ↔
      ∃ name stream, after.admission client (Access.parse access) = .ok name ∧
        after.phase = .active ∧ after.stream = some stream ∧
        (MessageBus.sendReply later.bus token
          (.acquired (stream.masked (Access.parse access).lock))).1 = .error .noResources := by
  have sound := run_created_sound created ran
  refine ⟨sound.shared.lock_eq, sound.shared.apart, sound.shared.held, sound.size_le, ?_, ?_⟩
  · intro client access name pending watch admission
    exact ⟨_, (admitted_of_ok admission).insert_eq pending watch⟩
  · intro client token access
    exact acquire_noResources_iff sound

/-- Two clients share a running stream between them. -/
theorem run_shared_of_two :
    let after := ((plainTransport false).run [.acquire ":1.7" ⟨1⟩ "r",
      .resumeComplete ":1.7" ⟨0⟩ (.ok ()), .acquire ":1.8" ⟨2⟩ "w"] plainEnvironment).1
    after.owners.size = 2 ∧ after.lock = .both ∧ after.lock = after.owners.lock := by
  intro after
  have shared := run_shared (create_plain false) [.acquire ":1.7" ⟨1⟩ "r",
    .resumeComplete ":1.7" ⟨0⟩ (.ok ()), .acquire ":1.8" ⟨2⟩ "w"] plainEnvironment rfl
  exact ⟨rfl, rfl, shared.1⟩

/-- A bus that takes a number of replies and has no room for more. -/
structure FillingBus where
  /-- How many replies it will still take. -/
  room : Nat
deriving DecidableEq

/-- Without room the bus refuses a reply for want of it. -/
instance : MessageBus FillingBus where
  sendReply bus _ _ :=
    if bus.room = 0 then (.error .noResources, bus) else (.ok (), ⟨bus.room - 1⟩)
  watchDisconnect bus _ := (none, bus)
  removeWatch bus _ := bus
  propertyChanged bus _ _ := bus
  setRemoteValue bus _ _ _ := (.ok (), bus)

/-- The reply to the first owner fills the bus. The second client is refused the running stream for
want of room, with one owner beside it. -/
theorem acquire_refused_by_full_bus :
    let env : Environment FillingBus Unit := { bus := ⟨1⟩, server := () }
    let (after, later) := (plainTransport false).run
      [.acquire ":1.7" ⟨1⟩ "r", .resumeComplete ":1.7" ⟨0⟩ (.ok ())] env
    create ⟨0⟩ plainConfig { playing := false } Limits.defaultVoiceMtu =
        .ok (plainTransport false) ∧
      after.owners.size = 1 ∧ (after.acquire ":1.8" ⟨2⟩ "w" later).1 = .error .noResources := by
  exact ⟨create_plain false, rfl, rfl⟩

end BluetoothHost.Transport
