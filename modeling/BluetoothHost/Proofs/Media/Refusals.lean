import BluetoothHost.Proofs.Media.SessionLock

/-!
# Refused calls

A refused acquire may have gone as far as the session or the bus: the lock was denied, the session
had its lock taken but did not start, or the bus did not take the reply that gives the stream. All
of it is undone before the call fails. The transport is as it was, apart from what its session did
with itself, and nobody but the caller can tell that the call was made.
-/

namespace BluetoothHost

/-- Whether a call leaves something behind with a neighbour: an announcement, a watch or its end,
an answer that was taken, or a request that the session has begun or was told to drop. -/
def Call.leavesTrace : Call → Bool
  | .signal _ _ | .watch _ _ | .unwatch _ | .reply _ _ true => true
  | .session _ (.resume _ (some _)) | .session _ (.suspend _ _) | .session _ (.cancel _) => true
  | _ => false

namespace Transport

variable {S B A : Type} [ProfileSession S]

/-- What a refused call does to a transport and its neighbours. -/
structure Refusal (before after : Transport S) (calls : List Call) : Prop where
  /-- Owners, lock, phase, stream and endpoint are as before; only the session may differ. -/
  kept : after = { before with session := after.session }
  /-- Nothing is left behind with a neighbour. -/
  traceless : ∀ call ∈ calls, call.leavesTrace = false
  /-- As many locks were given back as were taken. -/
  balanced : lockBalance calls = 0
  /-- Each was given back after it was taken. -/
  returned : ∀ front label back, calls = front ++ .session label (.lock true) :: back →
    ∃ other, .session other .unlock ∈ back

variable {before after : Transport S} {client : String} {token : ReplyToken} {cause : Error}
  {calls : List Call}

omit [ProfileSession S] in
/-- Where nothing was called nothing has to be undone. -/
theorem Refusal.refl (transport : Transport S) : Refusal transport transport [] :=
  ⟨rfl, by simp, rfl, by simp⟩

omit [ProfileSession S] in
/-- A single call that neither leaves a trace nor takes the lock has not to be undone. -/
theorem Refusal.single {call : Call} (session : S) (traceless : call.leavesTrace = false)
    (untouched : call.lockDelta = 0) : Refusal before { before with session } [call] := by
  refine ⟨rfl, by simpa using traceless, by simp [untouched], fun front label back split => ?_⟩
  have taken : call.lockDelta = 1 := by
    have among : .session label (.lock true) ∈ [call] := by simp [split]
    rw [← List.mem_singleton.mp among]
    rfl
  rw [untouched] at taken
  cases taken

/-- A refused acquire is undone. -/
theorem Acquiring.refusal (step : Acquiring before client token (.error cause) after calls) :
    Refusal before after calls := by
  cases step with
  | refused => exact .refl before
  | undelivered => exact .single before.session rfl rfl
  | locked => exact .single _ rfl rfl
  | @unstarted locked session =>
    refine ⟨rfl, by simp [sessionCall, Call.leavesTrace], rfl, fun front label back split => ?_⟩
    -- The lock is taken by the first call only, and the last one gives it back.
    cases front with
    | nil =>
      obtain ⟨-, rfl⟩ := List.cons.inj split
      exact ⟨ProfileSession.label session, by simp [sessionCall]⟩
    | cons first rest =>
      obtain ⟨-, others⟩ := List.cons.inj split
      have among :
          .session label (.lock true) ∈ rest.append (.session label (.lock true) :: back) :=
        List.mem_append_right rest List.mem_cons_self
      rw [← others] at among
      simp [sessionCall] at among

/-- A refused release does nothing at all. -/
theorem Releasing.refusal (step : Releasing before client token (.error cause) after calls) :
    after = before ∧ calls = [] := by
  cases step
  exact ⟨rfl, rfl⟩

variable [MessageBus B]

/-- After every run from its creation, an acquire of a transport that is refused, for whatever
cause, leaves the transport as it was but for its session, leaves nothing behind with the bus or the
session, and gives the lock of the session back if it was granted. A release that is refused changes
nothing and calls nobody. -/
theorem run_refusal {id : TransportId} {config : TransportConfig} {session : S}
    {voiceMtu : UInt16} {transport : Transport S}
    (created : create id config session voiceMtu = .ok transport) (moves : List (Move S B))
    (env : Environment B A) {before : Transport S} {middle : Environment B A}
    (ran : transport.run moves env = (before, middle)) (client : String) (token : ReplyToken)
    (access : String) {cause : Error} {after : Transport S} {later : Environment B A} :
    (before.acquire client token access middle = (.error cause, after, later) →
      ∃ calls, middle.Makes calls later ∧ Refusal before after calls) ∧
    (before.release client token access middle = (.error cause, after, later) →
      ∃ calls, middle.Makes calls later ∧ Refusal before after calls) := by
  have sound := run_created_sound created ran
  constructor
  · intro refused
    obtain ⟨calls, made, step⟩ := acquire_acquiring sound client token access middle
    rw [refused] at made step
    exact ⟨calls, made, step.refusal⟩
  · intro refused
    obtain ⟨calls, made, step⟩ := release_releasing sound client token access middle
    rw [refused] at made step
    obtain ⟨rfl, rfl⟩ := step.refusal
    exact ⟨[], made, .refl _⟩

/-- A session that grants its lock to one user at a time and never starts its stream. -/
structure StalledSession where
  /-- Whether the lock is taken. -/
  locked : Bool := false
deriving DecidableEq

/-- A stalled session refuses every request to start. -/
instance : ProfileSession StalledSession where
  label _ := 0
  lock session := (!session.locked, { session with locked := true })
  unlock session := { session with locked := false }
  resume session _ := (none, session)
  suspend session _ := (none, session)
  cancel session _ := session
  stream _ := none
  isPlaying _ := false

/-- A client that is refused because the session does not start leaves neither owner nor lock
behind, and the lock of the session is free again. -/
theorem run_refusal_of_stalled :
    ∃ transport : Transport StalledSession,
      create ⟨0⟩ plainConfig {} Limits.defaultVoiceMtu = .ok transport ∧
      ∃ after later, transport.acquire ":1.7" ⟨1⟩ "rw" plainEnvironment =
          (.error .notAuthorized, after, later) ∧
        after = transport ∧
        later.journal = [.session 0 (.lock true), .session 0 (.resume ":1.7" none),
          .session 0 .unlock] ∧
        ∃ calls, plainEnvironment.Makes calls later ∧ Refusal transport after calls := by
  have created : create ⟨0⟩ plainConfig ({} : StalledSession) Limits.defaultVoiceMtu = .ok _ := rfl
  refine ⟨_, created, _, _, rfl, rfl, rfl, ?_⟩
  exact (run_refusal created [] plainEnvironment rfl ":1.7" ⟨1⟩ "rw").1 rfl

end Transport

end BluetoothHost
