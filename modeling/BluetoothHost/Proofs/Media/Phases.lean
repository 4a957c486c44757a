import BluetoothHost.Proofs.Media.Run

/-!
# Conditions along a run

However its moves are ordered and whatever the session and the bus answer, a transport is in
exactly one of its conditions after each of them. The session is asked to start its stream only
for a transport that nobody owns or uses, and to stop it only while no other request is in flight,
so that it never works on two requests at once.
-/

namespace BluetoothHost

/-- A call that asks a session for its lock or to start its stream. -/
def Call.Starts : Call → Prop
  | .session _ (.lock _) | .session _ (.resume _ _) => True
  | _ => False

/-- A call that asks a session to stop its stream. -/
def Call.Stops : Call → Prop
  | .session _ (.suspend _ _) => True
  | _ => False

/-- None of these calls asks a session to start or to stop. -/
def Quiet (calls : List Call) : Prop := ∀ call ∈ calls, ¬call.Starts ∧ ¬call.Stops

/-- Where nothing is called nothing is asked. -/
theorem Quiet.nil : Quiet [] := by simp [Quiet]

/-- Quiet calls stay quiet with one more in front. -/
theorem Quiet.cons {call : Call} {calls : List Call} (start : ¬call.Starts) (stop : ¬call.Stops)
    (quiet : Quiet calls) : Quiet (call :: calls) := by
  intro other member
  rcases List.mem_cons.mp member with rfl | further
  · exact ⟨start, stop⟩
  · exact quiet other further

/-- Quiet calls stay quiet one after another. -/
theorem Quiet.append {earlier later : List Call} (before : Quiet earlier) (after : Quiet later) :
    Quiet (earlier ++ later) := by
  intro call member
  rcases List.mem_append.mp member with first | second
  · exact before call first
  · exact after call second

namespace Transport

variable {S B A : Type} [ProfileSession S] {before after : Transport S}
  {completed : Option Operation} {calls : List Call}

omit [ProfileSession S] in
/-- The calls with which ownerships end ask for neither. -/
theorem quiet_of_parting (parting : ∀ call ∈ calls, IsParting call) : Quiet calls := by
  intro call member
  have parts := parting call member
  unfold IsParting at parts
  split at parts <;> first | exact ⟨not_false, not_false⟩ | cases parts

omit [ProfileSession S] in
/-- An announcement asks nothing of the session. -/
theorem announcement_quiet (transport : Transport S) (phase : Phase) :
    Quiet (transport.announcement phase) :=
  quiet_of_parting (transport.announcement_parting phase)

/-- When a record goes the session is at most given up. -/
theorem Departure.quiet {record : Owner} {remaining : List Owner}
    (departure : Departure before record remaining after calls) : Quiet calls :=
  quiet_of_parting departure.parting

/-- No owner that leaves with all others has the stream started or stopped. -/
theorem Exodus.quiet (exodus : Exodus before after calls) : Quiet calls :=
  quiet_of_parting exodus.parting

/-- Settings ask the session for nothing else. -/
theorem settings_quiet (settings : ∀ call ∈ calls, IsSetting call) : Quiet calls := by
  intro call member
  have setting := settings call member
  unfold IsSetting at setting
  split at setting
  · exact ⟨not_false, not_false⟩
  · exact ⟨not_false, not_false⟩
  · exact ⟨not_false, not_false⟩
  · exact ⟨not_false, not_false⟩
  · cases setting

/-- Before an ownership ends the session may be asked to stop, by a single owner that waits for
nothing. -/
theorem Ending.asks {owner record : Owner} {prior : Transport S}
    (ending : Ending before owner completed record prior calls) :
    Quiet calls ∨ ((∀ call ∈ calls, ¬call.Starts) ∧ before.owners.hasInFlight = false) := by
  cases ending with
  | suspended single pending _ _ =>
    refine .inr ⟨fun call member => ?_,
      by simp [OwnerSet.hasInFlight, single, Owner.inFlight, pending]⟩
    rw [List.mem_singleton.mp member]
    exact not_false
  | undelivered | stopped => exact .inl (.cons not_false not_false .nil)
  | _ => exact .inl .nil

/-- What a change asks of the session: to start, on behalf of nobody yet, or to stop, while no
request is in flight. -/
structure Asks (before : Transport S) (calls : List Call) : Prop where
  /-- The session is asked to start only for a transport that nobody owns or uses. -/
  start : (∃ call ∈ calls, call.Starts) →
    before.owners.owners = [] ∧ before.phase.inUse = false
  /-- The session is asked to stop only while no request is in flight. -/
  stop : (∃ call ∈ calls, call.Stops) → before.owners.hasInFlight = false

omit [ProfileSession S] in
/-- Quiet calls ask nothing. -/
theorem Asks.of_quiet (quiet : Quiet calls) : Asks before calls where
  start := fun ⟨call, member, start⟩ => absurd start (quiet call member).1
  stop := fun ⟨call, member, stop⟩ => absurd stop (quiet call member).2

omit [ProfileSession S] in
/-- Whatever is asked of the session of a free transport is asked rightly. -/
theorem Asks.of_free (free : Condition.free.Holds before) : Asks before calls where
  start := fun _ => ⟨free.1, inUse_eq_false.mpr free.2⟩
  stop := fun _ => by simp [OwnerSet.hasInFlight, free.1]

/-- The end of an ownership asks for no start. -/
theorem Leaving.asks {client : String} (leaving : Leaving before client completed after calls) :
    Asks before calls := by
  obtain ⟨-, ending, departure⟩ := leaving
  have quiet := departure.quiet
  rcases ending.asks with silent | ⟨starting, inFlight⟩
  · exact .of_quiet (silent.append quiet)
  · refine ⟨fun ⟨call, member, start⟩ => ?_, fun _ => inFlight⟩
    rcases List.mem_append.mp member with first | second
    · exact absurd start (starting call first)
    · exact absurd start (quiet call second).1

/-- An acquire asks for a start only of a free transport. -/
theorem Acquiring.asks {client : String} {token : ReplyToken}
    {outcome : Except Error Completion} (step : Acquiring before client token outcome after calls) :
    Asks before calls := by
  cases step with
  | refused => exact .of_quiet .nil
  | undelivered => exact .of_quiet (.cons not_false not_false .nil)
  | joined => exact .of_quiet (.cons not_false not_false (.cons not_false not_false .nil))
  | locked free _ => exact .of_free free
  | unstarted free _ _ => exact .of_free free
  | started _ free _ _ _ => exact .of_free free

/-- A release asks for a stop only while nothing is in flight. -/
theorem Releasing.asks {client : String} {token : ReplyToken}
    {outcome : Except Error Completion} (step : Releasing before client token outcome after calls) :
    Asks before calls := by
  cases step with
  | refused => exact .of_quiet .nil
  | narrowed => exact .of_quiet .nil
  | left leaving => exact leaving.asks
  | suspending _ single settled _ _ =>
    refine ⟨fun ⟨call, member, start⟩ => ?_, fun _ => ?_⟩
    · rw [List.mem_singleton.mp member] at start
      cases start
    · simp [OwnerSet.hasInFlight, single, Owner.inFlight, settled]

/-- A reaction asks for no start either. -/
theorem Reaction.asks (step : Reaction before completed after calls) : Asks before calls := by
  cases step with
  | kept => exact .of_quiet .nil
  | leaving step => exact step.asks
  | granted => exact .of_quiet (.cons not_false not_false (announcement_quiet _ _))
  | followed => exact .of_quiet (announcement_quiet _ _)
  | adjusted _ _ settings => exact .of_quiet (settings_quiet settings)
  | emptied exodus => exact .of_quiet exodus.quiet

/-- Every change asks of the session only what is right at that moment. -/
theorem Change.asks (change : Change before completed after calls) : Asks before calls := by
  cases change with
  | acquiring step => exact step.asks
  | releasing step => exact step.asks
  | reacting step => exact step.asks

variable [MessageBus B]

/-- After every run from its creation a transport is in exactly one of its conditions. Hence at
most one request is in flight and a transport in use has an owner; and whatever befalls it next,
the session is asked to start only if nobody owns or uses the transport, and to stop only if no
request is in flight. -/
theorem run_condition {id : TransportId} {config : TransportConfig} {session : S}
    {voiceMtu : UInt16} {transport : Transport S}
    (created : create id config session voiceMtu = .ok transport) (moves : List (Move S B))
    (env : Environment B A) {after : Transport S} {later : Environment B A}
    (ran : transport.run moves env = (after, later)) :
    (∃ condition : Condition, condition.Holds after ∧
      ∀ other : Condition, other.Holds after → other = condition) ∧
    after.owners.owners.countP (fun owner => owner.inFlight.isSome) ≤ 1 ∧
    (after.phase.inUse = true → after.owners.owners ≠ []) ∧
    ∀ move : Move S B, ∃ calls, later.Makes calls (after.perform move later).2 ∧
      ((∃ call ∈ calls, call.Starts) → after.owners.owners = [] ∧ after.phase.inUse = false) ∧
      ((∃ call ∈ calls, call.Stops) → after.owners.hasInFlight = false) := by
  have sound := run_created_sound created ran
  obtain ⟨condition, holds⟩ := sound.condition
  refine ⟨⟨condition, holds, fun other also => Condition.holds_unique also holds⟩, ?_, ?_, ?_⟩
  · cases condition with
    | free => simp [holds.1]
    | starting | stopping =>
      obtain ⟨⟨owner, token, id, single, -⟩, -⟩ := holds
      rw [single]
      exact List.countP_le_length
    | running =>
      have settled : after.owners.owners.countP (fun owner => owner.inFlight.isSome) = 0 := by
        rw [List.countP_eq_zero]
        intro owner member
        simp [Owner.inFlight, holds.2.1 owner member]
      omega
  · intro used unowned
    have free := sound.free_of_unowned unowned
    rw [inUse_eq_false.mpr free.2] at used
    cases used
  · intro move
    obtain ⟨calls, made, change⟩ := perform_change sound move later
    exact ⟨calls, made, change.asks.start, change.asks.stop⟩

/-- A client that acquires a transport while the device plays waits for the stream to start, though
the phase does not show it. -/
theorem run_condition_of_playing :
    let after := ((plainTransport true).run
      [.reportPlaying true, .acquire ":1.7" ⟨1⟩ "rw"] plainEnvironment).1
    after.phase = .pending ∧ Condition.starting.Holds after ∧
      ∀ other : Condition, other.Holds after → other = .starting := by
  intro after
  obtain ⟨⟨condition, -, unique⟩, -⟩ := run_condition (create_plain true)
    [.reportPlaying true, .acquire ":1.7" ⟨1⟩ "rw"] plainEnvironment rfl
  have starting : Condition.starting.Holds after := ⟨⟨_, _, _, rfl, rfl⟩, .inr (.inl rfl)⟩
  refine ⟨rfl, starting, fun other also => ?_⟩
  rw [unique other also, unique .starting starting]

end Transport

end BluetoothHost
