import BluetoothHost.Proofs.Media.Phases
import BluetoothHost.Proofs.Media.SessionLock

/-!
# Every unlock follows a lock of its own

The accounts of the session lock compare a transport before a move with the same transport after
it. Here the calls of a move are followed one by one: the lock is given back only while the
transport has taken it once more often than it gave it back, and it is asked for only before
there is an owner. Locks that were left behind by an owner whose stream had not started do no
harm here; they leave more to give back, never less.
-/

namespace BluetoothHost

/-- Made by someone who has taken `held` locks and not given them back, these calls never give
back a lock too many. -/
def Solvent (held : Int) : List Call → Prop
  | [] => True
  | call :: calls => 0 ≤ held + call.lockDelta ∧ Solvent (held + call.lockDelta) calls

namespace Solvent

variable {held more : Int} {calls earlier later : List Call}

/-- Consecutive calls are followed with what the earlier ones leave. -/
theorem append_iff : Solvent held (earlier ++ later) ↔
    Solvent held earlier ∧ Solvent (held + lockBalance earlier) later := by
  induction earlier generalizing held with
  | nil => simp [Solvent]
  | cons call calls ih =>
    rw [List.cons_append, Solvent, Solvent, ih, lockBalance_cons, Int.add_assoc, and_assoc]

/-- Whoever holds more locks can give back as many. -/
theorem mono (solvent : Solvent held calls) (le : held ≤ more) : Solvent more calls := by
  induction calls generalizing held more with
  | nil => exact solvent
  | cons call calls ih =>
    obtain ⟨first, rest⟩ := solvent
    exact ⟨by omega, ih rest (by omega)⟩

/-- Calls that do not touch the lock give none back. -/
theorem of_lockless (untouched : Lockless calls) (nonneg : 0 ≤ held) : Solvent held calls := by
  induction calls with
  | nil => trivial
  | cons call calls ih =>
    have first := untouched call (by simp)
    have rest := ih fun other member => untouched other (by simp [member])
    rw [Solvent, first, Int.add_zero]
    exact ⟨nonneg, rest⟩

/-- In particular a lock is held whenever one is given back. -/
theorem balance_pos (solvent : Solvent 0 calls) {label : Nat}
    (split : calls = earlier ++ .session label .unlock :: later) : 0 < lockBalance earlier := by
  rw [split, append_iff] at solvent
  obtain ⟨-, enough, -⟩ := solvent
  have unlock : (Call.session label .unlock).lockDelta = -1 := rfl
  omega

end Solvent

/-- A call that asks a session for its lock. -/
def Call.AsksLock : Call → Prop
  | .session _ (.lock _) => True
  | _ => False

/-- Asking for the lock is a way to have the stream started. -/
theorem Call.AsksLock.starts {call : Call} (asks : call.AsksLock) : call.Starts := by
  unfold AsksLock at asks
  split at asks
  · trivial
  · cases asks

namespace Transport

variable {S B A : Type} [ProfileSession S] {before after : Transport S} {client : String}
  {token : ReplyToken} {outcome : Except Error Completion} {completed : Option Operation}
  {calls : List Call}

omit [ProfileSession S] in
/-- No transport holds less than nothing. -/
theorem heldLocks_nonneg (transport : Transport S) : 0 ≤ transport.heldLocks := by
  unfold heldLocks
  split <;> omega

omit [ProfileSession S] in
/-- No stranding takes a lock away. -/
theorem strandedLocks_nonneg (before after : Transport S) : 0 ≤ strandedLocks before after := by
  unfold strandedLocks
  split <;> omega

/-! ### No change gives back a lock too many -/

/-- When a record goes the lock that was held for it can be given back. -/
theorem Departure.solvent {record : Owner} {remaining : List Owner}
    (departure : Departure before record remaining after calls) : Solvent 1 calls := by
  cases departure with
  | stays dismissed _ =>
    exact .of_lockless (dismissed.lockless.append (unwatching_lockless _)) (by omega)
  | @settles session _ dismissed _ _ =>
    have ended := dismissed.lockless.append (unwatching_lockless record.watch)
    have unlock : (sessionCall session .unlock).lockDelta = -1 := rfl
    rw [Solvent.append_iff, ended.lockBalance_eq, Solvent, unlock]
    refine ⟨.of_lockless ended (by omega), by omega, ?_⟩
    exact .of_lockless (announcement_lockless _ _) (by omega)

/-- When an ownership ends there was a lock to give back. -/
theorem Leaving.solvent (leaving : Leaving before client completed after calls) :
    Solvent before.heldLocks calls := by
  obtain ⟨stands, ending, departure⟩ := leaving
  have owned : before.owners.owners ≠ [] := by simp [stands.owners_eq]
  rw [heldLocks_owned owned, Solvent.append_iff, ending.lockless.lockBalance_eq]
  exact ⟨.of_lockless ending.lockless (by omega), departure.solvent⟩

/-- When all owners leave there is a lock to give back until the last of them has gone. -/
theorem Exodus.solvent (exodus : Exodus before after calls) : Solvent before.heldLocks calls := by
  induction exodus with
  | done => trivial
  | @next first second third owner back earlier later owners_eq departure _ ih =>
    have owned : first.owners.owners ≠ [] := by simp [owners_eq]
    have account := departure.balanced owned rfl
    have stranded := strandedLocks_nonneg first second
    unfold Balanced at account
    rw [Solvent.append_iff]
    constructor
    · rw [heldLocks_owned owned]
      exact departure.solvent
    · exact ih.mono (by omega)

/-- An acquire gives back only the lock that it has just taken. -/
theorem Acquiring.solvent (step : Acquiring before client token outcome after calls) :
    Solvent before.heldLocks calls := by
  have nonneg := heldLocks_nonneg before
  cases step with
  | refused => trivial
  | undelivered => exact .of_lockless (.cons rfl .nil) nonneg
  | locked => exact .of_lockless (.cons rfl .nil) nonneg
  | joined => exact .of_lockless (.cons rfl (.cons rfl .nil)) nonneg
  | unstarted =>
    simp only [Solvent, sessionCall, Call.lockDelta, and_true]
    omega
  | started =>
    simp only [Solvent, sessionCall, Call.lockDelta, and_true]
    omega

/-- A release gives back what its departure does. -/
theorem Releasing.solvent (step : Releasing before client token outcome after calls) :
    Solvent before.heldLocks calls := by
  cases step with
  | refused | narrowed => trivial
  | left leaving => exact leaving.solvent
  | suspending => exact .of_lockless (.cons rfl .nil) (heldLocks_nonneg before)

/-- So does a reaction. -/
theorem Reaction.solvent (step : Reaction before completed after calls) :
    Solvent before.heldLocks calls := by
  have nonneg := heldLocks_nonneg before
  cases step with
  | kept => trivial
  | leaving step => exact step.solvent
  | granted => exact .of_lockless (.cons rfl (announcement_lockless _ _)) nonneg
  | followed => exact .of_lockless (announcement_lockless _ _) nonneg
  | adjusted _ _ settings => exact .of_lockless (settings_lockless settings) nonneg
  | emptied exodus => exact exodus.solvent

/-- No change gives back a lock that was not held. -/
theorem Change.solvent (change : Change before completed after calls) :
    Solvent before.heldLocks calls := by
  cases change with
  | acquiring step => exact step.solvent
  | releasing step => exact step.solvent
  | reacting step => exact step.solvent

/-! ### The lock is asked for first -/

/-- The end of an ownership has no stream started. -/
theorem Leaving.starts_nothing (leaving : Leaving before client completed after calls) :
    ∀ call ∈ calls, ¬call.Starts := by
  obtain ⟨-, ending, departure⟩ := leaving
  intro call member
  rcases List.mem_append.mp member with first | second
  · rcases ending.asks with quiet | ⟨starting, -⟩
    · exact (quiet call first).1
    · exact starting call first
  · exact (departure.quiet call second).1

/-- Nor has a release. -/
theorem Releasing.starts_nothing (step : Releasing before client token outcome after calls) :
    ∀ call ∈ calls, ¬call.Starts := by
  cases step with
  | refused | narrowed => simp
  | left leaving => exact leaving.starts_nothing
  | suspending => simp [sessionCall, Call.Starts]

/-- Nor has a reaction. -/
theorem Reaction.starts_nothing (step : Reaction before completed after calls) :
    ∀ call ∈ calls, ¬call.Starts := by
  cases step with
  | kept => simp
  | leaving step => exact step.starts_nothing
  | granted =>
    intro call member
    rcases List.mem_cons.mp member with rfl | announced
    · exact not_false
    · exact (announcement_quiet _ _ call announced).1
  | followed => exact fun call member => (announcement_quiet _ _ call member).1
  | adjusted _ _ settings => exact fun call member => (settings_quiet settings call member).1
  | emptied exodus => exact fun call member => (exodus.quiet call member).1

/-- The lock is asked for by an acquire, where there is no owner yet and before anything else. -/
theorem Change.asksLock (change : Change before completed after calls)
    (asks : ∃ call ∈ calls, call.AsksLock) :
    before.owners.owners = [] ∧ ∀ call ∈ calls.tail, ¬call.AsksLock := by
  obtain ⟨call, member, asksLock⟩ := asks
  have starts := asksLock.starts
  cases change with
  | releasing step => exact absurd starts (step.starts_nothing call member)
  | reacting step => exact absurd starts (step.starts_nothing call member)
  | acquiring step =>
    have unowned := (step.asks.start ⟨call, member, starts⟩).1
    refine ⟨unowned, ?_⟩
    cases step <;> simp [sessionCall, Call.AsksLock]

variable [MessageBus B]

/-- A run gives back no lock that was not held, and what remains is held for the owners or was
left behind. -/
theorem run_solvent {transport : Transport S} (sound : transport.Sound) (moves : List (Move S B))
    (env : Environment B A) :
    ∃ calls, env.Makes calls (transport.run moves env).2 ∧ Solvent transport.heldLocks calls ∧
      (transport.run moves env).1.heldLocks ≤ transport.heldLocks + lockBalance calls := by
  induction moves generalizing transport env with
  | nil => exact ⟨[], env.makes_nil, trivial, by simp [run]⟩
  | cons move moves ih =>
    obtain ⟨earlier, made, change⟩ := perform_change sound move env
    obtain ⟨later, further, rest, held⟩ := ih (change.sound sound) (transport.perform move env).2
    have account := change.balanced
    have stranded := strandedLocks_nonneg transport (transport.perform move env).1
    unfold Balanced at account
    refine ⟨earlier ++ later, made.append further, ?_, ?_⟩
    · rw [Solvent.append_iff]
      exact ⟨change.solvent, rest.mono (by omega)⟩
    · simp only [run, lockBalance_append]
      omega

/-- Along every run from its creation a transport gives the lock of the session back only after it
has taken it once more often than it gave it back. While it has an owner a lock that it took is
not given back, and whatever befalls it, it asks for the lock only while it has no owner, before
it calls anyone else. -/
theorem run_lock_held {id : TransportId} {config : TransportConfig} {session : S}
    {voiceMtu : UInt16} {transport : Transport S}
    (created : create id config session voiceMtu = .ok transport) (moves : List (Move S B))
    (env : Environment B A) {after : Transport S} {later : Environment B A}
    (ran : transport.run moves env = (after, later)) :
    ∃ calls, env.Makes calls later ∧
      (∀ earlier label rest, calls = earlier ++ .session label .unlock :: rest →
        0 < lockBalance earlier) ∧
      (after.owners.owners ≠ [] → 0 < lockBalance calls) ∧
      ∀ move : Move S B, ∃ further, later.Makes further (after.perform move later).2 ∧
        ((∃ call ∈ further, call.AsksLock) →
          after.owners.owners = [] ∧ ∀ call ∈ further.tail, ¬call.AsksLock) := by
  have sound := sound_create created
  have fresh : transport.heldLocks = 0 := heldLocks_unowned (created_unowned created)
  obtain ⟨calls, made, solvent, held⟩ := run_solvent sound moves env
  rw [fresh] at solvent held
  rw [ran] at made held
  refine ⟨calls, made, fun _ _ _ split => solvent.balance_pos split, ?_, fun move => ?_⟩
  · intro owned
    rw [heldLocks_owned owned] at held
    omega
  · obtain ⟨further, makes, change⟩ := perform_change (run_created_sound created ran) move later
    exact ⟨further, makes, change.asksLock⟩

/-- The lock that was taken for a client whose stream runs is held until the stream has stopped,
and given back then. -/
theorem run_lock_held_of_suspended :
    let started : List (Move PlainSession PlainBus) :=
      [.acquire ":1.7" ⟨1⟩ "rw", .resumeComplete ":1.7" ⟨0⟩ (.ok ()), .release ":1.7" ⟨2⟩ "rw"]
    let stopping := (plainTransport false).run started plainEnvironment
    let after := stopping.1.perform (.suspendComplete ":1.7" ⟨1⟩) stopping.2
    (∃ calls, plainEnvironment.Makes calls stopping.2 ∧ 0 < lockBalance calls) ∧
      ∃ calls, stopping.2.Makes calls after.2 ∧ lockBalance calls = -1 := by
  intro started stopping after
  obtain ⟨calls, made, -, held, -⟩ := run_lock_held (create_plain false) started plainEnvironment
    rfl
  have owned : stopping.1.owners.owners ≠ [] := by decide
  exact ⟨⟨calls, made, held owned⟩, _, rfl, rfl⟩

end Transport

end BluetoothHost
