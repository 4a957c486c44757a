import BluetoothHost.Proofs.Media.Run

/-!
# The lock of the session along a run

The lock is taken for the first owner, whatever the phase was, and given back with the last one if
the phase then says that the transport is in use. The two readings of the phase need not agree: a
transport that is acquired while the device plays stays pending until its stream has started, and
its owner may leave before. Nothing gives the lock back then. The accounts below balance every
lock that was taken against those that were given back, the one that is held for the owners, and
those that were left behind in this way.
-/

namespace BluetoothHost

/-- What a call adds to the locks that were taken and not given back. -/
def Call.lockDelta : Call → Int
  | .session _ (.lock true) => 1
  | .session _ .unlock => -1
  | _ => 0

/-- The locks that were taken and not given back. -/
def lockBalance : List Call → Int
  | [] => 0
  | call :: calls => call.lockDelta + lockBalance calls

/-- Without calls the balance is even. -/
@[simp] theorem lockBalance_nil : lockBalance [] = 0 := rfl

/-- Each call adds its part. -/
@[simp] theorem lockBalance_cons (call : Call) (calls : List Call) :
    lockBalance (call :: calls) = call.lockDelta + lockBalance calls := rfl

/-- The parts of all calls add up. -/
@[simp] theorem lockBalance_append (earlier later : List Call) :
    lockBalance (earlier ++ later) = lockBalance earlier + lockBalance later := by
  induction earlier with
  | nil => simp
  | cons call calls ih =>
    rw [List.cons_append, lockBalance_cons, lockBalance_cons, ih, Int.add_assoc]

/-- None of these calls takes the lock or gives it back. -/
def Lockless (calls : List Call) : Prop := ∀ call ∈ calls, call.lockDelta = 0

namespace Lockless

variable {call : Call} {calls earlier later : List Call}

/-- Where there are no calls the lock is left alone. -/
theorem nil : Lockless [] := by simp [Lockless]

/-- One more call that leaves it alone changes nothing about that. -/
theorem cons (untouched : call.lockDelta = 0) (others : Lockless calls) :
    Lockless (call :: calls) := by
  intro other member
  rcases List.mem_cons.mp member with rfl | further
  · exact untouched
  · exact others other further

/-- Calls that come one after the other leave it alone if all do. -/
theorem append (before : Lockless earlier) (after : Lockless later) :
    Lockless (earlier ++ later) := by
  intro call member
  rcases List.mem_append.mp member with first | second
  · exact before call first
  · exact after call second

/-- Such calls leave the balance as it is. -/
theorem lockBalance_eq (untouched : Lockless calls) : lockBalance calls = 0 := by
  induction calls with
  | nil => rfl
  | cons call calls ih =>
    have first := untouched call (by simp)
    have further := ih fun other member => untouched other (by simp [member])
    rw [lockBalance_cons, first, further]
    rfl

end Lockless

namespace Transport

variable {S B A : Type}

/-- The locks that a transport holds for its owners. -/
def heldLocks (transport : Transport S) : Int := if transport.owners.owners = [] then 0 else 1

/-- The last owners leave a transport whose phase does not say that it is in use. -/
def Strands (before after : Transport S) : Prop :=
  before.owners.owners ≠ [] ∧ before.phase.inUse = false ∧ after.owners.owners = []

/-- Whether a lock is left behind can be computed. -/
instance (before after : Transport S) : Decidable (Strands before after) :=
  inferInstanceAs (Decidable (_ ∧ _ ∧ _))

/-- The locks that are left behind between two moments. -/
def strandedLocks (before after : Transport S) : Int := if Strands before after then 1 else 0

/-- The locks taken and not given back are those held for the owners and those left behind. -/
def Balanced (before after : Transport S) (calls : List Call) : Prop :=
  lockBalance calls + before.heldLocks = after.heldLocks + strandedLocks before after

variable {before after : Transport S} {calls : List Call}

/-- Nothing is held for nobody. -/
theorem heldLocks_unowned (unowned : before.owners.owners = []) : before.heldLocks = 0 :=
  if_pos unowned

/-- One lock is held for any number of owners. -/
theorem heldLocks_owned (owned : before.owners.owners ≠ []) : before.heldLocks = 1 :=
  if_neg owned

/-- While owners remain, or where there were none, no lock is left behind. -/
theorem strandedLocks_eq_zero
    (kept : before.owners.owners = [] ∨ after.owners.owners ≠ [] ∨ before.phase.inUse = true) :
    strandedLocks before after = 0 := by
  refine if_neg fun ⟨owned, unused, unowned⟩ => ?_
  rcases kept with none | some | used
  · exact owned none
  · exact some unowned
  · rw [unused] at used
    cases used

/-- A change that neither touches the lock nor lets the last owner go balances. -/
theorem Balanced.of_owners (untouched : lockBalance calls = 0)
    (same : before.owners.owners = [] ↔ after.owners.owners = []) :
    Balanced before after calls := by
  unfold Balanced
  by_cases unowned : before.owners.owners = []
  · rw [untouched, heldLocks_unowned unowned, heldLocks_unowned (same.mp unowned),
      strandedLocks_eq_zero (.inl unowned)]
  · have owned : after.owners.owners ≠ [] := fun none => unowned (same.mpr none)
    rw [untouched, heldLocks_owned unowned, heldLocks_owned owned,
      strandedLocks_eq_zero (.inr (.inl owned)), Int.zero_add, Int.add_zero]

section Steps

variable [ProfileSession S]

omit [ProfileSession S] in
/-- An announcement does not touch the lock. -/
theorem announcement_lockless (transport : Transport S) (phase : Phase) :
    Lockless (transport.announcement phase) := by
  unfold announcement
  split
  · exact .nil
  · exact .cons rfl .nil

/-- Nor does the end of a watch. -/
theorem unwatching_lockless (watch : Option WatchId) : Lockless (unwatching watch) := by
  cases watch with
  | none => exact .nil
  | some watch => exact .cons rfl .nil

/-- Settings do not touch the lock. -/
theorem settings_lockless (settings : ∀ call ∈ calls, IsSetting call) : Lockless calls := by
  intro call member
  have setting := settings call member
  unfold IsSetting at setting
  split at setting <;> first | rfl | cases setting

/-- A request that is failed does not touch the lock. -/
theorem Dismissal.lockless {session after : S} {pending : Option Request}
    (dismissal : Dismissal session pending after calls) : Lockless calls := by
  cases dismissal with
  | nothing => exact .nil
  | reported => exact .cons rfl .nil
  | cancelled => exact .cons rfl (.cons rfl .nil)

/-- What precedes the end of an ownership does not touch the lock. -/
theorem Ending.lockless {owner record : Owner} {prior : Transport S}
    {completed : Option Operation} (ending : Ending before owner completed record prior calls) :
    Lockless calls := by
  cases ending with
  | undelivered | stopped | suspended => exact .cons rfl .nil
  | _ => exact .nil

/-- When a record goes the lock is given back exactly if nobody remains and the transport is in
use. -/
theorem Departure.lockBalance_eq {record : Owner} {remaining : List Owner}
    (departure : Departure before record remaining after calls) :
    lockBalance calls = if remaining = [] ∧ before.phase.inUse = true then -1 else 0 := by
  cases departure with
  | stays dismissed kept =>
    have unsettled : ¬(remaining = [] ∧ before.phase.inUse = true) := by
      rintro ⟨last, used⟩
      rcases kept with others | unused
      · exact others last
      · rw [unused] at used
        cases used
    rw [if_neg unsettled, (dismissed.lockless.append (unwatching_lockless _)).lockBalance_eq]
  | settles dismissed last used =>
    have ended := dismissed.lockless.append (unwatching_lockless record.watch)
    rw [if_pos ⟨last, used⟩, lockBalance_append, ended.lockBalance_eq, lockBalance_cons,
      (announcement_lockless _ _).lockBalance_eq]
    rfl

/-- When a record goes the accounts balance. -/
theorem Departure.balanced {record : Owner} {remaining : List Owner} {prior : Transport S}
    (departure : Departure prior record remaining after calls)
    (owned : before.owners.owners ≠ []) (use : prior.phase.inUse = before.phase.inUse) :
    Balanced before after calls := by
  have owners_after : after.owners.owners = remaining := congrArg OwnerSet.owners departure.frame.1
  have balance := departure.lockBalance_eq
  rw [use] at balance
  unfold Balanced
  rw [heldLocks_owned owned, balance]
  by_cases last : remaining = []
  · have unowned := owners_after.trans last
    rw [heldLocks_unowned unowned]
    cases used : before.phase.inUse with
    | true =>
      rw [if_pos ⟨last, rfl⟩, strandedLocks_eq_zero (.inr (.inr used))]
      rfl
    | false =>
      have stranded : Strands before after := ⟨owned, used, unowned⟩
      rw [if_neg (by simp), strandedLocks, if_pos stranded]
  · have others : after.owners.owners ≠ [] := owners_after ▸ last
    rw [if_neg fun both => last both.1, heldLocks_owned others,
      strandedLocks_eq_zero (.inr (.inl others)), Int.zero_add, Int.add_zero]

/-- When an ownership ends the accounts balance. -/
theorem Leaving.balanced {client : String} {completed : Option Operation}
    (leaving : Leaving before client completed after calls) : Balanced before after calls := by
  obtain ⟨stands, ending, departure⟩ := leaving
  have owned : before.owners.owners ≠ [] := by simp [stands.owners_eq]
  have account := departure.balanced owned ending.frame.2.2.2.2
  unfold Balanced at account ⊢
  rw [lockBalance_append, ending.lockless.lockBalance_eq, Int.zero_add, account]

/-- When all owners leave the accounts balance, since the phase stays until the last of them has
gone. -/
theorem Exodus.balanced (exodus : Exodus before after calls) : Balanced before after calls := by
  induction exodus with
  | done => exact .of_owners rfl Iff.rfl
  | @next first second third owner back earlier later owners_eq departure further ih =>
    have owned : first.owners.owners ≠ [] := by simp [owners_eq]
    have account := departure.balanced owned rfl
    have owners_second : second.owners.owners = back := congrArg OwnerSet.owners departure.frame.1
    have same : strandedLocks first third =
        strandedLocks first second + strandedLocks second third := by
      by_cases last : back = []
      · have unowned := owners_second.trans last
        rw [strandedLocks_eq_zero (.inl unowned)]
        simp [strandedLocks, Strands, further.unowned, unowned]
      · have others : second.owners.owners ≠ [] := owners_second ▸ last
        have phase := departure.frame.2.2.2.2 last
        rw [strandedLocks_eq_zero (.inr (.inl others))]
        simp [strandedLocks, Strands, owned, others, phase]
    unfold Balanced at account ih ⊢
    rw [lockBalance_append, same]
    omega

/-- An acquire takes the lock for the first owner only, and gives it back if nobody becomes one. -/
theorem Acquiring.balanced {client : String} {token : ReplyToken}
    {outcome : Except Error Completion} (step : Acquiring before client token outcome after calls) :
    Balanced before after calls := by
  cases step with
  | refused => exact .of_owners rfl Iff.rfl
  | undelivered => exact .of_owners rfl Iff.rfl
  | locked => exact .of_owners rfl Iff.rfl
  | unstarted => exact .of_owners rfl Iff.rfl
  | joined _ running =>
    have owned : before.owners.owners ≠ [] := by
      intro unowned
      have size := running.1
      simp [OwnerSet.size, unowned] at size
    exact .of_owners rfl (by simp [owned])
  | started _ free _ _ _ =>
    unfold Balanced
    rw [heldLocks_unowned free.1, heldLocks_owned (by simp), strandedLocks_eq_zero (.inl free.1)]
    rfl

/-- A release balances. -/
theorem Releasing.balanced {client : String} {token : ReplyToken}
    {outcome : Except Error Completion} (step : Releasing before client token outcome after calls) :
    Balanced before after calls := by
  cases step with
  | refused => exact .of_owners rfl Iff.rfl
  | narrowed stands _ _ => exact .of_owners rfl (by simp [stands.owners_eq])
  | left leaving => exact leaving.balanced
  | suspending _ single _ _ _ => exact .of_owners rfl (by simp [single])

/-- A reaction balances. -/
theorem Reaction.balanced {completed : Option Operation}
    (step : Reaction before completed after calls) : Balanced before after calls := by
  cases step with
  | kept => exact .of_owners rfl Iff.rfl
  | leaving step => exact step.balanced
  | granted single _ _ =>
    exact .of_owners (Lockless.lockBalance_eq (.cons rfl (announcement_lockless _ _)))
      (by simp [single])
  | followed => exact .of_owners (announcement_lockless _ _).lockBalance_eq Iff.rfl
  | adjusted _ _ settings =>
    exact .of_owners (settings_lockless settings).lockBalance_eq Iff.rfl
  | emptied exodus => exact exodus.balanced

/-- Every change balances. -/
theorem Change.balanced {completed : Option Operation}
    (change : Change before completed after calls) : Balanced before after calls := by
  cases change with
  | acquiring step => exact step.balanced
  | releasing step => exact step.balanced
  | reacting step => exact step.balanced

variable [MessageBus B]

/-- The locks that are left behind by a list of moves. -/
def strandings (transport : Transport S) : List (Move S B) → Environment B A → Int
  | [], _ => 0
  | move :: moves, env =>
    let (after, later) := transport.perform move env
    strandedLocks transport after + after.strandings moves later

/-- The accounts of a run balance. -/
theorem run_balance {transport : Transport S} (sound : transport.Sound) (moves : List (Move S B))
    (env : Environment B A) :
    ∃ calls, env.Makes calls (transport.run moves env).2 ∧
      lockBalance calls + transport.heldLocks =
        (transport.run moves env).1.heldLocks + transport.strandings moves env := by
  induction moves generalizing transport env with
  | nil => exact ⟨[], env.makes_nil, by simp [run, strandings]⟩
  | cons move moves ih =>
    obtain ⟨earlier, made, change⟩ := perform_change sound move env
    obtain ⟨later, further, account⟩ := ih (change.sound sound) (transport.perform move env).2
    have first : Balanced transport (transport.perform move env).1 earlier := change.balanced
    refine ⟨earlier ++ later, made.append further, ?_⟩
    simp only [run, strandings, lockBalance_append]
    unfold Balanced at first
    omega

/-- Locks are left behind one at a time. -/
theorem strandings_nonneg (transport : Transport S) (moves : List (Move S B))
    (env : Environment B A) : 0 ≤ transport.strandings moves env := by
  induction moves generalizing transport env with
  | nil => exact Int.le_refl 0
  | cons move moves ih =>
    have rest := ih (transport.perform move env).1 (transport.perform move env).2
    have one : 0 ≤ strandedLocks transport (transport.perform move env).1 := by
      unfold strandedLocks
      split <;> omega
    simp only [strandings]
    omega

/-- No lock is left behind by a list of moves exactly if none is by any of them. -/
theorem strandings_eq_zero_iff (transport : Transport S) (moves : List (Move S B))
    (env : Environment B A) :
    transport.strandings moves env = 0 ↔
      ∀ earlier move rest, moves = earlier ++ move :: rest →
        ¬Strands (transport.run earlier env).1 (transport.run (earlier ++ [move]) env).1 := by
  induction moves generalizing transport env with
  | nil => simp [strandings]
  | cons move moves ih =>
    have rest := ih (transport.perform move env).1 (transport.perform move env).2
    have nonneg :=
      strandings_nonneg (transport.perform move env).1 moves (transport.perform move env).2
    have one : strandedLocks transport (transport.perform move env).1 = 0 ∨
        strandedLocks transport (transport.perform move env).1 = 1 := by
      unfold strandedLocks
      split <;> simp
    have stranded : strandedLocks transport (transport.perform move env).1 = 0 ↔
        ¬Strands transport (transport.perform move env).1 := by simp [strandedLocks]
    have parts : transport.strandings (move :: moves) env = 0 ↔
        ¬Strands transport (transport.perform move env).1 ∧
          (transport.perform move env).1.strandings moves (transport.perform move env).2 = 0 := by
      rw [← stranded]
      simp only [strandings]
      omega
    rw [parts, rest]
    constructor
    · rintro ⟨first, further⟩ earlier other others split
      cases earlier with
      | nil =>
        obtain ⟨rfl, rfl⟩ := List.cons.inj split
        exact first
      | cons head tail =>
        obtain ⟨rfl, same⟩ := List.cons.inj split
        exact further tail other others same
    · intro all
      refine ⟨all [] move moves rfl, fun earlier other others split => ?_⟩
      exact all (move :: earlier) other others (congrArg (move :: ·) split)

omit [ProfileSession S] in
/-- A lock is left behind only by an owner whose acquire is still in flight. -/
theorem Strands.starting (strands : Strands before after) (sound : before.Sound) :
    Condition.starting.Holds before := by
  obtain ⟨owned, unused, -⟩ := strands
  obtain ⟨condition, holds⟩ := sound.condition
  cases condition with
  | starting => exact holds
  | free => exact absurd holds.1 owned
  | running =>
    rw [holds.2.2.1] at unused
    cases unused
  | stopping =>
    rw [holds.2] at unused
    cases unused

/-- After every run from its creation that leaves a transport without owners, the locks that are
still taken are those that were left behind. They have all been given back exactly if the last
owners never left while the phase was idle or pending, which happens only to a single owner whose
acquire is in flight. -/
theorem run_lock_returned {id : TransportId} {config : TransportConfig} {session : S}
    {voiceMtu : UInt16} {transport : Transport S}
    (created : create id config session voiceMtu = .ok transport) (moves : List (Move S B))
    (env : Environment B A) {after : Transport S} {later : Environment B A}
    (ran : transport.run moves env = (after, later)) (unowned : after.owners.owners = []) :
    ∃ calls, env.Makes calls later ∧
      lockBalance calls = transport.strandings moves env ∧
      (lockBalance calls = 0 ↔
        ∀ earlier move rest, moves = earlier ++ move :: rest →
          ¬Strands (transport.run earlier env).1 (transport.run (earlier ++ [move]) env).1) ∧
      ∀ earlier next, Strands (transport.run earlier env).1 next →
        Condition.starting.Holds (transport.run earlier env).1 := by
  have sound := sound_create created
  obtain ⟨calls, made, account⟩ := run_balance sound moves env
  have fresh : transport.heldLocks = 0 := heldLocks_unowned (created_unowned created)
  rw [ran, heldLocks_unowned unowned, fresh, Int.add_zero, Int.zero_add] at account
  refine ⟨calls, by rwa [ran] at made, account, ?_, ?_⟩
  · rw [account, strandings_eq_zero_iff]
  · intro earlier next strands
    exact strands.starting (run_sound sound earlier env)

/-- A client that acquires a transport while the device plays and releases it before its stream has
started leaves the lock behind, and no other client can acquire the transport any more. -/
theorem run_lock_stranded :
    let moves : List (Move PlainSession PlainBus) :=
      [.reportPlaying true, .acquire ":1.7" ⟨1⟩ "rw", .release ":1.7" ⟨2⟩ "rw"]
    let after := (plainTransport true).run moves plainEnvironment
    after.1.owners.owners = [] ∧
      (∃ calls, plainEnvironment.Makes calls after.2 ∧ lockBalance calls = 1) ∧
      (after.1.acquire ":1.8" ⟨3⟩ "r" after.2).1 = .error .notAuthorized := by
  intro moves after
  obtain ⟨calls, made, balance, -⟩ := run_lock_returned (create_plain true) moves plainEnvironment
    rfl rfl
  exact ⟨rfl, ⟨calls, made, balance⟩, rfl⟩

end Steps

end Transport

end BluetoothHost
