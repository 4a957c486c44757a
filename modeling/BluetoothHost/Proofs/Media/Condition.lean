import BluetoothHost.Media.Transport
import BluetoothHost.Proofs.Media.Exclusion

/-!
# The conditions of a transport

Five phases, up to four owners and a request for each of them would allow many states, but a
transport is only ever in one of four conditions: nobody owns it, its one owner waits for the
stream to start, its owners have the stream, or its one owner waits for the stream to stop. The
phase alone does not tell them apart, since a transport that was acquired while the device played
stays pending, and may become idle, until its stream has started.
-/

namespace BluetoothHost

/-- What a transport is doing for its owners. -/
inductive Condition
  /-- Nobody owns it. -/
  | free
  /-- Its one owner waits for the stream to start. -/
  | starting
  /-- Its owners have the stream. -/
  | running
  /-- Its one owner waits for the stream to stop. -/
  | stopping
deriving DecidableEq

namespace Condition

variable {S : Type}

/-- When a transport is in a condition. -/
def Holds (transport : Transport S) : Condition → Prop
  | free => transport.owners.owners = [] ∧
      (transport.phase = .idle ∨ transport.phase = .pending)
  | starting => (∃ owner token id, transport.owners.owners = [owner] ∧
        owner.pending = some { kind := .acquire, token, id := some id }) ∧
      (transport.phase = .idle ∨ transport.phase = .pending ∨ transport.phase = .requesting)
  | running => (transport.owners.size = 1 ∨ transport.owners.size = 2) ∧
      (∀ owner ∈ transport.owners.owners, owner.pending = none) ∧
      transport.phase = .active ∧ transport.stream.isSome
  | stopping => (∃ owner token id, transport.owners.owners = [owner] ∧
        owner.pending = some { kind := .release, token, id := some id }) ∧
      transport.phase = .suspending

/-- A transport is in no two conditions. -/
theorem holds_unique {transport : Transport S} {one other : Condition}
    (first : one.Holds transport) (second : other.Holds transport) : one = other := by
  cases one <;> cases other <;> first | rfl | skip
  all_goals
    simp only [Holds, OwnerSet.size] at first second
    grind

/-- A condition is a matter of the requests in flight, the phase and whether the stream is known. -/
theorem Holds.of_pending {before after : Transport S} {condition : Condition}
    (holds : condition.Holds before)
    (requests : after.owners.owners.map Owner.pending = before.owners.owners.map Owner.pending)
    (phase : after.phase = before.phase) (stream : after.stream.isSome = before.stream.isSome) :
    condition.Holds after := by
  have sizes : after.owners.size = before.owners.size := by
    simpa [OwnerSet.size] using congrArg List.length requests
  cases condition with
  | free =>
    obtain ⟨unowned, rest⟩ := holds
    rw [unowned, List.map_nil, List.map_eq_nil_iff] at requests
    exact ⟨requests, phase ▸ rest⟩
  | starting =>
    obtain ⟨⟨owner, token, id, single, pending⟩, rest⟩ := holds
    rw [single, List.map_singleton, List.map_eq_singleton_iff] at requests
    obtain ⟨other, alone, same⟩ := requests
    exact ⟨⟨other, token, id, alone, same.trans pending⟩, phase ▸ rest⟩
  | running =>
    obtain ⟨size, settled, active, known⟩ := holds
    refine ⟨sizes ▸ size, ?_, phase ▸ active, stream ▸ known⟩
    intro owner member
    have listed : owner.pending ∈ before.owners.owners.map Owner.pending :=
      requests ▸ List.mem_map_of_mem member
    obtain ⟨other, present, same⟩ := List.mem_map.mp listed
    rw [← same, settled other present]
  | stopping =>
    obtain ⟨⟨owner, token, id, single, pending⟩, rest⟩ := holds
    rw [single, List.map_singleton, List.map_eq_singleton_iff] at requests
    obtain ⟨other, alone, same⟩ := requests
    exact ⟨⟨other, token, id, alone, same.trans pending⟩, phase ▸ rest⟩

end Condition

namespace Transport

variable {S : Type}

/-- What every operation keeps of a transport. -/
structure Sound (transport : Transport S) : Prop where
  /-- The lock is shared out among the owners. -/
  shared : Shared transport.owners.owners transport.lock
  /-- The transport is in one of the conditions. -/
  condition : ∃ condition : Condition, condition.Holds transport

/-- A fresh transport is sound. -/
theorem sound_create {id : TransportId} {config : TransportConfig} {session : S} {voiceMtu : UInt16}
    {transport : Transport S} (created : create id config session voiceMtu = .ok transport) :
    transport.Sound := by
  unfold create at created
  repeat' split at created
  all_goals cases created
  exact ⟨Shared.nil, .free, rfl, .inl rfl⟩

/-- Nobody owns a fresh transport. -/
theorem created_unowned {id : TransportId} {config : TransportConfig} {session : S}
    {voiceMtu : UInt16} {transport : Transport S}
    (created : create id config session voiceMtu = .ok transport) :
    transport.owners.owners = [] := by
  unfold create at created
  repeat' split at created
  all_goals cases created
  rfl

namespace Sound

variable {transport : Transport S}

/-- Owners of whom none waits have the stream. -/
theorem running (shared : Shared transport.owners.owners transport.lock)
    (owned : transport.owners.owners ≠ [])
    (settled : ∀ owner ∈ transport.owners.owners, owner.pending = none)
    (phase : transport.phase = .active) (stream : transport.stream.isSome) : transport.Sound := by
  have bound := shared.length_le_two
  have positive := List.length_pos_iff.mpr owned
  refine ⟨shared, .running, ?_, settled, phase, stream⟩
  unfold OwnerSet.size
  omega

/-- A transport on which no request is in flight is free or has its stream. -/
theorem free_or_running (sound : transport.Sound) (quiet : transport.owners.hasInFlight = false) :
    Condition.free.Holds transport ∨ Condition.running.Holds transport := by
  obtain ⟨condition, holds⟩ := sound.condition
  cases condition with
  | free => exact .inl holds
  | running => exact .inr holds
  | starting =>
    obtain ⟨⟨owner, token, id, owners_eq, pending⟩, -⟩ := holds
    simp [OwnerSet.hasInFlight, owners_eq, Owner.inFlight, pending] at quiet
  | stopping =>
    obtain ⟨⟨owner, token, id, owners_eq, pending⟩, -⟩ := holds
    simp [OwnerSet.hasInFlight, owners_eq, Owner.inFlight, pending] at quiet

/-- A transport that nobody owns is free. -/
theorem free_of_unowned (sound : transport.Sound) (unowned : transport.owners.owners = []) :
    Condition.free.Holds transport := by
  have quiet : transport.owners.hasInFlight = false := by simp [OwnerSet.hasInFlight, unowned]
  refine (sound.free_or_running quiet).resolve_right fun running => ?_
  have owned := running.1
  simp [OwnerSet.size, unowned] at owned

/-- Where owners remain the stream was running for all of them. -/
theorem running_of_others (sound : transport.Sound) {owner : Owner} {front back : List Owner}
    (owners_eq : transport.owners.owners = front ++ owner :: back) (others : front ++ back ≠ []) :
    Condition.running.Holds transport := by
  obtain ⟨condition, holds⟩ := sound.condition
  cases condition with
  | running => exact holds
  | free =>
    rw [holds.1] at owners_eq
    simp at owners_eq
  | starting =>
    obtain ⟨⟨single, _, _, single_eq, -⟩, -⟩ := holds
    exact absurd (OwnerSet.alone_of_single (single_eq.symm.trans owners_eq)).2 others
  | stopping =>
    obtain ⟨⟨single, _, _, single_eq, -⟩, -⟩ := holds
    exact absurd (OwnerSet.alone_of_single (single_eq.symm.trans owners_eq)).2 others

/-- A single owner without a request has the stream. -/
theorem running_of_settled (sound : transport.Sound) {owner : Owner}
    (single : transport.owners.owners = [owner]) (settled : owner.pending = none) :
    Condition.running.Holds transport := by
  have quiet : transport.owners.hasInFlight = false := by
    simp [OwnerSet.hasInFlight, single, Owner.inFlight, settled]
  refine (sound.free_or_running quiet).resolve_left fun free => ?_
  rw [free.1] at single
  cases single

/-- An owner whose request is in flight is alone. -/
theorem single_of_pending (sound : transport.Sound) {owner : Owner} {front back : List Owner}
    (owners_eq : transport.owners.owners = front ++ owner :: back)
    (pending : owner.pending ≠ none) : front ++ back = [] := by
  by_cases others : front ++ back = []
  · exact others
  · have running := sound.running_of_others owners_eq others
    exact absurd (running.2.1 owner (by simp [owners_eq])) pending

end Sound

end Transport

end BluetoothHost
