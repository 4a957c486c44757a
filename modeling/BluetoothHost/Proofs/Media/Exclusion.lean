import BluetoothHost.Proofs.Media.Owners

/-!
# How directions are shared out

The lock of a transport is kept beside its owners and changed step by step, by setting and by
clearing directions. Clearing is right only because no two owners hold the same direction, and
giving back after a refusal only because what was taken had been free. The three facts are
therefore stated together and kept together by everything that can happen to the owners.
-/

namespace BluetoothHost

/-- These owners share out this lock among them. -/
structure Shared (owners : List Owner) (lock : Lock) : Prop where
  /-- The lock is what the owners hold together. -/
  lock_eq : lock = (OwnerSet.mk owners).lock
  /-- No client owns twice, and no direction is held twice. -/
  apart : owners.Pairwise fun one other => one.client ≠ other.client ∧ one.lock.Apart other.lock
  /-- Every owner holds something. -/
  held : ∀ owner ∈ owners, owner.lock.isEmpty = false

namespace Shared

variable {owners front back : List Owner} {owner record : Owner} {lock : Lock}

/-- Without owners nothing is held. -/
theorem nil : Shared [] Lock.none :=
  ⟨rfl, List.Pairwise.nil, by simp⟩

/-- An owner among others holds nothing that one of them holds. -/
theorem others_apart (shared : Shared (front ++ owner :: back) lock) :
    ∀ other ∈ front ++ back, other.lock.Apart owner.lock := by
  obtain ⟨-, behind, across⟩ := List.pairwise_append.mp shared.apart
  obtain ⟨after, -⟩ := List.pairwise_cons.mp behind
  intro other member
  rcases List.mem_append.mp member with before | later
  · exact (across other before owner (by simp)).2
  · exact (after other later).2.symm

/-- The lock falls apart into that of one owner and those of the others. -/
theorem lock_split (shared : Shared (front ++ owner :: back) lock) :
    lock = owner.lock ||| (OwnerSet.mk (front ++ back)).lock := by
  rw [shared.lock_eq, OwnerSet.lock_append, OwnerSet.lock_cons, OwnerSet.lock_append]
  ext <;> simp only [Lock.read_or, Lock.write_or] <;> grind

/-- When an owner leaves, clearing its directions leaves exactly those of the others. -/
theorem remove (shared : Shared (front ++ owner :: back) lock) :
    Shared (front ++ back) (lock &&& ~~~owner.lock) := by
  have kept : (front ++ back).Sublist (front ++ owner :: back) :=
    List.Sublist.append_left (List.sublist_cons_self owner back) front
  refine ⟨?_, shared.apart.sublist kept, fun other member => shared.held other (kept.subset member)⟩
  have others := OwnerSet.lock_apart_iff.mpr shared.others_apart
  rw [shared.lock_split, Lock.minus_or, Lock.minus_self, Lock.none_or, others.minus_eq]

/-- A record of the same client with as much or less takes the place of the old one. -/
theorem replace (shared : Shared (front ++ owner :: back) lock)
    (same : record.client = owner.client)
    (less : ∀ other : Lock, other.Apart owner.lock → other.Apart record.lock)
    (held : record.lock.isEmpty = false) :
    Shared (front ++ record :: back) (record.lock ||| (OwnerSet.mk (front ++ back)).lock) := by
  obtain ⟨before, behind, across⟩ := List.pairwise_append.mp shared.apart
  obtain ⟨after, later⟩ := List.pairwise_cons.mp behind
  refine ⟨?_, ?_, ?_⟩
  · rw [OwnerSet.lock_append, OwnerSet.lock_append, OwnerSet.lock_cons]
    ext <;> simp only [Lock.read_or, Lock.write_or] <;> grind
  · refine List.pairwise_append.mpr ⟨before, List.pairwise_cons.mpr ⟨?_, later⟩, ?_⟩
    · intro other member
      have ⟨differs, apart⟩ := after other member
      exact ⟨same ▸ differs, (less _ apart.symm).symm⟩
    · intro other member another either
      rcases List.mem_cons.mp either with rfl | later
      · have ⟨differs, apart⟩ := across other member owner (by simp)
        exact ⟨same ▸ differs, less _ apart⟩
      · exact across other member another (by simp [later])
  · intro other member
    rcases List.mem_append.mp member with before | behind
    · exact shared.held other (by simp [before])
    · rcases List.mem_cons.mp behind with rfl | later
      · exact held
      · exact shared.held other (by simp [later])

/-- A record that differs in neither client nor lock takes the place of the old one. -/
theorem update (shared : Shared (front ++ owner :: back) lock) (same : record.client = owner.client)
    (equal : record.lock = owner.lock) : Shared (front ++ record :: back) lock := by
  have replaced := shared.replace same (by rw [equal]; exact fun _ apart => apart)
    (by rw [equal]; exact shared.held owner (by simp))
  rwa [equal, ← shared.lock_split] at replaced

/-- An owner gives up a part of what it holds: clearing the part on both sides keeps the share. -/
theorem narrow (shared : Shared (front ++ owner :: back) lock) {part : Lock}
    (within : owner.lock.contains part = true) (different : part ≠ owner.lock)
    (same : record.client = owner.client) (less : record.lock = owner.lock &&& ~~~part) :
    Shared (front ++ record :: back) (lock &&& ~~~part) := by
  have replaced := shared.replace same
    (by rw [less]; exact fun _ apart => (apart.symm.minus part).symm)
    (by rw [less]; exact Lock.minus_isEmpty within different)
  have others := OwnerSet.lock_apart_iff.mpr shared.others_apart
  rwa [less, ← (others.of_contains within).minus_eq, ← Lock.minus_or, ← shared.lock_split]
    at replaced

/-- A client without a record takes directions that were free. -/
theorem join (shared : Shared owners lock) (fresh : ∀ other ∈ owners, other.client ≠ record.client)
    (free : lock.Apart record.lock) (held : record.lock.isEmpty = false) :
    Shared (owners ++ [record]) (lock ||| record.lock) := by
  rw [shared.lock_eq] at free
  have apart := OwnerSet.lock_apart_iff.mp free
  refine ⟨?_, ?_, ?_⟩
  · rw [shared.lock_eq, OwnerSet.lock_append, OwnerSet.lock_cons, OwnerSet.lock_nil]
    ext <;> simp [Lock.none]
  · refine List.pairwise_append.mpr ⟨shared.apart, List.pairwise_singleton _ _, ?_⟩
    intro other member another single
    rw [List.mem_singleton.mp single]
    exact ⟨fresh other member, apart other member⟩
  · intro other member
    rcases List.mem_append.mp member with before | single
    · exact shared.held other before
    · rw [List.mem_singleton.mp single]
      exact held

/-- There are two directions, so there are at most two owners. -/
theorem length_le_two (shared : Shared owners lock) : owners.length ≤ 2 := by
  match owners, shared with
  | [], _ | [_], _ | [_, _], _ => simp
  | first :: second :: third :: rest, shared =>
    obtain ⟨one, behind⟩ := List.pairwise_cons.mp shared.apart
    obtain ⟨two, -⟩ := List.pairwise_cons.mp behind
    have empty := Lock.isEmpty_of_apart (one second (by simp)).2 (one third (by simp)).2
      (two third (by simp)).2 (shared.held first (by simp)) (shared.held second (by simp))
    rw [shared.held third (by simp)] at empty
    cases empty

end Shared

end BluetoothHost
