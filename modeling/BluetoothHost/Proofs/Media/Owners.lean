import BluetoothHost.Media.Owner

/-!
# Locks of the owners of a transport

Two directions can be shared out among owners in few ways: locks that have no direction in common
can be joined and taken apart again, and there are at most two of them that are not empty. The
operations on a set of owners are stated for the place at which the record of a client stands, so
that later proofs see the owners before it and after it.
-/

namespace BluetoothHost

attribute [ext] Lock

namespace Lock

/-- A union reads if one of the two does. -/
@[simp] theorem read_or (left right : Lock) : (left ||| right).read = (left.read || right.read) :=
  rfl

/-- It writes if one of the two does. -/
@[simp] theorem write_or (left right : Lock) :
    (left ||| right).write = (left.write || right.write) := rfl

/-- An intersection reads if both do. -/
@[simp] theorem read_and (left right : Lock) :
    (left &&& right).read = (left.read && right.read) := rfl

/-- It writes if both do. -/
@[simp] theorem write_and (left right : Lock) :
    (left &&& right).write = (left.write && right.write) := rfl

/-- A complement reads if the lock does not. -/
@[simp] theorem read_not (lock : Lock) : (~~~lock).read = !lock.read := rfl

/-- It writes if the lock does not. -/
@[simp] theorem write_not (lock : Lock) : (~~~lock).write = !lock.write := rfl

/-- No lock adds nothing to a union. -/
@[simp] theorem none_or (lock : Lock) : none ||| lock = lock := by
  ext <;> simp [none]

/-- The order in which locks are joined does not matter. -/
theorem or_assoc (first second third : Lock) :
    first ||| second ||| third = first ||| (second ||| third) := by
  ext <;> simp [Bool.or_assoc]

/-- Two locks have no direction in common. -/
def Apart (left right : Lock) : Prop := left.intersects right = false

/-- Being apart is a matter of each direction on its own. -/
theorem apart_iff {left right : Lock} :
    left.Apart right ↔
      (left.read = true → right.read = false) ∧ (left.write = true → right.write = false) := by
  cases left
  cases right
  simp only [Apart, intersects]
  grind

/-- Neither of two locks that are apart comes first. -/
theorem Apart.symm {left right : Lock} (apart : left.Apart right) : right.Apart left := by
  rw [apart_iff] at *
  grind

/-- A joined lock is apart from another exactly when both its parts are. -/
theorem or_apart_iff {left right other : Lock} :
    (left ||| right).Apart other ↔ left.Apart other ∧ right.Apart other := by
  simp only [apart_iff, read_or, write_or]
  grind

/-- A lock with fewer directions is apart from whatever the larger one was apart from. -/
theorem Apart.minus {left other : Lock} (apart : left.Apart other) (part : Lock) :
    (left &&& ~~~part).Apart other := by
  rw [apart_iff] at *
  simp only [read_and, write_and]
  grind

/-- Giving back what was free before the taking changes nothing. -/
theorem or_minus {held taken : Lock} (apart : held.Apart taken) :
    (held ||| taken) &&& ~~~taken = held := by
  rw [apart_iff] at apart
  ext <;> simp only [read_and, read_or, read_not, write_and, write_or, write_not] <;> grind

/-- A lock that is apart from another keeps everything when the other is taken away. -/
theorem Apart.minus_eq {held part : Lock} (apart : held.Apart part) : held &&& ~~~part = held := by
  rw [apart_iff] at apart
  ext <;> simp only [read_and, read_not, write_and, write_not] <;> grind

/-- Taking away distributes over joining. -/
theorem minus_or (left right part : Lock) :
    (left ||| right) &&& ~~~part = (left &&& ~~~part) ||| (right &&& ~~~part) := by
  ext <;> simp only [read_and, read_or, write_and, write_or] <;> grind

/-- A lock keeps nothing of itself. -/
theorem minus_self (lock : Lock) : lock &&& ~~~lock = none := by
  ext <;> simp [none]

/-- Some direction is left of a lock from which a different part of it is taken. -/
theorem minus_isEmpty {held part : Lock} (within : held.contains part = true)
    (different : part ≠ held) : (held &&& ~~~part).isEmpty = false := by
  rcases held with ⟨_ | _, _ | _⟩ <;> rcases part with ⟨_ | _, _ | _⟩ <;>
    first | rfl | simp_all [contains]

/-- What is apart from a lock is apart from each part of it. -/
theorem Apart.of_contains {other held part : Lock} (apart : other.Apart held)
    (within : held.contains part = true) : other.Apart part := by
  rw [apart_iff] at *
  simp only [contains] at within
  grind

/-- A lock that is not empty has one of the two directions. -/
theorem isEmpty_eq_false {lock : Lock} :
    lock.isEmpty = false ↔ lock.read = true ∨ lock.write = true := by
  rcases lock with ⟨_ | _, _ | _⟩ <;> simp [isEmpty]

/-- No three locks are apart from one another unless one of them is empty. -/
theorem isEmpty_of_apart {first second third : Lock} (one : first.Apart second)
    (two : first.Apart third) (three : second.Apart third) (held : first.isEmpty = false)
    (also : second.isEmpty = false) : third.isEmpty = true := by
  cases other : third.isEmpty with
  | true => rfl
  | false =>
    rw [isEmpty_eq_false] at held also other
    simp only [apart_iff] at one two three
    grind

end Lock

namespace OwnerSet

/-- The lock of a set of owners is joined one owner after another. -/
theorem lock_foldl (owners : List Owner) (lock : Lock) :
    owners.foldl (fun lock owner => lock ||| owner.lock) lock =
      lock ||| (OwnerSet.mk owners).lock := by
  unfold OwnerSet.lock
  induction owners generalizing lock with
  | nil => ext <;> simp [Lock.none]
  | cons owner rest ih =>
    simp only [List.foldl_cons, Lock.none_or]
    rw [ih (lock ||| owner.lock), ih owner.lock, Lock.or_assoc]

/-- No owners hold no lock. -/
@[simp] theorem lock_nil : (OwnerSet.mk []).lock = Lock.none := rfl

/-- The first owner adds its lock to those of the others. -/
theorem lock_cons (owner : Owner) (rest : List Owner) :
    (OwnerSet.mk (owner :: rest)).lock = owner.lock ||| (OwnerSet.mk rest).lock := by
  have folded := lock_foldl rest owner.lock
  simpa only [OwnerSet.lock, List.foldl_cons, Lock.none_or] using folded

/-- Two groups of owners hold what each group holds. -/
theorem lock_append (front back : List Owner) :
    (OwnerSet.mk (front ++ back)).lock = (OwnerSet.mk front).lock ||| (OwnerSet.mk back).lock := by
  induction front with
  | nil => simp
  | cons owner rest ih => rw [List.cons_append, lock_cons, lock_cons, ih, Lock.or_assoc]

/-- The owners together are apart from a lock exactly when each of them is. -/
theorem lock_apart_iff {owners : List Owner} {lock : Lock} :
    (OwnerSet.mk owners).lock.Apart lock ↔ ∀ owner ∈ owners, owner.lock.Apart lock := by
  induction owners with
  | nil => simp [Lock.apart_iff, Lock.none]
  | cons owner rest ih => simp [lock_cons, Lock.or_apart_iff, ih]

/-- An owner that stands in a list of one is alone. -/
theorem alone_of_single {single owner : Owner} {front back : List Owner}
    (owners_eq : [single] = front ++ owner :: back) : single = owner ∧ front ++ back = [] := by
  have lengths := congrArg List.length owners_eq
  simp only [List.length_cons, List.length_nil, List.length_append] at lengths
  have front_nil : front = [] := List.eq_nil_of_length_eq_zero (by omega)
  have back_nil : back = [] := List.eq_nil_of_length_eq_zero (by omega)
  subst front_nil back_nil
  exact ⟨List.cons.inj owners_eq |>.1, rfl⟩

/-- The record of a client stands between these owners; it is the first of that client. -/
structure Stands (set : OwnerSet) (client : String) (front : List Owner) (owner : Owner)
    (back : List Owner) : Prop where
  /-- The owners in their order. -/
  owners_eq : set.owners = front ++ owner :: back
  /-- The record is one of the client. -/
  client_eq : owner.client.value = client
  /-- No record before it is. -/
  first : ∀ other ∈ front, other.client.value ≠ client

/-- A record that is found stands somewhere. -/
theorem stands_of_get? {set : OwnerSet} {client : String} {owner : Owner}
    (found : set.get? client = some owner) :
    ∃ front back, set.Stands client front owner back := by
  obtain ⟨matched, front, back, owners_eq, first⟩ := List.find?_eq_some_iff_append.mp found
  refine ⟨front, back, owners_eq, by simpa [Owner.isClient] using matched, ?_⟩
  intro other member
  simpa [Owner.isClient] using first other member

/-- A client without a record owns nothing. -/
theorem ne_of_get?_eq_none {set : OwnerSet} {client : String} (absent : set.get? client = none) :
    ∀ owner ∈ set.owners, owner.client.value ≠ client := by
  intro owner member
  simpa [Owner.isClient] using List.find?_eq_none.mp absent owner member

namespace Stands

variable {set : OwnerSet} {client : String} {front back : List Owner} {owner : Owner}

/-- The record is the one that is found. -/
theorem get?_eq (stands : set.Stands client front owner back) : set.get? client = some owner := by
  apply List.find?_eq_some_iff_append.mpr
  refine ⟨by simp [Owner.isClient, stands.client_eq], front, back, stands.owners_eq, ?_⟩
  intro other member
  simpa [Owner.isClient] using stands.first other member

/-- Without the client the owners before and after it remain. -/
theorem erase_eq (stands : set.Stands client front owner back) :
    set.erase client = ⟨front ++ back⟩ := by
  unfold OwnerSet.erase
  rw [stands.owners_eq, List.eraseP_append_right]
  · simp [Owner.isClient, stands.client_eq]
  · intro other member
    simpa [Owner.isClient] using stands.first other member

/-- A change of the record leaves the others where they are. -/
theorem modify_eq (stands : set.Stands client front owner back) (change : Owner → Owner) :
    set.modify client change = ⟨front ++ change owner :: back⟩ := by
  obtain ⟨owners_eq, client_eq, first⟩ := stands
  unfold OwnerSet.modify
  rw [owners_eq]
  clear owners_eq
  congr 1
  induction front with
  | nil => simp [updateFirst, Owner.isClient, client_eq]
  | cons other rest ih =>
    have differs : other.client.value ≠ client := first other (by simp)
    have later := ih fun another member => first another (by simp [member])
    simpa [updateFirst, Owner.isClient, differs] using later

/-- A changed record of the same client stands in the same place. -/
theorem changed (stands : set.Stands client front owner back) {record : Owner}
    (same : record.client = owner.client) :
    (OwnerSet.mk (front ++ record :: back)).Stands client front record back :=
  ⟨rfl, same ▸ stands.client_eq, stands.first⟩

end Stands

/-- Whoever may join stands after those who own already. -/
theorem insert_eq {set : OwnerSet} {owner : Owner}
    (fresh : set.contains owner.client.value = false) (room : set.size < Limits.owners) :
    set.insert owner = .ok ⟨set.owners ++ [owner]⟩ := by
  simp [OwnerSet.insert, fresh, room]

end OwnerSet

end BluetoothHost
