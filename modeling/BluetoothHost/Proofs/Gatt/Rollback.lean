import BluetoothHost.Proofs.Gatt.Ranges
import BluetoothHost.Proofs.Media.Run

/-!
# Registrations that fail

A registration fails where the server refuses something or where an element is not in its place.
If the server had accepted the service by then, everything that it gave out for it is dropped with
one call; otherwise there is nothing to drop. The database is left as it was, except that the
service is no longer under construction.
-/

namespace BluetoothHost

variable {B A : Type} [AttributeServer A]

/-- These calls leave nothing on the server: no service was accepted and nothing is dropped, or a
service was accepted and one range is dropped, which begins with the handle of the service and
contains whatever was taken from there on. -/
def RollsBack (calls : List Call) : Prop :=
  (acceptedServices calls = [] ∧ removedRanges calls = []) ∨
    ∃ range, acceptedServices calls = [range.first] ∧ removedRanges calls = [range] ∧
      ∀ call ∈ calls, ∀ handle ∈ call.takenHandles, range.first ≤ handle →
        range.contains handle = true

namespace Database

variable {database : Database}

/-- Registrations may be followed by calls that register nothing. -/
theorem stopsAtRefusal_append {calls others : List Call} (stops : StopsAtRefusal calls)
    (plain : ∀ call ∈ others, call.registration? = none) : StopsAtRefusal (calls ++ others) := by
  have none : ∀ call ∈ others, call.isRegistration = false := by
    intro call member
    simp [Call.isRegistration, plain call member]
  refine List.pairwise_append.mpr ⟨stops, ?_, fun _ _ later behind _ => none later behind⟩
  exact List.pairwise_of_forall_mem_list fun _ _ later behind _ => none later behind

/-- A registration that fails stops at the first refusal and is rolled back. -/
theorem materialize_rollback {env final : Environment B A} {after : Database} {cause : Error}
    (chained : Chained database.chain)
    (failed : database.materialize env = (.error cause, after, final)) :
    after = { database with chain := [] } ∧
      ∃ calls, env.Makes calls final ∧ StopsAtRefusal calls ∧ RollsBack calls := by
  have materialized := materialize_materialized chained env
  rw [failed] at materialized
  cases materialized with
  | idle => exact ⟨rfl, [], env.makes_nil, .nil, .inl ⟨rfl, rfl⟩⟩
  | @dropped calls cause range later made asks begun reached =>
    have announced := database.announce_makes range (later.removeRange range)
    have plain := database.announcements_plain range (later.removeRange range).server
    have none := database.announcements_silent range (later.removeRange range).server
    generalize database.announcements range (later.removeRange range).server = indications
      at announced plain none
    refine ⟨rfl, calls ++ (.removeRange range :: indications),
      made.append ((later.removeRange_makes range).append announced), ?_, .inr ⟨range, ?_, ?_, ?_⟩⟩
    · refine stopsAtRefusal_append asks.stopsAtRefusal fun call member => ?_
      rcases List.mem_cons.mp member with rfl | behind
      · rfl
      · exact (plain call behind).1
    · rw [acceptedServices_append, begun]
      exact congrArg (range.first :: ·) none.1
    · rw [removedRanges_append, asks.removedRanges_eq_nil, List.nil_append]
      exact congrArg (range :: ·) none.2
    · intro call member handle taken above
      suffices below : handle ≤ range.last by
        simp [HandleRange.contains, above, below]
      rcases List.mem_append.mp member with walked | behind
      · exact reached call walked handle taken
      · rcases List.mem_cons.mp behind with rfl | announced
        · cases taken
        · rw [(plain call announced).2.2.2] at taken
          cases taken
  | @unaccepted calls cause range later made asks unaccepted =>
    have announced := database.announce_makes range later
    have plain := database.announcements_plain range later.server
    have none := database.announcements_silent range later.server
    generalize database.announcements range later.server = indications at announced plain none
    refine ⟨rfl, calls ++ indications, made.append announced,
      stopsAtRefusal_append asks.stopsAtRefusal fun call member => (plain call member).1,
      .inl ⟨?_, ?_⟩⟩
    · rw [acceptedServices_append, unaccepted, none.1]
      rfl
    · rw [removedRanges_append, asks.removedRanges_eq_nil, none.2]
      rfl

/-- Whatever was done to a database in which nothing was stored before, a registration of the
service under construction that fails asks for nothing after the first refusal. If the service was
accepted, one range is dropped, which begins with its handle and contains whatever the server gave
out from there on, configurations included; if it was not, none is dropped. No attribute changes,
no range is noted for the service, and it is no longer under construction. -/
theorem run_rollback {first : Handle} {announces : Bool} {operations : List (Operation B A)}
    {env later now final : Environment B A} {after : Database} {cause : Error} {head : Node}
    {rest : List Node} (ran : (fresh first announces).run operations env = (database, later))
    (building : database.chain = head :: rest)
    (failed : database.materialize now = (.error cause, after, final)) :
    (∃ calls, now.Makes calls final ∧ StopsAtRefusal calls ∧ RollsBack calls) ∧
    after = { database with chain := [] } ∧
    ∃ entry, after.findHandle? head.handle = some entry ∧ entry.range = none := by
  have ranged := (run_books (ranged_fresh first announces) operations env).1
  rw [ran] at ranged
  obtain ⟨consumed, rolled⟩ := materialize_rollback ranged.chained failed
  refine ⟨rolled, consumed, ?_⟩
  obtain ⟨-, entry, there, named, -, none⟩ :=
    ranged.pending head (by rw [building, List.head?_cons]; rfl)
  have found : database.findHandle? head.handle = some entry :=
    (findHandle?_eq_some_iff ranged.orderly.ascending).mpr ⟨there, named⟩
  rw [consumed]
  exact ⟨entry, found, none⟩

/-- A server that gives out handles as it was told and refuses everything afterwards. -/
structure ScriptedServer where
  /-- The handles that are left. -/
  answers : List Handle

/-- The script is used up one answer at a time. -/
instance : AttributeServer ScriptedServer where
  registerService server _ _ := (server.answers.head?, ⟨server.answers.tail⟩)
  registerCharacteristic server _ _ _ _ := (server.answers.head?, ⟨server.answers.tail⟩)
  registerDescriptor server _ _ := (server.answers.head?, ⟨server.answers.tail⟩)
  removeRange server _ := server
  updateValue server _ _ := (true, server)
  notify server _ _ := server
  peers _ := []
  sendIndication server _ _ := server

/-- A service is accepted at 4 and its notifying characteristic at 8. When its descriptor is
refused, everything up to the configuration at 9 is dropped. -/
theorem run_rollback_of_refused :
    let env : Environment Transport.PlainBus ScriptedServer :=
      { bus := .ready, server := { answers := [4, 8] } }
    let database := ((fresh 1 true).run [.addService (.uuid16 0x180F),
      .addCharacteristic (.uuid16 0x2A19) (.read ||| .notify) .both,
      .addDescriptor (.uuid16 0x2901) .both] env).1
    ∃ calls after final,
      database.materialize env = (.error (.failed "Descriptor registration failed"), after, final) ∧
      env.Makes calls final ∧ calls.length = 4 ∧ removedRanges calls = [⟨4, 9⟩] ∧
      ∃ entry, after.findHandle? 1 = some entry ∧ entry.range = none := by
  intro env database
  have failed : (database.materialize env).1 =
      .error (.failed "Descriptor registration failed") := by
    decide +kernel
  have materialized : database.materialize env = (.error (.failed "Descriptor registration failed"),
      (database.materialize env).2.1, (database.materialize env).2.2) := Prod.ext failed rfl
  obtain ⟨⟨calls, made, -, -⟩, -, stays⟩ := run_rollback rfl rfl materialized
  have journal : (database.materialize env).2.2.journal =
      [.registerService (.uuid16 0x180F) 5 (some 4),
        .registerCharacteristic 4 (.uuid16 0x2A19) (.read ||| .notify) .both (some 8),
        .registerDescriptor 8 (.uuid16 0x2901) none, .removeRange ⟨4, 9⟩] := by
    decide +kernel
  have same : calls = _ := made.symm.trans journal
  exact ⟨calls, _, _, materialized, made, by rw [same]; rfl, by rw [same]; rfl, stays⟩

end Database

end BluetoothHost
