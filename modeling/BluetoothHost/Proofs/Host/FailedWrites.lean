import BluetoothHost.Proofs.Host.Remote

/-!
# Writes by peers that fail

A write fails if no attribute is found, if peers may not write the one that is found, or if the
handler says so: because no object is linked to the attribute any longer, or because the client
could not be reached. In the last two cases the attribute has lost its ready flag before the handler
is asked. So the database is left as it was exactly if that flag was not set; if it was, the next
update of the value is not sent, although nobody took the write.
-/

namespace BluetoothHost

open Transport (PlainSession PlainBus)
open Catalogue (CountingServer countingEnvironment)

variable {S B A E : Type}

namespace Database

variable {database before after : Database} {uuid : Uuid} {value : List UInt8} {entry : Attribute}

/-- Some attribute is found under the UUID, and peers may write it. -/
def Writable (uuid : Uuid) (database : Database) : Prop :=
  ∃ entry, database.findUuid? uuid = some entry ∧
    entry.permissions.any Permissions.write = true

/-- The ready flag does not matter to what is found. -/
theorem findUuid?_unready (database : Database) {front : List Attribute} (back : List Attribute)
    (first : ∀ other ∈ front, other.isFoundUnder uuid = false)
    (isFound : entry.isFoundUnder uuid = true) :
    findUuid? { database with
      attributes := front ++ { entry with notifyReady := false } :: back } uuid =
        some { entry with notifyReady := false } := by
  apply List.find?_eq_some_iff_append.mpr
  refine ⟨isFound, front, back, rfl, fun other member => ?_⟩
  rw [first other member]
  rfl

/-- Nothing is sent to peers when a value that is not ready is updated. -/
theorem updateValue_unready [AttributeServer A] (found : database.findUuid? uuid = some entry)
    (unready : entry.notifyReady = false) (bytes : List UInt8) (env : Environment B A) :
    env.Makes [] (database.updateValue uuid bytes env).2.2 ∨
      ∃ accepted, env.Makes [.updateValue uuid bytes accepted]
        (database.updateValue uuid bytes env).2.2 := by
  obtain ⟨index, place⟩ := positionOf?_of_findUuid? found
  simp only [updateValue, place, found]
  split
  · exact .inl env.makes_nil
  split
  · exact .inl env.makes_nil
  have told := env.updateValue_makes uuid bytes
  generalize env.updateValue uuid bytes = answer at told ⊢
  obtain ⟨accepted, next⟩ := answer
  refine .inr ⟨accepted, ?_⟩
  cases accepted with
  | false => exact told
  | true =>
    dsimp only
    split
    · simpa [push, unready] using told
    · exact told

/-- What a write that failed leaves behind. -/
structure FailedWrite (uuid : Uuid) (value : List UInt8) (handler : AttributeHandler E)
    (before : Database) (env : E) (cause : Error) (after : Database) (next : E) : Prop where
  /-- Nothing was found, or it is closed to peers, or the handler was asked in vain: then the
  attribute found is no longer ready, and all else is as it was. -/
  written : Written uuid value handler before env (.error cause) after next
  /-- The database is as it was exactly if the handler was not asked or the attribute was not
  ready. -/
  unchanged : after = before ↔
    ∀ entry, before.findUuid? uuid = some entry →
      entry.permissions.any Permissions.write = true → entry.notifyReady = false
  /-- If the handler was asked, the next update is not sent to peers, whatever the server says. -/
  unsent : before.Writable uuid → ∀ {B A : Type} [AttributeServer A] (bytes : List UInt8)
    (now : Environment B A),
    .notify uuid bytes ∉ now.callsUntil (after.updateValue uuid bytes now).2.2

/-- Every write that fails leaves this behind. -/
theorem write_failed {handler : AttributeHandler E} {env next : E} {cause : Error}
    (failed : before.write uuid value handler env = (.error cause, after, next)) :
    before.FailedWrite uuid value handler env cause after next := by
  have written := before.write_written uuid value handler env
  rw [failed] at written
  refine ⟨written, ?_, ?_⟩
  · cases written with
    | missing nowhere => simp [nowhere]
    | unwritable found closed => simp [found, closed]
    | @asked front back entry _ _ found attributes_eq first writable answered =>
      constructor
      · intro same other also _
        obtain rfl := Option.some.inj (found.symm.trans also)
        have lists := (congrArg Database.attributes same).trans attributes_eq
        have own := (List.cons.inj (List.append_cancel_left lists)).1
        exact (congrArg Attribute.notifyReady own).symm
      · intro unready
        have cleared : { entry with notifyReady := false } = entry := by
          rw [← unready entry found writable]
        rw [cleared, ← attributes_eq]
  · rintro ⟨entry, found, writable⟩ B A _ bytes now
    cases written with
    | missing nowhere => cases nowhere.symm.trans found
    | unwritable also closed =>
      obtain rfl := Option.some.inj (also.symm.trans found)
      cases closed.symm.trans writable
    | @asked front back own _ _ also attributes_eq first writable answered =>
      have isFound := (mem_of_findUuid? also).2
      have still := findUuid?_unready before back first isFound
      rcases updateValue_unready still rfl bytes now with silent | ⟨accepted, told⟩
      · simp [silent.callsUntil_eq]
      · simp [told.callsUntil_eq]

end Database

/-- The services of clients fail to take a write because there is no object any longer, or because
its client cannot be reached. -/
theorem Publications.handler_failed [MessageBus B] {publications : Publications}
    {entry : Attribute} {value : List UInt8} {env next : Environment B A} {cause : Error}
    (failed : publications.handler.write entry value env = (.error cause, next)) :
    (publications.linkedTo? entry.handle = none ∧ cause = .doesNotExist ∧ next = env) ∨
      ∃ record object, publications.linkedTo? entry.handle = some (record, object) ∧
        env.setRemoteValue record.owner.value object.path.value value = (.error cause, next) := by
  cases known : publications.linkedTo? entry.handle with
  | none =>
    simp only [handler, known] at failed
    cases failed
    exact .inl ⟨rfl, rfl, rfl⟩
  | some pair =>
    simp only [handler, known] at failed
    exact .inr ⟨pair.1, pair.2, rfl, failed⟩

namespace Host

/-- A write to the database fails for whatever handler only in the ways above, and a write to the
host does so with its published services as the handler. Nothing but the database of the host
changes then. If the services were asked, either no object is linked to the attribute, and nobody
was called, or the bus failed to pass the write to the client. -/
theorem writes_failed [MessageBus B] (host : Host S) (uuid : Uuid) (value : List UInt8) :
    (∀ {E : Type} (database : Database) (handler : AttributeHandler E) (env : E) cause after next,
      database.write uuid value handler env = (.error cause, after, next) →
        database.FailedWrite uuid value handler env cause after next) ∧
    ∀ (env : Environment B A) cause after next,
      host.writeAttribute uuid value env = (.error cause, after, next) →
        (∃ database, after = { host with database } ∧ host.database.FailedWrite uuid value
          host.publications.handler env cause database next) ∧
        ∀ entry, host.database.findUuid? uuid = some entry →
          entry.permissions.any Permissions.write = true →
          (host.publications.linkedTo? entry.handle = none ∧ cause = .doesNotExist ∧ next = env) ∨
          ∃ record object, host.publications.linkedTo? entry.handle = some (record, object) ∧
            env.setRemoteValue record.owner.value object.path.value value =
              (.error cause, next) := by
  constructor
  · intro E database handler env cause after next failed
    exact Database.write_failed failed
  · intro env cause after next failed
    rw [writeAttribute] at failed
    rcases result : host.database.write uuid value host.publications.handler env with
      ⟨outcome, database, last⟩
    rw [result] at failed
    obtain ⟨rfl, rfl, rfl⟩ : outcome = .error cause ∧ { host with database } = after ∧
        last = next := by simpa using failed
    have left := Database.write_failed result
    refine ⟨⟨database, rfl, left⟩, ?_⟩
    intro entry found writable
    cases left.written with
    | missing nowhere => cases nowhere.symm.trans found
    | unwritable also closed =>
      obtain rfl := Option.some.inj (also.symm.trans found)
      cases closed.symm.trans writable
    | asked also _ _ _ answered =>
      obtain rfl := Option.some.inj (also.symm.trans found)
      exact Publications.handler_failed answered

/-- The client of a battery withdraws the level. The write of a peer that comes too late reaches
nobody, and still keeps the next update from being sent. -/
theorem writes_failed_of_withdrawn :
    let client : ClientName := ⟨":1.7", by decide⟩
    let root : ObjectPath := ⟨"/app", by decide⟩
    let path : ObjectPath := ⟨"/app/level", by decide⟩
    let battery : PublishedObject :=
      { path := root, interface := .service, uuid := some (.uuid16 0x180F) }
    let level : PublishedObject :=
      { path := path, interface := .characteristic, uuid := some (.uuid16 0x2A19)
        flags := .named (.write ||| .notify) }
    let actions : List (Action PlainSession PlainBus CountingServer) :=
      [.process (.methodCall client ⟨1⟩ (.registerService root)),
        .process (.objectPublished client battery), .process (.objectPublished client level),
        .process (.clientReady client root),
        .process (.valueChanged client path ⟨[90], by decide⟩),
        .process (.objectWithdrawn client path)]
    let host := ((create {}).run actions countingEnvironment).1
    let late := host.writeAttribute (.uuid16 0x2A19) [1] countingEnvironment
    let sent := fun (database : Database) (now : Environment PlainBus CountingServer) =>
      now.callsUntil (database.updateValue (.uuid16 0x2A19) [80] now).2.2
    late.1 = .error .doesNotExist ∧ late.2.1.database ≠ host.database ∧
      sent host.database countingEnvironment =
        [.updateValue (.uuid16 0x2A19) [80] true, .notify (.uuid16 0x2A19) [80]] ∧
      ∀ now, .notify (.uuid16 0x2A19) [80] ∉ sent late.2.1.database now := by
  intro client root path battery level actions host late sent
  have refused : late.1 = .error .doesNotExist := by decide +kernel
  have before : sent host.database countingEnvironment =
      [.updateValue (.uuid16 0x2A19) [80] true, .notify (.uuid16 0x2A19) [80]] := by
    decide +kernel
  have ready : (host.database.findUuid? (.uuid16 0x2A19)).map (fun entry =>
      (entry.permissions.any Permissions.write, entry.notifyReady)) = some (true, true) := by
    decide +kernel
  have failed : host.writeAttribute (.uuid16 0x2A19) [1] countingEnvironment =
      (.error .doesNotExist, late.2.1, late.2.2) := by
    rw [← refused]
  clear_value late host
  obtain ⟨⟨database, same, left⟩, -⟩ := (writes_failed host (.uuid16 0x2A19) [1]).2 _ _ _ _ failed
  obtain ⟨entry, found, state⟩ := Option.map_eq_some_iff.mp ready
  obtain ⟨writable, flag⟩ := Prod.mk.inj state
  rw [same]
  refine ⟨refused, fun unchanged => ?_, before, left.unsent ⟨entry, found, writable⟩ [80]⟩
  have unready := left.unchanged.mp unchanged entry found writable
  cases unready.symm.trans flag

end Host

end BluetoothHost
