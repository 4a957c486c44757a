import BluetoothHost.Proofs.Gatt.Catalogue
import BluetoothHost.Proofs.Media.Run

/-!
# What is left of a removed service

A removal goes on up to the next attribute with the type of service declarations. Values and
descriptors have whatever type they were added under, so one of them can be disguised as a
declaration. The removal stops in front of it, and it stays with all that follows it. Of a service
without such an attribute nothing stays, and no other service ever loses an attribute.
-/

namespace BluetoothHost

variable {B A : Type} {service owner : Handle} {ledger : List Creation}

namespace Database

variable {database : Database}

/-- The attributes that are there of those created for a service. -/
def attributesOf (ledger : List Creation) (service : Handle) (database : Database) :
    List Attribute :=
  database.attributes.filter fun entry => (⟨service, entry.handle⟩ : Creation) ∈ ledger

/-- An attribute of a service other than its declaration has the type of service declarations. -/
def Disguised (ledger : List Creation) (service : Handle) (database : Database) : Prop :=
  ∃ entry ∈ database.attributesOf ledger service,
    entry.handle ≠ service ∧ entry.isService = true

/-- From one moment to another a service is cleared: nothing of it is left exactly if none of its
attributes was disguised. -/
def ClearsUndisguised (ledger : List Creation) (service : Handle) (before after : Database) :
    Prop :=
  after.attributesOf ledger service = [] ↔ ¬before.Disguised ledger service

/-- The attribute with a handle is there. -/
def Holds (handle : Handle) (database : Database) : Prop :=
  ∃ entry ∈ database.attributes, entry.handle = handle

/-- Whether a service is disguised can be computed. -/
instance : Decidable (database.Disguised ledger service) :=
  inferInstanceAs (Decidable (∃ entry ∈ database.attributesOf ledger service,
    entry.handle ≠ service ∧ entry.isService = true))

/-- Whether a handle is there can be computed. -/
instance : Decidable (database.Holds service) :=
  inferInstanceAs (Decidable (∃ entry ∈ database.attributes, entry.handle = service))

/-- The attributes of a service are those that were created for it and are still there. -/
theorem mem_attributesOf {entry : Attribute} : entry ∈ database.attributesOf ledger service ↔
    entry ∈ database.attributes ∧ ⟨service, entry.handle⟩ ∈ ledger := by
  simp [attributesOf]

/-- The declaration of a service is one of its attributes. -/
theorem holds_iff (own : ⟨service, service⟩ ∈ ledger) : database.Holds service ↔
    ∃ entry ∈ database.attributesOf ledger service, entry.handle = service := by
  constructor
  · rintro ⟨entry, there, named⟩
    exact ⟨entry, mem_attributesOf.mpr ⟨there, named ▸ own⟩, named⟩
  · rintro ⟨entry, member, named⟩
    exact ⟨entry, (mem_attributesOf.mp member).1, named⟩

section Stretch

variable {front run rest : List Attribute} {declaration entry : Attribute}

/-- Whatever belongs to a stretch that begins with the declaration of a service was created for
that service. -/
theorem Recorded.owner_eq (recorded : database.Recorded ledger)
    (stretch : Stretch database.attributes front declaration run rest)
    (own : ⟨declaration.handle, declaration.handle⟩ ∈ ledger)
    (member : entry ∈ declaration :: run) (created : ⟨owner, entry.handle⟩ ∈ ledger) :
    owner = declaration.handle := by
  rcases List.mem_cons.mp member with rfl | within
  · exact recorded.unique created own
  have ascending := recorded.orderly.ascending
  have present : entry ∈ database.attributes := by simp [stretch.attributes_eq, within]
  have higher := stretch.lt_behind ascending (List.mem_append_left rest within)
  have from_le : declaration.handle ≤ owner :=
    recorded.ordered _ own _ created (UInt16.le_of_lt higher)
  -- The leader of the entry cannot stand within the stretch, nor behind the entry.
  obtain ⟨leader, there, known, isService, le⟩ := recorded.led entry present owner created
  rcases stretch.cases there with before | rfl | among | behind
  · have lower := stretch.front_lt ascending before
    exact UInt16.le_antisymm (recorded.ordered _ known _ own (UInt16.le_of_lt lower)) from_le
  · exact recorded.unique known own
  · rw [stretch.plain leader among] at isService
    cases isService
  · exact absurd (stretch.run_lt ascending within behind) (UInt16.not_lt.mpr le)

/-- A stretch that begins with the declaration of a service takes nothing away from others. -/
theorem Recorded.attributesOf_other (recorded : database.Recorded ledger)
    (stretch : Stretch database.attributes front declaration run rest)
    (own : ⟨declaration.handle, declaration.handle⟩ ∈ ledger)
    (different : owner ≠ declaration.handle) (chain : List Node) :
    attributesOf ledger owner { database with attributes := front ++ rest, chain } =
      database.attributesOf ledger owner := by
  have none : (declaration :: run).filter
      (fun entry => (⟨owner, entry.handle⟩ : Creation) ∈ ledger) = [] := by
    refine List.filter_eq_nil_iff.mpr fun entry member created => ?_
    exact different (recorded.owner_eq stretch own member (of_decide_eq_true created))
  have whole : database.attributes = front ++ ((declaration :: run) ++ rest) :=
    stretch.attributes_eq
  unfold attributesOf
  rw [whole, List.filter_append, List.filter_append, List.filter_append, none, List.nil_append]

/-- Of the service itself it takes everything away, unless an attribute is disguised. -/
theorem Recorded.clears (recorded : database.Recorded ledger)
    (stretch : Stretch database.attributes front declaration run rest)
    (own : ⟨declaration.handle, declaration.handle⟩ ∈ ledger) (chain : List Node) :
    ClearsUndisguised ledger declaration.handle database
      { database with attributes := front ++ rest, chain } := by
  have ascending := recorded.orderly.ascending
  have forward : ∀ entry ∈ front, (⟨declaration.handle, entry.handle⟩ : Creation) ∉ ledger :=
    fun entry before created =>
      absurd (stretch.front_lt ascending before) (UInt16.not_lt.mpr (recorded.forward _ created))
  rw [ClearsUndisguised, List.eq_nil_iff_forall_not_mem, ← not_exists, not_iff_not]
  constructor
  · rintro ⟨entry, member⟩
    obtain ⟨there, created⟩ := mem_attributesOf.mp member
    rcases List.mem_append.mp there with before | behind
    · exact absurd created (forward entry before)
    · obtain ⟨leader, stays, known, isService, -⟩ :=
        recorded.leader_behind stretch behind created own
      have higher := stretch.lt_behind ascending (List.mem_append_right run stays)
      have present : leader ∈ database.attributes := by simp [stretch.attributes_eq, stays]
      have other : leader.handle ≠ declaration.handle := (UInt16.ne_of_lt higher).symm
      exact ⟨leader, mem_attributesOf.mpr ⟨present, known⟩, other, isService⟩
  · rintro ⟨entry, member, other, isService⟩
    obtain ⟨there, created⟩ := mem_attributesOf.mp member
    rcases stretch.cases there with before | rfl | within | behind
    · exact absurd created (forward entry before)
    · exact absurd rfl other
    · rw [stretch.plain entry within] at isService
      cases isService
    · exact ⟨entry, mem_attributesOf.mpr ⟨List.mem_append_right front behind, created⟩⟩

end Stretch

section Server

variable [AttributeServer A]

/-- A removal leaves the record as it is. -/
theorem removeService_recorded (recorded : database.Recorded ledger) (handle : Handle)
    (env : Environment B A) : (database.removeService handle env).2.1.Recorded ledger := by
  rcases database.removeService_cases handle env with ⟨cause, refused⟩ |
    ⟨front, declaration, run, rest, stretch, -, -, gone⟩
  · rwa [refused]
  · rw [gone]
    exact recorded.remove stretch

/-- A service that is not there any more, or another one, keeps its attributes when a service is
removed. -/
theorem removeService_attributesOf (recorded : database.Recorded ledger)
    (own : ⟨service, service⟩ ∈ ledger) (kept : owner = service → ¬database.Holds service)
    (env : Environment B A) :
    (database.removeService service env).2.1.attributesOf ledger owner =
      database.attributesOf ledger owner := by
  rcases database.removeService_cases service env with ⟨cause, refused⟩ |
    ⟨front, declaration, run, rest, stretch, rfl, -, gone⟩
  · rw [refused]
  · have there : database.Holds declaration.handle :=
      ⟨declaration, by simp [stretch.attributes_eq], rfl⟩
    rw [gone]
    exact recorded.attributesOf_other stretch own (fun same => kept same there) _

/-- A service that is there can be removed, and nothing is left of it unless an attribute is
disguised. -/
theorem removeService_complete (recorded : database.Recorded ledger)
    (own : ⟨service, service⟩ ∈ ledger) (holds : database.Holds service) (env : Environment B A) :
    (database.removeService service env).1 = .ok () ∧
      ClearsUndisguised ledger service database (database.removeService service env).2.1 := by
  obtain ⟨entry, there, rfl⟩ := holds
  have removed := removeService_ok recorded.orderly there (recorded.declared entry there own) env
  refine ⟨removed, ?_⟩
  rcases database.removeService_cases entry.handle env with ⟨cause, refused⟩ |
    ⟨front, declaration, run, rest, stretch, named, -, gone⟩
  · rw [refused] at removed
    cases removed
  · rw [gone, ← named]
    exact recorded.clears stretch (named ▸ own) _

/-- The declaration of a service goes in any case. -/
theorem removeService_not_holds (recorded : database.Recorded ledger)
    (own : ⟨service, service⟩ ∈ ledger) (env : Environment B A) :
    ¬(database.removeService service env).2.1.Holds service := by
  rcases database.removeService_cases service env with ⟨cause, refused⟩ |
    ⟨front, declaration, run, rest, stretch, rfl, -, gone⟩
  · rw [refused]
    intro holds
    have removed := (removeService_complete recorded own holds env).1
    rw [refused] at removed
    cases removed
  · rw [gone]
    rintro ⟨entry, there, named⟩
    have ascending := recorded.orderly.ascending
    rcases List.mem_append.mp there with before | behind
    · exact UInt16.ne_of_lt (stretch.front_lt ascending before) named
    · have higher := stretch.lt_behind ascending (List.mem_append_right run behind)
      exact UInt16.ne_of_lt higher named.symm

end Server

end Database

namespace Publications

variable [AttributeServer A] {database : Database} {records : List PublishedService}

/-- Taking down one service leaves the record as it is. -/
theorem tearDown_recorded (recorded : database.Recorded ledger) (record : PublishedService)
    (env : Environment B A) : (tearDown record database env).1.Recorded ledger := by
  unfold tearDown
  split
  · exact recorded
  · exact Database.removeService_recorded recorded _ env

/-- Taking down another service, or one that is not there any more, leaves the attributes of a
service alone. -/
theorem tearDown_attributesOf (recorded : database.Recorded ledger) {record : PublishedService}
    (built : ∀ handle, record.service = some handle → ⟨handle, handle⟩ ∈ ledger)
    (kept : record.service = some service → ¬database.Holds service) (env : Environment B A) :
    (tearDown record database env).1.attributesOf ledger service =
      database.attributesOf ledger service := by
  unfold tearDown
  split
  · rfl
  · rename_i handle named
    refine Database.removeService_attributesOf recorded (built handle named) ?_ env
    rintro rfl
    exact kept named

/-- So does taking down several. -/
theorem tearDownEach_attributesOf (recorded : database.Recorded ledger)
    (built : ∀ record ∈ records, ∀ handle, record.service = some handle →
      ⟨handle, handle⟩ ∈ ledger)
    (own : ⟨service, service⟩ ∈ ledger)
    (kept : ∀ record ∈ records, record.service = some service → ¬database.Holds service)
    (env : Environment B A) :
    (tearDownEach records database env).1.attributesOf ledger service =
      database.attributesOf ledger service := by
  induction records generalizing database env with
  | nil => rfl
  | cons record rest ih =>
    obtain ⟨first, others⟩ := List.forall_mem_cons.mp built
    obtain ⟨here, behind⟩ := List.forall_mem_cons.mp kept
    have same := tearDown_attributesOf recorded first here env
    have still : ∀ other ∈ rest, other.service = some service →
        ¬(tearDown record database env).1.Holds service := by
      intro other member named
      rw [Database.holds_iff own, same, ← Database.holds_iff own]
      exact behind other member named
    exact (ih (tearDown_recorded recorded record env) others still _).trans same

/-- Of a service that is there and among those that are taken down nothing is left, unless an
attribute is disguised. -/
theorem tearDownEach_complete (recorded : database.Recorded ledger)
    (built : ∀ record ∈ records, ∀ handle, record.service = some handle →
      ⟨handle, handle⟩ ∈ ledger)
    (own : ⟨service, service⟩ ∈ ledger) (holds : database.Holds service)
    (among : ∃ record ∈ records, record.service = some service) (env : Environment B A) :
    Database.ClearsUndisguised ledger service database (tearDownEach records database env).1 := by
  induction records generalizing database env with
  | nil => obtain ⟨record, member, -⟩ := among; cases member
  | cons record rest ih =>
    obtain ⟨first, others⟩ := List.forall_mem_cons.mp built
    have after := tearDown_recorded recorded record env
    by_cases named : record.service = some service
    · -- The service goes now, and the others find nothing of it that they could take down.
      have removed : tearDown record database env = (database.removeService service env).2 := by
        simp only [tearDown, named]
      have gone := Database.removeService_not_holds recorded own env
      rw [← removed] at gone
      rw [Database.ClearsUndisguised, tearDownEach,
        tearDownEach_attributesOf after others own (fun _ _ _ => gone), removed]
      exact (Database.removeService_complete recorded own holds env).2
    · -- The service is still there as it was.
      have same := tearDown_attributesOf recorded first (fun this => absurd this named) env
      have still : (tearDown record database env).1.Holds service := by
        rwa [Database.holds_iff own, same, ← Database.holds_iff own]
      have later : ∃ record ∈ rest, record.service = some service := by simpa [named] using among
      have ended := ih after others still later (tearDown record database env).2
      rwa [Database.ClearsUndisguised, Database.Disguised, same] at ended

end Publications

namespace Catalogue

open Transport (PlainBus)

/-- A server that numbers the services as it is told and takes every value. -/
structure PlainServer where
  /-- The handle of the next service. -/
  next : Handle := 1

/-- A plain server never refuses, and it knows no peers. -/
instance : AttributeServer PlainServer where
  registerService server _ size := (some server.next, ⟨server.next + size⟩)
  registerCharacteristic server service _ _ _ := (some (service + 2), server)
  registerDescriptor server characteristic _ := (some (characteristic + 1), server)
  removeRange server _ := server
  updateValue server _ _ := (true, server)
  notify server _ _ := server
  peers _ := []
  sendIndication server _ _ := server

variable [MessageBus B] [AttributeServer A] {first : Handle} {announces : Bool}
  {actions : List (Action B A)} {env later : Environment B A} {catalogue : Catalogue}

/-- Whatever happened before, a service that was begun and whose declaration is there can be
removed, and none of the attributes that were created for it is left exactly if none of them was
disguised as a service declaration. The same holds when its client gives it up or leaves the
bus. -/
theorem run_removal (ran : (fresh first announces).run actions env = (catalogue, later))
    (listed : (fresh first announces).ledger actions env = ledger)
    (begun : ⟨service, service⟩ ∈ ledger) (holds : catalogue.database.Holds service)
    (now : Environment B A) :
    ((catalogue.database.removeService service now).1 = .ok () ∧
      Database.ClearsUndisguised ledger service catalogue.database
        (catalogue.database.removeService service now).2.1) ∧
    (∀ client path record,
      catalogue.publications.services.find? (PublishedService.isRegistration client path) =
        some record → record.service = some service →
      (catalogue.publications.unregister catalogue.database client path now).1 = .ok () ∧
        Database.ClearsUndisguised ledger service catalogue.database
          (catalogue.publications.unregister catalogue.database client path now).2.2.1) ∧
    (∀ client, ∀ record ∈ catalogue.publications.services,
      record.isOwnedBy client = true → record.service = some service →
      Database.ClearsUndisguised ledger service catalogue.database
        (catalogue.publications.clientDisconnected catalogue.database client now).2.2.1) := by
  obtain ⟨recorded, built⟩ := run_fresh_recorded ran
  rw [listed] at recorded built
  have removed := Database.removeService_complete recorded begun holds now
  refine ⟨removed, ?_, ?_⟩
  · intro client path record found named
    simp only [Publications.unregister, found, Publications.tearDown, named]
    exact ⟨trivial, removed.2⟩
  · intro client record member owned named
    simp only [Publications.clientDisconnected, List.partition_eq_filter_filter]
    refine Publications.tearDownEach_complete recorded ?_ begun holds ?_ now
    · intro other leaving handle own
      have there := (List.mem_filter.mp leaving).1
      exact built handle (Publications.mem_built.mpr ⟨other, there, own⟩)
    · exact ⟨record, List.mem_filter.mpr ⟨member, owned⟩, named⟩

/-- A service from within the process and one of a client, whose characteristic has the type of
service declarations: the first is removed as a whole, and the characteristic stays when its
client gives the second one up or leaves the bus. -/
theorem run_removal_of_disguised :
    let env : Environment PlainBus PlainServer := { bus := .ready, server := {} }
    let published : PublishedObject :=
      { path := ⟨"/app", by decide⟩, interface := .service, uuid := some (.uuid16 0x1815) }
    let value : PublishedObject :=
      { path := ⟨"/app/c", by decide⟩, interface := .characteristic, uuid := some (.uuid16 0x2800) }
    let actions : List (Action PlainBus PlainServer) :=
      [.addService (.uuid16 0x180F), .addCharacteristic (.uuid16 0x2A19) .read .both, .materialize,
        .register ":1.7" "/app" ⟨1⟩,
        .publish ":1.7" published, .publish ":1.7" value, .clientReady ":1.7" "/app"]
    let catalogue := ((fresh 1 true).run actions env).1
    let left (service : Handle) (database : Database) :=
      database.attributesOf ((fresh 1 true).ledger actions env) service
    ((catalogue.database.removeService 1 env).1 = .ok () ∧
      left 1 (catalogue.database.removeService 1 env).2.1 = []) ∧
    left 4 (catalogue.publications.unregister catalogue.database ":1.7" "/app" env).2.2.1 ≠ [] ∧
    left 4
      (catalogue.publications.clientDisconnected catalogue.database ":1.7" env).2.2.1 ≠ [] := by
  intro env published value actions catalogue left
  have ran : (fresh 1 true).run actions env =
      (catalogue, ((fresh 1 true).run actions env).2) := (Prod.eta _).symm
  have first : (⟨1, 1⟩ : Creation) ∈ (fresh 1 true).ledger actions env ∧
      catalogue.database.Holds 1 := by
    decide +kernel
  have second : (⟨4, 4⟩ : Creation) ∈ (fresh 1 true).ledger actions env ∧
      catalogue.database.Holds 4 := by
    decide +kernel
  have plain : ¬catalogue.database.Disguised ((fresh 1 true).ledger actions env) 1 := by
    decide +kernel
  have disguised : catalogue.database.Disguised ((fresh 1 true).ledger actions env) 4 := by
    decide +kernel
  have found : (catalogue.publications.services.find?
      (PublishedService.isRegistration ":1.7" "/app")).map PublishedService.service =
        some (some 4) := by
    decide +kernel
  obtain ⟨record, known, named⟩ := Option.map_eq_some_iff.mp found
  have registered := List.find?_some known
  have owned := (Bool.and_eq_true_iff.mp registered).2
  obtain ⟨⟨removed, cleared⟩, -, -⟩ := run_removal ran rfl first.1 first.2 env
  obtain ⟨-, given, departed⟩ := run_removal ran rfl second.1 second.2 env
  refine ⟨⟨removed, cleared.mpr plain⟩, ?_, ?_⟩
  · exact fun none => (given ":1.7" "/app" record known named).2.mp none disguised
  · exact fun none => (departed ":1.7" record (List.mem_of_find?_eq_some known) owned named).mp none
      disguised

end Catalogue

end BluetoothHost
