import BluetoothHost.Proofs.Gatt.Change
import BluetoothHost.Proofs.Gatt.Registrations

/-!
# What published services do to the database

A service is built from its objects by one addition after another, all of them for the service
that begins with the first. It is removed as a whole, and everything else touches up what is
there.
-/

namespace BluetoothHost

open Database (Changes Change)

variable {B A : Type} {database : Database} {service : Handle}

/-- The service with this handle is under construction. -/
def Database.Constructs (service : Handle) (database : Database) : Prop :=
  ∃ head rest, database.chain = head :: rest ∧ head.handle = service

namespace PublishedService

/-- Building an object adds for the service under construction, which remains so. -/
theorem buildObject_changes (orderly : database.Orderly) (constructs : database.Constructs service)
    (object : PublishedObject) :
    Changes service database (buildObject object database).2 ∧
      (buildObject object database).2.Constructs service := by
  have kept : Changes service database database ∧ database.Constructs service := ⟨.refl, constructs⟩
  obtain ⟨head, rest, chain_eq, named⟩ := constructs
  unfold buildObject
  split
  · exact kept
  · rename_i uuid _
    split
    · exact kept
    · rcases Database.addDescriptor_cases orderly uuid .both with ⟨cause, refused⟩ |
        ⟨first, _, handle, after, added, same, change, further, chain⟩
      · rw [refused]
        exact kept
      · rw [added]
        obtain ⟨rfl, -⟩ := List.cons.inj (chain_eq.symm.trans same)
        exact ⟨.single (named ▸ change), head, further, chain, named⟩
    · split
      · exact kept
      · rename_i properties _
        rcases Database.addCharacteristic_cases orderly uuid properties
          (.ofProperties properties) with ⟨cause, refused⟩ |
          ⟨first, _, value, after, added, same, change, further, chain⟩
        · rw [refused]
          exact kept
        · rw [added]
          obtain ⟨rfl, -⟩ := List.cons.inj (chain_eq.symm.trans same)
          exact ⟨.single (named ▸ change), head, further, chain, named⟩

/-- So does building several objects. -/
theorem buildObjects_changes (orderly : database.Orderly) (constructs : database.Constructs service)
    (objects : List PublishedObject) :
    Changes service database (buildObjects objects database).2 := by
  induction objects generalizing database with
  | nil => exact .refl
  | cons object rest ih =>
    have first := buildObject_changes orderly constructs object
    unfold buildObjects
    revert first
    rcases buildObject object database with ⟨_ | handle, after⟩
    · exact And.left
    · rintro ⟨changes, still⟩
      have others := ih (changes.orderly orderly) still
      dsimp only
      revert others
      rcases buildObjects rest after with ⟨_ | _, final⟩
      · exact changes.trans
      · exact changes.trans

/-- A service that is built begins with the next handle, and all that is added is added for it. -/
theorem build_changes (orderly : database.Orderly) (record : PublishedService)
    (next : service = UInt16.ofNat database.nextHandle) :
    Changes service database (record.build database).2.2 ∧
      ((record.build database).2.1.service = record.service ∨
        (record.build database).2.1.service = some service ∧
          database.nextHandle < (record.build database).2.2.nextHandle) := by
  have kept : Changes service database database ∧ (record.service = record.service ∨
      record.service = some service ∧ database.nextHandle < database.nextHandle) :=
    ⟨.refl, .inl rfl⟩
  unfold build
  split
  · exact kept
  split
  · exact kept
  rename_i head rest _ _ uuid _
  split
  · rcases Database.addService_cases orderly uuid with ⟨cause, refused⟩ |
      ⟨handle, started, added, change, first, counter, chain⟩
    · rw [refused]
      exact kept
    · obtain rfl : handle = service := by rw [next, ← first, UInt16.ofNat_toNat]
      have others := buildObjects_changes (change.orderly orderly) ⟨_, _, chain, rfl⟩ rest
      rw [added]
      dsimp only
      revert others
      rcases buildObjects rest started with ⟨_ | objects, final⟩
      all_goals
        intro changes
        have begun : database.nextHandle < started.nextHandle := by omega
        exact ⟨.head change changes,
          .inr ⟨rfl, Nat.lt_of_lt_of_le begun (Database.Changes.nextHandle_le changes)⟩⟩
  · exact kept

end PublishedService

namespace Publications

variable {publications after : Publications} {client path : String}

/-- The declarations of the services that were built. -/
def built (publications : Publications) : List Handle :=
  publications.services.filterMap PublishedService.service

/-- A handle was built exactly if a service says so. -/
theorem mem_built {handle : Handle} : handle ∈ publications.built ↔
    ∃ record ∈ publications.services, record.service = some handle := List.mem_filterMap

/-- What was built depends on these handles only. -/
theorem built_of_map (same : after.services.map PublishedService.service =
    publications.services.map PublishedService.service) : after.built = publications.built := by
  simpa [built, List.filterMap_map] using congrArg (List.filterMap id) same

/-- Fewer services were built as less. -/
theorem built_subset (fewer : after.services ⊆ publications.services) :
    after.built ⊆ publications.built := by
  intro handle member
  obtain ⟨record, there, own⟩ := mem_built.mp member
  exact mem_built.mpr ⟨record, fewer there, own⟩

/-- A service is registered before it is built. -/
theorem register_built (publications : Publications) (client path : String) (token : ReplyToken) :
    (publications.register client path token).2.built = publications.built := by
  unfold register
  repeat' split
  all_goals first
    | rfl
    | simp [built]

section Server

variable [AttributeServer A]

/-- Removing what was built for a service is one change at most. -/
theorem tearDown_changes (service : Handle) (record : PublishedService) (database : Database)
    (env : Environment B A) : Changes service database (tearDown record database env).1 := by
  unfold tearDown
  split
  · exact .refl
  · exact .single (Database.removeService_change service database _ env)

/-- Tearing down services one after the other is any number of changes. -/
theorem tearDownEach_changes (service : Handle) (records : List PublishedService)
    (database : Database) (env : Environment B A) :
    Changes service database (tearDownEach records database env).1 := by
  induction records generalizing database env with
  | nil => exact .refl
  | cons record rest ih => exact (tearDown_changes service record database env).trans (ih _ _)

/-- Giving up a service changes the database as tearing it down does. -/
theorem unregister_changes (service : Handle) (publications : Publications) (database : Database)
    (client path : String) (env : Environment B A) :
    Changes service database (publications.unregister database client path env).2.2.1 := by
  unfold unregister
  split
  · exact .refl
  · exact tearDown_changes service _ database env

/-- Nothing new was built when a service is given up. -/
theorem unregister_built (publications : Publications) (database : Database)
    (client path : String) (env : Environment B A) :
    (publications.unregister database client path env).2.1.built ⊆ publications.built :=
  built_subset (publications.unregister_sublist database client path env).subset

/-- Neither is it when a client leaves. -/
theorem clientDisconnected_built (publications : Publications) (database : Database)
    (client : String) (env : Environment B A) :
    (publications.clientDisconnected database client env).2.1.built ⊆ publications.built := by
  refine built_subset ?_
  rw [clientDisconnected_services]
  exact List.filter_subset_self _

/-- A new value changes the database as an update does, if at all. -/
theorem valueChanged_changes (service : Handle) (publications : Publications) (database : Database)
    (client path : String) (value : List UInt8) (env : Environment B A) :
    Changes service database (publications.valueChanged database client path value env).2.2.1 := by
  unfold valueChanged
  split
  · exact .refl
  split
  · exact .refl
  · dsimp only
    split
    · exact Database.updateValue_changes service database _ value env
    · exact .refl

/-- When a client is ready, a service may begin with the next handle, and all that is added is
added for it. -/
theorem clientReady_changes [MessageBus B] (orderly : database.Orderly)
    (next : service = UInt16.ofNat database.nextHandle) (env : Environment B A) :
    Changes service database (publications.clientReady database client path env).2.2.1 ∧
      ∀ handle ∈ (publications.clientReady database client path env).2.1.built,
        handle ∈ publications.built ∨ handle = service ∧ database.nextHandle <
          (publications.clientReady database client path env).2.2.1.nextHandle := by
  have readied := publications.clientReady_readied database client path env
  generalize publications.clientReady database client path env = result at readied ⊢
  cases readied with
  | ignored => exact ⟨.refl, fun _ => .inl⟩
  | @dropped _ _ record made _ begun _ found waits services_eq built =>
    have changed := PublishedService.build_changes orderly { record with registration := none } next
    rw [built] at changed
    refine ⟨changed.1.trans (tearDown_changes _ _ _ _), fun handle member => .inl ?_⟩
    exact built_subset (sublist_without services_eq).subset member
  | @built _ _ record made token begun found waits services_eq built enrolled =>
    have changed := PublishedService.build_changes orderly { record with registration := none } next
    rw [built] at changed
    obtain ⟨changes, named⟩ := changed
    have registered := Database.materialize_change service begun (env.sendReply token .done).2
    refine ⟨changes.tail registered, fun handle member => ?_⟩
    obtain ⟨other, there, own⟩ := mem_built.mp member
    rcases mem_replaced services_eq there with rfl | before
    · rcases named with same | ⟨first, grows⟩
      · have present := List.mem_of_find?_eq_some found
        exact .inl (mem_built.mpr ⟨record, present, same ▸ own⟩)
      · obtain rfl := Option.some.inj (first.symm.trans own)
        exact .inr ⟨rfl, Nat.lt_of_lt_of_le grows registered.nextHandle_le⟩
    · exact .inl (mem_built.mpr ⟨other, before, own⟩)

end Server

end Publications

end BluetoothHost
