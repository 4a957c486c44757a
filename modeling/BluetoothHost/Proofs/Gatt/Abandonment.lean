import BluetoothHost.Proofs.Gatt.Readiness

/-!
# Services that cannot be built

A service is built from its objects one after the other, and any of them may be refused. What was
added by then stands at the end of the database and is removed again, as the service that it was
begun as. The removal takes everything away unless an attribute looks like the declaration of
another service, and it asks the server for nothing, since the service never had a range. But what
code within the process had under construction was given up when the service was begun.
-/

namespace BluetoothHost

/-- Whether attributes of this type look like declarations of services. -/
def Uuid.DeclaresServices (uuid : Uuid) : Prop :=
  uuid ≈ Uuid.primaryService ∨ uuid ≈ Uuid.secondaryService

/-- A served attribute looks like one if its type is one of those. -/
theorem Attribute.isService_served {handle : Handle} {uuid : Uuid} {permissions : Permissions} :
    (Attribute.served handle uuid permissions).isService = true ↔ uuid.DeclaresServices := by
  rw [Attribute.isService, Bool.or_eq_true]
  exact or_congr decide_eq_true_iff decide_eq_true_iff

/-- The UUID of an element. -/
def Element.uuid : Element → Uuid
  | .characteristic uuid _ _ => uuid
  | .descriptor uuid _ => uuid

/-- An object stands for an element with its UUID. -/
theorem PublishedObject.uuid_of_element? {object : PublishedObject} {element : Element}
    (known : object.element? = some element) : object.uuid = some element.uuid := by
  unfold PublishedObject.element? at known
  split at known
  · rename_i named _
    obtain rfl := Option.some.inj known
    exact named
  · rename_i named
    obtain rfl := Option.some.inj known
    exact named
  · cases known

/-- No attribute of an element with another UUID looks like the declaration of a service. -/
theorem Placement.isService_eq_false {placement : Placement}
    (plain : ¬placement.element.uuid.DeclaresServices) :
    ∀ entry ∈ placement.attributes, entry.isService = false := by
  obtain ⟨handle, element⟩ := placement
  have served (other : Handle) (permissions : Permissions) :
      (Attribute.served other element.uuid permissions).isService = false :=
    Bool.eq_false_iff.mpr fun looks => plain (Attribute.isService_served.mp looks)
  cases element with
  | characteristic uuid properties permissions =>
    intro entry member
    rcases List.mem_pair.mp member with rfl | rfl
    · rfl
    · exact served _ _
  | descriptor uuid permissions =>
    intro entry member
    rw [List.mem_singleton.mp member]
    exact served _ _

namespace PublishedService

/-- No object behind the first has a UUID by which its attribute looks like the declaration of a
service. -/
def Undisguised (record : PublishedService) : Prop :=
  ∀ object ∈ record.objects.tail, ∀ uuid, object.uuid = some uuid → ¬uuid.DeclaresServices

/-- Nor do the attributes that are built for them. -/
theorem BuiltFrom.isService_eq_false {objects : List PublishedObject}
    {placements : List Placement} {before after : Database}
    {outcome : Except Error (List PublishedObject)}
    (built : BuiltFrom objects placements before after outcome)
    (plain : ∀ object ∈ objects, ∀ uuid, object.uuid = some uuid → ¬uuid.DeclaresServices) :
    ∀ entry ∈ placements.flatMap Placement.attributes, entry.isService = false := by
  intro entry member
  obtain ⟨placement, placed, within⟩ := List.mem_flatMap.mp member
  have stood : some placement.element ∈ objects.map PublishedObject.element? :=
    built.among.subset (List.mem_map_of_mem placed)
  obtain ⟨object, present, known⟩ := List.mem_map.mp stood
  exact placement.isService_eq_false
    (plain object present _ (PublishedObject.uuid_of_element? known)) entry within

end PublishedService

namespace Database

variable {B A : Type} {database : Database} {service : Handle} {uuid : Uuid}
  {placements : List Placement}

/-- What was begun behind everything else is removed up to the first attribute that looks like the
declaration of a service, and the server is not asked for anything. -/
theorem removeService_extend [AttributeServer A]
    (orderly : ((database.start service uuid).extend placements).Orderly) (env : Environment B A) :
    ((database.start service uuid).extend placements).removeService service env =
      (.ok (), { database with
        attributes := database.attributes ++
          (placements.flatMap Placement.attributes).dropWhile fun entry => !entry.isService
        chain := []
        nextHandle := database.nextHandle + 1 + (placements.flatMap Placement.nodes).length },
        env) := by
  have split : ((database.start service uuid).extend placements).attributes =
      database.attributes ++
        .serviceDeclaration service uuid :: placements.flatMap Placement.attributes := by
    simp [start, extend]
  have place : ((database.start service uuid).extend placements).position? service =
      some database.attributes.length := position?_split orderly.ascending split
  unfold removeService
  rw [place]
  dsimp only
  rw [split, List.drop_left, List.take_left]
  have declares : (Attribute.serviceDeclaration service uuid).isService = true := rfl
  dsimp only
  rw [if_pos declares]
  simp [start, extend, Attribute.serviceDeclaration]

/-- What is left of a database after a service could not be built. Peers are told of changes as
before, no handle that was given out is free again, and the chain stays unless a service was begun,
by which it was given up. -/
structure Recovered (undisguised : Prop) (before after : Database) : Prop where
  /-- Whether peers are told. -/
  announces : after.announces = before.announces
  /-- The counter goes on. -/
  grows : before.nextHandle ≤ after.nextHandle
  /-- The chain. -/
  chain : after.chain = if after.nextHandle = before.nextHandle then before.chain else []
  /-- The attributes, unless one is disguised. -/
  attributes : undisguised → after.attributes = before.attributes

end Database

namespace Publications

variable {B A : Type} {database : Database} {publications : Publications}

/-! ### What has been built -/

/-- No service has been built while its registration waits. -/
def Pristine (publications : Publications) : Prop :=
  ∀ record ∈ publications.services, record.registration.isSome = true → record.service = none

/-- This does not depend on objects. -/
theorem Pristine.of_map {after : Publications} (pristine : publications.Pristine)
    (same : after.services.map (fun record => (record.registration, record.service)) =
      publications.services.map fun record => (record.registration, record.service)) :
    after.Pristine := by
  intro record member waits
  have kept := List.mem_map_of_mem (f := fun record => (record.registration, record.service)) member
  rw [same] at kept
  obtain ⟨old, there, equal⟩ := List.mem_map.mp kept
  obtain ⟨registration, service⟩ := Prod.mk.inj equal
  rw [← service]
  exact pristine old there (registration ▸ waits)

/-- Nor on services that are gone. -/
theorem Pristine.sublist {services : List PublishedService} (pristine : publications.Pristine)
    (sublist : services.Sublist publications.services) : Pristine ⟨services⟩ :=
  fun record member => pristine record (sublist.subset member)

/-- A service that is registered has not been built. -/
theorem Pristine.register (pristine : publications.Pristine) (client path : String)
    (token : ReplyToken) : (publications.register client path token).2.Pristine := by
  unfold Publications.register
  repeat' split
  all_goals first
    | exact pristine
    | skip
  intro record member waits
  rcases List.mem_append.mp member with old | new
  · exact pristine record old waits
  · rw [List.mem_singleton.mp new]

variable [AttributeServer A]

/-- What a failed build leaves is removed without a call. -/
theorem tearDown_recovered (orderly : database.Orderly) {record made : PublishedService}
    {cause : Error} {begun : Database} (unbuilt : record.service = none)
    (failed : record.build database = (.error cause, made, begun)) (env : Environment B A) :
    (tearDown made begun env).2 = env ∧
      database.Recovered record.Undisguised (tearDown made begun env).1 := by
  have build := PublishedService.build_eq orderly record
  rw [failed] at build
  cases build with
  | refused =>
    unfold tearDown
    rw [unbuilt]
    exact ⟨rfl, rfl, Nat.le_refl _, (if_pos rfl).symm, fun _ => rfl⟩
  | @abandoned head rest uuid service placements _ objects_eq _ _ _ built =>
    unfold tearDown
    dsimp only
    rw [Database.removeService_extend built.extended.orderly]
    refine ⟨rfl, rfl, ?_, ?_, fun undisguised => ?_⟩
    · show database.nextHandle ≤ database.nextHandle + 1 + _
      omega
    · refine (if_neg ?_).symm
      show database.nextHandle + 1 + _ ≠ database.nextHandle
      omega
    · have plain := built.isService_eq_false fun object member =>
        undisguised object (by rw [objects_eq]; exact member)
      have none : (placements.flatMap Placement.attributes).dropWhile
          (fun entry => !entry.isService) = [] :=
        List.dropWhile_eq_nil_iff.mpr fun entry member => by rw [plain entry member]; rfl
      show database.attributes ++ _ = database.attributes
      rw [none, List.append_nil]

variable [MessageBus B]

/-- When a client is ready and its service cannot be built, the registration is answered with a
refusal, the service goes, and the database is recovered. -/
theorem clientReady_recovered (orderly : database.Orderly) (pristine : publications.Pristine)
    {client path : String} {record : PublishedService} {token : ReplyToken} {cause : Error}
    (found : publications.services.find? (PublishedService.isRegistration client path) =
      some record)
    (waits : record.registration = some token)
    (failed : ({ record with registration := none }.build database).1 = .error cause)
    (env : Environment B A) :
    ∃ after, publications.clientReady database client path env =
        (.ok (), ⟨publications.services.eraseP (PublishedService.isRegistration client path)⟩,
          after, (env.sendReply token (.error .invalidArguments)).2) ∧
      database.Recovered record.Undisguised after := by
  have unbuilt : record.service = none :=
    pristine record (List.mem_of_find?_eq_some found) (by rw [waits]; rfl)
  unfold clientReady
  dsimp only
  rw [found]
  dsimp only
  rw [waits]
  dsimp only
  revert failed
  cases built : { record with registration := none }.build database with
  | mk outcome rest =>
    obtain ⟨made, begun⟩ := rest
    rintro rfl
    obtain ⟨silent, recovered⟩ := @tearDown_recovered B A database _ orderly
      { record with registration := none } made cause begun unbuilt built env
    refine ⟨_, ?_, recovered⟩
    dsimp only
    rw [silent]

end Publications

namespace Catalogue

variable {B A : Type} [MessageBus B] [AttributeServer A]

/-- No action leaves a service that waits for its client built. -/
theorem perform_pristine {catalogue : Catalogue} (pristine : catalogue.publications.Pristine)
    (action : Action B A) (env : Environment B A) :
    (catalogue.perform action env).1.publications.Pristine := by
  obtain ⟨database, publications⟩ := catalogue
  cases action with
  | register client path token => exact pristine.register client path token
  | unregister client path =>
    exact pristine.sublist (publications.unregister_sublist database client path env)
  | publish client object =>
    exact pristine.of_map (Publications.publish_map (fun _ _ => rfl) publications client object)
  | withdraw client path =>
    exact pristine.of_map (Publications.withdraw_map (fun _ _ => rfl) publications client path)
  | clientReady client path =>
    have readied := publications.clientReady_readied database client path env
    dsimp only [perform]
    generalize publications.clientReady database client path env = result at readied ⊢
    cases readied with
    | ignored => exact pristine
    | dropped found waits services_eq built =>
      exact pristine.sublist (Publications.sublist_without services_eq)
    | built found waits services_eq built enrolled =>
      intro service member waiting
      rcases Publications.mem_replaced services_eq member with rfl | there
      · have answered : service.registration = none := congrArg Enrolment.registration enrolled
        rw [answered] at waiting
        cases waiting
      · exact pristine service there waiting
  | valueChanged client path value =>
    exact pristine.of_map
      (Publications.valueChanged_map (fun _ _ => rfl) publications database client path value env)
  | clientDisconnected client =>
    exact pristine.sublist (publications.clientDisconnected_sublist database client env)
  | _ => exact pristine

/-- Nor does any run. -/
theorem run_pristine {catalogue : Catalogue} (pristine : catalogue.publications.Pristine)
    (actions : List (Action B A)) (env : Environment B A) :
    (catalogue.run actions env).1.publications.Pristine := by
  induction actions generalizing catalogue env with
  | nil => exact pristine
  | cons action actions ih => exact ih (perform_pristine pristine action env) _

end Catalogue

end BluetoothHost
