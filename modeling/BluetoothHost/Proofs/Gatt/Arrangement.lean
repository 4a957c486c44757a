import BluetoothHost.Proofs.Gatt.Layout

/-!
# Published services stay arranged

Registering a service, publishing an object and withdrawing one are the only ways in which objects
come to stand elsewhere; values, attributes and answers leave them where they are. Each way keeps
the arrangement, so in every run an object is one of a kind: whatever names it by its client and its
path reaches that object and no other.
-/

namespace BluetoothHost

/-- Where the paths of objects are all different, one object at most has a path. -/
theorem PublishedObject.hasPath_unique {objects : List PublishedObject}
    (nodup : (objects.map path).Nodup) (path : String) :
    (objects.filter (hasPath path)).length ≤ 1 := by
  have values : ((objects.map PublishedObject.path).map Text.value).Nodup :=
    nodup.map fun _ _ => Text.eq_of_value
  have once := List.nodup_iff_count_le_one.mp values path
  rwa [List.map_map, List.count, List.countP_map, List.countP_eq_length_filter] at once

namespace PublishedService

variable {service made : PublishedService} {object : PublishedObject} {client path : String}

/-- Objects that are built keep everything but their links. -/
theorem buildObjects_map {β : Type} {observe : PublishedObject → β}
    (kept : ∀ object handle, observe { object with linked := some handle } = observe object)
    {objects built : List PublishedObject} {before after : Database}
    (done : buildObjects objects before = (.ok built, after)) :
    built.map observe = objects.map observe := by
  induction objects generalizing before built after with
  | nil =>
    cases done
    rfl
  | cons object rest ih =>
    unfold buildObjects at done
    split at done
    · cases done
    · split at done
      · cases done
      · rename_i others built_rest
        cases done
        rw [List.map_cons, List.map_cons, ih built_rest, kept]

/-- So does a service as a whole. -/
theorem build_map {β : Type} {observe : PublishedObject → β}
    (kept : ∀ object handle, observe { object with linked := some handle } = observe object)
    (service : PublishedService) (database : Database) :
    (service.build database).2.1.objects.map observe = service.objects.map observe := by
  unfold build
  split
  · rfl
  rename_i head rest objects_eq
  split
  · rfl
  split
  · split
    · rfl
    · dsimp only
      split
      · rfl
      · rename_i built
        have others := buildObjects_map kept built
        rw [objects_eq, List.map_cons, List.map_cons, others, kept]
  · rfl

/-- A service that is built stays where it is. -/
theorem build_layout (service : PublishedService) (database : Database) :
    (service.build database).2.1.layout = service.layout := by
  have enrolled := service.build_enrolment database
  have owner : (service.build database).2.1.owner = service.owner :=
    congrArg Enrolment.owner enrolled
  have root : (service.build database).2.1.path = service.path := congrArg Enrolment.path enrolled
  have paths : (service.build database).2.1.objects.map PublishedObject.path =
      service.objects.map PublishedObject.path := build_map (fun _ _ => rfl) service database
  rw [layout, owner, root, paths]
  rfl

/-- So does one of which an object has a new value. -/
theorem setValue_layout (service : PublishedService) (path : String) (value : AttributeValue) :
    (service.setValue path value).layout = service.layout := by
  have paths : (service.setValue path value).objects.map PublishedObject.path =
      service.objects.map PublishedObject.path := by
    refine map_updateFirst ?_ service.objects
    intro object
    rfl
  rw [layout, paths]
  rfl

/-- An object takes the place of the one with its path, so all paths stay. -/
theorem replaced_paths (object : PublishedObject) (objects : List PublishedObject) :
    (updateFirst (PublishedObject.hasPath object.path.value) (fun _ => object)
      objects).map PublishedObject.path = objects.map PublishedObject.path := by
  rcases updateFirst_cases (PublishedObject.hasPath object.path.value) (fun _ => object)
    objects with same | ⟨front, old, back, objects_eq, found, -, updated⟩
  · rw [same]
  · have named : old.hasPath object.path.value = true := List.find?_some found
    have path : object.path = old.path := (Text.eq_of_value (beq_iff_eq.mp named)).symm
    rw [updated, objects_eq, List.map_append, List.map_append, List.map_cons, List.map_cons, path]

/-- A service with one more path is tidy, if the new path is under its own. -/
theorem tidy_place (tidy : service.layout.Tidy) (under : object.isUnder service.path.value = true)
    (new : ∀ other ∈ service.objects, other.path ≠ object.path) :
    (layout { service with objects := place object service.objects }).Tidy where
  ascending := by
    have ascending : service.objects.Pairwise fun lower higher =>
        lower.path.value < higher.path.value := by
      simpa only [layout, List.pairwise_map] using tidy.ascending
    exact List.pairwise_map.mpr (place_ascending ascending new)
  under := by
    intro path member
    obtain ⟨other, placed, rfl⟩ := List.mem_map.mp member
    rcases mem_place placed with rfl | there
    · exact PublishedObject.isUnder_iff.mp under
    · exact tidy.under other.path (List.mem_map_of_mem there)

/-- A service under which an object is published stays tidy, and its only new path is that of the
object. -/
theorem publish?_layout (published : service.publish? object = some made)
    (tidy : service.layout.Tidy) (under : object.isUnder service.path.value = true) :
    made.layout.Tidy ∧ ∀ path ∈ made.layout.paths, path ∈ service.layout.paths ∨
      path = object.path := by
  unfold publish? at published
  split at published
  · obtain rfl := Option.some.inj published
    have same : layout { service with
        objects := updateFirst (PublishedObject.hasPath object.path.value) (fun _ => object)
          service.objects } = service.layout := by
      rw [layout, replaced_paths, layout]
    rw [same]
    exact ⟨tidy, fun path member => .inl member⟩
  · rename_i absent
    split at published
    · obtain rfl := Option.some.inj published
      have new : ∀ other ∈ service.objects, other.path ≠ object.path := by
        intro other there same
        have named : other.hasPath object.path.value = true := by
          rw [PublishedObject.hasPath, same, beq_self_eq_true]
        exact absent (List.any_eq_true.mpr ⟨other, there, named⟩)
      refine ⟨tidy_place tidy under new, fun path member => ?_⟩
      obtain ⟨other, placed, rfl⟩ := List.mem_map.mp member
      rcases mem_place placed with rfl | there
      · exact .inr rfl
      · exact .inl (List.mem_map_of_mem there)
    · cases published

/-- The objects of a service, if it is one of this client. -/
def objectsOf (client : String) (service : PublishedService) : List PublishedObject :=
  if service.isOwnedBy client then service.objects else []

/-- A service holds an object of a client if it is among those. -/
theorem holdsObject_eq (client path : String) :
    holdsObject client path = fun service =>
      (service.objectsOf client).any (PublishedObject.hasPath path) := by
  funext service
  unfold holdsObject objectsOf
  cases service.isOwnedBy client <;> rfl

/-- They are all that it has. -/
theorem objectsOf_eq (owned : service.isOwnedBy client = true) :
    service.objectsOf client = service.objects := if_pos owned

/-- What is among them belongs to a service of the client. -/
theorem isOwnedBy_of_mem (member : object ∈ service.objectsOf client) :
    service.isOwnedBy client = true := by
  by_contra other
  rw [objectsOf, if_neg other] at member
  cases member

end PublishedService

namespace Publications

variable {B A : Type} {publications after : Publications} {client path : String}

/-- The layouts of all services. -/
def layouts (publications : Publications) : List Layout :=
  publications.services.map PublishedService.layout

/-- The services are arranged. -/
def Arranged (publications : Publications) : Prop := BluetoothHost.Arranged publications.layouts

namespace Arranged

/-- Fewer services are arranged. -/
theorem sublist {services : List PublishedService} (arranged : publications.Arranged)
    (sublist : services.Sublist publications.services) : Arranged ⟨services⟩ :=
  BluetoothHost.Arranged.sublist arranged (sublist.map PublishedService.layout)

/-- Services with the same layouts are arranged. -/
theorem of_layouts (arranged : publications.Arranged)
    (same : after.layouts = publications.layouts) : after.Arranged := by
  unfold Arranged
  rwa [same]

/-- One service may have other objects, as long as those that are new to it could not go to an
earlier service of its client. -/
theorem replace {front back : List PublishedService} {service made : PublishedService}
    (arranged : publications.Arranged)
    (services_eq : publications.services = front ++ service :: back)
    (enrolled : made.enrolment = service.enrolment) (tidy : made.layout.Tidy)
    (first : ∀ path ∈ made.layout.paths, path ∈ service.layout.paths ∨ ∀ earlier ∈ front,
      earlier.owner = service.owner → ¬Under earlier.path.value path.value) :
    Arranged ⟨front ++ made :: back⟩ := by
  rw [Arranged, layouts, services_eq, List.map_append, List.map_cons] at arranged
  rw [Arranged, layouts, List.map_append, List.map_cons]
  refine arranged.replace (congrArg Enrolment.owner enrolled) (congrArg Enrolment.path enrolled)
    tidy fun path member => (first path member).imp_right ?_
  rintro elsewhere _ among
  obtain ⟨earlier, present, rfl⟩ := List.mem_map.mp among
  exact elsewhere earlier present

/-- A service comes behind the others when it is registered. -/
theorem register (arranged : publications.Arranged) (client path : String) (token : ReplyToken) :
    (publications.register client path token).2.Arranged := by
  unfold Publications.register
  split
  · exact arranged
  split
  · split
    · rw [Arranged, layouts, List.map_append]
      exact BluetoothHost.Arranged.register arranged _ _
    · exact arranged
  · exact arranged

/-- An object that is published goes to the first service that can take it. -/
theorem publish (arranged : publications.Arranged) (client : String) (object : PublishedObject) :
    (publications.publish client object).2.Arranged := by
  unfold Publications.publish
  dsimp only
  split
  · exact arranged
  rename_i service found
  split
  · exact arranged
  rename_i made published
  have takes := List.find?_some found
  have taken := Bool.and_eq_true_iff.mp takes
  rcases updateFirst_cases _ (fun _ => made) publications.services with same |
    ⟨front, other, back, services_eq, first, skipped, updated⟩
  · rw [same]
    exact arranged
  obtain rfl := Option.some.inj (found.symm.trans first)
  have present : service.layout ∈ publications.layouts :=
    List.mem_map_of_mem (List.mem_of_find?_eq_some found)
  obtain ⟨tidy, known⟩ :=
    PublishedService.publish?_layout published (arranged.tidy _ present) taken.2
  rw [updated]
  -- The services in front were asked first, so the object does not lie under one of this client.
  refine arranged.replace services_eq ?_ tidy fun path member => (known path member).imp_right ?_
  · rw [PublishedService.publish?_eq published]
    rfl
  · rintro rfl earlier before same under
    have passed := skipped earlier before
    have owned : earlier.isOwnedBy client = true := by
      rw [PublishedService.isOwnedBy, same]
      exact taken.1
    rw [owned, PublishedObject.isUnder_iff.mpr under] at passed
    cases passed

/-- An object that is withdrawn leaves the others where they are. -/
theorem withdraw (arranged : publications.Arranged) (client path : String) :
    (publications.withdraw client path).2.Arranged := by
  unfold Publications.withdraw
  dsimp only
  rcases updateFirst_cases (PublishedService.holdsObject client path)
    (fun service => service.withdraw path) publications.services with same |
    ⟨front, service, back, services_eq, found, -, updated⟩
  · rw [same]
    exact arranged
  have present : service.layout ∈ publications.layouts :=
    List.mem_map_of_mem (List.mem_of_find?_eq_some found)
  have fewer : (service.withdraw path).layout.paths.Sublist service.layout.paths :=
    List.eraseP_sublist.map PublishedObject.path
  rw [updated]
  exact arranged.replace services_eq rfl ((arranged.tidy _ present).sublist fewer)
    fun path member => .inl (fewer.subset member)

/-- So does a new value. -/
theorem valueChanged [AttributeServer A] (arranged : publications.Arranged) (database : Database)
    (client path : String) (value : List UInt8) (env : Environment B A) :
    (publications.valueChanged database client path value env).2.1.Arranged := by
  refine arranged.of_layouts ?_
  rw [layouts, valueChanged_services]
  split
  · rfl
  · exact map_updateFirst (fun service => service.setValue_layout path _) _

/-- What is built stays where it is. -/
theorem clientReady [AttributeServer A] [MessageBus B] (arranged : publications.Arranged)
    (database : Database) (client path : String) (env : Environment B A) :
    (publications.clientReady database client path env).2.1.Arranged := by
  have readied := publications.clientReady_readied database client path env
  generalize publications.clientReady database client path env = result at readied ⊢
  cases readied with
  | ignored => exact arranged
  | dropped found waits services_eq built => exact arranged.sublist (sublist_without services_eq)
  | @built _ _ record made token begun found waits services_eq built enrolled =>
    have layout := PublishedService.build_layout { record with registration := none } database
    rw [built] at layout
    refine arranged.of_layouts ?_
    rw [layouts, layouts, services_eq, List.map_append, List.map_append, List.map_cons,
      List.map_cons, layout]
    rfl

end Arranged

/-! ### The objects of a client -/

/-- All objects that a client published, of all its services. -/
def objectsOf (client : String) (publications : Publications) : List PublishedObject :=
  publications.services.flatMap (PublishedService.objectsOf client)

/-- No two of them have the same path. -/
theorem Arranged.nodup_objectsOf (arranged : publications.Arranged) (client : String) :
    ((publications.objectsOf client).map PublishedObject.path).Nodup := by
  rw [objectsOf, List.map_flatMap, List.nodup_flatMap]
  have apart := List.pairwise_map.mp arranged.disjoint
  constructor
  · intro service member
    unfold PublishedService.objectsOf
    split
    · exact (arranged.tidy _ (List.mem_map_of_mem member)).nodup
    · exact List.nodup_nil
  · refine apart.imp fun {earlier later} disjoint => ?_
    show List.Disjoint _ _
    intro path among others
    obtain ⟨object, mine, rfl⟩ := List.mem_map.mp among
    obtain ⟨other, theirs, same⟩ := List.mem_map.mp others
    have first := PublishedService.isOwnedBy_of_mem mine
    have second := PublishedService.isOwnedBy_of_mem theirs
    rw [PublishedService.objectsOf_eq first] at mine
    rw [PublishedService.objectsOf_eq second] at theirs
    have owners : earlier.owner = later.owner :=
      Text.eq_of_value ((beq_iff_eq.mp first).trans (beq_iff_eq.mp second).symm)
    exact disjoint owners (List.mem_map_of_mem mine) (same ▸ List.mem_map_of_mem theirs)

/-- One of them at most has a path. -/
theorem Arranged.hasPath_unique (arranged : publications.Arranged) (client path : String) :
    ((publications.objectsOf client).filter (PublishedObject.hasPath path)).length ≤ 1 :=
  PublishedObject.hasPath_unique (arranged.nodup_objectsOf client) path

/-- Withdrawing an object takes that one away. -/
theorem Arranged.withdraw_objectsOf (arranged : publications.Arranged) (client path : String) :
    (publications.withdraw client path).2.objectsOf client =
      (publications.objectsOf client).filter fun object => !object.hasPath path := by
  rw [← eraseP_eq_filter (arranged.hasPath_unique client path)]
  unfold objectsOf Publications.withdraw
  rw [PublishedService.holdsObject_eq]
  refine flatMap_updateFirst rfl (fun earlier later => List.eraseP_append) ?_ _
  intro service holds
  obtain ⟨object, member, -⟩ := List.any_eq_true.mp holds
  have owned := PublishedService.isOwnedBy_of_mem member
  rw [PublishedService.objectsOf_eq owned]
  exact PublishedService.objectsOf_eq owned

/-- A new value that is not too long becomes that of this one. -/
theorem Arranged.valueChanged_objectsOf [AttributeServer A] (arranged : publications.Arranged)
    {value : List UInt8} {kept : AttributeValue}
    (fits : Bytes.ofList? Limits.attributeValue value = some kept) (database : Database)
    (client path : String) (env : Environment B A) :
    (publications.valueChanged database client path value env).2.1.objectsOf client =
      (publications.objectsOf client).map fun object =>
        if object.hasPath path then { object with value := kept } else object := by
  rw [← updateFirst_eq_map _ (arranged.hasPath_unique client path)]
  unfold objectsOf
  rw [valueChanged_services, fits, PublishedService.holdsObject_eq]
  refine flatMap_updateFirst rfl (updateFirst_append _ _) ?_ _
  intro service holds
  obtain ⟨object, member, -⟩ := List.any_eq_true.mp holds
  have owned := PublishedService.isOwnedBy_of_mem member
  rw [PublishedService.objectsOf_eq owned]
  exact PublishedService.objectsOf_eq owned

end Publications

/-! ### Runs -/

namespace Catalogue

variable {B A : Type} [MessageBus B] [AttributeServer A] {catalogue : Catalogue}

/-- Every action keeps the services arranged. -/
theorem perform_arranged (arranged : catalogue.publications.Arranged) (action : Action B A)
    (env : Environment B A) : (catalogue.perform action env).1.publications.Arranged := by
  obtain ⟨database, publications⟩ := catalogue
  cases action with
  | register client path token => exact arranged.register client path token
  | unregister client path =>
    exact arranged.sublist (publications.unregister_sublist database client path env)
  | publish client object => exact arranged.publish client object
  | withdraw client path => exact arranged.withdraw client path
  | clientReady client path => exact arranged.clientReady database client path env
  | valueChanged client path value => exact arranged.valueChanged database client path value env
  | clientDisconnected client =>
    exact arranged.sublist (publications.clientDisconnected_sublist database client env)
  | _ => exact arranged

/-- So does every run. -/
theorem run_keeps_arranged (arranged : catalogue.publications.Arranged)
    (actions : List (Action B A)) (env : Environment B A) :
    (catalogue.run actions env).1.publications.Arranged := by
  induction actions generalizing catalogue env with
  | nil => exact arranged
  | cons action actions ih => exact ih (perform_arranged arranged action env) _

/-- So the services of a fresh catalogue stay arranged whatever befalls it. -/
theorem run_fresh_arranged {first : Handle} {announces : Bool} {actions : List (Action B A)}
    {env later : Environment B A}
    (ran : (fresh first announces).run actions env = (catalogue, later)) :
    catalogue.publications.Arranged := by
  have start : (fresh first announces).publications.Arranged := ⟨nofun, .nil⟩
  have arranged := run_keeps_arranged start actions env
  rwa [ran] at arranged

/-- Whatever befalls a fresh catalogue, its services have different paths. The objects of each
stand in the order of their paths, all of them under the path of the service, so that an object
with that path itself comes first. No object path is in two services of one client: withdrawing an
object or publishing a new value of it concerns, among all objects of the client, exactly those
with the path, and that is at most one. -/
theorem run_arranged {first : Handle} {announces : Bool} {actions : List (Action B A)}
    {env later : Environment B A}
    (ran : (fresh first announces).run actions env = (catalogue, later)) :
    (catalogue.publications.services.map PublishedService.path).Nodup ∧
    (∀ service ∈ catalogue.publications.services,
      (service.objects.Pairwise fun lower higher => lower.path.value < higher.path.value) ∧
      (∀ object ∈ service.objects, object.isUnder service.path.value = true) ∧
      ∀ object ∈ service.objects, object.path = service.path →
        service.objects.head? = some object) ∧
    (catalogue.publications.services.Pairwise fun earlier later => earlier.owner = later.owner →
      ∀ object ∈ earlier.objects, ∀ other ∈ later.objects, object.path ≠ other.path) ∧
    ∀ client path,
      ((catalogue.publications.objectsOf client).filter
        (PublishedObject.hasPath path)).length ≤ 1 ∧
      (catalogue.publications.withdraw client path).2.objectsOf client =
        (catalogue.publications.objectsOf client).filter (fun object => !object.hasPath path) ∧
      ∀ (database : Database) (value : List UInt8) (kept : AttributeValue)
        (now : Environment B A), Bytes.ofList? Limits.attributeValue value = some kept →
        (catalogue.publications.valueChanged database client path value now).2.1.objectsOf client =
          (catalogue.publications.objectsOf client).map fun object =>
            if object.hasPath path then { object with value := kept } else object := by
  have start : (fresh first announces).publications.Arranged := ⟨nofun, .nil⟩
  have none : (fresh first announces).publications.Distinct := List.nodup_nil
  have arranged := run_keeps_arranged start actions env
  have distinct := run_distinct none actions env
  rw [ran] at arranged distinct
  refine ⟨distinct, fun service member => ?_, ?_, fun client path => ?_⟩
  · have tidy := arranged.tidy _ (List.mem_map_of_mem member)
    refine ⟨?_, fun object own => ?_, fun object own same => ?_⟩
    · simpa only [PublishedService.layout, List.pairwise_map] using tidy.ascending
    · exact PublishedObject.isUnder_iff.mpr (tidy.under _ (List.mem_map_of_mem own))
    · have member : service.path ∈ service.layout.paths := same ▸ List.mem_map_of_mem own
      have leads := tidy.head?_eq member
      rw [PublishedService.layout, List.head?_map] at leads
      obtain ⟨head, first, named⟩ := Option.map_eq_some_iff.mp leads
      have own_head := List.mem_of_head? first
      rwa [List.inj_on_of_nodup_map tidy.nodup own_head own (named.trans same.symm)] at first
  · refine (List.pairwise_map.mp arranged.disjoint).imp fun {earlier later} apart owners => ?_
    intro object mine other theirs same
    exact apart owners (List.mem_map_of_mem mine) (same ▸ List.mem_map_of_mem theirs)
  · exact ⟨arranged.hasPath_unique client path, arranged.withdraw_objectsOf client path,
      fun database value kept now fits =>
        arranged.valueChanged_objectsOf fits database client path now⟩

/-- A client registers a service below the path of another, gives that one up and registers it
again. An object below both is in one of them all the time, and is gone when it is withdrawn. -/
theorem run_arranged_of_nested :
    let part : PublishedObject := { path := ⟨"/app/sub/c", by decide⟩, interface := .descriptor }
    let further : PublishedObject := { path := ⟨"/app/sub/a", by decide⟩, interface := .descriptor }
    let whole : PublishedObject := { path := ⟨"/app", by decide⟩, interface := .service }
    let actions : List (Action Transport.PlainBus CountingServer) :=
      [.register ":1.7" "/app" ⟨1⟩, .publish ":1.7" part, .register ":1.7" "/app/sub" ⟨2⟩,
        .publish ":1.7" part, .unregister ":1.7" "/app", .publish ":1.7" part,
        .register ":1.7" "/app" ⟨3⟩, .publish ":1.7" further, .publish ":1.7" whole]
    let catalogue := ((fresh 1 true).run actions countingEnvironment).1
    catalogue.publications.objectsOf ":1.7" = [further, part, whole] ∧
      (catalogue.publications.services.map PublishedService.path).Nodup ∧
      ((catalogue.publications.objectsOf ":1.7").filter
        (PublishedObject.hasPath "/app/sub/c")).length ≤ 1 ∧
      (catalogue.publications.withdraw ":1.7" "/app/sub/c").2.objectsOf ":1.7" =
        [further, whole] := by
  intro part further whole actions catalogue
  have ran : (fresh 1 true).run actions countingEnvironment =
      (catalogue, ((fresh 1 true).run actions countingEnvironment).2) := (Prod.eta _).symm
  have objects : catalogue.publications.objectsOf ":1.7" = [further, part, whole] := by
    decide +kernel
  have left : [further, part, whole].filter (fun object => !object.hasPath "/app/sub/c") =
      [further, whole] := by decide
  clear_value catalogue
  obtain ⟨distinct, -, -, alone⟩ := run_arranged ran
  obtain ⟨unique, withdrawn, -⟩ := alone ":1.7" "/app/sub/c"
  refine ⟨objects, distinct, unique, ?_⟩
  rw [withdrawn, objects, left]

end Catalogue

end BluetoothHost
