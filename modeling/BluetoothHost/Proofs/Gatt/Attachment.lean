import BluetoothHost.Proofs.Gatt.Blocks
import BluetoothHost.Proofs.Gatt.Links
import Mathlib.Data.List.Flatten

/-!
# One object for each attribute

When a service is built, its objects are linked to attributes that are created for them. Afterwards
links only go: with an object that is withdrawn or replaced, or with the whole service. Handles are
not given out twice, so no two objects are ever linked to the same attribute, and an attribute
without an object never gets one again. The attribute of an object is there for as long as the
object is, in the block of its service, since a service is removed together with its objects.
-/

namespace BluetoothHost

open Database (Extends Retains creations mem_creations)

variable {B A : Type}

/-! ### What is built -/

/-- The handle by which a placed element is known is one of those of its attributes. -/
theorem Placement.link_sublist (placements : List Placement) :
    (placements.map Placement.link).Sublist
      ((placements.flatMap Placement.attributes).map Attribute.handle) := by
  induction placements with
  | nil => exact .slnil
  | cons placement rest ih =>
    have own : [placement.link].Sublist (placement.attributes.map Attribute.handle) := by
      obtain ⟨handle, element⟩ := placement
      cases element with
      | characteristic uuid properties permissions => exact .cons _ (.refl _)
      | descriptor uuid permissions => exact .refl _
    rw [List.flatMap_cons, List.map_append]
    exact own.append ih

/-- The object of a service stands for no element. -/
theorem PublishedObject.element?_eq_none {object : PublishedObject}
    (isService : object.interface = .service) : object.element? = none := by
  unfold element?
  rw [isService]

namespace PublishedService

variable {record : PublishedService} {handle : Handle}

/-- The attributes to which the objects of a service are linked. -/
def links (record : PublishedService) : List Handle :=
  record.objects.flatMap fun object => object.linked.toList

/-- A handle is linked exactly if an object of the service is linked to it. -/
theorem mem_links : handle ∈ record.links ↔
    ∃ object ∈ record.objects, object.linked = some handle := by
  simp [links, List.mem_flatMap]

/-- Linking objects to placed elements links them to the handles by which these are known. -/
theorem links_zipWith {objects : List PublishedObject} {placements : List Placement}
    (counted : objects.length = placements.length) :
    (List.zipWith PublishedObject.linkedTo objects placements).flatMap
      (fun object => object.linked.toList) = placements.map Placement.link := by
  induction objects generalizing placements with
  | nil =>
    obtain rfl := List.length_eq_zero_iff.mp counted.symm
    rfl
  | cons object rest ih =>
    cases placements with
    | nil => cases counted
    | cons placement others =>
      rw [List.zipWith_cons_cons, List.flatMap_cons, List.map_cons, ih (Nat.succ.inj counted)]
      rfl

/-- A service was built between two moments, and this is its declaration. -/
structure Erected (before after : Database) (record : PublishedService) (service : Handle) :
    Prop where
  /-- The record says so. -/
  named : record.service = some service
  /-- The service was begun with the next handle. -/
  next : service.toNat = before.nextHandle
  /-- Its declaration is there. -/
  begins : after.Begins service
  /-- No two objects are linked to the same attribute. -/
  unshared : record.links.Nodup
  /-- The attributes are new and there, and the object of the service is linked to its
  declaration. -/
  fresh : ∀ object ∈ record.objects, ∀ handle, object.linked = some handle →
    before.nextHandle ≤ handle.toNat ∧ after.Holds handle ∧
      (object.interface = .service → handle = service)

/-- It is so as long as all attributes stay. -/
theorem Erected.extend {before middle after : Database} {service : Handle}
    (erected : Erected before middle record service) (stays : Extends middle after) :
    Erected before after record service where
  named := erected.named
  next := erected.next
  begins := stays.begins erected.begins
  unshared := erected.unshared
  fresh := by
    intro object member handle linked
    obtain ⟨above, holds, head⟩ := erected.fresh object member handle linked
    exact ⟨above, stays.holds holds, head⟩

/-- What building a service without failure comes to. -/
theorem build_erected {database begun : Database} {made : PublishedService}
    (orderly : database.Orderly) (built : record.build database = (.ok (), made, begun)) :
    ∃ service, Erected database begun made service := by
  have build := build_eq orderly record
  rw [built] at build
  cases build with
  | @completed head rest linked uuid service placements objects_eq isService named next made =>
    obtain ⟨rfl, all⟩ := made.linked linked rfl
    have builds := Database.builds_extend made.extended
    have counted : rest.length = placements.length := by
      simpa using congrArg List.length all
    -- The new attributes stand behind the others, in ascending order.
    have ascending : Ascending
        (.serviceDeclaration service uuid :: placements.flatMap Placement.attributes) := by
      have whole := builds.orderly.ascending
      simp only [Database.extend, Database.start, List.append_assoc, List.singleton_append] at whole
      exact (List.pairwise_append.mp whole).2.1
    have sublist : (service :: placements.map Placement.link).Sublist
        ((.serviceDeclaration service uuid :: placements.flatMap Placement.attributes).map
          Attribute.handle) := .cons_cons service (Placement.link_sublist placements)
    have ordered : (service :: placements.map Placement.link).Pairwise (· < ·) :=
      (List.pairwise_map.mpr ascending).sublist sublist
    have higher := (List.pairwise_cons.mp ordered).1
    refine ⟨service, rfl, next, ⟨_, builds.declared, rfl, rfl, rfl⟩, ?_, fun object member => ?_⟩
    · rw [links, List.flatMap_cons, links_zipWith counted]
      exact ordered.imp UInt16.ne_of_lt
    · rcases List.mem_cons.mp member with rfl | among
      · intro handle own
        obtain rfl : service = handle := Option.some.inj own
        exact ⟨Nat.le_of_eq next.symm, ⟨_, builds.declared, rfl⟩, fun _ => rfl⟩
      · intro handle own
        obtain ⟨source, -, placement, placed, stands, rfl⟩ := PublishedObject.mem_linked all among
        obtain rfl : placement.link = handle := Option.some.inj own
        have link : placement.link ∈ placements.map Placement.link := List.mem_map_of_mem placed
        have above := UInt16.lt_iff_toNat_lt.mp (higher _ link)
        have among := (Placement.link_sublist placements).subset link
        obtain ⟨entry, there, same⟩ := List.mem_map.mp among
        refine ⟨by omega, ⟨entry, List.mem_append_right _ there, same⟩, fun isService => ?_⟩
        have none := @PublishedObject.element?_eq_none source isService
        cases none.symm.trans stands

/-- Whether or not it ends well, building leaves the attributes that were there. -/
theorem build_extends {database : Database} (orderly : database.Orderly)
    (record : PublishedService) : Extends database (record.build database).2.2 := by
  have build := build_eq orderly record
  have added : ∀ (service : Handle) (uuid : Uuid) (placements : List Placement),
      Extends database ((database.start service uuid).extend placements) :=
    fun service uuid placements => (Database.extends_append database _ _ _).trans
      (Database.extends_append (database.start service uuid) _ _ _)
  generalize record.build database = result at build ⊢
  cases build with
  | refused => exact .refl database
  | abandoned => exact added _ _ _
  | completed => exact added _ _ _

end PublishedService

/-! ### Links -/

/-- New handles may take a place among lower ones. -/
theorem nodup_replaced {front back fresh : List Handle} {next : Nat}
    (others : (front ++ back).Nodup)
    (below : ∀ handle ∈ front ++ back, handle.toNat < next) (nodup : fresh.Nodup)
    (above : ∀ handle ∈ fresh, next ≤ handle.toNat) : (front ++ (fresh ++ back)).Nodup := by
  obtain ⟨first, second, apart⟩ := List.nodup_append.mp others
  have new : ∀ old ∈ front ++ back, ∀ handle ∈ fresh, old ≠ handle := by
    rintro old there handle added rfl
    have lower := below old there
    have higher := above old added
    omega
  refine List.nodup_append.mpr ⟨first, List.nodup_append.mpr ⟨nodup, second, ?_⟩, ?_⟩
  · intro handle added old there
    exact (new old (List.mem_append_right front there) handle added).symm
  · intro old there other member
    rcases List.mem_append.mp member with added | behind
    · exact new old (List.mem_append_left back there) other added
    · exact apart old there other behind

namespace Publications

variable {publications others : Publications} {database before after : Database}
  {client path : String} {handle service : Handle} {ledger more : List Creation}

/-- The attributes to which objects are linked. -/
def links (publications : Publications) : List Handle :=
  publications.services.flatMap PublishedService.links

/-- Among all services it is so exactly if it is in one of them. -/
theorem mem_links : handle ∈ publications.links ↔
    ∃ record ∈ publications.services, ∃ object ∈ record.objects, object.linked = some handle := by
  simp only [links, List.mem_flatMap, PublishedService.mem_links]

/-- A service that is registered has no links. -/
theorem register_links (publications : Publications) (client path : String) (token : ReplyToken) :
    (publications.register client path token).2.links = publications.links := by
  unfold register
  repeat' split
  all_goals first
    | rfl
    | simp [links, PublishedService.links]

/-- Placing an object that is not linked among others adds no link. -/
theorem flatMap_place {object : PublishedObject} (fresh : object.linked = none)
    (objects : List PublishedObject) :
    (PublishedService.place object objects).flatMap (fun object => object.linked.toList) =
      objects.flatMap fun object => object.linked.toList := by
  induction objects with
  | nil => simp [PublishedService.place, fresh]
  | cons first rest ih =>
    unfold PublishedService.place
    split
    · simp [fresh]
    · rw [List.flatMap_cons, List.flatMap_cons, ih]

/-- An object that is published adds no link, and it may take the place of one that had one. -/
theorem publish_links (publications : Publications) (client : String) {object : PublishedObject}
    (fresh : object.linked = none) :
    (publications.publish client object).2.links.Sublist publications.links := by
  unfold publish
  dsimp only
  split
  · exact .refl _
  rename_i record found
  split
  · exact .refl _
  rename_i made published
  obtain ⟨front, back, services_eq, updated, -⟩ := split_of_find? found
  have fewer : made.links.Sublist record.links := by
    unfold PublishedService.publish? at published
    split at published
    · obtain rfl := Option.some.inj published
      refine flatMap_updateFirst_sublist (fun other => ?_) record.objects
      rw [fresh]
      exact List.nil_sublist _
    · split at published
      · obtain rfl := Option.some.inj published
        show ((PublishedService.place object record.objects).flatMap _).Sublist _
        rw [flatMap_place fresh]
        exact .refl _
      · cases published
  rw [updated]
  unfold links
  rw [services_eq, List.flatMap_append, List.flatMap_append, List.flatMap_cons, List.flatMap_cons]
  exact (fewer.append_right _).append_left _

/-- Withdrawing an object gives up its link at most. -/
theorem withdraw_links (publications : Publications) (client path : String) :
    (publications.withdraw client path).2.links.Sublist publications.links := by
  refine flatMap_updateFirst_sublist (fun record => ?_) publications.services
  have fewer : (record.withdraw path).objects.Sublist record.objects := List.eraseP_sublist
  exact fewer.flatMap _

/-- A new value leaves the links alone. -/
theorem valueChanged_links [AttributeServer A] (publications : Publications) (database : Database)
    (client path : String) (value : List UInt8) (env : Environment B A) :
    (publications.valueChanged database client path value env).2.1.links.Sublist
      publications.links := by
  unfold links
  rw [valueChanged_services]
  split
  · exact .refl _
  · rename_i kept _
    refine flatMap_updateFirst_sublist (fun record => ?_) publications.services
    exact @flatMap_updateFirst_sublist _ _ (fun object : PublishedObject => object.linked.toList) _
      (fun object => { object with value := kept }) (fun _ => .refl _) record.objects

/-- Fewer services have fewer links. -/
theorem links_sublist {services : List PublishedService}
    (sublist : services.Sublist publications.services) :
    (links ⟨services⟩).Sublist publications.links :=
  sublist.flatMap _

/-! ### What is attached -/

/-- An object that is linked to an attribute belongs to a service that was built, and the attribute
was created for that service and is there. -/
def Placed (ledger : List Creation) (database : Database) (declared : Option Handle)
    (object : PublishedObject) : Prop :=
  ∀ handle, object.linked = some handle → ∃ service, declared = some service ∧
    ⟨service, handle⟩ ∈ ledger ∧ database.Holds handle ∧
      (object.interface = .service → handle = service)

/-- The objects of a service that was just built are linked to attributes of that service. -/
theorem placed_of_erected {record : PublishedService}
    (erected : PublishedService.Erected before after record service) (ordered : after.Orderly)
    (among : creations service before after ⊆ ledger) :
    ∀ object ∈ record.objects, Placed ledger after record.service object := by
  intro object member handle linked
  obtain ⟨above, holds, head⟩ := erected.fresh object member handle linked
  exact ⟨service, erected.named, among (ordered.mem_creations above holds), holds, head⟩

/-- The services that were built are there with the attributes of their objects, and no two of them
share anything. -/
structure Attached (ledger : List Creation) (database : Database) (publications : Publications) :
    Prop where
  /-- The services are on record. -/
  recorded : ∀ service ∈ publications.built, ⟨service, service⟩ ∈ ledger
  /-- Their declarations are there. -/
  begins : ∀ service ∈ publications.built, database.Begins service
  /-- They are different ones. -/
  distinct : publications.built.Nodup
  /-- Their objects are linked to attributes of theirs. -/
  placed : publications.Each (Placed ledger database)
  /-- No two objects are linked to the same attribute. -/
  unshared : publications.links.Nodup

namespace Attached

/-- Services stay attached where their attributes stay. -/
theorem retain (attached : publications.Attached ledger before) (among : ledger ⊆ more)
    (retains : ∀ service ∈ publications.built, Retains ledger service before after) :
    publications.Attached more after where
  recorded := fun service member => among (attached.recorded service member)
  begins := by
    intro service member
    have known := attached.recorded service member
    exact (retains service member).begins known (attached.begins service member)
  distinct := attached.distinct
  placed := by
    intro record member object own handle linked
    obtain ⟨service, named, known, holds, head⟩ := attached.placed record member object own handle
      linked
    have stays := retains service (mem_built.mpr ⟨record, member, named⟩)
    exact ⟨service, named, among known, stays.holds known holds, head⟩
  unshared := attached.unshared

/-- So they do where all attributes stay. -/
theorem extend (attached : publications.Attached ledger before) (among : ledger ⊆ more)
    (stays : Extends before after) : publications.Attached more after :=
  attached.retain among fun service _ => stays.retains ledger service

/-- What is left of the services is attached. -/
theorem sublist (attached : publications.Attached ledger database)
    {services : List PublishedService} (sublist : services.Sublist publications.services) :
    Attached ledger database ⟨services⟩ where
  recorded := fun service member => attached.recorded service (built_subset sublist.subset member)
  begins := fun service member => attached.begins service (built_subset sublist.subset member)
  distinct := attached.distinct.sublist (sublist.filterMap _)
  placed := attached.placed.sublist sublist
  unshared := attached.unshared.sublist (links_sublist sublist)

/-- Where the declarations are the same, objects come without links and links go. -/
theorem relink (attached : publications.Attached ledger database)
    (same : others.built = publications.built) (placed : others.Each (Placed ledger database))
    (fewer : others.links.Sublist publications.links) : others.Attached ledger database where
  recorded := same ▸ attached.recorded
  begins := same ▸ attached.begins
  distinct := same ▸ attached.distinct
  placed := placed
  unshared := attached.unshared.sublist fewer

/-- A new registration has nothing attached yet. -/
theorem register (attached : publications.Attached ledger database) (client path : String)
    (token : ReplyToken) : (publications.register client path token).2.Attached ledger database :=
  attached.relink (publications.register_built client path token)
    (attached.placed.register client path token)
    (by rw [publications.register_links client path token])

/-- An object that is published newly is not attached to anything. -/
theorem publish (attached : publications.Attached ledger database) (client : String)
    {object : PublishedObject} (fresh : object.linked = none) :
    (publications.publish client object).2.Attached ledger database := by
  have unlinked : ∀ declared, Placed ledger database declared object := by
    intro declared handle linked
    cases fresh.symm.trans linked
  exact attached.relink
    (built_of_map (publish_map (fun _ _ => rfl) publications client object))
    (attached.placed.publish client unlinked) (publications.publish_links client fresh)

/-- Withdrawing an object leaves the others attached. -/
theorem withdraw (attached : publications.Attached ledger database) (client path : String) :
    (publications.withdraw client path).2.Attached ledger database :=
  attached.relink (built_of_map (withdraw_map (fun _ _ => rfl) publications client path))
    (attached.placed.withdraw client path) (publications.withdraw_links client path)

/-- A new value changes no link. -/
theorem valueChanged [AttributeServer A] (attached : publications.Attached ledger before)
    (database : Database) (client path : String) (value : List UInt8) (env : Environment B A) :
    (publications.valueChanged database client path value env).2.1.Attached ledger before :=
  attached.relink
    (built_of_map (valueChanged_map (fun _ _ => rfl) publications database client path value env))
    (attached.placed.valueChanged (fun _ _ _ => id) database client path value env)
    (publications.valueChanged_links database client path value env)

/-- The handles of the services were given out. -/
theorem built_below (attached : publications.Attached ledger database)
    (recorded : database.Recorded ledger) :
    ∀ service ∈ publications.built, service.toNat < database.nextHandle :=
  fun service member => recorded.below _ (attached.recorded service member)

/-- So were those to which objects are linked. -/
theorem links_below (attached : publications.Attached ledger database)
    (recorded : database.Recorded ledger) :
    ∀ handle ∈ publications.links, handle.toNat < database.nextHandle := by
  intro handle member
  obtain ⟨record, registered, object, published, linked⟩ := mem_links.mp member
  obtain ⟨service, -, created, -, -⟩ := attached.placed record registered object published handle
    linked
  exact recorded.below _ created

/-- No other service has the declaration of one of them. -/
theorem apart (attached : publications.Attached ledger database)
    {front back : List PublishedService} {record : PublishedService}
    (services_eq : publications.services = front ++ record :: back) :
    ∀ service ∈ built ⟨front ++ back⟩, record.service ≠ some service := by
  intro service member named
  have distinct := attached.distinct
  rw [built, services_eq, List.filterMap_append, List.filterMap_cons, named] at distinct
  have absent := (List.nodup_cons.mp (List.nodup_middle.mp distinct)).1
  rw [built, List.filterMap_append] at member
  exact absent member

/-- What is known of the services that were built is known of each of them. -/
theorem known (attached : publications.Attached ledger database) {record : PublishedService}
    (member : record ∈ publications.services) :
    ∀ handle, record.service = some handle → ⟨handle, handle⟩ ∈ ledger :=
  fun handle named => attached.recorded handle (mem_built.mpr ⟨record, member, named⟩)

section Server

variable [AttributeServer A]

/-- A service that is given up takes its attributes with it, and the others stay attached. -/
theorem unregister (attached : publications.Attached ledger database)
    (recorded : database.Recorded ledger) (client path : String) (env : Environment B A) :
    (publications.unregister database client path env).2.1.Attached ledger
      (publications.unregister database client path env).2.2.1 := by
  unfold Publications.unregister
  split
  · exact attached
  · rename_i record found
    obtain ⟨front, back, services_eq, -, erased⟩ := split_of_find? found
    have left := attached.sublist (sublist_without services_eq)
    rw [erased]
    refine left.retain (List.Subset.refl ledger) fun service member => ?_
    exact tearDown_retains recorded (attached.known (List.mem_of_find?_eq_some found))
      (left.recorded service member) (attached.apart services_eq service member) env

/-- So do all services of a client that leaves. -/
theorem clientDisconnected (attached : publications.Attached ledger database)
    (recorded : database.Recorded ledger) (client : String) (env : Environment B A) :
    (publications.clientDisconnected database client env).2.1.Attached ledger
      (publications.clientDisconnected database client env).2.2.1 := by
  have left := attached.sublist (publications.clientDisconnected_sublist database client env)
  refine left.retain (List.Subset.refl ledger) fun service member => ?_
  have staying := publications.clientDisconnected_services database client env
  obtain ⟨other, stays, named⟩ := mem_built.mp member
  rw [staying] at stays
  obtain ⟨there, foreign⟩ := List.mem_filter.mp stays
  simp only [Publications.clientDisconnected, List.partition_eq_filter_filter]
  refine tearDownEach_retains recorded (fun record leaves => ?_)
    (left.recorded service member) (fun record leaves => ?_) env
  · exact attached.known (List.mem_filter.mp leaves).1
  · obtain ⟨present, owned⟩ := List.mem_filter.mp leaves
    obtain ⟨front, back, services_eq⟩ := List.append_of_mem present
    have different : other ≠ record := by
      rintro rfl
      simp [owned] at foreign
    have beside : other ∈ front ++ back := by
      rw [services_eq] at there
      rcases List.mem_append.mp there with before | behind
      · exact List.mem_append_left back before
      · exact List.mem_append_right front (List.mem_of_ne_of_mem different behind)
    exact attached.apart services_eq service (mem_built.mpr ⟨other, beside, named⟩)

/-- A service that was built joins the others. -/
theorem join (attached : publications.Attached ledger database)
    (recorded : database.Recorded ledger)
    {front back : List PublishedService} {record made : PublishedService}
    (services_eq : publications.services = front ++ record :: back) (ordered : after.Orderly)
    (erected : PublishedService.Erected database after made service)
    (stays : Extends database after) :
    Attached (ledger ++ creations service database after) after ⟨front ++ made :: back⟩ := by
  have left := attached.sublist (sublist_without services_eq)
  have rest : Attached (ledger ++ creations service database after) after ⟨front ++ back⟩ :=
    left.extend (List.subset_append_left _ _) stays
  have among : creations service database after ⊆ ledger ++ creations service database after :=
    List.subset_append_right _ _
  have parts {other : PublishedService} (member : other ∈ front ++ made :: back) :
      other = made ∨ other ∈ front ++ back := by
    simp only [List.mem_append, List.mem_cons] at member ⊢
    tauto
  have services : ∀ handle ∈ built ⟨front ++ made :: back⟩,
      handle = service ∨ handle ∈ built ⟨front ++ back⟩ := by
    intro handle member
    obtain ⟨other, there, named⟩ := mem_built.mp member
    rcases parts there with rfl | beside
    · exact .inl (Option.some.inj (named.symm.trans erected.named))
    · exact .inr (mem_built.mpr ⟨other, beside, named⟩)
  refine ⟨fun handle member => ?_, fun handle member => ?_, ?_, fun other member => ?_, ?_⟩
  · rcases services handle member with rfl | there
    · obtain ⟨entry, there, same, -⟩ := erected.begins
      exact among (ordered.mem_creations (Nat.le_of_eq erected.next.symm) ⟨entry, there, same⟩)
    · exact rest.recorded handle there
  · rcases services handle member with rfl | there
    · exact erected.begins
    · exact rest.begins handle there
  · have split : built ⟨front ++ back⟩ = front.filterMap PublishedService.service ++
        back.filterMap PublishedService.service := List.filterMap_append
    rw [built, List.filterMap_append, List.filterMap_cons, erected.named]
    refine nodup_replaced (split ▸ left.distinct) (split ▸ left.built_below recorded)
      (List.nodup_singleton service) ?_
    simp [erected.next]
  · rcases parts member with rfl | beside
    · exact placed_of_erected erected ordered among
    · exact rest.placed other beside
  · have split : links ⟨front ++ back⟩ = front.flatMap PublishedService.links ++
        back.flatMap PublishedService.links := List.flatMap_append
    rw [links, List.flatMap_append, List.flatMap_cons]
    refine nodup_replaced (split ▸ left.unshared) (split ▸ left.links_below recorded)
      erected.unshared fun handle member => ?_
    obtain ⟨object, there, linked⟩ := PublishedService.mem_links.mp member
    exact (erected.fresh object there handle linked).1

/-- A service that could not be built goes, and what was built for it is taken down. -/
theorem drop (attached : publications.Attached ledger database)
    (recorded : database.Recorded ledger)
    {front back : List PublishedService} {record source made : PublishedService}
    (services_eq : publications.services = front ++ record :: back)
    {outcome : Except Error Unit} {begun : Database}
    (built : source.build database = (outcome, made, begun))
    (same : source.service = record.service)
    (next : service = UInt16.ofNat database.nextHandle) (env : Environment B A) :
    Attached (ledger ++ creations service database (tearDown made begun env).1)
      (tearDown made begun env).1 ⟨front ++ back⟩ := by
  have orderly := recorded.orderly
  have left := attached.sublist (sublist_without services_eq)
  have present : record ∈ publications.services :=
    services_eq ▸ List.mem_append_right front List.mem_cons_self
  have stays := PublishedService.build_extends orderly source
  obtain ⟨changes, named⟩ := PublishedService.build_changes orderly source next
  rw [built] at stays changes named
  have halfway := Database.Changes.recorded changes recorded
  refine left.retain (List.subset_append_left _ _) fun other member => ?_
  have kept := left.recorded other member
  -- The service that is taken down was built before, or it was begun just now.
  have foreign : ∀ handle, made.service = some handle →
      ⟨handle, handle⟩ ∈ ledger ++ creations service database begun ∧ handle ≠ other := by
    intro handle own
    rcases named with before | ⟨fresh, grows⟩
    · have was : record.service = some handle := by rw [← same, ← before, own]
      refine ⟨List.mem_append_left _ (attached.known present handle was), ?_⟩
      rintro rfl
      exact attached.apart services_eq handle member was
    · obtain rfl := Option.some.inj (fresh.symm.trans own)
      have created := Database.first_mem_creations halfway.orderly.counted grows next
      refine ⟨List.mem_append_right _ created, ?_⟩
      rintro rfl
      have above := ((mem_creations halfway.orderly.counted).mp created).2.1
      exact Nat.not_lt.mpr above (recorded.below _ kept)
  have first : Retains ledger other database begun := stays.retains ledger other
  exact first.trans (tearDown_retains halfway (fun handle own => (foreign handle own).1)
    (List.mem_append_left _ kept) (fun own => (foreign other own).2 rfl) env)
    (List.subset_append_left _ _)

/-- When a client is ready its service joins the others, or it goes. -/
theorem clientReady [MessageBus B] (attached : publications.Attached ledger database)
    (recorded : database.Recorded ledger) (next : service = UInt16.ofNat database.nextHandle)
    (env : Environment B A) :
    (publications.clientReady database client path env).2.1.Attached
      (ledger ++ creations service database
        (publications.clientReady database client path env).2.2.1)
      (publications.clientReady database client path env).2.2.1 := by
  have orderly := recorded.orderly
  have changes : Database.Changes service database
      (publications.clientReady database client path env).2.2.1 :=
    (clientReady_changes orderly next env).1
  have ordered := changes.orderly orderly
  have readied := publications.clientReady_readied database client path env
  generalize publications.clientReady database client path env = result at readied ordered ⊢
  cases readied with
  | ignored => exact attached.extend (List.subset_append_left _ _) (.refl database)
  | dropped found waits services_eq built =>
    exact attached.drop recorded services_eq built rfl next env
  | @built front back record made token begun found waits services_eq built enrolled =>
    obtain ⟨begins, erected⟩ := PublishedService.build_erected orderly built
    have stays := PublishedService.build_extends orderly { record with registration := none }
    rw [built] at stays
    have registered := begun.materialize_extends (env.sendReply token .done).2
    obtain rfl : begins = service := by rw [next, ← erected.next, UInt16.ofNat_toNat]
    exact attached.join recorded services_eq ordered (erected.extend registered)
      (stays.trans registered)

end Server

end Attached

end Publications

end BluetoothHost
