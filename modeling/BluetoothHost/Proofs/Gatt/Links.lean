import BluetoothHost.Proofs.Gatt.Construction
import BluetoothHost.Proofs.Gatt.Readiness

/-!
# The attributes of published objects

An object that was built is linked to an attribute by its handle. Handles are never given out twice
and types never change, so for as long as the attribute is there it has the type under which the
object was published, whatever happens to other services.
-/

namespace BluetoothHost

variable {B A : Type}

/-- An object that is linked to an attribute has a UUID, and the attribute, if it is still there,
has that type. The object of a service is published under the UUID of the service instead. -/
def PublishedObject.Fits (database : Database) (object : PublishedObject) : Prop :=
  ∀ handle, object.linked = some handle → object.uuid.isSome = true ∧
    handle.toNat < database.nextHandle ∧
    (object.interface ≠ .service → ∀ entry ∈ database.attributes, entry.handle = handle →
      object.uuid = some entry.type)

namespace PublishedObject

variable {database before after : Database} {object other : PublishedObject} {service : Handle}

/-- An object that was not built fits. -/
theorem fits_of_unlinked (unlinked : object.linked = none) : object.Fits database := by
  intro handle linked
  cases unlinked.symm.trans linked

/-- An object goes on fitting whatever happens to the database. -/
theorem Fits.changes (fits : object.Fits before) (changes : Database.Changes service before after) :
    object.Fits after := by
  intro handle linked
  obtain ⟨named, given, typed⟩ := fits handle linked
  refine ⟨named, Nat.lt_of_lt_of_le given (Database.Changes.nextHandle_le changes), ?_⟩
  rintro own entry member rfl
  obtain ⟨old, there, same⟩ := Database.Changes.old changes member given
  have handles : old.handle = entry.handle := congrArg Prod.fst same
  have types : old.type = entry.type := congrArg (fun frame => frame.2.1) same
  rw [typed own old there handles, types]

/-- An object that was built fits the attribute that was built for it. -/
theorem fits_linkedTo (orderly : database.Orderly) {placement : Placement}
    (stored : placement.attributes ⊆ database.attributes)
    (stands : object.element? = some placement.element) :
    (object.linkedTo placement).Fits database := by
  obtain ⟨own, member, named, typed⟩ : ∃ own ∈ placement.attributes,
      own.handle = placement.link ∧ object.uuid = some own.type := by
    obtain ⟨handle, element⟩ := placement
    unfold element? at stands
    split at stands
    · rename_i uuid properties _ named _
      obtain rfl := Option.some.inj stands
      exact ⟨_, List.mem_cons_of_mem _ (List.mem_singleton_self _), rfl, named⟩
    · rename_i uuid _ named
      obtain rfl := Option.some.inj stands
      exact ⟨_, List.mem_singleton_self _, rfl, named⟩
    · cases stands
  rintro handle linked
  obtain rfl : placement.link = handle := Option.some.inj linked
  have there := stored member
  have called : (object.linkedTo placement).uuid.isSome = true := by
    rw [linkedTo, typed]
    rfl
  refine ⟨called, named ▸ orderly.below own there, fun _ entry present same => ?_⟩
  rwa [orderly.ascending.eq_of_handle present there (same.trans named.symm)]

end PublishedObject

/-- An object that was linked comes from one that stands for the element of its placement. -/
theorem PublishedObject.mem_linked {objects : List PublishedObject} {placements : List Placement}
    (all : objects.map element? = placements.map fun placement => some placement.element)
    {object : PublishedObject} (member : object ∈ List.zipWith linkedTo objects placements) :
    ∃ source ∈ objects, ∃ placement ∈ placements,
      source.element? = some placement.element ∧ object = source.linkedTo placement := by
  obtain ⟨index, present⟩ := List.mem_iff_getElem?.mp member
  obtain ⟨source, placement, from_objects, placed, same⟩ :=
    List.getElem?_zipWith_eq_some.mp present
  have stands := congrArg (fun elements => elements[index]?) all
  simp only [List.getElem?_map, from_objects, placed, Option.map_some] at stands
  exact ⟨source, List.mem_of_getElem? from_objects, placement, List.mem_of_getElem? placed,
    Option.some.inj stands, same.symm⟩

/-- The objects of a service that was built fit. -/
theorem PublishedService.build_fits {database begun : Database} {record made : PublishedService}
    (orderly : database.Orderly) (built : record.build database = (.ok (), made, begun)) :
    ∀ object ∈ made.objects, object.Fits begun := by
  have build := build_eq orderly record
  rw [built] at build
  cases build with
  | @completed head rest linked uuid service placements objects_eq isService named next made =>
    have builds := Database.builds_extend made.extended
    intro object member
    rcases List.mem_cons.mp member with rfl | among
    · rintro handle own
      obtain rfl : service = handle := Option.some.inj own
      exact ⟨Option.isSome_of_eq_some named, builds.orderly.below _ builds.declared,
        fun other => absurd isService other⟩
    · obtain ⟨rfl, all⟩ := made.linked linked rfl
      obtain ⟨source, -, placement, placed, stands, rfl⟩ := PublishedObject.mem_linked all among
      exact PublishedObject.fits_linkedTo builds.orderly (builds.stored placement placed) stands

/-- What is among the objects after one more was placed is that one or was there. -/
theorem PublishedService.mem_place {object other : PublishedObject}
    {objects : List PublishedObject} (member : other ∈ place object objects) :
    other = object ∨ other ∈ objects := by
  induction objects with
  | nil => exact .inl (List.mem_singleton.mp member)
  | cons first rest ih =>
    unfold place at member
    split at member
    · exact List.mem_cons.mp member
    · rcases List.mem_cons.mp member with same | further
      · exact .inr (by simp [same])
      · exact (ih further).imp_right (List.mem_cons_of_mem first)

namespace Publications

variable {publications : Publications} {database before after : Database} {client path : String}

/-! ### What holds of all objects -/

/-- Something holds of every object of every service, given the declaration of the service. -/
def Each (holds : Option Handle → PublishedObject → Prop) (publications : Publications) : Prop :=
  ∀ record ∈ publications.services, ∀ object ∈ record.objects, holds record.service object

namespace Each

variable {holds : Option Handle → PublishedObject → Prop}

/-- What holds of every object holds with fewer services. -/
theorem sublist {services : List PublishedService} (each : publications.Each holds)
    (sublist : services.Sublist publications.services) : Each holds ⟨services⟩ :=
  fun record member => each record (sublist.subset member)

/-- One service is replaced by another. -/
theorem updateFirst {test : PublishedService → Bool}
    {change : PublishedService → PublishedService} (each : publications.Each holds)
    (changed : ∀ record ∈ publications.services, test record = true →
      ∀ object ∈ (change record).objects, holds (change record).service object) :
    Each holds ⟨BluetoothHost.updateFirst test change publications.services⟩ := by
  intro record member
  rcases mem_updateFirst member with before | ⟨old, present, passed, rfl⟩
  · exact each record before
  · exact changed old present passed

/-- A service that is registered has no objects. -/
theorem register (each : publications.Each holds) (client path : String) (token : ReplyToken) :
    (publications.register client path token).2.Each holds := by
  unfold Publications.register
  repeat' split
  all_goals first
    | exact each
    | skip
  intro record member
  rcases List.mem_append.mp member with before | new
  · exact each record before
  · rw [List.mem_singleton.mp new]
    exact fun object none => nomatch none

/-- An object that is published is new to its service, or it was there. -/
theorem publish (each : publications.Each holds) (client : String) {object : PublishedObject}
    (fresh : ∀ service, holds service object) :
    (publications.publish client object).2.Each holds := by
  unfold Publications.publish
  dsimp only
  split
  · exact each
  rename_i record found
  have present := List.mem_of_find?_eq_some found
  split
  · exact each
  rename_i made published
  refine each.updateFirst fun _ _ _ other member => ?_
  have among : other ∈ record.objects ∨ other = object := by
    unfold PublishedService.publish? at published
    split at published
    · obtain rfl := Option.some.inj published
      rcases mem_updateFirst member with before | ⟨_, -, -, same⟩
      · exact .inl before
      · exact .inr same
    · split at published
      · obtain rfl := Option.some.inj published
        exact (PublishedService.mem_place member).symm
      · cases published
  have declared : made.service = record.service := by
    rw [PublishedService.publish?_eq published]
  rcases among with before | rfl
  · exact declared ▸ each record present other before
  · exact fresh _

/-- It holds when an object is withdrawn. -/
theorem withdraw (each : publications.Each holds) (client path : String) :
    (publications.withdraw client path).2.Each holds := by
  refine each.updateFirst fun record member _ object own => ?_
  exact each record member object (List.eraseP_subset own)

/-- What does not depend on the value of an object stays when it has a new one. -/
theorem valueChanged [AttributeServer A] (each : publications.Each holds)
    (kept : ∀ service object value, holds service object → holds service { object with value })
    (database : Database) (client path : String) (value : List UInt8) (env : Environment B A) :
    (publications.valueChanged database client path value env).2.1.Each holds := by
  have services := publications.valueChanged_services database client path value env
  intro record member
  rw [services] at member
  split at member
  · exact each record member
  · refine each.updateFirst (fun old present _ object own => ?_) record member
    rcases mem_updateFirst own with before | ⟨earlier, there, -, rfl⟩
    · exact each old present object before
    · exact kept _ earlier _ (each old present earlier there)

end Each

/-! ### All objects fit -/

/-- All objects fit. -/
def Fits (database : Database) (publications : Publications) : Prop :=
  ∀ record ∈ publications.services, ∀ object ∈ record.objects, object.Fits database

/-- Services fit a database if every object does. -/
theorem Fits.each (fits : publications.Fits database) :
    publications.Each fun _ object => object.Fits database := fits

/-- Changes of the database keep the objects fitting. -/
theorem Fits.changes {service : Handle} (fits : publications.Fits before)
    (changes : Database.Changes service before after) : publications.Fits after :=
  fun record member object own => (fits record member object own).changes changes

/-- An object that was built has a UUID, and that is the type of its attribute. -/
theorem Fits.object? {object : PublishedObject} {handle : Handle}
    (fits : publications.Fits database)
    (known : publications.object? client path = some object)
    (built : object.linked = some handle) :
    ∃ uuid, object.uuid = some uuid ∧ (object.interface ≠ .service →
      ∀ entry ∈ database.attributes, entry.handle = handle → uuid = entry.type) := by
  obtain ⟨record, found, own⟩ := Option.bind_eq_some_iff.mp known
  obtain ⟨named, -, typed⟩ := fits record (List.mem_of_find?_eq_some found) object
    (List.mem_of_find?_eq_some own) handle built
  obtain ⟨uuid, is⟩ := Option.isSome_iff_exists.mp named
  refine ⟨uuid, is, fun isServed entry member same => ?_⟩
  exact Option.some.inj (is.symm.trans (typed isServed entry member same))

section Server

variable [AttributeServer A]

/-- What was built for a client fits. -/
theorem Fits.clientReady [MessageBus B] (fits : publications.Fits database)
    (orderly : database.Orderly) (env : Environment B A) :
    (publications.clientReady database client path env).2.1.Fits
      (publications.clientReady database client path env).2.2.1 := by
  have old : publications.Fits (publications.clientReady database client path env).2.2.1 :=
    fits.changes (clientReady_changes orderly rfl env).1
  have readied := publications.clientReady_readied database client path env
  generalize publications.clientReady database client path env = result at old readied ⊢
  cases readied with
  | ignored => exact old
  | dropped found waits services_eq built =>
    exact old.each.sublist (sublist_without services_eq)
  | @built _ _ _ made token begun found waits services_eq built enrolled =>
    have registered : Database.Change 0 begun
        (begun.materialize (env.sendReply token .done).2).2.1 :=
      Database.materialize_change 0 begun _
    intro record member object own
    rcases mem_replaced services_eq member with rfl | there
    · exact (PublishedService.build_fits orderly built object own).changes (.single registered)
    · exact old record there object own

end Server

end Publications

namespace Catalogue

variable {catalogue : Catalogue}

/-- What the links of a catalogue are known to be. -/
structure Linked (catalogue : Catalogue) : Prop where
  /-- The handles are in order. -/
  orderly : catalogue.database.Orderly
  /-- Objects fit their attributes. -/
  fits : catalogue.publications.Fits catalogue.database

/-- A client publishes no object as built already. -/
def Action.IsGenuine : Action B A → Prop
  | .publish _ object => object.linked = none
  | _ => True

/-- No service is removed from within the process. -/
def Action.SparesServices : Action B A → Prop
  | .removeService _ => False
  | _ => True

/-- In a fresh catalogue there are no links. -/
theorem linked_fresh (first : Handle) (announces : Bool) : (fresh first announces).Linked :=
  ⟨Database.orderly_fresh first announces, nofun⟩

/-- Every action keeps the links. -/
theorem perform_linked [MessageBus B] [AttributeServer A] (linked : catalogue.Linked)
    {action : Action B A} (genuine : action.IsGenuine) (env : Environment B A) :
    (catalogue.perform action env).1.Linked := by
  have changes := perform_changes linked.orderly action env
  refine ⟨changes.orderly linked.orderly, ?_⟩
  have kept := linked.fits.changes changes
  obtain ⟨database, publications⟩ := catalogue
  cases action with
  | register client path token => exact kept.each.register client path token
  | unregister client path =>
    exact kept.each.sublist (publications.unregister_sublist database client path env)
  | publish client object =>
    exact kept.each.publish client fun _ => PublishedObject.fits_of_unlinked genuine
  | withdraw client path => exact kept.each.withdraw client path
  | clientReady client path => exact linked.fits.clientReady linked.orderly env
  | valueChanged client path value =>
    have valued : Publications.Fits database _ :=
      linked.fits.each.valueChanged (fun _ _ _ => id) database client path value env
    exact valued.changes changes
  | clientDisconnected client =>
    exact kept.each.sublist (publications.clientDisconnected_sublist database client env)
  | _ => exact kept

end Catalogue

end BluetoothHost
