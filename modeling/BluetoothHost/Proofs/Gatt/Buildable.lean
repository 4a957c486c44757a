import BluetoothHost.Proofs.Gatt.Additions
import BluetoothHost.Proofs.Gatt.Readiness

/-!
# Services that can be built

A service can be built if its first object is that of the service, every other object stands for an
element, and places, handles and chain suffice for all of them. If moreover no descriptor leads, an
obliging server registers all of it. So the calls that are made when its client is ready can be told
from the objects: the registration is answered, the service and then each element is registered, in
the order of the objects, and peers are told.
-/

namespace BluetoothHost

variable {B A : Type}

/-! ### Objects and elements -/

/-- An object stands for an element if it has a UUID and is a descriptor, or a characteristic whose
flags are not unusable. -/
theorem PublishedObject.element?_isSome_iff {object : PublishedObject} :
    object.element?.isSome = true ↔ object.uuid.isSome = true ∧ object.interface ≠ .service ∧
      (object.interface = .characteristic → object.flags ≠ .unusable) := by
  obtain ⟨path, interface, uuid, flags, value, linked⟩ := object
  unfold element? properties
  cases uuid <;> cases interface <;> cases flags <;> simp

/-- It stands for a characteristic with its own UUID and properties. -/
theorem PublishedObject.element?_eq_characteristic_iff {object : PublishedObject} {uuid : Uuid}
    {properties : CharacteristicProperties} {permissions : Permissions} :
    object.element? = some (.characteristic uuid properties permissions) ↔
      object.interface = .characteristic ∧ object.uuid = some uuid ∧
        object.properties = .ok properties ∧ permissions = .ofProperties properties := by
  unfold element?
  split
  · rename_i isCharacteristic named usable
    simp only [isCharacteristic, named, usable, Option.some.injEq, Element.characteristic.injEq,
      Except.ok.injEq, true_and]
    constructor
    · rintro ⟨rfl, rfl, rfl⟩
      exact ⟨rfl, rfl, rfl⟩
    · rintro ⟨rfl, rfl, rfl⟩
      exact ⟨rfl, rfl, rfl⟩
  · rename_i isDescriptor named
    simp [isDescriptor]
  · rename_i useless
    constructor
    · intro none
      cases none
    · rintro ⟨isCharacteristic, named, usable, -⟩
      exact (useless uuid properties isCharacteristic named usable).elim

/-- Or for a descriptor with its own UUID. -/
theorem PublishedObject.element?_eq_descriptor_iff {object : PublishedObject} {uuid : Uuid}
    {permissions : Permissions} :
    object.element? = some (.descriptor uuid permissions) ↔
      object.interface = .descriptor ∧ object.uuid = some uuid ∧ permissions = .both := by
  obtain ⟨path, interface, known, flags, value, linked⟩ := object
  unfold element? properties
  cases known <;> cases interface <;> cases flags <;> simp [eq_comm]

/-- Objects stand for elements if each stands for one. -/
theorem exists_elements {objects : List PublishedObject}
    (known : ∀ object ∈ objects, object.element?.isSome = true) :
    ∃ elements : List Element, objects.map PublishedObject.element? = elements.map some := by
  induction objects with
  | nil => exact ⟨[], rfl⟩
  | cons object rest ih =>
    obtain ⟨own, others⟩ := List.forall_mem_cons.mp known
    obtain ⟨element, stands⟩ := Option.isSome_iff_exists.mp own
    obtain ⟨elements, all⟩ := ih others
    exact ⟨element :: elements, congrArg₂ List.cons stands all⟩

/-! ### Room -/

/-- The number of attributes that are built for an object with an interface. -/
def GattInterface.attributeCount : GattInterface → Nat
  | characteristic => 2
  | service | descriptor => 1

/-- These are those of the element that the object stands for. -/
theorem PublishedObject.attributeCount_of_element? {object : PublishedObject} {element : Element}
    (known : object.element? = some element) :
    object.interface.attributeCount = element.attributeCount := by
  cases element with
  | characteristic uuid properties permissions =>
    rw [(element?_eq_characteristic_iff.mp known).1]
    rfl
  | descriptor uuid permissions =>
    rw [(element?_eq_descriptor_iff.mp known).1]
    rfl

/-- The number of attributes that are built for objects. -/
def attributesFor (objects : List PublishedObject) : Nat :=
  ((objects.map PublishedObject.interface).map GattInterface.attributeCount).sum

/-- An object of a service takes one, for its declaration. -/
theorem attributesFor_cons_service {object : PublishedObject}
    (isService : object.interface = .service) (rest : List PublishedObject) :
    attributesFor (object :: rest) = 1 + attributesFor rest := by
  rw [attributesFor, List.map_cons, isService]
  rfl

namespace Database

variable {database : Database} {count more : Nat}

/-- An element is added exactly if its attributes have room. -/
theorem add_isOk_iff (database : Database) (element : Element) :
    (database.add element).1.isOk = true ↔ database.Extensible element.attributeCount := by
  cases element with
  | characteristic uuid properties permissions =>
    exact database.addCharacteristic_isOk_iff uuid properties permissions
  | descriptor uuid permissions => exact database.addDescriptor_isOk_iff uuid permissions

/-- Room for more is room for fewer. -/
theorem Extensible.mono (room : database.Extensible more) (fewer : count ≤ more) :
    database.Extensible count := by
  obtain ⟨building, listed, places, handles⟩ := room
  exact ⟨building, by omega, by omega, by omega⟩

/-- An element that was placed leaves the rest of the room. -/
theorem Extensible.extend {placement : Placement}
    (room : database.Extensible (placement.element.attributeCount + more)) :
    (database.extend [placement]).Extensible more := by
  obtain ⟨building, listed, places, handles⟩ := room
  obtain ⟨attributes, nodes⟩ := placement.length_attributes
  refine ⟨?_, ?_, ?_, ?_⟩
  · exact List.append_ne_nil_of_left_ne_nil building _
  · simp only [Database.extend, List.flatMap_singleton, List.length_append, nodes]
    omega
  · unfold size at places
    simp only [size, Database.extend, List.flatMap_singleton, List.length_append, attributes]
    omega
  · simp only [Database.extend, List.flatMap_singleton, nodes]
    omega

/-- A service that was begun leaves the room for its other attributes. -/
theorem start_extensible (listed : 1 + more ≤ Limits.chain)
    (room : database.Accommodates (1 + more)) (service : Handle) (uuid : Uuid) :
    (database.start service uuid).Extensible more := by
  obtain ⟨places, handles⟩ := room
  refine ⟨List.cons_ne_nil _ _, listed, ?_, ?_⟩
  · rw [size, start, List.length_append, Nat.add_assoc]
    exact places
  · rw [start, Nat.add_assoc]
    exact handles

end Database

namespace PublishedService

open Database (Extensible)

variable {database : Database} {record : PublishedService}

/-- Objects that all stand for elements are built if there is room for them. -/
theorem buildObjects_ok (orderly : database.Orderly) {objects : List PublishedObject}
    (known : ∀ object ∈ objects, object.element?.isSome = true)
    (room : database.Extensible (attributesFor objects)) :
    ∃ linked after, buildObjects objects database = (.ok linked, after) := by
  induction objects generalizing database with
  | nil => exact ⟨[], database, rfl⟩
  | cons object rest ih =>
    obtain ⟨own, others⟩ := List.forall_mem_cons.mp known
    obtain ⟨element, stands⟩ := Option.isSome_iff_exists.mp own
    have total : attributesFor (object :: rest) = element.attributeCount + attributesFor rest := by
      rw [← PublishedObject.attributeCount_of_element? stands]
      rfl
    rw [total] at room
    have asked := buildObject_eq object database
    rw [stands] at asked
    dsimp only at asked
    have added := (database.add_isOk_iff element).mpr (room.mono (Nat.le_add_right _ _))
    rcases Database.add_cases orderly element with ⟨cause, refused⟩ |
      ⟨placement, rfl, -, taken, extended⟩
    · rw [refused] at added
      cases added
    · obtain ⟨linked, after, built⟩ := ih extended.orderly others room.extend
      refine ⟨{ object with linked := some placement.link } :: linked, after, ?_⟩
      rw [buildObjects, asked, taken]
      dsimp only
      rw [built]

/-- The objects of a service say what it is to be built of: the first is its own, and each of the
others stands for an element. -/
structure Describes (record : PublishedService) (uuid : Uuid) (elements : List Element) : Prop where
  /-- The first object is that of the service, with its UUID. -/
  head : ∃ object, record.objects.head? = some object ∧ object.interface = .service ∧
    object.path = record.path ∧ object.uuid = some uuid
  /-- These are the elements. -/
  tail : record.objects.tail.map PublishedObject.element? = elements.map some

/-- The elements are in order unless a descriptor leads. -/
theorem Describes.ordered {uuid : Uuid} {elements : List Element}
    (describes : record.Describes uuid elements) (follows : ¬record.LeadsWithDescriptor) :
    Ordered elements := by
  intro element first
  obtain ⟨rest, rfl⟩ := List.head?_eq_some_iff.mp first
  obtain ⟨object, behind, tail_eq, known, -⟩ := List.map_eq_cons_iff.mp describes.tail
  have second : record.objects[1]? = some object := by
    rw [← List.getElem?_tail, tail_eq]
    rfl
  have kind := PublishedObject.isDescriptor_of_element? known
  exact Bool.eq_false_iff.mpr fun descriptor => follows ⟨object, second, kind.mp descriptor⟩

/-- There are places and handles for all attributes of a service, and the chain can list them. -/
def FitsInto (record : PublishedService) (database : Database) : Prop :=
  attributesFor record.objects ≤ Limits.chain ∧
    database.Accommodates (attributesFor record.objects)

/-- Whether there is room for a service can be computed. -/
instance (record : PublishedService) (database : Database) : Decidable (record.FitsInto database) :=
  inferInstanceAs (Decidable (_ ≤ _ ∧ _ ≤ _ ∧ _ ≤ _))

variable {uuid : Uuid} {elements : List Element}

/-- A service that is described is built of exactly these elements, if it fits. -/
theorem Describes.build_ok (describes : record.Describes uuid elements)
    (fits : record.FitsInto database) (orderly : database.Orderly) :
    ∃ service placements made, placements.map Placement.element = elements ∧
      record.build database = (.ok (), made, (database.start service uuid).extend placements) ∧
      Database.Builds service uuid placements
        ((database.start service uuid).extend placements) := by
  obtain ⟨⟨head, first, isService, placed, named⟩, others⟩ := describes
  obtain ⟨listed, room⟩ := fits
  obtain ⟨rest, objects_eq⟩ : ∃ rest, record.objects = head :: rest :=
    ⟨record.objects.tail, List.eq_cons_of_mem_head? first⟩
  rw [objects_eq, List.tail_cons] at others
  rw [objects_eq, attributesFor_cons_service isService] at listed room
  have known : ∀ object ∈ rest, object.element?.isSome = true := by
    intro object member
    have stands := List.mem_map_of_mem (f := PublishedObject.element?) member
    rw [others] at stands
    obtain ⟨element, -, same⟩ := List.mem_map.mp stands
    rw [← same]
    rfl
  have granted : (database.addService uuid).1.isOk = true := by
    obtain ⟨places, handles⟩ := room
    exact (database.addService_isOk_iff uuid).mpr ⟨by omega, by omega⟩
  rcases Database.addService_eq orderly uuid with ⟨cause, refused⟩ | ⟨service, next, added⟩
  · rw [refused] at granted
    cases granted
  · change database.addService uuid = (.ok service, database.start service uuid) at added
    have begun : Database.Change service database (database.start service uuid) := .begun next
    have started := begun.orderly orderly
    have further := Database.start_extensible listed room service uuid
    obtain ⟨linked, after, built⟩ := buildObjects_ok started known further
    obtain ⟨placements, from_rest⟩ := buildObjects_builtFrom started rest
    rw [built] at from_rest
    obtain ⟨after_eq, extended, -, -, all⟩ := from_rest
    obtain rfl : after = (database.start service uuid).extend placements := after_eq
    refine ⟨service, placements, { record with
      service := some service
      objects := { head with linked := some service } :: linked }, ?_, ?_,
      Database.builds_extend extended⟩
    · have same := (all linked rfl).2.symm.trans others
      change placements.map (some ∘ Placement.element) = _ at same
      rw [← List.map_map] at same
      exact List.map_injective_iff.mpr (fun _ _ => Option.some.inj) same
    · rw [build, objects_eq]
      dsimp only
      rw [named]
      dsimp only
      rw [if_pos ⟨isService, placed⟩, added]
      dsimp only
      rw [built]

end PublishedService

namespace Publications

variable [AttributeServer A] [MessageBus B] {publications : Publications} {client path : String}
  {database : Database} {record : PublishedService} {token : ReplyToken} {uuid : Uuid}
  {elements : List Element}

/-- When a client is ready whose service is described and fits, its registration is answered with
success. Then the service and its elements are registered with an obliging server, unless a
descriptor leads, under a size that is what they need, and peers are told. -/
theorem clientReady_registers (orderly : database.Orderly) (obliging : Obliging A)
    (found : publications.services.find? (PublishedService.isRegistration client path) =
      some record)
    (waits : record.registration = some token) (describes : record.Describes uuid elements)
    (follows : ¬record.LeadsWithDescriptor) (fits : record.FitsInto database)
    (env : Environment B A) :
    ∃ accepted size start answers calls range middle after final last,
      publications.clientReady database client path env = (.ok (), after, final, last) ∧
      env.Makes (.reply token .done accepted :: .registerService uuid size (some start) :: calls)
        middle ∧
      Registers start none elements answers calls ∧
      size.toNat = 1 + handlesNeeded elements ∧
      middle.Makes (database.announcements range middle.server) last := by
  have unanswered : { record with registration := none }.Describes uuid elements :=
    ⟨describes.head, describes.tail⟩
  obtain ⟨service, placements, made, rfl, built, builds⟩ := unanswered.build_ok fits orderly
  obtain ⟨start, answers, calls, last, middle, registers, makes, -, materialized⟩ :=
    builds.materialize_ordered obliging (describes.ordered follows) (env.sendReply token .done).2
  have readied : publications.clientReady database client path env = (.ok (),
      ⟨updateFirst (PublishedService.isRegistration client path) (fun _ => made)
        publications.services⟩,
      ((database.start service uuid).extend placements).registered service ⟨start, last⟩,
      database.announce ⟨start, last⟩ middle) := by
    unfold clientReady
    dsimp only
    rw [found]
    dsimp only
    rw [waits]
    dsimp only
    rw [built]
    dsimp only
    rw [materialized]
    rfl
  have replied := env.sendReply_makes token .done
  exact ⟨_, _, start, answers, calls, ⟨start, last⟩, middle, _, _, _, readied,
    replied.append makes, registers, builds.toNat_tableSize,
    database.announce_makes ⟨start, last⟩ middle⟩

end Publications

end BluetoothHost
