import BluetoothHost.Proofs.Gatt.Change

/-!
# Services under construction

A service is begun with its declaration, and then elements are added to it, each of which gets the
next handles. So the elements and the handles at which they were placed say all that was done: the
attributes stand one behind the other at the end of the database, and the chain lists them in the
same order. A client's service is built by adding the elements that its objects stand for.
-/

namespace BluetoothHost

/-- What can be added to a service under construction. -/
inductive Element
  /-- A characteristic with its value. -/
  | characteristic (uuid : Uuid) (properties : CharacteristicProperties)
      (permissions : Permissions)
  /-- A descriptor. -/
  | descriptor (uuid : Uuid) (permissions : Permissions)
deriving DecidableEq

/-- The number of attributes of an element. -/
def Element.attributeCount : Element → Nat
  | characteristic _ _ _ => 2
  | descriptor _ _ => 1

/-- An element with the first of the handles that it got. -/
structure Placement where
  /-- The handle. -/
  handle : Handle
  /-- The element. -/
  element : Element
deriving DecidableEq

namespace Placement

/-- The attributes of a placed element. -/
def attributes : Placement → List Attribute
  | ⟨handle, .characteristic uuid properties permissions⟩ =>
    [.characteristicDeclaration handle properties (handle + 1) uuid,
      .served (handle + 1) uuid permissions]
  | ⟨handle, .descriptor uuid permissions⟩ => [.served handle uuid permissions]

/-- Its part of the chain. -/
def nodes : Placement → List Node
  | ⟨handle, .characteristic _ _ _⟩ => [⟨handle, .declaration⟩, ⟨handle + 1, .value⟩]
  | ⟨handle, .descriptor _ _⟩ => [⟨handle, .descriptor⟩]

/-- The attribute by which the element is known: its value, or the descriptor itself. -/
def link : Placement → Handle
  | ⟨handle, .characteristic _ _ _⟩ => handle + 1
  | ⟨handle, .descriptor _ _⟩ => handle

/-- A placed element has one handle for each attribute. -/
theorem length_attributes (placement : Placement) :
    placement.attributes.length = placement.element.attributeCount ∧
      placement.nodes.length = placement.element.attributeCount := by
  obtain ⟨handle, element⟩ := placement
  cases element with
  | characteristic => exact ⟨rfl, rfl⟩
  | descriptor => exact ⟨rfl, rfl⟩

/-- Elements were placed one behind the other, from a number on. -/
def Consecutive : (next : Nat) → List Placement → Prop
  | _, [] => True
  | next, placement :: rest =>
    placement.handle.toNat = next ∧ Consecutive (next + placement.element.attributeCount) rest

/-- None of them has a lower handle. -/
theorem Consecutive.le_handle {next : Nat} {placements : List Placement}
    (consecutive : Consecutive next placements) {placement : Placement}
    (member : placement ∈ placements) : next ≤ placement.handle.toNat := by
  induction placements generalizing next with
  | nil => cases member
  | cons first rest ih =>
    obtain ⟨here, further⟩ := consecutive
    rcases List.mem_cons.mp member with rfl | later
    · exact Nat.le_of_eq here.symm
    · exact Nat.le_trans (Nat.le_add_right _ _) (ih further later)

end Placement

namespace Database

/-- The database with a service begun at a handle. -/
def start (database : Database) (service : Handle) (uuid : Uuid) : Database :=
  { database with
    attributes := database.attributes ++ [.serviceDeclaration service uuid]
    chain := [⟨service, .service⟩]
    nextHandle := database.nextHandle + 1 }

/-- The database with placed elements at the end. -/
def extend (database : Database) (placements : List Placement) : Database :=
  { database with
    attributes := database.attributes ++ placements.flatMap Placement.attributes
    chain := database.chain ++ placements.flatMap Placement.nodes
    nextHandle := database.nextHandle + (placements.flatMap Placement.nodes).length }

/-- Add an element to the service under construction. -/
def add (database : Database) : Element → Except Error Handle × Database
  | .characteristic uuid properties permissions =>
    database.addCharacteristic uuid properties permissions
  | .descriptor uuid permissions => database.addDescriptor uuid permissions

/-- Add elements one after the other, as long as none is refused. -/
def addAll (database : Database) : List Element → Option Database
  | [] => some database
  | element :: rest =>
    match database.add element with
    | (.error _, _) => none
    | (.ok _, database) => database.addAll rest

variable {database after : Database} {service : Handle}

/-- Where nothing is placed the database is the same. -/
@[simp] theorem extend_nil (database : Database) : database.extend [] = database := by
  simp [extend]

/-- An element takes as many handles as it has attributes. -/
theorem nextHandle_extend (database : Database) (placement : Placement) :
    (database.extend [placement]).nextHandle =
      database.nextHandle + placement.element.attributeCount := by
  rw [extend, List.flatMap_singleton, List.flatMap_singleton, placement.length_attributes.2]

/-- What is added later stands behind what was added before. -/
theorem extend_extend (database : Database) (first second : List Placement) :
    (database.extend first).extend second = database.extend (first ++ second) := by
  simp [extend, Nat.add_assoc]

/-- What is known of a database to which elements were added: it is in order, the chain has not
become longer than it may be, and the new attributes have new handles. -/
structure Extended (before after : Database) : Prop where
  /-- The handles are in order. -/
  orderly : after.Orderly
  /-- The chain has room for all its nodes. -/
  listed : before.chain.length ≤ Limits.chain → after.chain.length ≤ Limits.chain
  /-- The counter goes on. -/
  grows : before.nextHandle ≤ after.nextHandle
  /-- What has a handle that was given out before was there before. -/
  old : ∀ entry ∈ after.attributes, entry.handle.toNat < before.nextHandle →
    entry ∈ before.attributes

/-- Nothing is added. -/
theorem Orderly.extended (orderly : database.Orderly) : database.Extended database :=
  ⟨orderly, id, Nat.le_refl _, fun _ member _ => member⟩

/-- What is added in two steps is added. -/
theorem Extended.trans {before middle after : Database} (first : Extended before middle)
    (second : Extended middle after) : Extended before after where
  orderly := second.orderly
  listed := fun room => second.listed (first.listed room)
  grows := Nat.le_trans first.grows second.grows
  old := fun entry member passed => first.old entry
    (second.old entry member (Nat.lt_of_lt_of_le passed first.grows)) passed

/-- A placed element that got the next handles. -/
theorem extended_single {placement : Placement} (change : Change service database
      (database.extend [placement]))
    (orderly : database.Orderly)
    (listed : database.chain.length + placement.nodes.length ≤ Limits.chain)
    (fresh : ∀ entry ∈ placement.attributes, database.nextHandle ≤ entry.handle.toNat) :
    Extended database (database.extend [placement]) where
  orderly := change.orderly orderly
  listed := fun _ => by simpa [extend] using listed
  grows := Nat.le_add_right _ _
  old := by
    intro entry member passed
    simp only [extend, List.flatMap_cons, List.flatMap_nil, List.append_nil] at member
    rcases List.mem_append.mp member with there | new
    · exact there
    · exact absurd passed (Nat.not_lt.mpr (fresh entry new))

/-- Adding an element is refused, or it gets the next handles. -/
theorem add_cases (orderly : database.Orderly) (element : Element) :
    (∃ cause, database.add element = (.error cause, database)) ∨
      ∃ placement : Placement, placement.element = element ∧
        placement.handle.toNat = database.nextHandle ∧
        database.add element = (.ok placement.link, database.extend [placement]) ∧
        Extended database (database.extend [placement]) := by
  cases element with
  | characteristic uuid properties permissions =>
    rcases addCharacteristic_eq orderly uuid properties permissions with ⟨cause, refused⟩ |
      ⟨handle, next, room, building, listed, added⟩
    · exact .inl ⟨cause, refused⟩
    · obtain ⟨head, rest, chain_eq⟩ := List.exists_cons_of_ne_nil building
      have change : Change head.handle database
          (database.extend [⟨handle, .characteristic uuid properties permissions⟩]) :=
        .declared chain_eq rfl next room
      refine .inr ⟨⟨handle, .characteristic uuid properties permissions⟩, rfl, next, added,
        extended_single change orderly listed ?_⟩
      simp [Placement.attributes, Attribute.characteristicDeclaration, Attribute.served,
        toNat_succ room, next]
  | descriptor uuid permissions =>
    rcases addDescriptor_eq orderly uuid permissions with ⟨cause, refused⟩ |
      ⟨handle, next, building, listed, added⟩
    · exact .inl ⟨cause, refused⟩
    · obtain ⟨head, rest, chain_eq⟩ := List.exists_cons_of_ne_nil building
      have change : Change head.handle database
          (database.extend [⟨handle, .descriptor uuid permissions⟩]) :=
        .described chain_eq rfl next
      refine .inr ⟨⟨handle, .descriptor uuid permissions⟩, rfl, next, added,
        extended_single change orderly listed ?_⟩
      simp [Placement.attributes, Attribute.served, next]

/-- Elements that were all added were placed one behind the other. -/
theorem addAll_eq (orderly : database.Orderly) {elements : List Element}
    (added : database.addAll elements = some after) :
    ∃ placements, placements.map Placement.element = elements ∧
      after = database.extend placements ∧ Extended database after := by
  induction elements generalizing database with
  | nil =>
    obtain rfl := Option.some.inj added
    exact ⟨[], rfl, (extend_nil database).symm, orderly.extended⟩
  | cons element rest ih =>
    unfold addAll at added
    rcases add_cases orderly element with ⟨cause, refused⟩ |
      ⟨placement, named, -, taken, first⟩
    · rw [refused] at added
      cases added
    · rw [taken] at added
      obtain ⟨placements, others, after_eq, further⟩ := ih first.orderly added
      refine ⟨placement :: placements, by rw [List.map_cons, named, others], ?_,
        first.trans further⟩
      rw [after_eq, extend_extend, List.singleton_append]

/-- A service that was begun at a handle is under construction, and these are its elements. -/
structure Builds (service : Handle) (uuid : Uuid) (placements : List Placement)
    (database : Database) : Prop where
  /-- The handles are in order. -/
  orderly : database.Orderly
  /-- The chain lists the service and its elements. -/
  chain_eq : database.chain = ⟨service, .service⟩ :: placements.flatMap Placement.nodes
  /-- It has room for them. -/
  listed : database.chain.length ≤ Limits.chain
  /-- The declaration of the service is there. -/
  declared : .serviceDeclaration service uuid ∈ database.attributes
  /-- So are the attributes of its elements. -/
  stored : ∀ placement ∈ placements, placement.attributes ⊆ database.attributes

/-- A service to which elements were added is under construction with these elements. -/
theorem builds_extend {uuid : Uuid} {placements : List Placement}
    (extended : Extended (database.start service uuid)
      ((database.start service uuid).extend placements)) :
    Builds service uuid placements ((database.start service uuid).extend placements) where
  orderly := extended.orderly
  chain_eq := rfl
  listed := by
    refine extended.listed ?_
    show 1 ≤ Limits.chain
    decide
  declared := by simp [start, extend]
  stored := by
    intro placement member entry there
    exact List.mem_append_right _ (List.mem_flatMap_of_mem member there)

end Database

/-! ### Building from objects -/

/-- The element that an object stands for, if it can be built. -/
def PublishedObject.element? (object : PublishedObject) : Option Element :=
  match object.interface, object.uuid, object.properties with
  | .characteristic, some uuid, .ok properties =>
    some (.characteristic uuid properties (.ofProperties properties))
  | .descriptor, some uuid, _ => some (.descriptor uuid .both)
  | _, _, _ => none

/-- The object with the attribute that was built for it. -/
def PublishedObject.linkedTo (object : PublishedObject) (placement : Placement) :
    PublishedObject :=
  { object with linked := some placement.link }

namespace PublishedService

variable {database : Database}

/-- Building an object adds the element that it stands for. -/
theorem buildObject_eq (object : PublishedObject) (database : Database) :
    buildObject object database = match object.element? with
      | none => (.error .invalidArguments, database)
      | some element => database.add element := by
  obtain ⟨path, interface, uuid, flags, value, linked⟩ := object
  cases uuid with
  | none => cases interface <;> rfl
  | some uuid =>
    cases interface with
    | service => rfl
    | descriptor => rfl
    | characteristic => cases flags <;> rfl

/-- What building objects does to a database: elements are added for the first of them, and for all
of them if nothing fails. -/
structure BuiltFrom (objects : List PublishedObject) (placements : List Placement)
    (before after : Database) (outcome : Except Error (List PublishedObject)) : Prop where
  /-- These are the elements. -/
  after_eq : after = before.extend placements
  /-- They were added in order. -/
  extended : before.Extended after
  /-- They got the handles from the counter on. -/
  consecutive : Placement.Consecutive before.nextHandle placements
  /-- The first objects stand for them. -/
  among : (placements.map fun placement => some placement.element) <+:
    objects.map PublishedObject.element?
  /-- If nothing failed all objects are linked to them. -/
  linked : ∀ linked, outcome = .ok linked →
    linked = List.zipWith PublishedObject.linkedTo objects placements ∧
      objects.map PublishedObject.element? = placements.map fun placement => some placement.element

/-- Where the first object is refused nothing is added. -/
theorem builtFrom_refused (orderly : database.Orderly) (objects : List PublishedObject)
    (cause : Error) : BuiltFrom objects [] database database (.error cause) where
  after_eq := (Database.extend_nil database).symm
  extended := orderly.extended
  consecutive := trivial
  among := List.nil_prefix
  linked := nofun

/-- Objects are built one after the other until one is refused. -/
theorem buildObjects_builtFrom (orderly : database.Orderly) (objects : List PublishedObject) :
    ∃ placements, BuiltFrom objects placements database (buildObjects objects database).2
      (buildObjects objects database).1 := by
  induction objects generalizing database with
  | nil =>
    refine ⟨[], (Database.extend_nil database).symm, orderly.extended, trivial, List.nil_prefix,
      ?_⟩
    intro linked built
    obtain rfl := Except.ok.inj built
    exact ⟨rfl, rfl⟩
  | cons object rest ih =>
    have asked := buildObject_eq object database
    unfold buildObjects
    cases known : object.element? with
    | none =>
      rw [known] at asked
      rw [asked]
      exact ⟨[], builtFrom_refused orderly _ _⟩
    | some element =>
      rw [known] at asked
      rcases Database.add_cases orderly element with ⟨cause, refused⟩ |
        ⟨placement, rfl, next, taken, first⟩
      · rw [asked.trans refused]
        exact ⟨[], builtFrom_refused orderly _ cause⟩
      · rw [asked.trans taken]
        dsimp only
        obtain ⟨placements, further⟩ := ih first.orderly
        revert further
        rcases buildObjects rest (database.extend [placement]) with ⟨outcome, last⟩
        intro ⟨after_eq, extended, consecutive, among, linked⟩
        rw [Database.extend_extend, List.singleton_append] at after_eq
        have both := first.trans extended
        rw [Database.nextHandle_extend] at consecutive
        have numbered : Placement.Consecutive database.nextHandle (placement :: placements) :=
          ⟨next, consecutive⟩
        have more : ((placement :: placements).map fun placement => some placement.element) <+:
            (object :: rest).map PublishedObject.element? := by
          rw [List.map_cons, List.map_cons, known]
          exact (List.prefix_cons_inj _).mpr among
        cases outcome with
        | error cause => exact ⟨placement :: placements, after_eq, both, numbered, more, nofun⟩
        | ok others =>
          obtain ⟨others_eq, all⟩ := linked others rfl
          refine ⟨placement :: placements, after_eq, both, numbered, more, fun built same => ?_⟩
          obtain rfl := Except.ok.inj same
          rw [others_eq, List.map_cons, List.map_cons, known, all]
          exact ⟨rfl, rfl⟩

/-- Everything that building a service can do. -/
inductive Build (record : PublishedService) (database : Database) :
    Except Error Unit × PublishedService × Database → Prop
  /-- It is refused before the service is begun. -/
  | refused (cause : Error) : Build record database (.error cause, record, database)
  /-- The service is begun, and elements are added for some of the objects. -/
  | abandoned {head : PublishedObject} {rest : List PublishedObject} {uuid : Uuid}
      {service : Handle} {placements : List Placement} (cause : Error)
      (objects_eq : record.objects = head :: rest) (isService : head.interface = .service)
      (named : head.uuid = some uuid) (next : service.toNat = database.nextHandle)
      (built : BuiltFrom rest placements (database.start service uuid)
        ((database.start service uuid).extend placements) (.error cause)) :
      Build record database (.error cause, { record with service := some service },
        (database.start service uuid).extend placements)
  /-- Elements are added for all of the objects. -/
  | completed {head : PublishedObject} {rest linked : List PublishedObject} {uuid : Uuid}
      {service : Handle} {placements : List Placement}
      (objects_eq : record.objects = head :: rest) (isService : head.interface = .service)
      (named : head.uuid = some uuid) (next : service.toNat = database.nextHandle)
      (built : BuiltFrom rest placements (database.start service uuid)
        ((database.start service uuid).extend placements) (.ok linked)) :
      Build record database (.ok (), { record with
          service := some service
          objects := { head with linked := some service } :: linked },
        (database.start service uuid).extend placements)

/-- There is nothing else that building a service can do. -/
theorem build_eq (orderly : database.Orderly) (record : PublishedService) :
    Build record database (record.build database) := by
  unfold build
  split
  · exact .refused _
  rename_i head rest objects_eq
  split
  · exact .refused _
  rename_i uuid named
  split
  · rename_i own
    rcases Database.addService_eq orderly uuid with ⟨cause, refused⟩ | ⟨service, next, added⟩
    · rw [refused]
      exact .refused cause
    · have begun : Database.Change service database (database.start service uuid) := .begun next
      obtain ⟨placements, built⟩ := buildObjects_builtFrom (begun.orderly orderly) rest
      change database.addService uuid = (.ok service, database.start service uuid) at added
      rw [added]
      dsimp only
      revert built
      rcases buildObjects rest (database.start service uuid) with ⟨cause | linked, final⟩
      · intro built
        obtain rfl : final = _ := built.after_eq
        exact .abandoned cause objects_eq own.1 named next built
      · intro built
        obtain rfl : final = _ := built.after_eq
        exact .completed objects_eq own.1 named next built
  · exact .refused _

end PublishedService

end BluetoothHost
