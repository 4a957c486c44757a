import BluetoothHost.Proofs.Gatt.Buildable
import BluetoothHost.Proofs.Gatt.PathTree

/-!
# Descriptors and their characteristics

The path of a descriptor says which characteristic it belongs to, but nobody asks it: the walk takes
the latest characteristic in front. The two agree by the order of the paths. The slash comes before
all letters of a segment, so what continues a path with a slash stands in front of every path whose
last segment is a higher one, even if that segment begins with the same letters.
-/

namespace BluetoothHost

variable {root parent other path : String}

/-- A path continues another with one segment. -/
def IsChild (parent path : String) : Prop :=
  ∃ (segments : List Segment) (last : Segment),
    parent = pathOf segments ∧ path = pathOf (segments ++ [last])

/-- A path that ends in some segment, letter by letter. -/
theorem toList_pathOf_concat (segments : List Segment) (last : Segment) :
    (pathOf (segments ++ [last])).toList = spell segments ++ '/' :: last.letters := by
  rw [toList_pathOf (by simp), spell_append, spell_cons]
  exact congrArg (fun rest => spell segments ++ '/' :: rest) (List.append_nil _)

/-- A text that goes on with a slash stays in front of any that has higher letters alone. -/
theorem continued_lt {one other rest : List Char} (higher : ∀ letter ∈ other, '/' < letter)
    (before : one < other) : one ++ '/' :: rest < other := by
  induction one generalizing other with
  | nil =>
    cases other with
    | nil => exact absurd before (List.not_lt_nil _)
    | cons letter letters => exact List.cons_lt_cons_iff.mpr (.inl (higher letter (by simp)))
  | cons first one ih =>
    cases other with
    | nil => exact absurd before (List.not_lt_nil _)
    | cons letter letters =>
      rw [List.cons_append]
      rcases List.cons_lt_cons_iff.mp before with lower | ⟨rfl, behind⟩
      · exact List.cons_lt_cons_iff.mpr (.inl lower)
      · have rest := ih (fun letter member => higher letter (List.mem_cons_of_mem _ member)) behind
        exact List.cons_lt_cons_iff.mpr (.inr ⟨rfl, rest⟩)

/-- Where two texts begin alike the rest decides. -/
theorem lt_of_append_left {front one other : List Char} (before : front ++ one < front ++ other) :
    one < other := by
  induction front with
  | nil => exact before
  | cons first front ih =>
    rcases List.cons_lt_cons_iff.mp before with lower | ⟨-, behind⟩
    · exact absurd lower (Char.lt_irrefl _)
    · exact ih behind

namespace IsChild

/-- A path has one parent at most. -/
theorem unique (child : IsChild parent path) (also : IsChild other path) : parent = other := by
  obtain ⟨segments, last, rfl, rfl⟩ := child
  obtain ⟨further, final, rfl, same⟩ := also
  rw [(List.append_inj' (pathOf_injective same) rfl).1]

/-- No path comes before its parent. -/
theorem not_lt (child : IsChild parent path) : ¬path < parent := by
  obtain ⟨segments, last, rfl, rfl⟩ := child
  rw [String.lt_iff, List.not_lt, toList_pathOf_concat]
  cases segments with
  | nil => exact List.IsPrefix.le (List.prefix_append ['/'] last.letters)
  | cons first rest =>
    rw [toList_pathOf (List.cons_ne_nil _ _)]
    exact List.IsPrefix.le (List.prefix_append _ _)

/-- Between a path and the next one with the same parent stand all its children. -/
theorem lt_of_lt (one : IsChild root parent) (next : IsChild root other)
    (child : IsChild parent path) (before : parent < other) : path < other := by
  obtain ⟨segments, name, rfl, rfl⟩ := one
  obtain ⟨same, higher, root_eq, rfl⟩ := next
  obtain rfl := pathOf_injective root_eq
  obtain ⟨inner, last, inner_eq, rfl⟩ := child
  obtain rfl := pathOf_injective inner_eq
  rw [String.lt_iff, toList_pathOf_concat, toList_pathOf_concat] at before
  have names : name.letters < higher.letters :=
    (List.cons_lt_cons_iff.mp (lt_of_append_left before)).resolve_left (Char.lt_irrefl _) |>.2
  have letters : ∀ letter ∈ higher.letters, '/' < letter := fun letter member =>
    slash_lt_of_isSegmentLetter (List.all_eq_true.mp higher.allowed letter member)
  rw [String.lt_iff, toList_pathOf_concat, toList_pathOf_concat, spell_append, spell_cons,
    List.append_assoc, List.cons_append, List.append_assoc]
  exact List.append_left_lt (List.cons_lt_cons_iff.mpr (.inr ⟨rfl, continued_lt letters names⟩))

end IsChild

/-! ### The latest characteristic -/

/-- Every descriptor among the objects is a child of the latest characteristic in front of it. -/
inductive Attached : (latest : Option PublishedObject) → List PublishedObject → Prop
  /-- No object is left. -/
  | done {latest : Option PublishedObject} : Attached latest []
  /-- A characteristic becomes the latest one. -/
  | characteristic {latest : Option PublishedObject} {object : PublishedObject}
      {rest : List PublishedObject} (isCharacteristic : object.interface = .characteristic)
      (others : Attached (some object) rest) : Attached latest (object :: rest)
  /-- A descriptor is a child of the latest one. -/
  | descriptor {latest object : PublishedObject} {rest : List PublishedObject}
      (isDescriptor : object.interface = .descriptor)
      (child : IsChild latest.path.value object.path.value) (others : Attached (some latest) rest) :
      Attached (some latest) (object :: rest)

/-- What is known of the objects behind some place: they stand in the order of their paths, the
characteristics are children of one path, and so is the latest one in front of the place. The
parents of descriptors are characteristics, behind the place or no later than the latest one. -/
structure Following (root : String) (latest : Option PublishedObject)
    (objects : List PublishedObject) : Prop where
  /-- The order of the paths. -/
  ascending : objects.Pairwise fun lower higher => lower.path.value < higher.path.value
  /-- No service is among them. -/
  inner : ∀ object ∈ objects, object.interface ≠ .service
  /-- The characteristics. -/
  level : ∀ object ∈ objects, object.interface = .characteristic → IsChild root object.path.value
  /-- The latest characteristic. -/
  front : ∀ owner ∈ latest, IsChild root owner.path.value ∧
    ∀ object ∈ objects, owner.path.value < object.path.value
  /-- The parents of descriptors. -/
  parents : ∀ object ∈ objects, object.interface = .descriptor →
    ∃ parent : PublishedObject, IsChild root parent.path.value ∧
      parent.interface = .characteristic ∧ IsChild parent.path.value object.path.value ∧
      (parent ∈ objects ∨ ∃ owner ∈ latest, parent.path.value ≤ owner.path.value)

namespace Following

variable {latest : Option PublishedObject} {object : PublishedObject}
  {rest : List PublishedObject}

/-- Behind a characteristic it is the latest. -/
theorem pass_characteristic (following : Following root latest (object :: rest))
    (isCharacteristic : object.interface = .characteristic) :
    Following root (some object) rest := by
  obtain ⟨ascending, inner, level, front, parents⟩ := following
  obtain ⟨before, further⟩ := List.pairwise_cons.mp ascending
  refine ⟨further, (List.forall_mem_cons.mp inner).2, (List.forall_mem_cons.mp level).2, ?_, ?_⟩
  · intro owner same
    obtain rfl := Option.some.inj same
    exact ⟨level _ List.mem_cons_self isCharacteristic, before⟩
  · intro descriptor member isDescriptor
    obtain ⟨parent, below, kind, child, place⟩ :=
      parents descriptor (List.mem_cons_of_mem _ member) isDescriptor
    refine ⟨parent, below, kind, child, ?_⟩
    rcases place with there | ⟨owner, last, reached⟩
    · rcases List.mem_cons.mp there with rfl | behind
      · exact .inr ⟨parent, rfl, String.le_refl _⟩
      · exact .inl behind
    · have lower := (front owner last).2 object List.mem_cons_self
      have below := String.not_lt.mp (String.lt_asymm lower)
      exact .inr ⟨object, rfl, String.le_trans reached below⟩

/-- Behind a descriptor the latest is still the one in front of it. -/
theorem pass_descriptor (following : Following root latest (object :: rest))
    (isDescriptor : object.interface = .descriptor) : Following root latest rest := by
  obtain ⟨ascending, inner, level, front, parents⟩ := following
  refine ⟨(List.pairwise_cons.mp ascending).2, (List.forall_mem_cons.mp inner).2,
    (List.forall_mem_cons.mp level).2, ?_, ?_⟩
  · intro owner last
    obtain ⟨below, before⟩ := front owner last
    exact ⟨below, (List.forall_mem_cons.mp before).2⟩
  · intro descriptor member kind
    obtain ⟨parent, below, isCharacteristic, child, place⟩ :=
      parents descriptor (List.mem_cons_of_mem _ member) kind
    refine ⟨parent, below, isCharacteristic, child, ?_⟩
    rcases place with there | reached
    · rcases List.mem_cons.mp there with rfl | behind
      · cases isDescriptor.symm.trans isCharacteristic
      · exact .inl behind
    · exact .inr reached

/-- A descriptor that comes first is a child of the latest characteristic. -/
theorem child_of_descriptor (following : Following root latest (object :: rest))
    (isDescriptor : object.interface = .descriptor) :
    ∃ owner ∈ latest, IsChild owner.path.value object.path.value := by
  obtain ⟨ascending, inner, level, front, parents⟩ := following
  obtain ⟨before, further⟩ := List.pairwise_cons.mp ascending
  obtain ⟨parent, below, isCharacteristic, child, place⟩ :=
    parents object List.mem_cons_self isDescriptor
  rcases place with there | ⟨owner, last, reached⟩
  · rcases List.mem_cons.mp there with rfl | behind
    · cases isDescriptor.symm.trans isCharacteristic
    · exact absurd (before parent behind) child.not_lt
  · obtain ⟨next, lower⟩ := front owner last
    refine ⟨owner, last, ?_⟩
    by_cases same : parent.path.value = owner.path.value
    · exact same ▸ child
    · -- A characteristic in between would stand behind the descriptor.
      have between : parent.path.value < owner.path.value := by
        by_contra above
        exact same (String.le_antisymm reached (String.not_lt.mp above))
      have passed := below.lt_of_lt next child between
      exact absurd (lower object List.mem_cons_self) (String.lt_asymm passed)

/-- So every descriptor is a child of the latest characteristic in front of it. -/
theorem attached {objects : List PublishedObject} (following : Following root latest objects) :
    Attached latest objects := by
  induction objects generalizing latest with
  | nil => exact .done
  | cons object rest ih =>
    cases kind : object.interface with
    | service => exact absurd kind (following.inner object List.mem_cons_self)
    | characteristic => exact .characteristic kind (ih (following.pass_characteristic kind))
    | descriptor =>
      obtain ⟨owner, last, child⟩ := following.child_of_descriptor kind
      obtain rfl : latest = some owner := last
      exact .descriptor kind child (ih (following.pass_descriptor kind))

end Following

/-! ### Two levels -/

namespace PublishedService

variable {record : PublishedService}

/-- A service with its characteristics one level below it, and their descriptors one level below
them. -/
structure TwoLevels (record : PublishedService) : Prop where
  /-- The object of the service is among them. -/
  service : ∃ object ∈ record.objects, object.interface = .service
  /-- No other has its interface. -/
  root : ∀ object ∈ record.objects, object.interface = .service → object.path = record.path
  /-- Characteristics are children of the service. -/
  characteristics : ∀ object ∈ record.objects, object.interface = .characteristic →
    IsChild record.path.value object.path.value
  /-- Descriptors are children of characteristics. -/
  descriptors : ∀ object ∈ record.objects, object.interface = .descriptor →
    ∃ parent ∈ record.objects, parent.interface = .characteristic ∧
      IsChild parent.path.value object.path.value
  /-- All have a valid UUID. -/
  named : ∀ object ∈ record.objects, object.uuid.isSome = true
  /-- The characteristics have flags that are valid, or none. -/
  usable : ∀ object ∈ record.objects, object.interface = .characteristic →
    object.flags ≠ .unusable

/-- The object of the service comes first, and the others are none. -/
theorem TwoLevels.objects_eq (levels : record.TwoLevels) (tidy : record.layout.Tidy) :
    ∃ head, record.objects = head :: record.objects.tail ∧ head.interface = .service ∧
      head.path = record.path ∧ ∀ object ∈ record.objects.tail, object.interface ≠ .service := by
  obtain ⟨own, member, isService⟩ := levels.service
  have place := levels.root own member isService
  have within : record.path ∈ record.layout.paths := by
    rw [← place]
    exact List.mem_map_of_mem member
  have leads := tidy.head?_eq within
  rw [layout, List.head?_map] at leads
  obtain ⟨head, first, path⟩ := Option.map_eq_some_iff.mp leads
  have objects_eq := List.eq_cons_of_mem_head? first
  have distinct := tidy.nodup
  have same : head = own := List.inj_on_of_nodup_map distinct (List.mem_of_mem_head? first) member
    (path.trans place.symm)
  refine ⟨head, objects_eq, same ▸ isService, path, ?_⟩
  intro object behind also
  have there := levels.root object (List.mem_of_mem_tail behind) also
  rw [layout, objects_eq] at distinct
  have apart := (List.nodup_cons.mp distinct).1
  have repeated : head.path ∈ record.objects.tail.map PublishedObject.path := by
    rw [path, ← there]
    exact List.mem_map_of_mem behind
  exact apart repeated

/-- So it can be built. -/
theorem TwoLevels.describes (levels : record.TwoLevels) (tidy : record.layout.Tidy) :
    ∃ uuid elements, record.Describes uuid elements := by
  obtain ⟨head, objects_eq, isService, path, others⟩ := levels.objects_eq tidy
  have first : record.objects.head? = some head := by rw [objects_eq, List.head?_cons]
  obtain ⟨uuid, named⟩ :=
    Option.isSome_iff_exists.mp (levels.named head (List.mem_of_mem_head? first))
  have known : ∀ object ∈ record.objects.tail, object.element?.isSome = true := by
    intro object behind
    have member := List.mem_of_mem_tail behind
    exact PublishedObject.element?_isSome_iff.mpr
      ⟨levels.named object member, others object behind, levels.usable object member⟩
  obtain ⟨elements, stands⟩ := exists_elements known
  exact ⟨uuid, elements, ⟨head, first, isService, path, named⟩, stands⟩

/-- Behind its own object the others follow, and no characteristic is in front of them. -/
theorem TwoLevels.following (levels : record.TwoLevels) (tidy : record.layout.Tidy) :
    Following record.path.value none record.objects.tail where
  ascending := by
    have ascending : record.objects.Pairwise fun lower higher =>
        lower.path.value < higher.path.value := by
      simpa only [layout, List.pairwise_map] using tidy.ascending
    exact ascending.tail
  inner := by
    obtain ⟨-, -, -, -, others⟩ := levels.objects_eq tidy
    exact others
  level object behind := levels.characteristics object (List.mem_of_mem_tail behind)
  front := by
    intro owner none
    cases none
  parents := by
    intro object behind isDescriptor
    obtain ⟨parent, published, isCharacteristic, child⟩ :=
      levels.descriptors object (List.mem_of_mem_tail behind) isDescriptor
    have below := levels.characteristics parent published isCharacteristic
    refine ⟨parent, below, isCharacteristic, child, .inl ?_⟩
    obtain ⟨head, objects_eq, isService, -, -⟩ := levels.objects_eq tidy
    rw [objects_eq] at published
    rcases List.mem_cons.mp published with rfl | there
    · cases isService.symm.trans isCharacteristic
    · exact there

end PublishedService

/-- No descriptor leads where each has a characteristic in front of it. -/
theorem Attached.not_leadsWithDescriptor {record : PublishedService}
    (attached : Attached none record.objects.tail) : ¬record.LeadsWithDescriptor := by
  rintro ⟨object, second, isDescriptor⟩
  rw [← List.getElem?_tail] at second
  cases objects_eq : record.objects.tail with
  | nil =>
    rw [objects_eq] at second
    cases second
  | cons first rest =>
    rw [objects_eq] at second attached
    obtain rfl : first = object := Option.some.inj second
    cases attached with
    | characteristic isCharacteristic => cases isDescriptor.symm.trans isCharacteristic

/-! ### The calls -/

/-- With this call an object of a service is registered, where the calls of all objects are known:
a descriptor for the value with which the server answered for its parent. -/
inductive RegisteredAs (start : Handle) (calls : List (PublishedObject × Call)) :
    PublishedObject → Call → Prop
  /-- A characteristic. -/
  | characteristic {object : PublishedObject} {uuid : Uuid} {properties : CharacteristicProperties}
      {value : Handle} (isCharacteristic : object.interface = .characteristic)
      (named : object.uuid = some uuid) (usable : object.properties = .ok properties) :
      RegisteredAs start calls object
        (.registerCharacteristic start uuid properties (.ofProperties properties) (some value))
  /-- A descriptor. -/
  | descriptor {object parent : PublishedObject} {uuid other : Uuid}
      {properties : CharacteristicProperties} {permissions : Permissions} {value answer : Handle}
      (isDescriptor : object.interface = .descriptor) (named : object.uuid = some uuid)
      (child : IsChild parent.path.value object.path.value)
      (registered : (parent, .registerCharacteristic start other properties permissions
        (some value)) ∈ calls) :
      RegisteredAs start calls object (.registerDescriptor value uuid (some answer))

/-- Where descriptors are children of the latest characteristics, they are registered for the values
of their parents. -/
theorem Registers.registeredAs {start : Handle} {latest : Option Handle} {elements : List Element}
    {answers : List Handle} {calls : List Call}
    (registers : Registers start latest elements answers calls) {owner : Option PublishedObject}
    {objects : List PublishedObject} (attached : Attached owner objects)
    (stands : objects.map PublishedObject.element? = elements.map some)
    {all : List (PublishedObject × Call)} (within : objects.zip calls ⊆ all)
    (front : ∀ value ∈ latest, ∀ parent ∈ owner, ∃ uuid properties permissions,
      (parent, .registerCharacteristic start uuid properties permissions (some value)) ∈ all) :
    List.Forall₂ (RegisteredAs start all) objects calls := by
  induction registers generalizing owner objects with
  | done =>
    obtain rfl := List.map_eq_nil_iff.mp stands
    exact .nil
  | @characteristic latest uuid properties permissions value rest answers calls others ih =>
    obtain ⟨object, behind, rfl, known, further⟩ := List.map_eq_cons_iff.mp stands
    obtain ⟨kind, named, usable, rfl⟩ :=
      PublishedObject.element?_eq_characteristic_iff.mp known
    obtain ⟨own, beyond⟩ := List.cons_subset.mp within
    cases attached with
    | descriptor isDescriptor => cases kind.symm.trans isDescriptor
    | characteristic _ continued =>
      refine .cons (.characteristic kind named usable) (ih continued further beyond ?_)
      intro answer same parent first
      obtain rfl := Option.some.inj same
      obtain rfl := Option.some.inj first
      exact ⟨uuid, properties, _, own⟩
  | @descriptor value answer uuid permissions rest answers calls others ih =>
    obtain ⟨object, behind, rfl, known, further⟩ := List.map_eq_cons_iff.mp stands
    obtain ⟨kind, named, rfl⟩ := PublishedObject.element?_eq_descriptor_iff.mp known
    obtain ⟨own, beyond⟩ := List.cons_subset.mp within
    cases attached with
    | characteristic isCharacteristic => cases kind.symm.trans isCharacteristic
    | @descriptor parent _ _ _ child continued =>
      obtain ⟨other, properties, allowed, registered⟩ := front value rfl parent rfl
      exact .cons (.descriptor kind named child registered) (ih continued further beyond front)

namespace Catalogue

variable {B A : Type} [MessageBus B] [AttributeServer A] {first : Handle} {announces : Bool}
  {actions : List (Action B A)} {env later : Environment B A} {catalogue : Catalogue}

/-- Whatever happened before, let a service have its characteristics one level below it and their
descriptors one level below them, whatever their names are and in whichever order they were
published. When its client is ready, an obliging server is asked to register each of these objects,
a descriptor for the value that it returned for the characteristic that is its parent. Besides the
answer to the client and the call for the service itself, nothing more is asked of it than to tell
peers. -/
theorem run_clientReady_attaches
    (ran : (fresh first announces).run actions env = (catalogue, later)) (obliging : Obliging A)
    {client path : String} {record : PublishedService} {token : ReplyToken}
    (found : catalogue.publications.services.find?
      (PublishedService.isRegistration client path) = some record)
    (waits : record.registration = some token) (levels : record.TwoLevels)
    (fits : record.FitsInto catalogue.database) (now : Environment B A) :
    ∃ accepted uuid size start calls range middle after final last,
      catalogue.publications.clientReady catalogue.database client path now =
        (.ok (), after, final, last) ∧
      now.Makes (.reply token .done accepted :: .registerService uuid size (some start) :: calls)
        middle ∧
      List.Forall₂ (RegisteredAs start (record.objects.tail.zip calls)) record.objects.tail calls ∧
      middle.Makes (catalogue.database.announcements range middle.server) last := by
  have member := List.mem_of_find?_eq_some found
  have tidy := (run_fresh_arranged ran).tidy _ (List.mem_map_of_mem member)
  obtain ⟨uuid, elements, describes⟩ := levels.describes tidy
  have attached := (levels.following tidy).attached
  have orderly := (run_fresh_recorded ran).database.orderly
  obtain ⟨accepted, size, start, answers, calls, range, middle, after, final, last, readied, made,
    registers, -, announced⟩ :=
    Publications.clientReady_registers orderly obliging found waits describes
      attached.not_leadsWithDescriptor fits now
  have attaches := registers.registeredAs attached describes.tail (List.Subset.refl _) nofun
  exact ⟨accepted, uuid, size, start, calls, range, middle, after, final, last, readied, made,
    attaches, announced⟩

/-- Three characteristics have names that begin alike, and each has a descriptor. They are published
in a jumble and registered with their parents. -/
theorem run_clientReady_attaches_of_prefixes :
    let app : Segment := ⟨['a'], by decide, by decide⟩
    let level : Segment := ⟨['c', '1'], by decide, by decide⟩
    let tenth : Segment := ⟨['c', '1', '0'], by decide, by decide⟩
    let extra : Segment := ⟨['c', '1', '_'], by decide, by decide⟩
    let about : Segment := ⟨['d'], by decide, by decide⟩
    let object (segments : List Segment) (fits : (pathOf segments).utf8ByteSize ≤ Limits.objectPath)
      (interface : GattInterface) : PublishedObject :=
      { path := ⟨pathOf segments, fits⟩, interface, uuid := some (.uuid16 0x2A19) }
    let service := object [app] (by decide) .service
    let one := object [app, level] (by decide) .characteristic
    let two := object [app, tenth] (by decide) .characteristic
    let three := object [app, extra] (by decide) .characteristic
    let first := object [app, level, about] (by decide) .descriptor
    let second := object [app, tenth, about] (by decide) .descriptor
    let third := object [app, extra, about] (by decide) .descriptor
    let actions : List (Action Transport.PlainBus CountingServer) := .register ":1.7" "/a" ⟨1⟩ ::
      [third, two, first, service, one, second, three].map (.publish ":1.7")
    let catalogue := ((fresh 1 true).run actions countingEnvironment).1
    let ready := catalogue.publications.clientReady catalogue.database ":1.7" "/a"
      countingEnvironment
    let registered (value : Handle) : Call :=
      .registerCharacteristic 1 (.uuid16 0x2A19) .unflagged .both (some value)
    let described (value answer : Handle) : Call :=
      .registerDescriptor value (.uuid16 0x2A19) (some answer)
    let calls := [registered 3, described 3 4, registered 6, described 6 7, registered 9,
      described 9 10]
    let objects := [one, first, two, second, three, third]
    ready.1 = .ok () ∧ (ready.2.2.2.journal.drop 2).take 6 = calls ∧
      List.Forall₂ (RegisteredAs 1 (objects.zip calls)) objects calls := by
  intro app level tenth extra about object service one two three first second third actions
    catalogue ready registered described calls objects
  let record : PublishedService :=
    { owner := ⟨":1.7", by decide⟩, path := ⟨"/a", by decide⟩, registration := some ⟨1⟩
      objects := service :: objects }
  have ran : (fresh 1 true).run actions countingEnvironment =
      (catalogue, ((fresh 1 true).run actions countingEnvironment).2) := (Prod.eta _).symm
  have found : catalogue.publications.services.find?
      (PublishedService.isRegistration ":1.7" "/a") = some record := by decide +kernel
  have fits : record.FitsInto catalogue.database := by decide +kernel
  have journal : ready.2.2.2.journal = [.reply ⟨1⟩ .done true,
      .registerService (.uuid16 0x2A19) 10 (some 1)] ++ calls ++
        [.indicate CountingServer.peer.address (HandleRange.changedMessage ⟨1, 10⟩)] := by
    decide +kernel
  have levels : record.TwoLevels := by
    have child (segments : List Segment) (last : Segment) :
        IsChild (pathOf segments) (pathOf (segments ++ [last])) := ⟨segments, last, rfl, rfl⟩
    refine ⟨⟨service, List.mem_cons_self, rfl⟩, by decide, ?_, ?_, by decide, by decide⟩
    · simp only [record, objects, List.forall_mem_cons]
      exact ⟨nofun, fun _ => child [app] level, nofun, fun _ => child [app] tenth, nofun,
        fun _ => child [app] extra, nofun, nofun⟩
    · simp only [record, objects, List.forall_mem_cons]
      exact ⟨nofun, nofun, fun _ => ⟨one, by simp, rfl, child [app, level] about⟩, nofun,
        fun _ => ⟨two, by simp, rfl, child [app, tenth] about⟩, nofun,
        fun _ => ⟨three, by simp, rfl, child [app, extra] about⟩, nofun⟩
  obtain ⟨accepted, uuid, size, start, made, range, middle, after, final, last, readied, makes,
    attaches, announced⟩ :=
    run_clientReady_attaches ran obliging_countingServer found rfl levels fits countingEnvironment
  have asked : catalogue.publications.clientReady catalogue.database ":1.7" "/a"
      countingEnvironment = ready := rfl
  clear_value ready
  obtain rfl : ready = (.ok (), after, final, last) := asked.symm.trans readied
  have same := (makes.append announced).symm.trans journal
  obtain ⟨-, behind⟩ := List.cons.inj same
  obtain ⟨begun, further⟩ := List.cons.inj behind
  obtain ⟨rfl, -⟩ := List.append_inj further attaches.length_eq.symm
  cases begun
  exact ⟨rfl, by rw [journal]; rfl, attaches⟩

end Catalogue

end BluetoothHost
