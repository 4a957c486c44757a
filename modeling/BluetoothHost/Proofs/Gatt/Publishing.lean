import BluetoothHost.Proofs.Gatt.Separation

/-!
# The value that a client published last

A client publishes a value together with an object, and a new one whenever it changes. The objects
of a client are told apart by their paths, so the last value that it published under a path is that
of its object there, if it has one: it does not matter how often the object was published, in which
services it was, or what other clients did.
-/

namespace BluetoothHost

variable {B A : Type}

/-- Where an object is, and with what value. -/
def PublishedObject.content (object : PublishedObject) : ObjectPath × AttributeValue :=
  (object.path, object.value)

namespace PublishedService

variable {service made : PublishedService} {object other : PublishedObject}

/-- An object is placed among the others. -/
theorem place_perm (object : PublishedObject) (objects : List PublishedObject) :
    (place object objects).Perm (object :: objects) := by
  induction objects with
  | nil => exact .refl _
  | cons first rest ih =>
    unfold place
    split
    · exact .refl _
    · exact (ih.cons first).trans (.swap object first rest)

/-- Under a service are then the object and all that have other paths. -/
theorem mem_publish? (nodup : (service.objects.map PublishedObject.path).Nodup)
    (published : service.publish? object = some made) :
    other ∈ made.objects ↔ other = object ∨ other ∈ service.objects ∧ other.path ≠ object.path := by
  have named {candidate : PublishedObject} :
      candidate.hasPath object.path.value = true ↔ candidate.path = object.path := by
    rw [PublishedObject.hasPath, beq_iff_eq]
    exact ⟨Text.eq_of_value, congrArg Text.value⟩
  unfold publish? at published
  split at published
  · rename_i present
    obtain rfl := Option.some.inj published
    obtain ⟨old, there, same⟩ := List.any_eq_true.mp present
    dsimp only
    rw [updateFirst_eq_map _ (PublishedObject.hasPath_unique nodup object.path.value), List.mem_map]
    constructor
    · rintro ⟨source, member, rfl⟩
      split
      · exact .inl rfl
      · rename_i differs
        exact .inr ⟨member, mt named.mpr differs⟩
    · rintro (rfl | ⟨member, differs⟩)
      · exact ⟨old, there, if_pos same⟩
      · exact ⟨other, member, if_neg (mt named.mp differs)⟩
  · rename_i absent
    split at published
    · obtain rfl := Option.some.inj published
      dsimp only
      rw [(place_perm object service.objects).mem_iff, List.mem_cons]
      refine or_congr_right (iff_self_and.mpr fun member same => ?_)
      exact absent (List.any_eq_true.mpr ⟨other, member, named.mpr same⟩)
    · cases published

/-- An object that is published again is not refused. -/
theorem publish?_again (known : other ∈ service.objects) (same : other.path = object.path) :
    service.publish? object ≠ none := by
  have present : service.objects.any (PublishedObject.hasPath object.path.value) = true :=
    List.any_eq_true.mpr ⟨other, known, by rw [PublishedObject.hasPath, same, beq_self_eq_true]⟩
  rw [publish?, if_pos present]
  exact Option.some_ne_none _

end PublishedService

namespace Publications

variable {publications after : Publications} {client : String} {object other : PublishedObject}

/-! ### The objects of a client -/

/-- The objects of a client are those of its services. -/
theorem mem_objectsOf : object ∈ publications.objectsOf client ↔
    ∃ service ∈ publications.services, service.isOwnedBy client = true ∧
      object ∈ service.objects := by
  rw [objectsOf, List.mem_flatMap]
  constructor
  · rintro ⟨service, registered, member⟩
    have own := PublishedService.isOwnedBy_of_mem member
    exact ⟨service, registered, own, PublishedService.objectsOf_eq own ▸ member⟩
  · rintro ⟨service, registered, own, member⟩
    exact ⟨service, registered, (PublishedService.objectsOf_eq own).symm ▸ member⟩

/-- Fewer services have fewer objects. -/
theorem objectsOf_subset {services : List PublishedService}
    (fewer : services ⊆ publications.services) (client : String) :
    objectsOf client ⟨services⟩ ⊆ publications.objectsOf client := by
  intro object member
  obtain ⟨service, registered, own⟩ := mem_objectsOf.mp member
  exact mem_objectsOf.mpr ⟨service, fewer registered, own⟩

/-- What a client leaves alone are also the objects of others. -/
theorem objectsOf_of_othersOf {own : String} (same : after.othersOf own = publications.othersOf own)
    (different : client ≠ own) : after.objectsOf client = publications.objectsOf client := by
  have among (publications : Publications) :
      publications.objectsOf client =
        (publications.othersOf own).flatMap (PublishedService.objectsOf client) := by
    unfold objectsOf othersOf
    induction publications.services with
    | nil => rfl
    | cons service rest ih =>
      rw [List.flatMap_cons, ih, List.filter_cons]
      split
      · rfl
      · rename_i theirs
        have called : service.owner.value = own := by
          simpa [PublishedService.isOwnedBy] using theirs
        have none : service.objectsOf client = [] := by
          refine if_neg fun mine => different ?_
          exact (beq_iff_eq.mp mine).symm.trans called
        rw [none, List.nil_append]
  rw [among, among, same]

/-- A registration brings no object. -/
theorem register_objectsOf (publications : Publications) (owner path : String)
    (token : ReplyToken) (client : String) :
    (publications.register owner path token).2.objectsOf client =
      publications.objectsOf client := by
  unfold register
  repeat' split
  all_goals first
    | rfl
    | simp [objectsOf, PublishedService.objectsOf]

/-! ### Objects that are published -/

/-- Everything that can happen when an object is published. -/
inductive Published (publications : Publications) (client : String) (object : PublishedObject) :
    Publications → Prop
  /-- It lies under no service of the client. -/
  | homeless (nowhere : ∀ service ∈ publications.services, service.isOwnedBy client = true →
      object.isUnder service.path.value = false) :
      Published publications client object publications
  /-- The service under which it lies has too many objects. -/
  | refused {front back : List PublishedService} {service : PublishedService}
      (services_eq : publications.services = front ++ service :: back)
      (own : service.isOwnedBy client = true) (under : object.isUnder service.path.value = true)
      (passed : ∀ earlier ∈ front, earlier.isOwnedBy client = true →
        object.isUnder earlier.path.value = false)
      (full : service.publish? object = none) :
      Published publications client object publications
  /-- The service under which it lies takes it. -/
  | taken {front back : List PublishedService} {service made : PublishedService}
      (services_eq : publications.services = front ++ service :: back)
      (own : service.isOwnedBy client = true)
      (published : service.publish? object = some made) :
      Published publications client object ⟨front ++ made :: back⟩

/-- There is nothing else that publishing can do. -/
theorem publish_published (publications : Publications) (client : String)
    (object : PublishedObject) :
    Published publications client object (publications.publish client object).2 := by
  unfold publish
  dsimp only
  split
  · rename_i missing
    refine .homeless fun service member own => ?_
    simpa [own] using List.find?_eq_none.mp missing service member
  · rename_i service found
    obtain ⟨takes, front, back, services_eq, skipped⟩ := List.find?_eq_some_iff_append.mp found
    obtain ⟨own, under⟩ := Bool.and_eq_true_iff.mp takes
    split
    · rename_i full
      refine .refused services_eq own under (fun earlier member mine => ?_) full
      simpa [mine] using skipped earlier member
    · rename_i made published
      obtain ⟨before, behind, split_eq, updated, -⟩ := split_of_find? found
      rw [updated]
      exact .taken split_eq own published

namespace Arranged

/-- An object lies under a service that has another one with its path. -/
theorem isUnder (arranged : publications.Arranged) {service : PublishedService}
    (registered : service ∈ publications.services) (there : other ∈ service.objects)
    (same : other.path = object.path) : object.isUnder service.path.value = true := by
  rw [PublishedObject.isUnder_iff, ← same]
  exact (arranged.tidy _ (List.mem_map_of_mem registered)).under other.path
    (List.mem_map_of_mem there)

/-- Where an object is refused its client has none with its path, not even in another service. -/
theorem absent_of_refused (arranged : publications.Arranged) {front back : List PublishedService}
    {service : PublishedService} (services_eq : publications.services = front ++ service :: back)
    (own : service.isOwnedBy client = true) (under : object.isUnder service.path.value = true)
    (passed : ∀ earlier ∈ front, earlier.isOwnedBy client = true →
      object.isUnder earlier.path.value = false)
    (full : service.publish? object = none) (member : other ∈ publications.objectsOf client) :
    other.path ≠ object.path := by
  intro same
  obtain ⟨holder, registered, mine, there⟩ := mem_objectsOf.mp member
  have lies := arranged.isUnder registered there same
  rw [services_eq] at registered
  rcases List.mem_append.mp registered with before | here
  · cases (passed holder before mine).symm.trans lies
  rcases List.mem_cons.mp here with rfl | behind
  · exact PublishedService.publish?_again there same full
  · -- A later service holds nothing that lies under an earlier one.
    have first := List.pairwise_map.mp arranged.first
    rw [services_eq] at first
    have apart := (List.pairwise_append.mp first).2.1
    have owners : service.owner = holder.owner :=
      Text.eq_of_value ((beq_iff_eq.mp own).trans (beq_iff_eq.mp mine).symm)
    refine (List.pairwise_cons.mp apart).1 holder behind owners other.path
      (List.mem_map_of_mem there) ?_
    rw [same]
    exact PublishedObject.isUnder_iff.mp under

/-- After an object was published, an object of its client is that one, or the client had it before
and it has another path. -/
theorem mem_publish (arranged : publications.Arranged)
    (member : other ∈ (publications.publish client object).2.objectsOf client) :
    other = object ∨ other ∈ publications.objectsOf client ∧ other.path ≠ object.path := by
  have rearranged := arranged.publish client object
  have happened := publications.publish_published client object
  generalize (publications.publish client object).2 = after at member rearranged happened
  cases happened with
  | homeless nowhere =>
    refine .inr ⟨member, fun same => ?_⟩
    obtain ⟨service, registered, own, there⟩ := mem_objectsOf.mp member
    cases (nowhere service registered own).symm.trans (arranged.isUnder registered there same)
  | refused services_eq own under passed full =>
    exact .inr ⟨member, arranged.absent_of_refused services_eq own under passed full member⟩
  | @taken front back service made services_eq own published =>
    have present : service ∈ publications.services :=
      services_eq ▸ List.mem_append_right front List.mem_cons_self
    have nodup := (arranged.tidy _ (List.mem_map_of_mem present)).nodup
    have still : made.isOwnedBy client = true := by
      rwa [PublishedService.publish?_eq published]
    have new : object ∈ objectsOf client ⟨front ++ made :: back⟩ :=
      mem_objectsOf.mpr ⟨made, List.mem_append_right front List.mem_cons_self, still,
        (PublishedService.mem_publish? nodup published).mpr (.inl rfl)⟩
    by_cases same : other.path = object.path
    · exact .inl (List.inj_on_of_nodup_map (rearranged.nodup_objectsOf client) member new same)
    refine .inr ⟨?_, same⟩
    obtain ⟨holder, registered, mine, there⟩ := mem_objectsOf.mp member
    rcases mem_replaced services_eq registered with rfl | before
    · rcases (PublishedService.mem_publish? nodup published).mp there with rfl | ⟨old, -⟩
      · exact absurd rfl same
      · exact mem_objectsOf.mpr ⟨service, present, own, old⟩
    · exact mem_objectsOf.mpr ⟨holder, before, mine, there⟩

end Arranged

end Publications

/-! ### Runs -/

namespace Catalogue

variable {catalogue : Catalogue} {client path : String}

/-- The value that an action publishes for the object of a client with a path: the object is
published with it, or it is a new one that is not too long. -/
def Action.published? (client path : String) : Action B A → Option AttributeValue
  | .publish owner object =>
    if owner = client ∧ object.path.value = path then some object.value else none
  | .valueChanged owner place value =>
    if owner = client ∧ place = path then Bytes.ofList? Limits.attributeValue value else none
  | _ => none

/-- The value that was published last for the object of a client with a path. -/
def latest? (client path : String) (actions : List (Action B A)) : Option AttributeValue :=
  (actions.filterMap (Action.published? client path)).getLast?

/-- A value counts until the next one is published. -/
theorem latest?_concat (actions : List (Action B A)) (action : Action B A) :
    latest? client path (actions ++ [action]) =
      (action.published? client path).or (latest? client path actions) := by
  unfold latest?
  rw [List.filterMap_append, List.getLast?_append, List.filterMap_cons]
  cases action.published? client path <;> rfl

/-- Every object has the value that its client published last for its path. -/
def Current (actions : List (Action B A)) (publications : Publications) : Prop :=
  ∀ client, ∀ object ∈ publications.objectsOf client,
    latest? client object.path.value actions = some object.value

variable {actions : List (Action B A)} {publications after : Publications}

/-- An action that publishes nothing for an object leaves it current. -/
theorem Current.unpublished (current : Current actions publications) {action : Action B A}
    {object : PublishedObject} (member : object ∈ publications.objectsOf client)
    (unpublished : action.published? client object.path.value = none) :
    latest? client object.path.value (actions ++ [action]) = some object.value := by
  rw [latest?_concat, unpublished, Option.none_or]
  exact current client object member

/-- So does an action that publishes nothing at all, where objects have the paths and the values of
before. -/
theorem Current.keep (current : Current actions publications) {action : Action B A}
    (unpublished : ∀ client path, action.published? client path = none)
    (kept : ∀ client, ∀ object ∈ after.objectsOf client, ∃ old ∈ publications.objectsOf client,
      old.content = object.content) :
    Current (actions ++ [action]) after := by
  intro client object member
  obtain ⟨old, there, same⟩ := kept client object member
  obtain ⟨path, value⟩ := Prod.mk.inj same
  rw [← path, ← value]
  exact current.unpublished there (unpublished client _)

/-- In particular where there are only fewer services. -/
theorem Current.fewer (current : Current actions publications) {action : Action B A}
    (unpublished : ∀ client path, action.published? client path = none)
    (fewer : after.services ⊆ publications.services) : Current (actions ++ [action]) after :=
  current.keep unpublished fun client object member =>
    ⟨object, Publications.objectsOf_subset fewer client member, rfl⟩

/-- An object that is published is current, and so are the others. -/
theorem Current.publish (current : Current actions publications) (arranged : publications.Arranged)
    (owner : String) (object : PublishedObject) :
    Current (actions ++ [.publish owner object]) (publications.publish owner object).2 := by
  intro client other member
  by_cases own : client = owner
  · subst own
    rcases arranged.mem_publish member with rfl | ⟨there, differs⟩
    · rw [latest?_concat, Action.published?, if_pos ⟨rfl, rfl⟩, Option.some_or]
    · refine current.unpublished there (if_neg fun same => differs ?_)
      exact Text.eq_of_value same.2.symm
  · rw [Publications.objectsOf_of_othersOf (publications.publish_othersOf owner object) own]
      at member
    exact current.unpublished member (if_neg fun same => own same.1.symm)

variable [AttributeServer A]

/-- So is an object that has a new value. -/
theorem Current.valueChanged (current : Current actions publications)
    (arranged : publications.Arranged) (database : Database) (owner place : String)
    (value : List UInt8) (env : Environment B A) :
    Current (actions ++ [.valueChanged owner place value])
      (publications.valueChanged database owner place value env).2.1 := by
  cases fits : Bytes.ofList? Limits.attributeValue value with
  | none =>
    have services := publications.valueChanged_services database owner place value env
    rw [fits] at services
    refine current.fewer (fun client path => ?_) (services ▸ List.Subset.refl _)
    rw [Action.published?, fits, ite_self]
  | some kept =>
    intro client object member
    by_cases own : client = owner
    · subst own
      rw [arranged.valueChanged_objectsOf fits, List.mem_map] at member
      obtain ⟨old, there, rfl⟩ := member
      split
      · rename_i named
        rw [latest?_concat, Action.published?, if_pos ⟨rfl, (beq_iff_eq.mp named).symm⟩, fits,
          Option.some_or]
      · rename_i differs
        refine current.unpublished there (if_neg fun same => differs ?_)
        exact beq_iff_eq.mpr same.2.symm
    · rw [Publications.objectsOf_of_othersOf
        (publications.valueChanged_othersOf database owner place value env) own] at member
      exact current.unpublished member (if_neg fun same => own same.1.symm)

variable [MessageBus B]

/-- Objects that are built keep their values. -/
theorem Current.clientReady (current : Current actions publications) (database : Database)
    (owner place : String) (env : Environment B A) :
    Current (actions ++ [.clientReady owner place])
      (publications.clientReady database owner place env).2.1 := by
  have readied := publications.clientReady_readied database owner place env
  generalize publications.clientReady database owner place env = result at readied ⊢
  have unpublished : ∀ client path,
      Action.published? client path (.clientReady owner place : Action B A) = none :=
    fun _ _ => rfl
  cases readied with
  | ignored => exact current.fewer unpublished (List.Subset.refl _)
  | dropped found waits services_eq built =>
    exact current.fewer unpublished (Publications.sublist_without services_eq).subset
  | @built front back record made token begun found waits services_eq built enrolled =>
    refine current.keep unpublished fun client object member => ?_
    obtain ⟨service, registered, own, there⟩ := Publications.mem_objectsOf.mp member
    rcases Publications.mem_replaced services_eq registered with rfl | before
    · have same : ({ record with registration := none }.build database).2.1.objects.map
          PublishedObject.content = record.objects.map PublishedObject.content :=
        PublishedService.build_map (fun _ _ => rfl) { record with registration := none } database
      rw [built] at same
      have listed := List.mem_map_of_mem (f := PublishedObject.content) there
      rw [same] at listed
      obtain ⟨old, present, equal⟩ := List.mem_map.mp listed
      have owner_eq : service.owner = record.owner := congrArg Enrolment.owner enrolled
      have mine : record.isOwnedBy client = true := by
        rwa [PublishedService.isOwnedBy, ← owner_eq]
      refine ⟨old, Publications.mem_objectsOf.mpr ⟨record, ?_, mine, present⟩, equal⟩
      exact services_eq ▸ List.mem_append_right front List.mem_cons_self
    · exact ⟨object, Publications.mem_objectsOf.mpr ⟨service, before, own, there⟩, rfl⟩

/-- Every action leaves all objects current. -/
theorem perform_current (arranged : catalogue.publications.Arranged)
    (current : Current actions catalogue.publications) (action : Action B A)
    (env : Environment B A) :
    Current (actions ++ [action]) (catalogue.perform action env).1.publications := by
  obtain ⟨database, publications⟩ := catalogue
  cases action with
  | register owner place token =>
    refine current.keep (fun _ _ => rfl) fun client object member => ⟨object, ?_, rfl⟩
    exact publications.register_objectsOf owner place token client ▸ member
  | unregister owner place =>
    exact current.fewer (fun _ _ => rfl)
      (publications.unregister_sublist database owner place env).subset
  | publish owner object => exact current.publish arranged owner object
  | withdraw owner place =>
    refine current.keep (fun _ _ => rfl) fun client object member => ⟨object, ?_, rfl⟩
    obtain ⟨service, registered, own, there⟩ := Publications.mem_objectsOf.mp member
    rcases mem_updateFirst registered with before | ⟨old, before, -, rfl⟩
    · exact Publications.mem_objectsOf.mpr ⟨service, before, own, there⟩
    · exact Publications.mem_objectsOf.mpr ⟨old, before, own, List.eraseP_subset there⟩
  | clientReady owner place => exact current.clientReady database owner place env
  | valueChanged owner place value =>
    exact current.valueChanged arranged database owner place value env
  | clientDisconnected owner =>
    exact current.fewer (fun _ _ => rfl)
      (publications.clientDisconnected_sublist database owner env).subset
  | _ => exact current.fewer (fun _ _ => rfl) (List.Subset.refl _)

end Catalogue

end BluetoothHost
