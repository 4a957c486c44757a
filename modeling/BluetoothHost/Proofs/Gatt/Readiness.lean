import BluetoothHost.Proofs.Gatt.Enrolment
import BluetoothHost.Proofs.Gatt.Materialize

/-!
# What a registration is answered with

When a client is ready its service is built, and the answer says whether that went well. Only then
is the service registered with the attribute server, and the walk asks for something that building
does not: a descriptor needs a characteristic in front of it. So a service whose first object behind
its own is a descriptor is answered with success, stays in the database, and never reaches the
server.
-/

namespace BluetoothHost

open Environment (Silent)

variable {B A : Type}

/-- Between two moments this method call was answered once, and with this reply. -/
def Environment.Answers (token : ReplyToken) (reply : Reply) (before after : Environment B A) :
    Prop :=
  ∃ earlier accepted later,
    before.Makes (earlier ++ .reply token reply accepted :: later) after ∧
      repliesTo token earlier = [] ∧ repliesTo token later = []

/-- A reply among silent operations is the answer. -/
theorem Environment.Silent.answers [MessageBus B] {token : ReplyToken}
    {first second third : Environment B A} (before : first.Silent token second) (reply : Reply)
    (after : (second.sendReply token reply).2.Silent token third) :
    first.Answers token reply third := by
  obtain ⟨earlier, made, silent⟩ := before
  obtain ⟨later, further, quiet⟩ := after
  exact ⟨earlier, _, later, made.append ((second.sendReply_makes token reply).append further),
    silent, quiet⟩

namespace Publications

variable {publications : Publications} {client path : String} {token : ReplyToken}

/-! ### Paths -/

/-- No two services are registered under the same path. -/
def Distinct (publications : Publications) : Prop :=
  (publications.services.map PublishedService.path).Nodup

/-- Services with the same paths are distinct. -/
theorem Distinct.of_map {after : Publications} (distinct : publications.Distinct)
    (same : after.services.map PublishedService.path =
      publications.services.map PublishedService.path) : after.Distinct := by
  rw [Distinct, same]
  exact distinct

/-- Fewer services are distinct. -/
theorem Distinct.sublist {services : List PublishedService} (distinct : publications.Distinct)
    (sublist : services.Sublist publications.services) : Distinct ⟨services⟩ :=
  List.Nodup.sublist (sublist.map PublishedService.path) distinct

/-- A path that is taken is not registered again. -/
theorem Distinct.register (distinct : publications.Distinct) (client path : String)
    (token : ReplyToken) : (publications.register client path token).2.Distinct := by
  unfold Publications.register
  split
  · exact distinct
  rename_i absent
  split
  · rename_i owner root _ named
    split
    · rw [Distinct, List.map_append, List.map_singleton]
      refine List.nodup_append.mpr ⟨distinct, List.nodup_singleton _, ?_⟩
      rintro other taken root' new rfl
      rw [List.mem_singleton.mp new] at taken
      obtain ⟨service, present, same⟩ := List.mem_map.mp taken
      have under : service.hasPath path = true := by
        rw [PublishedService.hasPath, same, Text.value_of_ofString? named]
        exact beq_self_eq_true path
      exact absent (List.find?_isSome.mpr ⟨service, present, under⟩)
    · exact distinct
  · exact distinct

/-- A service stands among others that have other paths. -/
theorem Distinct.elsewhere (distinct : publications.Distinct) {front back : List PublishedService}
    {service : PublishedService} (services_eq : publications.services = front ++ service :: back)
    (named : service.path.value = path) :
    ∀ other ∈ front ++ back, other.hasPath path = false := by
  rw [Distinct, services_eq, List.map_append, List.map_cons, List.nodup_middle, ← List.map_append]
    at distinct
  intro other member
  have apart : other.path ≠ service.path := fun same =>
    (List.nodup_cons.mp distinct).1 (same ▸ List.mem_map_of_mem member)
  rw [PublishedService.hasPath, beq_eq_false_iff_ne, ← named]
  exact fun same => apart (Text.eq_of_value same)

/-- What takes the place of a service with its path is the one registered under the path. -/
theorem Distinct.get?_replaced (distinct : publications.Distinct)
    {front back : List PublishedService} {service after : PublishedService}
    (services_eq : publications.services = front ++ service :: back)
    (named : service.path.value = path) (same : after.path = service.path) :
    get? ⟨front ++ after :: back⟩ path = some after := by
  have apart := distinct.elsewhere services_eq named
  have none : front.find? (PublishedService.hasPath path) = none :=
    List.find?_eq_none.mpr fun other member => by simp [apart other (by simp [member])]
  have here : after.hasPath path = true := by
    rw [PublishedService.hasPath, same, named]
    exact beq_self_eq_true path
  rw [get?, List.find?_append, none, Option.none_or, List.find?_cons_of_pos here]

/-- Without it nothing is registered under the path. -/
theorem Distinct.get?_gone (distinct : publications.Distinct)
    {front back : List PublishedService} {service : PublishedService}
    (services_eq : publications.services = front ++ service :: back)
    (named : service.path.value = path) : get? ⟨front ++ back⟩ path = none :=
  List.find?_eq_none.mpr fun other member => by
    simp [distinct.elsewhere services_eq named other member]

end Publications

namespace Catalogue

variable [MessageBus B] [AttributeServer A]

/-- No action brings two services under one path. -/
theorem perform_distinct {catalogue : Catalogue} (distinct : catalogue.publications.Distinct)
    (action : Action B A) (env : Environment B A) :
    (catalogue.perform action env).1.publications.Distinct := by
  obtain ⟨database, publications⟩ := catalogue
  cases action with
  | register client path token => exact distinct.register client path token
  | unregister client path =>
    exact distinct.sublist (publications.unregister_sublist database client path env)
  | publish client object =>
    exact distinct.of_map (Publications.publish_map (fun _ _ => rfl) publications client object)
  | withdraw client path =>
    exact distinct.of_map (Publications.withdraw_map (fun _ _ => rfl) publications client path)
  | clientReady client path =>
    have readied := publications.clientReady_readied database client path env
    dsimp only [perform]
    generalize publications.clientReady database client path env = result at readied ⊢
    cases readied with
    | ignored => exact distinct
    | dropped found waits services_eq built =>
      exact distinct.sublist (Publications.sublist_without services_eq)
    | @built _ _ record made _ _ found waits services_eq built enrolled =>
      have same : made.path = record.path := congrArg Enrolment.path enrolled
      refine distinct.of_map ?_
      rw [services_eq, List.map_append, List.map_append, List.map_cons, List.map_cons, same]
  | valueChanged client path value =>
    exact distinct.of_map
      (Publications.valueChanged_map (fun _ _ => rfl) publications database client path value env)
  | clientDisconnected client =>
    exact distinct.sublist (publications.clientDisconnected_sublist database client env)
  | _ => exact distinct

/-- In every run services stay distinct. -/
theorem run_distinct {catalogue : Catalogue} (distinct : catalogue.publications.Distinct)
    (actions : List (Action B A)) (env : Environment B A) :
    (catalogue.run actions env).1.publications.Distinct := by
  induction actions generalizing catalogue env with
  | nil => exact distinct
  | cons action actions ih => exact ih (perform_distinct distinct action env) _

end Catalogue

/-! ### Building and registering -/

/-- The first object behind that of the service is a descriptor. -/
def PublishedService.LeadsWithDescriptor (record : PublishedService) : Prop :=
  ∃ object, record.objects[1]? = some object ∧ object.interface = .descriptor

/-- An object that can be built stands for what its interface says. -/
theorem PublishedObject.isDescriptor_of_element? {object : PublishedObject} {element : Element}
    (known : object.element? = some element) :
    element.isDescriptor = true ↔ object.interface = .descriptor := by
  obtain ⟨path, interface, uuid, flags, value, linked⟩ := object
  unfold element? at known
  split at known
  · rename_i isCharacteristic _ _
    change interface = _ at isCharacteristic
    obtain rfl := Option.some.inj known
    simp [Element.isDescriptor, isCharacteristic]
  · rename_i isDescriptor _
    change interface = _ at isDescriptor
    obtain rfl := Option.some.inj known
    simp [Element.isDescriptor, isDescriptor]
  · cases known

/-- The elements of a service that was built are in order unless a descriptor leads. -/
theorem PublishedService.ordered_iff {record : PublishedService} {head : PublishedObject}
    {rest : List PublishedObject} {placements : List Placement}
    (objects_eq : record.objects = head :: rest)
    (all : rest.map PublishedObject.element? =
      placements.map fun placement => some placement.element) :
    Ordered (placements.map Placement.element) ↔ ¬record.LeadsWithDescriptor := by
  rw [LeadsWithDescriptor, objects_eq, List.getElem?_cons_succ, ← List.head?_eq_getElem?]
  cases rest with
  | nil =>
    obtain rfl : placements = [] := by simpa using all.symm
    simp [Ordered]
  | cons object others =>
    cases placements with
    | nil => cases all
    | cons placement more =>
      obtain ⟨known, -⟩ := List.cons.inj all
      have kind := PublishedObject.isDescriptor_of_element? known
      simp [Ordered, ← kind]

namespace Publications

variable {publications : Publications} {client path : String} {token : ReplyToken}
  {database : Database} {record : PublishedService} [AttributeServer A]

/-- When a client is ready, its registration is answered with success or with a refusal, and in the
latter case the service is gone. In the former it has a declaration, and it is registered with a
server that refuses nothing unless a descriptor leads; then the registration fails, and the service
stays without a range. -/
theorem clientReady_answers [MessageBus B] (orderly : database.Orderly)
    (distinct : publications.Distinct) (obliging : Obliging A)
    (found : publications.services.find? (PublishedService.isRegistration client path) =
      some record)
    (waits : record.registration = some token) (env : Environment B A)
    {outcome : Except Error Unit} {after : Publications} {final : Database}
    {later : Environment B A}
    (readied : publications.clientReady database client path env =
      (outcome, after, final, later)) :
    (env.Answers token .done later ∧
      ∃ service entry, (after.get? path).bind PublishedService.service = some service ∧
        final.findHandle? service = some entry ∧
        (outcome = .ok () ∧ entry.range.isSome = true ∧ ¬record.LeadsWithDescriptor ∨
          outcome = .error .invalidArguments ∧ entry.range = none ∧
            record.LeadsWithDescriptor)) ∨
    (env.Answers token (.error .invalidArguments) later ∧ outcome = .ok () ∧
      after.get? path = none) := by
  have named := (isRegistration_iff.mp (List.find?_some found)).1
  have happened := publications.clientReady_readied database client path env
  rw [readied] at happened
  cases happened with
  | ignored idle => cases waits.symm.trans (idle record found)
  | @dropped front back other made asked begun cause known waited services_eq built =>
    obtain rfl := Option.some.inj (found.symm.trans known)
    obtain rfl := Option.some.inj (waits.symm.trans waited)
    exact .inr ⟨(tearDown_silent made begun env).answers _ (.refl _), rfl,
      distinct.get?_gone services_eq named⟩
  | @built front back other made asked begun known waited services_eq built enrolled =>
    obtain rfl := Option.some.inj (found.symm.trans known)
    obtain rfl := Option.some.inj (waits.symm.trans waited)
    have silent : (env.sendReply token .done).2.Silent token
        (begun.materialize (env.sendReply token .done).2).2.2 := begun.materialize_silent _
    have build := PublishedService.build_eq orderly { record with registration := none }
    rw [built] at build
    cases build with
    | @completed head rest linked uuid service placements objects_eq isService called next made =>
      have builds := Database.builds_extend made.extended
      have ordered := PublishedService.ordered_iff objects_eq (made.linked linked rfl).2
      have replaced {after : PublishedService} (same : after.path = record.path) :
          get? ⟨front ++ after :: back⟩ path = some after :=
        distinct.get?_replaced services_eq named same
      refine .inl ⟨(Silent.refl env).answers _ silent, service, ?_⟩
      by_cases leads : record.LeadsWithDescriptor
      · obtain ⟨last, materialized⟩ := builds.materialize_misplaced obliging
          (fun inOrder => ordered.mp inOrder leads) (env.sendReply token .done).2
        rw [materialized]
        exact ⟨_, Option.bind_eq_some_iff.mpr ⟨_, replaced rfl, rfl⟩, builds.found,
          .inr ⟨rfl, rfl, leads⟩⟩
      · obtain ⟨first, answers, calls, last, middle, -, -, -, materialized⟩ :=
          builds.materialize_ordered obliging (ordered.mpr leads) (env.sendReply token .done).2
        rw [materialized]
        exact ⟨_, Option.bind_eq_some_iff.mpr ⟨_, replaced rfl, rfl⟩,
          builds.findHandle?_registered _, .inl ⟨rfl, rfl, leads⟩⟩

end Publications

namespace Catalogue

variable [MessageBus B] [AttributeServer A] {first : Handle} {announces : Bool}
  {actions : List (Action B A)} {env later : Environment B A} {catalogue : Catalogue}

/-- Whatever happened before, the registration of a service is answered once when its client is
ready. If it is refused, the service is gone. If it is answered with success, the service has a
declaration, which carries a range on a server that refuses nothing exactly if no descriptor leads;
if one leads, the registration has failed. -/
theorem run_clientReady_answers
    (ran : (fresh first announces).run actions env = (catalogue, later)) (obliging : Obliging A)
    {client path : String} {record : PublishedService} {token : ReplyToken}
    (found : catalogue.publications.services.find?
      (PublishedService.isRegistration client path) = some record)
    (waits : record.registration = some token) (now : Environment B A)
    {outcome : Except Error Unit} {after : Publications} {final : Database}
    {last : Environment B A}
    (readied : catalogue.publications.clientReady catalogue.database client path now =
      (outcome, after, final, last)) :
    (now.Answers token .done last ∧
      ∃ service entry, (after.get? path).bind PublishedService.service = some service ∧
        final.findHandle? service = some entry ∧
        (outcome = .ok () ∧ entry.range.isSome = true ∧ ¬record.LeadsWithDescriptor ∨
          outcome = .error .invalidArguments ∧ entry.range = none ∧
            record.LeadsWithDescriptor)) ∨
    (now.Answers token (.error .invalidArguments) last ∧ outcome = .ok () ∧
      after.get? path = none) := by
  have none : (fresh first announces).publications.Distinct := List.nodup_nil
  have distinct := run_distinct none actions env
  rw [ran] at distinct
  exact Publications.clientReady_answers (run_fresh_recorded ran).1.orderly distinct obliging found
    waits now readied

/-- A client that publishes a descriptor and no characteristic is told that its service is
registered, while the server has dropped it. -/
theorem run_clientReady_answers_of_descriptor :
    let service : PublishedObject :=
      { path := ⟨"/app", by decide⟩, interface := .service, uuid := some (.uuid16 0x180F) }
    let descriptor : PublishedObject :=
      { path := ⟨"/app/d", by decide⟩, interface := .descriptor, uuid := some (.uuid16 0x2901) }
    let actions : List (Action Transport.PlainBus CountingServer) :=
      [.register ":1.7" "/app" ⟨1⟩, .publish ":1.7" service, .publish ":1.7" descriptor]
    let catalogue := ((fresh 1 true).run actions countingEnvironment).1
    let ready := catalogue.publications.clientReady catalogue.database ":1.7" "/app"
      countingEnvironment
    countingEnvironment.Answers ⟨1⟩ .done ready.2.2.2 ∧ ready.1 = .error .invalidArguments ∧
      ∃ entry, ready.2.2.1.findHandle? 1 = some entry ∧ entry.range = none := by
  intro service descriptor actions catalogue ready
  have ran : (fresh 1 true).run actions countingEnvironment =
      (catalogue, ((fresh 1 true).run actions countingEnvironment).2) := (Prod.eta _).symm
  have known : (catalogue.publications.services.find?
      (PublishedService.isRegistration ":1.7" "/app")).map PublishedService.registration =
        some (some ⟨1⟩) := by
    decide +kernel
  have failed : ready.1 = .error .invalidArguments := by decide +kernel
  have declared : (ready.2.1.get? "/app").bind PublishedService.service = some 1 := by
    decide +kernel
  have readied : catalogue.publications.clientReady catalogue.database ":1.7" "/app"
      countingEnvironment = ready := rfl
  clear_value ready
  obtain ⟨outcome, after, final, last⟩ := ready
  obtain ⟨record, found, waits⟩ := Option.map_eq_some_iff.mp known
  rcases run_clientReady_answers ran obliging_countingServer found waits countingEnvironment
    readied with
    ⟨answered, handle, entry, named, there, ⟨fine, -, -⟩ | ⟨-, without, -⟩⟩ | ⟨-, fine, -⟩
  · cases failed.symm.trans fine
  · obtain rfl : handle = 1 := Option.some.inj (named.symm.trans declared)
    exact ⟨answered, failed, entry, there, without⟩
  · cases failed.symm.trans fine

end Catalogue

end BluetoothHost
