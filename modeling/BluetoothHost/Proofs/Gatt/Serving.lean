import BluetoothHost.Proofs.Gatt.Forwarding
import BluetoothHost.Proofs.Gatt.Publishing
import BluetoothHost.Proofs.Gatt.Readiness

/-!
# Attributes that are served

When the service of a client is built, each of its objects is linked to an attribute, and a read of
the attribute is answered with the value of the object. The client may keep the service, and not
withdraw the object; then nothing that it does elsewhere, and nothing that others do, breaks the
link. But an object that is published again comes without a link and takes the place of the one that
had it, so from then on reads of the attribute fail.
-/

namespace BluetoothHost

variable {B A : Type}

namespace PublishedService

variable {service made : PublishedService} {client root path : String} {handle : Handle}

/-- A service that a client registered was answered, and its object with a path is linked to an
attribute. -/
structure Offers (client root path : String) (handle : Handle) (service : PublishedService) :
    Prop where
  /-- It is that of the client. -/
  registered : service.isRegistration client root = true
  /-- The registration does not wait any longer. -/
  answered : service.registration = none
  /-- The object is there. -/
  linked : ∃ object ∈ service.objects, object.hasPath path = true ∧ object.linked = some handle

/-- No other client has it. -/
theorem Offers.owner_eq (offers : service.Offers client root path handle) {other : String}
    (own : service.isOwnedBy other = true) : other = client :=
  (beq_iff_eq.mp own).symm.trans (beq_iff_eq.mp (Bool.and_eq_true_iff.mp offers.registered).2)

/-- Another object may be published under it. -/
theorem Offers.publish? {object : PublishedObject}
    (offers : service.Offers client root path handle)
    (nodup : (service.objects.map PublishedObject.path).Nodup)
    (differs : object.path.value ≠ path) (published : service.publish? object = some made) :
    made.Offers client root path handle := by
  obtain ⟨registered, answered, other, member, named, linked⟩ := offers
  have stays : other ∈ made.objects := by
    refine (mem_publish? nodup published).mpr (.inr ⟨member, fun same => differs ?_⟩)
    rw [← same]
    exact beq_iff_eq.mp named
  rw [publish?_eq published]
  exact ⟨registered, answered, other, stays, named, linked⟩

/-- Another object may be withdrawn. -/
theorem Offers.withdraw (offers : service.Offers client root path handle) {place : String}
    (differs : place ≠ path) : (service.withdraw place).Offers client root path handle := by
  obtain ⟨registered, answered, object, member, named, linked⟩ := offers
  have elsewhere : ¬object.hasPath place = true := fun same =>
    differs ((beq_iff_eq.mp same).symm.trans (beq_iff_eq.mp named))
  exact ⟨registered, answered, object, (List.mem_eraseP_of_neg elsewhere).mpr member, named, linked⟩

/-- Any object may have a new value. -/
theorem Offers.setValue (offers : service.Offers client root path handle) (place : String)
    (value : AttributeValue) : (service.setValue place value).Offers client root path handle := by
  obtain ⟨registered, answered, object, member, named, linked⟩ := offers
  rcases mem_updateFirst_of_mem member with stays | ⟨-, changed⟩
  · exact ⟨registered, answered, object, stays, named, linked⟩
  · exact ⟨registered, answered, _, changed, named, linked⟩

/-- All objects of a service that was built are linked. -/
theorem build_linked {database begun : Database} (orderly : database.Orderly)
    (built : service.build database = (.ok (), made, begun)) :
    ∀ object ∈ made.objects, object.linked.isSome = true := by
  have build := build_eq orderly service
  rw [built] at build
  cases build with
  | @completed head rest linked uuid service placements objects_eq isService named next made =>
    obtain ⟨rfl, all⟩ := made.linked linked rfl
    intro object member
    rcases List.mem_cons.mp member with rfl | among
    · rfl
    · obtain ⟨source, -, placement, -, -, rfl⟩ := PublishedObject.mem_linked all among
      rfl

end PublishedService

namespace Publications

variable {publications after : Publications} {database : Database} {client root path : String}
  {handle : Handle} {object : PublishedObject}

/-- A client has such a service. -/
def Offers (client root path : String) (handle : Handle) (publications : Publications) : Prop :=
  ∃ service ∈ publications.services, service.Offers client root path handle

/-- One service may be replaced by another that offers as much. -/
theorem Offers.replace {front back : List PublishedService} {service made : PublishedService}
    (offers : publications.Offers client root path handle)
    (services_eq : publications.services = front ++ service :: back)
    (kept : service.Offers client root path handle → made.Offers client root path handle) :
    Offers client root path handle ⟨front ++ made :: back⟩ := by
  obtain ⟨own, member, offer⟩ := offers
  rw [services_eq] at member
  rcases List.mem_append.mp member with before | here
  · exact ⟨own, List.mem_append_left _ before, offer⟩
  rcases List.mem_cons.mp here with rfl | behind
  · exact ⟨made, List.mem_append_right front List.mem_cons_self, kept offer⟩
  · exact ⟨own, List.mem_append_right front (List.mem_cons_of_mem made behind), offer⟩

/-- So may the first that passes a test. -/
theorem Offers.updateFirst {test : PublishedService → Bool}
    {change : PublishedService → PublishedService}
    (offers : publications.Offers client root path handle)
    (kept : ∀ service, test service = true → service.Offers client root path handle →
      (change service).Offers client root path handle) :
    Offers client root path handle
      ⟨BluetoothHost.updateFirst test change publications.services⟩ := by
  obtain ⟨service, member, offer⟩ := offers
  rcases mem_updateFirst_of_mem member with stays | ⟨passed, changed⟩
  · exact ⟨service, stays, offer⟩
  · exact ⟨_, changed, kept service passed offer⟩

/-- A registration leaves the services that are there. -/
theorem register_subset (publications : Publications) (owner place : String) (token : ReplyToken) :
    publications.services ⊆ (publications.register owner place token).2.services := by
  unfold register
  repeat' split
  all_goals first
    | exact List.Subset.refl _
    | exact List.subset_append_left _ _

/-- Publishing another object keeps the offer. -/
theorem Offers.publish (offers : publications.Offers client root path handle)
    (arranged : publications.Arranged) {owner : String}
    (elsewhere : ¬(owner = client ∧ object.path.value = path)) :
    (publications.publish owner object).2.Offers client root path handle := by
  have happened := publications.publish_published owner object
  generalize (publications.publish owner object).2 = after at happened ⊢
  cases happened with
  | homeless => exact offers
  | refused => exact offers
  | taken services_eq own published =>
    refine offers.replace services_eq fun offer => offer.publish? ?_ ?_ published
    · exact (arranged.tidy _ (List.mem_map_of_mem
        (services_eq ▸ List.mem_append_right _ List.mem_cons_self))).nodup
    · exact fun same => elsewhere ⟨offer.owner_eq own, same⟩

/-- Withdrawing another object does. -/
theorem Offers.withdraw (offers : publications.Offers client root path handle)
    {owner place : String} (elsewhere : ¬(owner = client ∧ place = path)) :
    (publications.withdraw owner place).2.Offers client root path handle := by
  refine offers.updateFirst fun service holds offer => offer.withdraw fun same => elsewhere ?_
  exact ⟨offer.owner_eq (Bool.and_eq_true_iff.mp holds).1, same⟩

section Server

variable [AttributeServer A]

/-- So does giving up another service. -/
theorem Offers.unregister (offers : publications.Offers client root path handle)
    {owner place : String} (elsewhere : ¬(owner = client ∧ place = root)) (database : Database)
    (env : Environment B A) :
    (publications.unregister database owner place env).2.1.Offers client root path handle := by
  unfold Publications.unregister
  split
  · exact offers
  · obtain ⟨service, member, offer⟩ := offers
    refine ⟨service, (List.mem_eraseP_of_neg fun same => elsewhere ?_).mpr member, offer⟩
    obtain ⟨named, own⟩ := Bool.and_eq_true_iff.mp same
    obtain ⟨rooted, -⟩ := Bool.and_eq_true_iff.mp offer.registered
    exact ⟨offer.owner_eq own, (beq_iff_eq.mp named).symm.trans (beq_iff_eq.mp rooted)⟩

/-- So does the departure of another client. -/
theorem Offers.clientDisconnected (offers : publications.Offers client root path handle)
    {owner : String} (elsewhere : owner ≠ client) (database : Database) (env : Environment B A) :
    (publications.clientDisconnected database owner env).2.1.Offers client root path handle := by
  obtain ⟨service, member, offer⟩ := offers
  refine ⟨service, ?_, offer⟩
  rw [clientDisconnected_services, List.mem_filter]
  refine ⟨member, ?_⟩
  rw [Bool.not_eq_true', Bool.eq_false_iff]
  exact fun own => elsewhere (offer.owner_eq own)

/-- A new value keeps it in any case. -/
theorem Offers.valueChanged (offers : publications.Offers client root path handle)
    (database : Database) (owner place : String) (value : List UInt8) (env : Environment B A) :
    (publications.valueChanged database owner place value env).2.1.Offers client root path
      handle := by
  have services := publications.valueChanged_services database owner place value env
  generalize publications.valueChanged database owner place value env = result at services ⊢
  obtain ⟨outcome, ⟨services⟩, rest⟩ := result
  obtain rfl := services
  cases Bytes.ofList? Limits.attributeValue value with
  | none => exact offers
  | some kept => exact offers.updateFirst fun service _ offer => offer.setValue place kept

variable [MessageBus B]

/-- Only a service that waits for its client is built or dropped. -/
theorem Offers.clientReady (offers : publications.Offers client root path handle)
    (database : Database) (owner place : String) (env : Environment B A) :
    (publications.clientReady database owner place env).2.1.Offers client root path handle := by
  have readied := publications.clientReady_readied database owner place env
  generalize publications.clientReady database owner place env = result at readied ⊢
  cases readied with
  | ignored => exact offers
  | dropped found waits services_eq built =>
    obtain ⟨service, member, offer⟩ := offers
    refine ⟨service, ?_, offer⟩
    rw [services_eq] at member
    rcases List.mem_append.mp member with before | here
    · exact List.mem_append_left _ before
    · rcases List.mem_cons.mp here with rfl | behind
      · cases waits.symm.trans offer.answered
      · exact List.mem_append_right _ behind
  | built found waits services_eq built enrolled =>
    exact offers.replace services_eq fun offer => nomatch waits.symm.trans offer.answered

/-- After a registration was answered with success, all objects of the service are linked. -/
theorem clientReady_answered {outcome : Except Error Unit} {final : Database}
    {env later : Environment B A} {token : ReplyToken} (orderly : database.Orderly)
    (readied : publications.clientReady database client root env = (outcome, after, final, later))
    (answered : env.Answers token .done later) :
    ∃ service ∈ after.services, service.isRegistration client root = true ∧
      service.registration = none ∧ ∀ object ∈ service.objects, object.linked.isSome = true := by
  obtain ⟨earlier, accepted, further, made, -, -⟩ := answered
  have happened := publications.clientReady_readied database client root env
  rw [readied] at happened
  cases happened with
  | ignored =>
    have calls := made.unique env.makes_nil
    simp at calls
  | @dropped _ _ record stub other begun _ found waits services_eq built =>
    have before : env.Silent token (tearDown stub begun env).2 := tearDown_silent stub begun env
    obtain ⟨quiet, silently, silent⟩ := before
    have refused := (tearDown stub begun env).2.sendReply_makes other (.error .invalidArguments)
    have calls := made.unique (silently.append refused)
    have member : Call.reply token .done accepted ∈
        earlier ++ .reply token .done accepted :: further :=
      List.mem_append_right _ List.mem_cons_self
    rw [calls] at member
    rcases List.mem_append.mp member with before | refusal
    · have reply : accepted ∈ repliesTo token quiet :=
        List.mem_filterMap.mpr ⟨_, before, if_pos rfl⟩
      rw [silent] at reply
      cases reply
    · cases List.mem_singleton.mp refusal
  | @built front back record service other begun found waits services_eq built enrolled =>
    have owner : service.owner = record.owner := congrArg Enrolment.owner enrolled
    have place : service.path = record.path := congrArg Enrolment.path enrolled
    have registered : record.isRegistration client root = true := List.find?_some found
    refine ⟨service, List.mem_append_right front List.mem_cons_self, ?_,
      congrArg Enrolment.registration enrolled, PublishedService.build_linked orderly built⟩
    rwa [PublishedService.isRegistration, PublishedService.hasPath, PublishedService.isOwnedBy,
      owner, place]

end Server

/-! ### Reads -/

/-- An object of a client that is linked to an attribute stands for it. -/
theorem serves_of_mem_objectsOf (member : object ∈ publications.objectsOf client)
    (linked : object.linked = some handle) :
    ∃ service, publications.Serves service object handle ∧ service.isOwnedBy client = true := by
  obtain ⟨service, registered, own, there⟩ := mem_objectsOf.mp member
  exact ⟨service, ⟨registered, there, linked⟩, own⟩

/-- An object that is published again is no longer linked, nor is any other in its place. -/
theorem publish_unlinks (arranged : publications.Arranged) (nodup : publications.links.Nodup)
    (fresh : object.linked = none)
    (offers : publications.Offers client root object.path.value handle) :
    handle ∉ (publications.publish client object).2.links := by
  obtain ⟨service, registered, offer⟩ := offers
  obtain ⟨old, there, named, linked⟩ := offer.linked
  have serves : publications.Serves service old handle := ⟨registered, there, linked⟩
  intro among
  obtain ⟨holder, stays, other, held, link⟩ := mem_links.mp among
  have member : other ∈ (publications.publish client object).2.objectsOf holder.owner.value :=
    mem_objectsOf.mpr ⟨holder, stays, beq_self_eq_true _, held⟩
  by_cases own : holder.owner.value = client
  · rw [own] at member
    rcases arranged.mem_publish member with rfl | ⟨before, differs⟩
    · cases fresh.symm.trans link
    · obtain ⟨keeper, keeps, -⟩ := serves_of_mem_objectsOf before link
      obtain ⟨-, rfl⟩ := keeps.unique nodup serves
      exact differs (Text.eq_of_value (beq_iff_eq.mp named))
  · rw [objectsOf_of_othersOf (publications.publish_othersOf client object) own] at member
    obtain ⟨keeper, keeps, theirs⟩ := serves_of_mem_objectsOf member link
    obtain ⟨rfl, -⟩ := keeps.unique nodup serves
    exact own (offer.owner_eq theirs)

variable [MessageBus B]

/-- A read of an attribute to which an object is linked is answered with the value of the object. -/
theorem Offers.read (offers : publications.Offers client root path handle)
    (nodup : publications.links.Nodup) {entry : Attribute} (same : entry.handle = handle)
    (env : Environment B A) :
    ∃ object ∈ publications.objectsOf client, object.path.value = path ∧
      publications.handler.read entry env = (.ok object.value, env) := by
  obtain ⟨service, registered, offer⟩ := offers
  obtain ⟨object, there, named, linked⟩ := offer.linked
  have own := (Bool.and_eq_true_iff.mp offer.registered).2
  have known := linkedTo?_eq_some nodup ⟨registered, there, linked⟩
  refine ⟨object, mem_objectsOf.mpr ⟨service, registered, own, there⟩, beq_iff_eq.mp named, ?_⟩
  simp only [handler, same, known]

/-- A read of any other attribute fails. -/
theorem read_unlinked {entry : Attribute} (unlinked : entry.handle ∉ publications.links)
    (env : Environment B A) :
    publications.handler.read entry env = (.error .doesNotExist, env) := by
  have missing : publications.linkedTo? entry.handle = none := by
    cases known : publications.linkedTo? entry.handle with
    | none => rfl
    | some pair => exact absurd (exists_serves_iff.mp ⟨_, _, serves_of_linkedTo? known⟩) unlinked
  simp only [handler, missing]

end Publications

/-! ### Runs -/

namespace Catalogue

variable {client root path : String} {handle : Handle}

/-- A client gives up a service with this action, or an object of it. -/
def Action.Retires (client root path : String) : Action B A → Prop
  | .unregister owner place => owner = client ∧ place = root
  | .withdraw owner place => owner = client ∧ place = path
  | .clientDisconnected owner => owner = client
  | _ => False

/-- A client publishes an object with this action. -/
def Action.Publishes (client path : String) : Action B A → Prop
  | .publish owner object => owner = client ∧ object.path.value = path
  | _ => False

variable [MessageBus B] [AttributeServer A] {catalogue before after : Catalogue}
  {earlier actions : List (Action B A)} {ledger : List Creation}

/-- An object stays linked unless it is given up or published again. -/
theorem perform_offers (arranged : catalogue.publications.Arranged)
    (offers : catalogue.publications.Offers client root path handle) {action : Action B A}
    (keeps : ¬action.Retires client root path) (once : ¬action.Publishes client path)
    (env : Environment B A) :
    (catalogue.perform action env).1.publications.Offers client root path handle := by
  obtain ⟨database, publications⟩ := catalogue
  cases action with
  | register owner place token =>
    obtain ⟨service, member, offer⟩ := offers
    exact ⟨service, publications.register_subset owner place token member, offer⟩
  | unregister owner place => exact offers.unregister keeps database env
  | publish owner object => exact offers.publish arranged once
  | withdraw owner place => exact offers.withdraw keeps
  | clientReady owner place => exact offers.clientReady database owner place env
  | valueChanged owner place value => exact offers.valueChanged database owner place value env
  | clientDisconnected owner => exact offers.clientDisconnected keeps database env
  | _ => exact offers

/-- These actions lead from one catalogue to another, whatever the bus and the attribute server have
come to at each of them. -/
inductive Leads : Catalogue → List (Action B A) → Catalogue → Prop
  /-- Nothing happens. -/
  | refl (catalogue : Catalogue) : Leads catalogue [] catalogue
  /-- One action happens, and then others. -/
  | step {catalogue after : Catalogue} {action : Action B A} {actions : List (Action B A)}
      (between : Environment B A)
      (rest : Leads (catalogue.perform action between).1 actions after) :
      Leads catalogue (action :: actions) after

namespace Leads

/-- Two lists of actions lead on one after the other. -/
theorem trans {middle : Catalogue} {later : List (Action B A)} (first : Leads before actions middle)
    (second : Leads middle later after) : Leads before (actions ++ later) after := by
  induction first with
  | refl => exact second
  | step between _ ih => exact .step between (ih second)

/-- Services stay arranged all the way. -/
theorem arranged (leads : Leads before actions after) (arranged : before.publications.Arranged) :
    after.publications.Arranged := by
  induction leads with
  | refl => exact arranged
  | step between _ ih => exact ih (perform_arranged arranged _ between)

/-- The values stay current all the way. -/
theorem current (leads : Leads before actions after) (arranged : before.publications.Arranged)
    (current : Current earlier before.publications) :
    Current (earlier ++ actions) after.publications := by
  induction leads generalizing earlier with
  | refl => rwa [List.append_nil]
  | step between _ ih =>
    have rest := ih (perform_arranged arranged _ between)
      (perform_current arranged current _ between)
    rwa [List.append_assoc] at rest

/-- Actions that remove no service from within carry on what is attached. -/
theorem continues (leads : Leads before actions after) (attached : before.Attached ledger)
    (plain : ∀ action ∈ actions, action.IsGenuine ∧ action.SparesServices) :
    Continues before after := by
  induction leads generalizing ledger with
  | refl => exact attached.continues
  | step between _ ih =>
    obtain ⟨⟨genuine, spares⟩, later⟩ := List.forall_mem_cons.mp plain
    have first := perform_continues attached genuine spares between
    obtain ⟨more, still⟩ := first.attached
    exact first.trans (ih still later)

/-- An object is offered all the way if it is neither given up nor published again. -/
theorem offers (leads : Leads before actions after) (arranged : before.publications.Arranged)
    (offers : before.publications.Offers client root path handle)
    (keeps : ∀ action ∈ actions, ¬action.Retires client root path)
    (once : ∀ action ∈ actions, ¬action.Publishes client path) :
    after.publications.Offers client root path handle := by
  induction leads with
  | refl => exact offers
  | step between _ ih =>
    obtain ⟨kept, keeps⟩ := List.forall_mem_cons.mp keeps
    obtain ⟨here, once⟩ := List.forall_mem_cons.mp once
    exact ih (perform_arranged arranged _ between)
      (perform_offers arranged offers kept here between) keeps once

/-- Once an object was published again, no object is ever linked to its attribute. -/
theorem unlinked (leads : Leads before actions after) (attached : before.Attached ledger)
    (plain : ∀ action ∈ actions, action.IsGenuine ∧ action.SparesServices)
    (arranged : before.publications.Arranged)
    (offers : before.publications.Offers client root path handle)
    (keeps : ∀ action ∈ actions, ¬action.Retires client root path)
    (again : ∃ action ∈ actions, action.Publishes client path) :
    handle ∉ after.publications.links := by
  induction leads generalizing ledger with
  | refl =>
    obtain ⟨action, none, -⟩ := again
    cases none
  | @step catalogue after action actions between rest ih =>
    obtain ⟨⟨genuine, spares⟩, later⟩ := List.forall_mem_cons.mp plain
    obtain ⟨kept, keeps⟩ := List.forall_mem_cons.mp keeps
    have first := perform_continues attached genuine spares between
    obtain ⟨more, still⟩ := first.attached
    by_cases here : action.Publishes client path
    · have gone : handle ∉ (catalogue.perform action between).1.publications.links := by
        cases action with
        | publish owner object =>
          obtain ⟨rfl, rfl⟩ := here
          exact Publications.publish_unlinks arranged attached.attached.unshared genuine offers
        | _ => exact here.elim
      -- The handle was given out, so it will not be given out again.
      have given : handle.toNat < catalogue.database.nextHandle := by
        obtain ⟨service, registered, offer⟩ := offers
        obtain ⟨object, there, -, linked⟩ := offer.linked
        exact attached.attached.links_below attached.recorded handle
          (Publications.mem_links.mpr ⟨service, registered, object, there, linked⟩)
      intro member
      rcases (rest.continues still later).fresh handle member with there | new
      · exact gone there
      · have grows := first.grows
        omega
    · obtain ⟨other, among, publishes⟩ := again
      have further : ∃ action ∈ actions, action.Publishes client path := by
        rcases List.mem_cons.mp among with rfl | behind
        · exact absurd publishes here
        · exact ⟨other, behind, publishes⟩
      exact ih still later (perform_arranged arranged action between)
        (perform_offers arranged offers kept here between) keeps further

/-- As long as the client keeps the object, a read of its attribute is answered with the value that
was published last, unless the object has been published again; then it fails. -/
theorem read (leads : Leads before actions after) (attached : before.Attached ledger)
    (plain : ∀ action ∈ actions, action.IsGenuine ∧ action.SparesServices)
    (arranged : before.publications.Arranged) (current : Current earlier before.publications)
    (offers : before.publications.Offers client root path handle)
    (keeps : ∀ action ∈ actions, ¬action.Retires client root path) {entry : Attribute}
    (same : entry.handle = handle) (env : Environment B A) :
    ((∀ action ∈ actions, ¬action.Publishes client path) →
      ∃ value, latest? client path (earlier ++ actions) = some value ∧
        after.publications.handler.read entry env = (.ok value, env)) ∧
    ((∃ action ∈ actions, action.Publishes client path) →
      after.publications.handler.read entry env = (.error .doesNotExist, env)) := by
  constructor
  · intro once
    obtain ⟨more, still⟩ := (leads.continues attached plain).attached
    obtain ⟨object, member, rfl, answer⟩ :=
      (leads.offers arranged offers keeps once).read still.attached.unshared same env
    exact ⟨object.value, leads.current arranged current client object member, answer⟩
  · intro again
    subst same
    exact Publications.read_unlinked (leads.unlinked attached plain arranged offers keeps again) env

end Leads

end Catalogue

end BluetoothHost
