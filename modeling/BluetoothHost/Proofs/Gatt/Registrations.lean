import BluetoothHost.Proofs.Gatt.Silence

/-!
# The registrations of published services

A published service keeps the token of its registration until its client is ready. A token that no
service keeps comes to none of them by anything but a registration under it, and nothing that
happens to published services answers it.
-/

namespace BluetoothHost

open Environment (Silent)

variable {B A : Type} {token : ReplyToken}

/-- Who registered a service under which path, and the registration that is still to be
answered. -/
structure Enrolment where
  /-- The client. -/
  owner : ClientName
  /-- The path. -/
  path : ObjectPath
  /-- The token of the registration, until it has been answered. -/
  registration : Option ReplyToken
deriving DecidableEq

namespace PublishedService

/-- The enrolment of a service. -/
def enrolment (service : PublishedService) : Enrolment :=
  ⟨service.owner, service.path, service.registration⟩

/-- Publishing an object changes the objects and nothing else. -/
theorem publish?_eq {service after : PublishedService} {object : PublishedObject}
    (published : service.publish? object = some after) :
    after = { service with objects := after.objects } := by
  unfold publish? at published
  repeat' split at published
  all_goals cases published
  all_goals rfl

/-- Building a service leaves the enrolment alone. -/
theorem build_enrolment (service : PublishedService) (database : Database) :
    (service.build database).2.1.enrolment = service.enrolment := by
  unfold build
  repeat' split
  all_goals rfl

end PublishedService

namespace Publications

variable {publications : Publications} {client path : String}

/-! ### New values -/

/-- An object that is not known is held by no service. -/
theorem object?_eq_none (unknown : publications.object? client path = none) :
    ∀ service ∈ publications.services, service.holdsObject client path = false := by
  rw [object?, Option.bind_eq_none_iff] at unknown
  refine fun service member => Bool.eq_false_iff.mpr fun holds => ?_
  obtain ⟨first, found⟩ := Option.isSome_iff_exists.mp
    (List.find?_isSome.mpr ⟨service, member, holds⟩)
  have held : first.holdsObject client path = true := List.find?_some found
  have within : first.objects.any (PublishedObject.hasPath path) = true :=
    ((Bool.and_eq_true _ _).mp held).2
  obtain ⟨object, present, named⟩ := List.any_eq_true.mp within
  exact List.find?_eq_none.mp (unknown first found) object present named

/-- A new value that is not too long is kept of the object that has the path, and of none if
there is no such object. -/
theorem valueChanged_services [AttributeServer A] (publications : Publications)
    (database : Database) (client path : String) (value : List UInt8) (env : Environment B A) :
    (publications.valueChanged database client path value env).2.1.services =
      match Bytes.ofList? Limits.attributeValue value with
      | none => publications.services
      | some kept => updateFirst (PublishedService.holdsObject client path)
          (fun service => service.setValue path kept) publications.services := by
  unfold valueChanged
  cases known : publications.object? client path with
  | none =>
    cases Bytes.ofList? Limits.attributeValue value with
    | none => rfl
    | some kept => exact (updateFirst_eq_self _ _ _ (object?_eq_none known)).symm
  | some object =>
    cases Bytes.ofList? Limits.attributeValue value with
    | none => rfl
    | some kept =>
      dsimp only
      split <;> rfl

/-! ### What does not depend on the objects -/

section Observe

variable {β : Type} {observe : PublishedService → β}

/-- A published object changes nothing else. -/
theorem publish_map (kept : ∀ service objects, observe { service with objects } = observe service)
    (publications : Publications) (client : String) (object : PublishedObject) :
    (publications.publish client object).2.services.map observe =
      publications.services.map observe := by
  unfold publish
  dsimp only
  split
  · rfl
  · rename_i service found
    split
    · rfl
    · rename_i after published
      obtain ⟨front, back, services_eq, updated, -⟩ := split_of_find? found
      have same : observe after = observe service := by
        rw [PublishedService.publish?_eq published, kept]
      rw [updated, services_eq, List.map_append, List.map_append, List.map_cons, List.map_cons,
        same]

/-- Nor does one that is withdrawn. -/
theorem withdraw_map (kept : ∀ service objects, observe { service with objects } = observe service)
    (publications : Publications) (client path : String) :
    (publications.withdraw client path).2.services.map observe =
      publications.services.map observe :=
  map_updateFirst (fun service => kept service _) _

/-- Nor does a new value. -/
theorem valueChanged_map [AttributeServer A]
    (kept : ∀ service objects, observe { service with objects } = observe service)
    (publications : Publications) (database : Database) (client path : String)
    (value : List UInt8) (env : Environment B A) :
    (publications.valueChanged database client path value env).2.1.services.map observe =
      publications.services.map observe := by
  rw [valueChanged_services]
  split
  · rfl
  · exact map_updateFirst (fun service => kept service _) _

end Observe

/-! ### Registrations -/

/-- No service waits to be registered under this token. -/
def Unregistered (token : ReplyToken) (publications : Publications) : Prop :=
  ∀ service ∈ publications.services, service.registration ≠ some token

/-- Fewer services keep fewer registrations. -/
theorem Unregistered.sublist {services : List PublishedService}
    (unregistered : publications.Unregistered token)
    (sublist : services.Sublist publications.services) : Unregistered token ⟨services⟩ :=
  fun service member => unregistered service (sublist.subset member)

/-- A registration under another token brings none under this one. -/
theorem register_unregistered (unregistered : publications.Unregistered token) {other : ReplyToken}
    (different : other ≠ token) :
    (publications.register client path other).2.Unregistered token := by
  unfold register
  repeat' split
  all_goals first
    | exact unregistered
    | skip
  intro service member
  rcases List.mem_append.mp member with before | new
  · exact unregistered service before
  · rw [List.mem_singleton.mp new]
    simpa using different

/-- A token that no service keeps is kept by none while only objects change. -/
theorem Unregistered.of_map {after : Publications} (unregistered : publications.Unregistered token)
    (same : after.services.map PublishedService.registration =
      publications.services.map PublishedService.registration) : after.Unregistered token := by
  intro service member registered
  have kept : some token ∈ publications.services.map PublishedService.registration := by
    rw [← same, ← registered]
    exact List.mem_map_of_mem member
  obtain ⟨old, there, waits⟩ := List.mem_map.mp kept
  exact unregistered old there waits

/-- Publishing an object registers nothing. -/
theorem publish_unregistered (unregistered : publications.Unregistered token)
    (object : PublishedObject) : (publications.publish client object).2.Unregistered token :=
  unregistered.of_map (publish_map (fun _ _ => rfl) publications client object)

/-- Neither does withdrawing one. -/
theorem withdraw_unregistered (unregistered : publications.Unregistered token) :
    (publications.withdraw client path).2.Unregistered token :=
  unregistered.of_map (withdraw_map (fun _ _ => rfl) publications client path)

section Server

variable [AttributeServer A]

/-- Removing what was built for a service answers nothing. -/
theorem tearDown_silent (service : PublishedService) (database : Database)
    (env : Environment B A) : env.Silent token (tearDown service database env).2 := by
  unfold tearDown
  cases service.service with
  | none => exact .refl env
  | some handle => exact database.removeService_silent handle env

/-- Removing what was built for several services answers nothing. -/
theorem tearDownEach_silent (services : List PublishedService) (database : Database)
    (env : Environment B A) : env.Silent token (tearDownEach services database env).2 := by
  induction services generalizing database env with
  | nil => exact .refl env
  | cons service rest ih => exact (tearDown_silent service database env).trans (ih _ _)

/-- Giving up a service answers nothing. -/
theorem unregister_silent (publications : Publications) (database : Database)
    (client path : String) (env : Environment B A) :
    env.Silent token (publications.unregister database client path env).2.2.2 := by
  unfold unregister
  split
  · exact .refl env
  · exact tearDown_silent _ database env

/-- One service goes at most. -/
theorem unregister_sublist (publications : Publications) (database : Database)
    (client path : String) (env : Environment B A) :
    (publications.unregister database client path env).2.1.services.Sublist
      publications.services := by
  unfold unregister
  split
  · exact .refl _
  · exact List.eraseP_sublist

/-- So giving it up brings no registration. -/
theorem unregister_unregistered (unregistered : publications.Unregistered token)
    (database : Database) (env : Environment B A) :
    (publications.unregister database client path env).2.1.Unregistered token :=
  unregistered.sublist (publications.unregister_sublist database client path env)

/-- The departure of a client answers nothing here. -/
theorem clientDisconnected_silent (publications : Publications) (database : Database)
    (client : String) (env : Environment B A) :
    env.Silent token (publications.clientDisconnected database client env).2.2.2 := by
  unfold clientDisconnected
  exact tearDownEach_silent _ database env

/-- Only the services of others remain. -/
theorem clientDisconnected_services (publications : Publications) (database : Database)
    (client : String) (env : Environment B A) :
    (publications.clientDisconnected database client env).2.1.services =
      publications.services.filter fun service => !service.isOwnedBy client := by
  unfold clientDisconnected
  rw [List.partition_eq_filter_filter]
  rfl

/-- When a client leaves, the services of others stay in order. -/
theorem clientDisconnected_sublist (publications : Publications) (database : Database)
    (client : String) (env : Environment B A) :
    (publications.clientDisconnected database client env).2.1.services.Sublist
      publications.services := by
  rw [clientDisconnected_services]
  exact List.filter_sublist

/-- The departure of a client brings no registration. -/
theorem clientDisconnected_unregistered (unregistered : publications.Unregistered token)
    (database : Database) (env : Environment B A) :
    (publications.clientDisconnected database client env).2.1.Unregistered token :=
  unregistered.sublist (publications.clientDisconnected_sublist database client env)

/-- A new value answers nothing. -/
theorem valueChanged_silent (publications : Publications) (database : Database)
    (client path : String) (value : List UInt8) (env : Environment B A) :
    env.Silent token (publications.valueChanged database client path value env).2.2.2 := by
  unfold valueChanged
  split
  · exact .refl env
  · split
    · exact .refl env
    · dsimp only
      split
      · exact database.updateValue_silent _ value env
      · exact .refl env

/-- Nor does it bring a registration. -/
theorem valueChanged_unregistered (unregistered : publications.Unregistered token)
    (database : Database) (value : List UInt8) (env : Environment B A) :
    (publications.valueChanged database client path value env).2.1.Unregistered token :=
  unregistered.of_map
    (valueChanged_map (fun _ _ => rfl) publications database client path value env)

variable [MessageBus B]

/-! ### When a client is ready -/

/-- Everything that can happen when a client is ready. -/
inductive Readied (publications : Publications) (database : Database) (client path : String)
    (env : Environment B A) :
    Except Error Unit × Publications × Database × Environment B A → Prop
  /-- No registration of the client waits under the path. -/
  | ignored {cause : Error}
      (idle : ∀ record, publications.services.find?
        (PublishedService.isRegistration client path) = some record → record.registration = none) :
      Readied publications database client path env (.error cause, publications, database, env)
  /-- The service cannot be built and is dropped. -/
  | dropped {front back : List PublishedService} {record made : PublishedService}
      {token : ReplyToken} {begun : Database} {cause : Error}
      (found : publications.services.find? (PublishedService.isRegistration client path) =
        some record)
      (waits : record.registration = some token)
      (services_eq : publications.services = front ++ record :: back)
      (built : { record with registration := none }.build database = (.error cause, made, begun)) :
      Readied publications database client path env (.ok (), ⟨front ++ back⟩,
        (tearDown made begun env).1,
        ((tearDown made begun env).2.sendReply token (.error .invalidArguments)).2)
  /-- The service is built, its registration is answered, and it is registered with the server. -/
  | built {front back : List PublishedService} {record made : PublishedService}
      {token : ReplyToken} {begun : Database}
      (found : publications.services.find? (PublishedService.isRegistration client path) =
        some record)
      (waits : record.registration = some token)
      (services_eq : publications.services = front ++ record :: back)
      (built : { record with registration := none }.build database = (.ok (), made, begun))
      (enrolled : made.enrolment = ⟨record.owner, record.path, none⟩) :
      Readied publications database client path env
        ((begun.materialize (env.sendReply token .done).2).1.map fun _ => (),
          ⟨front ++ made :: back⟩, (begun.materialize (env.sendReply token .done).2).2.1,
          (begun.materialize (env.sendReply token .done).2).2.2)

/-- There is nothing else that can happen when a client is ready. -/
theorem clientReady_readied (publications : Publications) (database : Database)
    (client path : String) (env : Environment B A) :
    Readied publications database client path env
      (publications.clientReady database client path env) := by
  unfold clientReady
  dsimp only
  split
  · rename_i absent
    exact .ignored fun record found => nomatch absent.symm.trans found
  · rename_i record found
    split
    · rename_i answered
      refine .ignored fun other known => ?_
      obtain rfl := Option.some.inj (found.symm.trans known)
      exact answered
    · rename_i token waits
      obtain ⟨front, back, services_eq, updated, erased⟩ := split_of_find? found
      have enrolled :=
        PublishedService.build_enrolment { record with registration := none } database
      split
      · rename_i built
        rw [erased]
        exact .dropped found waits services_eq built
      · rename_i built
        rw [built] at enrolled
        rw [updated]
        exact .built found waits services_eq built enrolled

/-- Without one of them the services are fewer. -/
theorem sublist_without {front back : List PublishedService} {record : PublishedService}
    (services_eq : publications.services = front ++ record :: back) :
    (front ++ back).Sublist publications.services := by
  rw [services_eq]
  exact (List.sublist_cons_self record back).append_left front

/-- Where one of them was replaced, the others are the same. -/
theorem mem_replaced {front back : List PublishedService} {record made other : PublishedService}
    (services_eq : publications.services = front ++ record :: back)
    (member : other ∈ front ++ made :: back) : other = made ∨ other ∈ publications.services := by
  rw [services_eq]
  rcases List.mem_append.mp member with before | later
  · exact .inr (List.mem_append_left _ before)
  · rcases List.mem_cons.mp later with same | behind
    · exact .inl same
    · exact .inr (List.mem_append_right _ (List.mem_cons_of_mem _ behind))

/-- That a client is ready answers the registration that waits for it, and no other call. -/
theorem clientReady_silent (unregistered : publications.Unregistered token) (database : Database)
    (env : Environment B A) :
    env.Silent token (publications.clientReady database client path env).2.2.2 ∧
      (publications.clientReady database client path env).2.1.Unregistered token := by
  have readied := publications.clientReady_readied database client path env
  generalize publications.clientReady database client path env = result at readied ⊢
  have foreign {record : PublishedService} {other : ReplyToken}
      (found : publications.services.find? (PublishedService.isRegistration client path) =
        some record) (waits : record.registration = some other) : other ≠ token := by
    rintro rfl
    exact unregistered record (List.mem_of_find?_eq_some found) waits
  cases readied with
  | ignored => exact ⟨.refl env, unregistered⟩
  | @dropped _ _ record made other begun _ found waits services_eq built =>
    have different := foreign found waits
    exact ⟨(tearDown_silent made begun env).trans (Environment.sendReply_silent _ different _),
      unregistered.sublist (sublist_without services_eq)⟩
  | @built _ _ record made other begun found waits services_eq built enrolled =>
    have different := foreign found waits
    refine ⟨(env.sendReply_silent different .done).trans (begun.materialize_silent _), ?_⟩
    intro service member
    rcases mem_replaced services_eq member with rfl | there
    · have cleared : service.registration = none := congrArg Enrolment.registration enrolled
      simp [cleared]
    · exact unregistered service there

end Server

end Publications

end BluetoothHost
