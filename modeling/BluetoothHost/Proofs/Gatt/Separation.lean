import BluetoothHost.Proofs.Gatt.Arrangement

/-!
# What a client leaves alone among published services

A published service is found by the name of its client, with a path or with an object. So whatever
a client does, the services of all others stay as they are, with their registrations, objects and
attributes. Once it has left the bus it has no service, and its departure does nothing if it is
reported again.
-/

namespace BluetoothHost.Publications

variable {B A : Type} {publications : Publications} {database : Database} {client path : String}

/-- The services of others than this client. -/
def othersOf (client : String) (publications : Publications) : List PublishedService :=
  publications.services.filter fun service => !service.isOwnedBy client

/-- A changed service of the client is not among those of others, nor was it before. -/
theorem othersOf_updateFirst {test : PublishedService → Bool}
    {change : PublishedService → PublishedService}
    (own : ∀ service, test service = true → service.isOwnedBy client = true)
    (kept : ∀ service, test service = true → (change service).isOwnedBy client = true) :
    othersOf client ⟨updateFirst test change publications.services⟩ =
      publications.othersOf client := by
  refine filter_updateFirst (fun service passed => ?_) publications.services
  rw [own service passed, kept service passed]
  exact ⟨rfl, rfl⟩

/-- Without one of the services of the client those of others are all there. -/
theorem othersOf_without {front back : List PublishedService} {service : PublishedService}
    (services_eq : publications.services = front ++ service :: back)
    (own : service.isOwnedBy client = true) :
    othersOf client ⟨front ++ back⟩ = publications.othersOf client := by
  rw [othersOf, othersOf, services_eq, List.filter_append, List.filter_append,
    List.filter_cons_of_neg (by simp [own])]

/-- A registration leaves the services of others alone. -/
theorem register_othersOf (publications : Publications) (client path : String)
    (token : ReplyToken) :
    (publications.register client path token).2.othersOf client =
      publications.othersOf client := by
  unfold register
  split
  · rfl
  split
  · rename_i owner root called _
    split
    · have own : (owner.value == client) = true :=
        beq_iff_eq.mpr (Text.value_of_ofString? called)
      simp [othersOf, PublishedService.isOwnedBy, own]
    · rfl
  · rfl

/-- So does an object that is published. -/
theorem publish_othersOf (publications : Publications) (client : String)
    (object : PublishedObject) :
    (publications.publish client object).2.othersOf client = publications.othersOf client := by
  unfold publish
  dsimp only
  split
  · rfl
  rename_i service found
  split
  · rfl
  rename_i made published
  have takes := List.find?_some found
  have own : made.isOwnedBy client = true := by
    rw [PublishedService.publish?_eq published]
    exact (Bool.and_eq_true_iff.mp takes).1
  exact othersOf_updateFirst (fun other taken => (Bool.and_eq_true_iff.mp taken).1) fun _ _ => own

/-- So does one that is withdrawn. -/
theorem withdraw_othersOf (publications : Publications) (client path : String) :
    (publications.withdraw client path).2.othersOf client = publications.othersOf client := by
  have own : ∀ service, PublishedService.holdsObject client path service = true →
      service.isOwnedBy client = true := fun _ holds => (Bool.and_eq_true_iff.mp holds).1
  exact othersOf_updateFirst own own

section Server

variable [AttributeServer A]

/-- So does a new value. -/
theorem valueChanged_othersOf (publications : Publications) (database : Database)
    (client path : String) (value : List UInt8) (env : Environment B A) :
    (publications.valueChanged database client path value env).2.1.othersOf client =
      publications.othersOf client := by
  have own : ∀ service, PublishedService.holdsObject client path service = true →
      service.isOwnedBy client = true := fun _ holds => (Bool.and_eq_true_iff.mp holds).1
  have services := publications.valueChanged_services database client path value env
  split at services
  · rw [othersOf, othersOf, services]
  · rw [othersOf, services]
    exact othersOf_updateFirst own own

/-- So does a service that is given up. -/
theorem unregister_othersOf (publications : Publications) (database : Database)
    (client path : String) (env : Environment B A) :
    (publications.unregister database client path env).2.1.othersOf client =
      publications.othersOf client := by
  unfold unregister
  split
  · rfl
  · rename_i service found
    obtain ⟨front, back, services_eq, -, erased⟩ := split_of_find? found
    have registered := List.find?_some found
    dsimp only
    rw [erased]
    exact othersOf_without services_eq (Bool.and_eq_true_iff.mp registered).2

/-- So does the word that all objects are known. -/
theorem clientReady_othersOf [MessageBus B] (publications : Publications) (database : Database)
    (client path : String) (env : Environment B A) :
    (publications.clientReady database client path env).2.1.othersOf client =
      publications.othersOf client := by
  have readied := publications.clientReady_readied database client path env
  generalize publications.clientReady database client path env = result at readied ⊢
  cases readied with
  | ignored => rfl
  | dropped found waits services_eq built =>
    have registered := List.find?_some found
    exact othersOf_without services_eq (Bool.and_eq_true_iff.mp registered).2
  | @built front back record made token begun found waits services_eq built enrolled =>
    have registered := List.find?_some found
    have own : record.isOwnedBy client = true := (Bool.and_eq_true_iff.mp registered).2
    have same : made.owner = record.owner := congrArg Enrolment.owner enrolled
    have still : made.isOwnedBy client = true := by
      rwa [PublishedService.isOwnedBy, same]
    have replaced : othersOf client ⟨front ++ back⟩ = othersOf client ⟨front ++ made :: back⟩ :=
      othersOf_without rfl still
    rw [← replaced]
    exact othersOf_without services_eq own

/-- The departure of the client leaves the services of others, and no more. -/
theorem clientDisconnected_othersOf (publications : Publications) (database : Database)
    (client : String) (env : Environment B A) :
    (publications.clientDisconnected database client env).2.1.othersOf client =
      publications.othersOf client := by
  rw [othersOf, clientDisconnected_services, List.filter_filter, othersOf]
  simp only [Bool.and_self]

/-- A client without services departs without a trace. -/
theorem clientDisconnected_absent
    (absent : ∀ service ∈ publications.services, service.isOwnedBy client = false)
    (database : Database) (env : Environment B A) :
    publications.clientDisconnected database client env = (0, publications, database, env) := by
  have staying : publications.services.filter (fun service => !service.isOwnedBy client) =
      publications.services :=
    List.filter_eq_self.mpr fun service member => by simp [absent service member]
  have leaving : publications.services.filter (PublishedService.isOwnedBy client) = [] :=
    List.filter_eq_nil_iff.mpr fun service member => by simp [absent service member]
  unfold clientDisconnected
  rw [List.partition_eq_filter_filter, leaving]
  show (0, (⟨publications.services.filter fun service => !service.isOwnedBy client⟩ : Publications),
    database, env) = (0, publications, database, env)
  rw [staying]

end Server

end BluetoothHost.Publications
