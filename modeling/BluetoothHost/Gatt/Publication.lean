import BluetoothHost.Gatt.Database.Access
import BluetoothHost.Gatt.Database.Registration
import BluetoothHost.Gatt.Publication.Service

/-!
# Services published by clients

The services that bus clients implement, in the order of their registration. Peers' reads of
their attributes are answered with the values last published, and peers' writes are passed on to
the clients.
-/

namespace BluetoothHost

/-- The services that clients implement. -/
structure Publications where
  /-- The services in the order of their registration. -/
  services : List PublishedService := []
deriving DecidableEq

namespace Publications

variable {B A : Type}

/-- The number of services. -/
def size (publications : Publications) : Nat := publications.services.length

/-- Whether there is no service. -/
def isEmpty (publications : Publications) : Bool := publications.services.isEmpty

/-- The service registered under a path. -/
def get? (publications : Publications) (path : String) : Option PublishedService :=
  publications.services.find? (PublishedService.hasPath path)

/-- A client registers a service; the call is answered when the client is ready. -/
def register (publications : Publications) (client path : String) (token : ReplyToken) :
    Except Error Unit × Publications :=
  if (publications.get? path).isSome then (.error .alreadyExists, publications)
  else
    match Text.ofString? Limits.clientName client, Text.ofString? Limits.objectPath path with
    | some owner, some path =>
      if publications.size < Limits.publishedServices then
        (.ok (), ⟨publications.services ++ [{ owner, path, registration := some token }]⟩)
      else
        (.error .noResources, publications)
    | _, _ => (.error .invalidArguments, publications)

/-- A client published an object. It goes to the first of the client's services that it lies
under; the truth value says whether some service took it. -/
def publish (publications : Publications) (client : String) (object : PublishedObject) :
    Bool × Publications :=
  let takes (service : PublishedService) : Bool :=
    service.isOwnedBy client && object.isUnder service.path.value
  match publications.services.find? takes with
  | none => (false, publications)
  | some service =>
    match service.publish? object with
    | none => (false, publications)
    | some service => (true, ⟨updateFirst takes (fun _ => service) publications.services⟩)

/-- A client withdrew an object. The truth value says whether it was known. -/
def withdraw (publications : Publications) (client path : String) : Bool × Publications :=
  (publications.services.any (PublishedService.holdsObject client path),
    ⟨updateFirst (PublishedService.holdsObject client path) (fun service => service.withdraw path)
      publications.services⟩)

/-- The object with a path that a client published, in the first of its services that has one. -/
def object? (publications : Publications) (client path : String) : Option PublishedObject :=
  (publications.services.find? (PublishedService.holdsObject client path)).bind fun service =>
    service.objects.find? (PublishedObject.hasPath path)

/-- The object linked to an attribute, with the service that it belongs to. -/
def linkedTo? (publications : Publications) (handle : Handle) :
    Option (PublishedService × PublishedObject) :=
  publications.services.findSome? fun service =>
    (service.objects.find? fun object => object.linked == some handle).map fun object =>
      (service, object)

section Server

variable [AttributeServer A]

/-- Remove what was built for a service from the database. -/
def tearDown (service : PublishedService) (database : Database) (env : Environment B A) :
    Database × Environment B A :=
  match service.service with
  | none => (database, env)
  | some handle => (database.removeService handle env).2

/-- A client gives up a service. -/
def unregister (publications : Publications) (database : Database) (client path : String)
    (env : Environment B A) : Except Error Unit × Publications × Database × Environment B A :=
  match publications.services.find? (PublishedService.isRegistration client path) with
  | none => (.error .doesNotExist, publications, database, env)
  | some service =>
    let (database, env) := tearDown service database env
    (.ok (), ⟨publications.services.eraseP (PublishedService.isRegistration client path)⟩,
      database, env)

/-- Remove what was built for each of these services. -/
def tearDownEach : List PublishedService → Database → Environment B A →
    Database × Environment B A
  | [], database, env => (database, env)
  | service :: rest, database, env =>
    let (database, env) := tearDown service database env
    tearDownEach rest database env

/-- A client left the bus: all its services go. The number says how many they were. -/
def clientDisconnected (publications : Publications) (database : Database) (client : String)
    (env : Environment B A) : Nat × Publications × Database × Environment B A :=
  let (leaving, staying) := publications.services.partition (PublishedService.isOwnedBy client)
  let (database, env) := tearDownEach leaving database env
  (leaving.length, ⟨staying⟩, database, env)

/-- A client published a new value of an object. Once there is an attribute for the object, the
value goes on to the database. -/
def valueChanged (publications : Publications) (database : Database) (client path : String)
    (value : List UInt8) (env : Environment B A) :
    Except Error Unit × Publications × Database × Environment B A :=
  match publications.object? client path with
  | none => (.error .doesNotExist, publications, database, env)
  | some object =>
    match Bytes.ofList? Limits.attributeValue value with
    | none => (.error .noResources, publications, database, env)
    | some kept =>
      let publications : Publications :=
        ⟨updateFirst (PublishedService.holdsObject client path)
          (fun service => service.setValue path kept) publications.services⟩
      match object.linked, object.uuid with
      | some _, some uuid =>
        let (outcome, database, env) := database.updateValue uuid value env
        (outcome, publications, database, env)
      | _, _ => (.ok (), publications, database, env)

variable [MessageBus B]

/-- A client says that all objects of a service are known. The service is built and the
registration answered; a service that cannot be built is dropped. One that was built is then
registered with the attribute server. -/
def clientReady (publications : Publications) (database : Database) (client path : String)
    (env : Environment B A) : Except Error Unit × Publications × Database × Environment B A :=
  let isRegistration := PublishedService.isRegistration client path
  match publications.services.find? isRegistration with
  | none => (.error .doesNotExist, publications, database, env)
  | some service =>
    match service.registration with
    | none => (.error .notAvailable, publications, database, env)
    | some token =>
      match { service with registration := none }.build database with
      | (.error _, service, database) =>
        let (database, env) := tearDown service database env
        let env := (env.sendReply token (.error .invalidArguments)).2
        (.ok (), ⟨publications.services.eraseP isRegistration⟩, database, env)
      | (.ok (), service, database) =>
        let env := (env.sendReply token .done).2
        let (outcome, database, env) := database.materialize env
        (outcome.map fun _ => (),
          ⟨updateFirst isRegistration (fun _ => service) publications.services⟩, database, env)

end Server

/-- Serves the attributes of published services: a read is answered with the value last
published, a write is passed on to the client. -/
def handler [MessageBus B] (publications : Publications) :
    AttributeHandler (Environment B A) where
  read entry env :=
    match publications.linkedTo? entry.handle with
    | none => (.error .doesNotExist, env)
    | some (_, object) => (.ok object.value, env)
  write entry value env :=
    match publications.linkedTo? entry.handle with
    | none => (.error .doesNotExist, env)
    | some (service, object) =>
      env.setRemoteValue service.owner.value object.path.value value

end Publications

end BluetoothHost
