import BluetoothHost.FirstMatch
import BluetoothHost.Bus.Reply
import BluetoothHost.Gatt.Database.Build
import BluetoothHost.Gatt.Publication.Object

/-!
# Published services

A client registers the path of a service, then its objects become known one by one. They are kept
in the order of their paths, so that the object of the service comes first and every
characteristic comes before its descriptors. Once the client says that all are known, the service
is built from them.
-/

namespace BluetoothHost

/-- A service that a client implements. -/
structure PublishedService where
  /-- The client. -/
  owner : ClientName
  /-- The path under which the service is registered. -/
  path : ObjectPath
  /-- The registration to be answered, until the client is ready. -/
  registration : Option ReplyToken
  /-- The objects in ascending order of their paths. -/
  objects : List PublishedObject := []
  /-- The declaration of the service, once it has been built. -/
  service : Option Handle := none
deriving DecidableEq

namespace PublishedService

/-- Whether the registration is still to be answered. -/
def isPending (service : PublishedService) : Bool := service.registration.isSome

/-- Whether the service belongs to a client. -/
def isOwnedBy (client : String) (service : PublishedService) : Bool :=
  service.owner.value == client

/-- Whether the service is registered under a path. -/
def hasPath (path : String) (service : PublishedService) : Bool := service.path.value == path

/-- Whether the service of a client is registered under a path. -/
def isRegistration (client path : String) (service : PublishedService) : Bool :=
  service.hasPath path && service.isOwnedBy client

/-- Whether a client published an object with a path for the service. -/
def holdsObject (client path : String) (service : PublishedService) : Bool :=
  service.isOwnedBy client && service.objects.any (PublishedObject.hasPath path)

/-- The objects with one more in front of the first that has a higher path. -/
def place (object : PublishedObject) : List PublishedObject → List PublishedObject
  | [] => [object]
  | first :: rest =>
    if object.path.value < first.path.value then object :: first :: rest
    else first :: place object rest

/-- The service after an object was published under it. An object published again is replaced; a
new one is refused when there are too many. -/
def publish? (service : PublishedService) (object : PublishedObject) : Option PublishedService :=
  if service.objects.any (PublishedObject.hasPath object.path.value) then
    some { service with
      objects := updateFirst (PublishedObject.hasPath object.path.value) (fun _ => object)
        service.objects }
  else if service.objects.length < Limits.publishedObjects then
    some { service with objects := place object service.objects }
  else
    none

/-- The service without the object of a path. -/
def withdraw (service : PublishedService) (path : String) : PublishedService :=
  { service with objects := service.objects.eraseP (PublishedObject.hasPath path) }

/-- The service with a new value of the object of a path. -/
def setValue (service : PublishedService) (path : String) (value : AttributeValue) :
    PublishedService :=
  { service with
    objects := updateFirst (PublishedObject.hasPath path) (fun object => { object with value })
      service.objects }

/-- Add the attribute for an object other than that of the service. -/
def buildObject (object : PublishedObject) (database : Database) :
    Except Error Handle × Database :=
  match object.uuid with
  | none => (.error .invalidArguments, database)
  | some uuid =>
    match object.interface with
    | .service => (.error .invalidArguments, database)
    | .descriptor => database.addDescriptor uuid .both
    | .characteristic =>
      match object.properties with
      | .error cause => (.error cause, database)
      | .ok properties => database.addCharacteristic uuid properties (.ofProperties properties)

/-- Add the attributes for objects in order and link each object to its attribute. -/
def buildObjects : List PublishedObject → Database → Except Error (List PublishedObject) × Database
  | [], database => (.ok [], database)
  | object :: rest, database =>
    match buildObject object database with
    | (.error cause, database) => (.error cause, database)
    | (.ok handle, database) =>
      match buildObjects rest database with
      | (.error cause, database) => (.error cause, database)
      | (.ok rest, database) => (.ok ({ object with linked := some handle } :: rest), database)

/-- Build the service from its objects. The first has to be that of the service itself. A failure
may leave attributes behind; the declaration by which they can be removed is then known. -/
def build (service : PublishedService) (database : Database) :
    Except Error Unit × PublishedService × Database :=
  match service.objects with
  | [] => (.error .invalidArguments, service, database)
  | head :: rest =>
    match head.uuid with
    | none => (.error .invalidArguments, service, database)
    | some uuid =>
      if head.interface = .service ∧ head.path = service.path then
        match database.addService uuid with
        | (.error cause, database) => (.error cause, service, database)
        | (.ok handle, database) =>
          let started := { service with service := some handle }
          match buildObjects rest database with
          | (.error cause, database) => (.error cause, started, database)
          | (.ok rest, database) =>
            (.ok (), { started with objects := { head with linked := some handle } :: rest },
              database)
      else
        (.error .invalidArguments, service, database)

end PublishedService

end BluetoothHost
