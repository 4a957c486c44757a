import BluetoothHost.Environment
import BluetoothHost.Gatt.Database

/-!
# Values and access

Whoever implements a characteristic reports its new values, which are kept here and sent to
peers; peers read and write attributes by their UUIDs. The first update of a characteristic that
the server accepts only makes it ready, later ones are notified; a write by a peer makes it
unready again.
-/

namespace BluetoothHost.Database

variable {B A : Type}

/-- Set or clear the ready flag of the attribute with a handle. -/
def setNotifyReady (database : Database) (handle : Handle) (ready : Bool) :
    Except Error Unit × Database :=
  match database.position? handle with
  | none => (.error .doesNotExist, database)
  | some index =>
    (.ok (), database.modify index fun entry => { entry with notifyReady := ready })

/-- The properties of the characteristic whose value has a handle, as its declaration right in
front of it says. -/
def propertiesOfValue? (database : Database) (handle : Handle) :
    Option CharacteristicProperties :=
  if handle = 0 then none
  else (database.findHandle? (handle - 1)).bind Attribute.characteristicProperties?

/-- Send an accepted value to the peers of a characteristic that pushes its updates: the first
time only the ready flag is set. -/
def push [AttributeServer A] (database : Database) (entry : Attribute) (uuid : Uuid)
    (value : List UInt8) (env : Environment B A) :
    Except Error Unit × Database × Environment B A :=
  if entry.notifyReady then (.ok (), database, env.notify uuid value)
  else
    let (outcome, database) := database.setNotifyReady entry.handle true
    (outcome, database, env)

/-- Keep a new value of the first attribute found under a UUID and pass it on to the server. The
value of an attribute without a characteristic declaration is kept and no more. -/
def updateValue [AttributeServer A] (database : Database) (uuid : Uuid) (value : List UInt8)
    (env : Environment B A) : Except Error Unit × Database × Environment B A :=
  match database.positionOf? uuid, database.findUuid? uuid with
  | some index, some entry =>
    match Bytes.ofList? Limits.attributeValue value with
    | none => (.error .noResources, database, env)
    | some kept =>
      let database := database.modify index fun entry => { entry with value := kept }
      match database.propertiesOfValue? entry.handle with
      | none => (.ok (), database, env)
      | some properties =>
        match env.updateValue uuid value with
        | (false, env) => (.ok (), database, env)
        | (true, env) =>
          if properties.pushesUpdates then database.push entry uuid value env
          else (.ok (), database, env)
  | _, _ => (.error .doesNotExist, database, env)

/-- Answer a read by a peer: declarations from the database, other attributes through the
handler. -/
def read {E : Type} (database : Database) (uuid : Uuid) (handler : AttributeHandler E) (env : E) :
    Except Error AttributeValue × E :=
  match database.findUuid? uuid with
  | none => (.error .doesNotExist, env)
  | some entry =>
    match entry.permissions with
    | none => (.ok entry.value, env)
    | some permissions =>
      if permissions.read then handler.read entry env else (.error .notSupported, env)

/-- Take a write by a peer through the handler. The attribute is no longer ready then, whatever
the handler answers. -/
def write {E : Type} (database : Database) (uuid : Uuid) (value : List UInt8)
    (handler : AttributeHandler E) (env : E) : Except Error Unit × Database × E :=
  match database.positionOf? uuid, database.findUuid? uuid with
  | some index, some entry =>
    if entry.permissions.any Permissions.write then
      let unready (entry : Attribute) : Attribute := { entry with notifyReady := false }
      let (outcome, env) := handler.write (unready entry) value env
      (outcome, database.modify index unready, env)
    else
      (.error .notSupported, database, env)
  | _, _ => (.error .doesNotExist, database, env)

end BluetoothHost.Database
