import BluetoothHost.Proofs.Gatt.Building
import BluetoothHost.Proofs.Gatt.Ledger

/-!
# Runs of the database and the published services

Code within the process builds services and removes them, clients publish services, peers write
values, and in between the bus and the attribute server go on by themselves. A run is a list of
such actions, and the ledger of a run says which attributes were created for which service.
-/

namespace BluetoothHost

/-- The database with the services that clients implement. -/
structure Catalogue where
  /-- The database. -/
  database : Database
  /-- The published services. -/
  publications : Publications := {}

namespace Catalogue

/-- What can befall a catalogue. -/
inductive Action (B A : Type)
  /-- A service is begun from within the process. -/
  | addService (uuid : Uuid)
  /-- A characteristic is added to the service under construction. -/
  | addCharacteristic (uuid : Uuid) (properties : CharacteristicProperties)
      (permissions : Permissions)
  /-- A descriptor is added to the service under construction. -/
  | addDescriptor (uuid : Uuid) (permissions : Permissions)
  /-- The service under construction is registered. -/
  | materialize
  /-- A service is removed. -/
  | removeService (service : Handle)
  /-- A characteristic has a new value. -/
  | updateValue (uuid : Uuid) (value : List UInt8)
  /-- A ready flag is set or cleared. -/
  | setNotifyReady (handle : Handle) (ready : Bool)
  /-- A peer writes an attribute that this handler implements; the handler acts on the bus. -/
  | write (uuid : Uuid) (value : List UInt8) (handler : AttributeHandler B)
  /-- A peer writes an attribute that a client implements. -/
  | writePublished (uuid : Uuid) (value : List UInt8)
  /-- A client registers a service. -/
  | register (client path : String) (token : ReplyToken)
  /-- A client gives up a service. -/
  | unregister (client path : String)
  /-- A client publishes an object. -/
  | publish (client : String) (object : PublishedObject)
  /-- A client withdraws an object. -/
  | withdraw (client path : String)
  /-- A client says that all objects of a service are known. -/
  | clientReady (client path : String)
  /-- A client publishes a new value of an object. -/
  | valueChanged (client path : String) (value : List UInt8)
  /-- A client leaves the bus. -/
  | clientDisconnected (client : String)
  /-- The bus and the attribute server have gone on by themselves. -/
  | evolve (bus : B) (server : A)

variable {B A : Type} [MessageBus B] [AttributeServer A]

/-- The catalogue and its neighbours after an action. -/
def perform (catalogue : Catalogue) (action : Action B A) (env : Environment B A) :
    Catalogue × Environment B A :=
  let ⟨database, publications⟩ := catalogue
  match action with
  | .addService uuid => (⟨(database.addService uuid).2, publications⟩, env)
  | .addCharacteristic uuid properties permissions =>
    (⟨(database.addCharacteristic uuid properties permissions).2, publications⟩, env)
  | .addDescriptor uuid permissions =>
    (⟨(database.addDescriptor uuid permissions).2, publications⟩, env)
  | .materialize =>
    let (_, database, env) := database.materialize env
    (⟨database, publications⟩, env)
  | .removeService service =>
    let (_, database, env) := database.removeService service env
    (⟨database, publications⟩, env)
  | .updateValue uuid value =>
    let (_, database, env) := database.updateValue uuid value env
    (⟨database, publications⟩, env)
  | .setNotifyReady handle ready =>
    (⟨(database.setNotifyReady handle ready).2, publications⟩, env)
  | .write uuid value handler =>
    let (_, database, bus) := database.write uuid value handler env.bus
    (⟨database, publications⟩, { env with bus })
  | .writePublished uuid value =>
    let (_, database, env) := database.write uuid value publications.handler env
    (⟨database, publications⟩, env)
  | .register client path token => (⟨database, (publications.register client path token).2⟩, env)
  | .unregister client path =>
    let (_, publications, database, env) := publications.unregister database client path env
    (⟨database, publications⟩, env)
  | .publish client object => (⟨database, (publications.publish client object).2⟩, env)
  | .withdraw client path => (⟨database, (publications.withdraw client path).2⟩, env)
  | .clientReady client path =>
    let (_, publications, database, env) := publications.clientReady database client path env
    (⟨database, publications⟩, env)
  | .valueChanged client path value =>
    let (_, publications, database, env) :=
      publications.valueChanged database client path value env
    (⟨database, publications⟩, env)
  | .clientDisconnected client =>
    let (_, publications, database, env) := publications.clientDisconnected database client env
    (⟨database, publications⟩, env)
  | .evolve bus server => (catalogue, { env with bus, server })

/-- The catalogue and its neighbours after a list of actions. -/
def run (catalogue : Catalogue) : List (Action B A) → Environment B A →
    Catalogue × Environment B A
  | [], env => (catalogue, env)
  | action :: actions, env =>
    let (catalogue, env) := catalogue.perform action env
    catalogue.run actions env

/-- The service for which an action adds attributes: the one that it begins with the next handle,
or the one under construction. -/
def builds (catalogue : Catalogue) : Action B A → Handle
  | .addService _ | .clientReady _ _ => UInt16.ofNat catalogue.database.nextHandle
  | _ => (catalogue.database.chain.head?.map Node.handle).getD 0

/-- For every handle that was given out during a list of actions, the service for which it was. -/
def ledger (catalogue : Catalogue) : List (Action B A) → Environment B A → List Creation
  | [], _ => []
  | action :: actions, env =>
    let (next, further) := catalogue.perform action env
    Database.creations (catalogue.builds action) catalogue.database next.database ++
      next.ledger actions further

variable {catalogue : Catalogue}

/-- Every action makes changes to the database, and all that it adds is added for one service. -/
theorem perform_changes (orderly : catalogue.database.Orderly) (action : Action B A)
    (env : Environment B A) :
    Database.Changes (catalogue.builds action) catalogue.database
      (catalogue.perform action env).1.database := by
  obtain ⟨database, publications⟩ := catalogue
  cases action with
  | addService uuid =>
    rcases Database.addService_cases orderly uuid with ⟨cause, refused⟩ |
      ⟨service, after, added, change, next, -, -⟩
    · simp only [perform, refused]
      exact .refl
    · have own : service = UInt16.ofNat database.nextHandle := by rw [← next, UInt16.ofNat_toNat]
      simp only [perform, added, builds, ← own]
      exact .single change
  | addCharacteristic uuid properties permissions =>
    rcases Database.addCharacteristic_cases orderly uuid properties permissions with
      ⟨cause, refused⟩ | ⟨head, rest, value, after, added, chain_eq, change, -⟩
    · simp only [perform, refused]
      exact .refl
    · have chain : database.chain.head? = some head := congrArg List.head? chain_eq
      simp only [perform, added, builds, chain]
      exact .single change
  | addDescriptor uuid permissions =>
    rcases Database.addDescriptor_cases orderly uuid permissions with
      ⟨cause, refused⟩ | ⟨head, rest, value, after, added, chain_eq, change, -⟩
    · simp only [perform, refused]
      exact .refl
    · have chain : database.chain.head? = some head := congrArg List.head? chain_eq
      simp only [perform, added, builds, chain]
      exact .single change
  | materialize => exact .single (database.materialize_change _ env)
  | removeService service => exact .single (database.removeService_change _ service env)
  | updateValue uuid value => exact database.updateValue_changes _ uuid value env
  | setNotifyReady handle ready => exact .single (database.setNotifyReady_change _ handle ready)
  | write uuid value handler => exact .single (database.write_change _ uuid value handler env.bus)
  | writePublished uuid value =>
    exact .single (database.write_change _ uuid value publications.handler env)
  | register => exact .refl
  | unregister client path => exact publications.unregister_changes _ database client path env
  | publish => exact .refl
  | withdraw => exact .refl
  | clientReady client path => exact (Publications.clientReady_changes orderly rfl env).1
  | valueChanged client path value =>
    exact publications.valueChanged_changes _ database client path value env
  | clientDisconnected client => exact Publications.tearDownEach_changes _ _ database env
  | evolve => exact .refl

/-- What an action builds for a client is the service for which it adds attributes. -/
theorem perform_built (orderly : catalogue.database.Orderly) (action : Action B A)
    (env : Environment B A) {handle : Handle}
    (member : handle ∈ (catalogue.perform action env).1.publications.built) :
    handle ∈ catalogue.publications.built ∨ ⟨handle, handle⟩ ∈ Database.creations
      (catalogue.builds action) catalogue.database (catalogue.perform action env).1.database := by
  obtain ⟨database, publications⟩ := catalogue
  cases action with
  | register client path token =>
    exact .inl (publications.register_built client path token ▸ member)
  | unregister client path =>
    exact .inl (publications.unregister_built database client path env member)
  | publish client object =>
    have same := Publications.built_of_map
      (Publications.publish_map (fun _ _ => rfl) publications client object)
    exact .inl (same ▸ member)
  | withdraw client path =>
    have same := Publications.built_of_map
      (Publications.withdraw_map (fun _ _ => rfl) publications client path)
    exact .inl (same ▸ member)
  | clientReady client path =>
    obtain ⟨changes, built⟩ :=
      @Publications.clientReady_changes B A database _ publications client path _ _ orderly rfl env
    rcases built handle member with before | ⟨rfl, grows⟩
    · exact .inl before
    · exact .inr (Database.first_mem_creations (changes.orderly orderly).counted grows rfl)
  | valueChanged client path value =>
    have same := Publications.built_of_map
      (Publications.valueChanged_map (fun _ _ => rfl) publications database client path value env)
    exact .inl (same ▸ member)
  | clientDisconnected client =>
    exact .inl (publications.clientDisconnected_built database client env member)
  | _ => exact .inl member

/-- What the ledger says of a catalogue. -/
structure Recorded (ledger : List Creation) (catalogue : Catalogue) : Prop where
  /-- The attributes are on record. -/
  database : catalogue.database.Recorded ledger
  /-- So are the services that were built for clients. -/
  built : ∀ service ∈ catalogue.publications.built, ⟨service, service⟩ ∈ ledger

/-- An action leaves a catalogue on record. -/
theorem perform_recorded {ledger : List Creation} (recorded : catalogue.Recorded ledger)
    (action : Action B A) (env : Environment B A) :
    (catalogue.perform action env).1.Recorded (ledger ++ Database.creations
      (catalogue.builds action) catalogue.database (catalogue.perform action env).1.database) := by
  have orderly := recorded.database.orderly
  have changes := perform_changes orderly action env
  refine ⟨changes.recorded recorded.database, fun service member => ?_⟩
  rcases perform_built orderly action env member with before | begun
  · exact List.mem_append_left _ (recorded.built service before)
  · exact List.mem_append_right _ begun

/-- So does a run. -/
theorem run_recorded {ledger : List Creation} (recorded : catalogue.Recorded ledger)
    (actions : List (Action B A)) (env : Environment B A) :
    (catalogue.run actions env).1.Recorded (ledger ++ catalogue.ledger actions env) := by
  induction actions generalizing catalogue ledger env with
  | nil => exact (List.append_nil ledger).symm ▸ recorded
  | cons action actions ih =>
    have rest := ih (perform_recorded recorded action env) (catalogue.perform action env).2
    rwa [List.append_assoc] at rest

/-- A catalogue in which nothing was stored yet. -/
def fresh (first : Handle) (announces : Bool) : Catalogue where
  database := { nextHandle := first.toNat, announces }

/-- Whatever befalls a fresh catalogue, its ledger tells for which service each attribute was
created. -/
theorem run_fresh_recorded {first : Handle} {announces : Bool} {actions : List (Action B A)}
    {env later : Environment B A}
    (ran : (fresh first announces).run actions env = (catalogue, later)) :
    catalogue.Recorded ((fresh first announces).ledger actions env) := by
  have start : (fresh first announces).Recorded [] :=
    ⟨Database.recorded_fresh first announces, by simp [fresh, Publications.built]⟩
  have ended := run_recorded start actions env
  rwa [ran] at ended

/-- The ledger of a list of actions goes on where that of the first of them ends. -/
theorem ledger_append (catalogue : Catalogue) (actions further : List (Action B A))
    (env : Environment B A) : catalogue.ledger (actions ++ further) env =
      catalogue.ledger actions env ++
        (catalogue.run actions env).1.ledger further (catalogue.run actions env).2 := by
  induction actions generalizing catalogue env with
  | nil => rfl
  | cons action actions ih =>
    have rest := ih (catalogue.perform action env).1 (catalogue.perform action env).2
    simp only [List.cons_append, ledger, rest, List.append_assoc]
    rfl

/-- A service that is begun from within the process is on record by the handle that is returned. -/
theorem mem_ledger_of_addService {first service : Handle} {announces : Bool} {uuid : Uuid}
    (actions further : List (Action B A)) (env : Environment B A)
    (begun : (((fresh first announces).run actions env).1.database.addService uuid).1 =
      .ok service) :
    ⟨service, service⟩ ∈
      (fresh first announces).ledger (actions ++ .addService uuid :: further) env := by
  obtain ⟨recorded, -⟩ := run_fresh_recorded
    (Prod.eta ((fresh first announces).run actions env)).symm
  rcases Database.addService_cases recorded.orderly uuid with ⟨cause, refused⟩ |
    ⟨handle, after, added, change, next, counter, -⟩
  · rw [refused] at begun
    cases begun
  · rw [added] at begun
    obtain rfl := Except.ok.inj begun
    have counted := (change.orderly recorded.orderly).counted
    have own : handle = UInt16.ofNat _ := next ▸ UInt16.ofNat_toNat.symm
    have created := Database.first_mem_creations counted
      (Nat.lt_of_lt_of_eq (Nat.lt_succ_self _) counter.symm) own
    rw [ledger_append]
    refine List.mem_append_right _ (List.mem_append_left _ ?_)
    simpa only [builds, ← own, perform, added] using created

end Catalogue

end BluetoothHost
