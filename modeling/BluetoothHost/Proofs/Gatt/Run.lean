import BluetoothHost.Proofs.Gatt.Change

/-!
# Runs of the database

Services are begun, extended, registered and removed, values are kept and written, and in between
the rest of the host and its neighbours go on by themselves. A run is a list of such operations, in
any order, whether they succeed or fail. Each of them makes changes to the database for one service,
so that every run leaves it in order.
-/

namespace BluetoothHost.Database

/-- What can befall the database. -/
inductive Operation (B A : Type)
  /-- A service is begun. -/
  | addService (uuid : Uuid)
  /-- A characteristic is added to the service under construction. -/
  | addCharacteristic (uuid : Uuid) (properties : CharacteristicProperties)
      (permissions : Permissions)
  /-- A descriptor is added to the service under construction. -/
  | addDescriptor (uuid : Uuid) (permissions : Permissions)
  /-- The service under construction is registered. -/
  | materialize
  /-- A service is removed. -/
  | removeService (service : Handle)
  /-- A characteristic has a new value. -/
  | updateValue (uuid : Uuid) (value : List UInt8)
  /-- A ready flag is set or cleared. -/
  | setNotifyReady (handle : Handle) (ready : Bool)
  /-- A peer writes an attribute that this handler implements. -/
  | write (uuid : Uuid) (value : List UInt8) (handler : AttributeHandler (Environment B A))
  /-- The rest of the host and its neighbours have gone on by themselves. -/
  | evolve (env : Environment B A)

variable {B A : Type} [AttributeServer A] {database : Database}

/-- The database and its neighbours after an operation. -/
def perform (database : Database) (operation : Operation B A) (env : Environment B A) :
    Database × Environment B A :=
  match operation with
  | .addService uuid => ((database.addService uuid).2, env)
  | .addCharacteristic uuid properties permissions =>
    ((database.addCharacteristic uuid properties permissions).2, env)
  | .addDescriptor uuid permissions => ((database.addDescriptor uuid permissions).2, env)
  | .materialize => (database.materialize env).2
  | .removeService service => (database.removeService service env).2
  | .updateValue uuid value => (database.updateValue uuid value env).2
  | .setNotifyReady handle ready => ((database.setNotifyReady handle ready).2, env)
  | .write uuid value handler => (database.write uuid value handler env).2
  | .evolve next => (database, next)

/-- The database and its neighbours after a list of operations. -/
def run (database : Database) : List (Operation B A) → Environment B A →
    Database × Environment B A
  | [], env => (database, env)
  | operation :: operations, env =>
    let (database, env) := database.perform operation env
    database.run operations env

/-- What is observed of every operation in a list, in order. -/
def collect {α : Type} (observe : Database → Operation B A → Environment B A → List α)
    (database : Database) : List (Operation B A) → Environment B A → List α
  | [], _ => []
  | operation :: operations, env =>
    let (next, further) := database.perform operation env
    observe database operation env ++ next.collect observe operations further

/-- A database in which nothing was stored yet. -/
def fresh (first : Handle) (announces : Bool) : Database :=
  { nextHandle := first.toNat, announces }

/-- Every operation makes changes to the database, and all that it adds is added for one
service. -/
theorem perform_changes (orderly : database.Orderly) (operation : Operation B A)
    (env : Environment B A) :
    ∃ service, Changes service database (database.perform operation env).1 := by
  cases operation with
  | addService uuid =>
    rcases addService_cases orderly uuid with ⟨cause, refused⟩ | ⟨service, after, added, change, -⟩
    · simp only [perform, refused]
      exact ⟨0, .refl⟩
    · simp only [perform, added]
      exact ⟨service, .single change⟩
  | addCharacteristic uuid properties permissions =>
    rcases addCharacteristic_cases orderly uuid properties permissions with ⟨cause, refused⟩ |
      ⟨head, rest, value, after, added, -, change, -⟩
    · simp only [perform, refused]
      exact ⟨0, .refl⟩
    · simp only [perform, added]
      exact ⟨head.handle, .single change⟩
  | addDescriptor uuid permissions =>
    rcases addDescriptor_cases orderly uuid permissions with ⟨cause, refused⟩ |
      ⟨head, rest, handle, after, added, -, change, -⟩
    · simp only [perform, refused]
      exact ⟨0, .refl⟩
    · simp only [perform, added]
      exact ⟨head.handle, .single change⟩
  | materialize => exact ⟨0, .single (database.materialize_change 0 env)⟩
  | removeService service => exact ⟨0, .single (database.removeService_change 0 service env)⟩
  | updateValue uuid value => exact ⟨0, database.updateValue_changes 0 uuid value env⟩
  | setNotifyReady handle ready =>
    exact ⟨0, .single (database.setNotifyReady_change 0 handle ready)⟩
  | write uuid value handler => exact ⟨0, .single (database.write_change 0 uuid value handler env)⟩
  | evolve next => exact ⟨0, .refl⟩

/-- Every operation leaves the database in order. -/
theorem perform_orderly (orderly : database.Orderly) (operation : Operation B A)
    (env : Environment B A) : (database.perform operation env).1.Orderly := by
  obtain ⟨service, changes⟩ := perform_changes orderly operation env
  exact changes.orderly orderly

/-- No operation takes a handle back. -/
theorem nextHandle_le_perform (orderly : database.Orderly) (operation : Operation B A)
    (env : Environment B A) :
    database.nextHandle ≤ (database.perform operation env).1.nextHandle := by
  obtain ⟨service, changes⟩ := perform_changes orderly operation env
  exact changes.nextHandle_le

/-- What every operation keeps is kept by a run. -/
theorem run_invariant (invariant : Database → Prop)
    (step : ∀ (database : Database) (operation : Operation B A) (env : Environment B A),
      invariant database → invariant (database.perform operation env).1)
    (start : invariant database) (operations : List (Operation B A)) (env : Environment B A) :
    invariant (database.run operations env).1 := by
  induction operations generalizing database env with
  | nil => exact start
  | cons operation operations ih => exact ih (step database operation env start) _

/-- Every run leaves a database in order. -/
theorem run_orderly (orderly : database.Orderly) (operations : List (Operation B A))
    (env : Environment B A) : (database.run operations env).1.Orderly :=
  run_invariant Orderly (fun _ operation env before => perform_orderly before operation env)
    orderly operations env

end BluetoothHost.Database
