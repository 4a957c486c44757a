import BluetoothHost.Proofs.Gatt.Forwarding
import BluetoothHost.Proofs.Host.Values

/-!
# Writes by peers

A peer writes an attribute of the host by its UUID. While clients come and go, the services of each
stand in the database with their attributes, and every attribute belongs to one object at most. So
what a peer writes reaches the client that published the attribute, or nobody: never another client,
and never a client that has withdrawn it.
-/

namespace BluetoothHost

open Transport (PlainSession PlainBus)
open Catalogue (CountingServer countingEnvironment Continues)

variable {S B A : Type}

namespace Host

/-- What can befall a host. -/
inductive Action (S B A : Type)
  /-- It processes an event. -/
  | process (event : Event S)
  /-- A peer writes an attribute. -/
  | write (uuid : Uuid) (value : List UInt8)
  /-- Code within the process acts on the database, or the neighbours go on by themselves. -/
  | act (action : Catalogue.Action B A)

/-- Clients publish no object as built already, and services of clients are not removed from within
the process. -/
def Action.IsPlain : Action S B A → Prop
  | .process event => event.IsGenuine
  | .write _ _ => True
  | .act action => action.IsGenuine ∧ action.SparesServices

variable [ProfileSession S] [MessageBus B] [AttributeServer A] {host : Host S}

/-- The host and its neighbours after an action. -/
def perform (host : Host S) (action : Action S B A) (env : Environment B A) :
    Host S × Environment B A :=
  match action with
  | .process event => host.process event env
  | .write uuid value => (host.writeAttribute uuid value env).2
  | .act action =>
    let (catalogue, env) := host.catalogue.perform action env
    ({ host with database := catalogue.database, publications := catalogue.publications }, env)

/-- The host and its neighbours after a list of actions. -/
def run (host : Host S) : List (Action S B A) → Environment B A → Host S × Environment B A
  | [], env => (host, env)
  | action :: actions, env =>
    let (host, env) := host.perform action env
    host.run actions env

/-- Every action is a step in which services go only with their objects. -/
theorem perform_continues {ledger : List Creation} (attached : host.catalogue.Attached ledger)
    {action : Action S B A} (plain : action.IsPlain) (env : Environment B A) :
    Continues host.catalogue (host.perform action env).1.catalogue := by
  cases action with
  | process event =>
    rcases process_catalogue plain host env with same | ⟨action, between, genuine, spares, done⟩
    · show Continues host.catalogue (host.process event env).1.catalogue
      rw [same]
      exact attached.continues
    · show Continues host.catalogue (host.process event env).1.catalogue
      rw [done]
      exact Catalogue.perform_continues attached genuine spares between
  | write uuid value =>
    have genuine : (.writePublished uuid value : Catalogue.Action B A).IsGenuine := trivial
    exact Catalogue.perform_continues attached genuine trivial env
  | act action => exact Catalogue.perform_continues attached plain.1 plain.2 env

/-- So is every run. -/
theorem run_continues {ledger : List Creation} (attached : host.catalogue.Attached ledger)
    {actions : List (Action S B A)} (plain : ∀ action ∈ actions, action.IsPlain)
    (env : Environment B A) : Continues host.catalogue (host.run actions env).1.catalogue := by
  induction actions generalizing host env ledger with
  | nil => exact attached.continues
  | cons action actions ih =>
    obtain ⟨here, later⟩ := List.forall_mem_cons.mp plain
    have first := perform_continues attached here env
    obtain ⟨more, still⟩ := first.attached
    exact first.trans (ih still later _)

/-- The objects of clients correspond to attributes of the host. -/
structure Corresponds (host : Host S) : Prop where
  /-- No two objects are linked to the same attribute. -/
  unshared : host.publications.links.Nodup
  /-- An attribute to which an object is linked is there, in the block of the service of the object.
  It has the type of primary services for the object of a service, and the UUID of the object for
  any other. -/
  stands : ∀ record object handle, host.publications.Serves record object handle →
    ∃ service entry, record.service = some service ∧ host.database.InBlock service handle ∧
      host.database.findHandle? handle = some entry ∧
      (object.interface = .service → entry.type = .primaryService) ∧
      (object.interface ≠ .service → object.uuid = some entry.type)

omit [ProfileSession S] in
/-- They do so while services go only with their objects. -/
theorem corresponds_of_attached {ledger : List Creation}
    (attached : host.catalogue.Attached ledger) : host.Corresponds where
  unshared := attached.attached.unshared
  stands := by
    intro record object handle serves
    have ascending := attached.recorded.orderly.ascending
    obtain ⟨service, named, own, ⟨entry, there, same⟩, head⟩ := attached.attached.placed record
      serves.registered object serves.published handle serves.linked
    obtain ⟨-, -, typed⟩ := attached.linked.fits record serves.registered object serves.published
      handle serves.linked
    have begins := attached.attached.begins service
      (Publications.mem_built.mpr ⟨record, serves.registered, named⟩)
    refine ⟨service, entry, named, attached.recorded.inBlock attached.declared own begins,
      (Database.findHandle?_eq_some_iff ascending).mpr ⟨there, same⟩, fun isService => ?_,
      fun isServed => typed isServed entry there same⟩
    obtain ⟨declaration, stands, called, declares⟩ := begins
    have handles : entry.handle = declaration.handle :=
      (same.trans (head isService)).trans called.symm
    rw [ascending.eq_of_handle there stands handles]
    exact declares.1

/-- Writes by peers reach the clients whose objects are linked to the attributes. -/
structure Forwards (B A : Type) [MessageBus B] (host : Host S) : Prop where
  /-- If the first attribute found under a UUID may be written and an object is linked to it, a
  write is one call with the same bytes to the client of the object. -/
  forwarded : ∀ (uuid : Uuid) (value : List UInt8) (env : Environment B A) entry record object,
    host.database.findUuid? uuid = some entry →
    entry.permissions.any Permissions.write = true →
    host.publications.Serves record object entry.handle →
    env.Makes [.remoteWrite record.owner.value object.path.value value]
      (host.writeAttribute uuid value env).2.2
  /-- Otherwise it is no call. -/
  silent : ∀ (uuid : Uuid) (value : List UInt8) (env : Environment B A),
    (∀ entry, host.database.findUuid? uuid = some entry →
      entry.permissions.any Permissions.write = true →
      ∀ record object, ¬host.publications.Serves record object entry.handle) →
    env.Makes [] (host.writeAttribute uuid value env).2.2

omit [ProfileSession S] [AttributeServer A] in
/-- They do so where no two objects are linked to the same attribute. -/
theorem forwards_of_corresponds (corresponds : host.Corresponds) : host.Forwards B A where
  forwarded := fun _ value env _ _ _ found writable serves =>
    Publications.write_forwards corresponds.unshared found writable serves value env
  silent := fun _ value env unserved => host.publications.write_silent unserved value env

/-- After an object was withdrawn, no object is ever linked to its attribute again. -/
theorem run_unlinked {ledger : List Creation} (attached : host.catalogue.Attached ledger)
    {client : ClientName} {path : ObjectPath} {object : PublishedObject} {handle : Handle}
    (known : host.publications.object? client.value path.value = some object)
    (linked : object.linked = some handle) {actions : List (Action S B A)}
    (plain : ∀ action ∈ actions, action.IsPlain) (env : Environment B A) :
    handle ∉ (host.run (.process (.objectWithdrawn client path) :: actions)
      env).1.publications.links := by
  have withdrawn : (.process (.objectWithdrawn client path) : Action S B A).IsPlain := trivial
  have gone : handle ∉ (host.perform (.process (.objectWithdrawn client path) : Action S B A)
      env).1.publications.links :=
    Publications.withdraw_unlinks attached.attached.unshared known linked
  have first := perform_continues attached withdrawn env
  obtain ⟨more, still⟩ := first.attached
  have rest := run_continues still plain
    (host.perform (.process (.objectWithdrawn client path) : Action S B A) env).2
  -- The handle was given out before the object was withdrawn.
  have given : handle.toNat < host.database.nextHandle := by
    obtain ⟨record, found, own⟩ := Option.bind_eq_some_iff.mp known
    refine attached.attached.links_below attached.recorded handle ?_
    exact Publications.mem_links.mpr ⟨record, List.mem_of_find?_eq_some found, object,
      List.mem_of_find?_eq_some own, linked⟩
  intro member
  rcases rest.fresh handle member with there | new
  · exact gone there
  · have grows := first.grows
    have passed : host.database.nextHandle ≤ handle.toNat := Nat.le_trans grows new
    omega

/-- In every run of a host in which services of clients are removed only with their objects, the
objects correspond to attributes, no two of them to the same, and what a peer writes reaches the
client of the object that is linked to the first attribute found, or nobody. After an object was
withdrawn, no write to its attribute is a call, whatever happens in between. -/
theorem run_remote {options : HostOptions} {actions : List (Action S B A)}
    (plain : ∀ action ∈ actions, action.IsPlain) {env later : Environment B A}
    (ran : (create options).run actions env = (host, later)) :
    host.Corresponds ∧ host.Forwards B A ∧
    ∀ (client : ClientName) (path : ObjectPath) object handle,
      host.publications.object? client.value path.value = some object →
      object.linked = some handle →
      ∀ (further : List (Action S B A)), (∀ action ∈ further, action.IsPlain) →
        ∀ (now : Environment B A),
          let after := (host.run (.process (.objectWithdrawn client path) :: further) now).1
          ∀ uuid value entry, after.database.findUuid? uuid = some entry → entry.handle = handle →
            ∀ (next : Environment B A),
              next.Makes [] (after.writeAttribute uuid value next).2.2 := by
  have start := Catalogue.attached_fresh options.firstHandle options.announces
  have continues := @run_continues S B A _ _ _ (create options) [] start actions plain env
  rw [ran] at continues
  obtain ⟨ledger, attached⟩ := continues.attached
  have corresponds := corresponds_of_attached attached
  refine ⟨corresponds, forwards_of_corresponds corresponds, ?_⟩
  intro client path object handle known linked further ordinary now after uuid value entry found
    same next
  have gone : handle ∉ after.publications.links := run_unlinked attached known linked ordinary now
  clear_value after
  refine after.publications.write_silent (fun other also _ record object serves => ?_) value next
  obtain rfl := Option.some.inj (found.symm.trans also)
  exact gone (Publications.exists_serves_iff.mp ⟨record, object, same ▸ serves⟩)

/-- What a peer writes to the level of a battery reaches the client that published it, and nobody
once it was withdrawn. -/
theorem run_remote_of_level :
    let client : ClientName := ⟨":1.7", by decide⟩
    let root : ObjectPath := ⟨"/app", by decide⟩
    let path : ObjectPath := ⟨"/app/level", by decide⟩
    let battery : PublishedObject :=
      { path := root, interface := .service, uuid := some (.uuid16 0x180F) }
    let level : PublishedObject :=
      { path := path, interface := .characteristic, uuid := some (.uuid16 0x2A19)
        flags := .named .write }
    let actions : List (Action PlainSession PlainBus CountingServer) :=
      [.process (.methodCall client ⟨1⟩ (.registerService root)),
        .process (.objectPublished client battery), .process (.objectPublished client level),
        .process (.clientReady client root)]
    let begun := ((create {}).run actions countingEnvironment).1
    let after := (begun.run [.process (.objectWithdrawn client path)] countingEnvironment).1
    ∀ now : Environment PlainBus CountingServer,
      now.Makes [.remoteWrite ":1.7" "/app/level" [1]]
          (begun.writeAttribute (.uuid16 0x2A19) [1] now).2.2 ∧
        now.Makes [] (after.writeAttribute (.uuid16 0x2A19) [1] now).2.2 := by
  intro client root path battery level actions begun after now
  have plain : ∀ action ∈ actions, action.IsPlain := by
    simp [actions, Action.IsPlain, Event.IsGenuine, battery, level]
  have ran : (create {}).run actions countingEnvironment =
      (begun, ((create {}).run actions countingEnvironment).2) :=
    (Prod.eta _).symm
  obtain ⟨-, forwards, withdrawn⟩ := run_remote plain ran
  have first : (begun.database.findUuid? (.uuid16 0x2A19)).map (fun entry =>
      (entry.handle, entry.permissions.any Permissions.write)) = some (3, true) := by
    decide +kernel
  have served : (begun.publications.linkedTo? 3).map (fun pair =>
      (pair.1.owner.value, pair.2.path.value)) = some (":1.7", "/app/level") := by
    decide +kernel
  have known : (begun.publications.object? client.value path.value).bind
      PublishedObject.linked = some 3 := by
    decide +kernel
  have still : (after.database.findUuid? (.uuid16 0x2A19)).map Attribute.handle = some 3 := by
    decide +kernel
  clear_value begun
  constructor
  · obtain ⟨entry, found, same⟩ := Option.map_eq_some_iff.mp first
    obtain ⟨handles, writable⟩ := Prod.mk.inj same
    obtain ⟨⟨record, object⟩, linked, named⟩ := Option.map_eq_some_iff.mp served
    obtain ⟨owner, place⟩ := Prod.mk.inj named
    have serves := Publications.serves_of_linkedTo? linked
    rw [← handles] at serves
    rw [← owner, ← place]
    exact forwards.forwarded _ [1] now entry record object found writable serves
  · obtain ⟨object, published, linked⟩ := Option.bind_eq_some_iff.mp known
    obtain ⟨entry, found, same⟩ := Option.map_eq_some_iff.mp still
    have silent := withdrawn client path object 3 published linked []
      (fun _ member => absurd member List.not_mem_nil) countingEnvironment
    exact silent _ [1] entry found same now

end Host

end BluetoothHost
