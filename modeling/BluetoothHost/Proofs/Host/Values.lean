import BluetoothHost.Proofs.Gatt.Links
import BluetoothHost.Proofs.Gatt.Materialize
import BluetoothHost.Proofs.Gatt.Update
import BluetoothHost.Proofs.Host.Enrolment

/-!
# Where the values that clients publish go

A client publishes a value for an object, and the host looks up the attribute by the UUID of the
object, not by the attribute that it built for it. So the value goes to the first attribute found
under the UUID, and nothing else changes. As long as UUIDs differ that is the attribute of the
object; where two objects share a UUID it is the older one.
-/

namespace BluetoothHost

open Transport (PlainSession PlainBus)
open Catalogue (CountingServer countingEnvironment)

variable {S B A : Type}

/-- Clients publish no object as built already. -/
def Event.IsGenuine : Event S → Prop
  | .objectPublished _ object => object.linked = none
  | _ => True

/-- What an event is to the database and the services of clients, if it concerns them. -/
def Event.catalogueAction? : Event S → Option (Catalogue.Action B A)
  | .methodCall client token (.registerService path) =>
    some (.register client.value path.value token)
  | .methodCall client _ (.unregisterService path) => some (.unregister client.value path.value)
  | .clientDisconnected client => some (.clientDisconnected client.value)
  | .objectPublished client object => some (.publish client.value object)
  | .objectWithdrawn client path => some (.withdraw client.value path.value)
  | .clientReady client path => some (.clientReady client.value path.value)
  | .valueChanged client path value => some (.valueChanged client.value path.value value.data)
  | _ => none

/-- No event removes a service from within the process, and a genuine one is a genuine action. -/
theorem Event.IsGenuine.catalogueAction? {event : Event S} (genuine : event.IsGenuine)
    {action : Catalogue.Action B A} (known : event.catalogueAction? = some action) :
    action.IsGenuine ∧ action.SparesServices := by
  unfold Event.catalogueAction? at known
  split at known
  case h_4 =>
    obtain rfl := Option.some.inj known
    exact ⟨genuine, trivial⟩
  case h_8 => cases known
  all_goals
    obtain rfl := Option.some.inj known
    exact ⟨trivial, trivial⟩

namespace Host

/-- The database with the services of clients. -/
def catalogue (host : Host S) : Catalogue := ⟨host.database, host.publications⟩

section Events

variable [ProfileSession S] [MessageBus B] [AttributeServer A] {host : Host S}

/-- To the database and the services of clients an event is that action, or nothing. -/
theorem process_action (event : Event S) (host : Host S) (env : Environment B A) :
    event.catalogueAction? = (none : Option (Catalogue.Action B A)) ∧
        (host.process event env).1.catalogue = host.catalogue ∨
      ∃ (action : Catalogue.Action B A) (between : Environment B A),
        event.catalogueAction? = some action ∧
        (host.process event env).1.catalogue = (host.catalogue.perform action between).1 := by
  by_cases media : event.IsMedia
  · have framed : host.process event env = _ :=
      process_media media host host.publications host.database env
    have unconcerned : event.catalogueAction? = (none : Option (Catalogue.Action B A)) := by
      unfold Event.IsMedia at media
      split at media
      case h_12 => exact media.elim
      all_goals rfl
    rw [framed]
    exact .inl ⟨unconcerned, rfl⟩
  right
  cases event with
  | methodCall client token call =>
    cases call with
    | registerService path => exact ⟨_, env, rfl, rfl⟩
    | unregisterService path => exact ⟨_, env, rfl, rfl⟩
    | _ => exact absurd trivial media
  | clientDisconnected client =>
    exact ⟨_, (host.transports.clientDisconnected client.value env).2.2, rfl, rfl⟩
  | objectPublished client object => exact ⟨_, env, rfl, rfl⟩
  | objectWithdrawn client path => exact ⟨_, env, rfl, rfl⟩
  | clientReady client path => exact ⟨_, env, rfl, rfl⟩
  | valueChanged client path value => exact ⟨_, env, rfl, rfl⟩
  | _ => exact absurd trivial media

/-- If the event is genuine so is the action, and it removes no service from within the process. -/
theorem process_catalogue {event : Event S} (genuine : event.IsGenuine) (host : Host S)
    (env : Environment B A) :
    (host.process event env).1.catalogue = host.catalogue ∨
      ∃ (action : Catalogue.Action B A) (between : Environment B A), action.IsGenuine ∧
        action.SparesServices ∧
        (host.process event env).1.catalogue = (host.catalogue.perform action between).1 := by
  rcases process_action event host env with ⟨-, same⟩ | ⟨action, between, known, performed⟩
  · exact .inl same
  · obtain ⟨own, spares⟩ := genuine.catalogueAction? known
    exact .inr ⟨action, between, own, spares, performed⟩

/-- What can become of a host: it is created, it processes events, code within the process acts on
its database, and its transports go on in any way. -/
inductive Reachable (B A : Type) [MessageBus B] [AttributeServer A] : Host S → Prop
  /-- It is created. -/
  | created (options : HostOptions) : Reachable B A (create options)
  /-- It processes an event. -/
  | processed {host : Host S} (reachable : Reachable B A host) {event : Event S}
      (genuine : event.IsGenuine) (env : Environment B A) :
      Reachable B A (host.process event env).1
  /-- Something befalls its database and the services of clients. -/
  | acted {host : Host S} (reachable : Reachable B A host) {action : Catalogue.Action B A}
      (genuine : action.IsGenuine) (env : Environment B A) :
      Reachable B A { host with
        database := (host.catalogue.perform action env).1.database
        publications := (host.catalogue.perform action env).1.publications }
  /-- Its transports change. -/
  | moved {host : Host S} (reachable : Reachable B A host) (transports : TransportTable S) :
      Reachable B A { host with transports }

/-- Whatever becomes of a host, its objects fit their attributes. -/
theorem Reachable.linked (reachable : Reachable B A host) : host.catalogue.Linked := by
  induction reachable with
  | created options => exact Catalogue.linked_fresh options.firstHandle options.announces
  | @processed host _ event genuine env ih =>
    rcases process_catalogue genuine host env with same | ⟨action, between, own, -, performed⟩
    · rwa [same]
    · rw [performed]
      exact Catalogue.perform_linked ih own between
  | acted _ genuine env ih => exact Catalogue.perform_linked ih genuine env
  | moved _ _ ih => exact ih

/-- A host that processes events goes on being reachable. -/
theorem Reachable.processAll (reachable : Reachable B A host) {events : List (Event S)}
    (genuine : ∀ event ∈ events, event.IsGenuine) (env : Environment B A) :
    Reachable B A (host.processAll events env).1 := by
  induction events generalizing host env with
  | nil => exact reachable
  | cons event events ih =>
    obtain ⟨here, later⟩ := List.forall_mem_cons.mp genuine
    exact ih (reachable.processed here env) later _

/-- The attribute to which a value goes that a client publishes for an object. -/
def target? (host : Host S) (client : ClientName) (path : ObjectPath) : Option Attribute :=
  (host.publications.addressed? client.value path.value).bind host.database.findUuid?

/-- The value that a client publishes for an object changes the first attribute found under the
UUID of the object, if the object was built, and nothing else. If all goes well, that attribute has
the value afterwards. It is the attribute of the object unless one with a lower handle is found
under the same UUID. -/
theorem process_valueChanged (reachable : Reachable B A host) (client : ClientName)
    (path : ObjectPath) (value : AttributeValue) (env : Environment B A) {after : Host S}
    {final : Environment B A}
    (processed : host.process (.valueChanged client path value) env = (after, final)) :
    (∀ handle, (∀ entry ∈ host.target? client path, entry.handle ≠ handle) →
      after.database.findHandle? handle = host.database.findHandle? handle) ∧
    ∀ object handle, host.publications.object? client.value path.value = some object →
      object.linked = some handle →
      ((host.publications.valueChanged host.database client.value path.value value.data env).1 =
          .ok () →
        ∃ entry, host.target? client path = some entry ∧
          (after.database.findHandle? entry.handle).map Attribute.value = some value) ∧
      (object.interface ≠ .service → ∀ own, host.database.findHandle? handle = some own →
        ¬own.type ≈ Uuid.primaryService →
        (host.target? client path = some own ↔
          ∀ other ∈ host.database.attributes, other.handle < handle →
            other.isFoundUnder own.type = false)) := by
  have linked := reachable.linked
  have orderly : host.database.Orderly := linked.orderly
  have database_eq : after.database = (host.publications.valueChanged host.database client.value
      path.value value.data env).2.2.1 := by
    rw [← congrArg (fun result => result.1.database) processed]
    rfl
  rw [Publications.valueChanged_database orderly] at database_eq
  unfold target?
  constructor
  · intro handle apart
    cases addressed : host.publications.addressed? client.value path.value with
    | none =>
      rw [addressed] at database_eq
      rw [database_eq]
    | some uuid =>
      rw [addressed] at database_eq apart
      rw [database_eq]
      exact Database.updateValue_elsewhere orderly env apart
  intro object handle known built
  obtain ⟨uuid, named, typed⟩ := Publications.Fits.object? linked.fits known built
  have addressed : host.publications.addressed? client.value path.value = some uuid := by
    simp [Publications.addressed?, known, built, named]
  rw [addressed] at database_eq ⊢
  constructor
  · intro fine
    have fits : Bytes.ofList? Limits.attributeValue value.data = some value :=
      dif_pos value.length_le
    rw [Publications.valueChanged_outcome known built named fits] at fine
    obtain ⟨entry, kept, found, accepted, holds⟩ := Database.updateValue_here orderly env fine
    obtain rfl : value = kept := Option.some.inj (fits.symm.trans accepted)
    exact ⟨entry, found, database_eq ▸ holds⟩
  · intro isServed own present notService
    obtain ⟨member, rfl⟩ := (Database.findHandle?_eq_some_iff orderly.ascending).mp present
    obtain rfl : uuid = own.type := typed isServed own member rfl
    have isFound : own.isFoundUnder own.type = true := by
      rw [Attribute.isFoundUnder, if_neg notService]
      exact decide_eq_true (Uuid.equiv_iff.mpr rfl)
    rw [Option.bind_some, Database.findUuid?_eq_some_iff orderly member]
    exact and_iff_right isFound

/-- The events of a client that publishes a battery service and the level of the battery as its
only characteristic. -/
def batteryEvents (client : ClientName) (battery level : ObjectPath) : List (Event S) :=
  [.methodCall client ⟨1⟩ (.registerService battery),
    .objectPublished client
      { path := battery, interface := .service, uuid := some (.uuid16 0x180F) },
    .objectPublished client
      { path := level, interface := .characteristic, uuid := some (.uuid16 0x2A19)
        flags := .named .read },
    .clientReady client battery]

omit [ProfileSession S] in
/-- These events are genuine. -/
theorem isGenuine_of_mem_batteryEvents {client : ClientName} {battery level : ObjectPath} :
    ∀ event ∈ (batteryEvents client battery level : List (Event S)), event.IsGenuine := by
  simp [batteryEvents, Event.IsGenuine]

/-- A level that the only client publishes goes to the attribute of the level. -/
theorem process_valueChanged_of_level :
    let client : ClientName := ⟨":1.7", by decide⟩
    let path : ObjectPath := ⟨"/app/level", by decide⟩
    let level : AttributeValue := ⟨[80], by decide⟩
    let begun : Host PlainSession × Environment PlainBus CountingServer :=
      (create {}).processAll (batteryEvents client ⟨"/app", by decide⟩ path) countingEnvironment
    let after := begun.1.process (.valueChanged client path level) begun.2
    (after.1.database.findHandle? 3).map Attribute.value = some level ∧
      ∀ handle ≠ 3, after.1.database.findHandle? handle = begun.1.database.findHandle? handle := by
  intro client path level begun after
  have reachable : Reachable PlainBus CountingServer begun.1 :=
    (Reachable.created {}).processAll isGenuine_of_mem_batteryEvents countingEnvironment
  have processed : begun.1.process (.valueChanged client path level) begun.2 =
      (after.1, after.2) := (Prod.eta after).symm
  have linked : (begun.1.publications.object? client.value path.value).bind
      PublishedObject.linked = some 3 := by decide +kernel
  have fine : (begun.1.publications.valueChanged begun.1.database client.value path.value
      level.data begun.2).1 = .ok () := by decide +kernel
  have aimed : (begun.1.target? client path).map Attribute.handle = some 3 := by decide +kernel
  clear_value after begun
  obtain ⟨object, known, built⟩ := Option.bind_eq_some_iff.mp linked
  obtain ⟨own, target, same⟩ := Option.map_eq_some_iff.mp aimed
  obtain ⟨elsewhere, here⟩ := process_valueChanged reachable client path level begun.2 processed
  constructor
  · obtain ⟨entry, found, holds⟩ := (here object 3 known built).1 fine
    obtain rfl := Option.some.inj (target.symm.trans found)
    rwa [same] at holds
  · intro handle other
    refine elsewhere handle fun entry found => ?_
    obtain rfl := Option.some.inj (target.symm.trans found)
    exact same ▸ other.symm

/-- Two clients publish a level. What the second one publishes goes to the attribute of the first
one, and the attribute of the second one, to which its object is linked, keeps its value. -/
theorem valueChanged_level_of_second :
    let first : ClientName := ⟨":1.7", by decide⟩
    let second : ClientName := ⟨":1.8", by decide⟩
    let path : ObjectPath := ⟨"/other/level", by decide⟩
    let level : AttributeValue := ⟨[80], by decide⟩
    let events : List (Event PlainSession) :=
      batteryEvents first ⟨"/app", by decide⟩ ⟨"/app/level", by decide⟩ ++
        batteryEvents second ⟨"/other", by decide⟩ path
    let begun : Host PlainSession × Environment PlainBus CountingServer :=
      (create {}).processAll events countingEnvironment
    let after := (begun.1.process (.valueChanged second path level) begun.2).1
    Reachable PlainBus CountingServer begun.1 ∧
      (begun.1.publications.object? second.value path.value).bind PublishedObject.linked =
        some 6 ∧
      (begun.1.publications.valueChanged begun.1.database second.value path.value level.data
        begun.2).1 = .ok () ∧
      (begun.1.database.findHandle? 3).map Attribute.value = some (Bytes.empty _) ∧
      (after.database.findHandle? 3).map Attribute.value = some level ∧
      (after.database.findHandle? 6).map Attribute.value = some (Bytes.empty _) := by
  intro first second path level events begun after
  refine ⟨?_, by decide +kernel, by decide +kernel, by decide +kernel, by decide +kernel,
    by decide +kernel⟩
  exact (Reachable.created {}).processAll (List.forall_mem_append.mpr
    ⟨isGenuine_of_mem_batteryEvents, isGenuine_of_mem_batteryEvents⟩) countingEnvironment

end Events

end Host

end BluetoothHost
