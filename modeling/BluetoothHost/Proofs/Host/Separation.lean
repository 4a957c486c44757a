import BluetoothHost.Proofs.Gatt.Separation
import BluetoothHost.Proofs.Host.Values
import BluetoothHost.Proofs.Media.Separation

/-!
# Clients keep apart

Many clients use one host: some own transports, some publish services, and each does so with events
of its own. Whatever a client does, and also when it leaves the bus, nothing of the others changes.
Nothing of a client that left remains, and if its departure is reported once more, nobody is called.
-/

namespace BluetoothHost

open Transport (PlainSession PlainBus plainTransport)
open Catalogue (CountingServer countingEnvironment)

variable {S B A : Type}

/-- The client that an event comes from: the one that calls a method, has news of its services or
leaves the bus. The other events come from the profile layer. -/
def Event.issuer? : Event S → Option ClientName
  | .methodCall client _ _ | .clientDisconnected client | .objectPublished client _
  | .objectWithdrawn client _ | .clientReady client _ | .valueChanged client _ _ => some client
  | _ => none

namespace Host

section Tables

variable {host : Host S}

/-- What holds of the transports before and after an operation on any of them holds when it is
carried out on the one with a path. -/
theorem onTransport_keeps {α : Type} {holds : TransportTable S → Prop}
    (start : holds host.transports) (path : ObjectPath)
    (operation : TransportId → TransportTable S → Environment B A →
      Except Error α × TransportTable S × Environment B A) (env : Environment B A)
    (each : ∀ id, holds (operation id host.transports env).2.1) :
    holds (host.onTransport path operation env).2.1.transports := by
  unfold onTransport
  cases host.transports.findPath? path.value with
  | none => exact start
  | some id => exact each id

end Tables

variable [ProfileSession S] [MessageBus B] [AttributeServer A] {host : Host S}

/-! ### Transports -/

/-- A method call leaves alone what others than the caller have of the transports. -/
theorem call_spares (sound : host.transports.Sound) (client : String) (token : ReplyToken)
    (call : MethodCall) (env : Environment B A) :
    host.transports.Spares client (host.call client token call env).2.1.transports := by
  have start : host.transports.Spares client host.transports := ⟨sound, rfl⟩
  cases call with
  | acquire transport access =>
    exact onTransport_keeps start transport
      (fun id table => table.acquire id client token access.value) env fun id =>
      TransportTable.acquire_spares sound id client token access.value env
  | release transport access =>
    exact onTransport_keeps start transport
      (fun id table => table.release id client token access.value) env fun id =>
      TransportTable.release_spares sound id client token access.value env
  | getProperties transport =>
    exact onTransport_keeps start transport
      (fun id table env => (table.properties id, table, env)) env fun id => start
  | setProperty transport name value =>
    exact onTransport_keeps start transport
      (fun id table => table.setProperty id client name.value value) env fun id =>
      TransportTable.setProperty_spares sound id client name.value value env
  | registerService path => exact start
  | unregisterService path => exact start

/-- Every event leaves the transports sound. -/
theorem process_sound (sound : host.transports.Sound) (event : Event S) (env : Environment B A) :
    (host.process event env).1.transports.Sound := by
  cases event with
  | methodCall client token call => exact (call_spares sound client.value token call env).sound
  | transportConfigured device devicePath uuid codec configuration session =>
    exact TransportTable.create_sound sound _ session
  | transportClosed transport =>
    exact onTransport_keeps sound transport (fun id table => table.remove id) env fun id =>
      TransportTable.remove_sound sound id env
  | resumeComplete transport client request result =>
    exact onTransport_keeps sound transport
      (fun id table => table.resumeComplete id client.value request result) env fun id =>
      TransportTable.act_reaction_sound sound id (fun transport env kept =>
        Transport.resumeComplete_reaction kept client.value request result env) env
  | suspendComplete transport client request =>
    exact onTransport_keeps sound transport
      (fun id table => table.suspendComplete id client.value request) env fun id =>
      TransportTable.act_reaction_sound sound id (fun transport env _ =>
        transport.suspendComplete_reaction client.value request env) env
  | playbackChanged transport playing =>
    exact onTransport_keeps sound transport
      (fun id table => table.reportPlaying id playing) env fun id =>
      TransportTable.act_reaction_sound sound id (fun transport env _ =>
        transport.reportPlaying_reaction playing env) env
  | delayReported transport delay =>
    exact onTransport_keeps sound transport
      (fun id table => table.reportDelay id delay) env fun id =>
      TransportTable.act_reaction_sound sound id (fun transport env _ =>
        transport.reportDelay_reaction delay env) env
  | volumeReported transport volume =>
    exact onTransport_keeps sound transport
      (fun id table => table.reportVolume id volume) env fun id =>
      TransportTable.act_reaction_sound sound id (fun transport env _ =>
        transport.reportVolume_reaction volume env) env
  | clientDisconnected client =>
    exact (TransportTable.clientDisconnected_spares sound client.value env).sound
  | _ => exact sound

/-- What can become of a host: it is created, it processes events, transports are created and the
database is changed from within the process or by peers, and sessions go on by themselves. -/
inductive Attainable (B A : Type) [MessageBus B] [AttributeServer A] : Host S → Prop
  /-- It is created. -/
  | created (options : HostOptions) : Attainable B A (create options)
  /-- It processes an event. -/
  | processed {host : Host S} (attainable : Attainable B A host) (event : Event S)
      (env : Environment B A) : Attainable B A (host.process event env).1
  /-- A transport is created from within the process. -/
  | equipped {host : Host S} (attainable : Attainable B A host) (config : TransportConfig)
      (session : S) : Attainable B A (host.createTransport config session).2
  /-- The database becomes another one. -/
  | stored {host : Host S} (attainable : Attainable B A host) (database : Database) :
      Attainable B A { host with database }
  /-- Its sessions go on. -/
  | drifted {host : Host S} (attainable : Attainable B A host) (sessions : Transport S → S) :
      Attainable B A (host.drift sessions)

/-- Whatever becomes of a host, its transports are sound. -/
theorem Attainable.sound (attainable : Attainable B A host) : host.transports.Sound := by
  induction attainable with
  | created options => exact fun transport member => nomatch member
  | processed _ event env ih => exact process_sound ih event env
  | equipped _ config session ih => exact TransportTable.create_sound ih config session
  | stored _ database ih => exact ih
  | drifted _ sessions ih => exact drift_sound ih sessions

/-- A host that processes events goes on being attainable. -/
theorem Attainable.processAll (attainable : Attainable B A host) (events : List (Event S))
    (env : Environment B A) : Attainable B A (host.processAll events env).1 := by
  induction events generalizing host env with
  | nil => exact attainable
  | cons event events ih => exact ih (attainable.processed event env) _

/-! ### What others have -/

/-- Every event of a client leaves alone what others have of the transports. -/
theorem process_transports_othersOf (sound : host.transports.Sound) {event : Event S}
    {client : ClientName} (issued : event.issuer? = some client) (env : Environment B A) :
    (host.process event env).1.transports.othersOf client.value =
      host.transports.othersOf client.value := by
  cases event with
  | methodCall caller token call =>
    cases issued
    exact (call_spares sound client.value token call env).others
  | clientDisconnected other =>
    cases issued
    exact (TransportTable.clientDisconnected_spares sound client.value env).others
  | objectPublished | objectWithdrawn | clientReady | valueChanged => rfl
  | _ => cases issued

/-- Every event of a client leaves alone the services that others publish. -/
theorem process_publications_othersOf (host : Host S) {event : Event S} {client : ClientName}
    (issued : event.issuer? = some client) (env : Environment B A) :
    (host.process event env).1.publications.othersOf client.value =
      host.publications.othersOf client.value := by
  by_cases media : event.IsMedia
  · have framed : host.process event env = _ :=
      process_media media host host.publications host.database env
    rw [framed]
  -- Of all method calls only the two about services are left.
  cases event with
  | methodCall caller token call =>
    cases issued
    cases call with
    | registerService path =>
      exact host.publications.register_othersOf client.value path.value token
    | unregisterService path =>
      exact host.publications.unregister_othersOf host.database client.value path.value env
    | _ => exact absurd trivial media
  | clientDisconnected other =>
    cases issued
    exact host.publications.clientDisconnected_othersOf host.database client.value
      (host.transports.clientDisconnected client.value env).2.2
  | objectPublished other object =>
    cases issued
    exact host.publications.publish_othersOf client.value object
  | objectWithdrawn other path =>
    cases issued
    exact host.publications.withdraw_othersOf client.value path.value
  | clientReady other path =>
    cases issued
    exact host.publications.clientReady_othersOf host.database client.value path.value env
  | valueChanged other path value =>
    cases issued
    exact host.publications.valueChanged_othersOf host.database client.value path.value value.data
      env
  | _ => cases issued

/-! ### Departures -/

/-- Nothing of a client is left in a host: no transport has a record of it, and no service is
registered for it. -/
structure IsWithout (host : Host S) (client : ClientName) : Prop where
  /-- It owns no transport. -/
  unowned : ∀ transport ∈ host.transports.transports, ∀ owner ∈ transport.owners.owners,
    owner.client.value ≠ client.value
  /-- It publishes no service. -/
  unpublished : ∀ service ∈ host.publications.services, service.owner.value ≠ client.value

/-- A client that left the bus is not in the host any more. -/
theorem process_clientDisconnected_isWithout (sound : host.transports.Sound) (client : ClientName)
    (env : Environment B A) :
    (host.process (.clientDisconnected client) env).1.IsWithout client where
  unowned := by
    intro transport member
    have gone := TransportTable.clientDisconnected_unowned sound client.value env transport member
    exact OwnerSet.contains_eq_false_iff.mp gone
  unpublished := by
    intro service member
    have staying := member
    rw [process, Publications.clientDisconnected_services] at staying
    simpa [PublishedService.isOwnedBy] using (List.mem_filter.mp staying).2

/-- The departure of a client that is not in the host changes nothing, and nobody is called. -/
theorem IsWithout.process_clientDisconnected {client : ClientName} (without : host.IsWithout client)
    (env : Environment B A) : host.process (.clientDisconnected client) env = (host, env) := by
  have absent : ∀ transport ∈ host.transports.transports,
      transport.owners.contains client.value = false := fun transport member =>
    OwnerSet.contains_eq_false_iff.mpr (without.unowned transport member)
  have unpublished : ∀ service ∈ host.publications.services,
      service.isOwnedBy client.value = false := fun service member =>
    beq_eq_false_iff_ne.mpr (without.unpublished service member)
  simp only [process, TransportTable.clientDisconnected_absent absent,
    Publications.clientDisconnected_absent unpublished]

/-- Whatever has become of a host, an event of a client leaves alone what others have: the records
of other owners on all transports, and the services of other clients with their registrations, their
objects and what was built for them. When a client leaves the bus, no transport has a record of it
any more and no service is its own, and a further departure changes nothing and calls nobody. -/
theorem process_separate (attainable : Attainable B A host) {event : Event S} {client : ClientName}
    (issued : event.issuer? = some client) {env final : Environment B A} {after : Host S}
    (processed : host.process event env = (after, final)) :
    after.transports.othersOf client.value = host.transports.othersOf client.value ∧
    after.publications.othersOf client.value = host.publications.othersOf client.value ∧
    (event = .clientDisconnected client →
      (∀ transport ∈ after.transports.transports, ∀ owner ∈ transport.owners.owners,
        owner.client.value ≠ client.value) ∧
      (∀ service ∈ after.publications.services, service.owner.value ≠ client.value) ∧
      ∀ now : Environment B A, after.process (.clientDisconnected client) now = (after, now)) := by
  have sound := attainable.sound
  have owners := process_transports_othersOf sound issued env
  have services := process_publications_othersOf host issued env
  rw [processed] at owners services
  refine ⟨owners, services, ?_⟩
  rintro rfl
  have without := process_clientDisconnected_isWithout sound client env
  rw [processed] at without
  exact ⟨without.unowned, without.unpublished, without.process_clientDisconnected⟩

/-- Two clients own a transport together, and each publishes a service. When one of them leaves, the
other keeps both, and its leaving again does nothing. -/
theorem process_separate_of_two :
    let plain := plainTransport false
    let first : ClientName := ⟨":1.7", by decide⟩
    let second : ClientName := ⟨":1.8", by decide⟩
    let events : List (Event PlainSession) :=
      [.transportConfigured plain.device plain.devicePath plain.uuid 0 plain.configuration
          plain.session,
        .methodCall first ⟨2⟩ (.acquire plain.path ⟨"r", by decide⟩),
        .resumeComplete plain.path first ⟨0⟩ (.ok ()),
        .methodCall second ⟨3⟩ (.acquire plain.path ⟨"w", by decide⟩)] ++
        batteryEvents first ⟨"/app", by decide⟩ ⟨"/app/level", by decide⟩ ++
        batteryEvents second ⟨"/other", by decide⟩ ⟨"/other/level", by decide⟩
    let begun : Host PlainSession × Environment PlainBus CountingServer :=
      (create {}).processAll events countingEnvironment
    let after := begun.1.process (.clientDisconnected first) begun.2
    (begun.1.transports.transports.flatMap fun transport =>
        transport.owners.owners.map Owner.client) = [first, second] ∧
      (after.1.transports.transports.flatMap fun transport =>
        transport.owners.owners.map Owner.client) = [second] ∧
      after.1.transports.othersOf first.value = begun.1.transports.othersOf first.value ∧
      begun.1.publications.services.map PublishedService.owner = [first, second] ∧
      after.1.publications.services.map PublishedService.owner = [second] ∧
      after.1.publications.othersOf first.value = begun.1.publications.othersOf first.value ∧
      after.1.process (.clientDisconnected first) after.2 = after := by
  intro plain first second events begun after
  have attainable : Attainable PlainBus CountingServer begun.1 :=
    (Attainable.created {}).processAll events countingEnvironment
  have issued : (.clientDisconnected first : Event PlainSession).issuer? = some first := rfl
  have processed : begun.1.process (.clientDisconnected first) begun.2 = (after.1, after.2) :=
    (Prod.eta after).symm
  have both : (begun.1.transports.transports.flatMap fun transport =>
      transport.owners.owners.map Owner.client) = [first, second] := by decide +kernel
  have one : (after.1.transports.transports.flatMap fun transport =>
      transport.owners.owners.map Owner.client) = [second] := by decide +kernel
  have published : begun.1.publications.services.map PublishedService.owner = [first, second] := by
    decide +kernel
  have left : after.1.publications.services.map PublishedService.owner = [second] := by
    decide +kernel
  clear_value after begun
  obtain ⟨owners, services, departed⟩ := process_separate attainable issued processed
  obtain ⟨-, -, again⟩ := departed rfl
  exact ⟨both, one, owners, published, left, services, again after.2⟩

end Host

end BluetoothHost
