import BluetoothHost.Proofs.Gatt.Abandonment
import BluetoothHost.Proofs.Host.Values

/-!
# Clients whose services cannot be built

A client can publish anything, and its service may turn out to be impossible when it says that it
is ready. The host then refuses the registration and goes on as if there had been none: its
attributes are the same and the attribute server does not hear of it. What is lost is a service that
code within the process had not finished, because the chain has room for one service only.
-/

namespace BluetoothHost.Host

open Transport (PlainSession PlainBus)
open Catalogue (CountingServer countingEnvironment)

variable {S B A : Type} [ProfileSession S] [MessageBus B] [AttributeServer A] {host : Host S}

/-- Whatever becomes of a host, no service is built before its client is ready. -/
theorem Reachable.pristine (reachable : Reachable B A host) : host.publications.Pristine := by
  induction reachable with
  | created options => exact nofun
  | @processed host _ event genuine env ih =>
    show (host.process event env).1.catalogue.publications.Pristine
    rcases process_catalogue genuine host env with same | ⟨action, between, -, -, performed⟩
    · rwa [same]
    · rw [performed]
      exact Catalogue.perform_pristine ih action between
  | acted _ _ env ih => exact Catalogue.perform_pristine ih _ env
  | moved _ _ ih => exact ih

/-- When a client is ready and its service cannot be built, the only call is the refusal of the
registration, and the server is left as it was. The services of clients are the others, the
transports are the same, and so are the attributes, unless an object has a UUID by which its
attribute passes for the declaration of a service. No handle that was given out is free again. The
chain stays as it was if no handle was given out, and is empty if the service had been begun. -/
theorem process_clientReady_unbuilt (reachable : Reachable B A host) {client : ClientName}
    {path : ObjectPath} {record : PublishedService} {token : ReplyToken} {cause : Error}
    (found : host.publications.services.find?
      (PublishedService.isRegistration client.value path.value) = some record)
    (waits : record.registration = some token)
    (failed : ({ record with registration := none }.build host.database).1 = .error cause)
    (env : Environment B A) {after : Host S} {final : Environment B A}
    (processed : host.process (.clientReady client path) env = (after, final)) :
    (∃ accepted, env.Makes [.reply token (.error .invalidArguments) accepted] final) ∧
      final.server = env.server ∧
      after.publications.services = host.publications.services.eraseP
        (PublishedService.isRegistration client.value path.value) ∧
      after.transports = host.transports ∧
      (record.Undisguised → after.database.attributes = host.database.attributes) ∧
      host.database.nextHandle ≤ after.database.nextHandle ∧
      after.database.announces = host.database.announces ∧
      after.database.chain =
        if after.database.nextHandle = host.database.nextHandle then host.database.chain
        else [] := by
  have orderly : host.database.Orderly := reachable.linked.orderly
  obtain ⟨database, readied, recovered⟩ := Publications.clientReady_recovered orderly
    reachable.pristine found waits failed env
  unfold process at processed
  dsimp only at processed
  rw [readied] at processed
  obtain ⟨rfl, rfl⟩ := Prod.mk.inj processed
  exact ⟨⟨_, env.sendReply_makes token _⟩, rfl, rfl, rfl, recovered.attributes, recovered.grows,
    recovered.announces, recovered.chain⟩

/-- The events of a client that publishes a battery service whose only characteristic has flags
that nobody knows. -/
def flagEvents (client : ClientName) (battery level : ObjectPath) : List (Event S) :=
  [.methodCall client ⟨1⟩ (.registerService battery),
    .objectPublished client
      { path := battery, interface := .service, uuid := some (.uuid16 0x180F) },
    .objectPublished client
      { path := level, interface := .characteristic, uuid := some (.uuid16 0x2A19)
        flags := .unusable }]

omit [ProfileSession S] in
/-- These events are genuine. -/
theorem isGenuine_of_mem_flagEvents {client : ClientName} {battery level : ObjectPath} :
    ∀ event ∈ (flagEvents client battery level : List (Event S)), event.IsGenuine := by
  simp [flagEvents, Event.IsGenuine]

/-- A service whose characteristic cannot be built takes up a handle and leaves nothing else. -/
theorem process_clientReady_unbuilt_of_flags :
    let client : ClientName := ⟨":1.7", by decide⟩
    let path : ObjectPath := ⟨"/app", by decide⟩
    let begun : Host PlainSession × Environment PlainBus CountingServer :=
      (create {}).processAll (flagEvents client path ⟨"/app/level", by decide⟩) countingEnvironment
    let after := begun.1.process (.clientReady client path) begun.2
    begun.1.publications.services.length = 1 ∧ begun.1.database.nextHandle = 1 ∧
      after.1.publications.services = [] ∧ after.1.database.nextHandle = 2 ∧
      after.1.database.attributes = begun.1.database.attributes ∧
      ∃ accepted, begun.2.Makes [.reply ⟨1⟩ (.error .invalidArguments) accepted] after.2 := by
  intro client path begun after
  have reachable : Reachable PlainBus CountingServer begun.1 :=
    (Reachable.created {}).processAll isGenuine_of_mem_flagEvents countingEnvironment
  have known : (begun.1.publications.services.find?
      (PublishedService.isRegistration client.value path.value)).map (fun record =>
        (record.registration, ({ record with registration := none }.build begun.1.database).1,
          record.objects.map PublishedObject.uuid)) =
      some (some ⟨1⟩, .error .invalidArguments,
        [some (.uuid16 0x180F), some (.uuid16 0x2A19)]) := by decide +kernel
  have single : begun.1.publications.services.length = 1 := by decide +kernel
  have counter : begun.1.database.nextHandle = 1 := by decide +kernel
  have gone : after.1.publications.services = [] := by decide +kernel
  have next : after.1.database.nextHandle = 2 := by decide +kernel
  have processed : begun.1.process (.clientReady client path) begun.2 = (after.1, after.2) :=
    (Prod.eta after).symm
  clear_value after begun
  obtain ⟨record, found, facts⟩ := Option.map_eq_some_iff.mp known
  obtain ⟨waits, others⟩ := Prod.mk.inj facts
  obtain ⟨failed, uuids⟩ := Prod.mk.inj others
  obtain ⟨answered, -, -, -, same, -⟩ :=
    process_clientReady_unbuilt reachable found waits failed begun.2 processed
  refine ⟨single, counter, gone, next, same fun object member uuid named declares => ?_, answered⟩
  have tails : record.objects.tail.map PublishedObject.uuid = [some (.uuid16 0x2A19)] := by
    rw [List.map_tail, uuids]
    rfl
  have listed := List.mem_map_of_mem (f := PublishedObject.uuid) member
  rw [tails, List.mem_singleton, named, Option.some.injEq] at listed
  subst listed
  revert declares
  unfold Uuid.DeclaresServices
  decide

/-- Code within the process has begun a service. When the service of a client cannot be built, that
service is no longer under construction. -/
theorem clientReady_discards_chain :
    let client : ClientName := ⟨":1.7", by decide⟩
    let path : ObjectPath := ⟨"/app", by decide⟩
    let started : Host PlainSession :=
      { (create {} : Host PlainSession) with
        database := ((create {} : Host PlainSession).database.addService (.uuid16 0x1234)).2 }
    let begun : Host PlainSession × Environment PlainBus CountingServer :=
      started.processAll (flagEvents client path ⟨"/app/level", by decide⟩) countingEnvironment
    let after := begun.1.process (.clientReady client path) begun.2
    Reachable PlainBus CountingServer begun.1 ∧
      (begun.1.publications.services.find?
        (PublishedService.isRegistration client.value path.value)).map (fun record =>
          (record.registration, ({ record with registration := none }.build begun.1.database).1)) =
        some (some ⟨1⟩, .error .invalidArguments) ∧
      begun.1.database.chain = [⟨1, .service⟩] ∧ after.1.database.chain = [] := by
  intro client path started begun after
  have genuine : (.addService (.uuid16 0x1234) :
      Catalogue.Action PlainBus CountingServer).IsGenuine := trivial
  have acted : Reachable PlainBus CountingServer started :=
    (Reachable.created {}).acted genuine countingEnvironment
  exact ⟨acted.processAll isGenuine_of_mem_flagEvents countingEnvironment, by decide +kernel,
    by decide +kernel, by decide +kernel⟩

end BluetoothHost.Host
