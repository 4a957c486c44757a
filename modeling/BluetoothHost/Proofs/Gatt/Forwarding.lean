import BluetoothHost.Proofs.Gatt.Attachment
import BluetoothHost.Proofs.Gatt.Update

/-!
# Writes that are passed on to clients

A peer writes an attribute by its UUID, and the write goes to the client whose object is linked to
the first attribute found under it. As long as services are removed only with their objects, there
is one such object at most, so that the write is one call to the client that published it, or none.
-/

namespace BluetoothHost

variable {B A : Type}

/-- Where what is collected of the entries is collected only once, it tells the entry. -/
theorem eq_of_mem_flatMap {α β : Type} {collect : α → List β} {entries : List α}
    (nodup : (entries.flatMap collect).Nodup) {one other : α} {item : β} (first : one ∈ entries)
    (second : other ∈ entries) (here : item ∈ collect one) (there : item ∈ collect other) :
    one = other := by
  induction entries with
  | nil => cases first
  | cons entry rest ih =>
    rw [List.flatMap_cons] at nodup
    obtain ⟨-, others, apart⟩ := List.nodup_append.mp nodup
    rcases List.mem_cons.mp first with rfl | among
    · rcases List.mem_cons.mp second with rfl | behind
      · rfl
      · exact absurd rfl (apart item here item (List.mem_flatMap_of_mem behind there))
    · rcases List.mem_cons.mp second with rfl | behind
      · exact absurd rfl (apart item there item (List.mem_flatMap_of_mem among here))
      · exact ih others among behind

namespace Publications

variable {publications : Publications} {database : Database} {record : PublishedService}
  {object : PublishedObject} {handle : Handle} {uuid : Uuid}

/-- An object of a service stands for the attribute with a handle. -/
structure Serves (record : PublishedService) (object : PublishedObject) (handle : Handle)
    (publications : Publications) : Prop where
  /-- The service is registered. -/
  registered : record ∈ publications.services
  /-- The object was published for it. -/
  published : object ∈ record.objects
  /-- It is linked to the attribute. -/
  linked : object.linked = some handle

/-- The attributes for which objects stand are those to which objects are linked. -/
theorem exists_serves_iff :
    (∃ record object, publications.Serves record object handle) ↔ handle ∈ publications.links := by
  rw [mem_links]
  constructor
  · rintro ⟨record, object, serves⟩
    exact ⟨record, serves.registered, object, serves.published, serves.linked⟩
  · rintro ⟨record, registered, object, published, linked⟩
    exact ⟨record, object, registered, published, linked⟩

/-- One object at most stands for an attribute. -/
theorem Serves.unique {services : PublishedService} {other : PublishedObject}
    (nodup : publications.links.Nodup) (first : publications.Serves record object handle)
    (second : publications.Serves services other handle) : record = services ∧ object = other := by
  have here : handle ∈ record.links :=
    PublishedService.mem_links.mpr ⟨object, first.published, first.linked⟩
  have there : handle ∈ services.links :=
    PublishedService.mem_links.mpr ⟨other, second.published, second.linked⟩
  obtain rfl := eq_of_mem_flatMap nodup first.registered second.registered here there
  have own : record.links.Nodup := (List.nodup_flatMap.mp nodup).1 record first.registered
  exact ⟨rfl, eq_of_mem_flatMap own first.published second.published
    (Option.mem_toList.mpr first.linked) (Option.mem_toList.mpr second.linked)⟩

/-- What is found for a handle stands for it. -/
theorem serves_of_linkedTo? (found : publications.linkedTo? handle = some (record, object)) :
    publications.Serves record object handle := by
  obtain ⟨service, registered, within⟩ := List.exists_of_findSome?_eq_some found
  obtain ⟨other, known, same⟩ := Option.map_eq_some_iff.mp within
  obtain ⟨rfl, rfl⟩ := Prod.mk.inj same
  have linked := List.find?_some known
  exact ⟨registered, List.mem_of_find?_eq_some known, by simpa using linked⟩

/-- What stands for a handle is found for it. -/
theorem linkedTo?_eq_some (nodup : publications.links.Nodup)
    (serves : publications.Serves record object handle) :
    publications.linkedTo? handle = some (record, object) := by
  cases found : publications.linkedTo? handle with
  | some pair =>
    obtain ⟨rfl, rfl⟩ := serves.unique nodup (serves_of_linkedTo? found)
    rfl
  | none =>
    have nowhere := List.findSome?_eq_none_iff.mp found record serves.registered
    have missing := List.find?_eq_none.mp (Option.map_eq_none_iff.mp nowhere) object
      serves.published
    simp [serves.linked] at missing

/-- Once an object is withdrawn, no object is linked to its attribute. -/
theorem withdraw_unlinks (nodup : publications.links.Nodup) {client path : String}
    (known : publications.object? client path = some object)
    (linked : object.linked = some handle) :
    handle ∉ (publications.withdraw client path).2.links := by
  obtain ⟨record, found, own⟩ := Option.bind_eq_some_iff.mp known
  obtain ⟨front, back, services_eq, updated, -⟩ := split_of_find? found
  obtain ⟨before, behind, objects_eq, -, erased⟩ := split_of_find? own
  have withdrawn : (publications.withdraw client path).2 =
      ⟨front ++ record.withdraw path :: back⟩ := congrArg mk (updated _)
  have others : (record.withdraw path).objects = before ++ behind := erased
  rw [withdrawn]
  simp only [links, PublishedService.links, services_eq, objects_eq, others, linked,
    List.flatMap_append, List.flatMap_cons, Option.toList_some, List.append_assoc,
    List.cons_append] at nodup ⊢
  rw [← List.append_assoc] at nodup ⊢
  exact (List.nodup_cons.mp (List.nodup_middle.mp nodup)).1

/-- A write to an attribute for which an object stands is one call to the client of the object. -/
theorem write_forwards [MessageBus B] (nodup : publications.links.Nodup) {entry : Attribute}
    (found : database.findUuid? uuid = some entry)
    (writable : entry.permissions.any Permissions.write = true)
    (serves : publications.Serves record object entry.handle) (value : List UInt8)
    (env : Environment B A) :
    env.Makes [.remoteWrite record.owner.value object.path.value value]
      (database.write uuid value publications.handler env).2.2 := by
  obtain ⟨index, place⟩ := Database.positionOf?_of_findUuid? found
  have known : publications.linkedTo? { entry with notifyReady := false }.handle =
      some (record, object) := linkedTo?_eq_some nodup serves
  simp only [Database.write, place, found, writable, if_true, handler, known]
  exact env.setRemoteValue_makes record.owner.value object.path.value value

/-- Any other write is no call. -/
theorem write_silent [MessageBus B] (publications : Publications)
    (unserved : ∀ entry, database.findUuid? uuid = some entry →
      entry.permissions.any Permissions.write = true →
      ∀ record object, ¬publications.Serves record object entry.handle)
    (value : List UInt8) (env : Environment B A) :
    env.Makes [] (database.write uuid value publications.handler env).2.2 := by
  unfold Database.write
  split
  · rename_i index entry place found
    split
    · rename_i writable
      have missing : publications.linkedTo? entry.handle = none := by
        cases known : publications.linkedTo? entry.handle with
        | none => rfl
        | some pair =>
          exact absurd (serves_of_linkedTo? known) (unserved entry found writable _ _)
      simp only [handler, missing]
      exact env.makes_nil
    · exact env.makes_nil
  · exact env.makes_nil

/-- When a client is ready its objects are linked to new attributes. -/
theorem clientReady_links [MessageBus B] [AttributeServer A] (orderly : database.Orderly)
    (publications : Publications) (client path : String) (env : Environment B A) :
    ∀ handle ∈ (publications.clientReady database client path env).2.1.links,
      handle ∈ publications.links ∨ database.nextHandle ≤ handle.toNat := by
  have readied := publications.clientReady_readied database client path env
  generalize publications.clientReady database client path env = result at readied ⊢
  cases readied with
  | ignored => exact fun _ => .inl
  | dropped found waits services_eq built =>
    exact fun handle member => .inl ((links_sublist (sublist_without services_eq)).subset member)
  | built found waits services_eq built enrolled =>
    obtain ⟨service, erected⟩ := PublishedService.build_erected orderly built
    intro handle member
    obtain ⟨other, there, object, own, linked⟩ := mem_links.mp member
    rcases mem_replaced services_eq there with rfl | before
    · exact .inr (erected.fresh object own handle linked).1
    · exact .inl (mem_links.mpr ⟨other, before, object, own, linked⟩)

/-- A new value leaves all attributes where they are. -/
theorem valueChanged_extends [AttributeServer A] (orderly : database.Orderly)
    (publications : Publications) (client path : String) (value : List UInt8)
    (env : Environment B A) :
    Database.Extends database
      (publications.valueChanged database client path value env).2.2.1 := by
  rw [valueChanged_database orderly]
  split
  · exact .refl database
  · exact (Database.updateValue_touched orderly _ value env).extends

end Publications

namespace Catalogue

variable {catalogue : Catalogue} {ledger : List Creation}

/-- What is known of a catalogue as long as services go only with their objects. -/
structure Attached (ledger : List Creation) (catalogue : Catalogue) : Prop where
  /-- The attributes are on record. -/
  recorded : catalogue.database.Recorded ledger
  /-- So are the declarations. -/
  declared : catalogue.database.Declared ledger
  /-- Objects fit their attributes. -/
  linked : catalogue.Linked
  /-- The services of clients are there with the attributes of their objects. -/
  attached : catalogue.publications.Attached ledger catalogue.database

/-- In a fresh catalogue nothing is attached. -/
theorem attached_fresh (first : Handle) (announces : Bool) :
    (fresh first announces).Attached [] where
  recorded := Database.recorded_fresh first announces
  declared := nofun
  linked := linked_fresh first announces
  attached := ⟨nofun, nofun, .nil, nofun, .nil⟩

/-- An action that spares the services of clients leaves them attached. -/
theorem perform_attached [MessageBus B] [AttributeServer A] (attached : catalogue.Attached ledger)
    {action : Action B A} (genuine : action.IsGenuine) (spares : action.SparesServices)
    (env : Environment B A) :
    (catalogue.perform action env).1.Attached (ledger ++ Database.creations
      (catalogue.builds action) catalogue.database (catalogue.perform action env).1.database) := by
  have orderly := attached.recorded.orderly
  have changes := perform_changes orderly action env
  have recorded := Database.Changes.recorded changes attached.recorded
  refine ⟨recorded, attached.declared.changes changes recorded.orderly.counted,
    perform_linked attached.linked genuine env, ?_⟩
  have more {extra : List Creation} : ledger ⊆ ledger ++ extra := List.subset_append_left _ _
  obtain ⟨own, -, -, kept⟩ := attached
  obtain ⟨database, publications⟩ := catalogue
  cases action with
  | addService uuid => exact kept.extend more (Database.addService_extends orderly uuid)
  | addCharacteristic uuid properties permissions =>
    exact kept.extend more (Database.addCharacteristic_extends orderly uuid properties permissions)
  | addDescriptor uuid permissions =>
    exact kept.extend more (Database.addDescriptor_extends orderly uuid permissions)
  | materialize => exact kept.extend more (database.materialize_extends env)
  | removeService service => exact spares.elim
  | updateValue uuid value =>
    exact kept.extend more (Database.updateValue_touched orderly uuid value env).extends
  | setNotifyReady handle ready =>
    exact kept.extend more (database.setNotifyReady_touched handle ready).extends
  | write uuid value handler =>
    exact kept.extend more (database.write_touched uuid value handler env.bus).extends
  | writePublished uuid value =>
    exact kept.extend more (database.write_touched uuid value publications.handler env).extends
  | register client path token =>
    exact (kept.register client path token).extend more (.refl database)
  | unregister client path =>
    exact (kept.unregister own client path env).extend more (.refl _)
  | publish client object => exact (kept.publish client genuine).extend more (.refl database)
  | withdraw client path => exact (kept.withdraw client path).extend more (.refl database)
  | clientReady client path => exact kept.clientReady own rfl env
  | valueChanged client path value =>
    exact (kept.valueChanged database client path value env).extend more
      (publications.valueChanged_extends orderly client path value env)
  | clientDisconnected client =>
    exact (kept.clientDisconnected own client env).extend more (.refl _)
  | evolve bus server => exact kept.extend more (.refl database)

/-- An attribute to which an object is linked afterwards had one before, or it is new. -/
theorem perform_links [MessageBus B] [AttributeServer A] (orderly : catalogue.database.Orderly)
    {action : Action B A} (genuine : action.IsGenuine) (env : Environment B A) :
    ∀ handle ∈ (catalogue.perform action env).1.publications.links,
      handle ∈ catalogue.publications.links ∨ catalogue.database.nextHandle ≤ handle.toNat := by
  obtain ⟨database, publications⟩ := catalogue
  intro handle member
  cases action with
  | register client path token =>
    exact .inl (publications.register_links client path token ▸ member)
  | unregister client path =>
    have fewer := publications.unregister_sublist database client path env
    exact .inl ((Publications.links_sublist fewer).subset member)
  | publish client object =>
    exact .inl ((publications.publish_links client genuine).subset member)
  | withdraw client path => exact .inl ((publications.withdraw_links client path).subset member)
  | clientReady client path =>
    exact Publications.clientReady_links orderly publications client path env handle member
  | valueChanged client path value =>
    exact .inl ((publications.valueChanged_links database client path value env).subset member)
  | clientDisconnected client =>
    have fewer := publications.clientDisconnected_sublist database client env
    exact .inl ((Publications.links_sublist fewer).subset member)
  | _ => exact .inl member

/-- From one moment to another services went only with their objects, and objects were linked only
to new attributes. -/
structure Continues (before after : Catalogue) : Prop where
  /-- The services of clients are still there with the attributes of their objects. -/
  attached : ∃ ledger, after.Attached ledger
  /-- The counter did not go back. -/
  grows : before.database.nextHandle ≤ after.database.nextHandle
  /-- An attribute to which an object is linked had one before, or it is new. -/
  fresh : ∀ handle ∈ after.publications.links,
    handle ∈ before.publications.links ∨ before.database.nextHandle ≤ handle.toNat

/-- Nothing happens. -/
theorem Attached.continues (attached : catalogue.Attached ledger) : Continues catalogue catalogue :=
  ⟨⟨ledger, attached⟩, Nat.le_refl _, fun _ => .inl⟩

/-- What is carried on twice is carried on. -/
theorem Continues.trans {before middle after : Catalogue} (first : Continues before middle)
    (second : Continues middle after) : Continues before after where
  attached := second.attached
  grows := Nat.le_trans first.grows second.grows
  fresh := by
    intro handle member
    rcases second.fresh handle member with there | new
    · exact first.fresh handle there
    · exact .inr (Nat.le_trans first.grows new)

/-- Every action that spares the services of clients is such a step. -/
theorem perform_continues [MessageBus B] [AttributeServer A] (attached : catalogue.Attached ledger)
    {action : Action B A} (genuine : action.IsGenuine) (spares : action.SparesServices)
    (env : Environment B A) : Continues catalogue (catalogue.perform action env).1 where
  attached := ⟨_, perform_attached attached genuine spares env⟩
  grows := Database.Changes.nextHandle_le (perform_changes attached.recorded.orderly action env)
  fresh := perform_links attached.recorded.orderly genuine env

end Catalogue

end BluetoothHost
