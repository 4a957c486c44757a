import BluetoothHost.Proofs.Gatt.Materialize

/-!
# All or nothing

Three things can run out when a service is begun or extended: the places for attributes, the
handles, and the places on the chain. A characteristic needs two of each, so one of them can run out
halfway. Whatever it is, a refused addition leaves the database as it was, and any other puts its
attributes at the end, lists them on the chain and takes as many handles as it has attributes. What
is left of the three decides which of the two it is.
-/

namespace BluetoothHost

namespace Database

/-- An addition with this result is done as a whole if there is room for it, and not at all if there
is none. -/
structure AllOrNothing (before : Database) (room : Prop) (attributes : List Attribute)
    (chain : List Node) (result : Except Error Handle × Database) : Prop where
  /-- It is done exactly if there is room. -/
  done_iff : result.1.isOk = true ↔ room
  /-- One that is refused changes nothing. -/
  refused : ∀ cause, result.1 = .error cause → result.2 = before
  /-- Otherwise these attributes stand behind those of before, the chain is this one, and the
  counter has passed one handle for each of them. -/
  done : ∀ handle, result.1 = .ok handle → result.2 = { before with
    attributes := before.attributes ++ attributes, chain
    nextHandle := before.nextHandle + attributes.length }
  /-- The new attributes have the handles from the counter on, and that of the last is returned. -/
  handles : ∀ handle, result.1 = .ok handle →
    attributes.map (fun entry => entry.handle.toNat) =
        List.range' before.nextHandle attributes.length ∧
      attributes.getLast?.map Attribute.handle = some handle

variable {database after : Database} {room : Prop} {attributes : List Attribute} {chain : List Node}

/-- What is refused without a change is refused for want of room. -/
theorem allOrNothing_refused {cause : Error} {result : Except Error Handle × Database}
    (guarded : result.1.isOk = true ↔ room) (refused : result = (.error cause, database)) :
    AllOrNothing database room attributes chain result := by
  subst refused
  exact ⟨guarded, fun _ _ => rfl, nofun, nofun⟩

/-- What is done takes the handles from the counter on. -/
theorem allOrNothing_done {handle : Handle} {result : Except Error Handle × Database}
    (guarded : result.1.isOk = true ↔ room)
    (done : result = (.ok handle, { database with
      attributes := database.attributes ++ attributes, chain
      nextHandle := database.nextHandle + attributes.length }))
    (numbered : attributes.map (fun entry => entry.handle.toNat) =
      List.range' database.nextHandle attributes.length)
    (last : attributes.getLast?.map Attribute.handle = some handle) :
    AllOrNothing database room attributes chain result := by
  subst done
  refine ⟨guarded, nofun, fun _ _ => rfl, fun other same => ⟨numbered, ?_⟩⟩
  rw [last, Except.ok.inj same]

/-- Beginning a service adds its declaration. The chain begins with it anew. -/
theorem addService_allOrNothing (orderly : database.Orderly) (uuid : Uuid) :
    AllOrNothing database (database.Accommodates 1)
      [.serviceDeclaration (UInt16.ofNat database.nextHandle) uuid]
      [⟨UInt16.ofNat database.nextHandle, .service⟩] (database.addService uuid) := by
  have guarded := database.addService_isOk_iff uuid
  rcases addService_eq orderly uuid with ⟨cause, refused⟩ | ⟨service, next, added⟩
  · exact allOrNothing_refused guarded refused
  · obtain rfl : UInt16.ofNat database.nextHandle = service := next ▸ UInt16.ofNat_toNat
    exact allOrNothing_done guarded added (congrArg (fun number => [number]) next) rfl

/-- Adding a characteristic adds its declaration and its value, both or neither. -/
theorem addCharacteristic_allOrNothing (orderly : database.Orderly) (uuid : Uuid)
    (properties : CharacteristicProperties) (permissions : Permissions) :
    AllOrNothing database (database.Extensible 2)
      [.characteristicDeclaration (UInt16.ofNat database.nextHandle) properties
          (UInt16.ofNat database.nextHandle + 1) uuid,
        .served (UInt16.ofNat database.nextHandle + 1) uuid permissions]
      (database.chain ++ [⟨UInt16.ofNat database.nextHandle, .declaration⟩,
        ⟨UInt16.ofNat database.nextHandle + 1, .value⟩])
      (database.addCharacteristic uuid properties permissions) := by
  have guarded := database.addCharacteristic_isOk_iff uuid properties permissions
  rcases addCharacteristic_eq orderly uuid properties permissions with ⟨cause, refused⟩ |
    ⟨handle, next, below, -, -, added⟩
  · exact allOrNothing_refused guarded refused
  · obtain rfl : UInt16.ofNat database.nextHandle = handle := next ▸ UInt16.ofNat_toNat
    have successor := toNat_succ below
    rw [next] at successor
    have numbered := congrArg₂ (fun one other => [one, other]) next successor
    exact allOrNothing_done guarded added numbered rfl

/-- Adding a descriptor adds it. -/
theorem addDescriptor_allOrNothing (orderly : database.Orderly) (uuid : Uuid)
    (permissions : Permissions) :
    AllOrNothing database (database.Extensible 1)
      [.served (UInt16.ofNat database.nextHandle) uuid permissions]
      (database.chain ++ [⟨UInt16.ofNat database.nextHandle, .descriptor⟩])
      (database.addDescriptor uuid permissions) := by
  have guarded := database.addDescriptor_isOk_iff uuid permissions
  rcases addDescriptor_eq orderly uuid permissions with ⟨cause, refused⟩ |
    ⟨handle, next, -, -, added⟩
  · exact allOrNothing_refused guarded refused
  · obtain rfl : UInt16.ofNat database.nextHandle = handle := next ▸ UInt16.ofNat_toNat
    exact allOrNothing_done guarded added (congrArg (fun number => [number]) next) rfl

end Database

namespace Catalogue

variable {B A : Type} [MessageBus B] [AttributeServer A] {first : Handle} {announces : Bool}
  {actions : List (Action B A)} {env later : Environment B A} {catalogue : Catalogue}

/-- Whatever befell a fresh catalogue, a service is begun, and a characteristic or a descriptor is
added, as a whole or not at all. It is done exactly if the attributes have room. Then they stand
behind all others with the next handles, the chain begins with the service or goes on with the new
attributes, and the counter has passed their handles; otherwise the database is what it was. -/
theorem run_additions (ran : (fresh first announces).run actions env = (catalogue, later))
    (uuid : Uuid) (properties : CharacteristicProperties) (permissions : Permissions) :
    let database := catalogue.database
    let next := UInt16.ofNat database.nextHandle
    Database.AllOrNothing database (database.Accommodates 1)
      [.serviceDeclaration next uuid] [⟨next, .service⟩] (database.addService uuid) ∧
    Database.AllOrNothing database (database.Extensible 2)
      [.characteristicDeclaration next properties (next + 1) uuid,
        .served (next + 1) uuid permissions]
      (database.chain ++ [⟨next, .declaration⟩, ⟨next + 1, .value⟩])
      (database.addCharacteristic uuid properties permissions) ∧
    Database.AllOrNothing database (database.Extensible 1)
      [.served next uuid permissions] (database.chain ++ [⟨next, .descriptor⟩])
      (database.addDescriptor uuid permissions) := by
  intro database next
  have orderly : database.Orderly := (run_fresh_recorded ran).database.orderly
  exact ⟨Database.addService_allOrNothing orderly uuid,
    Database.addCharacteristic_allOrNothing orderly uuid properties permissions,
    Database.addDescriptor_allOrNothing orderly uuid permissions⟩

/-- With one place left, a service is under construction that could go on for long. A characteristic
finds a place for its declaration and none for its value, and nothing of it stays. A descriptor
takes the last place. -/
theorem run_additions_of_last_place :
    let service : List (Action Transport.PlainBus CountingServer) := .addService (.uuid16 0x180F) ::
      List.replicate 15 (.addCharacteristic (.uuid16 0x2A19) .read .both)
    let actions := service ++ service ++ [.addService (.uuid16 0x1815)]
    let catalogue := ((fresh 1 true).run actions countingEnvironment).1
    catalogue.database.size + 1 = Limits.attributes ∧
      catalogue.database.chain = [⟨63, .service⟩] ∧
      (catalogue.database.addCharacteristic (.uuid16 0x2A56) .read .both).2 = catalogue.database ∧
      (catalogue.database.addDescriptor (.uuid16 0x2901) .both).2.attributes =
        catalogue.database.attributes ++ [.served 64 (.uuid16 0x2901) .both] := by
  intro service actions catalogue
  have ran : (fresh 1 true).run actions countingEnvironment =
      (catalogue, ((fresh 1 true).run actions countingEnvironment).2) := (Prod.eta _).symm
  obtain ⟨size, chain, counter, refused, added⟩ : catalogue.database.size = 63 ∧
      catalogue.database.chain = [⟨63, .service⟩] ∧ catalogue.database.nextHandle = 64 ∧
      (catalogue.database.addCharacteristic (.uuid16 0x2A56) .read .both).1 =
        .error .noResources ∧
      (catalogue.database.addDescriptor (.uuid16 0x2901) .both).1 = .ok 64 := by
    decide +kernel
  clear_value catalogue
  obtain ⟨-, declares, -⟩ := run_additions ran (.uuid16 0x2A56) .read .both
  obtain ⟨-, -, describes⟩ := run_additions ran (.uuid16 0x2901) .read .both
  refine ⟨congrArg (· + 1) size, chain, declares.refused _ refused, ?_⟩
  rw [describes.done _ added, counter]
  rfl

end Catalogue

end BluetoothHost
