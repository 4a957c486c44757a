import BluetoothHost.Proofs.Gatt.Catalogue
import BluetoothHost.Proofs.Gatt.Construction
import BluetoothHost.Proofs.Gatt.Declaration
import BluetoothHost.Proofs.Media.Run
import Mathlib.Algebra.GroupWithZero.Nat

/-!
# Registering what was built

The walk along the chain reads declarations back from their bytes and keeps in mind the last
characteristic. Here it is shown to come down to one call for each element of the service, in the
order in which they were added, under a size that is the sum of what the elements need. If the
server numbers handles in a row, the service ends up with exactly as many as were reserved.
-/

namespace BluetoothHost

variable {B A : Type} [AttributeServer A]

/-- A server that refuses no registration. -/
structure Obliging (A : Type) [AttributeServer A] : Prop where
  /-- Services are taken. -/
  service : ∀ (server : A) uuid size,
    (AttributeServer.registerService server uuid size).1.isSome = true
  /-- Characteristics are taken. -/
  characteristic : ∀ (server : A) service uuid properties permissions,
    (AttributeServer.registerCharacteristic server service uuid properties permissions).1.isSome =
      true
  /-- Descriptors are taken. -/
  descriptor : ∀ (server : A) characteristic uuid,
    (AttributeServer.registerDescriptor server characteristic uuid).1.isSome = true

section Obliging

variable (obliging : Obliging A) (env : Environment B A)
include obliging

/-- A service is registered with one call. -/
theorem Obliging.registerService (uuid : Uuid) (size : UInt16) :
    ∃ first later, env.registerService uuid size = (some first, later) ∧
      env.Makes [.registerService uuid size (some first)] later := by
  obtain ⟨first, taken⟩ := Option.isSome_iff_exists.mp (obliging.service env.server uuid size)
  refine ⟨first, (env.registerService uuid size).2, Prod.ext taken rfl, ?_⟩
  rw [← taken]
  rfl

/-- A characteristic is registered with one call. -/
theorem Obliging.registerCharacteristic (service : Handle) (uuid : Uuid)
    (properties : CharacteristicProperties) (permissions : Permissions) :
    ∃ value later, env.registerCharacteristic service uuid properties permissions =
        (some value, later) ∧
      env.Makes [.registerCharacteristic service uuid properties permissions (some value)]
        later := by
  obtain ⟨value, taken⟩ := Option.isSome_iff_exists.mp
    (obliging.characteristic env.server service uuid properties permissions)
  refine ⟨value, (env.registerCharacteristic service uuid properties permissions).2,
    Prod.ext taken rfl, ?_⟩
  rw [← taken]
  rfl

/-- A descriptor is registered with one call. -/
theorem Obliging.registerDescriptor (characteristic : Handle) (uuid : Uuid) :
    ∃ handle later, env.registerDescriptor characteristic uuid = (some handle, later) ∧
      env.Makes [.registerDescriptor characteristic uuid (some handle)] later := by
  obtain ⟨handle, taken⟩ := Option.isSome_iff_exists.mp
    (obliging.descriptor env.server characteristic uuid)
  refine ⟨handle, (env.registerDescriptor characteristic uuid).2, Prod.ext taken rfl, ?_⟩
  rw [← taken]
  rfl

end Obliging

/-! ### What the elements of a service call for -/

namespace Element

/-- Whether the element describes a characteristic in front of it. -/
def isDescriptor : Element → Bool
  | characteristic _ _ _ => false
  | descriptor _ _ => true

/-- The number of handles that the element takes up on the server. -/
def handlesNeeded : Element → Nat
  | characteristic _ properties _ => if properties.pushesUpdates then 3 else 2
  | descriptor _ _ => 1

/-- How far behind the first of its handles the one is with which the server answers. -/
def offset : Element → Nat
  | characteristic _ _ _ => 1
  | descriptor _ _ => 0

/-- The last of its handles, by the one with which the server answered: the configuration of a
characteristic is behind its value. -/
def lastHandle (answer : Handle) : Element → Handle
  | characteristic _ properties _ =>
    if properties.pushesUpdates then handleAfter answer else answer
  | descriptor _ _ => answer

end Element

/-- The number of handles that elements take up on the server. -/
def handlesNeeded (elements : List Element) : Nat := (elements.map Element.handlesNeeded).sum

/-- Whether every descriptor among the elements has a characteristic in front of it. -/
def Ordered (elements : List Element) : Prop :=
  ∀ element ∈ elements.head?, element.isDescriptor = false

/-- Whether elements are in order can be computed. -/
instance (elements : List Element) : Decidable (Ordered elements) :=
  inferInstanceAs (Decidable (∀ element ∈ elements.head?, element.isDescriptor = false))

/-- With these calls a server registers elements of a service and answers with these handles.
Descriptors are registered for the value of the latest characteristic. -/
inductive Registers (service : Handle) :
    (latest : Option Handle) → List Element → (answers : List Handle) → List Call → Prop
  /-- No element is left. -/
  | done {latest : Option Handle} : Registers service latest [] [] []
  /-- A characteristic becomes the latest one. -/
  | characteristic {latest : Option Handle} {uuid : Uuid} {properties : CharacteristicProperties}
      {permissions : Permissions} {value : Handle} {rest : List Element} {answers : List Handle}
      {calls : List Call} (others : Registers service (some value) rest answers calls) :
      Registers service latest (.characteristic uuid properties permissions :: rest)
        (value :: answers)
        (.registerCharacteristic service uuid properties permissions (some value) :: calls)
  /-- A descriptor belongs to the latest characteristic. -/
  | descriptor {latest handle : Handle} {uuid : Uuid} {permissions : Permissions}
      {rest : List Element} {answers : List Handle} {calls : List Call}
      (others : Registers service (some latest) rest answers calls) :
      Registers service (some latest) (.descriptor uuid permissions :: rest) (handle :: answers)
        (.registerDescriptor latest uuid (some handle) :: calls)

/-- The highest handle that a service has reached with these answers. -/
def reached (last : Handle) : List Element → (answers : List Handle) → Handle
  | element :: rest, answer :: answers =>
    reached (max last (element.lastHandle answer)) rest answers
  | _, _ => last

/-- The answers are those of a server that numbers the handles of the elements in a row. -/
def Consecutive : (next : Nat) → List Element → (answers : List Handle) → Prop
  | _, [], [] => True
  | next, element :: rest, answer :: answers =>
    answer.toNat = next + element.offset ∧
      Consecutive (next + element.handlesNeeded) rest answers
  | _, _, _ => False

/-- The last handle of an element, from the one with which the server answered in a row. -/
theorem Element.toNat_lastHandle {element : Element} {answer : Handle} {next : Nat}
    (placed : answer.toNat = next + element.offset)
    (room : next + element.handlesNeeded ≤ 0x10000) :
    (element.lastHandle answer).toNat + 1 = next + element.handlesNeeded := by
  cases element with
  | descriptor uuid permissions => exact congrArg (· + 1) placed
  | characteristic uuid properties permissions =>
    by_cases pushes : properties.pushesUpdates = true
    · simp only [handlesNeeded, lastHandle, offset, pushes, if_true] at placed room ⊢
      have below : answer.toNat < Limits.lastHandle.toNat := by
        show answer.toNat < 65535
        omega
      have inner : answer ≠ 0xFFFF := by
        rintro rfl
        exact Nat.lt_irrefl _ below
      rw [handleAfter, if_neg inner, Database.toNat_succ below, placed]
    · simp only [handlesNeeded, lastHandle, pushes] at room ⊢
      exact congrArg (· + 1) placed

/-- With answers in a row a service reaches the last handle that was reserved. -/
theorem toNat_reached {elements : List Element} {answers : List Handle} {last : Handle} {next : Nat}
    (standing : last.toNat + 1 = next) (consecutive : Consecutive next elements answers)
    (room : next + handlesNeeded elements ≤ 0x10000) :
    (reached last elements answers).toNat + 1 = next + handlesNeeded elements := by
  induction elements generalizing answers last next with
  | nil =>
    cases answers with
    | nil => exact standing
    | cons answer answers => exact consecutive.elim
  | cons element rest ih =>
    cases answers with
    | nil => exact consecutive.elim
    | cons answer answers =>
      obtain ⟨placed, behind⟩ := consecutive
      have total : handlesNeeded (element :: rest) =
          element.handlesNeeded + handlesNeeded rest := rfl
      rw [total] at room ⊢
      have own := Element.toNat_lastHandle placed (by omega)
      have higher : (max last (element.lastHandle answer)).toNat + 1 =
          next + element.handlesNeeded := by
        rw [UInt16.toNat_max]
        omega
      rw [reached, ih higher behind (by omega), Nat.add_assoc]

/-! ### The size -/

namespace Database

variable {database : Database} {service : Handle} {uuid : Uuid} {placements : List Placement}

/-- The parts of a chain are counted separately. -/
theorem handlesNeededFor_append (database : Database) (first second : List Node) :
    database.handlesNeededFor (first ++ second) =
      database.handlesNeededFor first + database.handlesNeededFor second := by
  induction first with
  | nil => exact (Nat.zero_add _).symm
  | cons node rest ih =>
    rw [List.cons_append, handlesNeededFor, handlesNeededFor, ih, Nat.add_assoc]

/-- Every attribute of these elements is found under its handle. -/
def Stores (database : Database) (placements : List Placement) : Prop :=
  ∀ placement ∈ placements, ∀ entry ∈ placement.attributes,
    database.findHandle? entry.handle = some entry

/-- A characteristic declaration says what it declares. -/
theorem declares_characteristic (handle : Handle) (properties : CharacteristicProperties)
    (uuid : Uuid) :
    (Attribute.characteristicDeclaration handle properties (handle + 1) uuid).Declares
      (.characteristic properties uuid) :=
  Attribute.declares_of_bytes rfl rfl

/-- The nodes of an element count for what the element needs. -/
theorem handlesNeededFor_nodes (stores : database.Stores placements) {placement : Placement}
    (member : placement ∈ placements) :
    database.handlesNeededFor placement.nodes = placement.element.handlesNeeded := by
  obtain ⟨handle, element⟩ := placement
  cases element with
  | descriptor uuid permissions => rfl
  | characteristic uuid properties permissions =>
    have found := stores _ member (.characteristicDeclaration handle properties (handle + 1) uuid)
      List.mem_cons_self
    change database.findHandle? handle = _ at found
    have declared := (declares_characteristic handle properties uuid).1
    simp [Placement.nodes, handlesNeededFor, handlesNeeded, found, declared,
      Element.handlesNeeded]

/-- The handles that are needed for placed elements are those of the elements. -/
theorem handlesNeededFor_flatMap (stores : database.Stores placements) :
    database.handlesNeededFor (placements.flatMap Placement.nodes) =
      BluetoothHost.handlesNeeded (placements.map Placement.element) := by
  induction placements with
  | nil => rfl
  | cons placement rest ih =>
    have first := handlesNeededFor_nodes stores List.mem_cons_self
    have others := ih fun other member => stores other (List.mem_cons_of_mem _ member)
    rw [List.flatMap_cons, handlesNeededFor_append, first, others]
    rfl

/-- An element needs at most two handles for each of its nodes. -/
theorem handlesNeeded_le (placements : List Placement) :
    BluetoothHost.handlesNeeded (placements.map Placement.element) ≤
      2 * (placements.flatMap Placement.nodes).length := by
  induction placements with
  | nil => exact Nat.le_refl 0
  | cons placement rest ih =>
    obtain ⟨handle, element⟩ := placement
    have single : element.handlesNeeded ≤ 2 * (Placement.nodes ⟨handle, element⟩).length := by
      cases element with
      | descriptor uuid permissions => exact Nat.le_succ 1
      | characteristic uuid properties permissions =>
        show (if properties.pushesUpdates then 3 else 2) ≤ 2 * 2
        split <;> omega
    rw [List.flatMap_cons, List.length_append]
    show element.handlesNeeded + BluetoothHost.handlesNeeded (rest.map Placement.element) ≤ _
    omega

namespace Builds

/-- Every attribute of a service under construction is found under its handle. -/
theorem stores (builds : Builds service uuid placements database) : database.Stores placements :=
  fun placement member _ there => (findHandle?_eq_some_iff builds.orderly.ascending).mpr
    ⟨builds.stored placement member there, rfl⟩

/-- The declaration of the service is found too. -/
theorem found (builds : Builds service uuid placements database) :
    database.findHandle? service = some (.serviceDeclaration service uuid) :=
  (findHandle?_eq_some_iff builds.orderly.ascending).mpr ⟨builds.declared, rfl⟩

/-- The size under which the service is registered is one for the declaration of the service and
what its elements need. -/
theorem toNat_tableSize (builds : Builds service uuid placements database) :
    (database.tableSize database.chain).toNat =
      1 + BluetoothHost.handlesNeeded (placements.map Placement.element) := by
  have counted : database.handlesNeededFor database.chain =
      1 + BluetoothHost.handlesNeeded (placements.map Placement.element) := by
    rw [builds.chain_eq, handlesNeededFor, handlesNeededFor_flatMap builds.stores]
    rfl
  have few := handlesNeeded_le placements
  have room := builds.listed
  rw [builds.chain_eq, List.length_cons] at room
  have bound : (placements.flatMap Placement.nodes).length + 1 ≤ 32 := room
  rw [tableSize, counted, Nat.min_eq_left (by omega), UInt16.toNat_ofNat_of_lt' (by
    show _ < 65536
    omega)]

end Builds

/-! ### The walk -/

variable {registration : Registration} {first : Handle}

/-- The declaration and the value of a characteristic come down to one call. -/
theorem registerNodes_characteristic {handle value : Handle} {properties : CharacteristicProperties}
    {permissions : Permissions} {env later : Environment B A}
    (stores : database.Stores [⟨handle, .characteristic uuid properties permissions⟩])
    (begun : registration.first = some first)
    (answered : env.registerCharacteristic first uuid properties permissions =
      (some value, later)) (size : UInt16) (rest : List Node) :
    database.registerNodes size
        (Placement.nodes ⟨handle, .characteristic uuid properties permissions⟩ ++ rest)
        registration env =
      database.registerNodes size rest
        { registration.extend (if properties.pushesUpdates then handleAfter value else value) with
          declared := none, characteristic := some value } later := by
  have declaration := stores _ (List.mem_singleton_self _)
    (.characteristicDeclaration handle properties (handle + 1) uuid) List.mem_cons_self
  have served := stores _ (List.mem_singleton_self _) (.served (handle + 1) uuid permissions)
    (List.mem_cons_of_mem _ (List.mem_singleton_self _))
  change database.findHandle? handle = _ at declaration
  change database.findHandle? (handle + 1) = _ at served
  obtain ⟨declared, -, typed⟩ := declares_characteristic handle properties uuid
  have noted : noteDeclaration (.characteristicDeclaration handle properties (handle + 1) uuid)
      registration = (.ok (), { registration with declared := some (properties, uuid) }) := by
    rw [noteDeclaration, declared, typed]
  have taken : registerCharacteristic (.served (handle + 1) uuid permissions)
      { registration with declared := some (properties, uuid) } env =
        (.ok (), { registration.extend (if properties.pushesUpdates then handleAfter value
          else value) with declared := none, characteristic := some value }, later) := by
    simp only [registerCharacteristic, begun, Attribute.served, Option.getD_some, answered,
      Registration.extend]
  simp only [Placement.nodes, List.cons_append, List.nil_append, registerNodes, registerNode,
    declaration, noted, served, taken]

/-- A descriptor comes down to one call. -/
theorem registerNodes_descriptor {handle answer latest : Handle} {permissions : Permissions}
    {env later : Environment B A}
    (stores : database.Stores [⟨handle, .descriptor uuid permissions⟩])
    (described : registration.characteristic = some latest)
    (answered : env.registerDescriptor latest uuid = (some answer, later)) (size : UInt16)
    (rest : List Node) :
    database.registerNodes size
        (Placement.nodes ⟨handle, .descriptor uuid permissions⟩ ++ rest) registration env =
      database.registerNodes size rest (registration.extend answer) later := by
  have served := stores _ (List.mem_singleton_self _) (.served handle uuid permissions)
    (List.mem_singleton_self _)
  change database.findHandle? handle = _ at served
  have taken : registerDescriptor (.served handle uuid permissions) registration env =
      (.ok (), registration.extend answer, later) := by
    simp only [registerDescriptor, described, Attribute.served, answered]
  simp only [Placement.nodes, List.cons_append, List.nil_append, registerNodes, registerNode,
    served, taken]

/-- The walk along the elements of a service ends well, with one call for each element. -/
theorem registerNodes_registers (obliging : Obliging A) (stores : database.Stores placements)
    (begun : registration.first = some first)
    (ordered : registration.characteristic = none →
      Ordered (placements.map Placement.element)) (size : UInt16) (env : Environment B A) :
    ∃ answers calls ended later,
      database.registerNodes size (placements.flatMap Placement.nodes) registration env =
        (.ok (), ended, later) ∧
      Registers first registration.characteristic (placements.map Placement.element) answers
        calls ∧
      env.Makes calls later ∧ ended.first = some first ∧
      ended.last = reached registration.last (placements.map Placement.element) answers := by
  induction placements generalizing registration env with
  | nil => exact ⟨[], [], registration, env, rfl, .done, env.makes_nil, begun, rfl⟩
  | cons placement rest ih =>
    have own : database.Stores [placement] := fun other member =>
      stores other (List.mem_cons.mpr (.inl (List.mem_singleton.mp member)))
    have others : database.Stores rest := fun other member =>
      stores other (List.mem_cons_of_mem _ member)
    obtain ⟨handle, element⟩ := placement
    rw [List.flatMap_cons, List.map_cons]
    cases element with
    | characteristic uuid properties permissions =>
      obtain ⟨value, middle, answered, made⟩ :=
        obliging.registerCharacteristic env first uuid properties permissions
      have begins := registerNodes_characteristic own begun answered size
        (rest.flatMap Placement.nodes)
      obtain ⟨answers, calls, ended, later, walked, registers, makes, kept, last⟩ :=
        @ih { registration.extend (if properties.pushesUpdates then handleAfter value else value)
          with declared := none, characteristic := some value } others begun nofun middle
      exact ⟨value :: answers, _ :: calls, ended, later, begins.trans walked,
        .characteristic registers, made.append makes, kept, last⟩
    | descriptor uuid permissions =>
      cases known : registration.characteristic with
      | none =>
        have misplaced : true = false := ordered known (.descriptor uuid permissions) rfl
        cases misplaced
      | some latest =>
        obtain ⟨answer, middle, answered, made⟩ := obliging.registerDescriptor env latest uuid
        have begins := registerNodes_descriptor own known answered size
          (rest.flatMap Placement.nodes)
        obtain ⟨answers, calls, ended, later, walked, registers, makes, kept, last⟩ :=
          @ih (registration.extend answer) others begun
            (fun none => nomatch known.symm.trans none) middle
        have continued : Registers first (some latest) (rest.map Placement.element) answers calls :=
          known ▸ registers
        exact ⟨answer :: answers, _ :: calls, ended, later, begins.trans walked,
          .descriptor continued, made.append makes, kept, last⟩

/-- Where a descriptor comes first the walk ends there, for there is no characteristic that it
could belong to. -/
theorem registerNodes_misplaced (stores : database.Stores placements)
    (misplaced : ¬Ordered (placements.map Placement.element))
    (none : registration.characteristic = none) (size : UInt16) (env : Environment B A) :
    database.registerNodes size (placements.flatMap Placement.nodes) registration env =
      (.error .invalidArguments, registration, env) := by
  cases placements with
  | nil => exact absurd (by decide) misplaced
  | cons placement rest =>
    obtain ⟨handle, element⟩ := placement
    cases element with
    | characteristic uuid properties permissions =>
      have ordered : Ordered (.characteristic uuid properties permissions ::
          rest.map Placement.element) := by simp [Ordered, Element.isDescriptor]
      exact absurd ordered misplaced
    | descriptor uuid permissions =>
      have served := stores _ List.mem_cons_self (.served handle uuid permissions)
        (List.mem_singleton_self _)
      change database.findHandle? handle = _ at served
      simp only [List.flatMap_cons, Placement.nodes, List.singleton_append, registerNodes,
        registerNode, served, registerDescriptor, none]

/-! ### The whole registration -/

/-- The indications by which a range is announced. -/
def announcements (database : Database) (range : HandleRange) (server : A) : List Call :=
  if database.announces then
    ((AttributeServer.peers server).filter Peer.isInformed).map fun peer =>
      .indicate peer.address range.changedMessage
  else
    []

/-- An announcement makes these calls and no others. -/
theorem announce_makes (database : Database) (range : HandleRange) (env : Environment B A) :
    env.Makes (database.announcements range env.server) (database.announce range env) := by
  have each : ∀ (peers : List Peer) (env : Environment B A),
      env.Makes (peers.map fun peer => .indicate peer.address range.changedMessage)
        (peers.foldl (fun env peer => env.sendIndication peer.address range.changedMessage)
          env) := by
    intro peers
    induction peers with
    | nil => exact Environment.makes_nil
    | cons peer peers ih =>
      intro env
      have sent : env.Makes [.indicate peer.address range.changedMessage]
          (env.sendIndication peer.address range.changedMessage) := rfl
      exact sent.append (ih _)
  unfold announcements announce
  split
  · exact each _ env
  · exact env.makes_nil

/-- The service itself is registered first. -/
theorem Builds.registerNodes_service (builds : Builds service uuid placements database)
    {env later : Environment B A} {size : UInt16}
    (answered : env.registerService uuid size = (some first, later)) :
    database.registerNodes size database.chain {} env =
      database.registerNodes size (placements.flatMap Placement.nodes)
        { first := some first, last := first } later := by
  have declares : (Attribute.serviceDeclaration service uuid).Declares (.service uuid) :=
    Attribute.declares_of_bytes rfl rfl
  have declared : (Attribute.serviceDeclaration service uuid).serviceUuid? = some uuid := declares
  simp only [builds.chain_eq, registerNodes, registerNode, builds.found, registerService, declared,
    answered]

/-- What a registration leaves behind. -/
def registered (database : Database) (service : Handle) (range : HandleRange) : Database :=
  { database with chain := [] }.rememberRange service range

/-- After a walk that ended well the range is remembered and announced. -/
theorem Builds.materialize_ok (builds : Builds service uuid placements database)
    {env later : Environment B A} {range : HandleRange}
    (walked : database.registerNodes (database.tableSize database.chain) database.chain {} env =
      (.ok (), registration, later))
    (ranged : registration.range? = some range) :
    database.materialize env =
      (.ok range, database.registered service range, database.announce range later) := by
  unfold materialize
  simp only [builds.chain_eq] at walked ⊢
  simp only [if_true, walked, ranged]
  rfl

/-- After one that failed the range is dropped and announced. -/
theorem Builds.materialize_error (builds : Builds service uuid placements database)
    {env later : Environment B A} {range : HandleRange} {cause : Error}
    (walked : database.registerNodes (database.tableSize database.chain) database.chain {} env =
      (.error cause, registration, later))
    (ranged : registration.range? = some range) :
    database.materialize env = (.error cause, { database with chain := [] },
      database.announce range (later.removeRange range)) := by
  unfold materialize
  simp only [builds.chain_eq] at walked ⊢
  simp only [if_true, walked, ranged]

/-- A service whose descriptors all follow characteristics is registered as it was built, and its
range is announced. -/
theorem Builds.materialize_ordered (builds : Builds service uuid placements database)
    (obliging : Obliging A) (ordered : Ordered (placements.map Placement.element))
    (env : Environment B A) :
    ∃ first answers calls last middle,
      Registers first none (placements.map Placement.element) answers calls ∧
      env.Makes (.registerService uuid (database.tableSize database.chain) (some first) :: calls)
        middle ∧
      last = max (reached first (placements.map Placement.element) answers) first ∧
      database.materialize env = (.ok ⟨first, last⟩, database.registered service ⟨first, last⟩,
        database.announce ⟨first, last⟩ middle) := by
  obtain ⟨first, started, answered, made⟩ :=
    obliging.registerService env uuid (database.tableSize database.chain)
  have begun : ({ first := some first, last := first } : Registration).first = some first := rfl
  obtain ⟨answers, calls, ended, middle, walked, registers, makes, kept, last⟩ :=
    registerNodes_registers obliging builds.stores begun (fun _ => ordered)
      (database.tableSize database.chain) started
  have whole := (builds.registerNodes_service answered).trans walked
  have ranged : ended.range? = some ⟨first, max ended.last first⟩ := by
    rw [Registration.range?, kept]
    rfl
  rw [last] at ranged
  exact ⟨first, answers, calls, _, middle, registers, made.append makes, rfl,
    builds.materialize_ok whole ranged⟩

/-- A service that has a descriptor in front of all characteristics is begun on the server and
dropped again. -/
theorem Builds.materialize_misplaced (builds : Builds service uuid placements database)
    (obliging : Obliging A) (misplaced : ¬Ordered (placements.map Placement.element))
    (env : Environment B A) :
    ∃ later, database.materialize env =
      (.error .invalidArguments, { database with chain := [] }, later) := by
  obtain ⟨first, started, answered, -⟩ :=
    obliging.registerService env uuid (database.tableSize database.chain)
  have unowned : ({ first := some first, last := first } : Registration).characteristic = none :=
    rfl
  have walked := registerNodes_misplaced builds.stores misplaced unowned
    (database.tableSize database.chain) started
  have whole := (builds.registerNodes_service answered).trans walked
  exact ⟨_, builds.materialize_error whole rfl⟩

/-- A service that was registered carries its range. -/
theorem Builds.findHandle?_registered (builds : Builds service uuid placements database)
    (range : HandleRange) :
    (database.registered service range).findHandle? service =
      some { Attribute.serviceDeclaration service uuid with range := some range } := by
  obtain ⟨index, place⟩ := Option.isSome_iff_exists.mp
    (position?_isSome builds.orderly.ascending builds.declared)
  have place : { database with chain := [] }.position? service = some index := place
  have remembered : database.registered service range =
      { database with chain := [] }.modify index fun entry =>
        { entry with range := some range } := by
    rw [registered, rememberRange, place]
  have orderly : (database.registered service range).Orderly := by
    have framed : ∀ entry : Attribute,
        Attribute.frame { entry with range := some range } = entry.frame := fun _ => rfl
    have change : Change service database ({ database with chain := [] }.modify index fun entry =>
        { entry with range := some range }) := .retouched (map_modify framed _ _) (.inr rfl)
    rw [remembered]
    exact change.orderly builds.orderly
  rw [findHandle?_eq_some_iff orderly.ascending, remembered]
  refine ⟨?_, rfl⟩
  obtain ⟨entry, present, named⟩ := getElem?_of_search place
  obtain rfl := builds.orderly.ascending.eq_of_handle (List.mem_of_getElem? present)
    builds.declared named
  apply List.mem_of_getElem? (i := index)
  simp only [modify, List.getElem?_modify_eq, present]
  rfl

end Database

namespace Catalogue

variable [MessageBus B] {first service : Handle} {announces : Bool} {actions : List (Action B A)}
  {env later : Environment B A} {catalogue : Catalogue}

/-- A service that is begun and extended in any catalogue is then under construction with the
elements that were added. -/
theorem run_builds
    (ran : (fresh first announces).run actions env = (catalogue, later)) {uuid : Uuid}
    {started built : Database}
    (begun : catalogue.database.addService uuid = (.ok service, started))
    {elements : List Element} (added : started.addAll elements = some built) :
    ∃ placements, placements.map Placement.element = elements ∧
      Database.Builds service uuid placements built := by
  have orderly := (run_fresh_recorded ran).1.orderly
  rcases Database.addService_eq orderly uuid with ⟨cause, refused⟩ | ⟨handle, next, taken⟩
  · rw [refused] at begun
    cases begun
  · rw [taken] at begun
    obtain ⟨same, rfl⟩ := Prod.mk.inj begun
    obtain rfl := Except.ok.inj same
    have change : Database.Change handle catalogue.database
        (catalogue.database.start handle uuid) := .begun next
    obtain ⟨placements, named, rfl, extended⟩ :=
      Database.addAll_eq (change.orderly orderly) added
    exact ⟨placements, named, Database.builds_extend extended⟩

/-- Whatever happened before, a service that is begun and to which elements are added, no descriptor
in front of the first characteristic, is registered with a server that refuses nothing by one call
for the service and one for each element, in the order of the additions, before its range is
announced. The size is what the service and the elements need, and a server that numbers handles in
a row is left with exactly the handles that were reserved. -/
theorem run_materialize
    (ran : (fresh first announces).run actions env = (catalogue, later)) {uuid : Uuid}
    {started built : Database}
    (begun : catalogue.database.addService uuid = (.ok service, started))
    {elements : List Element} (added : started.addAll elements = some built)
    (ordered : Ordered elements) (obliging : Obliging A) (now : Environment B A) :
    ∃ start size answers calls range middle after final,
      built.materialize now = (.ok range, after, final) ∧
      now.Makes (.registerService uuid size (some start) :: calls) middle ∧
      Registers start none elements answers calls ∧
      size.toNat = 1 + handlesNeeded elements ∧
      middle.Makes (built.announcements range middle.server) final ∧
      after.chain = [] ∧
      (∃ entry, after.findHandle? service = some entry ∧ entry.range = some range) ∧
      range.first = start ∧
      (Consecutive (start.toNat + 1) elements answers → start.toNat + size.toNat ≤ 0x10000 →
        range.last.toNat = start.toNat + size.toNat - 1) := by
  obtain ⟨placements, rfl, builds⟩ := run_builds ran begun added
  obtain ⟨start, answers, calls, last, middle, registers, made, last_eq, materialized⟩ :=
    builds.materialize_ordered obliging ordered now
  have size := builds.toNat_tableSize
  refine ⟨start, _, answers, calls, ⟨start, last⟩, middle, _, _, materialized, made, registers,
    size, built.announce_makes _ middle, ?_, ⟨_, builds.findHandle?_registered _, rfl⟩, rfl, ?_⟩
  · unfold Database.registered Database.rememberRange
    split <;> rfl
  · intro consecutive room
    have top := toNat_reached rfl consecutive (by omega)
    have bound := congrArg UInt16.toNat last_eq
    rw [UInt16.toNat_max] at bound
    show last.toNat = _
    omega

/-- A server that numbers all handles in a row and has one peer. -/
structure CountingServer where
  /-- The next handle. -/
  next : Handle := 1

/-- The peer of a counting server is to be told about changes. -/
def CountingServer.peer : Peer := ⟨Transport.plainConfig.device, true, true⟩

/-- A counting server never refuses. -/
instance : AttributeServer CountingServer where
  registerService server _ _ := (some server.next, ⟨server.next + 1⟩)
  registerCharacteristic server _ _ properties _ :=
    (some (server.next + 1), ⟨server.next + if properties.pushesUpdates then 3 else 2⟩)
  registerDescriptor server _ _ := (some server.next, ⟨server.next + 1⟩)
  removeRange server _ := server
  updateValue server _ _ := (true, server)
  notify server _ _ := server
  peers _ := [CountingServer.peer]
  sendIndication server _ _ := server

/-- The counting server refuses nothing. -/
theorem obliging_countingServer : Obliging CountingServer :=
  ⟨fun _ _ _ => rfl, fun _ _ _ _ _ => rfl, fun _ _ _ => rfl⟩

/-- A plain bus and a counting server, and nothing called so far. -/
def countingEnvironment : Environment Transport.PlainBus CountingServer where
  bus := .ready
  server := {}

/-- A service with a notifying characteristic and a descriptor gets five handles in a row. -/
theorem run_materialize_of_notifying :
    let catalogue := ((fresh 1 true).run [.addService (.uuid16 0x1815)] countingEnvironment).1
    let started := (catalogue.database.addService (.uuid16 0x180F)).2
    let elements : List Element :=
      [.characteristic (.uuid16 0x2A19) (.read ||| .notify) .both,
        .descriptor (.uuid16 0x2901) .both]
    let built := (started.addAll elements).getD started
    ∃ size answers calls after final,
      built.materialize countingEnvironment = (.ok ⟨1, 5⟩, after, final) ∧
      countingEnvironment.Makes (.registerService (.uuid16 0x180F) size (some 1) :: calls ++
        [.indicate CountingServer.peer.address (HandleRange.changedMessage ⟨1, 5⟩)]) final ∧
      Registers 1 none elements answers calls ∧ Consecutive 2 elements answers ∧
      size.toNat = 5 := by
  intro catalogue started elements built
  have ran : (fresh 1 true).run [.addService (.uuid16 0x1815)] countingEnvironment =
      (catalogue, countingEnvironment) := rfl
  have begun : catalogue.database.addService (.uuid16 0x180F) = (.ok 2, started) := by
    decide +kernel
  have added : started.addAll elements = some built := by decide +kernel
  have returned : (built.materialize countingEnvironment).1.toOption = some ⟨1, 5⟩ := by
    decide +kernel
  have journal : (built.materialize countingEnvironment).2.2.journal =
      [.registerService (.uuid16 0x180F) 5 (some 1),
        .registerCharacteristic 1 (.uuid16 0x2A19) (.read ||| .notify) .both (some 3),
        .registerDescriptor 3 (.uuid16 0x2901) (some 5),
        .indicate CountingServer.peer.address (HandleRange.changedMessage ⟨1, 5⟩)] := by
    decide +kernel
  have announces : built.announces = true := by decide +kernel
  clear_value catalogue started built
  obtain ⟨start, size, answers, calls, range, middle, after, final, materialized, made, registers,
    counted, announced, -, -, first, last⟩ :=
    run_materialize ran begun added (by decide) obliging_countingServer countingEnvironment
  rw [materialized] at returned journal
  obtain rfl : range = ⟨1, 5⟩ := Option.some.inj returned
  obtain rfl : (1 : Handle) = start := first
  have told : built.announcements ⟨1, 5⟩ middle.server =
      [.indicate CountingServer.peer.address (HandleRange.changedMessage ⟨1, 5⟩)] := by
    rw [Database.announcements, announces]
    rfl
  rw [told] at announced
  have all := made.append announced
  refine ⟨size, answers, calls, after, final, materialized, all, registers, ?_, counted⟩
  have same := all.symm.trans journal
  change Registers 1 none [_, _] answers calls at registers
  cases registers with
  | characteristic others =>
    cases others with
    | descriptor rest =>
      cases rest
      cases same
      exact ⟨rfl, rfl, trivial⟩

/-- The registration of a service without elements does not consist of the call for the service
alone, for a peer is told of it. -/
theorem materialize_announces :
    let built := ((fresh 1 true).database.addService (.uuid16 0x180F)).2
    ¬∃ size start answers calls, countingEnvironment.Makes
        (.registerService (.uuid16 0x180F) size (some start) :: calls)
        (built.materialize countingEnvironment).2.2 ∧
      Registers start none [] answers calls := by
  rintro built ⟨size, start, answers, calls, made, registers⟩
  cases registers
  have journal : (built.materialize countingEnvironment).2.2.journal.length = 2 := by decide +kernel
  rw [made] at journal
  cases journal

end Catalogue

end BluetoothHost
