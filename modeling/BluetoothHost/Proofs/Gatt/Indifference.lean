import BluetoothHost.Proofs.Gatt.Forms

/-!
# Building and registering without a look at forms

Neighbours may be such that the form of a UUID makes no difference to them. In surroundings that
correspond, databases that agree are then built and registered alike: the answers are the same, the
databases go on to agree, and the server hears of the same UUIDs, sizes and handles.
-/

namespace BluetoothHost

/-- Two results with one answer, and states behind them that are related. -/
def SameAnswer {α σ : Type} (related : σ → σ → Prop) (one other : α × σ) : Prop :=
  one.1 = other.1 ∧ related one.2 other.2

/-- Such results can be taken apart into the answer and the states. -/
theorem SameAnswer.split {α σ : Type} {related : σ → σ → Prop} {one other : α × σ}
    (same : SameAnswer related one other) :
    ∃ answer left right, one = (answer, left) ∧ other = (answer, right) ∧ related left right := by
  obtain ⟨answer, left⟩ := one
  obtain ⟨_, right⟩ := other
  obtain ⟨rfl, states⟩ := same
  exact ⟨answer, left, right, rfl, rfl, states⟩

/-! ### Neighbours that do not look at forms -/

/-- A UUID in its full form. -/
def Uuid.widened (uuid : Uuid) : Uuid := uuid128 uuid.expand

/-- In full, forms of one UUID are the same. -/
theorem Uuid.widened_eq {uuid same : Uuid} (alike : uuid ≈ same) : uuid.widened = same.widened :=
  congrArg uuid128 alike

/-- A call with its UUIDs in full. -/
def Call.widened : Call → Call
  | .registerService uuid size handle => .registerService uuid.widened size handle
  | .registerCharacteristic service uuid properties permissions handle =>
    .registerCharacteristic service uuid.widened properties permissions handle
  | .registerDescriptor characteristic uuid handle =>
    .registerDescriptor characteristic uuid.widened handle
  | .updateValue uuid value accepted => .updateValue uuid.widened value accepted
  | .notify uuid value => .notify uuid.widened value
  | call => call

/-- What it is for two buses and two attribute servers to correspond. Servers that correspond answer
alike as long as the UUIDs are the same, in whatever forms, and go on to correspond. -/
structure Indifference (B A : Type) [AttributeServer A] where
  /-- The buses correspond. -/
  bus : B → B → Prop
  /-- The servers correspond. -/
  server : A → A → Prop
  /-- They register the same services. -/
  registerService {one other : A} {uuid same : Uuid} (size : UInt16) :
    server one other → uuid ≈ same → SameAnswer server
      (AttributeServer.registerService one uuid size)
      (AttributeServer.registerService other same size)
  /-- They register the same characteristics. -/
  registerCharacteristic {one other : A} {uuid same : Uuid} (service : Handle)
      (properties : CharacteristicProperties) (permissions : Permissions) :
    server one other → uuid ≈ same → SameAnswer server
      (AttributeServer.registerCharacteristic one service uuid properties permissions)
      (AttributeServer.registerCharacteristic other service same properties permissions)
  /-- They register the same descriptors. -/
  registerDescriptor {one other : A} {uuid same : Uuid} (characteristic : Handle) :
    server one other → uuid ≈ same → SameAnswer server
      (AttributeServer.registerDescriptor one characteristic uuid)
      (AttributeServer.registerDescriptor other characteristic same)
  /-- They drop ranges alike. -/
  removeRange {one other : A} (range : HandleRange) : server one other →
    server (AttributeServer.removeRange one range) (AttributeServer.removeRange other range)
  /-- They take the same values. -/
  updateValue {one other : A} {uuid same : Uuid} (value : List UInt8) :
    server one other → uuid ≈ same → SameAnswer server
      (AttributeServer.updateValue one uuid value) (AttributeServer.updateValue other same value)
  /-- They send values alike. -/
  notify {one other : A} {uuid same : Uuid} (value : List UInt8) :
    server one other → uuid ≈ same →
      server (AttributeServer.notify one uuid value) (AttributeServer.notify other same value)
  /-- They know the same peers. -/
  peers {one other : A} : server one other →
    AttributeServer.peers one = AttributeServer.peers other
  /-- They send indications alike. -/
  sendIndication {one other : A} (peer : Address) (message : List UInt8) : server one other →
    server (AttributeServer.sendIndication one peer message)
      (AttributeServer.sendIndication other peer message)

variable {B A : Type} [AttributeServer A] {indifference : Indifference B A}

/-- Two environments that correspond, with the same calls behind them but for the forms of UUIDs. -/
structure Environment.Agrees (indifference : Indifference B A) (one other : Environment B A) :
    Prop where
  /-- The buses correspond. -/
  bus : indifference.bus one.bus other.bus
  /-- The servers correspond. -/
  server : indifference.server one.server other.server
  /-- The same calls were made, with the same answers. -/
  journal : one.journal.map Call.widened = other.journal.map Call.widened

namespace Environment.Agrees

variable {env other : Environment B A} {uuid same : Uuid}

/-- Servers that went on alike, each with a call that is the same, still agree. -/
theorem called (agree : Agrees indifference env other) {server changed : A} {call like : Call}
    (servers : indifference.server server changed) (calls : call.widened = like.widened) :
    Agrees indifference ({ env with server }.record call)
      ({ other with server := changed }.record like) := by
  refine ⟨agree.bus, servers, ?_⟩
  show (env.journal ++ [call]).map Call.widened = (other.journal ++ [like]).map Call.widened
  rw [List.map_append, List.map_append, agree.journal, List.map_singleton, List.map_singleton,
    calls]

/-- A service is registered alike. -/
theorem registerService (agree : Agrees indifference env other) (alike : uuid ≈ same)
    (size : UInt16) : SameAnswer (Agrees indifference) (env.registerService uuid size)
      (other.registerService same size) := by
  obtain ⟨answer, servers⟩ := indifference.registerService size agree.server alike
  refine ⟨answer, agree.called servers ?_⟩
  exact congrArg₂ (Call.registerService · size ·) (Uuid.widened_eq alike) answer

/-- So is a characteristic. -/
theorem registerCharacteristic (agree : Agrees indifference env other) (alike : uuid ≈ same)
    (service : Handle) (properties : CharacteristicProperties) (permissions : Permissions) :
    SameAnswer (Agrees indifference)
      (env.registerCharacteristic service uuid properties permissions)
      (other.registerCharacteristic service same properties permissions) := by
  obtain ⟨answer, servers⟩ :=
    indifference.registerCharacteristic service properties permissions agree.server alike
  refine ⟨answer, agree.called servers ?_⟩
  exact congrArg₂ (Call.registerCharacteristic service · properties permissions ·)
    (Uuid.widened_eq alike) answer

/-- So is a descriptor. -/
theorem registerDescriptor (agree : Agrees indifference env other) (alike : uuid ≈ same)
    (characteristic : Handle) : SameAnswer (Agrees indifference)
      (env.registerDescriptor characteristic uuid)
      (other.registerDescriptor characteristic same) := by
  obtain ⟨answer, servers⟩ := indifference.registerDescriptor characteristic agree.server alike
  refine ⟨answer, agree.called servers ?_⟩
  exact congrArg₂ (Call.registerDescriptor characteristic · ·) (Uuid.widened_eq alike) answer

/-- A range is dropped alike. -/
theorem removeRange (agree : Agrees indifference env other) (range : HandleRange) :
    Agrees indifference (env.removeRange range) (other.removeRange range) :=
  agree.called (indifference.removeRange range agree.server) rfl

/-- A value is taken alike. -/
theorem updateValue (agree : Agrees indifference env other) (alike : uuid ≈ same)
    (value : List UInt8) : SameAnswer (Agrees indifference) (env.updateValue uuid value)
      (other.updateValue same value) := by
  obtain ⟨answer, servers⟩ := indifference.updateValue value agree.server alike
  refine ⟨answer, agree.called servers ?_⟩
  exact congrArg₂ (Call.updateValue · value ·) (Uuid.widened_eq alike) answer

/-- A value is sent alike. -/
theorem notify (agree : Agrees indifference env other) (alike : uuid ≈ same)
    (value : List UInt8) :
    Agrees indifference (env.notify uuid value) (other.notify same value) := by
  refine agree.called (indifference.notify value agree.server alike) ?_
  rw [Call.widened, Call.widened, Uuid.widened_eq alike]

/-- The same peers are told about a change. -/
theorem sendServiceChanged (agree : Agrees indifference env other) (range : HandleRange) :
    Agrees indifference (env.sendServiceChanged range).2 (other.sendServiceChanged range).2 := by
  unfold Environment.sendServiceChanged
  dsimp only
  rw [← indifference.peers agree.server]
  generalize (AttributeServer.peers env.server).filter Peer.isInformed = informed
  induction informed generalizing env other with
  | nil => exact agree
  | cons peer rest ih =>
    have sent := indifference.sendIndication peer.address range.changedMessage agree.server
    exact ih (agree.called sent rfl)

end Environment.Agrees

/-- Registrations that have come equally far, but for the form of the UUID noted last. -/
structure Registration.Agrees (one other : Registration) : Prop where
  /-- The server gave one first handle. -/
  first : one.first = other.first
  /-- The highest handle so far is one. -/
  last : one.last = other.last
  /-- A characteristic with the same properties and UUID waits for its value, or none does. -/
  declared : Option.Rel (fun one other => one.1 = other.1 ∧ one.2 ≈ other.2)
    one.declared other.declared
  /-- Descriptors go to one characteristic. -/
  characteristic : one.characteristic = other.characteristic

/-- They have touched the same range. -/
theorem Registration.Agrees.range? {one other : Registration} (agree : one.Agrees other) :
    one.range? = other.range? := by
  rw [Registration.range?, Registration.range?, agree.first, agree.last]

namespace Database

open Environment (Agrees)

variable {one other : Database} {env later : Environment B A} {uuid same : Uuid}

/-- States of a database and its neighbours that agree. -/
def States (indifference : Indifference B A) (one other : Database × Environment B A) : Prop :=
  one.1.Agrees other.1 ∧ one.2.Agrees indifference other.2

/-! ### Building -/

/-- A service is begun in both, or in neither. -/
theorem addService_agrees (agree : one.Agrees other) (alike : uuid ≈ same) :
    SameAnswer Database.Agrees (one.addService uuid) (other.addService same) := by
  by_cases room : one.Accommodates 1
  · rw [addService_done room, addService_done ((agree.accommodates_iff 1).mp room),
      ← agree.nextHandle]
    exact ⟨rfl, agree.attributes.placed (.serviceDeclaration _ alike), rfl, rfl, agree.announces⟩
  · rw [addService_refused room, addService_refused (mt (agree.accommodates_iff 1).mpr room)]
    exact ⟨rfl, agree⟩

/-- A characteristic is added to both, or to neither. -/
theorem addCharacteristic_agrees (agree : one.Agrees other) (alike : uuid ≈ same)
    (properties : CharacteristicProperties) (permissions : Permissions) :
    SameAnswer Database.Agrees (one.addCharacteristic uuid properties permissions)
      (other.addCharacteristic same properties permissions) := by
  have rooms := agree.extensible_iff 2
  by_cases room : one.Extensible 2
  · rw [addCharacteristic_done _ _ _ room, addCharacteristic_done _ _ _ (rooms.mp room),
      ← agree.nextHandle, ← agree.chain]
    have declared := agree.attributes.placed
      (.characteristicDeclaration (.ofNat one.nextHandle) (.ofNat one.nextHandle + 1) properties
        alike)
    exact ⟨rfl, declared.placed (.served _ permissions alike), rfl, rfl, agree.announces⟩
  · rw [addCharacteristic_refused _ _ _ room,
      addCharacteristic_refused _ _ _ (mt rooms.mpr room), ← agree.chain]
    exact ⟨rfl, agree⟩

/-- A descriptor is added to both, or to neither. -/
theorem addDescriptor_agrees (agree : one.Agrees other) (alike : uuid ≈ same)
    (permissions : Permissions) : SameAnswer Database.Agrees (one.addDescriptor uuid permissions)
      (other.addDescriptor same permissions) := by
  have rooms := agree.extensible_iff 1
  by_cases room : one.Extensible 1
  · rw [addDescriptor_done room, addDescriptor_done (rooms.mp room), ← agree.nextHandle,
      ← agree.chain]
    exact ⟨rfl, agree.attributes.placed (.served _ permissions alike), rfl, rfl, agree.announces⟩
  · rw [addDescriptor_refused room, addDescriptor_refused (mt rooms.mpr room), ← agree.chain]
    exact ⟨rfl, agree⟩

/-! ### Registering -/

/-- States of a registration and its neighbours that agree. -/
def Walks (indifference : Indifference B A) (one other : Registration × Environment B A) : Prop :=
  one.1.Agrees other.1 ∧ one.2.Agrees indifference other.2

section Walk

variable {entry like : Attribute} {registration further : Registration}

/-- On the way of a registration a service is registered alike. -/
theorem registerService_agrees (here : entry.Agrees like) (size : UInt16)
    (registrations : registration.Agrees further) (envs : env.Agrees indifference later) :
    SameAnswer (Walks indifference) (registerService entry size registration env)
      (registerService like size further later) := by
  have declared := here.serviceUuid?
  unfold registerService
  generalize entry.serviceUuid? = left, like.serviceUuid? = right at declared
  cases declared with
  | none => exact ⟨rfl, registrations, envs⟩
  | some alike =>
    obtain ⟨answer, left, right, first, second, envs⟩ := (envs.registerService alike size).split
    simp only [first, second]
    cases answer with
    | none => exact ⟨rfl, registrations, envs⟩
    | some handle =>
      exact ⟨rfl, ⟨rfl, rfl, registrations.declared, registrations.characteristic⟩, envs⟩

/-- A declaration is noted with the same properties and the same UUID. -/
theorem noteDeclaration_agrees (here : entry.Agrees like)
    (registrations : registration.Agrees further) :
    SameAnswer Registration.Agrees (noteDeclaration entry registration)
      (noteDeclaration like further) := by
  have declared := here.characteristicUuid?
  unfold noteDeclaration
  rw [← here.characteristicProperties?]
  generalize entry.characteristicUuid? = left, like.characteristicUuid? = right at declared
  cases entry.characteristicProperties? with
  | none => exact ⟨rfl, registrations⟩
  | some properties =>
    cases declared with
    | none => exact ⟨rfl, registrations⟩
    | some alike =>
      exact ⟨rfl, registrations.first, registrations.last, .some ⟨rfl, alike⟩,
        registrations.characteristic⟩

/-- The characteristic that was noted is registered alike. -/
theorem registerCharacteristic_agrees (here : entry.Agrees like)
    (registrations : registration.Agrees further) (envs : env.Agrees indifference later) :
    SameAnswer (Walks indifference) (registerCharacteristic entry registration env)
      (registerCharacteristic like further later) := by
  have noted := registrations.declared
  unfold registerCharacteristic
  rw [← registrations.first, ← here.permissions]
  generalize registration.declared = left, further.declared = right at noted
  cases noted with
  | none => exact ⟨rfl, registrations, envs⟩
  | @some one other alike =>
    obtain ⟨properties, uuid⟩ := one
    obtain ⟨_, same⟩ := other
    obtain ⟨rfl, alike⟩ := alike
    cases registration.first with
    | none => exact ⟨rfl, registrations, envs⟩
    | some service =>
      obtain ⟨answer, left, right, first, second, envs⟩ := (envs.registerCharacteristic alike
        service properties (entry.permissions.getD .none)).split
      simp only [first, second]
      cases answer with
      | none => exact ⟨rfl, registrations, envs⟩
      | some handle =>
        have last : max registration.last (if properties.pushesUpdates then handleAfter handle
            else handle) = max further.last (if properties.pushesUpdates then handleAfter handle
            else handle) := by
          rw [registrations.last]
        exact ⟨rfl, ⟨registrations.first, last, .none, rfl⟩, envs⟩

/-- A descriptor goes to the same characteristic. -/
theorem registerDescriptor_agrees (here : entry.Agrees like)
    (registrations : registration.Agrees further) (envs : env.Agrees indifference later) :
    SameAnswer (Walks indifference) (registerDescriptor entry registration env)
      (registerDescriptor like further later) := by
  unfold registerDescriptor
  rw [← registrations.characteristic]
  cases owner : registration.characteristic with
  | none => exact ⟨rfl, registrations, envs⟩
  | some characteristic =>
    obtain ⟨answer, left, right, first, second, envs⟩ :=
      (envs.registerDescriptor here.type characteristic).split
    simp only [first, second]
    cases answer with
    | none => exact ⟨rfl, registrations, envs⟩
    | some handle =>
      have last : max registration.last handle = max further.last handle := by
        rw [registrations.last]
      exact ⟨rfl, ⟨registrations.first, last, registrations.declared,
        registrations.characteristic⟩, envs⟩

/-- One attribute of a chain is registered alike. -/
theorem registerNode_agrees (agree : one.Agrees other) (size : UInt16) (node : Node)
    (registrations : registration.Agrees further) (envs : env.Agrees indifference later) :
    SameAnswer (Walks indifference) (one.registerNode size node registration env)
      (other.registerNode size node further later) := by
  have found := agree.findHandle? node.handle
  unfold registerNode
  generalize one.findHandle? node.handle = left, other.findHandle? node.handle = right at found
  cases found with
  | none => exact ⟨rfl, registrations, envs⟩
  | some here =>
    dsimp only
    split
    · exact registerService_agrees here size registrations envs
    · obtain ⟨outcome, noted⟩ := noteDeclaration_agrees here registrations
      exact ⟨outcome, noted, envs⟩
    · exact registerCharacteristic_agrees here registrations envs
    · exact registerDescriptor_agrees here registrations envs

/-- So is the whole chain. -/
theorem registerNodes_agrees (agree : one.Agrees other) (size : UInt16) (nodes : List Node)
    (registrations : registration.Agrees further) (envs : env.Agrees indifference later) :
    SameAnswer (Walks indifference) (one.registerNodes size nodes registration env)
      (other.registerNodes size nodes further later) := by
  induction nodes generalizing registration further env later with
  | nil => exact ⟨rfl, registrations, envs⟩
  | cons node rest ih =>
    obtain ⟨outcome, left, right, first, second, states⟩ :=
      (registerNode_agrees agree size node registrations envs).split
    obtain ⟨registrations, envs⟩ := states
    unfold registerNodes
    rw [first, second]
    cases outcome with
    | error cause => exact ⟨rfl, registrations, envs⟩
    | ok => exact ih registrations envs

end Walk

/-- The attributes of a chain need equally many handles. -/
theorem handlesNeededFor_agrees (agree : one.Agrees other) (nodes : List Node) :
    one.handlesNeededFor nodes = other.handlesNeededFor nodes := by
  have needed : ∀ node, one.handlesNeeded node = other.handlesNeeded node := by
    intro node
    have found := agree.findHandle? node.handle
    unfold handlesNeeded
    generalize one.findHandle? node.handle = left, other.findHandle? node.handle = right at found
    cases found with
    | none => rfl
    | some here => simp only [Option.bind_some, here.characteristicProperties?]
  induction nodes with
  | nil => rfl
  | cons node rest ih => rw [handlesNeededFor, handlesNeededFor, needed, ih]

/-- Peers are told alike. -/
theorem announce_agrees (agree : one.Agrees other) (range : HandleRange)
    (envs : env.Agrees indifference later) :
    (one.announce range env).Agrees indifference (other.announce range later) := by
  unfold announce
  rw [← agree.announces]
  split
  · exact envs.sendServiceChanged range
  · exact envs

/-- A range is noted alike. -/
theorem rememberRange_agrees (agree : one.Agrees other) (service : Handle) (range : HandleRange) :
    (one.rememberRange service range).Agrees (other.rememberRange service range) := by
  unfold rememberRange
  rw [← agree.position?]
  cases one.position? service with
  | none => exact agree
  | some index =>
    refine agree.modify index fun here => ?_
    exact ⟨here.handle, here.type, here.value, here.permissions, rfl, here.notifyReady⟩

/-- Services under construction are registered alike. -/
theorem materialize_agrees (agree : one.Agrees other) (envs : env.Agrees indifference later) :
    SameAnswer (States indifference) (one.materialize env) (other.materialize later) := by
  have consumed : { one with chain := [] }.Agrees { other with chain := [] } :=
    ⟨agree.attributes, rfl, agree.nextHandle, agree.announces⟩
  unfold materialize
  rw [← agree.chain]
  cases one.chain with
  | nil => exact ⟨rfl, consumed, envs⟩
  | cons head rest =>
    dsimp only
    split
    · have size : other.tableSize (head :: rest) = one.tableSize (head :: rest) := by
        rw [tableSize, tableSize, handlesNeededFor_agrees agree]
      have fresh : Registration.Agrees {} {} := ⟨rfl, rfl, .none, rfl⟩
      obtain ⟨outcome, left, right, first, second, states⟩ := (registerNodes_agrees agree
        (one.tableSize (head :: rest)) (head :: rest) fresh envs).split
      obtain ⟨registration, env⟩ := left
      obtain ⟨further, later⟩ := right
      obtain ⟨registrations, envs⟩ := states
      rw [size, first, second]
      dsimp only
      rw [← registrations.range?]
      cases outcome with
      | ok =>
        cases registration.range? with
        | some range =>
          exact ⟨rfl, rememberRange_agrees consumed head.handle range,
            announce_agrees agree range envs⟩
        | none => exact ⟨rfl, consumed, announce_agrees agree _ envs⟩
      | error cause =>
        cases registration.range? with
        | some range => exact ⟨rfl, consumed, announce_agrees agree range (envs.removeRange range)⟩
        | none => exact ⟨rfl, consumed, announce_agrees agree _ envs⟩
    · exact ⟨rfl, consumed, envs⟩

/-- A service is removed from both, or from neither. -/
theorem removeService_agrees (agree : one.Agrees other) (service : Handle)
    (envs : env.Agrees indifference later) :
    SameAnswer (States indifference) (one.removeService service env)
      (other.removeService service later) := by
  unfold removeService
  rw [← agree.position?]
  cases one.position? service with
  | none => exact ⟨rfl, agree, envs⟩
  | some index =>
    have behind := List.forall₂_drop index agree.attributes
    dsimp only
    generalize one.attributes.drop index = left, other.attributes.drop index = right at behind
    cases behind with
    | nil => exact ⟨rfl, agree, envs⟩
    | @cons declaration like above others here rest =>
      dsimp only
      rw [← here.isService, ← here.range, ← agree.chain]
      split
      · have attributes := List.rel_append (List.forall₂_take index agree.attributes)
          (AllAgree.dropWhile rest)
        cases declaration.range with
        | none => exact ⟨rfl, ⟨attributes, rfl, agree.nextHandle, agree.announces⟩, envs⟩
        | some range =>
          exact ⟨rfl, ⟨attributes, rfl, agree.nextHandle, agree.announces⟩,
            announce_agrees agree range (envs.removeRange range)⟩
      · exact ⟨rfl, agree, envs⟩

end Database

end BluetoothHost
