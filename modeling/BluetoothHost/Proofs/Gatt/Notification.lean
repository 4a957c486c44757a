import BluetoothHost.Proofs.Gatt.Likeness

/-!
# When a new value is sent to peers

The ready flag of a characteristic value is driven by two operations over its whole history: an
update that the server accepts sets it, a write by a peer that the handler takes clears it, and
whatever the server or the access flags refuse leaves it. An update that the server accepts is sent
to peers if it finds the flag set. The properties stand in another attribute, the one right in front
of the value, whose bytes stay what they were when it was created.
-/

namespace BluetoothHost

variable {B A : Type}

namespace Attribute

/-- A value that is not typed as a primary service is found under the forms of its type. -/
theorem isFoundUnder_iff_of_type {entry : Attribute} {uuid other : Uuid} (type : entry.type = uuid)
    (named : ¬uuid ≈ Uuid.primaryService) : entry.isFoundUnder other = true ↔ uuid ≈ other := by
  rw [isFoundUnder, type, if_neg named]
  exact decide_eq_true_iff

/-- What is found under one form of a UUID is found under the others. -/
theorem isFoundUnder_congr (entry : Attribute) {uuid other : Uuid} (same : uuid ≈ other) :
    entry.isFoundUnder uuid = entry.isFoundUnder other := by
  have forms (declared : Uuid) : declared ≈ uuid ↔ declared ≈ other :=
    ⟨fun first => Setoid.trans first same, fun first => Setoid.trans first (Setoid.symm same)⟩
  simp only [isFoundUnder, declaresService, forms]

/-- What decides how peers may access a value, and whether they are sent it. -/
def access (entry : Attribute) : Uuid × Option Permissions × Bool :=
  (entry.type, entry.permissions, entry.notifyReady)

end Attribute

namespace Database

variable {database before after : Database} {handle : Handle}

/-! ### An update and a write of one value -/

/-- What is changed under the handle of an attribute is that attribute alone. -/
theorem map_handle_split (orderly : database.Orderly) {front back : List Attribute}
    {own : Attribute} (attributes_eq : database.attributes = front ++ own :: back)
    (change : Attribute → Attribute) :
    (database.attributes.map fun entry =>
      if entry.handle = own.handle then change entry else entry) = front ++ change own :: back := by
  have ascending := orderly.ascending
  rw [attributes_eq] at ascending ⊢
  have ⟨_, behind, ahead⟩ := List.pairwise_append.mp ascending
  have stays : ∀ others : List Attribute, (∀ entry ∈ others, entry.handle ≠ own.handle) →
      (others.map fun entry => if entry.handle = own.handle then change entry else entry) =
        others := by
    intro others apart
    calc
      _ = others.map fun entry => entry :=
        List.map_congr_left fun entry member => if_neg (apart entry member)
      _ = others := List.map_id' others
  have lower : ∀ entry ∈ front, entry.handle ≠ own.handle := by
    intro entry member
    exact UInt16.ne_of_lt (ahead entry member own (by simp))
  have higher : ∀ entry ∈ back, entry.handle ≠ own.handle := by
    intro entry member
    exact (UInt16.ne_of_lt ((List.pairwise_cons.mp behind).1 entry member)).symm
  rw [List.map_append, List.map_cons, stays front lower, stays back higher, if_pos rfl]

/-- The value of the declaration in front of it does not depend on a value. -/
theorem propertiesOfValue?_changed (orderly : database.Orderly) {front back : List Attribute}
    {entry changed : Attribute} (attributes_eq : database.attributes = front ++ entry :: back)
    (framed : changed.frame = entry.frame) :
    propertiesOfValue? { database with attributes := front ++ changed :: back } entry.handle =
      database.propertiesOfValue? entry.handle := by
  have apart : entry.handle ≠ entry.handle - 1 := by
    intro same
    have numbers := congrArg UInt16.toNat same
    have bound := entry.handle.toNat_lt
    rw [UInt16.toNat_sub, UInt16.toNat_one] at numbers
    omega
  unfold propertiesOfValue?
  rw [findHandle?_changed orderly attributes_eq framed apart]

section Server

variable [AttributeServer A] {uuid : Uuid} {value : List UInt8} {entry : Attribute}
  {kept : AttributeValue} {properties : CharacteristicProperties}

/-- An update of a value behind its declaration asks the server and then, if the server accepts it
and peers are to be told, sends the value or makes it ready. -/
theorem updateValue_declared (orderly : database.Orderly)
    (found : database.findUuid? uuid = some entry)
    (fits : Bytes.ofList? Limits.attributeValue value = some kept)
    (declared : database.propertiesOfValue? entry.handle = some properties)
    (env : Environment B A) {accepted : Bool} {told : Environment B A}
    (asked : env.updateValue uuid value = (accepted, told)) :
    ∃ front back, database.attributes = front ++ entry :: back ∧
      database.updateValue uuid value env = (.ok (), { database with
          attributes := front ++ { entry with
            value := kept
            notifyReady := entry.notifyReady || (accepted && properties.pushesUpdates) } :: back },
        if accepted && properties.pushesUpdates && entry.notifyReady then told.notify uuid value
        else told) := by
  obtain ⟨index, place⟩ := positionOf?_of_findUuid? found
  obtain ⟨front, back, attributes_eq, -, rfl⟩ := split_of_findUuid? found place
  refine ⟨front, back, attributes_eq, ?_⟩
  have replaced := modify_split attributes_eq fun entry => { entry with value := kept }
  have ordered : Orderly { database with
      attributes := front ++ { entry with value := kept } :: back } :=
    orderly.changed attributes_eq rfl
  have still : propertiesOfValue? { database with
      attributes := front ++ { entry with value := kept } :: back } entry.handle =
        some properties :=
    (propertiesOfValue?_changed orderly attributes_eq (by rfl)).trans declared
  have readied := setNotifyReady_split ordered rfl true
  dsimp only at readied
  simp only [updateValue, place, found, fits, replaced, still, asked, push]
  cases accepted with
  | false => simp
  | true =>
    cases pushes : properties.pushesUpdates with
    | false => simp
    | true =>
      cases ready : entry.notifyReady with
      | false =>
        rw [ready] at readied
        simp [readied]
      | true => simp

/-- An update that does not fit does nothing. -/
theorem updateValue_tooLong (found : database.findUuid? uuid = some entry)
    (long : Bytes.ofList? Limits.attributeValue value = none) (env : Environment B A) :
    database.updateValue uuid value env = (.error .noResources, database, env) := by
  obtain ⟨index, place⟩ := positionOf?_of_findUuid? found
  simp [updateValue, place, found, long]

end Server

/-! ### A characteristic over its history -/

/-- What counts in the history of a value. -/
inductive ValueEvent
  /-- The server accepted an update. -/
  | updated
  /-- A handler took a write. -/
  | written
deriving DecidableEq

/-- Whether a value is ready after these events. -/
def readyAfter (properties : CharacteristicProperties) (events : List ValueEvent) : Bool :=
  properties.pushesUpdates && events.getLast? == some .updated

/-- The flag is set exactly if the properties ask for it and the latest event is an update. -/
theorem readyAfter_iff (properties : CharacteristicProperties) (events : List ValueEvent) :
    readyAfter properties events = true ↔
      properties.pushesUpdates = true ∧ events.getLast? = some .updated := by
  simp [readyAfter]

/-- Of the attributes in the database, only the value with this handle, which stands behind its
declaration, is found under a UUID. -/
structure Sole (uuid : Uuid) (value : Handle) (database : Database) : Prop where
  /-- The declaration is there. -/
  declared : ∃ entry ∈ database.attributes, entry.handle + 1 = value
  /-- The value is there. -/
  present : ∃ entry ∈ database.attributes, entry.handle = value
  /-- No other attribute is found. -/
  only : ∀ entry ∈ database.attributes, entry.isFoundUnder uuid = true → entry.handle = value

/-- Whether an attribute is the only one under its UUID can be computed. -/
instance (uuid : Uuid) (value : Handle) (database : Database) :
    Decidable (database.Sole uuid value) :=
  decidable_of_iff
    ((∃ entry ∈ database.attributes, entry.handle + 1 = value) ∧
      (∃ entry ∈ database.attributes, entry.handle = value) ∧
      ∀ entry ∈ database.attributes, entry.isFoundUnder uuid = true → entry.handle = value)
    ⟨fun ⟨declared, present, only⟩ => ⟨declared, present, only⟩,
      fun sole => ⟨sole.declared, sole.present, sole.only⟩⟩

/-- The attributes of a characteristic, as long as they are there: the declaration says what it said
when it was created, and the value is ready or not. -/
structure Tracks (handle : Handle) (uuid : Uuid) (properties : CharacteristicProperties)
    (permissions : Permissions) (ready : Bool) (database : Database) : Prop where
  /-- The handles ascend. -/
  orderly : database.Orderly
  /-- There is a handle behind that of the declaration. -/
  room : handle.toNat < Limits.lastHandle.toNat
  /-- Both handles were given out. -/
  given : (handle + 1).toNat < database.nextHandle
  /-- The declaration says what it said. -/
  declaration : ∀ entry ∈ database.attributes, entry.handle = handle → entry.content =
    (Attribute.characteristicDeclaration handle properties (handle + 1) uuid).content
  /-- The value has its type and its permissions, and is ready or not. -/
  value : ∀ entry ∈ database.attributes, entry.handle = handle + 1 →
    entry.access = (uuid, some permissions, ready)

namespace Tracks

variable {uuid : Uuid} {properties : CharacteristicProperties} {permissions : Permissions}
  {ready : Bool}

/-- A characteristic that was just added is not ready. -/
theorem of_added (orderly : before.Orderly) {value : Handle}
    (added : before.addCharacteristic uuid properties permissions = (.ok value, after)) :
    ∃ handle, value = handle + 1 ∧ Tracks handle uuid properties permissions false after := by
  rcases addCharacteristic_eq orderly uuid properties permissions with ⟨cause, refused⟩ |
    ⟨handle, next, room, building, -, made⟩
  · rw [refused] at added
    cases added
  rw [made] at added
  cases added
  obtain ⟨head, rest, chain_eq⟩ := List.exists_cons_of_ne_nil building
  have change := @Change.declared head.handle before head rest uuid properties permissions handle
    chain_eq rfl next room
  have ordered := change.orderly orderly
  refine ⟨handle, rfl, ordered, room, ?_, fun entry member same => ?_,
    fun entry member same => ?_⟩
  · have successor := toNat_succ room
    show (handle + 1).toNat < before.nextHandle + 2
    omega
  · have declared : Attribute.characteristicDeclaration handle properties (handle + 1) uuid ∈
        before.attributes ++ [.characteristicDeclaration handle properties (handle + 1) uuid,
          .served (handle + 1) uuid permissions] := by simp
    rw [ordered.ascending.eq_of_handle member declared same]
  · have served : Attribute.served (handle + 1) uuid permissions ∈
        before.attributes ++ [.characteristicDeclaration handle properties (handle + 1) uuid,
          .served (handle + 1) uuid permissions] := by simp
    rw [ordered.ascending.eq_of_handle member served same]
    rfl

variable (tracks : Tracks handle uuid properties permissions ready database)
include tracks

/-- The two handles differ. -/
theorem handle_ne : handle + 1 ≠ handle := by
  intro same
  have successor := toNat_succ tracks.room
  rw [same] at successor
  omega

/-- The characteristic is the same where its attributes look the same. -/
theorem of_resembles (ordered : after.Orderly) (grows : database.nextHandle ≤ after.nextHandle)
    (declaration : Resembles Attribute.content handle database after)
    (value : Resembles Attribute.access (handle + 1) database after) :
    Tracks handle uuid properties permissions ready after where
  orderly := ordered
  room := tracks.room
  given := Nat.lt_of_lt_of_le tracks.given grows
  declaration := by
    intro entry member same
    obtain ⟨other, there, named, alike⟩ := declaration entry member same
    exact alike.trans (tracks.declaration other there named)
  value := by
    intro entry member same
    obtain ⟨other, there, named, alike⟩ := value entry member same
    exact alike.trans (tracks.value other there named)

/-- The value may become ready or cease to be. -/
theorem of_changed {front back : List Attribute} {own changed : Attribute}
    (attributes_eq : database.attributes = front ++ own :: back) (here : own.handle = handle + 1)
    (framed : changed.frame = own.frame) :
    Tracks handle uuid properties permissions changed.notifyReady
      { database with attributes := front ++ changed :: back } where
  orderly := tracks.orderly.changed attributes_eq framed
  room := tracks.room
  given := tracks.given
  declaration := by
    have same : changed.handle = own.handle := congrArg Prod.fst framed
    have apart : own.handle ≠ handle := here ▸ tracks.handle_ne
    have kept : Resembles Attribute.content handle database _ :=
      .of_changed attributes_eq same (.inl apart)
    intro entry member named
    obtain ⟨other, there, known, alike⟩ := kept entry member named
    exact alike.trans (tracks.declaration other there known)
  value := by
    have ordered := tracks.orderly.changed attributes_eq framed
    intro entry member named
    have same : changed.handle = handle + 1 := (congrArg Prod.fst framed).trans here
    obtain rfl := ordered.ascending.eq_of_handle member (by simp) (named.trans same.symm)
    have before := tracks.value own (by simp [attributes_eq]) here
    simp only [Attribute.frame, Attribute.access, Prod.mk.injEq] at framed before ⊢
    exact ⟨framed.2.1.trans before.1, framed.2.2.trans before.2.1, trivial⟩

/-- An update under another UUID goes elsewhere, and so does a write. -/
theorem value_apart (named : ¬uuid ≈ Uuid.primaryService) {other : Uuid} (foreign : ¬other ≈ uuid) :
    ∀ entry ∈ database.findUuid? other, entry.handle ≠ handle + 1 := by
  intro entry found same
  obtain ⟨member, isFound⟩ := mem_of_findUuid? found
  have type : entry.type = uuid := congrArg Prod.fst (tracks.value entry member same)
  exact foreign (Setoid.symm ((Attribute.isFoundUnder_iff_of_type type named).mp isFound))

/-- The declaration is found only under the type of characteristic declarations. -/
theorem declaration_apart {other : Uuid} (foreign : ¬other ≈ Uuid.characteristic) :
    ∀ entry ∈ database.findUuid? other, entry.handle ≠ handle := by
  intro entry found same
  obtain ⟨member, isFound⟩ := mem_of_findUuid? found
  have type : entry.type = Uuid.characteristic :=
    congrArg (fun content => content.2.1) (tracks.declaration entry member same)
  exact foreign (Setoid.symm
    ((Attribute.isFoundUnder_iff_of_type type (by decide)).mp isFound))

variable (sole : database.Sole uuid (handle + 1))
include sole

/-- A value that is the only one is found. -/
theorem found (named : ¬uuid ≈ Uuid.primaryService) {other : Uuid} (same : other ≈ uuid) :
    ∃ own, database.findUuid? other = some own ∧ own.handle = handle + 1 ∧
      own.access = (uuid, some permissions, ready) := by
  obtain ⟨own, member, here⟩ := sole.present
  have access := tracks.value own member here
  have type : own.type = uuid := congrArg Prod.fst access
  refine ⟨own, ?_, here, access⟩
  apply (findUuid?_eq_some_iff tracks.orderly member).mpr
  refine ⟨(Attribute.isFoundUnder_iff_of_type type named).mpr (Setoid.symm same), ?_⟩
  intro entry there lower
  apply Bool.eq_false_iff.mpr
  intro isFound
  rw [entry.isFoundUnder_congr same] at isFound
  rw [sole.only entry there isFound, here] at lower
  exact UInt16.lt_irrefl _ lower

/-- Its declaration tells the properties. -/
theorem propertiesOfValue?_eq : database.propertiesOfValue? (handle + 1) = some properties := by
  obtain ⟨entry, member, next⟩ := sole.declared
  have here : entry.handle = handle := by
    have numbers := congrArg (· - 1) next
    simpa using numbers
  have content := tracks.declaration entry member here
  simp only [Attribute.content, Prod.mk.injEq] at content
  subst here
  have declares : entry.Declares (.characteristic properties uuid) :=
    Attribute.declares_of_bytes content.2.1 content.2.2.2
  have found : database.findHandle? entry.handle = some entry :=
    (findHandle?_eq_some_iff tracks.orderly.ascending).mpr ⟨member, rfl⟩
  have positive : entry.handle + 1 ≠ 0 := by
    intro zero
    have successor := toNat_succ tracks.room
    rw [zero] at successor
    cases successor
  have behind : entry.handle + 1 - 1 = entry.handle := by simp
  rw [propertiesOfValue?, if_neg positive, behind, found]
  exact declares.1

/-- An update that fits asks the server, and the value is sent if it is ready and the server accepts
it. -/
theorem updateValue_eq [AttributeServer A] (named : ¬uuid ≈ Uuid.primaryService) {other : Uuid}
    (same : other ≈ uuid) {value : List UInt8} {kept : AttributeValue}
    (fits : Bytes.ofList? Limits.attributeValue value = some kept) (env : Environment B A)
    {accepted : Bool} {told : Environment B A}
    (asked : env.updateValue other value = (accepted, told)) :
    ∃ front own back final, database.attributes = front ++ own :: back ∧ own.handle = handle + 1 ∧
      database.updateValue other value env = (.ok (), { database with
        attributes := front ++ { own with
          value := kept, notifyReady := ready || (accepted && properties.pushesUpdates) } :: back },
        final) ∧
      env.Makes (.updateValue other value accepted ::
        if accepted && properties.pushesUpdates && ready then [.notify other value] else [])
          final := by
  obtain ⟨own, found, here, access⟩ := tracks.found sole named same
  have declared : database.propertiesOfValue? own.handle = some properties := by
    rw [here]
    exact tracks.propertiesOfValue?_eq sole
  obtain ⟨front, back, attributes_eq, updated⟩ :=
    updateValue_declared tracks.orderly found fits declared env asked
  have readiness : own.notifyReady = ready := congrArg (fun access => access.2.2) access
  rw [readiness] at updated
  refine ⟨front, own, back, _, attributes_eq, here, updated, ?_⟩
  have stored : env.Makes [.updateValue other value accepted] told := by
    have made := env.updateValue_makes other value
    rwa [asked] at made
  split
  · exact stored.append (told.notify_makes other value)
  · exact stored

end Tracks

section History

variable [AttributeServer A] {uuid : Uuid} {properties : CharacteristicProperties}
  {permissions : Permissions} {events : List ValueEvent}

/-- What an operation is in the history of the value that is found under a UUID. -/
def valueEvents (uuid : Uuid) (database : Database) (operation : Operation B A)
    (env : Environment B A) : List ValueEvent :=
  match operation with
  | .updateValue other value =>
    if other ≈ uuid ∧ .updateValue other value true ∈
        env.callsUntil (database.updateValue other value env).2.2 then [.updated] else []
  | .write other value handler =>
    if other ≈ uuid ∧ (database.write other value handler env).1.isOk = true then [.written] else []
  | _ => []

/-- An operation as it may stand in the history of a value: what is done under the UUID of the value
concerns it alone, a write that its permissions allow is taken by the handler, nobody sets its ready
flag from without, and no update is made under the type of characteristic declarations. -/
def Regular (uuid : Uuid) (value : Handle) (permissions : Permissions) (database : Database)
    (operation : Operation B A) (env : Environment B A) : Prop :=
  match operation with
  | .updateValue other _ => (other ≈ uuid → database.Sole uuid value) ∧
      (¬other ≈ uuid → ¬other ≈ Uuid.characteristic)
  | .setNotifyReady other _ => other ≠ value
  | .write other bytes handler => other ≈ uuid → database.Sole uuid value ∧
      (permissions.write = true → (database.write other bytes handler env).1.isOk = true)
  | _ => True

/-- Whether an operation is regular can be computed. -/
instance (uuid : Uuid) (value : Handle) (permissions : Permissions) (database : Database)
    (operation : Operation B A) (env : Environment B A) :
    Decidable (database.Regular uuid value permissions operation env) :=
  match operation with
  | .updateValue .. => inferInstanceAs (Decidable (_ ∧ _))
  | .setNotifyReady .. => inferInstanceAs (Decidable (_ ≠ _))
  | .write .. => inferInstanceAs (Decidable (_ → _))
  | .addService .. | .addCharacteristic .. | .addDescriptor .. | .materialize | .removeService .. |
    .evolve .. => inferInstanceAs (Decidable True)

/-- All operations in the history of a value are as they may be. -/
def Attended (uuid : Uuid) (value : Handle) (permissions : Permissions) (database : Database) :
    List (Operation B A) → Environment B A → Prop
  | [], _ => True
  | operation :: operations, env =>
    database.Regular uuid value permissions operation env ∧
      (database.perform operation env).1.Attended uuid value permissions operations
        (database.perform operation env).2

/-- Whether all operations are regular can be computed one after the other. -/
instance decidableAttended (uuid : Uuid) (value : Handle) (permissions : Permissions)
    (database : Database) : (operations : List (Operation B A)) → (env : Environment B A) →
    Decidable (database.Attended uuid value permissions operations env)
  | [], _ => inferInstanceAs (Decidable True)
  | operation :: operations, env =>
    have := decidableAttended uuid value permissions (database.perform operation env).1 operations
      (database.perform operation env).2
    inferInstanceAs (Decidable (_ ∧ _))

/-- An update moves the ready flag as the answer of the server says. -/
theorem updateValue_tracks
    (tracks : Tracks handle uuid properties permissions (readyAfter properties events) database)
    (sole : database.Sole uuid (handle + 1)) (named : ¬uuid ≈ Uuid.primaryService) {other : Uuid}
    (same : other ≈ uuid) (value : List UInt8) (env : Environment B A) :
    Tracks handle uuid properties permissions
      (readyAfter properties (events ++ database.valueEvents uuid (.updateValue other value) env))
      (database.updateValue other value env).2.1 := by
  cases fits : Bytes.ofList? Limits.attributeValue value with
  | none =>
    obtain ⟨own, found, -, -⟩ := tracks.found sole named same
    have nothing := updateValue_tooLong found fits env
    have silent : database.valueEvents uuid (.updateValue other value) env = [] := by
      simp [valueEvents, nothing, env.makes_nil.callsUntil_eq]
    rw [silent, List.append_nil, nothing]
    exact tracks
  | some kept =>
    rcases asked : env.updateValue other value with ⟨accepted, told⟩
    obtain ⟨front, own, back, final, attributes_eq, here, updated, made⟩ :=
      tracks.updateValue_eq sole named same fits env asked
    have happened : database.valueEvents uuid (.updateValue other value) env =
        if accepted then [.updated] else [] := by
      simp only [valueEvents, updated, made.callsUntil_eq]
      cases accepted with
      | false => exact if_neg (by simp)
      | true => exact if_pos ⟨same, by simp⟩
    have ready : readyAfter properties (events ++ if accepted then [.updated] else []) =
        (readyAfter properties events || (accepted && properties.pushesUpdates)) := by
      cases accepted with
      | false => simp
      | true => cases pushes : properties.pushesUpdates <;> simp [readyAfter, pushes]
    have framed : Attribute.frame { own with
        value := kept
        notifyReady := readyAfter properties events || (accepted && properties.pushesUpdates) } =
          own.frame := rfl
    rw [happened, ready, updated]
    exact tracks.of_changed attributes_eq here framed

/-- A write clears it, if it is allowed. -/
theorem write_tracks
    (tracks : Tracks handle uuid properties permissions (readyAfter properties events) database)
    (sole : database.Sole uuid (handle + 1)) (named : ¬uuid ≈ Uuid.primaryService) {other : Uuid}
    (same : other ≈ uuid) {value : List UInt8} {handler : AttributeHandler (Environment B A)}
    {env : Environment B A} (taken : permissions.write = true →
      (database.write other value handler env).1.isOk = true) :
    Tracks handle uuid properties permissions
      (readyAfter properties (events ++ database.valueEvents uuid (.write other value handler) env))
      (database.write other value handler env).2.1 := by
  obtain ⟨own, found, here, access⟩ := tracks.found sole named same
  have allowed : own.permissions = some permissions := congrArg (fun access => access.2.1) access
  have written := database.write_written other value handler env
  simp only [valueEvents]
  generalize (database.write other value handler env).1 = outcome at written taken ⊢
  generalize (database.write other value handler env).2.1 = after at written ⊢
  generalize (database.write other value handler env).2.2 = next at written
  cases written with
  | missing nowhere => cases nowhere.symm.trans found
  | unwritable first closed =>
    have silent : (Except.error Error.notSupported : Except Error Unit).isOk = false := rfl
    rw [silent, if_neg (by simp), List.append_nil]
    exact tracks
  | @asked front back entry outcome next also attributes_eq first writable answered =>
    obtain rfl := Option.some.inj (also.symm.trans found)
    have framed : Attribute.frame { entry with notifyReady := false } = entry.frame := rfl
    rw [allowed] at writable
    have fine := taken writable
    have ready : readyAfter properties (events ++ [.written]) = false := by simp [readyAfter]
    rw [if_pos ⟨same, fine⟩, ready]
    exact tracks.of_changed attributes_eq here framed

/-- An operation that concerns neither attribute leaves the characteristic as it is. -/
theorem Tracks.of_spared {ready : Bool}
    (tracks : Tracks handle uuid properties permissions ready database)
    (operation : Operation B A) (env : Environment B A)
    (declaration : database.Spares Attribute.content handle operation)
    (value : database.Spares Attribute.access (handle + 1) operation) :
    Tracks handle uuid properties permissions ready (database.perform operation env).1 := by
  have successor := toNat_succ tracks.room
  have given := tracks.given
  have earlier : handle.toNat < database.nextHandle := by omega
  apply tracks.of_resembles (perform_orderly tracks.orderly operation env)
  · exact nextHandle_le_perform tracks.orderly operation env
  · exact perform_resembles tracks.orderly earlier (fun _ _ => rfl) operation env declaration
  · exact perform_resembles tracks.orderly given (fun _ _ => rfl) operation env value

/-- Every operation in the history of a value moves the ready flag as its events say. -/
theorem perform_tracks
    (tracks : Tracks handle uuid properties permissions (readyAfter properties events) database)
    (named : ¬uuid ≈ Uuid.primaryService) {operation : Operation B A} {env : Environment B A}
    (regular : database.Regular uuid (handle + 1) permissions operation env) :
    Tracks handle uuid properties permissions
      (readyAfter properties (events ++ database.valueEvents uuid operation env))
      (database.perform operation env).1 := by
  have passed (none : database.valueEvents uuid operation env = [])
      (declaration : database.Spares Attribute.content handle operation)
      (value : database.Spares Attribute.access (handle + 1) operation) :
      Tracks handle uuid properties permissions
        (readyAfter properties (events ++ database.valueEvents uuid operation env))
        (database.perform operation env).1 := by
    rw [none, List.append_nil]
    exact tracks.of_spared operation env declaration value
  cases operation with
  | updateValue other value =>
    obtain ⟨sole, foreign⟩ := regular
    by_cases same : other ≈ uuid
    · exact updateValue_tracks tracks (sole same) named same value env
    · exact passed (if_neg fun both => same both.1) (tracks.declaration_apart (foreign same))
        (tracks.value_apart named same)
  | setNotifyReady other ready => exact passed rfl (.inr fun _ => rfl) (.inl regular)
  | write other value handler =>
    by_cases same : other ≈ uuid
    · obtain ⟨sole, taken⟩ := regular same
      exact write_tracks tracks sole named same taken
    · exact passed (if_neg fun both => same both.1) (.inr fun _ => rfl)
        (.inl (tracks.value_apart named same))
  | _ => exact passed rfl trivial trivial

/-- So the flag says after every history whether an update was the last of its events. -/
theorem run_tracks
    (tracks : Tracks handle uuid properties permissions (readyAfter properties events) database)
    (named : ¬uuid ≈ Uuid.primaryService) {operations : List (Operation B A)}
    {env : Environment B A}
    (attended : database.Attended uuid (handle + 1) permissions operations env) :
    Tracks handle uuid properties permissions
      (readyAfter properties (events ++ database.collect (valueEvents uuid) operations env))
      (database.run operations env).1 := by
  induction operations generalizing database env events with
  | nil =>
    rw [collect, List.append_nil]
    exact tracks
  | cons operation operations ih =>
    obtain ⟨regular, further⟩ := attended
    have step := perform_tracks tracks named regular
    rw [collect, ← List.append_assoc]
    exact ih step further

/-- Whatever happened before, let a characteristic be added whose value is not typed as a primary
service, and let the value have any history. Then an update under its UUID that does not fit does
nothing. One that fits is told to the server and, besides, is sent to peers, once and with the new
bytes, exactly if changes of the value are to be sent, the server accepts the update, and the last
event in the history, of updates that the server accepted and writes that the handler took, was an
update. If the server refuses the update, nothing but the value changes. -/
theorem run_notifications {first : Handle} {announces : Bool} {operations : List (Operation B A)}
    {env later : Environment B A} {made last : Database}
    (ran : (fresh first announces).run operations env = (database, later)) {value : Handle}
    (added : database.addCharacteristic uuid properties permissions = (.ok value, made))
    (named : ¬uuid ≈ Uuid.primaryService) {history : List (Operation B A)}
    {start final : Environment B A} (attended : made.Attended uuid value permissions history start)
    (continued : made.run history start = (last, final)) (sole : last.Sole uuid value)
    {other : Uuid} (same : other ≈ uuid) (bytes : List UInt8) :
    (Bytes.ofList? Limits.attributeValue bytes = none →
      last.updateValue other bytes final = (.error .noResources, last, final)) ∧
    ∀ kept, Bytes.ofList? Limits.attributeValue bytes = some kept →
      ∃ accepted after next, last.updateValue other bytes final = (.ok (), after, next) ∧
        final.Makes (.updateValue other bytes accepted ::
          if accepted ∧ properties.pushesUpdates ∧
              (made.collect (valueEvents uuid) history start).getLast? = some .updated
          then [.notify other bytes] else []) next ∧
        (accepted = false → after = { last with
          attributes := last.attributes.map fun entry =>
            if entry.handle = value then { entry with value := kept } else entry }) := by
  have started : (fresh first announces).Orderly := orderly_fresh first announces
  have ordered : database.Orderly := by
    have kept := run_orderly started operations env
    rwa [ran] at kept
  obtain ⟨handle, rfl, tracks⟩ := Tracks.of_added ordered added
  have unready : Tracks handle uuid properties permissions (readyAfter properties []) made := by
    simpa [readyAfter] using tracks
  have tracks : Tracks handle uuid properties permissions (readyAfter properties
      (made.collect (valueEvents uuid) history start)) last := by
    have kept := run_tracks unready named attended
    rwa [continued, List.nil_append] at kept
  generalize made.collect (valueEvents uuid) history start = events at tracks ⊢
  constructor
  · intro long
    obtain ⟨own, found, -, -⟩ := tracks.found sole named same
    exact updateValue_tooLong found long final
  · intro kept fits
    rcases asked : final.updateValue other bytes with ⟨accepted, told⟩
    obtain ⟨front, own, back, next, attributes_eq, here, updated, calls⟩ :=
      tracks.updateValue_eq sole named same fits final asked
    refine ⟨accepted, _, next, updated, ?_, ?_⟩
    · have due : (accepted && properties.pushesUpdates && readyAfter properties events) = true ↔
          accepted = true ∧ properties.pushesUpdates = true ∧
            events.getLast? = some .updated := by
        simp only [Bool.and_eq_true, readyAfter_iff]
        tauto
      simpa only [due] using calls
    · rintro rfl
      have access := tracks.value own (by simp [attributes_eq]) here
      have ready : own.notifyReady = readyAfter properties events :=
        congrArg (fun access => access.2.2) access
      rw [Bool.false_and, Bool.or_false, ← ready, ← here,
        map_handle_split tracks.orderly attributes_eq fun entry => { entry with value := kept }]

/-- A server that has room for nothing, and takes values of one byte. -/
structure NarrowServer where

/-- It registers nothing, and it takes a value exactly if it has one byte. -/
instance : AttributeServer NarrowServer where
  registerService server _ _ := (none, server)
  registerCharacteristic server _ _ _ _ := (none, server)
  registerDescriptor server _ _ := (none, server)
  removeRange server _ := server
  updateValue server _ value := (value.length == 1, server)
  notify server _ _ := server
  peers _ := []
  sendIndication server _ _ := server

/-- Only the second of two updates is sent. After a write it takes another update, and none that the
server refused, until one is sent again. -/
theorem run_notifications_of_written :
    let level : Uuid := .uuid16 0x2A19
    let env : Environment Unit NarrowServer := { bus := (), server := {} }
    let started := ((fresh 1 true).run [.addService (.uuid16 0x180F)] env).1
    let made := (started.addCharacteristic level (.write ||| .notify) .both).2
    let history : List (Operation Unit NarrowServer) := [.updateValue level [1],
      .updateValue level [2], .write level [3] ⟨fun _ env => (.error .notSupported, env),
        fun _ _ env => (.ok (), env)⟩, .updateValue level [4], .updateValue level [5, 5]]
    let past := made.run history env
    past.2.journal = [.updateValue level [1] true, .updateValue level [2] true, .notify level [2],
      .updateValue level [4] true, .updateValue level [5, 5] false] ∧
    (past.1.updateValue level [6] past.2).2.2.journal =
      past.2.journal ++ [.updateValue level [6] true, .notify level [6]] := by
  intro level env started made history past
  have ran : (fresh 1 true).run [.addService (.uuid16 0x180F)] env =
      (started, ((fresh 1 true).run [.addService (.uuid16 0x180F)] env).2) := (Prod.eta _).symm
  have added : started.addCharacteristic level (.write ||| .notify) .both = (.ok 3, made) := by
    decide +kernel
  have attended : made.Attended level 3 .both history env := by decide +kernel
  have sole : past.1.Sole level 3 := by decide +kernel
  have events : made.collect (valueEvents level) history env =
      [.updated, .updated, .written, .updated] := by
    decide +kernel
  have notified := (run_notifications ran added (by decide) attended (Prod.eta past).symm
    sole (Setoid.refl level) [6]).2 _ rfl
  rw [events] at notified
  have taken : (past.2.callsUntil (past.1.updateValue level [6] past.2).2.2).head? =
      some (.updateValue level [6] true) := by decide +kernel
  constructor
  · decide +kernel
  · obtain ⟨accepted, after, next, updated, calls, -⟩ := notified
    rw [updated, calls.callsUntil_eq] at taken
    obtain rfl : accepted = true := by simpa using taken
    rw [updated, calls]
    rfl

end History

end Database

end BluetoothHost
