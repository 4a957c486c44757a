import BluetoothHost.Media.Endpoint
import BluetoothHost.Proofs.Gatt.Indifference
import BluetoothHost.Proofs.Gatt.Materialize
import BluetoothHost.Proofs.Gatt.Run

/-!
# The form of a UUID makes no difference

Two runs of the database are asked for the same, but that UUIDs may be given in different forms, and
neither their neighbours nor the handlers look at the forms. Then every answer is the same, but for
the bytes of declarations. The databases agree after each request and so do the journals.
-/

namespace BluetoothHost

/-- Two handlers that answer alike in surroundings that correspond, as long as the type of the
attribute is the same, in whatever form. -/
structure AttributeHandler.Agrees {B A : Type} [AttributeServer A] (indifference : Indifference B A)
    (one other : AttributeHandler (Environment B A)) : Prop where
  /-- They answer reads alike. -/
  read (entry : Attribute) {type : Uuid} {env later : Environment B A} :
    entry.type ≈ type → env.Agrees indifference later →
      SameAnswer (Environment.Agrees indifference) (one.read entry env)
        (other.read { entry with type } later)
  /-- They take writes alike. -/
  write (entry : Attribute) (value : List UInt8) {type : Uuid} {env later : Environment B A} :
    entry.type ≈ type → env.Agrees indifference later →
      SameAnswer (Environment.Agrees indifference) (one.write entry value env)
        (other.write { entry with type } value later)

/-- UUIDs that are the same have one endpoint. -/
theorem Endpoint.ofUuid_congr {uuid same : Uuid} (alike : uuid ≈ same) (voiceMtu : UInt16) :
    Endpoint.ofUuid uuid voiceMtu = Endpoint.ofUuid same voiceMtu := by
  have keys (key : Uuid) : uuid ≈ key ↔ same ≈ key := Uuid.equiv_congr alike (Setoid.refl key)
  simp only [Endpoint.ofUuid, keys]

namespace Database

open Catalogue (CountingServer countingEnvironment)

variable {B A : Type} [AttributeServer A] {indifference : Indifference B A}
  {one other : Database} {env later : Environment B A} {uuid same : Uuid}

/-! ### Values and access -/

/-- Ready flags are set alike. -/
theorem setNotifyReady_agrees (agree : one.Agrees other) (handle : Handle) (ready : Bool) :
    SameAnswer Database.Agrees (one.setNotifyReady handle ready)
      (other.setNotifyReady handle ready) := by
  unfold setNotifyReady
  rw [← agree.position?]
  cases one.position? handle with
  | none => exact ⟨rfl, agree⟩
  | some index =>
    refine ⟨rfl, agree.modify index fun here => ?_⟩
    exact ⟨here.handle, here.type, here.value, here.permissions, here.range, rfl⟩

/-- In front of a value stands a declaration of the same properties. -/
theorem propertiesOfValue?_agrees (agree : one.Agrees other) (handle : Handle) :
    one.propertiesOfValue? handle = other.propertiesOfValue? handle := by
  have found := agree.findHandle? (handle - 1)
  unfold propertiesOfValue?
  generalize one.findHandle? (handle - 1) = left, other.findHandle? (handle - 1) = right at found
  cases found with
  | none => rfl
  | some here => simp only [Option.bind_some, here.characteristicProperties?]

/-- A value is pushed from both, or from neither. -/
theorem push_agrees (agree : one.Agrees other) {entry like : Attribute} (here : entry.Agrees like)
    (alike : uuid ≈ same) (value : List UInt8) (envs : env.Agrees indifference later) :
    SameAnswer (States indifference) (one.push entry uuid value env)
      (other.push like same value later) := by
  unfold push
  rw [← here.notifyReady, ← here.handle]
  split
  · exact ⟨rfl, agree, envs.notify alike value⟩
  · obtain ⟨outcome, databases⟩ := setNotifyReady_agrees agree entry.handle true
    exact ⟨outcome, databases, envs⟩

/-- Updates go to attributes that agree, and are told to the server alike. -/
theorem updateValue_agrees (agree : one.Agrees other) (alike : uuid ≈ same) (value : List UInt8)
    (envs : env.Agrees indifference later) :
    SameAnswer (States indifference) (one.updateValue uuid value env)
      (other.updateValue same value later) := by
  have found := agree.findUuid? alike
  unfold updateValue
  rw [← agree.positionOf? alike]
  generalize one.findUuid? uuid = left, other.findUuid? same = right at found
  cases one.positionOf? uuid with
  | none => exact ⟨rfl, agree, envs⟩
  | some index =>
    cases found with
    | none => exact ⟨rfl, agree, envs⟩
    | @some entry like here =>
      dsimp only
      cases Bytes.ofList? Limits.attributeValue value with
      | none => exact ⟨rfl, agree, envs⟩
      | some kept =>
        have databases : (one.modify index fun entry => { entry with value := kept }).Agrees
            (other.modify index fun entry => { entry with value := kept }) := by
          refine agree.modify index fun here => ?_
          exact ⟨here.handle, here.type, .inl rfl, here.permissions, here.range, here.notifyReady⟩
        dsimp only
        rw [← here.handle, ← propertiesOfValue?_agrees databases]
        split
        · exact ⟨rfl, databases, envs⟩
        · obtain ⟨answer, left, right, first, second, envs⟩ :=
            (envs.updateValue alike value).split
          simp only [first, second]
          cases answer with
          | false => exact ⟨rfl, databases, envs⟩
          | true =>
            dsimp only
            split
            · exact push_agrees databases here alike value envs
            · exact ⟨rfl, databases, envs⟩

/-- Writes are passed on alike. -/
theorem write_agrees (agree : one.Agrees other) (alike : uuid ≈ same) (value : List UInt8)
    {handler like : AttributeHandler (Environment B A)}
    (handlers : handler.Agrees indifference like) (envs : env.Agrees indifference later) :
    SameAnswer (States indifference) (one.write uuid value handler env)
      (other.write same value like later) := by
  have found := agree.findUuid? alike
  unfold write
  rw [← agree.positionOf? alike]
  generalize one.findUuid? uuid = left, other.findUuid? same = right at found
  cases one.positionOf? uuid with
  | none => exact ⟨rfl, agree, envs⟩
  | some index =>
    cases found with
    | none => exact ⟨rfl, agree, envs⟩
    | @some entry changed here =>
      dsimp only
      rw [← here.permissions]
      split
      · rename_i writable
        obtain ⟨permissions, allowed, -⟩ := (Option.any_eq_true _ _).mp writable
        obtain ⟨type, alike, rfl⟩ := here.eq_of_permissions allowed
        obtain ⟨outcome, envs⟩ :=
          handlers.write { entry with notifyReady := false } value alike envs
        have unready : (one.modify index fun entry => { entry with notifyReady := false }).Agrees
            (other.modify index fun entry => { entry with notifyReady := false }) := by
          refine agree.modify index fun here => ?_
          exact ⟨here.handle, here.type, here.value, here.permissions, here.range, rfl⟩
        exact ⟨outcome, unready, envs⟩
      · exact ⟨rfl, agree, envs⟩

/-! ### Requests -/

/-- What the database can be asked for. -/
inductive Request (B A : Type)
  /-- An operation. -/
  | change (operation : Operation B A)
  /-- A peer reads an attribute that this handler implements. -/
  | read (uuid : Uuid) (handler : AttributeHandler (Environment B A))

/-- What the database answers. -/
inductive Answer
  /-- An attribute was added. -/
  | handle (outcome : Except Error Handle)
  /-- A service was registered. -/
  | range (outcome : Except Error HandleRange)
  /-- Something else was done. -/
  | done (outcome : Except Error Unit)
  /-- A value was read, from a declaration or through a handler. -/
  | value (declared : Bool) (outcome : Except Error AttributeValue)

/-- The answer to an operation. -/
def answer (database : Database) (operation : Operation B A) (env : Environment B A) : Answer :=
  match operation with
  | .addService uuid => .handle (database.addService uuid).1
  | .addCharacteristic uuid properties permissions =>
    .handle (database.addCharacteristic uuid properties permissions).1
  | .addDescriptor uuid permissions => .handle (database.addDescriptor uuid permissions).1
  | .materialize => .range (database.materialize env).1
  | .removeService service => .done (database.removeService service env).1
  | .updateValue uuid value => .done (database.updateValue uuid value env).1
  | .setNotifyReady handle ready => .done (database.setNotifyReady handle ready).1
  | .write uuid value handler => .done (database.write uuid value handler env).1
  | .evolve _ => .done (.ok ())

/-- The answer to a request, and the database and its neighbours behind it. -/
def respond (database : Database) (request : Request B A) (env : Environment B A) :
    Answer × Database × Environment B A :=
  match request with
  | .change operation => (database.answer operation env, database.perform operation env)
  | .read uuid handler =>
    let declared := (database.findUuid? uuid).any fun entry => entry.permissions.isNone
    let (outcome, env) := database.read uuid handler env
    (.value declared outcome, database, env)

/-- The answers to a list of requests in order, and the database and its neighbours behind it. -/
def respondAll (database : Database) : List (Request B A) → Environment B A →
    List Answer × Database × Environment B A
  | [], env => ([], database, env)
  | request :: requests, env =>
    let (answer, database, env) := database.respond request env
    let (answers, state) := database.respondAll requests env
    (answer :: answers, state)

/-- Two operations that are the same but for the forms of UUIDs. -/
inductive Operation.Agrees (indifference : Indifference B A) :
    Operation B A → Operation B A → Prop
  /-- Services with one UUID are begun. -/
  | addService {uuid same : Uuid} (alike : uuid ≈ same) :
      Agrees indifference (.addService uuid) (.addService same)
  /-- Characteristics with one UUID are added. -/
  | addCharacteristic {uuid same : Uuid} (alike : uuid ≈ same)
      (properties : CharacteristicProperties) (permissions : Permissions) :
      Agrees indifference (.addCharacteristic uuid properties permissions)
        (.addCharacteristic same properties permissions)
  /-- Descriptors with one UUID are added. -/
  | addDescriptor {uuid same : Uuid} (alike : uuid ≈ same) (permissions : Permissions) :
      Agrees indifference (.addDescriptor uuid permissions) (.addDescriptor same permissions)
  /-- Both services under construction are registered. -/
  | materialize : Agrees indifference .materialize .materialize
  /-- One service is removed. -/
  | removeService (service : Handle) :
      Agrees indifference (.removeService service) (.removeService service)
  /-- One characteristic has a new value. -/
  | updateValue {uuid same : Uuid} (alike : uuid ≈ same) (value : List UInt8) :
      Agrees indifference (.updateValue uuid value) (.updateValue same value)
  /-- One ready flag is set or cleared. -/
  | setNotifyReady (handle : Handle) (ready : Bool) :
      Agrees indifference (.setNotifyReady handle ready) (.setNotifyReady handle ready)
  /-- A peer writes one attribute, and the handlers answer alike. -/
  | write {uuid same : Uuid} {handler like : AttributeHandler (Environment B A)}
      (alike : uuid ≈ same) (value : List UInt8) (handlers : handler.Agrees indifference like) :
      Agrees indifference (.write uuid value handler) (.write same value like)
  /-- The neighbours have gone on alike. -/
  | evolve {env later : Environment B A} (envs : env.Agrees indifference later) :
      Agrees indifference (.evolve env) (.evolve later)

/-- Two requests that are the same but for the forms of UUIDs. -/
inductive Request.Agrees (indifference : Indifference B A) : Request B A → Request B A → Prop
  /-- Both are operations. -/
  | change {operation like : Operation B A} (operations : operation.Agrees indifference like) :
      Agrees indifference (.change operation) (.change like)
  /-- A peer reads one attribute, and the handlers answer alike. -/
  | read {uuid same : Uuid} {handler like : AttributeHandler (Environment B A)}
      (alike : uuid ≈ same) (handlers : handler.Agrees indifference like) :
      Agrees indifference (.read uuid handler) (.read same like)

/-- Two answers that are the same but for the bytes of declarations. -/
inductive Answer.Agrees : Answer → Answer → Prop
  /-- They are the same. -/
  | refl (answer : Answer) : Agrees answer answer
  /-- Declarations were read that spell one UUID in two forms. -/
  | declaration {type : Uuid} {left right : AttributeValue}
      (alike : Attribute.DeclareAlike type left right) :
      Agrees (.value true (.ok left)) (.value true (.ok right))

/-- An operation is answered alike. -/
theorem perform_agrees (agree : one.Agrees other) (envs : env.Agrees indifference later)
    {operation like : Operation B A} (operations : operation.Agrees indifference like) :
    one.answer operation env = other.answer like later ∧
      States indifference (one.perform operation env) (other.perform like later) := by
  cases operations with
  | addService alike =>
    obtain ⟨outcome, databases⟩ := addService_agrees agree alike
    exact ⟨congrArg Answer.handle outcome, databases, envs⟩
  | addCharacteristic alike properties permissions =>
    obtain ⟨outcome, databases⟩ := addCharacteristic_agrees agree alike properties permissions
    exact ⟨congrArg Answer.handle outcome, databases, envs⟩
  | addDescriptor alike permissions =>
    obtain ⟨outcome, databases⟩ := addDescriptor_agrees agree alike permissions
    exact ⟨congrArg Answer.handle outcome, databases, envs⟩
  | materialize =>
    obtain ⟨outcome, states⟩ := materialize_agrees agree envs
    exact ⟨congrArg Answer.range outcome, states⟩
  | removeService service =>
    obtain ⟨outcome, states⟩ := removeService_agrees agree service envs
    exact ⟨congrArg Answer.done outcome, states⟩
  | updateValue alike value =>
    obtain ⟨outcome, states⟩ := updateValue_agrees agree alike value envs
    exact ⟨congrArg Answer.done outcome, states⟩
  | setNotifyReady handle ready =>
    obtain ⟨outcome, databases⟩ := setNotifyReady_agrees agree handle ready
    exact ⟨congrArg Answer.done outcome, databases, envs⟩
  | write alike value handlers =>
    obtain ⟨outcome, states⟩ := write_agrees agree alike value handlers envs
    exact ⟨congrArg Answer.done outcome, states⟩
  | evolve moved => exact ⟨rfl, agree, moved⟩

/-- A read is answered alike, but for the bytes of declarations. -/
theorem read_agrees (agree : one.Agrees other) (envs : env.Agrees indifference later)
    (alike : uuid ≈ same) {handler like : AttributeHandler (Environment B A)}
    (handlers : handler.Agrees indifference like) :
    (one.respond (.read uuid handler) env).1.Agrees (other.respond (.read same like) later).1 ∧
      States indifference (one.respond (.read uuid handler) env).2
        (other.respond (.read same like) later).2 := by
  have found := agree.findUuid? alike
  unfold respond read
  dsimp only
  generalize one.findUuid? uuid = left, other.findUuid? same = right at found
  cases found with
  | none => exact ⟨.refl _, agree, envs⟩
  | @some entry changed here =>
    dsimp only [Option.any_some]
    rw [← here.permissions]
    cases allowed : entry.permissions with
    | none =>
      refine ⟨?_, agree, envs⟩
      rcases here.value with same | ⟨-, declared⟩
      · rw [same]
        exact .refl _
      · exact .declaration declared
    | some permissions =>
      obtain ⟨type, alike, rfl⟩ := here.eq_of_permissions allowed
      dsimp only
      split
      · obtain ⟨outcome, envs⟩ := handlers.read entry alike envs
        rw [outcome]
        exact ⟨.refl _, agree, envs⟩
      · exact ⟨.refl _, agree, envs⟩

/-- Every request is. -/
theorem respond_agrees (agree : one.Agrees other) (envs : env.Agrees indifference later)
    {request like : Request B A} (requests : request.Agrees indifference like) :
    (one.respond request env).1.Agrees (other.respond like later).1 ∧
      States indifference (one.respond request env).2 (other.respond like later).2 := by
  cases requests with
  | @change operation like operations =>
    obtain ⟨answers, states⟩ := perform_agrees agree envs operations
    have answered : (one.answer operation env).Agrees (other.answer like later) := by
      rw [answers]
      exact .refl _
    exact ⟨answered, states⟩
  | read alike handlers => exact read_agrees agree envs alike handlers

/-- So is a list of requests. -/
theorem respondAll_agrees (agree : one.Agrees other) (envs : env.Agrees indifference later)
    {requests others : List (Request B A)}
    (alike : List.Forall₂ (Request.Agrees indifference) requests others) :
    List.Forall₂ Answer.Agrees (one.respondAll requests env).1
        (other.respondAll others later).1 ∧
      States indifference (one.respondAll requests env).2 (other.respondAll others later).2 := by
  induction alike generalizing one other env later with
  | nil => exact ⟨.nil, agree, envs⟩
  | cons here _ ih =>
    obtain ⟨answer, databases, envs⟩ := respond_agrees agree envs here
    obtain ⟨answers, states⟩ := ih databases envs
    exact ⟨.cons answer answers, states⟩

/-- Two runs that differ in the forms of UUIDs only give the same answers, but for the bytes of
declarations. All attributes are found afterwards under the same UUIDs in the one database and in
the other, and so are all services; the same calls were made, with the same UUIDs. Nor do the forms
decide about endpoints. -/
theorem respondAll_interchange (agree : one.Agrees other) (envs : env.Agrees indifference later)
    {requests others : List (Request B A)}
    (alike : List.Forall₂ (Request.Agrees indifference) requests others) :
    let first := one.respondAll requests env
    let second := other.respondAll others later
    List.Forall₂ Answer.Agrees first.1 second.1 ∧
      first.2.1.Agrees second.2.1 ∧
      first.2.2.journal.map Call.widened = second.2.2.journal.map Call.widened ∧
      ∀ {uuid same : Uuid}, uuid ≈ same →
        (first.2.1.findUuid? uuid).map Attribute.handle =
          (second.2.1.findUuid? same).map Attribute.handle ∧
        first.2.1.serviceRange? uuid = second.2.1.serviceRange? same ∧
        ∀ voiceMtu, Endpoint.ofUuid uuid voiceMtu = Endpoint.ofUuid same voiceMtu := by
  intro first second
  obtain ⟨answers, databases, envs⟩ := respondAll_agrees agree envs alike
  refine ⟨answers, databases, envs.journal, fun alike => ⟨?_, databases.serviceRange? alike,
    Endpoint.ofUuid_congr alike⟩⟩
  have found := databases.findUuid? alike
  generalize first.2.1.findUuid? _ = left, second.2.1.findUuid? _ = right at found
  cases found with
  | none => rfl
  | some here => exact congrArg some here.handle

/-- Servers that count handles do not look at UUIDs. -/
def countingIndifference : Indifference Transport.PlainBus CountingServer where
  bus := Eq
  server := Eq
  registerService _ same _ := same ▸ ⟨rfl, rfl⟩
  registerCharacteristic _ _ _ same _ := same ▸ ⟨rfl, rfl⟩
  registerDescriptor _ same _ := same ▸ ⟨rfl, rfl⟩
  removeRange _ same := same
  updateValue _ same _ := same ▸ ⟨rfl, rfl⟩
  notify _ same _ := same
  peers _ := rfl
  sendIndication _ _ same := same

/-- A handler that answers for battery levels, whatever form their UUID has. -/
def batteryHandler {E : Type} : AttributeHandler E where
  read entry env :=
    if entry.type ≈ Uuid.uuid16 0x2A19 then (.ok entry.value, env) else (.error .notSupported, env)
  write _ _ env := (.ok (), env)

/-- The battery's handler does not look at forms. -/
theorem batteryHandler_agrees :
    AttributeHandler.Agrees countingIndifference batteryHandler batteryHandler where
  read entry type env later alike envs := by
    have same := Uuid.equiv_congr alike (Setoid.refl (Uuid.uuid16 0x2A19))
    unfold batteryHandler
    dsimp only
    by_cases battery : entry.type ≈ Uuid.uuid16 0x2A19
    · rw [if_pos battery, if_pos (same.mp battery)]
      exact ⟨rfl, envs⟩
    · rw [if_neg battery, if_neg (mt same.mpr battery)]
      exact ⟨rfl, envs⟩
  write entry value type env later alike envs := ⟨rfl, envs⟩

/-- A battery service is built, registered, changed and read under short UUIDs and under long ones.
The reads of its declaration are answered with two bytes and with four. -/
theorem respondAll_interchange_of_battery :
    let requests (service level : Uuid) : List (Request Transport.PlainBus CountingServer) :=
      [.change (.addService service),
        .change (.addCharacteristic level (.read ||| .notify) .both),
        .change .materialize,
        .change (.updateValue level [50]),
        .change (.updateValue level [51]),
        .read level batteryHandler,
        .read service batteryHandler,
        .change (.removeService 1)]
    let short := (fresh 1 true).respondAll (requests (.uuid16 0x180F) (.uuid16 0x2A19))
      countingEnvironment
    let long := (fresh 1 true).respondAll
      (requests (.uuid32 0x180F) (Uuid.uuid16 0x2A19).widened) countingEnvironment
    List.Forall₂ Answer.Agrees short.1 long.1 ∧
      short.2.2.journal.map Call.widened = long.2.2.journal.map Call.widened ∧
      short.1[6]? = some (.value true (.ok (Attribute.serviceValue (.uuid16 0x180F)))) ∧
      long.1[6]? = some (.value true (.ok (Attribute.serviceValue (.uuid32 0x180F)))) := by
  intro requests short long
  have services : Uuid.uuid16 0x180F ≈ Uuid.uuid32 0x180F := by decide
  have levels : Uuid.uuid16 0x2A19 ≈ (Uuid.uuid16 0x2A19).widened := by decide
  have alike : List.Forall₂ (Request.Agrees countingIndifference)
      (requests (.uuid16 0x180F) (.uuid16 0x2A19))
      (requests (.uuid32 0x180F) ((Uuid.uuid16 0x2A19).widened)) :=
    .cons (.change (.addService services)) <|
    .cons (.change (.addCharacteristic levels _ _)) <|
    .cons (.change .materialize) <|
    .cons (.change (.updateValue levels _)) <|
    .cons (.change (.updateValue levels _)) <|
    .cons (.read levels batteryHandler_agrees) <|
    .cons (.read services batteryHandler_agrees) <|
    .cons (.change (.removeService _)) .nil
  have envs : countingEnvironment.Agrees countingIndifference countingEnvironment := ⟨rfl, rfl, rfl⟩
  obtain ⟨answers, -, journal, -⟩ := respondAll_interchange (.refl (fresh 1 true)) envs alike
  exact ⟨answers, journal, rfl, rfl⟩

end Database

end BluetoothHost
