import BluetoothHost.Proofs.Gatt.Contents
import BluetoothHost.Proofs.Gatt.Materialize

/-!
# How long a declaration says the same

The bytes of a declaration are written when it is created and are meant to stay. What can write them
again is an update that finds the declaration first, and whether it does depends on the UUID under
which the update is made: that of the service for a service declaration, the type of characteristic
declarations for a characteristic declaration. Clients choose these UUIDs, so a value published for
the object of a service goes into its declaration. Without such an update a declaration says the
same as long as it is there.
-/

namespace BluetoothHost

variable {B A : Type}

/-- The value that an update writes into the attribute with a handle, if it finds that one. -/
def Database.overwrite? (database : Database) (handle : Handle) (uuid : Uuid)
    (value : List UInt8) : Option AttributeValue :=
  (database.findUuid? uuid).bind fun entry =>
    if entry.handle = handle then Bytes.ofList? Limits.attributeValue value else none

/-- An update changes the contents of an attribute as far as it finds the attribute. -/
theorem Database.updateValue_contents [AttributeServer A] {database : Database}
    (orderly : database.Orderly) (uuid : Uuid) (value : List UInt8) (env : Environment B A)
    {entry : Attribute} (member : entry ∈ (database.updateValue uuid value env).2.1.attributes) :
    ∃ old ∈ database.attributes, entry.content = { old with
      value := (database.overwrite? entry.handle uuid value).getD old.value }.content := by
  have updated := updateValue_updated orderly uuid value env
  generalize (database.updateValue uuid value env).1 = outcome at updated
  generalize (database.updateValue uuid value env).2.1 = after at updated member
  cases updated with
  | missing nowhere => exact ⟨entry, member, by simp [overwrite?, nowhere]⟩
  | tooLong found long => exact ⟨entry, member, by simp [overwrite?, found, long]⟩
  | @kept front back target kept ready found attributes_eq fits stays =>
    have whole := orderly.ascending
    rw [attributes_eq] at whole
    obtain ⟨-, behind, before⟩ := List.pairwise_append.mp whole
    have other : entry ∈ database.attributes → target.handle ≠ entry.handle →
        ∃ old ∈ database.attributes, entry.content = { old with
          value := (database.overwrite? entry.handle uuid value).getD old.value }.content := by
      intro there apart
      exact ⟨entry, there, by simp [overwrite?, found, apart]⟩
    rcases List.mem_append.mp member with first | rest
    · have lower := before entry first target List.mem_cons_self
      exact other (by simp [attributes_eq, first]) (UInt16.ne_of_lt lower).symm
    · rcases List.mem_cons.mp rest with rfl | last
      · refine ⟨target, by simp [attributes_eq], ?_⟩
        simp [overwrite?, found, fits, Attribute.content]
      · have higher := (List.pairwise_cons.mp behind).1 entry last
        exact other (by simp [attributes_eq, last]) (UInt16.ne_of_lt higher)

namespace Catalogue

variable {catalogue : Catalogue}

/-- What an action declares under a handle. -/
def declared? (catalogue : Catalogue) (action : Action B A) (handle : Handle) :
    Option Declaration :=
  let next := catalogue.database.nextHandle
  match action with
  | .addService uuid => if handle.toNat = next then some (.service uuid) else none
  | .addCharacteristic uuid properties _ =>
    if handle.toNat = next then some (.characteristic properties uuid) else none
  | .clientReady client path => catalogue.publications.declared? client path next handle
  | _ => none

/-- The UUID under which an action updates the database, and the value. -/
def update? (catalogue : Catalogue) : Action B A → Option (Uuid × List UInt8)
  | .updateValue uuid value => some (uuid, value)
  | .valueChanged client path value =>
    (catalogue.publications.addressed? client path).map fun uuid => (uuid, value)
  | _ => none

/-- The value that an action writes into the attribute with a handle. -/
def overwrite? (catalogue : Catalogue) (handle : Handle) (action : Action B A) :
    Option AttributeValue :=
  (catalogue.update? action).bind fun update =>
    catalogue.database.overwrite? handle update.1 update.2

variable [MessageBus B] [AttributeServer A]

/-- An action that updates nothing adds attributes and leaves their contents alone. -/
theorem perform_grown (orderly : catalogue.database.Orderly) (action : Action B A)
    (env : Environment B A) (still : catalogue.update? action = none) :
    ∃ grown, Database.Grown (catalogue.declared? action) catalogue.database grown ∧
      Database.Keeps grown (catalogue.perform action env).1.database := by
  obtain ⟨database, publications⟩ := catalogue
  have same : ∀ after, Database.Keeps database after →
      ∃ grown, Database.Grown (declared? ⟨database, publications⟩ action) database grown ∧
        Database.Keeps grown after :=
    fun _ keeps => ⟨database, orderly.grown _, keeps⟩
  cases action with
  | addService uuid =>
    rcases Database.addService_eq orderly uuid with ⟨cause, refused⟩ | ⟨service, next, added⟩
    · simp only [perform, refused]
      exact same _ (.refl database)
    · simp only [perform, added]
      exact ⟨_, Database.start_grown orderly next uuid, .refl _⟩
  | addCharacteristic uuid properties permissions =>
    exact ⟨_, Database.add_grown orderly (.characteristic uuid properties permissions), .refl _⟩
  | addDescriptor uuid permissions =>
    have grown := Database.add_grown orderly (.descriptor uuid permissions)
    -- nothing is declared under the next handle either
    have nothing : (fun handle => Element.declared? handle database.nextHandle
        [some (.descriptor uuid permissions)]) = fun _ => none :=
      funext fun handle => ite_self none
    rw [nothing] at grown
    exact ⟨_, grown, .refl _⟩
  | materialize => exact same _ (database.materialize_keeps env)
  | removeService service => exact same _ (database.removeService_keeps service env)
  | updateValue uuid value => cases still
  | setNotifyReady handle ready => exact same _ (database.setNotifyReady_keeps handle ready)
  | write uuid value handler => exact same _ (database.write_keeps uuid value handler env.bus)
  | writePublished uuid value =>
    exact same _ (database.write_keeps uuid value publications.handler env)
  | unregister client path =>
    exact same _ (publications.unregister_keeps database client path env)
  | clientReady client path => exact Publications.clientReady_grown orderly env
  | valueChanged client path value =>
    have nowhere : publications.addressed? client path = none := Option.map_eq_none_iff.mp still
    have unchanged :=
      Publications.valueChanged_database orderly publications client path value env
    rw [nowhere] at unchanged
    simp only [perform, unchanged]
    exact same _ (.refl database)
  | clientDisconnected client =>
    exact same _ (Publications.tearDownEach_keeps _ database env)
  | register | publish | withdraw | evolve => exact same _ (.refl database)

/-- An action that updates the database does nothing else to it. -/
theorem perform_update (orderly : catalogue.database.Orderly) {action : Action B A}
    (env : Environment B A) {uuid : Uuid} {value : List UInt8}
    (update : catalogue.update? action = some (uuid, value)) :
    (catalogue.perform action env).1.database =
      (catalogue.database.updateValue uuid value env).2.1 := by
  obtain ⟨database, publications⟩ := catalogue
  cases action with
  | updateValue =>
    cases update
    rfl
  | valueChanged client path value =>
    obtain ⟨addressed, known, same⟩ := Option.map_eq_some_iff.mp update
    cases same
    have changed :=
      Publications.valueChanged_database orderly publications client path value env
    rw [known] at changed
    exact changed
  | _ => cases update

/-- An action changes the contents of an attribute as far as it updates that attribute. -/
theorem perform_contents (orderly : catalogue.database.Orderly) (action : Action B A)
    (env : Environment B A) {entry : Attribute}
    (member : entry ∈ (catalogue.perform action env).1.database.attributes)
    (given : entry.handle.toNat < catalogue.database.nextHandle) :
    ∃ old ∈ catalogue.database.attributes, entry.content = { old with
      value := (catalogue.overwrite? entry.handle action).getD old.value }.content := by
  cases update : catalogue.update? action with
  | none =>
    obtain ⟨grown, additions, keeps⟩ := perform_grown orderly action env update
    obtain ⟨old, there, same⟩ := keeps entry member
    have handles : entry.handle = old.handle := congrArg Prod.fst same
    exact ⟨old, additions.old old there (handles ▸ given), by simpa [overwrite?, update] using same⟩
  | some changed =>
    obtain ⟨uuid, value⟩ := changed
    rw [perform_update orderly env update] at member
    obtain ⟨old, there, same⟩ := Database.updateValue_contents orderly uuid value env member
    exact ⟨old, there, by simpa [overwrite?, update] using same⟩

/-- What is new and constant after an action declares what the action declares under its handle. -/
theorem perform_declares (orderly : catalogue.database.Orderly) (action : Action B A)
    (env : Environment B A) {entry : Attribute}
    (member : entry ∈ (catalogue.perform action env).1.database.attributes)
    (new : catalogue.database.nextHandle ≤ entry.handle.toNat)
    (constant : entry.permissions = none) :
    ∃ declaration, catalogue.declared? action entry.handle = some declaration ∧
      entry.content = (declaration.attributeAt entry.handle).content := by
  cases update : catalogue.update? action with
  | some changed =>
    obtain ⟨uuid, value⟩ := changed
    rw [perform_update orderly env update] at member
    obtain ⟨old, there, same⟩ := Database.updateValue_contents orderly uuid value env member
    have handles : entry.handle = old.handle := congrArg Prod.fst same
    exact absurd (orderly.below old there) (Nat.not_lt.mpr (handles ▸ new))
  | none =>
    obtain ⟨grown, additions, keeps⟩ := perform_grown orderly action env update
    obtain ⟨other, there, same⟩ := keeps entry member
    have handles : entry.handle = other.handle := congrArg Prod.fst same
    have allowed : entry.permissions = other.permissions :=
      congrArg (fun content => content.2.2.1) same
    obtain ⟨declaration, known, declared⟩ :=
      additions.new other there (handles ▸ new) (allowed ▸ constant)
    rw [handles]
    exact ⟨declaration, known, same.trans (congrArg Attribute.content declared)⟩

/-! ### Runs -/

/-- The UUIDs under which the database is updated during a list of actions. -/
def addresses (catalogue : Catalogue) : List (Action B A) → Environment B A → List Uuid
  | [], _ => []
  | action :: actions, env =>
    let next := catalogue.perform action env
    ((catalogue.update? action).map Prod.fst).toList ++ next.1.addresses actions next.2

/-- The values that a list of actions writes into the attribute with a handle, in order. -/
def overwrites (handle : Handle) (catalogue : Catalogue) : List (Action B A) →
    Environment B A → List AttributeValue
  | [], _ => []
  | action :: actions, env =>
    let next := catalogue.perform action env
    (catalogue.overwrite? handle action).toList ++ next.1.overwrites handle actions next.2

variable {entry : Attribute}

/-- An attribute that was there before a list of actions holds the last value that was written into
it, or else the one that it held. -/
theorem run_contents (orderly : catalogue.database.Orderly) (actions : List (Action B A))
    (env : Environment B A)
    (member : entry ∈ (catalogue.run actions env).1.database.attributes)
    (given : entry.handle.toNat < catalogue.database.nextHandle) :
    ∃ old ∈ catalogue.database.attributes, entry.content = { old with
      value := ((catalogue.overwrites entry.handle actions env).getLast?).getD
        old.value }.content := by
  induction actions generalizing catalogue env with
  | nil => exact ⟨entry, member, rfl⟩
  | cons action actions ih =>
    have changes := perform_changes orderly action env
    have grows := Database.Changes.nextHandle_le changes
    obtain ⟨middle, between, same⟩ :=
      ih (changes.orderly orderly) _ member (Nat.lt_of_lt_of_le given grows)
    have handles : entry.handle = middle.handle := congrArg Prod.fst same
    obtain ⟨old, there, before⟩ := perform_contents orderly action env between (handles ▸ given)
    refine ⟨old, there, ?_⟩
    rw [← handles] at before
    simp only [Attribute.content, Prod.mk.injEq] at before
    obtain ⟨handle, type, permissions, value⟩ := before
    rw [overwrites, same, List.getLast?_append, Option.getD_or]
    simp only [Attribute.content, handle, type, permissions, value]
    cases catalogue.overwrite? entry.handle action <;> rfl

/-- The attribute with a handle, if it is there, is the one by which something is declared. -/
def Stands (handle : Handle) (declaration : Declaration) (database : Database) : Prop :=
  ∀ entry ∈ database.attributes, entry.handle = handle →
    entry.content = (declaration.attributeAt handle).content

/-- A declaration that stands is not written again as long as no update is made under its key. -/
theorem overwrites_eq_nil (orderly : catalogue.database.Orderly) {handle : Handle}
    {declaration : Declaration} (stands : Stands handle declaration catalogue.database)
    (given : handle.toNat < catalogue.database.nextHandle) (actions : List (Action B A))
    (env : Environment B A)
    (unaddressed : ∀ uuid ∈ catalogue.addresses actions env, ¬declaration.key ≈ uuid) :
    catalogue.overwrites handle actions env = [] := by
  induction actions generalizing catalogue env with
  | nil => rfl
  | cons action actions ih =>
    have here : catalogue.overwrite? handle action = none := by
      cases update : catalogue.update? action with
      | none => rw [overwrite?, update, Option.bind_none]
      | some changed =>
        obtain ⟨uuid, value⟩ := changed
        have foreign : ¬declaration.key ≈ uuid :=
          unaddressed uuid (List.mem_append_left _ (by simp [update]))
        rw [overwrite?, update, Option.bind_some, Database.overwrite?]
        cases found : catalogue.database.findUuid? uuid with
        | none => rfl
        | some entry =>
          refine if_neg fun same => foreign ?_
          obtain ⟨member, isFound⟩ := Database.mem_of_findUuid? found
          have content := stands entry member same
          subst same
          have type := congrArg (fun content => content.2.1) content
          have value := congrArg (fun content => content.2.2.2) content
          exact (Attribute.isFoundUnder_iff_key type value uuid).mp isFound
    have changes := perform_changes orderly action env
    have grows := Database.Changes.nextHandle_le changes
    have still : Stands handle declaration (catalogue.perform action env).1.database := by
      rintro entry member rfl
      obtain ⟨old, there, same⟩ := perform_contents orderly action env member given
      rw [here] at same
      have handles : entry.handle = old.handle := congrArg Prod.fst same
      exact same.trans (stands old there handles.symm)
    rw [overwrites, here, ih (changes.orderly orderly) still (Nat.lt_of_lt_of_le given grows) _
      fun uuid later => unaddressed uuid (List.mem_append_right _ later)]
    rfl

/-- In every run, what is constant among the attributes that an action created is what the action
declares under its handle, and reads as that. From then on, as long as it is there, it has its type
and stays constant, and its value is the last one that an update wrote into it, or else the one with
which it was created. If no update was made under the key of the declaration, it is the latter, and
the attribute still reads as what was declared. -/
theorem run_declaration {first : Handle} {announces : Bool} {earlier : List (Action B A)}
    {action : Action B A} {before made : Catalogue} {start began acted : Environment B A}
    {original : Attribute} (ran : (fresh first announces).run earlier start = (before, began))
    (performed : before.perform action began = (made, acted))
    (created : original ∈ made.database.attributes)
    (new : before.database.nextHandle ≤ original.handle.toNat)
    (constant : original.permissions = none) :
    ∃ declaration, before.declared? action original.handle = some declaration ∧
      original.content = (declaration.attributeAt original.handle).content ∧
      original.Declares declaration ∧
      ∀ (later : List (Action B A)) (last : Catalogue) (final : Environment B A),
        made.run later acted = (last, final) →
        ∀ entry ∈ last.database.attributes, entry.handle = original.handle →
          entry.type = original.type ∧ entry.permissions = none ∧
          entry.value = ((made.overwrites original.handle later acted).getLast?).getD
            original.value ∧
          ((∀ uuid ∈ made.addresses later acted, ¬declaration.key ≈ uuid) →
            entry.value = original.value ∧ entry.Declares declaration) := by
  have orderly := (run_fresh_recorded ran).1.orderly
  have changes := perform_changes orderly action began
  rw [performed] at changes
  have ordered : made.database.Orderly := changes.orderly orderly
  obtain ⟨declaration, known, declared⟩ :=
    perform_declares orderly action began (by rwa [performed]) new constant
  have content := declared
  simp only [Attribute.content, Prod.mk.injEq] at content
  obtain ⟨-, type, -, value⟩ := content
  refine ⟨declaration, known, declared, Attribute.declares_of_bytes type value, ?_⟩
  intro later last final continued entry member named
  have ended : entry ∈ (made.run later acted).1.database.attributes := by rwa [continued]
  have given : original.handle.toNat < made.database.nextHandle := ordered.below original created
  obtain ⟨old, there, same⟩ := run_contents ordered later acted ended (named ▸ given)
  simp only [Attribute.content, Prod.mk.injEq] at same
  obtain ⟨handles, typed, permitted, held⟩ := same
  obtain rfl := ordered.ascending.eq_of_handle there created (handles.symm.trans named)
  rw [named] at held
  refine ⟨typed, permitted.trans constant, held, fun unaddressed => ?_⟩
  have stands : Stands old.handle declaration made.database := by
    intro other present same
    rwa [ordered.ascending.eq_of_handle present there same]
  rw [overwrites_eq_nil ordered stands given later acted unaddressed] at held
  refine ⟨held, Attribute.declares_of_bytes ?_ ?_⟩
  · rw [named, typed, type]
  · rw [named, held, value]
    rfl

/-- A client that publishes a value for the object of its service changes what the service is
declared as. The declarations of its characteristics are not concerned: the first of them reads as
it did. -/
theorem run_declaration_of_service_value :
    let service : PublishedObject :=
      { path := ⟨"/app", by decide⟩, interface := .service, uuid := some (.uuid16 0x180F) }
    let level : PublishedObject :=
      { path := ⟨"/app/c", by decide⟩, interface := .characteristic, uuid := some (.uuid16 0x2A19),
        flags := .named .read }
    let digital : PublishedObject :=
      { path := ⟨"/app/d", by decide⟩, interface := .characteristic, uuid := some (.uuid16 0x2A56),
        flags := .named .write }
    let earlier : List (Action Transport.PlainBus CountingServer) :=
      [.register ":1.7" "/app" ⟨1⟩, .publish ":1.7" service, .publish ":1.7" level,
        .publish ":1.7" digital]
    let before := ((fresh 1 true).run earlier countingEnvironment).1
    let made := before.perform (.clientReady ":1.7" "/app") countingEnvironment
    let last := (made.1.run [.valueChanged ":1.7" "/app" [1, 2]] made.2).1
    (made.1.database.findHandle? 1).bind Attribute.serviceUuid? = some (.uuid16 0x180F) ∧
      (last.database.findHandle? 1).bind Attribute.serviceUuid? = some (.uuid16 0x0201) ∧
      ∃ entry ∈ last.database.attributes, entry.handle = 2 ∧
        entry.Declares (.characteristic .read (.uuid16 0x2A19)) := by
  intro service level digital earlier before made last
  have ran : (fresh 1 true).run earlier countingEnvironment = (before, countingEnvironment) := rfl
  have performed : before.perform (.clientReady ":1.7" "/app") countingEnvironment =
      (made.1, made.2) := (Prod.eta _).symm
  have continued : made.1.run [.valueChanged ":1.7" "/app" [1, 2]] made.2 =
      (last, (made.1.run [.valueChanged ":1.7" "/app" [1, 2]] made.2).2) := (Prod.eta _).symm
  obtain ⟨original, found⟩ : ∃ original, made.1.database.attributes[1]? = some original :=
    Option.isSome_iff_exists.mp (by decide +kernel)
  obtain ⟨entry, stayed⟩ : ∃ entry, last.database.attributes[1]? = some entry :=
    Option.isSome_iff_exists.mp (by decide +kernel)
  have facts : (made.1.database.attributes[1]?).map (fun entry =>
      (entry.handle, entry.permissions)) = some (2, none) := by decide +kernel
  have place : (last.database.attributes[1]?).map Attribute.handle = some 2 := by decide +kernel
  rw [found, Option.map_some, Option.some.injEq, Prod.mk.injEq] at facts
  rw [stayed, Option.map_some, Option.some.injEq] at place
  obtain ⟨handle, constant⟩ := facts
  have member := List.mem_of_getElem? stayed
  refine ⟨by decide +kernel, by decide +kernel, entry, member, place, ?_⟩
  obtain ⟨declaration, known, -, -, stays⟩ := run_declaration ran performed
    (List.mem_of_getElem? found) (by rw [handle]; decide +kernel) constant
  have meant : before.declared?
      (.clientReady ":1.7" "/app" : Action Transport.PlainBus CountingServer) 2 =
        some (.characteristic .read (.uuid16 0x2A19)) := by
    decide +kernel
  rw [handle, meant] at known
  obtain rfl := Option.some.inj known
  obtain ⟨-, -, -, unaddressed⟩ :=
    stays _ last _ continued entry member (place.trans handle.symm)
  exact (unaddressed (by decide +kernel)).2

end Catalogue

end BluetoothHost
