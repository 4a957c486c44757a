import BluetoothHost.Proofs.Gatt.Catalogue

/-!
# Where a new value goes

A new value is addressed by a UUID and goes to the first attribute found under it, whatever that
attribute is. Nothing else in the database changes. A client addresses an object, which stands for
its UUID from then on. A peer that writes a value addresses it by a UUID too, and of the database
only the ready flag of the attribute changes, before the handler is asked.
-/

namespace BluetoothHost

variable {B A : Type}

namespace Database

variable {database : Database} {uuid : Uuid} {value : List UInt8}

/-- Everything that an update can do to a database. -/
inductive Updated (uuid : Uuid) (value : List UInt8) (before : Database) :
    Except Error Unit → Database → Prop
  /-- No attribute is found under the UUID. -/
  | missing (nowhere : before.findUuid? uuid = none) :
      Updated uuid value before (.error .doesNotExist) before
  /-- The value does not fit. -/
  | tooLong {entry : Attribute} (found : before.findUuid? uuid = some entry)
      (long : Bytes.ofList? Limits.attributeValue value = none) :
      Updated uuid value before (.error .noResources) before
  /-- The first attribute found has the value afterwards, and it may have become ready. -/
  | kept {front back : List Attribute} {entry : Attribute} {kept : AttributeValue} {ready : Bool}
      (found : before.findUuid? uuid = some entry)
      (attributes_eq : before.attributes = front ++ entry :: back)
      (fits : Bytes.ofList? Limits.attributeValue value = some kept)
      (stays : entry.notifyReady = true → ready = true) :
      Updated uuid value before (.ok ()) { before with
        attributes := front ++ { entry with value := kept, notifyReady := ready } :: back }

/-- What is found under a UUID is found under it. -/
theorem mem_of_findUuid? {entry : Attribute} (found : database.findUuid? uuid = some entry) :
    entry ∈ database.attributes ∧ entry.isFoundUnder uuid = true :=
  ⟨List.mem_of_find?_eq_some found,
    @List.find?_some _ (fun entry : Attribute => entry.isFoundUnder uuid) _ _ found⟩

/-- The first attribute found and its place belong together. -/
theorem split_of_findUuid? {entry : Attribute} {index : Nat}
    (found : database.findUuid? uuid = some entry)
    (place : database.positionOf? uuid = some index) :
    ∃ front back, database.attributes = front ++ entry :: back ∧
      (∀ other ∈ front, other.isFoundUnder uuid = false) ∧ front.length = index := by
  obtain ⟨isFound, front, back, attributes_eq, before⟩ := List.find?_eq_some_iff_append.mp found
  have first : ∀ other ∈ front, other.isFoundUnder uuid = false := by simpa using before
  refine ⟨front, back, attributes_eq, first, ?_⟩
  have none : front.findIdx? (fun entry => entry.isFoundUnder uuid) = none :=
    List.findIdx?_eq_none_iff.mpr first
  rw [positionOf?, attributes_eq, List.findIdx?_append, none] at place
  simpa [List.findIdx?_cons, isFound] using place

/-- What is found has a place. -/
theorem positionOf?_of_findUuid? {entry : Attribute}
    (found : database.findUuid? uuid = some entry) :
    ∃ index, database.positionOf? uuid = some index := by
  cases place : database.positionOf? uuid with
  | some index => exact ⟨index, rfl⟩
  | none =>
    obtain ⟨member, isFound⟩ := mem_of_findUuid? found
    have nowhere := List.findIdx?_eq_none_iff.mp place entry member
    cases nowhere.symm.trans isFound

/-- A database stays in order where an attribute changes in its place. -/
theorem Orderly.changed (orderly : database.Orderly) {front back : List Attribute}
    {entry changed : Attribute} (attributes_eq : database.attributes = front ++ entry :: back)
    (framed : changed.frame = entry.frame) :
    Orderly { database with attributes := front ++ changed :: back } := by
  have change : Change 0 database { database with attributes := front ++ changed :: back } :=
    .retouched (by simp [attributes_eq, framed]) (.inl rfl)
  exact change.orderly orderly

/-- The others are found as before. -/
theorem findHandle?_changed (orderly : database.Orderly) {front back : List Attribute}
    {entry changed : Attribute} (attributes_eq : database.attributes = front ++ entry :: back)
    (framed : changed.frame = entry.frame) {handle : Handle} (apart : entry.handle ≠ handle) :
    findHandle? { database with attributes := front ++ changed :: back } handle =
      database.findHandle? handle := by
  have ordered := orderly.changed attributes_eq framed
  refine Option.ext fun other => ?_
  rw [findHandle?_eq_some_iff ordered.ascending, findHandle?_eq_some_iff orderly.ascending,
    attributes_eq]
  refine and_congr_left fun same => ?_
  have now : other ≠ changed := by
    rintro rfl
    exact apart ((congrArg Prod.fst framed).symm.trans same)
  have before : other ≠ entry := by
    rintro rfl
    exact apart same
  simp [now, before]

/-- Making an attribute ready makes that attribute ready. -/
theorem setNotifyReady_split (orderly : database.Orderly) {front back : List Attribute}
    {entry : Attribute} (attributes_eq : database.attributes = front ++ entry :: back)
    (ready : Bool) :
    database.setNotifyReady entry.handle ready = (.ok (), { database with
      attributes := front ++ { entry with notifyReady := ready } :: back }) := by
  simp only [setNotifyReady, position?_split orderly.ascending attributes_eq]
  rw [modify_split attributes_eq]

/-- An update does one of these things. -/
theorem updateValue_updated [AttributeServer A] (orderly : database.Orderly) (uuid : Uuid)
    (value : List UInt8) (env : Environment B A) :
    Updated uuid value database (database.updateValue uuid value env).1
      (database.updateValue uuid value env).2.1 := by
  unfold updateValue
  cases found : database.findUuid? uuid with
  | none =>
    cases database.positionOf? uuid <;> exact .missing found
  | some entry =>
    obtain ⟨index, place⟩ := positionOf?_of_findUuid? found
    rw [place]
    dsimp only
    cases fits : Bytes.ofList? Limits.attributeValue value with
    | none => exact .tooLong found fits
    | some kept =>
      obtain ⟨front, back, attributes_eq, -, rfl⟩ := split_of_findUuid? found place
      have replaced := modify_split attributes_eq fun entry => { entry with value := kept }
      have plain : Updated uuid value database (.ok ()) { database with
          attributes := front ++ { entry with value := kept } :: back } :=
        .kept found attributes_eq fits id
      dsimp only
      rw [replaced]
      split
      · exact plain
      split
      · exact plain
      split
      · unfold push
        split
        · exact plain
        · -- The attribute is not ready yet and becomes so.
          have orderly : Orderly { database with
              attributes := front ++ { entry with value := kept } :: back } :=
            orderly.changed attributes_eq rfl
          have readied := setNotifyReady_split orderly rfl true
          dsimp only at readied
          rw [readied]
          exact .kept found attributes_eq fits fun _ => rfl
      · exact plain

/-- An attribute is the first one found under a UUID if it is found under it and none with a lower
handle is. -/
theorem findUuid?_eq_some_iff (orderly : database.Orderly) {own : Attribute}
    (member : own ∈ database.attributes) : database.findUuid? uuid = some own ↔
      own.isFoundUnder uuid = true ∧
        ∀ other ∈ database.attributes, other.handle < own.handle →
          other.isFoundUnder uuid = false := by
  have ascending := orderly.ascending
  constructor
  · intro found
    obtain ⟨isFound, front, back, attributes_eq, before⟩ :=
      List.find?_eq_some_iff_append.mp found
    refine ⟨isFound, fun other there lower => ?_⟩
    rw [attributes_eq] at there ascending
    obtain ⟨-, behind, -⟩ := List.pairwise_append.mp ascending
    rcases List.mem_append.mp there with first | rest
    · simpa using before other first
    · rcases List.mem_cons.mp rest with rfl | last
      · exact absurd lower (UInt16.lt_irrefl _)
      · have higher := (List.pairwise_cons.mp behind).1 other last
        exact absurd lower (UInt16.not_lt.mpr (UInt16.le_of_lt higher))
  · rintro ⟨isFound, before⟩
    obtain ⟨front, back, attributes_eq⟩ := List.append_of_mem member
    refine List.find?_eq_some_iff_append.mpr ⟨isFound, front, back, attributes_eq, ?_⟩
    intro other first
    rw [attributes_eq] at ascending
    have lower := (List.pairwise_append.mp ascending).2.2 other first own List.mem_cons_self
    simpa using before other (by simp [attributes_eq, first]) lower

/-- Everything that the write of a peer can do to a database and to what its handler acts on. -/
inductive Written {E : Type} (uuid : Uuid) (value : List UInt8) (handler : AttributeHandler E)
    (before : Database) (env : E) : Except Error Unit → Database → E → Prop
  /-- No attribute is found under the UUID. -/
  | missing (nowhere : before.findUuid? uuid = none) :
      Written uuid value handler before env (.error .doesNotExist) before env
  /-- Peers may not write the first attribute found. -/
  | unwritable {entry : Attribute} (found : before.findUuid? uuid = some entry)
      (closed : entry.permissions.any Permissions.write = false) :
      Written uuid value handler before env (.error .notSupported) before env
  /-- The first attribute found is no longer ready, and the handler answers. -/
  | asked {front back : List Attribute} {entry : Attribute} {outcome : Except Error Unit} {next : E}
      (found : before.findUuid? uuid = some entry)
      (attributes_eq : before.attributes = front ++ entry :: back)
      (first : ∀ other ∈ front, other.isFoundUnder uuid = false)
      (writable : entry.permissions.any Permissions.write = true)
      (answered : handler.write { entry with notifyReady := false } value env = (outcome, next)) :
      Written uuid value handler before env outcome { before with
        attributes := front ++ { entry with notifyReady := false } :: back } next

/-- A write does one of these things. -/
theorem write_written {E : Type} (database : Database) (uuid : Uuid) (value : List UInt8)
    (handler : AttributeHandler E) (env : E) :
    Written uuid value handler database env (database.write uuid value handler env).1
      (database.write uuid value handler env).2.1 (database.write uuid value handler env).2.2 := by
  unfold write
  cases found : database.findUuid? uuid with
  | none =>
    cases database.positionOf? uuid <;> exact .missing found
  | some entry =>
    obtain ⟨index, place⟩ := positionOf?_of_findUuid? found
    rw [place]
    dsimp only
    split
    · rename_i writable
      obtain ⟨front, back, attributes_eq, first, rfl⟩ := split_of_findUuid? found place
      rw [modify_split attributes_eq]
      exact .asked found attributes_eq first writable rfl
    · rename_i closed
      exact .unwritable found (Bool.eq_false_iff.mpr closed)

section Server

variable [AttributeServer A]

/-- An attribute that is not the first one found stays as it is. -/
theorem updateValue_elsewhere (orderly : database.Orderly) (env : Environment B A)
    {handle : Handle} (apart : ∀ entry ∈ database.findUuid? uuid, entry.handle ≠ handle) :
    (database.updateValue uuid value env).2.1.findHandle? handle = database.findHandle? handle := by
  have updated := updateValue_updated orderly uuid value env
  generalize (database.updateValue uuid value env).1 = outcome at updated
  generalize (database.updateValue uuid value env).2.1 = after at updated ⊢
  cases updated with
  | missing => rfl
  | tooLong => rfl
  | @kept front back target kept ready found attributes_eq fits stays =>
    exact findHandle?_changed orderly attributes_eq (by rfl) (apart target found)

/-- After an update that went well, the first attribute found has the value. -/
theorem updateValue_here (orderly : database.Orderly) (env : Environment B A)
    (fine : (database.updateValue uuid value env).1 = .ok ()) :
    ∃ entry kept, database.findUuid? uuid = some entry ∧
      Bytes.ofList? Limits.attributeValue value = some kept ∧
      ((database.updateValue uuid value env).2.1.findHandle? entry.handle).map Attribute.value =
        some kept := by
  have updated := updateValue_updated orderly uuid value env
  have ordered := Changes.orderly (updateValue_changes 0 database uuid value env) orderly
  rw [fine] at updated
  generalize (database.updateValue uuid value env).2.1 = after at updated ordered ⊢
  cases updated with
  | @kept front back target kept ready found attributes_eq fits stays =>
    refine ⟨target, kept, found, fits, Option.map_eq_some_iff.mpr
      ⟨{ target with value := kept, notifyReady := ready }, ?_, rfl⟩⟩
    exact (findHandle?_eq_some_iff ordered.ascending).mpr ⟨by simp, rfl⟩

end Server

end Database

namespace Publications

variable {database : Database}

/-- The UUID under which a new value of an object goes to the database, once there is an attribute
for the object. -/
def addressed? (publications : Publications) (client path : String) : Option Uuid :=
  (publications.object? client path).bind fun object => object.linked.bind fun _ => object.uuid

/-- A new value of an object changes the database as an update under that UUID does. -/
theorem valueChanged_database [AttributeServer A] (orderly : database.Orderly)
    (publications : Publications) (client path : String) (value : List UInt8)
    (env : Environment B A) :
    (publications.valueChanged database client path value env).2.2.1 =
      match publications.addressed? client path with
      | none => database
      | some uuid => (database.updateValue uuid value env).2.1 := by
  unfold valueChanged addressed?
  cases publications.object? client path with
  | none => rfl
  | some object =>
    obtain ⟨_, _, uuid, _, _, linked⟩ := object
    cases linked with
    | none =>
      dsimp only
      cases Bytes.ofList? Limits.attributeValue value <;> rfl
    | some handle =>
      cases uuid with
      | none =>
        dsimp only
        cases Bytes.ofList? Limits.attributeValue value <;> rfl
      | some uuid =>
        cases long : Bytes.ofList? Limits.attributeValue value with
        | some kept => rfl
        | none =>
          -- The value does not fit the database either.
          have updated := Database.updateValue_updated orderly uuid value env
          show database = (database.updateValue uuid value env).2.1
          generalize (database.updateValue uuid value env).1 = outcome at updated
          generalize (database.updateValue uuid value env).2.1 = after at updated ⊢
          cases updated with
          | missing => rfl
          | tooLong => rfl
          | kept _ _ fits => cases long.symm.trans fits

/-- For an object that was built, a value that fits goes as well as the update of the database. -/
theorem valueChanged_outcome [AttributeServer A] {publications : Publications}
    {client path : String} {value : List UInt8} {object : PublishedObject} {handle : Handle}
    {uuid : Uuid} {kept : AttributeValue} {env : Environment B A}
    (known : publications.object? client path = some object)
    (built : object.linked = some handle) (named : object.uuid = some uuid)
    (fits : Bytes.ofList? Limits.attributeValue value = some kept) :
    (publications.valueChanged database client path value env).1 =
      (database.updateValue uuid value env).1 := by
  simp [valueChanged, known, built, named, fits]

end Publications

end BluetoothHost
