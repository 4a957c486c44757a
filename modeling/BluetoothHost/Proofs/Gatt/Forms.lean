import BluetoothHost.Gatt.Database.Access
import BluetoothHost.Gatt.Database.Registration
import BluetoothHost.Proofs.Gatt.Room
import Mathlib.Data.List.Forall2
import Mathlib.Data.Option.Basic

/-!
# Attributes that differ in the forms of their UUIDs

A UUID can be written in a short form or in full. Two attributes agree if they are the same but for
the forms of their UUIDs: those of their types, and those that a declaration spells in its bytes.
What such attributes are asked for is answered alike, and where the attributes of two databases
agree, every look-up ends at the same place.
-/

namespace BluetoothHost

namespace Uuid

/-- Whether UUIDs are the same does not depend on their forms. -/
theorem equiv_congr {one other key same : Uuid} (alike : one ≈ other) (keys : key ≈ same) :
    one ≈ key ↔ other ≈ same := by
  constructor
  · intro equal
    exact (alike.symm.trans equal).trans keys
  · intro equal
    exact (alike.trans equal).trans keys.symm

/-- Options of UUIDs that are the same but for their forms. -/
abbrev Alike? : Option Uuid → Option Uuid → Prop := Option.Rel (· ≈ ·)

/-- The same UUID is the same whatever its form. -/
theorem alike?_refl (uuid : Option Uuid) : Alike? uuid uuid := by
  cases uuid with
  | none => exact .none
  | some uuid => exact .some (Setoid.refl uuid)

end Uuid

namespace Attribute

/-- The values of two declarations that differ in the form of the UUID that they spell. -/
inductive DeclareAlike (type : Uuid) : AttributeValue → AttributeValue → Prop
  /-- Both declare the same service. -/
  | service {one other : Uuid} (typed : type = .primaryService) (alike : one ≈ other) :
      DeclareAlike type (serviceValue one) (serviceValue other)
  /-- Both declare the same characteristic. -/
  | characteristic {one other : Uuid} {properties : CharacteristicProperties} {handle : Handle}
      (typed : type = .characteristic) (alike : one ≈ other) :
      DeclareAlike type (characteristicValue properties handle one)
        (characteristicValue properties handle other)

/-- Two attributes that are the same but for the forms of their UUIDs. Only declarations may have
different bytes. -/
structure Agrees (one other : Attribute) : Prop where
  /-- They have one handle. -/
  handle : one.handle = other.handle
  /-- They have one type. -/
  type : one.type ≈ other.type
  /-- They have one value or declare the same. -/
  value : one.value = other.value ∨
    one.permissions = none ∧ DeclareAlike one.type one.value other.value
  /-- They allow the same. -/
  permissions : one.permissions = other.permissions
  /-- They have one range on the server. -/
  range : one.range = other.range
  /-- Both are ready, or neither. -/
  notifyReady : one.notifyReady = other.notifyReady

variable {one other : Attribute}

/-- An attribute agrees with itself. -/
theorem Agrees.refl (entry : Attribute) : entry.Agrees entry :=
  ⟨rfl, Setoid.refl _, .inl rfl, rfl, rfl, rfl⟩

/-- Two declarations of one service agree. -/
theorem Agrees.serviceDeclaration (handle : Handle) {uuid same : Uuid} (alike : uuid ≈ same) :
    (serviceDeclaration handle uuid).Agrees (serviceDeclaration handle same) :=
  ⟨rfl, Setoid.refl _, .inr ⟨rfl, .service rfl alike⟩, rfl, rfl, rfl⟩

/-- Two declarations of one characteristic agree. -/
theorem Agrees.characteristicDeclaration (handle value : Handle)
    (properties : CharacteristicProperties) {uuid same : Uuid} (alike : uuid ≈ same) :
    (characteristicDeclaration handle properties value uuid).Agrees
      (characteristicDeclaration handle properties value same) :=
  ⟨rfl, Setoid.refl _, .inr ⟨rfl, .characteristic rfl alike⟩, rfl, rfl, rfl⟩

/-- So do two attributes of one type that are served. -/
theorem Agrees.served (handle : Handle) (permissions : Permissions) {uuid same : Uuid}
    (alike : uuid ≈ same) :
    (served handle uuid permissions).Agrees (served handle same permissions) :=
  ⟨rfl, alike, .inl rfl, rfl, rfl, rfl⟩

/-- Attributes that are served and agree differ in the form of their type at most. -/
theorem Agrees.eq_of_permissions (agree : one.Agrees other) {permissions : Permissions}
    (served : one.permissions = some permissions) :
    ∃ type, one.type ≈ type ∧ other = { one with type } := by
  obtain ⟨handle, alike, value, allowed, range, ready⟩ := agree
  have same : one.value = other.value := by
    rcases value with same | ⟨constant, -⟩
    · exact same
    · rw [served] at constant
      cases constant
  refine ⟨other.type, alike, ?_⟩
  cases one
  cases other
  dsimp only at handle same allowed range ready ⊢
  rw [handle, same, allowed, range, ready]

/-! ### What is read from attributes that agree -/

/-- Both have the type of service declarations, or neither. -/
theorem Agrees.isService (agree : one.Agrees other) : one.isService = other.isService := by
  have first := Uuid.equiv_congr agree.type (Setoid.refl Uuid.primaryService)
  have second := Uuid.equiv_congr agree.type (Setoid.refl Uuid.secondaryService)
  rw [Attribute.isService, Attribute.isService, decide_eq_decide.mpr first,
    decide_eq_decide.mpr second]

/-- Both have the type of characteristic declarations, or neither. -/
theorem Agrees.isCharacteristic (agree : one.Agrees other) :
    one.isCharacteristic = other.isCharacteristic := by
  have same := Uuid.equiv_congr agree.type (Setoid.refl Uuid.characteristic)
  rw [Attribute.isCharacteristic, Attribute.isCharacteristic, decide_eq_decide.mpr same]

/-- No attribute declares a service and a characteristic. -/
theorem isService_of_characteristic {entry : Attribute} (typed : entry.type = .characteristic) :
    entry.isService = false := by
  rw [isService, typed]
  decide

/-- Nor does one that declares a service declare a characteristic. -/
theorem isCharacteristic_of_service {entry : Attribute} (typed : entry.type = .primaryService) :
    entry.isCharacteristic = false := by
  rw [isCharacteristic, typed]
  decide

/-- They declare the same service, if any. -/
theorem Agrees.serviceUuid? (agree : one.Agrees other) :
    Uuid.Alike? one.serviceUuid? other.serviceUuid? := by
  unfold Attribute.serviceUuid?
  rw [← agree.isService]
  split
  · rename_i typed
    rcases agree.value with same | ⟨-, declared⟩
    · rw [same]
      exact Uuid.alike?_refl _
    · generalize one.value = value, other.value = changed at declared
      cases declared with
      | service named alike =>
        show Uuid.Alike? (Uuid.ofBytes? (Uuid.bytes _)) (Uuid.ofBytes? (Uuid.bytes _))
        rw [Uuid.ofBytes?_bytes, Uuid.ofBytes?_bytes]
        exact .some alike
      | characteristic named alike =>
        rw [isService_of_characteristic named] at typed
        cases typed
  · exact .none

/-- They declare a characteristic with the same properties, if any. -/
theorem Agrees.characteristicProperties? (agree : one.Agrees other) :
    one.characteristicProperties? = other.characteristicProperties? := by
  unfold Attribute.characteristicProperties?
  rw [← agree.isCharacteristic]
  split
  · rename_i typed
    rcases agree.value with same | ⟨-, declared⟩
    · rw [same]
    · generalize one.value = value, other.value = changed at declared
      cases declared with
      | service named alike =>
        rw [isCharacteristic_of_service named] at typed
        cases typed
      | characteristic named alike => rfl
  · rfl

/-- They declare the same characteristic, if any. -/
theorem Agrees.characteristicUuid? (agree : one.Agrees other) :
    Uuid.Alike? one.characteristicUuid? other.characteristicUuid? := by
  unfold Attribute.characteristicUuid?
  rw [← agree.isCharacteristic]
  split
  · rename_i typed
    rcases agree.value with same | ⟨-, declared⟩
    · rw [same]
      exact Uuid.alike?_refl _
    · generalize one.value = value, other.value = changed at declared
      cases declared with
      | service named alike =>
        rw [isCharacteristic_of_service named] at typed
        cases typed
      | characteristic named alike =>
        show Uuid.Alike? (Uuid.ofBytes? (Uuid.bytes _)) (Uuid.ofBytes? (Uuid.bytes _))
        rw [Uuid.ofBytes?_bytes, Uuid.ofBytes?_bytes]
        exact .some alike
  · exact .none

/-- They declare a service under the same UUIDs. -/
theorem Agrees.declaresService (agree : one.Agrees other) {uuid same : Uuid}
    (alike : uuid ≈ same) : one.declaresService uuid = other.declaresService same := by
  have declared := agree.serviceUuid?
  unfold Attribute.declaresService
  generalize one.serviceUuid? = first, other.serviceUuid? = second at declared
  cases declared with
  | none => rfl
  | some declared => exact decide_eq_decide.mpr (Uuid.equiv_congr declared alike)

/-- They are found under the same UUIDs. -/
theorem Agrees.isFoundUnder (agree : one.Agrees other) {uuid same : Uuid} (alike : uuid ≈ same) :
    one.isFoundUnder uuid = other.isFoundUnder same := by
  have typed := Uuid.equiv_congr agree.type (Setoid.refl Uuid.primaryService)
  unfold Attribute.isFoundUnder
  by_cases primary : one.type ≈ Uuid.primaryService
  · rw [if_pos primary, if_pos (typed.mp primary)]
    exact agree.declaresService alike
  · rw [if_neg primary, if_neg (mt typed.mpr primary)]
    exact decide_eq_decide.mpr (Uuid.equiv_congr agree.type alike)

end Attribute

/-! ### Lists of attributes that agree -/

namespace Database

variable {entries others : List Attribute}

/-- The attributes of two lists agree one by one. -/
abbrev AllAgree : List Attribute → List Attribute → Prop := List.Forall₂ Attribute.Agrees

/-- Attributes that agree or are missing on both sides. -/
abbrev Agree? : Option Attribute → Option Attribute → Prop := Option.Rel Attribute.Agrees

/-- At every place are attributes that agree. -/
theorem AllAgree.getElem? (agree : AllAgree entries others) (index : Nat) :
    Agree? entries[index]? others[index]? := by
  induction agree generalizing index with
  | nil => exact .none
  | cons here _ ih =>
    cases index with
    | zero => exact .some here
    | succ index => exact ih index

/-- A search looks at handles only. -/
theorem AllAgree.search (agree : AllAgree entries others) (handle : Handle) (steps : Nat) :
    search handle steps entries = search handle steps others := by
  induction steps generalizing entries others with
  | zero => rfl
  | succ steps ih =>
    have below := ih (List.forall₂_take (entries.length / 2) agree)
    have upper := List.forall₂_drop (entries.length / 2) agree
    unfold Database.search
    rw [← agree.length_eq]
    dsimp only
    generalize entries.drop (entries.length / 2) = first,
      others.drop (entries.length / 2) = second at upper
    cases upper with
    | nil => rfl
    | cons here above => simp only [here.handle, below, ih above]

/-- The first attributes that pass tests which cannot tell them apart agree. -/
theorem AllAgree.find? (agree : AllAgree entries others) {test same : Attribute → Bool}
    (alike : ∀ {one other : Attribute}, one.Agrees other → test one = same other) :
    Agree? (entries.find? test) (others.find? same) := by
  induction agree with
  | nil => exact .none
  | cons here _ ih =>
    rw [List.find?_cons, List.find?_cons, alike here]
    split
    · exact .some here
    · exact ih

/-- They stand at one place. -/
theorem AllAgree.findIdx? (agree : AllAgree entries others) {test same : Attribute → Bool}
    (alike : ∀ {one other : Attribute}, one.Agrees other → test one = same other) :
    entries.findIdx? test = others.findIdx? same := by
  induction agree with
  | nil => rfl
  | cons here _ ih => rw [List.findIdx?_cons, List.findIdx?_cons, alike here, ih]

/-- Changes that keep attributes in agreement do so in every list. -/
theorem AllAgree.modify (agree : AllAgree entries others) {change same : Attribute → Attribute}
    (alike : ∀ {one other : Attribute}, one.Agrees other → (change one).Agrees (same other))
    (index : Nat) : AllAgree (entries.modify index change) (others.modify index same) := by
  induction agree generalizing index with
  | nil => simp
  | cons here rest ih =>
    cases index with
    | zero => exact .cons (alike here) rest
    | succ index => exact .cons here (ih index)

/-- New attributes are placed alike. -/
theorem AllAgree.placed (agree : AllAgree entries others) {one other : Attribute}
    (new : one.Agrees other) : AllAgree (placed one entries) (placed other others) := by
  induction agree with
  | nil => exact .cons new .nil
  | @cons here there rest more alike agree ih =>
    by_cases lower : one.handle < here.handle
    · rw [placed_cons_of_lt lower, placed_cons_of_lt (new.handle ▸ alike.handle ▸ lower)]
      exact .cons new (.cons alike agree)
    · rw [placed_cons_of_not_lt lower,
        placed_cons_of_not_lt (new.handle ▸ alike.handle ▸ lower)]
      exact .cons alike ih

/-- What is left behind the next service declaration agrees. -/
theorem AllAgree.dropWhile (agree : AllAgree entries others) :
    AllAgree (entries.dropWhile fun entry => !entry.isService)
      (others.dropWhile fun entry => !entry.isService) := by
  induction agree with
  | nil => exact .nil
  | cons here rest ih =>
    rw [List.dropWhile_cons, List.dropWhile_cons, here.isService]
    split
    · exact ih
    · exact .cons here rest

/-- Two databases whose attributes agree, and that are the same otherwise. -/
structure Agrees (one other : Database) : Prop where
  /-- The attributes agree one by one. -/
  attributes : AllAgree one.attributes other.attributes
  /-- The same attributes are under construction. -/
  chain : one.chain = other.chain
  /-- The counters stand at one handle. -/
  nextHandle : one.nextHandle = other.nextHandle
  /-- Peers are told about changes of both, or of neither. -/
  announces : one.announces = other.announces

variable {one other : Database}

/-- A database agrees with itself. -/
theorem Agrees.refl (database : Database) : database.Agrees database :=
  ⟨List.forall₂_same.mpr fun entry _ => .refl entry, rfl, rfl, rfl⟩

/-- A handle has the same place in both. -/
theorem Agrees.position? (agree : one.Agrees other) (handle : Handle) :
    one.position? handle = other.position? handle := by
  rw [Database.position?, Database.position?, ← agree.attributes.length_eq]
  exact agree.attributes.search handle _

/-- Under one handle are attributes that agree, if any. -/
theorem Agrees.findHandle? (agree : one.Agrees other) (handle : Handle) :
    Agree? (one.findHandle? handle) (other.findHandle? handle) := by
  rw [Database.findHandle?, Database.findHandle?, ← agree.position? handle]
  cases one.position? handle with
  | none => exact .none
  | some index => exact agree.attributes.getElem? index

/-- There is the same room for more attributes. -/
theorem Agrees.accommodates_iff (agree : one.Agrees other) (count : Nat) :
    one.Accommodates count ↔ other.Accommodates count := by
  rw [Accommodates, Accommodates, size, size, agree.attributes.length_eq, agree.nextHandle]

/-- A service can be extended by as many. -/
theorem Agrees.extensible_iff (agree : one.Agrees other) (count : Nat) :
    one.Extensible count ↔ other.Extensible count := by
  rw [Extensible, Extensible, agree.chain, agree.accommodates_iff]

variable {uuid same : Uuid}

/-- Under one UUID the same place is found. -/
theorem Agrees.positionOf? (agree : one.Agrees other) (alike : uuid ≈ same) :
    one.positionOf? uuid = other.positionOf? same :=
  agree.attributes.findIdx? fun here => here.isFoundUnder alike

/-- There are attributes that agree, if any. -/
theorem Agrees.findUuid? (agree : one.Agrees other) (alike : uuid ≈ same) :
    Agree? (one.findUuid? uuid) (other.findUuid? same) :=
  agree.attributes.find? fun here => here.isFoundUnder alike

/-- The same service is registered under the UUID. -/
theorem Agrees.serviceRange? (agree : one.Agrees other) (alike : uuid ≈ same) :
    one.serviceRange? uuid = other.serviceRange? same := by
  have entries := agree.attributes
  unfold Database.serviceRange?
  generalize one.attributes = left, other.attributes = right at entries
  induction entries with
  | nil => rfl
  | cons here _ ih =>
    rw [List.filter_cons, List.filter_cons, here.declaresService alike]
    split
    · rw [List.findSome?_cons, List.findSome?_cons, here.range, ih]
    · exact ih

/-- Attributes at one place are changed alike. -/
theorem Agrees.modify (agree : one.Agrees other) (index : Nat)
    {change same : Attribute → Attribute}
    (alike : ∀ {one other : Attribute}, one.Agrees other → (change one).Agrees (same other)) :
    (one.modify index change).Agrees (other.modify index same) :=
  ⟨agree.attributes.modify alike index, agree.chain, agree.nextHandle, agree.announces⟩

end Database

end BluetoothHost
