import BluetoothHost.Proofs.Gatt.Ranges
import BluetoothHost.Proofs.Gatt.Removal

/-!
# Blocks of attributes

The attributes of a service stand behind its declaration and in front of that of the next service.
Such a declaration has the type of primary services and no permissions; a characteristic value or a
descriptor that was added under that type has permissions and so begins no block, although a
removal, which goes by the type alone, stops in front of it. An attribute stays in the block of its
service until that service is removed, whatever happens to others.
-/

namespace BluetoothHost

namespace Attribute

variable {one other : Attribute}

/-- The attribute is the declaration of a primary service, with which a service was begun. -/
def IsDeclaration (entry : Attribute) : Prop :=
  entry.type = .primaryService ∧ entry.permissions = none

/-- Whether an attribute is a declaration can be computed. -/
instance (entry : Attribute) : Decidable entry.IsDeclaration :=
  inferInstanceAs (Decidable (entry.type = .primaryService ∧ entry.permissions = none))

/-- What stays of an attribute tells whether it is a declaration. -/
theorem isDeclaration_of_frame (same : one.frame = other.frame) (declares : one.IsDeclaration) :
    other.IsDeclaration := by
  have types : one.type = other.type := congrArg (fun frame => frame.2.1) same
  have permissions : one.permissions = other.permissions := congrArg (fun frame => frame.2.2) same
  exact ⟨types ▸ declares.1, permissions ▸ declares.2⟩

/-- Characteristics and descriptors begin no service. -/
theorem not_isDeclaration_characteristic (handle : Handle) (properties : CharacteristicProperties)
    (value : Handle) (uuid : Uuid) :
    ¬(characteristicDeclaration handle properties value uuid).IsDeclaration :=
  fun declares => nomatch declares.1

/-- What is served is none. -/
theorem not_isDeclaration_served (handle : Handle) (uuid : Uuid) (permissions : Permissions) :
    ¬(served handle uuid permissions).IsDeclaration :=
  fun declares => nomatch declares.2

end Attribute

namespace Database

variable {B A : Type} {database before middle after : Database} {service handle : Handle}
  {ledger more : List Creation}

/-- The declaration of a service has this handle. -/
def Begins (service : Handle) (database : Database) : Prop :=
  ∃ entry ∈ database.attributes, entry.handle = service ∧ entry.IsDeclaration

/-- A handle lies in the block of a service. -/
structure InBlock (service handle : Handle) (database : Database) : Prop where
  /-- The service is declared. -/
  declared : database.Begins service
  /-- Its declaration does not come behind the handle. -/
  behind : service ≤ handle
  /-- No declaration comes in between. -/
  nearest : ∀ entry ∈ database.attributes, entry.IsDeclaration → entry.handle ≤ handle →
    entry.handle ≤ service

/-! ### Declarations on record -/

/-- Every declaration is on record as that of a service. -/
def Declared (ledger : List Creation) (database : Database) : Prop :=
  ∀ entry ∈ database.attributes, entry.IsDeclaration → ⟨entry.handle, entry.handle⟩ ∈ ledger

/-- A declaration was there before a change, or it begins the service for which was added. -/
theorem Change.declaration (change : Change service before after) {entry : Attribute}
    (member : entry ∈ after.attributes) (declares : entry.IsDeclaration) :
    (∃ old ∈ before.attributes, old.frame = entry.frame) ∨
      entry.handle = service ∧ before.nextHandle ≤ service.toNat ∧
        service.toNat < after.nextHandle := by
  cases change with
  | retouched same kept => exact .inl (exists_of_frame same member)
  | begun next =>
    rcases List.mem_append.mp member with old | new
    · exact .inl ⟨entry, old, rfl⟩
    · rw [List.mem_singleton.mp new]
      exact .inr ⟨rfl, Nat.le_of_eq next.symm, by rw [next]; exact Nat.lt_succ_self _⟩
  | declared chain_eq isHead next room =>
    rcases List.mem_append.mp member with old | new
    · exact .inl ⟨entry, old, rfl⟩
    · rcases List.mem_pair.mp new with rfl | rfl
      · exact absurd declares (Attribute.not_isDeclaration_characteristic _ _ _ _)
      · exact absurd declares (Attribute.not_isDeclaration_served _ _ _)
  | described chain_eq isHead next =>
    rcases List.mem_append.mp member with old | new
    · exact .inl ⟨entry, old, rfl⟩
    · rw [List.mem_singleton.mp new] at declares
      exact absurd declares (Attribute.not_isDeclaration_served _ _ _)
  | removed stretch => exact .inl ⟨entry, stretch.sublist.subset member, rfl⟩

/-- So it is after any number of changes. -/
theorem Changes.declaration (changes : Changes service before after) {entry : Attribute}
    (member : entry ∈ after.attributes) (declares : entry.IsDeclaration) :
    (∃ old ∈ before.attributes, old.frame = entry.frame) ∨
      entry.handle = service ∧ before.nextHandle ≤ service.toNat ∧
        service.toNat < after.nextHandle := by
  induction changes generalizing entry with
  | refl => exact .inl ⟨entry, member, rfl⟩
  | tail earlier change ih =>
    have grows := Changes.nextHandle_le earlier
    have goes := change.nextHandle_le
    rcases change.declaration member declares with ⟨between, there, same⟩ | ⟨own, above, below⟩
    · have declared := Attribute.isDeclaration_of_frame same.symm declares
      rcases ih there declared with ⟨old, was, equal⟩ | ⟨own, above, below⟩
      · exact .inl ⟨old, was, equal.trans same⟩
      · have handles : between.handle = entry.handle := congrArg Prod.fst same
        exact .inr ⟨handles.symm.trans own, above, Nat.lt_of_lt_of_le below goes⟩
    · exact .inr ⟨own, Nat.le_trans grows above, below⟩

/-- Declarations stay on record. -/
theorem Declared.changes (declared : before.Declared ledger)
    (changes : Changes service before after)
    (counted : after.nextHandle ≤ Limits.lastHandle.toNat + 1) :
    after.Declared (ledger ++ creations service before after) := by
  intro entry member declares
  rcases Changes.declaration changes member declares with ⟨old, there, same⟩ | ⟨own, above, below⟩
  · have handles : old.handle = entry.handle := congrArg Prod.fst same
    have known := declared old there (Attribute.isDeclaration_of_frame same.symm declares)
    exact List.mem_append_left _ (handles ▸ known)
  · rw [own]
    exact List.mem_append_right _ ((mem_creations counted).mpr ⟨rfl, above, below⟩)

/-- An attribute whose handle is new was created for the service for which was added. -/
theorem Orderly.mem_creations (orderly : after.Orderly)
    (above : before.nextHandle ≤ handle.toNat) (holds : after.Holds handle) :
    ⟨service, handle⟩ ∈ creations service before after := by
  obtain ⟨entry, there, rfl⟩ := holds
  exact (Database.mem_creations orderly.counted).mpr ⟨rfl, above, orderly.below entry there⟩

/-- What was created for a service lies in its block. -/
theorem Recorded.inBlock (recorded : database.Recorded ledger) (declared : database.Declared ledger)
    (own : ⟨service, handle⟩ ∈ ledger) (begins : database.Begins service) :
    database.InBlock service handle where
  declared := begins
  behind := recorded.forward _ own
  nearest := by
    intro entry member declares le
    exact recorded.ordered _ (declared entry member declares) _ own le

/-! ### What stays -/

/-- An attribute with the same handle, type and permissions stands for another. -/
theorem holds_of_frame {entry other : Attribute} (still : other ∈ database.attributes)
    (same : other.frame = entry.frame) : database.Holds entry.handle :=
  ⟨other, still, congrArg Prod.fst same⟩

/-- A service begins wherever an attribute with the frame of a declaration still is. -/
theorem begins_of_frame {entry other : Attribute} (still : other ∈ database.attributes)
    (same : other.frame = entry.frame) (declares : entry.IsDeclaration) :
    database.Begins entry.handle :=
  ⟨other, still, congrArg Prod.fst same, Attribute.isDeclaration_of_frame same.symm declares⟩

/-- Every attribute is still there, with the type and the permissions that it had. -/
def Extends (before after : Database) : Prop :=
  ∀ entry ∈ before.attributes, ∃ other ∈ after.attributes, other.frame = entry.frame

/-- Where nothing happens everything stays. -/
theorem Extends.refl (database : Database) : Extends database database :=
  fun entry member => ⟨entry, member, rfl⟩

/-- What stays twice stays. -/
theorem Extends.trans (first : Extends before middle) (second : Extends middle after) :
    Extends before after := by
  intro entry member
  obtain ⟨between, there, same⟩ := first entry member
  obtain ⟨other, stays, again⟩ := second between there
  exact ⟨other, stays, again.trans same⟩

/-- A handle that was there is still there. -/
theorem Extends.holds (stays : Extends before after) (holds : before.Holds handle) :
    after.Holds handle := by
  obtain ⟨entry, there, rfl⟩ := holds
  obtain ⟨other, still, same⟩ := stays entry there
  exact holds_of_frame still same

/-- Where a service began one still begins. -/
theorem Extends.begins (stays : Extends before after) (begins : before.Begins service) :
    after.Begins service := by
  obtain ⟨entry, there, rfl, declares⟩ := begins
  obtain ⟨other, still, same⟩ := stays entry there
  exact begins_of_frame still same declares

/-- Additions leave the others where they are. -/
theorem extends_append (database : Database) (added : List Attribute) (chain : List Node)
    (next : Nat) : Extends database { database with
      attributes := database.attributes ++ added, chain, nextHandle := next } :=
  fun entry member => ⟨entry, List.mem_append_left added member, rfl⟩

/-- Beginning a service does away with nothing. -/
theorem addService_extends (orderly : database.Orderly) (uuid : Uuid) :
    Extends database (database.addService uuid).2 := by
  rcases addService_eq orderly uuid with ⟨cause, refused⟩ | ⟨service, -, added⟩
  · rw [refused]
    exact .refl database
  · rw [added]
    exact extends_append database _ _ _

/-- Neither does adding a characteristic. -/
theorem addCharacteristic_extends (orderly : database.Orderly) (uuid : Uuid)
    (properties : CharacteristicProperties) (permissions : Permissions) :
    Extends database (database.addCharacteristic uuid properties permissions).2 := by
  rcases addCharacteristic_eq orderly uuid properties permissions with ⟨cause, refused⟩ |
    ⟨handle, -, -, -, -, added⟩
  · rw [refused]
    exact .refl database
  · rw [added]
    exact extends_append database _ _ _

/-- Nor does adding a descriptor. -/
theorem addDescriptor_extends (orderly : database.Orderly) (uuid : Uuid)
    (permissions : Permissions) :
    Extends database (database.addDescriptor uuid permissions).2 := by
  rcases addDescriptor_eq orderly uuid permissions with ⟨cause, refused⟩ | ⟨handle, -, -, -, added⟩
  · rw [refused]
    exact .refl database
  · rw [added]
    exact extends_append database _ _ _

/-- So do new values and ready flags. -/
theorem Touched.extends (touched : Touched before after) : Extends before after := by
  obtain ⟨attributes, rfl, same⟩ := touched
  intro entry member
  have among := List.mem_map_of_mem (f := Attribute.standing) member
  rw [← same] at among
  obtain ⟨other, there, equal⟩ := List.mem_map.mp among
  exact ⟨other, there, congrArg Prod.fst equal⟩

/-- So does a registration. -/
theorem materialize_extends [AttributeServer A] (database : Database) (env : Environment B A) :
    Extends database (database.materialize env).2.1 := by
  rcases database.materialize_database env with same | ⟨index, range, noted⟩
  · rw [same]
    exact .refl database
  · rw [noted]
    have framed := @map_modify _ Attribute.frame (fun entry => { entry with range := some range })
      (fun _ => rfl) database.attributes index
    exact fun entry member => exists_of_frame framed.symm member

/-- The attributes that are on record for a service are still there. -/
def Retains (ledger : List Creation) (service : Handle) (before after : Database) : Prop :=
  ∀ entry ∈ before.attributesOf ledger service,
    ∃ other ∈ after.attributes, other.frame = entry.frame

/-- Where all attributes stay those of a service stay. -/
theorem Extends.retains (stays : Extends before after) (ledger : List Creation)
    (service : Handle) : Retains ledger service before after :=
  fun entry member => stays entry (mem_attributesOf.mp member).1

/-- What is kept for a service twice is kept for it. -/
theorem Retains.trans (first : Retains ledger service before middle)
    (second : Retains more service middle after) (among : ledger ⊆ more) :
    Retains ledger service before after := by
  intro entry member
  obtain ⟨between, there, same⟩ := first entry member
  have handles : between.handle = entry.handle := congrArg Prod.fst same
  have known := among (mem_attributesOf.mp member).2
  obtain ⟨other, stays, again⟩ := second between (mem_attributesOf.mpr ⟨there, handles ▸ known⟩)
  exact ⟨other, stays, again.trans same⟩

/-- The handles of the service are still there. -/
theorem Retains.holds (retains : Retains ledger service before after)
    (own : ⟨service, handle⟩ ∈ ledger) (holds : before.Holds handle) : after.Holds handle := by
  obtain ⟨entry, there, rfl⟩ := holds
  obtain ⟨other, still, same⟩ := retains entry (mem_attributesOf.mpr ⟨there, own⟩)
  exact holds_of_frame still same

/-- The service still begins where it did. -/
theorem Retains.begins (retains : Retains ledger service before after)
    (own : ⟨service, service⟩ ∈ ledger) (begins : before.Begins service) :
    after.Begins service := by
  obtain ⟨entry, there, rfl, declares⟩ := begins
  obtain ⟨other, still, same⟩ := retains entry (mem_attributesOf.mpr ⟨there, own⟩)
  exact begins_of_frame still same declares

/-- Where the attributes of a service are the same, they stay. -/
theorem retains_of_attributesOf
    (same : after.attributesOf ledger service = before.attributesOf ledger service) :
    Retains ledger service before after := by
  intro entry member
  rw [← same] at member
  exact ⟨entry, (mem_attributesOf.mp member).1, rfl⟩

end Database

namespace Publications

variable {B A : Type} [AttributeServer A] {database : Database} {service : Handle}
  {ledger : List Creation} {records : List PublishedService}

/-- Taking down other services leaves the attributes of a service where they are. -/
theorem tearDownEach_retains (recorded : database.Recorded ledger)
    (built : ∀ record ∈ records, ∀ handle, record.service = some handle →
      ⟨handle, handle⟩ ∈ ledger)
    (own : ⟨service, service⟩ ∈ ledger)
    (others : ∀ record ∈ records, record.service ≠ some service) (env : Environment B A) :
    Database.Retains ledger service database (tearDownEach records database env).1 := by
  refine Database.retains_of_attributesOf ?_
  exact tearDownEach_attributesOf recorded built own
    (fun record member same => absurd same (others record member)) env

/-- So does taking down another one. -/
theorem tearDown_retains (recorded : database.Recorded ledger) {record : PublishedService}
    (built : ∀ handle, record.service = some handle → ⟨handle, handle⟩ ∈ ledger)
    (own : ⟨service, service⟩ ∈ ledger) (other : record.service ≠ some service)
    (env : Environment B A) :
    Database.Retains ledger service database (tearDown record database env).1 :=
  @tearDownEach_retains B A _ database service ledger [record] recorded
    (List.forall_mem_singleton.mpr built) own (List.forall_mem_singleton.mpr other) env

end Publications

end BluetoothHost
