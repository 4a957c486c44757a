import BluetoothHost.Gatt.Publication
import BluetoothHost.Proofs.Gatt.Room
import Mathlib.Data.List.TakeWhile
import Mathlib.Logic.Relation

/-!
# What can happen to the database

Every operation on the database makes a few changes to it, each of one of the kinds listed here:
attributes are touched up, a service is begun or extended, or everything from a service
declaration up to the next one goes. A change that adds attributes adds them for one service.
-/

namespace BluetoothHost

/-- What stays of an attribute as long as it is there. -/
def Attribute.frame (entry : Attribute) : Handle × Uuid × Option Permissions :=
  (entry.handle, entry.type, entry.permissions)

namespace Database

/-- What every operation keeps of the handles. -/
structure Orderly (database : Database) : Prop where
  /-- They ascend. -/
  ascending : Ascending database.attributes
  /-- All of them were given out. -/
  below : ∀ entry ∈ database.attributes, entry.handle.toNat < database.nextHandle
  /-- No more were given out than there are. -/
  counted : database.nextHandle ≤ Limits.lastHandle.toNat + 1

/-- Attributes with a stretch among them that begins with the type of service declarations and ends
in front of the next attribute with such a type. -/
structure Stretch (attributes front : List Attribute) (declaration : Attribute)
    (run rest : List Attribute) : Prop where
  /-- The stretch stands between the others. -/
  attributes_eq : attributes = front ++ declaration :: (run ++ rest)
  /-- It begins with such a type. -/
  isService : declaration.isService = true
  /-- What follows has other types. -/
  plain : ∀ entry ∈ run, entry.isService = false
  /-- The next attribute behind it has such a type. -/
  stops : ∀ entry ∈ rest.head?, entry.isService = true

/-- What can happen to a database at once. What is added is added for this service. -/
inductive Change (service : Handle) (before : Database) : Database → Prop
  /-- Values, ranges and ready flags change, or the chain is used up. -/
  | retouched {attributes : List Attribute} {chain : List Node}
      (same : attributes.map Attribute.frame = before.attributes.map Attribute.frame)
      (kept : chain = before.chain ∨ chain = []) :
      Change service before { before with attributes, chain }
  /-- A service is begun. -/
  | begun {uuid : Uuid} (next : service.toNat = before.nextHandle) :
      Change service before { before with
        attributes := before.attributes ++ [.serviceDeclaration service uuid]
        chain := [⟨service, .service⟩]
        nextHandle := before.nextHandle + 1 }
  /-- A characteristic is added to the service under construction. -/
  | declared {head : Node} {rest : List Node} {uuid : Uuid} {properties : CharacteristicProperties}
      {permissions : Permissions} {handle : Handle} (chain_eq : before.chain = head :: rest)
      (isHead : head.handle = service) (next : handle.toNat = before.nextHandle)
      (room : handle.toNat < Limits.lastHandle.toNat) :
      Change service before { before with
        attributes := before.attributes ++
          [.characteristicDeclaration handle properties (handle + 1) uuid,
            .served (handle + 1) uuid permissions]
        chain := before.chain ++ [⟨handle, .declaration⟩, ⟨handle + 1, .value⟩]
        nextHandle := before.nextHandle + 2 }
  /-- A descriptor is added to the service under construction. -/
  | described {head : Node} {rest : List Node} {uuid : Uuid} {permissions : Permissions}
      {handle : Handle} (chain_eq : before.chain = head :: rest) (isHead : head.handle = service)
      (next : handle.toNat = before.nextHandle) :
      Change service before { before with
        attributes := before.attributes ++ [.served handle uuid permissions]
        chain := before.chain ++ [⟨handle, .descriptor⟩]
        nextHandle := before.nextHandle + 1 }
  /-- A stretch goes. -/
  | removed {front run rest : List Attribute} {declaration : Attribute}
      (stretch : Stretch before.attributes front declaration run rest) :
      Change service before { before with
        attributes := front ++ rest
        chain := if before.chain.head?.any fun head => head.handle == declaration.handle then []
          else before.chain }

/-- Any number of changes, with all that is added added for this service. -/
abbrev Changes (service : Handle) : Database → Database → Prop :=
  Relation.ReflTransGen (Change service)

variable {B A : Type} {database before after : Database} {service : Handle}

/-- What remains without the stretch was there. -/
theorem Stretch.sublist {attributes front run rest : List Attribute} {declaration : Attribute}
    (stretch : Stretch attributes front declaration run rest) :
    (front ++ rest).Sublist attributes := by
  rw [stretch.attributes_eq]
  exact .append_left ((List.sublist_append_right run rest).cons declaration) front

/-! ### What every change keeps -/

/-- A database in which nothing was stored yet is orderly. -/
theorem orderly_fresh (first : Handle) (announces : Bool) :
    Orderly { nextHandle := first.toNat, announces } where
  ascending := .nil
  below := by simp
  counted := Nat.le_of_lt first.toNat_lt

/-- New attributes with ascending handles from the counter on keep a database orderly. -/
theorem Orderly.append (orderly : before.Orderly) {attributes : List Attribute} {next : Nat}
    (ascending : Ascending attributes)
    (fresh : ∀ entry ∈ attributes, before.nextHandle ≤ entry.handle.toNat)
    (below : ∀ entry ∈ attributes, entry.handle.toNat < next) (grows : before.nextHandle ≤ next)
    (counted : next ≤ Limits.lastHandle.toNat + 1) (chain : List Node) :
    Orderly { before with
      attributes := before.attributes ++ attributes, chain, nextHandle := next } where
  ascending := by
    refine List.pairwise_append.mpr ⟨orderly.ascending, ascending, fun old present new added => ?_⟩
    have given := orderly.below old present
    have later := fresh new added
    exact UInt16.lt_iff_toNat_lt.mpr (by omega)
  below := by
    intro entry member
    rcases List.mem_append.mp member with old | new
    · have given := orderly.below entry old
      exact Nat.lt_of_lt_of_le given grows
    · exact below entry new
  counted := counted

/-- Attributes that were touched up have the handles and types that they had. -/
theorem exists_of_frame {attributes others : List Attribute} {entry : Attribute}
    (same : attributes.map Attribute.frame = others.map Attribute.frame)
    (member : entry ∈ attributes) : ∃ other ∈ others, other.frame = entry.frame := by
  have framed : entry.frame ∈ others.map Attribute.frame := same ▸ List.mem_map_of_mem member
  exact List.mem_map.mp framed

/-- Touching up keeps the order. -/
theorem ascending_of_frame {attributes others : List Attribute}
    (same : attributes.map Attribute.frame = others.map Attribute.frame)
    (ascending : Ascending others) : Ascending attributes := by
  have framed : (others.map Attribute.frame).Pairwise fun lower higher => lower.1 < higher.1 :=
    List.pairwise_map.mpr ascending
  rwa [← same, List.pairwise_map] at framed

/-- Every change keeps a database orderly. -/
theorem Change.orderly (change : Change service before after) (orderly : before.Orderly) :
    after.Orderly := by
  cases change with
  | retouched same kept =>
    refine ⟨ascending_of_frame same orderly.ascending, fun entry member => ?_, orderly.counted⟩
    obtain ⟨old, present, framed⟩ := exists_of_frame same member
    have handles : old.handle = entry.handle := congrArg Prod.fst framed
    exact handles ▸ orderly.below old present
  | begun next =>
    have bound : service.toNat < 65536 := service.toNat_lt
    refine orderly.append (List.pairwise_singleton _ _) ?_ ?_ (by omega) ?_ _
    · simp [Attribute.serviceDeclaration, next]
    · simp [Attribute.serviceDeclaration, next]
    · show before.nextHandle + 1 ≤ 65536
      omega
  | @declared _ _ _ _ _ handle _ _ next room =>
    have successor := toNat_succ room
    have small : handle.toNat < 65535 := room
    refine orderly.append ?_ ?_ ?_ (by omega) ?_ _
    · exact List.pairwise_pair.mpr (lt_succ room)
    · simp [Attribute.characteristicDeclaration, Attribute.served, successor, next]
    · simp [Attribute.characteristicDeclaration, Attribute.served, successor, next]
    · show before.nextHandle + 2 ≤ 65536
      omega
  | @described _ _ _ _ handle _ _ next =>
    have bound : handle.toNat < 65536 := handle.toNat_lt
    refine orderly.append (List.pairwise_singleton _ _) ?_ ?_ (by omega) ?_ _
    · simp [Attribute.served, next]
    · simp [Attribute.served, next]
    · show before.nextHandle + 1 ≤ 65536
      omega
  | removed stretch =>
    have fewer := stretch.sublist
    exact ⟨orderly.ascending.sublist fewer, fun entry member =>
      orderly.below entry (fewer.subset member), orderly.counted⟩

/-- So do any number of changes. -/
theorem Changes.orderly (changes : Changes service before after) (orderly : before.Orderly) :
    after.Orderly := by
  induction changes with
  | refl => exact orderly
  | tail _ change ih => exact change.orderly ih

/-- The counter never goes back. -/
theorem Change.nextHandle_le (change : Change service before after) :
    before.nextHandle ≤ after.nextHandle := by
  cases change <;> simp

/-- Nor do any number of changes turn it back. -/
theorem Changes.nextHandle_le (changes : Changes service before after) :
    before.nextHandle ≤ after.nextHandle := by
  induction changes with
  | refl => exact Nat.le_refl _
  | tail _ change ih => exact Nat.le_trans ih change.nextHandle_le

/-- What has a handle that was given out before a change was there, with the same type. -/
theorem Change.old (change : Change service before after) {entry : Attribute}
    (member : entry ∈ after.attributes) (given : entry.handle.toNat < before.nextHandle) :
    ∃ other ∈ before.attributes, other.frame = entry.frame := by
  have appended : ∀ added : List Attribute,
      (∀ new ∈ added, before.nextHandle ≤ new.handle.toNat) →
      entry ∈ before.attributes ++ added →
      ∃ other ∈ before.attributes, other.frame = entry.frame := by
    intro added fresh among
    rcases List.mem_append.mp among with there | new
    · exact ⟨entry, there, rfl⟩
    · exact absurd given (Nat.not_lt.mpr (fresh entry new))
  cases change with
  | retouched same kept => exact exists_of_frame same member
  | begun next =>
    exact appended _ (by simp [Attribute.serviceDeclaration, next]) member
  | declared chain_eq isHead next room =>
    refine appended _ ?_ member
    simp [Attribute.characteristicDeclaration, Attribute.served, toNat_succ room, next]
  | described chain_eq isHead next =>
    exact appended _ (by simp [Attribute.served, next]) member
  | removed stretch => exact ⟨entry, stretch.sublist.subset member, rfl⟩

/-- After any number of changes, what has a handle that was given out before was there. -/
theorem Changes.old (changes : Changes service before after) {entry : Attribute}
    (member : entry ∈ after.attributes) (given : entry.handle.toNat < before.nextHandle) :
    ∃ other ∈ before.attributes, other.frame = entry.frame := by
  induction changes generalizing entry with
  | refl => exact ⟨entry, member, rfl⟩
  | tail earlier change ih =>
    have grows := Changes.nextHandle_le earlier
    obtain ⟨between, there, same⟩ := change.old member (Nat.lt_of_lt_of_le given grows)
    have handles : between.handle = entry.handle := congrArg Prod.fst same
    obtain ⟨other, was, again⟩ := ih there (handles ▸ given)
    exact ⟨other, was, again.trans same⟩

/-! ### Building -/

/-- The next handle is higher than all those of attributes. -/
theorem Orderly.fresh (orderly : database.Orderly) {handle : Handle}
    (next : handle.toNat = database.nextHandle) :
    ∀ entry ∈ database.attributes, entry.handle < handle := by
  intro entry member
  have given := orderly.below entry member
  exact UInt16.lt_iff_toNat_lt.mpr (by omega)

/-- Beginning a service is refused, or its declaration gets the next handle. -/
theorem addService_eq (orderly : database.Orderly) (uuid : Uuid) :
    (∃ cause, database.addService uuid = (.error cause, database)) ∨
      ∃ service : Handle, service.toNat = database.nextHandle ∧
        database.addService uuid = (.ok service, { database with
          attributes := database.attributes ++ [.serviceDeclaration service uuid]
          chain := [⟨service, .service⟩]
          nextHandle := database.nextHandle + 1 }) := by
  by_cases room : database.Accommodates 1
  · have added := addService_done room uuid
    have next := toNat_next room.2
    generalize UInt16.ofNat database.nextHandle = handle at added next
    rw [@placed_eq_append _ (.serviceDeclaration handle uuid) (orderly.fresh next)] at added
    exact .inr ⟨handle, next, added⟩
  · exact .inl ⟨_, addService_refused room uuid⟩

/-- In terms of changes, a service is begun. -/
theorem addService_cases (orderly : database.Orderly) (uuid : Uuid) :
    (∃ cause, database.addService uuid = (.error cause, database)) ∨
      ∃ service after, database.addService uuid = (.ok service, after) ∧
        Change service database after ∧ service.toNat = database.nextHandle ∧
        after.nextHandle = database.nextHandle + 1 ∧ after.chain = [⟨service, .service⟩] := by
  rcases addService_eq orderly uuid with ⟨cause, refused⟩ | ⟨service, next, added⟩
  · exact .inl ⟨cause, refused⟩
  · exact .inr ⟨service, _, added, .begun next, next, rfl, rfl⟩

/-- Beginning a service leaves a database in order. -/
theorem addService_orderly (orderly : database.Orderly) (uuid : Uuid) :
    (database.addService uuid).2.Orderly := by
  rcases addService_cases orderly uuid with ⟨cause, refused⟩ | ⟨service, after, added, change, -⟩
  · rw [refused]
    exact orderly
  · rw [added]
    exact change.orderly orderly

/-- Adding a characteristic is refused, or its declaration and its value get the next two
handles. -/
theorem addCharacteristic_eq (orderly : database.Orderly) (uuid : Uuid)
    (properties : CharacteristicProperties) (permissions : Permissions) :
    (∃ cause, database.addCharacteristic uuid properties permissions = (.error cause, database)) ∨
      ∃ handle : Handle, handle.toNat = database.nextHandle ∧
        handle.toNat < Limits.lastHandle.toNat ∧ database.chain ≠ [] ∧
        database.chain.length + 2 ≤ Limits.chain ∧
        database.addCharacteristic uuid properties permissions = (.ok (handle + 1), { database with
          attributes := database.attributes ++
            [.characteristicDeclaration handle properties (handle + 1) uuid,
              .served (handle + 1) uuid permissions]
          chain := database.chain ++ [⟨handle, .declaration⟩, ⟨handle + 1, .value⟩]
          nextHandle := database.nextHandle + 2 }) := by
  by_cases room : database.Extensible 2
  · have added := addCharacteristic_done uuid properties permissions room
    obtain ⟨building, listed, -, handles⟩ := room
    have next := toNat_next (Nat.le_of_succ_le handles)
    generalize UInt16.ofNat database.nextHandle = handle at added next
    have below : handle.toNat < Limits.lastHandle.toNat := by omega
    have higher := lt_succ below
    let declaration : Attribute := .characteristicDeclaration handle properties (handle + 1) uuid
    have behind : ∀ other ∈ database.attributes ++ [declaration], other.handle < handle + 1 := by
      intro other member
      rcases List.mem_append.mp member with old | new
      · exact UInt16.lt_trans (orderly.fresh next other old) higher
      · rw [List.mem_singleton.mp new]
        exact higher
    rw [@placed_eq_append _ declaration (orderly.fresh next),
      @placed_eq_append _ (.served (handle + 1) uuid permissions) behind, List.append_assoc,
      List.singleton_append] at added
    exact .inr ⟨handle, next, below, building, listed, added⟩
  · exact .inl ⟨_, addCharacteristic_refused uuid properties permissions room⟩

/-- In terms of changes, the characteristic is added for the service under construction. -/
theorem addCharacteristic_cases (orderly : database.Orderly) (uuid : Uuid)
    (properties : CharacteristicProperties) (permissions : Permissions) :
    (∃ cause, database.addCharacteristic uuid properties permissions = (.error cause, database)) ∨
      ∃ head rest value after,
        database.addCharacteristic uuid properties permissions = (.ok value, after) ∧
        database.chain = head :: rest ∧ Change head.handle database after ∧
        ∃ further, after.chain = head :: further := by
  rcases addCharacteristic_eq orderly uuid properties permissions with ⟨cause, refused⟩ |
    ⟨handle, next, room, building, -, added⟩
  · exact .inl ⟨cause, refused⟩
  · obtain ⟨head, rest, chain_eq⟩ := List.exists_cons_of_ne_nil building
    exact .inr ⟨head, rest, _, _, added, chain_eq, .declared chain_eq rfl next room, _,
      congrArg (· ++ _) chain_eq⟩

/-- Adding a characteristic leaves a database in order. -/
theorem addCharacteristic_orderly (orderly : database.Orderly) (uuid : Uuid)
    (properties : CharacteristicProperties) (permissions : Permissions) :
    (database.addCharacteristic uuid properties permissions).2.Orderly := by
  rcases addCharacteristic_cases orderly uuid properties permissions with ⟨cause, refused⟩ |
    ⟨head, rest, value, after, added, -, change, -⟩
  · rw [refused]
    exact orderly
  · rw [added]
    exact change.orderly orderly

/-- Adding a descriptor is refused, or it gets the next handle. -/
theorem addDescriptor_eq (orderly : database.Orderly) (uuid : Uuid) (permissions : Permissions) :
    (∃ cause, database.addDescriptor uuid permissions = (.error cause, database)) ∨
      ∃ handle : Handle, handle.toNat = database.nextHandle ∧ database.chain ≠ [] ∧
        database.chain.length + 1 ≤ Limits.chain ∧
        database.addDescriptor uuid permissions = (.ok handle, { database with
          attributes := database.attributes ++ [.served handle uuid permissions]
          chain := database.chain ++ [⟨handle, .descriptor⟩]
          nextHandle := database.nextHandle + 1 }) := by
  by_cases room : database.Extensible 1
  · have added := addDescriptor_done room uuid permissions
    obtain ⟨building, listed, -, handles⟩ := room
    have next := toNat_next handles
    generalize UInt16.ofNat database.nextHandle = handle at added next
    rw [@placed_eq_append _ (.served handle uuid permissions) (orderly.fresh next)] at added
    exact .inr ⟨handle, next, building, listed, added⟩
  · exact .inl ⟨_, addDescriptor_refused room uuid permissions⟩

/-- In terms of changes, the descriptor is added for the service under construction. -/
theorem addDescriptor_cases (orderly : database.Orderly) (uuid : Uuid) (permissions : Permissions) :
    (∃ cause, database.addDescriptor uuid permissions = (.error cause, database)) ∨
      ∃ head rest handle after, database.addDescriptor uuid permissions = (.ok handle, after) ∧
        database.chain = head :: rest ∧ Change head.handle database after ∧
        ∃ further, after.chain = head :: further := by
  rcases addDescriptor_eq orderly uuid permissions with ⟨cause, refused⟩ |
    ⟨handle, next, building, -, added⟩
  · exact .inl ⟨cause, refused⟩
  · obtain ⟨head, rest, chain_eq⟩ := List.exists_cons_of_ne_nil building
    exact .inr ⟨head, rest, _, _, added, chain_eq, .described chain_eq rfl next, _,
      congrArg (· ++ _) chain_eq⟩

/-! ### Touching up -/

/-- What a change of one attribute keeps is kept of all of them. -/
theorem map_modify {α : Type} {observe : Attribute → α} {change : Attribute → Attribute}
    (kept : ∀ entry, observe (change entry) = observe entry) (attributes : List Attribute)
    (index : Nat) : (attributes.modify index change).map observe = attributes.map observe := by
  induction attributes generalizing index with
  | nil => simp
  | cons entry rest ih =>
    cases index with
    | zero => simp [kept]
    | succ index => simp [ih]

/-- Nothing is touched. -/
theorem Change.refl (service : Handle) (database : Database) : Change service database database :=
  .retouched rfl (.inl rfl)

/-- One attribute is touched up. -/
theorem modify_change (service : Handle) (database : Database) (index : Nat)
    {change : Attribute → Attribute} (kept : ∀ entry, (change entry).frame = entry.frame) :
    Change service database (database.modify index change) :=
  .retouched (map_modify kept _ _) (.inl rfl)

/-- Setting a ready flag touches one attribute up. -/
theorem setNotifyReady_change (service : Handle) (database : Database) (handle : Handle)
    (ready : Bool) : Change service database (database.setNotifyReady handle ready).2 := by
  unfold setNotifyReady
  split
  · exact .refl service database
  · exact modify_change service database _ fun _ => rfl

/-- So does a write that is allowed; any other does nothing. -/
theorem write_change {E : Type} (service : Handle) (database : Database) (uuid : Uuid)
    (value : List UInt8) (handler : AttributeHandler E) (env : E) :
    Change service database (database.write uuid value handler env).2.1 := by
  unfold write
  split
  · split
    · exact modify_change service database _ fun _ => rfl
    · exact .refl service database
  · exact .refl service database

section Server

variable [AttributeServer A]

/-- An update puts a value into an attribute and may then set its ready flag. -/
theorem updateValue_changes (service : Handle) (database : Database) (uuid : Uuid)
    (value : List UInt8) (env : Environment B A) :
    Changes service database (database.updateValue uuid value env).2.1 := by
  unfold updateValue
  split
  · rename_i index entry _ _
    split
    · exact .refl
    · rename_i kept _
      have replaced : Change service database
          (database.modify index fun entry => { entry with value := kept }) :=
        modify_change service database index fun _ => rfl
      dsimp only
      split
      · exact .single replaced
      split
      · exact .single replaced
      split
      · unfold push
        split
        · exact .single replaced
        · exact .tail (.single replaced) (setNotifyReady_change service _ _ _)
      · exact .single replaced
  · exact .refl

/-- A registration uses up the chain, and it may note a range at one attribute. -/
theorem materialize_database (database : Database) (env : Environment B A) :
    (database.materialize env).2.1 = { database with chain := [] } ∨
      ∃ (index : Nat) (range : HandleRange), (database.materialize env).2.1 =
        { database with chain := [] }.modify index fun entry =>
          { entry with range := some range } := by
  unfold materialize
  dsimp only
  split
  · exact .inl rfl
  · split
    · split
      · unfold rememberRange
        split
        · exact .inl rfl
        · exact .inr ⟨_, _, rfl⟩
      all_goals exact .inl rfl
    · exact .inl rfl

/-- Registering is a change, with or without a range to note. -/
theorem materialize_change (service : Handle) (database : Database) (env : Environment B A) :
    Change service database (database.materialize env).2.1 := by
  rcases database.materialize_database env with same | ⟨index, range, noted⟩
  · rw [same]
    exact .retouched rfl (.inr rfl)
  · rw [noted]
    exact .retouched (map_modify (by intro; rfl) _ _) (.inr rfl)

/-! ### Removing a service -/

/-- The neighbours after the range of a service was dropped, if it had one. -/
def dropRange (database : Database) (range : Option HandleRange) (env : Environment B A) :
    Environment B A :=
  match range with
  | none => env
  | some range => database.announce range (env.removeRange range)

/-- A removal is refused, or the stretch that begins with the attribute goes and its range is
dropped. -/
theorem removeService_eq (database : Database) (service : Handle) (env : Environment B A) :
    (∃ cause, database.removeService service env = (.error cause, database, env)) ∨
      ∃ front declaration run rest, Stretch database.attributes front declaration run rest ∧
        declaration.handle = service ∧
        database.removeService service env = (.ok (), { database with
          attributes := front ++ rest
          chain := if database.chain.head?.any fun head => head.handle == declaration.handle then []
            else database.chain }, database.dropRange declaration.range env) := by
  unfold removeService
  cases found : database.position? service with
  | none => exact .inl ⟨_, rfl⟩
  | some index =>
    obtain ⟨declaration, above, behind, rfl⟩ := split_of_position? found
    simp only [behind]
    split
    · rename_i isService
      refine .inr ⟨database.attributes.take index, declaration,
        above.takeWhile fun entry => !entry.isService, _, ⟨?_, isService, ?_, ?_⟩, rfl, rfl⟩
      · rw [List.takeWhile_append_dropWhile, ← behind, List.take_append_drop]
      · intro entry member
        simpa using List.mem_takeWhile_imp member
      · intro entry first
        have stopped := List.head?_dropWhile_not (fun entry => !entry.isService) above
        rw [first] at stopped
        simpa using stopped
    · exact .inl ⟨_, rfl⟩

/-- Whatever the neighbours do, that is all that happens to the database. -/
theorem removeService_cases (database : Database) (service : Handle) (env : Environment B A) :
    (∃ cause, database.removeService service env = (.error cause, database, env)) ∨
      ∃ front declaration run rest, Stretch database.attributes front declaration run rest ∧
        declaration.handle = service ∧ (database.removeService service env).1 = .ok () ∧
        (database.removeService service env).2.1 = { database with
          attributes := front ++ rest
          chain := if database.chain.head?.any fun head => head.handle == declaration.handle then []
            else database.chain } := by
  rcases database.removeService_eq service env with refused |
    ⟨front, declaration, run, rest, stretch, named, gone⟩
  · exact .inl refused
  · rw [gone]
    exact .inr ⟨front, declaration, run, rest, stretch, named, rfl, rfl⟩

/-- Removing a service takes a stretch away, or does nothing. -/
theorem removeService_change (service : Handle) (database : Database) (handle : Handle)
    (env : Environment B A) :
    Change service database (database.removeService handle env).2.1 := by
  rcases database.removeService_cases handle env with ⟨cause, refused⟩ |
    ⟨_, _, _, _, stretch, -, -, gone⟩
  · rw [refused]
    exact .refl service database
  · rw [gone]
    exact .removed stretch

/-- What has the type of service declarations can be removed. -/
theorem removeService_ok (orderly : database.Orderly) {entry : Attribute}
    (member : entry ∈ database.attributes) (isService : entry.isService = true)
    (env : Environment B A) : (database.removeService entry.handle env).1 = .ok () := by
  obtain ⟨index, found⟩ := Option.isSome_iff_exists.mp (position?_isSome orderly.ascending member)
  obtain ⟨first, above, behind, same⟩ := split_of_position? found
  have present : first ∈ database.attributes := List.mem_of_mem_drop (behind ▸ List.mem_cons_self)
  obtain rfl := orderly.ascending.eq_of_handle present member same
  unfold removeService
  simp only [found, behind, isService, if_true]

end Server

end Database

end BluetoothHost
