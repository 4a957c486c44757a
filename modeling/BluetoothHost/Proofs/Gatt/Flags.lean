import BluetoothHost.Proofs.Gatt.Abandonment
import BluetoothHost.Proofs.Gatt.Buildable

/-!
# Flags

A client names the properties of a characteristic by flags. They are read once, when the
characteristic is published, and come back in three places: in the properties and the permissions
with which the server is asked to register the characteristic, and in the number of handles that are
reserved. In between they are an octet, which is written into a declaration and read from it twice.
-/

namespace BluetoothHost

namespace CharacteristicProperties

/-- The flags and the properties that they name. -/
def flagTable : List (String × CharacteristicProperties) :=
  [("broadcast", broadcast), ("read", read), ("write-without-response", writeWithoutResponse),
    ("write", write), ("notify", notify), ("indicate", indicate),
    ("authenticated-signed-writes", signedWrite)]

/-- A client can publish these flags: there is one, and all are known. -/
def Usable (flags : List String) : Prop :=
  flags ≠ [] ∧ ∀ flag ∈ flags, flag ∈ flagTable.map Prod.fst

/-- Whether flags are usable can be computed. -/
instance (flags : List String) : Decidable (Usable flags) :=
  inferInstanceAs (Decidable (_ ∧ ∀ flag ∈ flags, _))

/-- The properties in any of these octets. -/
def union : List CharacteristicProperties → CharacteristicProperties :=
  List.foldr (fun own others => own ||| others) none

/-- The properties in the rows of a table whose flags are listed. -/
def pick (flags : List String) (table : List (String × CharacteristicProperties)) :
    CharacteristicProperties :=
  union ((table.filter fun row => row.1 ∈ flags).map Prod.snd)

/-- The properties whose flags are listed, in whichever order and however often. -/
def ofListed (flags : List String) : CharacteristicProperties := pick flags flagTable

variable {flags others : List String}

/-- Lists with the same flags name the same properties. -/
theorem ofListed_congr (same : ∀ flag, flag ∈ flags ↔ flag ∈ others) :
    ofListed flags = ofListed others := by
  simp only [ofListed, pick, same]

/-- A list with the same flags is as usable. -/
theorem usable_congr (same : ∀ flag, flag ∈ flags ↔ flag ∈ others) :
    Usable flags ↔ Usable others := by
  have known : (∀ flag ∈ flags, flag ∈ flagTable.map Prod.fst) ↔
      ∀ flag ∈ others, flag ∈ flagTable.map Prod.fst := forall_congr' fun flag => by rw [same]
  have some : flags ≠ [] ↔ others ≠ [] := by
    rw [ne_eq, ne_eq, List.eq_nil_iff_forall_not_mem, List.eq_nil_iff_forall_not_mem]
    exact not_congr (forall_congr' fun flag => not_congr (same flag))
  exact and_congr some known

/-! ### Octets -/

variable {mask property : CharacteristicProperties} {flag : String}

/-- In a union the order does not matter. -/
theorem or_left_comm (one other further : CharacteristicProperties) :
    one ||| (other ||| further) = other ||| (one ||| further) := by
  have bits : one.bits ||| (other.bits ||| further.bits) =
      other.bits ||| (one.bits ||| further.bits) := by
    rw [← UInt8.or_assoc, UInt8.or_comm one.bits, UInt8.or_assoc]
  exact congrArg mk bits

/-- Nor does it matter how often properties occur. -/
theorem or_or_self (one other : CharacteristicProperties) :
    one ||| (one ||| other) = one ||| other := by
  have bits : one.bits ||| (one.bits ||| other.bits) = one.bits ||| other.bits := by
    rw [← UInt8.or_assoc, UInt8.or_self]
  exact congrArg mk bits

/-- Octets together have what one of them has. -/
theorem intersects_or (one other mask : CharacteristicProperties) :
    (one ||| other).intersects mask = (one.intersects mask || other.intersects mask) := by
  have bits : (one.bits ||| other.bits) &&& mask.bits =
      (one.bits &&& mask.bits) ||| (other.bits &&& mask.bits) := by
    apply UInt8.toBitVec_inj.mp
    exact BitVec.and_or_distrib_right
  rw [Bool.eq_iff_iff, Bool.or_eq_true]
  show ((one.bits ||| other.bits) &&& mask.bits != 0) = true ↔ _
  rw [bits, bne_iff_ne, ne_eq, UInt8.or_eq_zero_iff, not_and_or]
  exact or_congr bne_iff_ne.symm bne_iff_ne.symm

/-- So do many. -/
theorem intersects_union (octets : List CharacteristicProperties)
    (mask : CharacteristicProperties) :
    (union octets).intersects mask = octets.any fun octet => octet.intersects mask := by
  induction octets with
  | nil =>
    show ((0 : UInt8) &&& mask.bits != 0) = false
    rw [UInt8.zero_and]
    rfl
  | cons octet octets ih =>
    rw [List.any_cons, ← ih]
    exact intersects_or octet _ mask

/-- What is listed has what one of the listed flags names. -/
theorem intersects_ofListed :
    (ofListed flags).intersects mask = true ↔
      ∃ row ∈ flagTable.filter (fun row => row.2.intersects mask), row.1 ∈ flags := by
  rw [ofListed, pick, intersects_union, List.any_map, List.any_eq_true]
  simp only [List.mem_filter, decide_eq_true_eq, Function.comp_apply]
  constructor
  · rintro ⟨row, ⟨known, listed⟩, shared⟩
    exact ⟨row, ⟨known, shared⟩, listed⟩
  · rintro ⟨row, ⟨known, shared⟩, listed⟩
    exact ⟨row, ⟨known, listed⟩, shared⟩

/-! ### Reading flags -/

/-- A flag is read off the table. -/
theorem ofFlag?_eq_lookup (flag : String) : ofFlag? flag = flagTable.lookup flag := by
  unfold ofFlag?
  split
  case h_8 broadcast read command write notify indicate signed =>
    refine (List.lookup_eq_none_iff.mpr ?_).symm
    simp only [flagTable, List.forall_mem_cons, bne_iff_ne]
    exact ⟨broadcast, read, command, write, notify, indicate, signed, nofun⟩
  all_goals rfl

/-- So it is known if it stands there. -/
theorem ofFlag?_isSome_iff : (ofFlag? flag).isSome = true ↔ flag ∈ flagTable.map Prod.fst := by
  rw [ofFlag?_eq_lookup, Option.isSome_iff_ne_none, ne_eq, List.lookup_eq_none_iff]
  simp [List.mem_map]

/-- A row counts if its flag is listed. -/
theorem pick_row (flags : List String) (name : String) (own : CharacteristicProperties)
    (table : List (String × CharacteristicProperties)) :
    pick flags ((name, own) :: table) =
      if name ∈ flags then own ||| pick flags table else pick flags table := by
  by_cases listed : name ∈ flags
  · simp [pick, union, listed]
  · simp [pick, listed]

/-- One more flag adds the property that it names. -/
theorem pick_cons {table : List (String × CharacteristicProperties)}
    (distinct : (table.map Prod.fst).Nodup) (known : table.lookup flag = some property)
    (flags : List String) : pick (flag :: flags) table = property ||| pick flags table := by
  induction table with
  | nil => cases known
  | cons row table ih =>
    obtain ⟨name, own⟩ := row
    obtain ⟨absent, others⟩ := List.nodup_cons.mp distinct
    rw [pick_row, pick_row]
    by_cases same : flag = name
    · subst same
      rw [List.lookup_cons_self] at known
      obtain rfl := Option.some.inj known
      -- No other row has the flag, so nothing else is added.
      have rest : pick (flag :: flags) table = pick flags table := by
        have kept : table.filter (fun row => decide (row.1 ∈ flag :: flags)) =
            table.filter fun row => decide (row.1 ∈ flags) := by
          refine List.filter_congr fun row member => ?_
          have apart : row.1 ≠ flag := fun same =>
            absent (List.mem_map.mpr ⟨row, member, same⟩)
          simp [apart]
        rw [pick, kept]
        rfl
      rw [if_pos List.mem_cons_self, rest]
      by_cases listed : flag ∈ flags
      · rw [if_pos listed, or_or_self]
      · rw [if_neg listed]
    · rw [List.lookup_cons, beq_false_of_ne same] at known
      have rest := ih others known
      by_cases listed : name ∈ flags
      · rw [if_pos (List.mem_cons_of_mem _ listed), if_pos listed, rest, or_left_comm]
      · have skipped : name ∉ flag :: flags := by simp [Ne.symm same, listed]
        rw [if_neg skipped, if_neg listed, rest]

/-- Flags that are all known name what is listed. -/
theorem union?_eq (flags : List String) :
    union? flags =
      if ∀ flag ∈ flags, flag ∈ flagTable.map Prod.fst then some (ofListed flags)
      else Option.none := by
  induction flags with
  | nil => decide
  | cons flag flags ih =>
    rw [union?, ih]
    by_cases known : flag ∈ flagTable.map Prod.fst
    · obtain ⟨property, named⟩ := Option.isSome_iff_exists.mp (ofFlag?_isSome_iff.mpr known)
      have picked := pick_cons (by decide) ((ofFlag?_eq_lookup flag).symm.trans named) flags
      rw [named]
      by_cases others : ∀ other ∈ flags, other ∈ flagTable.map Prod.fst
      · rw [if_pos others, if_pos (List.forall_mem_cons.mpr ⟨known, others⟩)]
        exact congrArg some picked.symm
      · rw [if_neg others, if_neg fun all => others (List.forall_mem_cons.mp all).2]
    · have unnamed : ofFlag? flag = Option.none :=
        Option.not_isSome_iff_eq_none.mp fun named => known (ofFlag?_isSome_iff.mp named)
      rw [unnamed, if_neg fun all => known (List.forall_mem_cons.mp all).1]

/-- Something is listed, if a flag is known. -/
theorem isEmpty_ofListed (known : flag ∈ flagTable.map Prod.fst) (listed : flag ∈ flags) :
    (ofListed flags).isEmpty = false := by
  obtain ⟨row, present, rfl⟩ := List.mem_map.mp known
  have shared : ∀ row ∈ flagTable, row.2.intersects ⟨0xFF⟩ = true := by decide
  have some : (ofListed flags).intersects ⟨0xFF⟩ = true :=
    intersects_ofListed.mpr ⟨row, List.mem_filter.mpr ⟨present, shared row present⟩, listed⟩
  refine Bool.eq_false_iff.mpr fun empty => ?_
  have none : (ofListed flags).bits = 0 := beq_iff_eq.mp empty
  rw [intersects, none, UInt8.zero_and] at some
  cases some

/-- A list of flags names what is listed if it is usable, and is refused otherwise. -/
theorem ofFlags?_eq (flags : List String) :
    ofFlags? flags = if Usable flags then some (ofListed flags) else Option.none := by
  rw [ofFlags?, union?_eq]
  by_cases known : ∀ flag ∈ flags, flag ∈ flagTable.map Prod.fst
  · rw [if_pos known]
    cases flags with
    | nil => decide
    | cons flag flags =>
      have listed : flag ∈ flag :: flags := List.mem_cons_self
      have some := isEmpty_ofListed (known flag listed) listed
      rw [if_pos ⟨List.cons_ne_nil _ _, known⟩]
      simp [some]
  · rw [if_neg known, if_neg fun usable => known usable.2]
    rfl

/-! ### What flags allow -/

/-- A property of one bit is contained in an octet as soon as the two share something. -/
theorem contains_read (properties : CharacteristicProperties) :
    properties.contains read = properties.intersects read := by
  have bits : ∀ bits : BitVec 8, (bits &&& 2 = 2) ↔ bits &&& 2 ≠ 0 := by decide +kernel
  rw [Bool.eq_iff_iff, contains, intersects, beq_iff_eq, bne_iff_ne, ← UInt8.toBitVec_inj, ne_eq,
    ← UInt8.toBitVec_inj]
  exact bits properties.bits.toBitVec

/-- Reading is allowed if its flag is listed. -/
theorem read_ofListed (flags : List String) :
    (Permissions.ofProperties (ofListed flags)).read = true ↔ "read" ∈ flags := by
  show (ofListed flags).contains read = true ↔ _
  have rows : flagTable.filter (fun row => row.2.intersects read) = [("read", read)] := by decide
  rw [contains_read, intersects_ofListed, rows]
  simp

/-- Writing is allowed if one of its flags is listed. -/
theorem write_ofListed (flags : List String) :
    (Permissions.ofProperties (ofListed flags)).write = true ↔
      "write" ∈ flags ∨ "write-without-response" ∈ flags := by
  show (ofListed flags).intersects (write ||| writeWithoutResponse) = true ↔ _
  have rows : flagTable.filter (fun row => row.2.intersects (write ||| writeWithoutResponse)) =
      [("write-without-response", writeWithoutResponse), ("write", write)] := by decide
  rw [intersects_ofListed, rows]
  simp [or_comm]

/-- Changes are sent to peers if one of the flags for it is listed. -/
theorem pushesUpdates_ofListed (flags : List String) :
    (ofListed flags).pushesUpdates = true ↔ "notify" ∈ flags ∨ "indicate" ∈ flags := by
  have rows : flagTable.filter (fun row => row.2.intersects (notify ||| indicate)) =
      [("notify", notify), ("indicate", indicate)] := by decide
  rw [pushesUpdates, intersects_ofListed, rows]
  simp

/-- What is allowed by listed flags: either kind of write counts. -/
def permissionsFor (flags : List String) : Permissions where
  read := "read" ∈ flags
  write := "write" ∈ flags ∨ "write-without-response" ∈ flags

/-- Lists with the same flags allow the same. -/
theorem permissionsFor_congr (same : ∀ flag, flag ∈ flags ↔ flag ∈ others) :
    permissionsFor flags = permissionsFor others := by
  simp only [permissionsFor, same]

/-- The properties that are listed allow what the flags allow. -/
theorem ofProperties_ofListed (flags : List String) :
    Permissions.ofProperties (ofListed flags) = permissionsFor flags := by
  have reading := (read_ofListed flags).trans decide_eq_true_iff.symm
  have writing := (write_ofListed flags).trans decide_eq_true_iff.symm
  exact congrArg₂ Permissions.mk (Bool.eq_iff_iff.mpr reading) (Bool.eq_iff_iff.mpr writing)

end CharacteristicProperties

open CharacteristicProperties (Usable ofListed permissionsFor)

namespace PublishedObject

variable {object : PublishedObject} {uuid : Uuid}

/-- The flags that count for a characteristic, whether some were published with it or none. -/
def countedFlags (published : Option (List String)) : List String :=
  published.getD ["read", "write", "write-without-response"]

/-- The object as it is published with a list of flags or without one. -/
def withPublished (object : PublishedObject) : Option (List String) → PublishedObject
  | none => { object with flags := .absent }
  | some flags => object.withFlags flags

/-- Other flags leave the interface of an object as it is. -/
@[simp] theorem withPublished_interface (object : PublishedObject)
    (published : Option (List String)) :
    (object.withPublished published).interface = object.interface := by
  cases published <;> rfl

/-- They leave its UUID as it is. -/
@[simp] theorem withPublished_uuid (object : PublishedObject) (published : Option (List String)) :
    (object.withPublished published).uuid = object.uuid := by
  cases published <;> rfl

/-- Usable flags name what is listed, and others nothing. -/
theorem withPublished_properties (object : PublishedObject) (published : Option (List String)) :
    (object.withPublished published).properties =
      if Usable (countedFlags published) then .ok (ofListed (countedFlags published))
      else .error .invalidArguments := by
  cases published with
  | none =>
    have usable : Usable ["read", "write", "write-without-response"] := by decide
    have listed : CharacteristicProperties.unflagged =
        ofListed ["read", "write", "write-without-response"] := by decide
    rw [countedFlags, Option.getD_none, if_pos usable, ← listed]
    rfl
  | some flags =>
    have named : (object.withPublished (some flags)).flags = .ofList flags := rfl
    rw [countedFlags, Option.getD_some, properties, named, PublishedFlags.ofList,
      CharacteristicProperties.ofFlags?_eq]
    by_cases usable : Usable flags
    · rw [if_pos usable, if_pos usable]
    · rw [if_neg usable, if_neg usable]

/-- So a characteristic stands for an element with what is listed, if its flags are usable. -/
theorem withPublished_element? (isCharacteristic : object.interface = .characteristic)
    (named : object.uuid = some uuid) (published : Option (List String)) :
    (object.withPublished published).element? =
      if Usable (countedFlags published) then
        some (.characteristic uuid (ofListed (countedFlags published))
          (permissionsFor (countedFlags published)))
      else none := by
  have properties := object.withPublished_properties published
  rw [element?, withPublished_interface, withPublished_uuid, isCharacteristic, named]
  by_cases usable : Usable (countedFlags published)
  · rw [if_pos usable] at properties ⊢
    rw [properties]
    dsimp only
    rw [CharacteristicProperties.ofProperties_ofListed]
  · rw [if_neg usable] at properties ⊢
    rw [properties]

end PublishedObject

/-! ### Services -/

open PublishedObject (countedFlags)

/-- The number of handles that objects take up on the server. -/
def handlesFor (objects : List PublishedObject) : Nat :=
  handlesNeeded (objects.filterMap PublishedObject.element?)

/-- It is what their elements need. -/
theorem handlesFor_eq {objects : List PublishedObject} {elements : List Element}
    (stands : objects.map PublishedObject.element? = elements.map some) :
    handlesFor objects = handlesNeeded elements := by
  have same := congrArg (List.filterMap id) stands
  rw [List.filterMap_map, List.filterMap_map, Function.id_comp, Function.id_comp,
    List.filterMap_some] at same
  rw [handlesFor, same]

/-- An object of a service takes up none. -/
theorem handlesFor_cons_service {object : PublishedObject} (isService : object.interface = .service)
    (rest : List PublishedObject) : handlesFor (object :: rest) = handlesFor rest := by
  have none : object.element? = none := by
    refine Option.not_isSome_iff_eq_none.mp fun some => ?_
    exact (PublishedObject.element?_isSome_iff.mp some).2.1 isService
  rw [handlesFor, List.filterMap_cons_none none]
  rfl

namespace PublishedService

variable {record other : PublishedService} {database : Database} {uuid : Uuid}
  {elements : List Element} {front back : List PublishedObject} {object : PublishedObject}
  {published : Option (List String)}

/-- A service that an obliging server registers. -/
structure Admissible (record : PublishedService) (database : Database) : Prop where
  /-- Its objects say what it is built of. -/
  describes : ∃ uuid elements, record.Describes uuid elements
  /-- No descriptor leads. -/
  follows : ¬record.LeadsWithDescriptor
  /-- There is room for it. -/
  fits : record.FitsInto database

/-- Whether a descriptor leads is a matter of interfaces. -/
theorem LeadsWithDescriptor.of_interfaces (leads : record.LeadsWithDescriptor)
    (same : record.objects.map PublishedObject.interface =
      other.objects.map PublishedObject.interface) : other.LeadsWithDescriptor := by
  obtain ⟨object, second, isDescriptor⟩ := leads
  have kind := congrArg (fun interfaces => interfaces[1]?) same
  rw [List.getElem?_map, List.getElem?_map, second] at kind
  obtain ⟨descriptor, there, alike⟩ := Option.map_eq_some_iff.mp kind.symm
  exact ⟨descriptor, there, alike.trans isDescriptor⟩

/-- So is whether it fits. -/
theorem FitsInto.of_interfaces (fits : record.FitsInto database)
    (same : record.objects.map PublishedObject.interface =
      other.objects.map PublishedObject.interface) : other.FitsInto database := by
  unfold FitsInto attributesFor at *
  rwa [← same]

/-- A service that is described but for the flags of a characteristic is described if they are
usable, by the same elements in front of it and behind it. -/
theorem Describes.withPublished
    (plain : Describes { record with objects := front ++ object.withPublished none :: back } uuid
      elements)
    (isCharacteristic : object.interface = .characteristic)
    (objects_eq : record.objects = front ++ object.withPublished published :: back) :
    ∃ own before behind, object.uuid = some own ∧ before.length + 1 = front.length ∧
      handlesFor front = handlesNeeded before ∧
      back.map PublishedObject.element? = behind.map some ∧
      (Usable (countedFlags published) → record.Describes uuid (before ++
        .characteristic own (ofListed (countedFlags published))
          (permissionsFor (countedFlags published)) :: behind)) := by
  obtain ⟨⟨head, first, isService, placed, named⟩, others⟩ := plain
  cases front with
  | nil =>
    -- The first object would be the characteristic.
    obtain rfl : object.withPublished none = head := Option.some.inj first
    cases isCharacteristic.symm.trans isService
  | cons service front =>
    obtain rfl : service = head := Option.some.inj first
    obtain ⟨before, rest, rfl, inFront, further⟩ := List.map_eq_append_iff.mp
      (others.symm.trans List.map_append)
    obtain ⟨element, behind, rfl, stands, inBack⟩ := List.map_eq_cons_iff.mp
      (further.trans List.map_cons)
    have known : (object.withPublished none).element?.isSome = true := by rw [← stands]; rfl
    have valid := (PublishedObject.element?_isSome_iff.mp known).1
    rw [PublishedObject.withPublished_uuid] at valid
    obtain ⟨own, uuid_eq⟩ := Option.isSome_iff_exists.mp valid
    have length := congrArg List.length inFront
    rw [List.length_map, List.length_map] at length
    refine ⟨own, before, behind, uuid_eq, congrArg (· + 1) length, ?_, inBack.symm, ?_⟩
    · rw [handlesFor_cons_service isService, handlesFor_eq inFront.symm]
    · intro usable
      have flagged := PublishedObject.withPublished_element? isCharacteristic uuid_eq published
      rw [if_pos usable] at flagged
      refine ⟨⟨service, ?_, isService, placed, named⟩, ?_⟩
      · rw [objects_eq]
        rfl
      · rw [objects_eq, List.cons_append, List.tail_cons, List.map_append, List.map_append,
          List.map_cons, List.map_cons, flagged, inFront, inBack]

/-- A service of which an object other than its first stands for no element cannot be built. -/
theorem build_refused (orderly : database.Orderly) (member : object ∈ record.objects.tail)
    (useless : object.element? = none) : ∃ cause, (record.build database).1 = .error cause := by
  have build := build_eq orderly record
  revert build
  cases record.build database with
  | mk outcome rest =>
    intro build
    cases build with
    | refused cause => exact ⟨cause, rfl⟩
    | abandoned cause => exact ⟨cause, rfl⟩
    | @completed head rest linked uuid service placements objects_eq isService named next built =>
      obtain ⟨-, all⟩ := built.linked linked rfl
      rw [objects_eq, List.tail_cons] at member
      have stands := List.mem_map_of_mem (f := PublishedObject.element?) member
      rw [all, useless] at stands
      obtain ⟨placement, -, same⟩ := List.mem_map.mp stands
      cases same

end PublishedService

namespace Registers

variable {start : Handle} {latest : Option Handle} {answers : List Handle} {calls : List Call}

/-- There is one call for each element. -/
theorem length_calls {elements : List Element}
    (registers : Registers start latest elements answers calls) :
    calls.length = elements.length := by
  induction registers with
  | done => rfl
  | characteristic others ih => exact congrArg (· + 1) ih
  | descriptor others ih => exact congrArg (· + 1) ih

/-- A characteristic among the elements is registered in its turn. -/
theorem characteristic_among {before behind : List Element} {uuid : Uuid}
    {properties : CharacteristicProperties} {permissions : Permissions}
    (registers : Registers start latest
      (before ++ .characteristic uuid properties permissions :: behind) answers calls) :
    ∃ earlier value further,
      calls = earlier ++
        .registerCharacteristic start uuid properties permissions (some value) :: further ∧
      earlier.length = before.length ∧ further.length = behind.length := by
  induction before generalizing latest answers calls with
  | nil =>
    cases registers with
    | @characteristic _ _ _ _ value _ _ further others =>
      exact ⟨[], value, further, rfl, rfl, others.length_calls⟩
  | cons element before ih =>
    cases registers with
    | characteristic others =>
      obtain ⟨earlier, value, further, rfl, length, rest⟩ := ih others
      exact ⟨_ :: earlier, value, further, rfl, congrArg (· + 1) length, rest⟩
    | descriptor others =>
      obtain ⟨earlier, value, further, rfl, length, rest⟩ := ih others
      exact ⟨_ :: earlier, value, further, rfl, congrArg (· + 1) length, rest⟩

end Registers

/-- The needs of a characteristic between other elements add up. -/
theorem handlesNeeded_among (before behind : List Element) (uuid : Uuid) (flags : List String)
    (permissions : Permissions) :
    handlesNeeded (before ++ .characteristic uuid (ofListed flags) permissions :: behind) =
      handlesNeeded before + (if "notify" ∈ flags ∨ "indicate" ∈ flags then 3 else 2) +
        handlesNeeded behind := by
  have own : (Element.characteristic uuid (ofListed flags) permissions).handlesNeeded =
      if "notify" ∈ flags ∨ "indicate" ∈ flags then 3 else 2 :=
    if_congr (CharacteristicProperties.pushesUpdates_ofListed flags) rfl rfl
  rw [← own, Nat.add_assoc]
  simp [handlesNeeded]

/-- The calls by which the elements of a service are registered under a size follow the flags of a
characteristic between other objects. -/
structure FollowsFlags (flags : List String) (front : List PublishedObject)
    (object : PublishedObject) (back : List PublishedObject) (start : Handle) (size : UInt16)
    (calls : List Call) : Prop where
  /-- It is registered in its turn with the properties and permissions that they list. -/
  registered : ∃ earlier uuid value further,
    calls = earlier ++ .registerCharacteristic start uuid (ofListed flags) (permissionsFor flags)
      (some value) :: further ∧
    object.uuid = some uuid ∧ earlier.length + 1 = front.length ∧ further.length = back.length
  /-- A handle more is reserved for it if they list a way in which changes are sent to peers. -/
  counted : size.toNat = 1 + handlesFor front +
    (if "notify" ∈ flags ∨ "indicate" ∈ flags then 3 else 2) + handlesFor back

section FollowsFlags

variable {flags others : List String} {front back : List PublishedObject}
  {object : PublishedObject} {start : Handle} {size : UInt16} {calls : List Call}

/-- Calls that follow flags follow any list of the same flags. -/
theorem FollowsFlags.congr (follows : FollowsFlags flags front object back start size calls)
    (same : ∀ flag, flag ∈ others ↔ flag ∈ flags) :
    FollowsFlags others front object back start size calls where
  registered := by
    rw [CharacteristicProperties.ofListed_congr same,
      CharacteristicProperties.permissionsFor_congr same]
    exact follows.registered
  counted := by
    simp only [same]
    exact follows.counted

/-- The calls for elements follow the flags by which one of them was made. -/
theorem Registers.followsFlags {before behind : List Element} {answers : List Handle} {uuid : Uuid}
    (registers : Registers start none
      (before ++ .characteristic uuid (ofListed flags) (permissionsFor flags) :: behind) answers
      calls)
    (named : object.uuid = some uuid) (places : before.length + 1 = front.length)
    (inFront : handlesFor front = handlesNeeded before)
    (inBack : back.map PublishedObject.element? = behind.map some)
    (total : size.toNat = 1 + handlesNeeded
      (before ++ .characteristic uuid (ofListed flags) (permissionsFor flags) :: behind)) :
    FollowsFlags flags front object back start size calls where
  registered := by
    obtain ⟨earlier, value, further, calls_eq, inEarlier, inFurther⟩ :=
      registers.characteristic_among
    have length := congrArg List.length inBack
    rw [List.length_map, List.length_map] at length
    exact ⟨earlier, uuid, value, further, calls_eq, named, by omega, by omega⟩
  counted := by
    rw [handlesNeeded_among] at total
    rw [inFront, handlesFor_eq inBack]
    omega

end FollowsFlags

namespace Catalogue

variable {B A : Type} [MessageBus B] [AttributeServer A] {first : Handle} {announces : Bool}
  {actions : List (Action B A)} {env later : Environment B A} {catalogue : Catalogue}

/-- Whatever happened before, let a service be in order but for the flags that were published for a
characteristic of it, if any were; if none were, reading and both kinds of writing count as listed.
When its client is ready, an empty list or an unknown flag has the whole registration refused, and
the server is asked for nothing. Otherwise an obliging server is asked to register the
characteristic with exactly the properties that are listed, in whichever order and however often,
with the permissions that follow, and under a size that leaves room for its configuration if it has
one. -/
theorem run_clientReady_flags
    (ran : (fresh first announces).run actions env = (catalogue, later)) (obliging : Obliging A)
    {client path : String} {record : PublishedService} {token : ReplyToken}
    (found : catalogue.publications.services.find?
      (PublishedService.isRegistration client path) = some record)
    (waits : record.registration = some token) {front back : List PublishedObject}
    {object : PublishedObject} {published : Option (List String)}
    (isCharacteristic : object.interface = .characteristic)
    (objects_eq : record.objects = front ++ object.withPublished published :: back)
    (valid : PublishedService.Admissible
      { record with objects := front ++ object.withPublished none :: back } catalogue.database)
    {listed : List String} (same : ∀ flag, flag ∈ listed ↔ flag ∈ countedFlags published)
    (now : Environment B A) :
    ∃ accepted after final last,
      catalogue.publications.clientReady catalogue.database client path now =
        (.ok (), after, final, last) ∧
      (¬Usable listed →
        now.Makes [.reply token (.error .invalidArguments) accepted] last ∧
          last.server = now.server) ∧
      (Usable listed → ∃ uuid size start calls range middle,
        now.Makes (.reply token .done accepted :: .registerService uuid size (some start) :: calls)
          middle ∧
        FollowsFlags listed front object back start size calls ∧
        middle.Makes (catalogue.database.announcements range middle.server) last) := by
  obtain ⟨⟨uuid, elements, plain⟩, follows, fits⟩ := valid
  obtain ⟨own, before, behind, named, places, inFront, inBack, described⟩ :=
    plain.withPublished isCharacteristic objects_eq
  have orderly := (run_fresh_recorded ran).database.orderly
  have usable_iff := CharacteristicProperties.usable_congr same
  by_cases usable : Usable (countedFlags published)
  · have interfaces : (front ++ object.withPublished none :: back).map PublishedObject.interface =
        record.objects.map PublishedObject.interface := by
      rw [objects_eq]
      simp
    obtain ⟨accepted, size, start, answers, calls, range, middle, after, final, last, readied, made,
      registers, total, announced⟩ :=
      Publications.clientReady_registers orderly obliging found waits (described usable)
        (fun leads => follows (leads.of_interfaces interfaces.symm)) (fits.of_interfaces interfaces)
        now
    have follow := (registers.followsFlags named places inFront inBack total).congr same
    exact ⟨accepted, after, final, last, readied,
      fun useless => absurd (usable_iff.mpr usable) useless,
      fun _ => ⟨uuid, size, start, calls, range, middle, made, follow, announced⟩⟩
  · have pristine : catalogue.publications.Pristine := by
      have none : (fresh first announces).publications.Pristine := nofun
      have kept := run_pristine none actions env
      rwa [ran] at kept
    have useless := PublishedObject.withPublished_element? isCharacteristic named published
    rw [if_neg usable] at useless
    have member : object.withPublished published ∈ record.objects.tail := by
      obtain ⟨service, rest, rfl⟩ := List.exists_cons_of_length_eq_add_one places.symm
      rw [objects_eq]
      exact List.mem_append_right rest List.mem_cons_self
    obtain ⟨cause, failed⟩ := @PublishedService.build_refused
      { record with registration := none } _ _ orderly member useless
    obtain ⟨final, readied, -⟩ :=
      Publications.clientReady_recovered orderly pristine found waits failed now
    exact ⟨_, _, final, _, readied,
      fun _ => ⟨now.sendReply_makes token (.error .invalidArguments), rfl⟩,
      fun useful => absurd (usable_iff.mp useful) usable⟩

/-- One client lists notification twice around reading, and its characteristic gets both and a third
handle. Another lists a flag that nobody knows, and the server is asked for nothing. -/
theorem run_clientReady_flags_of_notify :
    let service : PublishedObject :=
      { path := ⟨"/a", by decide⟩, interface := .service, uuid := some (.uuid16 0x180F) }
    let level : PublishedObject :=
      { path := ⟨"/a/c", by decide⟩, interface := .characteristic, uuid := some (.uuid16 0x2A19) }
    let actions (flags : List String) : List (Action Transport.PlainBus CountingServer) :=
      [.register ":1.7" "/a" ⟨1⟩, .publish ":1.7" service,
        .publish ":1.7" (level.withFlags flags)]
    let catalogue (flags : List String) := ((fresh 1 true).run (actions flags)
      countingEnvironment).1
    let ready (flags : List String) := (catalogue flags).publications.clientReady
      (catalogue flags).database ":1.7" "/a" countingEnvironment
    let call : Call := .registerCharacteristic 1 (.uuid16 0x2A19) (.read ||| .notify) ⟨true, false⟩
      (some 3)
    (ready ["notify", "read", "notify"]).2.2.2.journal.take 3 =
        [.reply ⟨1⟩ .done true, .registerService (.uuid16 0x180F) 4 (some 1), call] ∧
      FollowsFlags ["read", "notify"] [service] level [] 1 4 [call] ∧
      ∃ accepted, (ready ["read", "colour"]).2.2.2.journal =
        [.reply ⟨1⟩ (.error .invalidArguments) accepted] := by
  intro service level actions catalogue ready call
  let record (flags : List String) : PublishedService :=
    { owner := ⟨":1.7", by decide⟩, path := ⟨"/a", by decide⟩, registration := some ⟨1⟩
      objects := [service, level.withFlags flags] }
  have ran (flags : List String) : (fresh 1 true).run (actions flags) countingEnvironment =
      (catalogue flags, ((fresh 1 true).run (actions flags) countingEnvironment).2) :=
    (Prod.eta _).symm
  have valid (flags : List String) (fits : (record flags).FitsInto (catalogue flags).database) :
      PublishedService.Admissible
        { record flags with objects := [service] ++ level.withPublished none :: [] }
        (catalogue flags).database := by
    refine ⟨⟨.uuid16 0x180F, [_], ⟨⟨service, rfl, rfl, rfl, rfl⟩, rfl⟩⟩, ?_, fits⟩
    rintro ⟨object, second, kind⟩
    cases second
    cases kind
  have journal : (ready ["notify", "read", "notify"]).2.2.2.journal =
      [.reply ⟨1⟩ .done true, .registerService (.uuid16 0x180F) 4 (some 1), call,
        .indicate CountingServer.peer.address (HandleRange.changedMessage ⟨1, 4⟩)] := by
    decide +kernel
  have known : (catalogue ["notify", "read", "notify"]).publications.services.find?
      (PublishedService.isRegistration ":1.7" "/a") =
        some (record ["notify", "read", "notify"]) := by
    decide +kernel
  have unknown : (catalogue ["read", "colour"]).publications.services.find?
      (PublishedService.isRegistration ":1.7" "/a") = some (record ["read", "colour"]) := by
    decide +kernel
  have knownFits : (record ["notify", "read", "notify"]).FitsInto
      (catalogue ["notify", "read", "notify"]).database := by decide +kernel
  have unknownFits : (record ["read", "colour"]).FitsInto
      (catalogue ["read", "colour"]).database := by decide +kernel
  have alike : ∀ flag, flag ∈ ["read", "notify"] ↔
      flag ∈ countedFlags (some ["notify", "read", "notify"]) := by
    intro flag
    simp [countedFlags]
    tauto
  have twice : (record ["notify", "read", "notify"]).objects =
      [service] ++ level.withPublished (some ["notify", "read", "notify"]) :: [] := rfl
  have coloured : (record ["read", "colour"]).objects =
      [service] ++ level.withPublished (some ["read", "colour"]) :: [] := rfl
  obtain ⟨accepted, after, final, last, readied, -, usable⟩ :=
    run_clientReady_flags (ran _) obliging_countingServer known rfl rfl twice (valid _ knownFits)
      alike countingEnvironment
  obtain ⟨taken, without, left, ended, refused, useless, -⟩ :=
    run_clientReady_flags (ran _) obliging_countingServer unknown rfl rfl coloured
      (valid _ unknownFits) (fun _ => Iff.rfl) countingEnvironment
  obtain ⟨uuid, size, start, calls, range, middle, made, follows, announced⟩ := usable (by decide)
  obtain ⟨answered, -⟩ := useless (by decide)
  refine ⟨by rw [journal]; rfl, ?_, ?_⟩
  · obtain ⟨earlier, own, value, further, rfl, -, inFront, inBack⟩ := follows.registered
    obtain rfl : earlier = [] := List.eq_nil_of_length_eq_zero (Nat.succ.inj inFront)
    obtain rfl : further = [] := List.eq_nil_of_length_eq_zero inBack
    have asked : ready ["notify", "read", "notify"] = (.ok (), after, final, last) := readied
    rw [asked] at journal
    have same := (made.append announced).symm.trans journal
    obtain ⟨-, behind⟩ := List.cons.inj same
    obtain ⟨begun, behind⟩ := List.cons.inj behind
    obtain ⟨registered, -⟩ := List.cons.inj behind
    cases begun
    rw [← registered]
    exact follows
  · have asked : ready ["read", "colour"] = (.ok (), without, left, ended) := refused
    rw [asked]
    exact ⟨taken, answered⟩

end Catalogue

end BluetoothHost
