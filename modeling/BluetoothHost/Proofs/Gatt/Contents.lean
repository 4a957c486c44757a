import BluetoothHost.Proofs.Gatt.Construction
import BluetoothHost.Proofs.Gatt.Declaration
import BluetoothHost.Proofs.Gatt.Update

/-!
# What attributes hold

Most of what happens to the database leaves the contents of its attributes alone: attributes come
and go, ranges and ready flags are noted, and only an update writes a value. So the value of an
attribute is the last one that an update wrote into it, or the one with which it was created. For a
declaration the latter says what is declared.
-/

namespace BluetoothHost

variable {B A : Type}

/-- What an attribute is and holds, without what is noted of it. -/
def Attribute.content (entry : Attribute) :
    Handle × Uuid × Option Permissions × AttributeValue :=
  (entry.handle, entry.type, entry.permissions, entry.value)

namespace Database

variable {database before middle after : Database} {uuid : Uuid} {value : List UInt8}

/-- From one moment to another no attribute came, and those that stayed kept their contents. -/
def Keeps (before after : Database) : Prop :=
  ∀ entry ∈ after.attributes, ∃ other ∈ before.attributes, entry.content = other.content

/-- Attributes that stay as they are keep their contents. -/
theorem Keeps.refl (database : Database) : Keeps database database :=
  fun entry member => ⟨entry, member, rfl⟩

/-- What is kept twice is kept. -/
theorem Keeps.trans (first : Keeps before middle) (second : Keeps middle after) :
    Keeps before after := by
  intro entry member
  obtain ⟨between, there, same⟩ := second entry member
  obtain ⟨other, was, again⟩ := first between there
  exact ⟨other, was, same.trans again⟩

/-- So they do where others go. -/
theorem keeps_of_subset {attributes : List Attribute} (fewer : attributes ⊆ database.attributes)
    (chain : List Node) : Keeps database { database with attributes, chain } :=
  fun entry member => ⟨entry, fewer member, rfl⟩

/-- So they do where something is noted of one. -/
theorem modify_keeps {change : Attribute → Attribute}
    (kept : ∀ entry, (change entry).content = entry.content) (database : Database) (index : Nat) :
    Keeps database (database.modify index change) := by
  intro entry member
  obtain ⟨place, present⟩ := List.mem_iff_getElem?.mp member
  rw [modify, List.getElem?_modify] at present
  obtain ⟨other, there, same⟩ := Option.map_eq_some_iff.mp present
  refine ⟨other, List.mem_of_getElem? there, ?_⟩
  rw [← same]
  split
  · exact kept other
  · rfl

/-- Setting a ready flag keeps the contents. -/
theorem setNotifyReady_keeps (database : Database) (handle : Handle) (ready : Bool) :
    Keeps database (database.setNotifyReady handle ready).2 := by
  unfold setNotifyReady
  split
  · exact .refl database
  · exact modify_keeps (by intro; rfl) database _

/-- So does passing on a write. -/
theorem write_keeps {E : Type} (database : Database) (uuid : Uuid) (value : List UInt8)
    (handler : AttributeHandler E) (env : E) :
    Keeps database (database.write uuid value handler env).2.1 := by
  unfold write
  split
  · split
    · exact modify_keeps (by intro; rfl) database _
    · exact .refl database
  · exact .refl database

section Server

variable [AttributeServer A]

/-- So does registering a service. -/
theorem materialize_keeps (database : Database) (env : Environment B A) :
    Keeps database (database.materialize env).2.1 := by
  have consumed : Keeps database { database with chain := [] } := keeps_of_subset (fun _ => id) []
  rcases database.materialize_database env with same | ⟨index, range, noted⟩
  · rw [same]
    exact consumed
  · rw [noted]
    exact consumed.trans (modify_keeps (by intro; rfl) _ _)

/-- So does removing one, for what is left. -/
theorem removeService_keeps (database : Database) (service : Handle) (env : Environment B A) :
    Keeps database (database.removeService service env).2.1 := by
  rcases database.removeService_cases service env with ⟨cause, refused⟩ |
    ⟨_, _, _, _, stretch, -, -, gone⟩
  · rw [refused]
    exact .refl database
  · rw [gone]
    exact keeps_of_subset stretch.sublist.subset _

end Server

/-! ### Additions -/

/-- Attributes were added to a database, and the declarations among them are those that are meant
for their handles. -/
structure Grown (declared? : Handle → Option Declaration) (before after : Database) : Prop where
  /-- The counter does not go back. -/
  grows : before.nextHandle ≤ after.nextHandle
  /-- What has a handle that was given out before was there. -/
  old : ∀ entry ∈ after.attributes, entry.handle.toNat < before.nextHandle →
    entry ∈ before.attributes
  /-- What is new and constant declares what is meant for its handle. -/
  new : ∀ entry ∈ after.attributes, before.nextHandle ≤ entry.handle.toNat →
    entry.permissions = none →
      ∃ declaration, declared? entry.handle = some declaration ∧
        entry = declaration.attributeAt entry.handle

/-- Where nothing is added, nothing is new. -/
theorem Orderly.grown (orderly : database.Orderly) (declared? : Handle → Option Declaration) :
    Grown declared? database database where
  grows := Nat.le_refl _
  old := fun _ member _ => member
  new := fun entry member new _ =>
    absurd (orderly.below entry member) (Nat.not_lt.mpr new)

/-- A service that is begun is declared under the next handle. -/
theorem start_grown (orderly : database.Orderly) {service : Handle}
    (next : service.toNat = database.nextHandle) (uuid : Uuid) :
    Grown (fun handle => if handle.toNat = database.nextHandle then some (.service uuid) else none)
      database (database.start service uuid) where
  grows := Nat.le_succ _
  old := by
    intro entry member passed
    rcases List.mem_append.mp member with there | added
    · exact there
    · rw [List.mem_singleton.mp added] at passed
      exact absurd next (Nat.ne_of_lt passed)
  new := by
    intro entry member new _
    rcases List.mem_append.mp member with there | added
    · exact absurd (orderly.below entry there) (Nat.not_lt.mpr new)
    · obtain rfl := List.mem_singleton.mp added
      exact ⟨.service uuid, if_pos next, rfl⟩

end Database

/-- An attribute that declares something has the handle under which it does. -/
theorem Declaration.handle_attributeAt (declaration : Declaration) (handle : Handle) :
    (declaration.attributeAt handle).handle = handle := by
  cases declaration <;> rfl

namespace Element

/-- The declaration that comes with an element. -/
def declaration? : Element → Option Declaration
  | characteristic uuid properties _ => some (.characteristic properties uuid)
  | descriptor _ _ => none

/-- What is declared under a handle where elements are added from a number on, as long as there is
one to add. -/
def declared? (handle : Handle) : (next : Nat) → List (Option Element) → Option Declaration
  | next, some element :: rest =>
    if handle.toNat = next then element.declaration?
    else declared? handle (next + element.attributeCount) rest
  | _, _ => none

/-- Every element has an attribute. -/
theorem attributeCount_pos (element : Element) : 0 < element.attributeCount := by
  cases element with
  | characteristic => exact Nat.two_pos
  | descriptor => exact Nat.one_pos

end Element

namespace Placement

/-- Of the attributes of an element only the declaration is constant. -/
theorem eq_attributeAt {placement : Placement} {entry : Attribute}
    (member : entry ∈ placement.attributes) (constant : entry.permissions = none) :
    ∃ declaration, placement.element.declaration? = some declaration ∧
      entry = declaration.attributeAt placement.handle := by
  obtain ⟨handle, element⟩ := placement
  cases element with
  | characteristic uuid properties permissions =>
    rcases List.mem_cons.mp member with rfl | served
    · exact ⟨_, rfl, rfl⟩
    · rw [List.mem_singleton.mp served] at constant
      cases constant
  | descriptor uuid permissions =>
    rw [List.mem_singleton.mp member] at constant
    cases constant

/-- An element that was placed in its turn is declared under the handle that it got. -/
theorem Consecutive.declared? {next : Nat} {placements : List Placement}
    {elements : List (Option Element)} (consecutive : Consecutive next placements)
    (among : (placements.map fun placement => some placement.element) <+: elements)
    {placement : Placement} (member : placement ∈ placements) :
    Element.declared? placement.handle next elements = placement.element.declaration? := by
  induction placements generalizing next elements with
  | nil => cases member
  | cons first rest ih =>
    obtain ⟨here, further⟩ := consecutive
    obtain ⟨more, rfl, fewer⟩ := List.cons_prefix_iff.mp among
    rw [Element.declared?]
    rcases List.mem_cons.mp member with rfl | later
    · rw [if_pos here]
    · have behind := further.le_handle later
      have positive := first.element.attributeCount_pos
      rw [if_neg (by omega), ih further fewer later]

end Placement

namespace Database

variable {database : Database}

/-- The elements that are added are declared under the handles that they get. -/
theorem exists_declared {placements : List Placement} {elements : List (Option Element)}
    (consecutive : Placement.Consecutive database.nextHandle placements)
    (among : (placements.map fun placement => some placement.element) <+: elements)
    {entry : Attribute} (member : entry ∈ placements.flatMap Placement.attributes)
    (constant : entry.permissions = none) :
    ∃ declaration, Element.declared? entry.handle database.nextHandle elements = some declaration ∧
      entry = declaration.attributeAt entry.handle ∧
      database.nextHandle ≤ entry.handle.toNat := by
  obtain ⟨placement, placed, own⟩ := List.mem_flatMap.mp member
  obtain ⟨declaration, named, rfl⟩ := Placement.eq_attributeAt own constant
  rw [declaration.handle_attributeAt, consecutive.declared? among placed]
  exact ⟨declaration, named, rfl, consecutive.le_handle placed⟩

/-- An element that is added is declared under the next handle. -/
theorem add_grown (orderly : database.Orderly) (element : Element) :
    Grown (fun handle => Element.declared? handle database.nextHandle [some element]) database
      (database.add element).2 := by
  rcases add_cases orderly element with ⟨cause, refused⟩ | ⟨placement, rfl, next, added, extended⟩
  · rw [refused]
    exact orderly.grown _
  · rw [added]
    refine ⟨extended.grows, extended.old, fun entry member new constant => ?_⟩
    rcases List.mem_append.mp member with there | placed
    · exact absurd (orderly.below entry there) (Nat.not_lt.mpr new)
    · have consecutive : Placement.Consecutive database.nextHandle [placement] := ⟨next, trivial⟩
      obtain ⟨declaration, known, same, -⟩ :=
        exists_declared consecutive (List.prefix_refl _) placed constant
      exact ⟨declaration, known, same⟩

end Database

namespace PublishedService

/-- What the objects of a service declare under a handle when they are built from a number on. -/
def declared? (record : PublishedService) (next : Nat) (handle : Handle) : Option Declaration :=
  match record.objects with
  | [] => none
  | head :: rest =>
    if handle.toNat = next then head.uuid.map Declaration.service
    else Element.declared? handle (next + 1) (rest.map PublishedObject.element?)

variable {database : Database}

/-- What was begun from objects is what they declare. -/
theorem grown_of_builtFrom (orderly : database.Orderly) {record : PublishedService}
    {head : PublishedObject} {rest : List PublishedObject} {uuid : Uuid} {service : Handle}
    {placements : List Placement} {outcome : Except Error (List PublishedObject)}
    (objects_eq : record.objects = head :: rest) (named : head.uuid = some uuid)
    (next : service.toNat = database.nextHandle)
    (built : BuiltFrom rest placements (database.start service uuid)
      ((database.start service uuid).extend placements) outcome) :
    Database.Grown (record.declared? database.nextHandle) database
      ((database.start service uuid).extend placements) := by
  have started := Database.start_grown orderly next uuid
  refine ⟨Nat.le_trans started.grows built.extended.grows, fun entry member passed => ?_,
    fun entry member new constant => ?_⟩
  · exact started.old entry
      (built.extended.old entry member (Nat.lt_of_lt_of_le passed started.grows)) passed
  rw [declared?, objects_eq]
  dsimp only
  rcases List.mem_append.mp member with there | placed
  · obtain ⟨declaration, known, same⟩ := started.new entry there new constant
    refine ⟨declaration, ?_, same⟩
    split at known
    · rename_i first
      rw [if_pos first, named]
      exact known
    · cases known
  · obtain ⟨declaration, known, same, behind⟩ :=
      Database.exists_declared built.consecutive built.among placed constant
    have later : entry.handle.toNat ≠ database.nextHandle := Nat.ne_of_gt behind
    rw [if_neg later]
    exact ⟨declaration, known, same⟩

/-- Whatever becomes of the building, it adds what the objects declare. -/
theorem build_grown (orderly : database.Orderly) (record : PublishedService) :
    Database.Grown (record.declared? database.nextHandle) database
      (record.build database).2.2 := by
  have build := build_eq orderly record
  generalize record.build database = built at build
  cases build with
  | refused cause => exact orderly.grown _
  | abandoned cause objects_eq isService named next built =>
    exact grown_of_builtFrom orderly objects_eq named next built
  | completed objects_eq isService named next built =>
    exact grown_of_builtFrom orderly objects_eq named next built

end PublishedService

namespace Publications

variable [AttributeServer A] {publications : Publications} {database : Database}
  {client path : String}

/-- Tearing down a service keeps the contents of what is left. -/
theorem tearDown_keeps (record : PublishedService) (database : Database) (env : Environment B A) :
    Database.Keeps database (tearDown record database env).1 := by
  unfold tearDown
  split
  · exact .refl database
  · exact database.removeService_keeps _ env

/-- So does tearing down several. -/
theorem tearDownEach_keeps (records : List PublishedService) (database : Database)
    (env : Environment B A) : Database.Keeps database (tearDownEach records database env).1 := by
  induction records generalizing database env with
  | nil => exact .refl database
  | cons record rest ih => exact (tearDown_keeps record database env).trans (ih _ _)

/-- So does giving up a service. -/
theorem unregister_keeps (publications : Publications) (database : Database)
    (client path : String) (env : Environment B A) :
    Database.Keeps database (publications.unregister database client path env).2.2.1 := by
  unfold unregister
  split
  · exact .refl database
  · exact tearDown_keeps _ database env

/-- What is declared under a handle when a client is ready, with the next handle to be given
out. -/
def declared? (publications : Publications) (client path : String) (next : Nat) (handle : Handle) :
    Option Declaration :=
  (publications.services.find? (PublishedService.isRegistration client path)).bind fun record =>
    record.declared? next handle

/-- It is what the objects of its registration declare. -/
theorem declared?_of_find? {record : PublishedService}
    (found : publications.services.find? (PublishedService.isRegistration client path) =
      some record) (next : Nat) :
    publications.declared? client path next = record.declared? next := by
  funext handle
  rw [declared?, found, Option.bind_some]

/-- When a client is ready, attributes are added for the objects of a service, and then their
contents stay. -/
theorem clientReady_grown [MessageBus B] (orderly : database.Orderly) (env : Environment B A) :
    ∃ grown,
      Database.Grown (publications.declared? client path database.nextHandle) database grown ∧
      Database.Keeps grown (publications.clientReady database client path env).2.2.1 := by
  have readied := publications.clientReady_readied database client path env
  generalize publications.clientReady database client path env = result at readied ⊢
  cases readied with
  | ignored => exact ⟨database, orderly.grown _, .refl database⟩
  | @dropped _ _ record made _ begun _ found waits services_eq built =>
    have grown := PublishedService.build_grown orderly { record with registration := none }
    rw [built] at grown
    rw [declared?_of_find? found]
    exact ⟨begun, grown, tearDown_keeps made begun env⟩
  | @built _ _ record made _ begun found waits services_eq built enrolled =>
    have grown := PublishedService.build_grown orderly { record with registration := none }
    rw [built] at grown
    rw [declared?_of_find? found]
    exact ⟨begun, grown, begun.materialize_keeps _⟩

end Publications

end BluetoothHost
