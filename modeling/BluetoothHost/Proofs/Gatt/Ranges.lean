import BluetoothHost.Proofs.Gatt.Run
import BluetoothHost.Proofs.Gatt.Update
import BluetoothHost.Proofs.Gatt.Walk

/-!
# Ranges on the server

A registration that goes well is granted a range, which is noted at the declaration of the service.
A removal drops what is noted there, and nothing else takes a note away. So the ranges that were
granted are those that were dropped together with those that are noted, however often each of them
occurs: none is forgotten and none is dropped twice.
-/

namespace BluetoothHost

/-- What stays of an attribute while values and ready flags change. -/
def Attribute.standing (entry : Attribute) :
    (Handle × Uuid × Option Permissions) × Option HandleRange :=
  (entry.frame, entry.range)

namespace Database

variable {B A : Type} {database before after : Database} {begun : List Handle}

/-- The ranges that are noted at attributes. -/
def ranges (database : Database) : List HandleRange :=
  database.attributes.filterMap Attribute.range

/-! ### Where a range may be noted -/

/-- Ranges are noted only at declarations of services that were begun, and the service under
construction has none yet. -/
structure Ranged (begun : List Handle) (database : Database) : Prop where
  /-- The handles are in order. -/
  orderly : database.Orderly
  /-- One service at most is under construction. -/
  chained : Chained database.chain
  /-- Its declaration is there, and no range is noted at it. -/
  pending : ∀ head ∈ database.chain.head?, head.handle ∈ begun ∧
    ∃ entry ∈ database.attributes, entry.handle = head.handle ∧ entry.isService = true ∧
      entry.range = none
  /-- What has a range is such a declaration. -/
  carried : ∀ entry ∈ database.attributes, entry.range.isSome = true →
    entry.isService = true ∧ entry.handle ∈ begun

/-- In a fresh database nothing is noted. -/
theorem ranged_fresh (first : Handle) (announces : Bool) : (fresh first announces).Ranged [] where
  orderly := orderly_fresh first announces
  chained := trivial
  pending := nofun
  carried := nofun

namespace Ranged

/-- With more services begun the ranges are still accounted for. -/
theorem mono {more : List Handle} (ranged : database.Ranged begun) (among : begun ⊆ more) :
    database.Ranged more where
  orderly := ranged.orderly
  chained := ranged.chained
  pending := fun head first => (ranged.pending head first).imp_left (@among _)
  carried := fun entry member noted => (ranged.carried entry member noted).imp_right (@among _)

/-- Nothing changes when the chain is used up. -/
theorem consumed (ranged : database.Ranged begun) :
    Ranged begun { database with chain := [] } where
  orderly := ⟨ranged.orderly.ascending, ranged.orderly.below, ranged.orderly.counted⟩
  chained := trivial
  pending := nofun
  carried := ranged.carried

/-- New attributes come without ranges. -/
theorem append (ranged : before.Ranged begun) {added : List Attribute} {chain : List Node}
    {next : Nat}
    (orderly : Orderly { before with
      attributes := before.attributes ++ added, chain, nextHandle := next })
    (plain : ∀ entry ∈ added, entry.range = none) (chained : Chained chain)
    (pending : ∀ head ∈ chain.head?, head.handle ∈ begun ∧
      ∃ entry ∈ before.attributes ++ added, entry.handle = head.handle ∧ entry.isService = true ∧
        entry.range = none) :
    Ranged begun { before with
        attributes := before.attributes ++ added, chain, nextHandle := next } ∧
      ranges { before with
        attributes := before.attributes ++ added, chain, nextHandle := next } =
          before.ranges := by
  refine ⟨⟨orderly, chained, pending, fun entry member noted => ?_⟩, ?_⟩
  · rcases List.mem_append.mp member with old | new
    · exact ranged.carried entry old noted
    · rw [plain entry new] at noted
      cases noted
  · have none : added.filterMap Attribute.range = [] := List.filterMap_eq_nil_iff.mpr plain
    rw [ranges, List.filterMap_append, none, List.append_nil]
    rfl

/-- So do those that are added to the service under construction. -/
theorem extend (ranged : before.Ranged begun) {added : List Attribute} {nodes : List Node}
    {next : Nat} (building : before.chain ≠ [])
    (orderly : Orderly { before with
      attributes := before.attributes ++ added
      chain := before.chain ++ nodes
      nextHandle := next })
    (plain : ∀ entry ∈ added, entry.range = none) (inner : ∀ node ∈ nodes, node.role ≠ .service) :
    Ranged begun { before with
        attributes := before.attributes ++ added
        chain := before.chain ++ nodes
        nextHandle := next } ∧
      ranges { before with
        attributes := before.attributes ++ added
        chain := before.chain ++ nodes
        nextHandle := next } = before.ranges := by
  obtain ⟨head, rest, chain_eq⟩ := List.exists_cons_of_ne_nil building
  have chained := ranged.chained
  have pending := ranged.pending
  rw [chain_eq] at chained pending
  obtain ⟨isService, others⟩ := chained
  refine ranged.append orderly plain ?_ fun first isFirst => ?_
  · rw [chain_eq]
    refine ⟨isService, fun node member => ?_⟩
    rcases List.mem_append.mp member with old | new
    · exact others node old
    · exact inner node new
  · rw [chain_eq] at isFirst
    obtain ⟨known, entry, there, same⟩ := pending first isFirst
    exact ⟨known, entry, List.mem_append_left added there, same⟩

end Ranged

/-! ### What leaves the ranges alone -/

/-- At most values and ready flags changed. -/
def Touched (before after : Database) : Prop :=
  ∃ attributes : List Attribute, after = { before with attributes } ∧
    attributes.map Attribute.standing = before.attributes.map Attribute.standing

/-- Where nothing is touched nothing changes. -/
theorem Touched.refl (database : Database) : Touched database database := ⟨_, rfl, rfl⟩

/-- Touching up an attribute leaves ranges alone. -/
theorem modify_touched {change : Attribute → Attribute}
    (kept : ∀ entry, (change entry).standing = entry.standing) (database : Database)
    (index : Nat) : Touched database (database.modify index change) :=
  ⟨_, rfl, map_modify kept _ _⟩

/-- Setting a ready flag does. -/
theorem setNotifyReady_touched (database : Database) (handle : Handle) (ready : Bool) :
    Touched database (database.setNotifyReady handle ready).2 := by
  unfold setNotifyReady
  split
  · exact .refl database
  · exact modify_touched (by intro; rfl) database _

/-- A write does. -/
theorem write_touched {E : Type} (database : Database) (uuid : Uuid) (value : List UInt8)
    (handler : AttributeHandler E) (env : E) :
    Touched database (database.write uuid value handler env).2.1 := by
  unfold write
  split
  · split
    · exact modify_touched (by intro; rfl) database _
    · exact .refl database
  · exact .refl database

/-- So does an update. -/
theorem updateValue_touched [AttributeServer A] (orderly : database.Orderly) (uuid : Uuid)
    (value : List UInt8) (env : Environment B A) :
    Touched database (database.updateValue uuid value env).2.1 := by
  have updated := updateValue_updated orderly uuid value env
  generalize (database.updateValue uuid value env).1 = outcome at updated
  generalize (database.updateValue uuid value env).2.1 = after at updated ⊢
  cases updated with
  | missing => exact .refl database
  | tooLong => exact .refl database
  | kept found attributes_eq fits stays =>
    refine ⟨_, rfl, ?_⟩
    rw [attributes_eq, List.map_append, List.map_append]
    rfl

/-- The ranges stay where they are noted. -/
theorem Ranged.touched (ranged : before.Ranged begun) (touched : Touched before after) :
    after.Ranged begun ∧ after.ranges = before.ranges := by
  obtain ⟨attributes, rfl, same⟩ := touched
  have origin : ∀ entry ∈ attributes, ∃ other ∈ before.attributes,
      other.standing = entry.standing := by
    intro entry member
    have among := List.mem_map_of_mem (f := Attribute.standing) member
    rw [same] at among
    exact List.mem_map.mp among
  have framed : attributes.map Attribute.frame = before.attributes.map Attribute.frame := by
    have firsts := congrArg (List.map Prod.fst) same
    rwa [List.map_map, List.map_map] at firsts
  have change : Change 0 before { before with attributes } := .retouched framed (.inl rfl)
  refine ⟨⟨change.orderly ranged.orderly, ranged.chained, fun head first => ?_,
    fun entry member noted => ?_⟩, ?_⟩
  · obtain ⟨known, entry, there, named, isService, none⟩ := ranged.pending head first
    have among := List.mem_map_of_mem (f := Attribute.standing) there
    rw [← same] at among
    obtain ⟨other, stays, equal⟩ := List.mem_map.mp among
    have frames : other.frame = entry.frame := congrArg Prod.fst equal
    have handles : other.handle = entry.handle := congrArg Prod.fst frames
    have noted : other.range = entry.range := congrArg Prod.snd equal
    exact ⟨known, other, stays, handles.trans named, (isService_of_frame frames).trans isService,
      noted.trans none⟩
  · obtain ⟨other, there, equal⟩ := origin entry member
    have frames : other.frame = entry.frame := congrArg Prod.fst equal
    have handles : other.handle = entry.handle := congrArg Prod.fst frames
    have ranges : other.range = entry.range := congrArg Prod.snd equal
    obtain ⟨isService, known⟩ := ranged.carried other there (ranges ▸ noted)
    exact ⟨(isService_of_frame frames).symm.trans isService, handles ▸ known⟩
  · have seconds := congrArg (List.filterMap Prod.snd) same
    rwa [List.filterMap_map, List.filterMap_map] at seconds

/-! ### Granting and dropping -/

section Server

variable [AttributeServer A]

omit [AttributeServer A] in
/-- The range of a service that is registered is noted at its declaration. -/
theorem registered_split (orderly : database.Orderly) {front back : List Attribute}
    {entry : Attribute} (attributes_eq : database.attributes = front ++ entry :: back)
    (range : HandleRange) :
    database.registered entry.handle range = { database with
      attributes := front ++ { entry with range := some range } :: back
      chain := [] } := by
  have place : { database with chain := [] }.position? entry.handle = some front.length :=
    position?_split orderly.ascending attributes_eq
  have noted := @modify_split { database with chain := [] } _ _ _ attributes_eq fun entry =>
    { entry with range := some range }
  simp only [registered, rememberRange, place]
  exact noted

omit [AttributeServer A] in
/-- So it is noted once more than before. -/
theorem Ranged.registered (ranged : database.Ranged begun) {head : Node} {rest : List Node}
    (chain_eq : database.chain = head :: rest) (range : HandleRange) :
    (database.registered head.handle range).Ranged begun ∧
      (database.ranges ++ [range]).Perm (database.registered head.handle range).ranges := by
  obtain ⟨known, entry, there, named, isService, none⟩ :=
    ranged.pending head (by rw [chain_eq, List.head?_cons]; rfl)
  obtain ⟨front, back, attributes_eq⟩ := List.append_of_mem there
  have noted := registered_split ranged.orderly attributes_eq range
  rw [← named, noted]
  have framed : (front ++ { entry with range := some range } :: back).map Attribute.frame =
      database.attributes.map Attribute.frame := by
    rw [attributes_eq, List.map_append, List.map_append]
    rfl
  have change : Change 0 database { database with
      attributes := front ++ { entry with range := some range } :: back
      chain := [] } := .retouched framed (.inr rfl)
  refine ⟨⟨change.orderly ranged.orderly, trivial, nofun, fun other member some => ?_⟩, ?_⟩
  · rcases List.mem_append.mp member with before | behind
    · exact ranged.carried other (by simp [attributes_eq, before]) some
    · rcases List.mem_cons.mp behind with rfl | after
      · exact ⟨isService, named ▸ known⟩
      · exact ranged.carried other (by simp [attributes_eq, after]) some
  · simp only [ranges, attributes_eq, List.filterMap_append, List.filterMap_cons, none]
    rw [List.append_assoc]
    exact (List.perm_append_singleton range _).append_left _

/-- Dropping the range of a service calls for nothing else to be dropped. -/
theorem removedRanges_dropRange (database : Database) (range : Option HandleRange)
    (env : Environment B A) :
    removedRanges (env.callsUntil (database.dropRange range env)) = range.toList := by
  cases range with
  | none => exact congrArg removedRanges env.makes_nil.callsUntil_eq
  | some range =>
    have made := (env.removeRange_makes range).append
      (database.announce_makes range (env.removeRange range))
    have none := (database.announcements_silent range (env.removeRange range).server).2
    show removedRanges (env.callsUntil (database.announce range (env.removeRange range))) = _
    rw [made.callsUntil_eq, removedRanges_append, none]
    rfl

omit [AttributeServer A] in
/-- With a stretch goes the range that is noted at its beginning. -/
theorem Ranged.remove (ranged : database.Ranged begun) {front run rest : List Attribute}
    {declaration : Attribute} (stretch : Stretch database.attributes front declaration run rest) :
    Ranged begun { database with
        attributes := front ++ rest
        chain := if database.chain.head?.any fun head => head.handle == declaration.handle then []
          else database.chain } ∧
      database.ranges.Perm
        ((front ++ rest).filterMap Attribute.range ++ declaration.range.toList) := by
  have change : Change 0 database _ := .removed stretch
  refine ⟨⟨change.orderly ranged.orderly, ?_, fun head first => ?_, fun entry member noted =>
    ranged.carried entry (stretch.sublist.subset member) noted⟩, ?_⟩
  · show Chained (if _ then _ else _)
    split
    · trivial
    · exact ranged.chained
  · -- The declaration of the service under construction stays, for a stretch has none behind its
    -- beginning.
    dsimp only at first
    split at first
    · cases first
    rename_i different
    obtain ⟨known, entry, there, named, isService, none⟩ := ranged.pending head first
    refine ⟨known, entry, ?_, named, isService, none⟩
    rcases stretch.cases there with before | rfl | within | behind
    · exact List.mem_append_left rest before
    · rw [Option.mem_def] at first
      simp [first, named] at different
    · rw [stretch.plain entry within] at isService
      cases isService
    · exact List.mem_append_right front behind
  · have none : run.filterMap Attribute.range = [] := by
      refine List.filterMap_eq_nil_iff.mpr fun entry within => ?_
      by_contra noted
      have there : entry ∈ database.attributes := by simp [stretch.attributes_eq, within]
      have declared := (ranged.carried entry there (Option.isSome_iff_ne_none.mpr noted)).1
      rw [stretch.plain entry within] at declared
      cases declared
    have whole : database.ranges = front.filterMap Attribute.range ++
        (declaration.range.toList ++ rest.filterMap Attribute.range) := by
      rw [ranges, stretch.attributes_eq, List.filterMap_append, ← List.singleton_append,
        List.filterMap_append, List.filterMap_append, none, List.nil_append]
      cases noted : declaration.range <;> simp [noted]
    rw [whole, List.filterMap_append, List.append_assoc]
    exact List.perm_append_comm.append_left _

/-! ### Books over a run -/

/-- The handle of the service that an operation begins. -/
def begins (database : Database) (operation : Operation B A) (_ : Environment B A) :
    List Handle :=
  match operation with
  | .addService uuid => (database.addService uuid).1.toOption.toList
  | _ => []

/-- The range that an operation is granted. -/
def granted (database : Database) (operation : Operation B A) (env : Environment B A) :
    List HandleRange :=
  match operation with
  | .materialize => (database.materialize env).1.toOption.toList
  | _ => []

/-- The ranges that are dropped when a service is removed. -/
def dropped (database : Database) (operation : Operation B A) (env : Environment B A) :
    List HandleRange :=
  match operation with
  | .removeService service =>
    removedRanges (env.callsUntil (database.removeService service env).2.2)
  | _ => []

/-- Between two moments the ranges that are noted became more by those that were granted and fewer
by those that were dropped, and what has one is the declaration of a service that was begun. -/
def Books (begun : List Handle) (granted dropped : List HandleRange) (before after : Database) :
    Prop :=
  after.Ranged begun ∧ (before.ranges ++ granted).Perm (after.ranges ++ dropped)

/-- The books are in order if the ranges stayed as they were. -/
theorem books_same (same : after.Ranged begun ∧ after.ranges = before.ranges) :
    Books begun [] [] before after :=
  ⟨same.1, by rw [same.2]⟩

omit [AttributeServer A] in
/-- They are so for more services. -/
theorem Books.more {granted dropped : List HandleRange}
    (books : Books begun granted dropped before after) (others : List Handle) :
    Books (begun ++ others) granted dropped before after :=
  books.imp_left fun ranged => ranged.mono (List.subset_append_left begun others)

omit [AttributeServer A] in
/-- What was granted and dropped in two steps adds up. -/
theorem Books.trans {middle : Database} {others : List Handle}
    {granted dropped further less : List HandleRange}
    (first : Books begun granted dropped before middle)
    (second : Books others further less middle after) :
    Books others (granted ++ further) (dropped ++ less) before after := by
  refine ⟨second.1, ?_⟩
  have exchanged : ((middle.ranges ++ dropped) ++ further).Perm
      ((middle.ranges ++ further) ++ dropped) := by
    rw [List.append_assoc, List.append_assoc]
    exact List.perm_append_comm.append_left _
  have ordered : ((after.ranges ++ less) ++ dropped).Perm (after.ranges ++ (dropped ++ less)) := by
    rw [List.append_assoc]
    exact List.perm_append_comm.append_left _
  have earlier := (first.2.append_right further).trans exchanged
  have later := (second.2.append_right dropped).trans ordered
  rw [← List.append_assoc]
  exact earlier.trans later

/-- A registration notes what it is granted. -/
theorem materialize_books (ranged : database.Ranged begun) (env : Environment B A) :
    Books begun (database.granted .materialize env) [] database (database.materialize env).2.1 := by
  have materialized := materialize_materialized ranged.chained env
  unfold granted
  generalize database.materialize env = result at materialized ⊢
  cases materialized with
  | idle => exact books_same ⟨ranged.consumed, rfl⟩
  | @registered head rest calls range later chain_eq made =>
    obtain ⟨kept, noted⟩ := ranged.registered chain_eq range
    exact ⟨kept, by simpa [Except.toOption] using noted⟩
  | dropped => exact books_same ⟨ranged.consumed, rfl⟩
  | unaccepted => exact books_same ⟨ranged.consumed, rfl⟩

/-- A removal drops what was noted. -/
theorem removeService_books (ranged : database.Ranged begun) (service : Handle)
    (env : Environment B A) :
    Books begun [] (database.dropped (.removeService service) env) database
      (database.removeService service env).2.1 := by
  unfold dropped
  dsimp only
  rcases database.removeService_eq service env with ⟨cause, refused⟩ |
    ⟨front, declaration, run, rest, stretch, named, gone⟩
  · rw [refused]
    have none : removedRanges (env.callsUntil env) = [] :=
      congrArg removedRanges env.makes_nil.callsUntil_eq
    rw [none]
    exact books_same ⟨ranged, rfl⟩
  · rw [gone]
    obtain ⟨kept, less⟩ := ranged.remove stretch
    dsimp only
    rw [removedRanges_dropRange]
    refine ⟨kept, ?_⟩
    rw [List.append_nil]
    exact less

/-- Every operation keeps the books in order. -/
theorem perform_books (ranged : database.Ranged begun) (operation : Operation B A)
    (env : Environment B A) :
    Books (begun ++ database.begins operation env) (database.granted operation env)
      (database.dropped operation env) database (database.perform operation env).1 := by
  have orderly := perform_orderly ranged.orderly operation env
  cases operation with
  | addService uuid =>
    rcases addService_eq ranged.orderly uuid with ⟨cause, refused⟩ | ⟨service, next, added⟩
    · simp only [perform, refused]
      exact (books_same ⟨ranged, rfl⟩).more _
    · simp only [begins, perform, added] at orderly ⊢
      have more := ranged.mono (List.subset_append_left begun [service])
      refine books_same (more.append orderly ?_ ⟨rfl, by simp⟩ fun head first => ?_)
      · simp [Attribute.serviceDeclaration]
      · obtain rfl := Option.some.inj first
        exact ⟨by simp, .serviceDeclaration service uuid, by simp, rfl, rfl, rfl⟩
  | addCharacteristic uuid properties permissions =>
    rcases addCharacteristic_eq ranged.orderly uuid properties permissions with
      ⟨cause, refused⟩ | ⟨handle, -, -, building, -, added⟩
    · simp only [perform, refused]
      exact (books_same ⟨ranged, rfl⟩).more []
    · simp only [perform, added] at orderly ⊢
      refine (books_same (ranged.extend building orderly ?_ ?_)).more []
      · simp [Attribute.characteristicDeclaration, Attribute.served]
      · simp
  | addDescriptor uuid permissions =>
    rcases addDescriptor_eq ranged.orderly uuid permissions with
      ⟨cause, refused⟩ | ⟨handle, -, building, -, added⟩
    · simp only [perform, refused]
      exact (books_same ⟨ranged, rfl⟩).more []
    · simp only [perform, added] at orderly ⊢
      refine (books_same (ranged.extend building orderly ?_ ?_)).more []
      · simp [Attribute.served]
      · simp
  | materialize =>
    exact (materialize_books ranged env).more []
  | removeService service =>
    exact (removeService_books ranged service env).more []
  | updateValue uuid value =>
    exact (books_same (ranged.touched (updateValue_touched ranged.orderly uuid value env))).more []
  | setNotifyReady handle ready =>
    exact (books_same (ranged.touched (setNotifyReady_touched database handle ready))).more []
  | write uuid value handler =>
    exact (books_same (ranged.touched (write_touched database uuid value handler env))).more []
  | evolve next =>
    exact (books_same ⟨ranged, rfl⟩).more []

/-- So does every run. -/
theorem run_books (ranged : database.Ranged begun) (operations : List (Operation B A))
    (env : Environment B A) :
    Books (begun ++ database.collect begins operations env)
      (database.collect granted operations env) (database.collect dropped operations env) database
      (database.run operations env).1 := by
  induction operations generalizing database begun env with
  | nil =>
    rw [collect, List.append_nil]
    exact books_same ⟨ranged, rfl⟩
  | cons operation operations ih =>
    have first := perform_books ranged operation env
    have rest := ih first.1 (database.perform operation env).2
    rw [List.append_assoc] at rest
    exact first.trans rest

/-- In every run from a database in which nothing was stored yet, whatever the server answers, the
ranges that were granted are those that were dropped when services were removed and those that are
noted at attributes, and only attributes that began services have one. -/
theorem run_ranges (first : Handle) (announces : Bool) (operations : List (Operation B A))
    (env : Environment B A) :
    let started := fresh first announces
    let database := (started.run operations env).1
    (started.collect granted operations env).Perm
      (started.collect dropped operations env ++ database.ranges) ∧
    ∀ entry ∈ database.attributes, entry.range.isSome = true →
      entry.handle ∈ started.collect begins operations env := by
  intro started database
  obtain ⟨ranged, balanced⟩ := run_books (ranged_fresh first announces) operations env
  have empty : started.ranges = [] := rfl
  rw [empty, List.nil_append] at balanced
  refine ⟨balanced.trans List.perm_append_comm, fun entry member noted => ?_⟩
  exact (ranged.carried entry member noted).2

end Server

end Database

end BluetoothHost
