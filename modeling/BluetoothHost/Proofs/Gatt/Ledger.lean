import BluetoothHost.Proofs.Gatt.Change

/-!
# Which attribute was created for which service

A ledger says of every handle that was ever given out for which service it was. Services are begun
one after the other and only the latest is ever under construction, so that the attributes of a
service that are still there stand together, behind one with the type of service declarations.
-/

namespace BluetoothHost

/-- An attribute was created for a service. -/
structure Creation where
  /-- The declaration of the service. -/
  service : Handle
  /-- The attribute. -/
  handle : Handle
deriving DecidableEq

namespace Database

variable {database before middle after : Database} {service : Handle} {ledger : List Creation}

/-- The handles that were given out between two moments. -/
def handedOut (before after : Database) : List Handle :=
  (List.range' before.nextHandle (after.nextHandle - before.nextHandle)).map UInt16.ofNat

/-- The creations between two moments, where all that was created was created for one service. -/
def creations (service : Handle) (before after : Database) : List Creation :=
  (before.handedOut after).map fun handle => ⟨service, handle⟩

/-- A handle was given out between two moments exactly when the counter passed it. -/
theorem mem_creations (counted : after.nextHandle ≤ Limits.lastHandle.toNat + 1)
    {creation : Creation} :
    creation ∈ creations service before after ↔ creation.service = service ∧
      before.nextHandle ≤ creation.handle.toNat ∧ creation.handle.toNat < after.nextHandle := by
  obtain ⟨owner, handle⟩ := creation
  have bound : after.nextHandle ≤ 65536 := counted
  simp only [creations, handedOut, List.mem_map, List.mem_range'_1, Creation.mk.injEq]
  constructor
  · rintro ⟨_, ⟨number, ⟨from_le, below⟩, rfl⟩, rfl, rfl⟩
    have small : number < 65536 := by omega
    have same : (UInt16.ofNat number).toNat = number := UInt16.toNat_ofNat_of_lt' small
    exact ⟨rfl, by omega, by omega⟩
  · rintro ⟨rfl, from_le, below⟩
    exact ⟨handle, ⟨handle.toNat, ⟨from_le, by omega⟩, UInt16.ofNat_toNat⟩, rfl, rfl⟩

/-- What the ledger says of the attributes that are there. -/
structure Recorded (ledger : List Creation) (database : Database) : Prop where
  /-- The handles are in order. -/
  orderly : database.Orderly
  /-- The counter has passed every handle in the ledger. -/
  below : ∀ creation ∈ ledger, creation.handle.toNat < database.nextHandle
  /-- A service comes before its attributes. -/
  forward : ∀ creation ∈ ledger, creation.service ≤ creation.handle
  /-- Higher handles are those of the same service or of later ones. -/
  ordered : ∀ one ∈ ledger, ∀ other ∈ ledger, one.handle ≤ other.handle →
    one.service ≤ other.service
  /-- Every attribute was created for some service. -/
  known : ∀ entry ∈ database.attributes, ∃ service, ⟨service, entry.handle⟩ ∈ ledger
  /-- The declaration of a service has the type of service declarations. -/
  declared : ∀ entry ∈ database.attributes, ⟨entry.handle, entry.handle⟩ ∈ ledger →
    entry.isService = true
  /-- Every attribute has one with such a type in front of it, or is one, that was created for the
  same service. -/
  led : ∀ entry ∈ database.attributes, ∀ service, ⟨service, entry.handle⟩ ∈ ledger →
    ∃ leader ∈ database.attributes, ⟨service, leader.handle⟩ ∈ ledger ∧
      leader.isService = true ∧ leader.handle ≤ entry.handle
  /-- Only the latest service is under construction, and its declaration is there. -/
  latest : ∀ head ∈ database.chain.head?, ⟨head.handle, head.handle⟩ ∈ ledger ∧
    (∀ creation ∈ ledger, creation.service ≤ head.handle) ∧
    ∃ entry ∈ database.attributes, entry.handle = head.handle

/-- No attribute was created for two services. -/
theorem Recorded.unique (recorded : database.Recorded ledger) {one other handle : Handle}
    (first : ⟨one, handle⟩ ∈ ledger) (second : ⟨other, handle⟩ ∈ ledger) : one = other :=
  UInt16.le_antisymm (recorded.ordered _ first _ second (UInt16.le_refl _))
    (recorded.ordered _ second _ first (UInt16.le_refl _))

/-- Of an empty database nothing is recorded. -/
theorem recorded_fresh (first : Handle) (announces : Bool) :
    Recorded [] { nextHandle := first.toNat, announces } where
  orderly := orderly_fresh first announces
  below := by simp
  forward := by simp
  ordered := by simp
  known := by simp
  declared := by simp
  led := by simp
  latest := by simp

/-- A service that is begun gets the first of the handles. -/
theorem first_mem_creations (counted : after.nextHandle ≤ Limits.lastHandle.toNat + 1)
    (grows : before.nextHandle < after.nextHandle)
    (next : service = UInt16.ofNat before.nextHandle) :
    ⟨service, service⟩ ∈ creations service before after := by
  have small : before.nextHandle < 65536 := Nat.lt_of_lt_of_le grows counted
  have same : service.toNat = before.nextHandle := by
    rw [next, UInt16.toNat_ofNat_of_lt' small]
  exact (mem_creations counted).mpr ⟨rfl, Nat.le_of_eq same.symm, same ▸ grows⟩

/-- Where the counter stays nothing is created. -/
theorem creations_eq_nil (same : after.nextHandle = before.nextHandle) :
    creations service before after = [] := by
  simp [creations, handedOut, same]

/-! ### Adding -/

/-- Attributes are added for the latest service, or for one that is begun with them. -/
structure Growth (ledger : List Creation) (service : Handle) (before after : Database)
    (added : List Attribute) : Prop where
  /-- What was there is on record. -/
  recorded : before.Recorded ledger
  /-- The handles are in order. -/
  orderly : after.Orderly
  /-- The new attributes stand behind the others. -/
  attributes_eq : after.attributes = before.attributes ++ added
  /-- Their handles come from the counter. -/
  fresh : ∀ entry ∈ added, before.nextHandle ≤ entry.handle.toNat
  /-- The counter goes on. -/
  grows : before.nextHandle ≤ after.nextHandle
  /-- The handle of the service is the next one or was given out before. -/
  begun : service.toNat ≤ before.nextHandle
  /-- No service on record is a later one. -/
  later : ∀ creation ∈ ledger, creation.service ≤ service
  /-- The service is on record. -/
  own : ⟨service, service⟩ ∈ ledger ++ creations service before after
  /-- Its declaration is there. -/
  standing : ∃ leader ∈ after.attributes, leader.handle = service ∧ leader.isService = true
  /-- It is the one under construction. -/
  chain : ∀ head ∈ after.chain.head?, head.handle = service

namespace Growth

variable {added : List Attribute} {entry : Attribute} {owner handle : Handle}

/-- A handle that the counter had passed is in the ledger for what it was before. -/
theorem old (growth : Growth ledger service before after added)
    (member : ⟨owner, handle⟩ ∈ ledger ++ creations service before after)
    (passed : handle.toNat < before.nextHandle) : ⟨owner, handle⟩ ∈ ledger := by
  rcases List.mem_append.mp member with known | created
  · exact known
  · have later := ((mem_creations growth.orderly.counted).mp created).2.1
    exact absurd passed (Nat.not_lt.mpr later)

/-- Any other handle in the ledger was created for the service. -/
theorem new (growth : Growth ledger service before after added)
    (member : ⟨owner, handle⟩ ∈ ledger ++ creations service before after)
    (ahead : before.nextHandle ≤ handle.toNat) : owner = service := by
  rcases List.mem_append.mp member with known | created
  · have passed := growth.recorded.below _ known
    exact absurd passed (Nat.not_lt.mpr ahead)
  · exact ((mem_creations growth.orderly.counted).mp created).1

/-- The service comes before whatever is created for it. -/
theorem le (growth : Growth ledger service before after added)
    (ahead : before.nextHandle ≤ handle.toNat) : service ≤ handle :=
  UInt16.le_iff_toNat_le.mpr (Nat.le_trans growth.begun ahead)

/-- No service in the ledger is a later one. -/
theorem latest (growth : Growth ledger service before after added) {creation : Creation}
    (member : creation ∈ ledger ++ creations service before after) :
    creation.service ≤ service := by
  rcases List.mem_append.mp member with known | created
  · exact growth.later creation known
  · exact UInt16.le_of_eq ((mem_creations growth.orderly.counted).mp created).1

/-- An attribute whose handle the counter had passed was there. -/
theorem mem_before (growth : Growth ledger service before after added)
    (member : entry ∈ after.attributes) (passed : entry.handle.toNat < before.nextHandle) :
    entry ∈ before.attributes := by
  rw [growth.attributes_eq] at member
  rcases List.mem_append.mp member with there | new
  · exact there
  · exact absurd passed (Nat.not_lt.mpr (growth.fresh entry new))

/-- Every attribute was created for some service. -/
theorem known (growth : Growth ledger service before after added)
    (member : entry ∈ after.attributes) :
    ∃ owner, ⟨owner, entry.handle⟩ ∈ ledger ++ creations service before after := by
  by_cases passed : entry.handle.toNat < before.nextHandle
  · obtain ⟨owner, known⟩ := growth.recorded.known entry (growth.mem_before member passed)
    exact ⟨owner, List.mem_append_left _ known⟩
  · have given := growth.orderly.below entry member
    have created : ⟨service, entry.handle⟩ ∈ creations service before after :=
      (mem_creations growth.orderly.counted).mpr ⟨rfl, Nat.not_lt.mp passed, given⟩
    exact ⟨service, List.mem_append_right _ created⟩

/-- Declarations have the type of service declarations. -/
theorem declared (growth : Growth ledger service before after added)
    (member : entry ∈ after.attributes)
    (self : ⟨entry.handle, entry.handle⟩ ∈ ledger ++ creations service before after) :
    entry.isService = true := by
  by_cases passed : entry.handle.toNat < before.nextHandle
  · exact growth.recorded.declared entry (growth.mem_before member passed)
      (growth.old self passed)
  · obtain ⟨leader, present, named, isService⟩ := growth.standing
    have same : entry.handle = service := growth.new self (Nat.not_lt.mp passed)
    rwa [growth.orderly.ascending.eq_of_handle member present (same.trans named.symm)]

/-- Every attribute has a leader. -/
theorem led (growth : Growth ledger service before after added)
    (member : entry ∈ after.attributes)
    (created : ⟨owner, entry.handle⟩ ∈ ledger ++ creations service before after) :
    ∃ leader ∈ after.attributes, ⟨owner, leader.handle⟩ ∈ ledger ++ creations service before after ∧
      leader.isService = true ∧ leader.handle ≤ entry.handle := by
  by_cases passed : entry.handle.toNat < before.nextHandle
  · obtain ⟨leader, there, known, isService, le⟩ := growth.recorded.led entry
      (growth.mem_before member passed) owner (growth.old created passed)
    refine ⟨leader, ?_, List.mem_append_left _ known, isService, le⟩
    rw [growth.attributes_eq]
    exact List.mem_append_left _ there
  · obtain ⟨leader, present, named, isService⟩ := growth.standing
    have ahead := Nat.not_lt.mp passed
    obtain rfl := growth.new created ahead
    exact ⟨leader, present, named ▸ growth.own, isService, named ▸ growth.le ahead⟩

/-- Higher handles are those of the same service or of later ones. -/
theorem ordered (growth : Growth ledger service before after added) {one other : Creation}
    (first : one ∈ ledger ++ creations service before after)
    (second : other ∈ ledger ++ creations service before after) (le : one.handle ≤ other.handle) :
    one.service ≤ other.service := by
  by_cases passed : other.handle.toNat < before.nextHandle
  · have lower := UInt16.le_iff_toNat_le.mp le
    exact growth.recorded.ordered one (growth.old first (by omega)) other
      (growth.old second passed) le
  · have same : other.service = service := growth.new second (Nat.not_lt.mp passed)
    rw [same]
    exact growth.latest first

/-- What was added is on record too. -/
theorem after_recorded (growth : Growth ledger service before after added) :
    after.Recorded (ledger ++ creations service before after) where
  orderly := growth.orderly
  below := by
    intro creation member
    rcases List.mem_append.mp member with known | created
    · exact Nat.lt_of_lt_of_le (growth.recorded.below creation known) growth.grows
    · exact ((mem_creations growth.orderly.counted).mp created).2.2
  forward := by
    intro creation member
    rcases List.mem_append.mp member with known | created
    · exact growth.recorded.forward creation known
    · obtain ⟨same, ahead, -⟩ := (mem_creations growth.orderly.counted).mp created
      rw [same]
      exact growth.le ahead
  ordered := fun _ first _ second => growth.ordered first second
  known := fun _ member => growth.known member
  declared := fun _ member => growth.declared member
  led := fun _ member _ created => growth.led member created
  latest := by
    intro head first
    obtain ⟨leader, present, named, -⟩ := growth.standing
    rw [growth.chain head first]
    exact ⟨growth.own, fun _ member => growth.latest member, leader, present, named⟩

end Growth

/-- Whatever is added while a service is under construction is added for that service. -/
theorem Recorded.extend (recorded : before.Recorded ledger) (orderly : after.Orderly)
    {head : Node} {rest further : List Node} (chain_eq : before.chain = head :: rest)
    (isHead : head.handle = service) {added : List Attribute}
    (attributes_eq : after.attributes = before.attributes ++ added)
    (fresh : ∀ entry ∈ added, before.nextHandle ≤ entry.handle.toNat)
    (grows : before.nextHandle ≤ after.nextHandle) (after_chain : after.chain = head :: further) :
    after.Recorded (ledger ++ creations service before after) := by
  subst isHead
  obtain ⟨own, later, declaration, there, named⟩ := recorded.latest head (by rw [chain_eq]; rfl)
  have isService := recorded.declared declaration there (named ▸ own)
  have given := recorded.below _ own
  have growth : Growth ledger head.handle before after added := {
    recorded, orderly, attributes_eq, fresh, grows, later
    begun := Nat.le_of_lt given
    own := List.mem_append_left _ own
    standing := ⟨declaration, attributes_eq ▸ List.mem_append_left _ there, named, isService⟩
    chain := by simp [after_chain] }
  exact growth.after_recorded

/-! ### Touching up and removing -/

/-- Attributes with the same frame have the same type. -/
theorem isService_of_frame {one other : Attribute} (same : one.frame = other.frame) :
    one.isService = other.isService := by
  have types : one.type = other.type := congrArg (fun frame => frame.2.1) same
  rw [Attribute.isService, Attribute.isService, types]

/-- Touching up leaves the record as it is. -/
theorem Recorded.retouch (recorded : before.Recorded ledger) {attributes : List Attribute}
    {chain : List Node}
    (same : attributes.map Attribute.frame = before.attributes.map Attribute.frame)
    (kept : chain = before.chain ∨ chain = []) :
    Recorded ledger { before with attributes, chain } where
  orderly := @Change.orderly before _ 0 (.retouched same kept) recorded.orderly
  below := recorded.below
  forward := recorded.forward
  ordered := recorded.ordered
  known := by
    intro entry member
    obtain ⟨old, there, framed⟩ := exists_of_frame same member
    have handles : old.handle = entry.handle := congrArg Prod.fst framed
    exact handles ▸ recorded.known old there
  declared := by
    intro entry member self
    obtain ⟨old, there, framed⟩ := exists_of_frame same member
    have handles : old.handle = entry.handle := congrArg Prod.fst framed
    rw [← isService_of_frame framed]
    exact recorded.declared old there (handles ▸ self)
  led := by
    intro entry member owner created
    obtain ⟨old, there, framed⟩ := exists_of_frame same member
    have handles : old.handle = entry.handle := congrArg Prod.fst framed
    obtain ⟨leader, present, known, isService, le⟩ :=
      recorded.led old there owner (handles ▸ created)
    obtain ⟨new, here, again⟩ := exists_of_frame same.symm present
    have names : new.handle = leader.handle := congrArg Prod.fst again
    refine ⟨new, here, names ▸ known, (isService_of_frame again).trans isService, ?_⟩
    rwa [names, ← handles]
  latest := by
    intro head first
    rcases kept with rfl | rfl
    · obtain ⟨own, later, declaration, there, named⟩ := recorded.latest head first
      obtain ⟨new, here, framed⟩ := exists_of_frame same.symm there
      have names : new.handle = declaration.handle := congrArg Prod.fst framed
      exact ⟨own, later, new, here, names.trans named⟩
    · cases first

section Stretch

variable {attributes front run rest : List Attribute} {declaration entry : Attribute}

/-- An attribute stands beside the stretch or belongs to it. -/
theorem Stretch.cases (stretch : Stretch attributes front declaration run rest)
    (member : entry ∈ attributes) :
    entry ∈ front ∨ entry = declaration ∨ entry ∈ run ∨ entry ∈ rest := by
  rw [stretch.attributes_eq] at member
  simpa using member

/-- The handles of what stands in front are lower. -/
theorem Stretch.front_lt (stretch : Stretch attributes front declaration run rest)
    (ascending : Ascending attributes) (member : entry ∈ front) :
    entry.handle < declaration.handle := by
  rw [stretch.attributes_eq] at ascending
  exact (List.pairwise_append.mp ascending).2.2 entry member declaration (by simp)

/-- The handles of what follows are higher. -/
theorem Stretch.lt_behind (stretch : Stretch attributes front declaration run rest)
    (ascending : Ascending attributes) (member : entry ∈ run ++ rest) :
    declaration.handle < entry.handle := by
  rw [stretch.attributes_eq] at ascending
  exact (List.pairwise_cons.mp (List.pairwise_append.mp ascending).2.1).1 entry member

/-- What stands behind the stretch is higher than what belongs to it. -/
theorem Stretch.run_lt (stretch : Stretch attributes front declaration run rest)
    (ascending : Ascending attributes) {other : Attribute} (within : entry ∈ run)
    (behind : other ∈ rest) : entry.handle < other.handle := by
  rw [stretch.attributes_eq] at ascending
  have tail := (List.pairwise_cons.mp (List.pairwise_append.mp ascending).2.1).2
  exact (List.pairwise_append.mp tail).2.2 entry within other behind

/-- Whatever stands behind the stretch has an attribute with the type of service declarations in
front of it that stands there too, or is one. -/
theorem Stretch.leader (stretch : Stretch attributes front declaration run rest)
    (ascending : Ascending attributes) (member : entry ∈ rest) :
    ∃ leader ∈ rest, leader.isService = true ∧ leader.handle ≤ entry.handle := by
  cases rest with
  | nil => cases member
  | cons leader others =>
    have isService := stretch.stops leader rfl
    refine ⟨leader, List.mem_cons_self, isService, ?_⟩
    rw [stretch.attributes_eq] at ascending
    have behind := (List.pairwise_cons.mp (List.pairwise_append.mp ascending).2.1).2
    have tail := List.pairwise_cons.mp (List.pairwise_append.mp behind).2.1
    rcases List.mem_cons.mp member with rfl | further
    · exact UInt16.le_refl _
    · exact UInt16.le_of_lt (tail.1 entry further)

/-- Behind the stretch a leader of a service is found for whatever was created for it. -/
theorem Recorded.leader_behind (recorded : database.Recorded ledger)
    (stretch : Stretch database.attributes front declaration run rest) {owner : Handle}
    (member : entry ∈ rest) (created : ⟨owner, entry.handle⟩ ∈ ledger)
    (first : ⟨owner, declaration.handle⟩ ∈ ledger) :
    ∃ leader ∈ rest, ⟨owner, leader.handle⟩ ∈ ledger ∧ leader.isService = true ∧
      leader.handle ≤ entry.handle := by
  have ascending := recorded.orderly.ascending
  obtain ⟨leader, behind, isService, le⟩ := stretch.leader ascending member
  have present : leader ∈ database.attributes := stretch.sublist.subset (by simp [behind])
  obtain ⟨between, known⟩ := recorded.known leader present
  have lower := stretch.lt_behind ascending (List.mem_append_right run behind)
  have same : between = owner := UInt16.le_antisymm
    (recorded.ordered _ known _ created le)
    (recorded.ordered _ first _ known (UInt16.le_of_lt lower))
  exact ⟨leader, behind, same ▸ known, isService, le⟩

/-- A stretch that goes leaves the record as it is. -/
theorem Recorded.remove (recorded : before.Recorded ledger)
    (stretch : Stretch before.attributes front declaration run rest) :
    Recorded ledger { before with
      attributes := front ++ rest
      chain := if before.chain.head?.any fun head => head.handle == declaration.handle then []
        else before.chain } where
  orderly := @Change.orderly before _ 0 (.removed stretch) recorded.orderly
  below := recorded.below
  forward := recorded.forward
  ordered := recorded.ordered
  known := fun entry member => recorded.known entry (stretch.sublist.subset member)
  declared := fun entry member => recorded.declared entry (stretch.sublist.subset member)
  led := by
    intro entry member owner created
    have ascending := recorded.orderly.ascending
    obtain ⟨leader, present, known, isService, le⟩ :=
      recorded.led entry (stretch.sublist.subset member) owner created
    rcases stretch.cases present with before | rfl | within | behind
    · exact ⟨leader, List.mem_append_left _ before, known, isService, le⟩
    · rcases List.mem_append.mp member with first | last
      · exact absurd (stretch.front_lt ascending first) (UInt16.not_lt.mpr le)
      · obtain ⟨other, there, facts⟩ := recorded.leader_behind stretch last created known
        exact ⟨other, List.mem_append_right _ there, facts⟩
    · rw [stretch.plain leader within] at isService
      cases isService
    · exact ⟨leader, List.mem_append_right _ behind, known, isService, le⟩
  latest := by
    intro head first
    split at first
    · cases first
    · rename_i other
      obtain ⟨own, later, start, there, named⟩ := recorded.latest head first
      refine ⟨own, later, start, ?_, named⟩
      rcases stretch.cases there with before | rfl | within | behind
      · exact List.mem_append_left _ before
      · rw [Option.mem_def.mp first] at other
        exact absurd (beq_iff_eq.mpr named.symm) other
      · have isService := recorded.declared start there (named ▸ own)
        rw [stretch.plain start within] at isService
        cases isService
      · exact List.mem_append_right _ behind

end Stretch

/-! ### Changes -/

/-- A change leaves the attributes that are there on record. -/
theorem Change.recorded (change : Change service before after) (recorded : before.Recorded ledger) :
    after.Recorded (ledger ++ creations service before after) := by
  have orderly := change.orderly recorded.orderly
  cases change with
  | retouched same kept =>
    rw [creations_eq_nil (by rfl), List.append_nil]
    exact recorded.retouch same kept
  | removed stretch =>
    rw [creations_eq_nil (by rfl), List.append_nil]
    exact recorded.remove stretch
  | @begun uuid next =>
    have growth : Growth ledger service before _ [.serviceDeclaration service uuid] := {
      recorded, orderly
      attributes_eq := rfl
      fresh := by simp [Attribute.serviceDeclaration, next]
      grows := Nat.le_succ _
      begun := Nat.le_of_eq next
      later := by
        intro creation member
        have forward := UInt16.le_iff_toNat_le.mp (recorded.forward creation member)
        have passed := recorded.below creation member
        exact UInt16.le_iff_toNat_le.mpr (by omega)
      own := List.mem_append_right _ ((mem_creations orderly.counted).mpr
        ⟨rfl, Nat.le_of_eq next.symm, Nat.lt_succ_of_le (Nat.le_of_eq next)⟩)
      standing := ⟨_, List.mem_append_right _ (List.mem_singleton_self _), rfl, rfl⟩
      chain := by simp }
    exact growth.after_recorded
  | @declared head rest uuid properties permissions handle chain_eq isHead next room =>
    refine recorded.extend orderly chain_eq isHead rfl ?_ (Nat.le_add_right _ _)
      (congrArg (· ++ _) chain_eq)
    simp [Attribute.characteristicDeclaration, Attribute.served, toNat_succ room, next]
  | @described head rest uuid permissions handle chain_eq isHead next =>
    refine recorded.extend orderly chain_eq isHead rfl ?_ (Nat.le_succ _)
      (congrArg (· ++ _) chain_eq)
    simp [Attribute.served, next]

/-- What was created between three moments was created between the first two or the last two. -/
theorem creations_append (first : before.nextHandle ≤ middle.nextHandle)
    (second : middle.nextHandle ≤ after.nextHandle) :
    creations service before middle ++ creations service middle after =
      creations service before after := by
  have ranges : List.range' before.nextHandle (middle.nextHandle - before.nextHandle) ++
      List.range' middle.nextHandle (after.nextHandle - middle.nextHandle) =
        List.range' before.nextHandle (after.nextHandle - before.nextHandle) := by
    obtain ⟨earlier, earlier_eq⟩ := Nat.exists_eq_add_of_le first
    obtain ⟨later, later_eq⟩ := Nat.exists_eq_add_of_le second
    rw [later_eq, earlier_eq, Nat.add_sub_cancel_left, Nat.add_sub_cancel_left, Nat.add_assoc,
      Nat.add_sub_cancel_left]
    exact List.range'_append_1
  simp only [creations, handedOut, ← List.map_append, ranges]

/-- So do any number of changes. -/
theorem Changes.recorded (changes : Changes service before after)
    (recorded : before.Recorded ledger) :
    after.Recorded (ledger ++ creations service before after) := by
  induction changes with
  | refl =>
    rw [creations_eq_nil rfl, List.append_nil]
    exact recorded
  | tail earlier change ih =>
    rw [← creations_append (Changes.nextHandle_le earlier) change.nextHandle_le,
      ← List.append_assoc]
    exact change.recorded ih

end Database

end BluetoothHost
