import BluetoothHost.Proofs.Gatt.Run

/-!
# Which handles are given out

Handles come from a counter that starts at the first handle and never goes back. An addition that
is refused takes none. One that goes well hands out the next one or, for a characteristic, the next
two, so that the handles of a run ascend in the order in which they were handed out, whatever was
removed in between.
-/

namespace BluetoothHost.Database

variable {B A : Type} {database before after : Database}

/-- The handles that an operation hands out. For a characteristic the handle of the value is
returned, and the one in front of it is that of the declaration. -/
def handsOut (database : Database) (operation : Operation B A) (_ : Environment B A) :
    List Handle :=
  match operation with
  | .addService uuid => (database.addService uuid).1.toOption.toList
  | .addCharacteristic uuid properties permissions =>
    (database.addCharacteristic uuid properties permissions).1.toOption.toList.flatMap fun value =>
      [value - 1, value]
  | .addDescriptor uuid permissions =>
    (database.addDescriptor uuid permissions).1.toOption.toList
  | _ => []

/-- Handles that were taken from the counter between two moments, in ascending order. -/
structure Allocated (handles : List Handle) (before after : Database) : Prop where
  /-- They ascend. -/
  ascending : handles.Pairwise (· < ·)
  /-- The counter had not passed them. -/
  fresh : ∀ handle ∈ handles, before.nextHandle ≤ handle.toNat
  /-- It has passed them. -/
  passed : ∀ handle ∈ handles, handle.toNat < after.nextHandle

/-- No handle is taken. -/
theorem allocated_nil (before after : Database) : Allocated [] before after where
  ascending := .nil
  fresh := by simp
  passed := by simp

/-- The next handle is taken. -/
theorem allocated_next {handle : Handle} (next : handle.toNat = before.nextHandle)
    (counter : after.nextHandle = before.nextHandle + 1) : Allocated [handle] before after where
  ascending := List.pairwise_singleton _ _
  fresh := by
    intro other member
    rw [List.mem_singleton.mp member]
    omega
  passed := by
    intro other member
    rw [List.mem_singleton.mp member]
    omega

/-- The next two handles are taken. -/
theorem allocated_pair {handle : Handle} (next : handle.toNat = before.nextHandle)
    (room : handle.toNat < Limits.lastHandle.toNat)
    (counter : after.nextHandle = before.nextHandle + 2) :
    Allocated [handle, handle + 1] before after := by
  have successor : (handle + 1).toNat = handle.toNat + 1 := toNat_succ room
  constructor
  · exact List.pairwise_pair.mpr (lt_succ room)
  · intro other member
    rcases List.mem_pair.mp member with rfl | rfl <;> omega
  · intro other member
    rcases List.mem_pair.mp member with rfl | rfl <;> omega

/-- What is taken in two steps ascends. -/
theorem Allocated.append {middle : Database} {earlier later : List Handle}
    (first : Allocated earlier before middle) (second : Allocated later middle after)
    (grows : before.nextHandle ≤ middle.nextHandle) (goes : middle.nextHandle ≤ after.nextHandle) :
    Allocated (earlier ++ later) before after where
  ascending := by
    apply List.pairwise_append.mpr
    refine ⟨first.ascending, second.ascending, fun low taken high added => ?_⟩
    have below := first.passed low taken
    have above := second.fresh high added
    exact UInt16.lt_iff_toNat_lt.mpr (by omega)
  fresh := by
    intro handle member
    rcases List.mem_append.mp member with taken | added
    · exact first.fresh handle taken
    · have above := second.fresh handle added
      omega
  passed := by
    intro handle member
    rcases List.mem_append.mp member with taken | added
    · have below := first.passed handle taken
      omega
    · exact second.passed handle added

variable [AttributeServer A]

/-- What an operation hands out comes from the counter. -/
theorem handsOut_allocated (orderly : database.Orderly) (operation : Operation B A)
    (env : Environment B A) : Allocated (database.handsOut operation env) database
      (database.perform operation env).1 := by
  cases operation with
  | addService uuid =>
    rcases addService_eq orderly uuid with ⟨cause, refused⟩ | ⟨service, next, added⟩
    · simp only [handsOut, refused]
      exact allocated_nil _ _
    · simp only [handsOut, perform, added]
      exact allocated_next next rfl
  | addCharacteristic uuid properties permissions =>
    rcases addCharacteristic_eq orderly uuid properties permissions with ⟨cause, refused⟩ |
      ⟨handle, next, room, -, -, added⟩
    · simp only [handsOut, refused]
      exact allocated_nil _ _
    · have declaration : handle + 1 - 1 = handle := UInt16.add_sub_cancel handle 1
      have handles : database.handsOut
          (.addCharacteristic uuid properties permissions : Operation B A) env =
            [handle, handle + 1] := by
        simp [handsOut, added, Except.toOption, declaration]
      rw [handles]
      simp only [perform, added]
      exact allocated_pair next room rfl
  | addDescriptor uuid permissions =>
    rcases addDescriptor_eq orderly uuid permissions with ⟨cause, refused⟩ |
      ⟨handle, next, -, -, added⟩
    · simp only [handsOut, refused]
      exact allocated_nil _ _
    · simp only [handsOut, perform, added]
      exact allocated_next next rfl
  | _ => exact allocated_nil _ _

/-- So does what a run hands out. -/
theorem collect_allocated (orderly : database.Orderly) (operations : List (Operation B A))
    (env : Environment B A) :
    Allocated (database.collect handsOut operations env) database (database.run operations env).1 ∧
      database.nextHandle ≤ (database.run operations env).1.nextHandle := by
  induction operations generalizing database env with
  | nil => exact ⟨allocated_nil _ _, Nat.le_refl _⟩
  | cons operation operations ih =>
    have first := handsOut_allocated orderly operation env
    have grows := nextHandle_le_perform orderly operation env
    obtain ⟨rest, goes⟩ := ih (perform_orderly orderly operation env)
      (database.perform operation env).2
    exact ⟨first.append rest grows goes, Nat.le_trans grows goes⟩

/-- No attribute has a handle below this one. -/
def StartsAt (first : Nat) (database : Database) : Prop :=
  first ≤ database.nextHandle ∧ ∀ entry ∈ database.attributes, first ≤ entry.handle.toNat

/-- An operation adds no lower handles. -/
theorem perform_startsAt {first : Nat} (orderly : database.Orderly)
    (starts : database.StartsAt first) (operation : Operation B A) (env : Environment B A) :
    (database.perform operation env).1.StartsAt first := by
  obtain ⟨service, changes⟩ := perform_changes orderly operation env
  have grows := changes.nextHandle_le
  obtain ⟨counter, lowest⟩ := starts
  refine ⟨Nat.le_trans counter grows, fun entry member => ?_⟩
  by_cases given : entry.handle.toNat < database.nextHandle
  · obtain ⟨old, there, same⟩ := changes.old member given
    have handles : old.handle = entry.handle := congrArg Prod.fst same
    exact handles ▸ lowest old there
  · omega

/-- Nor does a run. -/
theorem run_startsAt {first : Nat} (orderly : database.Orderly)
    (starts : database.StartsAt first) (operations : List (Operation B A)) (env : Environment B A) :
    (database.run operations env).1.StartsAt first := by
  have both := run_invariant (fun database => database.Orderly ∧ database.StartsAt first)
    (fun _ operation env before => ⟨perform_orderly before.1 operation env,
      perform_startsAt before.1 before.2 operation env⟩) ⟨orderly, starts⟩ operations env
  exact both.2

omit [AttributeServer A] in
/-- An added characteristic has its declaration right in front of its value. -/
theorem addCharacteristic_adjacent (orderly : database.Orderly) {uuid : Uuid}
    {properties : CharacteristicProperties} {permissions : Permissions} {value : Handle}
    (added : database.addCharacteristic uuid properties permissions = (.ok value, after)) :
    ∃ declaration : Handle, value.toNat = declaration.toNat + 1 ∧
      after.findHandle? declaration =
        some (.characteristicDeclaration declaration properties value uuid) ∧
      after.findHandle? value = some (.served value uuid permissions) := by
  have ordered := addCharacteristic_orderly orderly uuid properties permissions
  rw [added] at ordered
  rcases addCharacteristic_eq orderly uuid properties permissions with ⟨cause, refused⟩ |
    ⟨handle, -, room, -, -, taken⟩
  · rw [refused] at added
    cases added
  · rw [taken] at added
    cases added
    refine ⟨handle, toNat_succ room, ?_, ?_⟩
    · exact (findHandle?_eq_some_iff ordered.ascending).mpr ⟨by simp, rfl⟩
    · exact (findHandle?_eq_some_iff ordered.ascending).mpr ⟨by simp, rfl⟩

/-- In every run from a database in which nothing was stored yet, whether its operations succeed or
fail, the attributes stand in ascending order of their handles, none of which is lower than the
first handle or has not been passed by the counter. The counter never goes back and ends at most
behind the highest handle. The handles that were handed out ascend in the order in which they were,
so that none is handed out again. The value of a characteristic that is added has the handle behind
that of its declaration. An attribute is found under a handle exactly if it is there and has the
handle. -/
theorem run_handles (first : Handle) (announces : Bool) (operations : List (Operation B A))
    (env : Environment B A) :
    let database := ((fresh first announces).run operations env).1
    Ascending database.attributes ∧
    (∀ entry ∈ database.attributes,
      first ≤ entry.handle ∧ entry.handle.toNat < database.nextHandle) ∧
    (database.nextHandle ≤ 0x10000 ∧ ∀ (operation : Operation B A) (now : Environment B A),
      database.nextHandle ≤ (database.perform operation now).1.nextHandle) ∧
    ((fresh first announces).collect handsOut operations env).Pairwise (· < ·) ∧
    (∀ uuid properties permissions value after,
      database.addCharacteristic uuid properties permissions = (.ok value, after) →
      ∃ declaration : Handle, value.toNat = declaration.toNat + 1 ∧
        after.findHandle? declaration =
          some (.characteristicDeclaration declaration properties value uuid) ∧
        after.findHandle? value = some (.served value uuid permissions)) ∧
    ∀ handle entry, database.findHandle? handle = some entry ↔
      entry ∈ database.attributes ∧ entry.handle = handle := by
  intro database
  have started : (fresh first announces).Orderly := orderly_fresh first announces
  have orderly : database.Orderly := run_orderly started operations env
  have lowest : (fresh first announces).StartsAt first.toNat := ⟨Nat.le_refl _, by simp [fresh]⟩
  have starts : database.StartsAt first.toNat := run_startsAt started lowest operations env
  obtain ⟨allocated, -⟩ := collect_allocated started operations env
  refine ⟨orderly.ascending, fun entry member => ?_, ⟨orderly.counted, ?_⟩, allocated.ascending,
    ?_, ?_⟩
  · have above := starts.2 entry member
    exact ⟨UInt16.le_iff_toNat_le.mpr above, orderly.below entry member⟩
  · exact fun operation now => nextHandle_le_perform orderly operation now
  · exact fun uuid properties permissions value after added =>
      addCharacteristic_adjacent orderly added
  · exact fun handle entry => findHandle?_eq_some_iff orderly.ascending

end BluetoothHost.Database
