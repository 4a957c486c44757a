import BluetoothHost.Proofs.Gatt.Materialize

/-!
# The walk along the chain, whatever the server answers

A server may refuse any registration and may answer with any handles. The walk asks for one thing
after the other until something is refused, and it keeps the first handle of the service and the
highest one that it has seen. So the range that is left at the end begins with the handle of the
service and reaches beyond every answer, wherever the walk has stopped.
-/

namespace BluetoothHost

namespace Call

/-- The answer to a registration. -/
def registration? : Call → Option (Option Handle)
  | .registerService _ _ handle => some handle
  | .registerCharacteristic _ _ _ _ handle => some handle
  | .registerDescriptor _ _ handle => some handle
  | _ => none

/-- Whether something is to be registered. -/
def isRegistration (call : Call) : Bool := call.registration?.isSome

/-- Whether a registration was refused. -/
def isRefused (call : Call) : Bool := call.registration? == some none

/-- The handle under which a service was accepted. -/
def acceptedService? : Call → Option Handle
  | .registerService _ _ handle => handle
  | _ => none

/-- The handles that a registration has taken: the one in the answer and, for a characteristic that
pushes its updates, that of its configuration, which is the next one as far as there is one. -/
def takenHandles : Call → List Handle
  | .registerService _ _ (some first) => [first]
  | .registerCharacteristic _ _ properties _ (some value) =>
    if properties.pushesUpdates then [value, handleAfter value] else [value]
  | .registerDescriptor _ _ (some handle) => [handle]
  | _ => []

/-- The range that a call drops. -/
def removedRange? : Call → Option HandleRange
  | .removeRange range => some range
  | _ => none

end Call

/-- The handles under which services were accepted, in the order of the calls. -/
def acceptedServices (calls : List Call) : List Handle := calls.filterMap Call.acceptedService?

/-- The ranges that were dropped, in the order of the calls. -/
def removedRanges (calls : List Call) : List HandleRange := calls.filterMap Call.removedRange?

/-- Services that were accepted earlier come before later ones. -/
@[simp] theorem acceptedServices_append (earlier later : List Call) :
    acceptedServices (earlier ++ later) = acceptedServices earlier ++ acceptedServices later :=
  List.filterMap_append

/-- So do ranges that were removed. -/
@[simp] theorem removedRanges_append (earlier later : List Call) :
    removedRanges (earlier ++ later) = removedRanges earlier ++ removedRanges later :=
  List.filterMap_append

/-- Nothing is registered after a refusal. -/
def StopsAtRefusal (calls : List Call) : Prop :=
  calls.Pairwise fun earlier later => earlier.isRefused = true → later.isRegistration = false

/-- Registrations one after the other. The first refusal is the last of them, and where there is one
the outcome is a failure. -/
inductive Asks {α : Type} : (outcome : Except Error α) → List Call → Prop
  /-- Nothing more is asked for. -/
  | done {outcome : Except Error α} : Asks outcome []
  /-- A registration is refused. -/
  | refused {cause : Error} {call : Call} (answer : call.registration? = some none) :
      Asks (.error cause) [call]
  /-- A registration is accepted. -/
  | accepted {outcome : Except Error α} {call : Call} {handle : Handle} {calls : List Call}
      (answer : call.registration? = some (some handle)) (others : Asks outcome calls) :
      Asks outcome (call :: calls)

namespace Asks

variable {α : Type} {outcome : Except Error α} {calls : List Call}

/-- After registrations that were all accepted one may go on asking. -/
theorem append {β : Type} {value : β} {earlier : List Call}
    (first : Asks (.ok value : Except Error β) earlier) (second : Asks outcome calls) :
    Asks outcome (earlier ++ calls) := by
  generalize fine : (.ok value : Except Error β) = ended at first
  induction first with
  | done => exact second
  | refused => cases fine
  | accepted answer others ih => exact .accepted answer (ih fine)

/-- All calls are registrations. -/
theorem isRegistration (asks : Asks outcome calls) :
    ∀ call ∈ calls, call.isRegistration = true := by
  induction asks with
  | done => simp
  | refused answer => simp [Call.isRegistration, answer]
  | accepted answer others ih => simpa [Call.isRegistration, answer] using ih

/-- The first refusal is the last of them. -/
theorem stopsAtRefusal (asks : Asks outcome calls) : StopsAtRefusal calls := by
  induction asks with
  | done => exact .nil
  | refused => exact List.pairwise_singleton _ _
  | accepted answer others ih =>
    refine List.pairwise_cons.mpr ⟨fun later member refused => ?_, ih⟩
    simp [Call.isRefused, answer] at refused

/-- Registrations drop nothing. -/
theorem removedRanges_eq_nil (asks : Asks outcome calls) : removedRanges calls = [] := by
  refine List.filterMap_eq_nil_iff.mpr fun call member => ?_
  have registers := asks.isRegistration call member
  cases call with
  | removeRange => cases registers
  | _ => rfl

end Asks

/-- What the walk does behind the declaration of the service: it asks for elements, keeps the first
handle, and the highest one is not lower than any that was taken. -/
structure Walked (before : Registration) (calls : List Call) (outcome : Except Error Unit)
    (after : Registration) : Prop where
  /-- It asks until something is refused. -/
  asks : Asks outcome calls
  /-- It asks for no service. -/
  inner : acceptedServices calls = []
  /-- The first handle stays. -/
  kept : after.first = before.first
  /-- The highest one does not become lower. -/
  grows : before.last ≤ after.last
  /-- It is not lower than those that were taken. -/
  reached : ∀ call ∈ calls, ∀ handle ∈ call.takenHandles, handle ≤ after.last

namespace Walked

variable {before middle after : Registration} {outcome : Except Error Unit}

/-- The walk stands still. -/
theorem still (same : after.first = before.first) (level : after.last = before.last) :
    Walked before [] outcome after where
  asks := .done
  inner := rfl
  kept := same
  grows := UInt16.le_of_eq level.symm
  reached := by simp

/-- The walk goes on. -/
theorem trans {earlier later : List Call} (first : Walked before earlier (.ok ()) middle)
    (second : Walked middle later outcome after) :
    Walked before (earlier ++ later) outcome after where
  asks := first.asks.append second.asks
  inner := by rw [acceptedServices_append, first.inner, second.inner, List.append_nil]
  kept := second.kept.trans first.kept
  grows := UInt16.le_trans first.grows second.grows
  reached := by
    intro call member handle taken
    rcases List.mem_append.mp member with before | behind
    · exact UInt16.le_trans (first.reached call before handle taken) second.grows
    · exact second.reached call behind handle taken

end Walked

namespace Registration

/-- A further handle is not lower than the highest one afterwards. -/
theorem le_last_extend (registration : Registration) (handle : Handle) :
    registration.last ≤ (registration.extend handle).last ∧
      handle ≤ (registration.extend handle).last := by
  have highest : (registration.extend handle).last.toNat =
      max registration.last.toNat handle.toNat := UInt16.toNat_max _ _
  constructor
  · exact UInt16.le_iff_toNat_le.mpr (by omega)
  · exact UInt16.le_iff_toNat_le.mpr (by omega)

end Registration

/-- No handle is higher than the one behind it, as far as there is one. -/
theorem le_handleAfter (handle : Handle) : handle ≤ handleAfter handle := by
  by_cases last : handle = 0xFFFF
  · rw [handleAfter, if_pos last]
    exact UInt16.le_refl _
  · have different : handle.toNat ≠ 65535 := fun same => last (UInt16.toNat_inj.mp same)
    have bound : handle.toNat < 65536 := handle.toNat_lt
    have room : handle.toNat < Limits.lastHandle.toNat := by
      show handle.toNat < 65535
      omega
    have next : (handle + 1).toNat = handle.toNat + 1 := Database.toNat_succ room
    rw [handleAfter, if_neg last]
    exact UInt16.le_iff_toNat_le.mpr (by omega)

namespace Database

variable {B A : Type} [AttributeServer A] {database : Database} {registration : Registration}

omit [AttributeServer A] in
/-- Taking note of a declaration leaves the handles alone. -/
theorem noteDeclaration_range (entry : Attribute) (registration : Registration) :
    (noteDeclaration entry registration).2.first = registration.first ∧
      (noteDeclaration entry registration).2.last = registration.last := by
  unfold noteDeclaration
  split
  · exact ⟨rfl, rfl⟩
  · exact ⟨rfl, rfl⟩

/-- A characteristic is one call at most. -/
theorem registerCharacteristic_walked (entry : Attribute) (registration : Registration)
    (env : Environment B A) :
    ∃ calls, env.Makes calls (registerCharacteristic entry registration env).2.2 ∧
      Walked registration calls (registerCharacteristic entry registration env).1
        (registerCharacteristic entry registration env).2.1 := by
  unfold registerCharacteristic
  split
  · rename_i properties uuid service _ begun
    have made := env.registerCharacteristic_makes service uuid properties
      (entry.permissions.getD .none)
    dsimp only
    revert made
    rcases env.registerCharacteristic service uuid properties (entry.permissions.getD .none) with
      ⟨_ | value, later⟩
    · intro made
      exact ⟨_, made, .refused rfl, rfl, rfl, UInt16.le_refl _, by simp [Call.takenHandles]⟩
    · intro made
      have highest := registration.le_last_extend
        (if properties.pushesUpdates then handleAfter value else value)
      refine ⟨_, made, .accepted rfl .done, rfl, rfl, highest.1, fun call member handle taken => ?_⟩
      rw [List.mem_singleton.mp member] at taken
      refine UInt16.le_trans ?_ highest.2
      by_cases pushes : properties.pushesUpdates = true
      · rw [if_pos pushes]
        rw [Call.takenHandles, if_pos pushes] at taken
        rcases List.mem_pair.mp taken with rfl | rfl
        · exact le_handleAfter _
        · exact UInt16.le_refl _
      · rw [if_neg pushes]
        rw [Call.takenHandles, if_neg pushes] at taken
        exact UInt16.le_of_eq (List.mem_singleton.mp taken)
  · exact ⟨[], env.makes_nil, .still rfl rfl⟩

/-- So is a descriptor. -/
theorem registerDescriptor_walked (entry : Attribute) (registration : Registration)
    (env : Environment B A) :
    ∃ calls, env.Makes calls (registerDescriptor entry registration env).2.2 ∧
      Walked registration calls (registerDescriptor entry registration env).1
        (registerDescriptor entry registration env).2.1 := by
  unfold registerDescriptor
  split
  · exact ⟨[], env.makes_nil, .still rfl rfl⟩
  · rename_i characteristic _
    have made := env.registerDescriptor_makes characteristic entry.type
    revert made
    rcases env.registerDescriptor characteristic entry.type with ⟨_ | handle, later⟩
    · intro made
      exact ⟨_, made, .refused rfl, rfl, rfl, UInt16.le_refl _, by simp [Call.takenHandles]⟩
    · intro made
      have highest := registration.le_last_extend handle
      refine ⟨_, made, .accepted rfl .done, rfl, rfl, highest.1, fun call member other taken => ?_⟩
      rw [List.mem_singleton.mp member] at taken
      rw [List.mem_singleton.mp taken]
      exact highest.2

/-- A node that is not the declaration of the service is one step of the walk. -/
theorem registerNode_walked {node : Node} (inner : node.role ≠ .service) (size : UInt16)
    (registration : Registration) (env : Environment B A) :
    ∃ calls, env.Makes calls (database.registerNode size node registration env).2.2 ∧
      Walked registration calls (database.registerNode size node registration env).1
        (database.registerNode size node registration env).2.1 := by
  unfold registerNode
  split
  · exact ⟨[], env.makes_nil, .still rfl rfl⟩
  rename_i entry _
  split
  · rename_i isService
    exact absurd isService inner
  · have noted := noteDeclaration_range entry registration
    exact ⟨[], env.makes_nil, .still noted.1 noted.2⟩
  · exact registerCharacteristic_walked entry registration env
  · exact registerDescriptor_walked entry registration env

/-- So is a list of such nodes. -/
theorem registerNodes_walked {nodes : List Node} (inner : ∀ node ∈ nodes, node.role ≠ .service)
    (size : UInt16) (registration : Registration) (env : Environment B A) :
    ∃ calls, env.Makes calls (database.registerNodes size nodes registration env).2.2 ∧
      Walked registration calls (database.registerNodes size nodes registration env).1
        (database.registerNodes size nodes registration env).2.1 := by
  induction nodes generalizing registration env with
  | nil => exact ⟨[], env.makes_nil, .still rfl rfl⟩
  | cons node rest ih =>
    obtain ⟨here, others⟩ := List.forall_mem_cons.mp inner
    obtain ⟨calls, made, walked⟩ :=
      @registerNode_walked B A _ database _ here size registration env
    unfold registerNodes
    revert made walked
    rcases database.registerNode size node registration env with ⟨_ | _, middle, later⟩
    · exact fun made walked => ⟨calls, made, walked⟩
    · intro made walked
      obtain ⟨further, makes, goes⟩ := ih others middle later
      exact ⟨calls ++ further, made.append makes, walked.trans goes⟩

/-- The declaration of the service is one call at most, and if it is accepted, the walk begins with
the handle in the answer. -/
theorem registerService_cases (entry : Attribute) (size : UInt16) (registration : Registration)
    (env : Environment B A) :
    (∃ cause calls later, registerService entry size registration env =
        (.error cause, registration, later) ∧
      env.Makes calls later ∧ Asks (.error cause : Except Error Unit) calls ∧
        acceptedServices calls = []) ∨
      ∃ uuid start later, registerService entry size registration env =
          (.ok (), { registration with first := some start, last := start }, later) ∧
        env.Makes [.registerService uuid size (some start)] later := by
  unfold registerService
  split
  · exact .inl ⟨_, [], env, rfl, env.makes_nil, .done, rfl⟩
  · rename_i uuid _
    have made := env.registerService_makes uuid size
    revert made
    rcases env.registerService uuid size with ⟨_ | start, later⟩
    · exact fun made => .inl ⟨_, _, later, rfl, made, .refused rfl, rfl⟩
    · exact fun made => .inr ⟨uuid, start, later, rfl, made⟩

/-- How a walk ends: no service was accepted and nothing is left on the server, or a service was
accepted and the range that is left begins with its handle and ends at none lower than those that
were taken. -/
inductive Ended (calls : List Call) : Except Error Unit → Option HandleRange → Prop
  /-- No service was accepted. -/
  | unaccepted {cause : Error} (asks : Asks (.error cause : Except Error Unit) calls)
      (unaccepted : acceptedServices calls = []) : Ended calls (.error cause) none
  /-- The service was accepted. -/
  | accepted {outcome : Except Error Unit} {range : HandleRange} (asks : Asks outcome calls)
      (begun : acceptedServices calls = [range.first])
      (reached : ∀ call ∈ calls, ∀ handle ∈ call.takenHandles, handle ≤ range.last) :
      Ended calls outcome (some range)

/-- So ends the walk along a chain that begins with its only declaration. -/
theorem registerNodes_ended {head : Node} {rest : List Node} (isService : head.role = .service)
    (inner : ∀ node ∈ rest, node.role ≠ .service) (size : UInt16) (env : Environment B A) :
    ∃ calls, env.Makes calls (database.registerNodes size (head :: rest) {} env).2.2 ∧
      Ended calls (database.registerNodes size (head :: rest) {} env).1
        (database.registerNodes size (head :: rest) {} env).2.1.range? := by
  unfold registerNodes registerNode
  cases database.findHandle? head.handle with
  | none => exact ⟨[], env.makes_nil, .unaccepted .done rfl⟩
  | some entry =>
    simp only [isService]
    rcases registerService_cases entry size {} env with
      ⟨cause, calls, later, refused, made, asks, unaccepted⟩ |
        ⟨uuid, start, later, accepted, made⟩
    · rw [refused]
      exact ⟨calls, made, .unaccepted asks unaccepted⟩
    · rw [accepted]
      obtain ⟨calls, makes, walked⟩ := @registerNodes_walked B A _ database _ inner size
        { first := some start, last := start } later
      dsimp only
      revert makes walked
      rcases database.registerNodes size rest { first := some start, last := start } later with
        ⟨outcome, ended, final⟩
      intro makes walked
      have ranged : ended.range? = some ⟨start, max ended.last start⟩ := by
        rw [Registration.range?, walked.kept]
        rfl
      have highest : (max ended.last start).toNat = max ended.last.toNat start.toNat :=
        UInt16.toNat_max _ _
      refine ⟨_ :: calls, made.append makes, ?_⟩
      rw [ranged]
      refine .accepted (.accepted rfl walked.asks) ?_ fun call member handle taken => ?_
      · have inner : acceptedServices calls = [] := walked.inner
        exact congrArg (start :: ·) inner
      · apply UInt16.le_iff_toNat_le.mpr
        show handle.toNat ≤ (max ended.last start).toNat
        rcases List.mem_cons.mp member with rfl | behind
        · rw [List.mem_singleton.mp taken]
          omega
        · have below : handle.toNat ≤ ended.last.toNat :=
            UInt16.le_iff_toNat_le.mp (walked.reached call behind handle taken)
          omega

/-! ### The whole registration -/

/-- A chain is empty or begins with the declaration of the service, and that is the only one. -/
def Chained : List Node → Prop
  | [] => True
  | head :: rest => head.role = .service ∧ ∀ node ∈ rest, node.role ≠ .service

/-- Announcements register and drop nothing. -/
theorem announcements_plain (database : Database) (range : HandleRange) (server : A) :
    ∀ call ∈ database.announcements range server,
      call.registration? = none ∧ call.acceptedService? = none ∧ call.removedRange? = none ∧
        call.takenHandles = [] := by
  intro call member
  unfold announcements at member
  split at member
  · obtain ⟨peer, -, rfl⟩ := List.mem_map.mp member
    exact ⟨rfl, rfl, rfl, rfl⟩
  · cases member

/-- So no service is accepted and no range is dropped by them. -/
theorem announcements_silent (database : Database) (range : HandleRange) (server : A) :
    acceptedServices (database.announcements range server) = [] ∧
      removedRanges (database.announcements range server) = [] := by
  have plain := database.announcements_plain range server
  constructor
  · exact List.filterMap_eq_nil_iff.mpr fun call member => (plain call member).2.1
  · exact List.filterMap_eq_nil_iff.mpr fun call member => (plain call member).2.2.1

/-- Everything that registering the service under construction can do. -/
inductive Materialized (database : Database) (env : Environment B A) :
    Except Error HandleRange × Database × Environment B A → Prop
  /-- No service is under construction. -/
  | idle (chain_eq : database.chain = []) :
      Materialized database env (.error .notAvailable, { database with chain := [] }, env)
  /-- The service is registered, and its range is remembered. -/
  | registered {head : Node} {rest : List Node} {calls : List Call} {range : HandleRange}
      {later : Environment B A} (chain_eq : database.chain = head :: rest)
      (made : env.Makes calls later) :
      Materialized database env
        (.ok range, database.registered head.handle range, database.announce range later)
  /-- The service was accepted and is dropped. -/
  | dropped {calls : List Call} {cause : Error} {range : HandleRange} {later : Environment B A}
      (made : env.Makes calls later) (asks : Asks (.error cause : Except Error Unit) calls)
      (begun : acceptedServices calls = [range.first])
      (reached : ∀ call ∈ calls, ∀ handle ∈ call.takenHandles, handle ≤ range.last) :
      Materialized database env (.error cause, { database with chain := [] },
        database.announce range (later.removeRange range))
  /-- The service was not accepted. -/
  | unaccepted {calls : List Call} {cause : Error} {range : HandleRange} {later : Environment B A}
      (made : env.Makes calls later) (asks : Asks (.error cause : Except Error Unit) calls)
      (unaccepted : acceptedServices calls = []) :
      Materialized database env
        (.error cause, { database with chain := [] }, database.announce range later)

/-- There are no other ways for it to end. -/
theorem materialize_materialized (chained : Chained database.chain) (env : Environment B A) :
    Materialized database env (database.materialize env) := by
  unfold materialize
  dsimp only
  split
  · rename_i chain_eq
    exact .idle chain_eq
  · rename_i head rest chain_eq
    rw [chain_eq] at chained
    obtain ⟨isService, inner⟩ := chained
    obtain ⟨calls, made, ended⟩ := @registerNodes_ended B A _ database head rest isService inner
      (database.tableSize (head :: rest)) env
    rw [if_pos isService]
    revert made ended
    rcases database.registerNodes (database.tableSize (head :: rest)) (head :: rest) {} env with
      ⟨outcome, registration, later⟩
    intro made ended
    dsimp only at made ended ⊢
    generalize registration.range? = ranged at ended ⊢
    cases ended with
    | unaccepted asks unaccepted => exact .unaccepted made asks unaccepted
    | @accepted _ range asks begun reached =>
      cases outcome with
      | ok => exact .registered chain_eq made
      | error cause => exact .dropped made asks begun reached

end Database

end BluetoothHost
