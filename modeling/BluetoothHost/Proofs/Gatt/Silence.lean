import BluetoothHost.Gatt.Publication
import BluetoothHost.Proofs.Calls

/-!
# The database answers no method call

Building, registering and removing services, keeping new values and telling peers about them are
matters between the host and the attribute server. The one method call that published services
know of is the registration that waits for its client, so every other call is left alone by all
that clients, peers and the server do to them.
-/

namespace BluetoothHost

variable {B A : Type} [AttributeServer A] {token : ReplyToken}

namespace Environment

/-- Telling the peers that a range has changed answers nothing. -/
theorem sendServiceChanged_silent (env : Environment B A) (range : HandleRange) :
    env.Silent token (env.sendServiceChanged range).2 := by
  have each : ∀ (peers : List Peer) (env : Environment B A), env.Silent token
      (peers.foldl (fun env peer => env.sendIndication peer.address range.changedMessage) env) := by
    intro peers
    induction peers with
    | nil => exact Silent.refl
    | cons peer peers ih =>
      intro env
      have sent : env.Silent token (env.sendIndication peer.address range.changedMessage) :=
        .of_call rfl rfl
      exact sent.trans (ih _)
  exact each _ env

end Environment

open Environment (Silent)

namespace Database

/-- Announcing a range answers nothing. -/
theorem announce_silent (database : Database) (range : HandleRange) (env : Environment B A) :
    env.Silent token (database.announce range env) := by
  unfold announce
  split
  · exact env.sendServiceChanged_silent range
  · exact .refl env

/-- Registering the service itself answers nothing. -/
theorem registerService_silent (entry : Attribute) (size : UInt16) (registration : Registration)
    (env : Environment B A) :
    env.Silent token (registerService entry size registration env).2.2 := by
  unfold registerService
  cases entry.serviceUuid? with
  | none => exact .refl env
  | some uuid =>
    have asked : env.Silent token (env.registerService uuid size).2 := .of_call rfl rfl
    dsimp only
    revert asked
    rcases env.registerService uuid size with ⟨_ | first, later⟩
    · exact id
    · exact id

/-- Registering a characteristic answers nothing. -/
theorem registerCharacteristic_silent (entry : Attribute) (registration : Registration)
    (env : Environment B A) :
    env.Silent token (registerCharacteristic entry registration env).2.2 := by
  unfold registerCharacteristic
  split
  · rename_i properties uuid service _ _
    have asked : env.Silent token (env.registerCharacteristic service uuid properties
      (entry.permissions.getD .none)).2 := .of_call rfl rfl
    dsimp only
    revert asked
    rcases env.registerCharacteristic service uuid properties
      (entry.permissions.getD .none) with ⟨_ | handle, later⟩
    · exact id
    · exact id
  · exact .refl env

/-- Registering a descriptor answers nothing. -/
theorem registerDescriptor_silent (entry : Attribute) (registration : Registration)
    (env : Environment B A) : env.Silent token (registerDescriptor entry registration env).2.2 := by
  unfold registerDescriptor
  cases registration.characteristic with
  | none => exact .refl env
  | some characteristic =>
    have asked : env.Silent token (env.registerDescriptor characteristic entry.type).2 :=
      .of_call rfl rfl
    dsimp only
    revert asked
    rcases env.registerDescriptor characteristic entry.type with ⟨_ | handle, later⟩
    · exact id
    · exact id

/-- Registering one attribute of the chain answers nothing. -/
theorem registerNode_silent (database : Database) (size : UInt16) (node : Node)
    (registration : Registration) (env : Environment B A) :
    env.Silent token (database.registerNode size node registration env).2.2 := by
  unfold registerNode
  cases database.findHandle? node.handle with
  | none => exact .refl env
  | some entry =>
    cases node.role with
    | service => exact registerService_silent entry size registration env
    | declaration => exact .refl env
    | value => exact registerCharacteristic_silent entry registration env
    | descriptor => exact registerDescriptor_silent entry registration env

/-- Registering a chain answers nothing. -/
theorem registerNodes_silent (database : Database) (size : UInt16) (nodes : List Node)
    (registration : Registration) (env : Environment B A) :
    env.Silent token (database.registerNodes size nodes registration env).2.2 := by
  induction nodes generalizing registration env with
  | nil => exact .refl env
  | cons node nodes ih =>
    have first := @registerNode_silent B A _ token database size node registration env
    unfold registerNodes
    revert first
    rcases database.registerNode size node registration env with ⟨_ | _, middle, later⟩
    · exact id
    · exact fun first => first.trans (ih middle later)

/-- Registering the service under construction answers nothing. -/
theorem materialize_silent (database : Database) (env : Environment B A) :
    env.Silent token (database.materialize env).2.2 := by
  unfold materialize
  cases database.chain with
  | nil => exact .refl env
  | cons head rest =>
    by_cases isService : head.role = .service
    · have walked := @registerNodes_silent B A _ token database
        (database.tableSize (head :: rest)) (head :: rest) {} env
      simp only [if_pos isService]
      revert walked
      rcases database.registerNodes (database.tableSize (head :: rest)) (head :: rest) {} env with
        ⟨outcome, registration, later⟩
      intro walked
      cases outcome with
      | ok =>
        cases ranged : registration.range? with
        | none => exact walked.trans (announce_silent _ _ _)
        | some range => exact walked.trans (announce_silent _ _ _)
      | error cause =>
        cases ranged : registration.range? with
        | none => exact walked.trans (announce_silent _ _ _)
        | some range =>
          have dropped : later.Silent token (later.removeRange range) := .of_call rfl rfl
          exact (walked.trans dropped).trans (announce_silent _ _ _)
    · simp only [if_neg isService]
      exact .refl env

/-- Removing a service answers nothing. -/
theorem removeService_silent (database : Database) (service : Handle) (env : Environment B A) :
    env.Silent token (database.removeService service env).2.2 := by
  unfold removeService
  split
  · exact .refl env
  · split
    · exact .refl env
    · rename_i declaration above _
      by_cases isService : declaration.isService = true
      · simp only [if_pos isService]
        cases declaration.range with
        | none => exact .refl env
        | some range =>
          have dropped : env.Silent token (env.removeRange range) := .of_call rfl rfl
          exact dropped.trans (announce_silent _ _ _)
      · simp only [if_neg isService]
        exact .refl env

/-- Keeping a new value answers nothing. -/
theorem updateValue_silent (database : Database) (uuid : Uuid) (value : List UInt8)
    (env : Environment B A) : env.Silent token (database.updateValue uuid value env).2.2 := by
  unfold updateValue
  split
  · rename_i entry _ _
    cases Bytes.ofList? Limits.attributeValue value with
    | none => exact .refl env
    | some kept =>
      dsimp only
      split
      · exact .refl env
      · rename_i properties _
        have told : env.Silent token (env.updateValue uuid value).2 := .of_call rfl rfl
        revert told
        rcases env.updateValue uuid value with ⟨_ | _, later⟩
        · exact id
        · intro told
          unfold push
          by_cases pushes : properties.pushesUpdates = true
          · simp only [if_pos pushes]
            by_cases ready : entry.notifyReady = true
            · simp only [if_pos ready]
              have sent : later.Silent token (later.notify uuid value) := .of_call rfl rfl
              exact told.trans sent
            · simp only [if_neg ready]
              exact told
          · simp only [if_neg pushes]
            exact told
  · exact .refl env

end Database

end BluetoothHost
