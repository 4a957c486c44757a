/-!
# Errors

Every failure that reaches a bus caller is one of these causes. A cause has a name, by which
programs tell causes apart, and a message for people.
-/

namespace BluetoothHost

/-- The causes for which a call is refused. -/
inductive Error
  /-- An argument is malformed or has the wrong type. -/
  | invalidArguments
  /-- The caller does not hold what the call needs. -/
  | notAuthorized
  /-- Another request is still in flight. -/
  | alreadyInProgress
  /-- The object is already registered. -/
  | alreadyExists
  /-- The operation makes no sense in the present state. -/
  | notAvailable
  /-- There is no such object. -/
  | doesNotExist
  /-- The object does not have this operation. -/
  | notSupported
  /-- Any other failure, with its reason in words. -/
  | failed (reason : String)
deriving DecidableEq

namespace Error

/-- The failure of a stream that broke down or was taken away. -/
def inputOutput : Error := failed "Input/output error"

/-- The failure of a weak request for a transport on which nothing plays. -/
def notPlaying : Error := failed "Transport not playing"

/-- The failure of a request beyond some capacity. -/
def noResources : Error := failed "Not enough resources"

/-- The name under which the bus knows the cause. -/
def name : Error → String
  | invalidArguments => "org.bluez.Error.InvalidArguments"
  | notAuthorized => "org.bluez.Error.NotAuthorized"
  | alreadyInProgress => "org.bluez.Error.InProgress"
  | alreadyExists => "org.bluez.Error.AlreadyExists"
  | notAvailable => "org.bluez.Error.NotAvailable"
  | doesNotExist => "org.bluez.Error.DoesNotExist"
  | notSupported => "org.bluez.Error.NotSupported"
  | failed _ => "org.bluez.Error.Failed"

/-- The message for people; a failure is described by its own reason. -/
def message : Error → String
  | invalidArguments => "Invalid arguments in method call"
  | notAuthorized => "Operation Not Authorized"
  | alreadyInProgress => "In Progress"
  | alreadyExists => "Already Exists"
  | notAvailable => "Operation currently not available"
  | doesNotExist => "Does Not Exist"
  | notSupported => "Operation is not supported"
  | failed reason => reason

/-- Where it is known which values come out, and that there is one cause of refusal, the call is
refused exactly if no value is to come out. -/
theorem refused_iff {α : Type} {result : Except Error α} {Meant : α → Prop} {sole cause : Error}
    (meant : ∀ value, result = .ok value ↔ Meant value)
    (known : (∃ value, result = .ok value) ∨ result = .error sole) :
    result = .error cause ↔ cause = sole ∧ ∀ value, ¬Meant value := by
  rcases known with ⟨value, accepted⟩ | refused
  · rw [accepted]
    exact ⟨nofun, fun unmeant => absurd ((meant value).mp accepted) (unmeant.2 value)⟩
  · have unmeant : ∀ value, ¬Meant value := by
      intro value intended
      rw [(meant value).mpr intended] at refused
      cases refused
    rw [refused, Except.error.injEq]
    exact ⟨fun same => ⟨same.symm, unmeant⟩, fun same => same.1.symm⟩

end Error

end BluetoothHost
