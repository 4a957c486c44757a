import BluetoothHost.Proofs.Media.Run

/-!
# Moves that touch no setting

What a transport remembers of its device stands in its endpoint. Three moves are about it: a client
sets a property, and the device reports its delay or its volume. Every other move leaves the
endpoint as it is, sets nothing on the session and announces no property but the state.
-/

namespace BluetoothHost.Transport

/-- None of these calls is a setting. -/
def Unset (calls : List Call) : Prop := ∀ call ∈ calls, ¬IsSetting call

namespace Unset

variable {call : Call} {calls earlier later : List Call}

/-- Where there are no calls nothing is set. -/
theorem nil : Unset [] := by simp [Unset]

/-- One more call that is no setting changes nothing about that. -/
theorem cons (other : ¬IsSetting call) (others : Unset calls) : Unset (call :: calls) :=
  List.forall_mem_cons.mpr ⟨other, others⟩

/-- Nothing is set by calls that come one after the other. -/
theorem append (before : Unset earlier) (after : Unset later) : Unset (earlier ++ later) :=
  List.forall_mem_append.mpr ⟨before, after⟩

end Unset

variable {S B A : Type}

/-- A step that is not about settings: the endpoint stays and no call is a setting. -/
structure Untouched (before after : Transport S) (calls : List Call) : Prop where
  /-- The endpoint stays. -/
  endpoint_eq : after.endpoint = before.endpoint
  /-- No call is a setting. -/
  unset : Unset calls

/-- One such step after another. -/
theorem Untouched.trans {before middle after : Transport S} {earlier later : List Call}
    (first : Untouched before middle earlier) (second : Untouched middle after later) :
    Untouched before after (earlier ++ later) :=
  ⟨second.endpoint_eq.trans first.endpoint_eq, first.unset.append second.unset⟩

/-- The calls with which ownerships end are no settings. -/
theorem unset_of_parting {calls : List Call} (parting : ∀ call ∈ calls, IsParting call) :
    Unset calls := by
  intro call member
  have parts := parting call member
  unfold IsParting at parts
  split at parts <;> first | exact not_false | exact not_not_intro parts | cases parts

/-- An announcement of the state is no setting. -/
theorem announcement_unset (transport : Transport S) (phase : Phase) :
    Unset (transport.announcement phase) :=
  unset_of_parting (transport.announcement_parting phase)

section Changes

variable [ProfileSession S] {before after prior : Transport S} {client : String}
  {token : ReplyToken} {outcome : Except Error Completion} {completed : Option Operation}
  {owner record : Owner} {remaining : List Owner} {calls : List Call}

/-- An owner that goes leaves the settings alone. -/
theorem Departure.untouched (departure : Departure before record remaining after calls) :
    Untouched before after calls where
  endpoint_eq := by cases departure <;> rfl
  unset := unset_of_parting departure.parting

/-- So does the end of its request. -/
theorem Ending.untouched (ending : Ending before owner completed record prior calls) :
    Untouched before prior calls := by
  cases ending with
  | plain | disconnected | failed => exact ⟨rfl, .nil⟩
  | undelivered | stopped | suspended => exact ⟨rfl, .cons not_false .nil⟩

/-- So does a client that leaves. -/
theorem Leaving.untouched (leaving : Leaving before client completed after calls) :
    Untouched before after calls := by
  obtain ⟨-, ending, departure⟩ := leaving
  exact ending.untouched.trans departure.untouched

/-- So does the departure of all owners. -/
theorem Exodus.untouched (exodus : Exodus before after calls) : Untouched before after calls := by
  induction exodus with
  | done => exact ⟨rfl, .nil⟩
  | next _ departure _ ih => exact departure.untouched.trans ih

/-- So does an acquire, whatever its outcome. -/
theorem Acquiring.untouched (step : Acquiring before client token outcome after calls) :
    Untouched before after calls := by
  cases step with
  | refused => exact ⟨rfl, .nil⟩
  | undelivered | locked => exact ⟨rfl, .cons not_false .nil⟩
  | joined => exact ⟨rfl, .cons not_false (.cons not_false .nil)⟩
  | unstarted | started =>
    exact ⟨rfl, .cons not_false (.cons not_false (.cons not_false .nil))⟩

/-- So does a release. -/
theorem Releasing.untouched (step : Releasing before client token outcome after calls) :
    Untouched before after calls := by
  cases step with
  | refused | narrowed => exact ⟨rfl, .nil⟩
  | left leaving => exact leaving.untouched
  | suspending => exact ⟨rfl, .cons not_false .nil⟩

/-- A report of the session that completes an operation is not about settings. -/
theorem Reaction.untouched {operation : Operation}
    (step : Reaction before (some operation) after calls) : Untouched before after calls := by
  cases step with
  | leaving step => exact step.untouched
  | granted => exact ⟨rfl, .cons not_false (announcement_unset before _)⟩

end Changes

/-! ### Moves -/

/-- Whether a move is about a setting. -/
def Move.isSetting : Move S B → Bool
  | .setProperty _ _ _ | .reportDelay _ | .reportVolume _ => true
  | _ => false

variable [ProfileSession S] [MessageBus B]

/-- A report of the session that completes no operation changes nothing. -/
theorem resumeComplete_unreported {transport : Transport S} {client : String} {id : RequestId}
    (passed : transport.awaiting? client .acquire id = none) (result : Except Error Unit)
    (env : Environment B A) : transport.resumeComplete client id result env = (transport, env) := by
  simp only [resumeComplete, passed]

/-- News of playback are not about settings. -/
theorem reportPlaying_untouched (transport : Transport S) (playing : Bool) (env : Environment B A) :
    ∃ calls, env.Makes calls (transport.reportPlaying playing env).2 ∧
      Untouched transport (transport.reportPlaying playing env).1 calls := by
  unfold reportPlaying
  split
  · exact ⟨_, moveTo_makes _ _ _, rfl, announcement_unset _ _⟩
  · exact ⟨_, moveTo_makes _ _ _, rfl, announcement_unset _ _⟩
  · obtain ⟨calls, made, exodus⟩ := @removeOwners_exodus S B A _ _ transport _ rfl env
    have emptied := (exodus none).untouched
    exact ⟨calls, made, emptied.endpoint_eq, emptied.unset⟩
  · exact ⟨[], env.makes_nil, rfl, .nil⟩

/-- The moves that are not about a setting touch none. -/
theorem perform_untouched {transport : Transport S} (sound : transport.Sound) {move : Move S B}
    (other : move.isSetting = false) (env : Environment B A) :
    ∃ calls, env.Makes calls (transport.perform move env).2 ∧
      Untouched transport (transport.perform move env).1 calls := by
  cases move with
  | setProperty | reportDelay | reportVolume => cases other
  | acquire client token access =>
    obtain ⟨calls, made, step⟩ := acquire_acquiring sound client token access env
    exact ⟨calls, made, step.untouched⟩
  | release client token access =>
    obtain ⟨calls, made, step⟩ := release_releasing sound client token access env
    exact ⟨calls, made, step.untouched⟩
  | resumeComplete client id result =>
    obtain ⟨calls, made, step⟩ := resumeComplete_reaction sound client id result env
    cases awaiting : transport.awaiting? client .acquire id with
    | none =>
      rw [perform, resumeComplete_unreported awaiting]
      exact ⟨[], env.makes_nil, rfl, .nil⟩
    | some found =>
      rw [reported, awaiting] at step
      exact ⟨calls, made, step.untouched⟩
  | suspendComplete client id =>
    obtain ⟨calls, made, step⟩ := transport.suspendComplete_reaction client id env
    cases awaiting : transport.awaiting? client .release id with
    | none =>
      simp only [perform, suspendComplete, awaiting]
      exact ⟨[], env.makes_nil, rfl, .nil⟩
    | some found =>
      rw [reported, awaiting] at step
      exact ⟨calls, made, step.untouched⟩
  | reportPlaying playing => exact transport.reportPlaying_untouched playing env
  | clientDisconnected client =>
    rcases transport.clientDisconnected_cases client env with ⟨-, passed⟩ | ⟨calls, made, leaving⟩
    · rw [perform, passed]
      exact ⟨[], env.makes_nil, rfl, .nil⟩
    · exact ⟨calls, made, leaving.untouched⟩
  | shutDown =>
    obtain ⟨calls, made, exodus⟩ := transport.shutDown_exodus env
    exact ⟨calls, made, exodus.untouched⟩
  | evolve session bus => exact ⟨[], env.makes_nil, rfl, .nil⟩

end BluetoothHost.Transport
