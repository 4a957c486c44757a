import BluetoothHost.Environment

/-!
# The calls that an operation makes

The journal only grows. What an operation did to the neighbours of the host is the part that it
appended, so statements about an operation name that part and say nothing of what was written
before. The replies to one method call are picked out of such a part by its token.
-/

namespace BluetoothHost

/-- Whether the bus took this call, if it is a reply to the method call with this token. -/
def Call.replyTo? (token : ReplyToken) : Call → Option Bool
  | .reply other _ accepted => if other = token then some accepted else none
  | _ => none

/-- For each time that a method call was answered, whether the bus took the reply. -/
def repliesTo (token : ReplyToken) (calls : List Call) : List Bool :=
  calls.filterMap (Call.replyTo? token)

/-- Where nothing is called nothing is answered. -/
@[simp] theorem repliesTo_nil (token : ReplyToken) : repliesTo token [] = [] := rfl

/-- A reply to this method call is the first of them. -/
@[simp] theorem repliesTo_reply (token : ReplyToken) (reply : Reply) (accepted : Bool)
    (calls : List Call) :
    repliesTo token (.reply token reply accepted :: calls) = accepted :: repliesTo token calls := by
  simp [repliesTo, Call.replyTo?]

/-- A call that is no reply to this method call is passed over. -/
theorem repliesTo_cons_silent {token : ReplyToken} {call : Call}
    (silent : call.replyTo? token = none) (calls : List Call) :
    repliesTo token (call :: calls) = repliesTo token calls := by
  simp [repliesTo, silent]

/-- A reply to another method call is passed over. -/
theorem repliesTo_reply_ne {token other : ReplyToken} (different : other ≠ token) (reply : Reply)
    (accepted : Bool) (calls : List Call) :
    repliesTo token (.reply other reply accepted :: calls) = repliesTo token calls := by
  have silent : (Call.reply other reply accepted).replyTo? token = none := if_neg different
  exact repliesTo_cons_silent silent calls

/-- Replies are picked out of consecutive calls separately. -/
@[simp] theorem repliesTo_append (token : ReplyToken) (earlier later : List Call) :
    repliesTo token (earlier ++ later) = repliesTo token earlier ++ repliesTo token later :=
  List.filterMap_append

/-- A call that is no reply to this method call adds nothing. -/
theorem repliesTo_eq_nil {token : ReplyToken} {calls : List Call}
    (silent : ∀ call ∈ calls, call.replyTo? token = none) : repliesTo token calls = [] :=
  List.filterMap_eq_nil_iff.mpr silent

namespace Environment

variable {B A : Type}

/-- Between two moments exactly these calls were made, in this order. -/
def Makes (before : Environment B A) (calls : List Call) (after : Environment B A) : Prop :=
  after.journal = before.journal ++ calls

/-- Where nothing happens no call is made. -/
theorem makes_nil (env : Environment B A) : env.Makes [] env := (List.append_nil _).symm

/-- Calls of consecutive operations follow one another. -/
theorem Makes.append {first second third : Environment B A} {earlier later : List Call}
    (before : first.Makes earlier second) (after : second.Makes later third) :
    first.Makes (earlier ++ later) third := by
  unfold Makes at *
  rw [after, before, List.append_assoc]

/-- What was written in between is determined by the two moments. -/
theorem Makes.unique {before after : Environment B A} {calls others : List Call}
    (made : before.Makes calls after) (also : before.Makes others after) : calls = others :=
  List.append_cancel_left (made.symm.trans also)

/-- The calls that were made between two moments. -/
def callsUntil (before after : Environment B A) : List Call :=
  after.journal.drop before.journal.length

/-- The calls that were made are those between the two journals. -/
theorem Makes.callsUntil_eq {before after : Environment B A} {calls : List Call}
    (made : before.Makes calls after) : before.callsUntil after = calls := by
  rw [callsUntil, made, List.drop_left]

section Bus

variable [MessageBus B]

/-- Answering a method call is one call, with the answer of the bus. -/
theorem sendReply_makes (env : Environment B A) (token : ReplyToken) (reply : Reply) :
    env.Makes [.reply token reply (env.sendReply token reply).1.isOk]
      (env.sendReply token reply).2 := rfl

/-- Asking for a watch is one call, with the answer of the bus. -/
theorem watchDisconnect_makes (env : Environment B A) (client : String) :
    env.Makes [.watch client (env.watchDisconnect client).1] (env.watchDisconnect client).2 := rfl

/-- Ending a watch is one call. -/
theorem removeWatch_makes (env : Environment B A) (watch : WatchId) :
    env.Makes [.unwatch watch] (env.removeWatch watch) := rfl

/-- Announcing a property is one call. -/
theorem propertyChanged_makes (env : Environment B A) (path : String) (property : Property) :
    env.Makes [.signal path property] (env.propertyChanged path property) := rfl

/-- Writing the value of a published object is one call. -/
theorem setRemoteValue_makes (env : Environment B A) (client path : String) (value : List UInt8) :
    env.Makes [.remoteWrite client path value] (env.setRemoteValue client path value).2 := rfl

end Bus

section Server

variable [AttributeServer A]

/-- Registering a service is one call, with the answer of the server. -/
theorem registerService_makes (env : Environment B A) (uuid : Uuid) (size : UInt16) :
    env.Makes [.registerService uuid size (env.registerService uuid size).1]
      (env.registerService uuid size).2 := rfl

/-- Registering a characteristic is one call, with the answer of the server. -/
theorem registerCharacteristic_makes (env : Environment B A) (service : Handle) (uuid : Uuid)
    (properties : CharacteristicProperties) (permissions : Permissions) :
    env.Makes [.registerCharacteristic service uuid properties permissions
        (env.registerCharacteristic service uuid properties permissions).1]
      (env.registerCharacteristic service uuid properties permissions).2 := rfl

/-- Registering a descriptor is one call, with the answer of the server. -/
theorem registerDescriptor_makes (env : Environment B A) (characteristic : Handle) (uuid : Uuid) :
    env.Makes [.registerDescriptor characteristic uuid
        (env.registerDescriptor characteristic uuid).1]
      (env.registerDescriptor characteristic uuid).2 := rfl

/-- Dropping a range is one call. -/
theorem removeRange_makes (env : Environment B A) (range : HandleRange) :
    env.Makes [.removeRange range] (env.removeRange range) := rfl

/-- Storing a value is one call, with the answer of the server. -/
theorem updateValue_makes (env : Environment B A) (uuid : Uuid) (value : List UInt8) :
    env.Makes [.updateValue uuid value (env.updateValue uuid value).1]
      (env.updateValue uuid value).2 := rfl

/-- Sending a value is one call. -/
theorem notify_makes (env : Environment B A) (uuid : Uuid) (value : List UInt8) :
    env.Makes [.notify uuid value] (env.notify uuid value) := rfl

end Server

/-- Between two moments this method call was not answered. -/
def Silent (token : ReplyToken) (before after : Environment B A) : Prop :=
  ∃ calls, before.Makes calls after ∧ repliesTo token calls = []

section Silent

variable {token : ReplyToken} {first second third : Environment B A}

/-- Where nothing happens nothing is answered. -/
theorem Silent.refl (env : Environment B A) : env.Silent token env := ⟨[], env.makes_nil, rfl⟩

/-- Nothing is answered by silent operations in turn. -/
theorem Silent.trans (before : first.Silent token second) (after : second.Silent token third) :
    first.Silent token third := by
  obtain ⟨earlier, made, silent⟩ := before
  obtain ⟨later, further, quiet⟩ := after
  exact ⟨earlier ++ later, made.append further, by rw [repliesTo_append, silent, quiet]; rfl⟩

/-- A single call that is no reply to this method call does not answer it. -/
theorem Silent.of_call {call : Call} (made : first.Makes [call] second)
    (silent : call.replyTo? token = none) : first.Silent token second :=
  ⟨[call], made, repliesTo_cons_silent silent []⟩

/-- A reply to another method call does not answer this one. -/
theorem sendReply_silent [MessageBus B] {other token : ReplyToken} (env : Environment B A)
    (different : other ≠ token) (reply : Reply) :
    env.Silent token (env.sendReply other reply).2 :=
  .of_call (env.sendReply_makes other reply) (if_neg different)

end Silent

/-- Between two moments this method call was answered once. -/
def AnswersOnce (token : ReplyToken) (before after : Environment B A) : Prop :=
  ∃ calls accepted, before.Makes calls after ∧ repliesTo token calls = [accepted]

section AnswersOnce

variable {token : ReplyToken} {first second third : Environment B A}

/-- A reply answers its method call. -/
theorem sendReply_answersOnce [MessageBus B] (env : Environment B A) (token : ReplyToken)
    (reply : Reply) : env.AnswersOnce token (env.sendReply token reply).2 :=
  ⟨_, _, env.sendReply_makes token reply, repliesTo_reply _ _ _ _⟩

/-- Silent operations may come before the answer. -/
theorem Silent.answersOnce (before : first.Silent token second)
    (after : second.AnswersOnce token third) : first.AnswersOnce token third := by
  obtain ⟨earlier, made, silent⟩ := before
  obtain ⟨later, accepted, further, once⟩ := after
  refine ⟨earlier ++ later, accepted, made.append further, ?_⟩
  rw [repliesTo_append, silent, once]
  rfl

/-- Silent operations may follow the answer. -/
theorem AnswersOnce.silent (before : first.AnswersOnce token second)
    (after : second.Silent token third) : first.AnswersOnce token third := by
  obtain ⟨earlier, accepted, made, once⟩ := before
  obtain ⟨later, further, silent⟩ := after
  refine ⟨earlier ++ later, accepted, made.append further, ?_⟩
  rw [repliesTo_append, silent, once]
  rfl

end AnswersOnce

end Environment

end BluetoothHost
