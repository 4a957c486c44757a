import BluetoothHost.Proofs.Media.Operations

/-!
# How a transport answers method calls

The token of a method call that cannot be answered at once is kept with the request in flight of
an owner. When the token is dropped the call has been answered in the same step: the bus may lose
replies, and the last one too, but after a reply that it took there is none.
-/

namespace BluetoothHost

/-- A method call was answered: the bus lost every reply but the last, and perhaps that one. -/
def Answered (replies : List Bool) : Prop :=
  ∃ lost last, replies = List.replicate lost false ++ [last]

/-- One reply is an answer. -/
theorem answered_single (accepted : Bool) : Answered [accepted] := ⟨0, accepted, rfl⟩

/-- How often a method call waits before and after something happened, and its replies in between:
it goes on waiting, or it is answered and waits once less. -/
inductive Settlement : Nat → Nat → List Bool → Prop
  /-- It goes on waiting. -/
  | kept (count : Nat) : Settlement count count []
  /-- It is answered. -/
  | settled (count : Nat) {replies : List Bool} (answered : Answered replies) :
      Settlement (count + 1) count replies

namespace Settlement

variable {first second third : Nat} {replies earlier later : List Bool}

/-- A call that waits as often as before goes on waiting. -/
theorem of_eq (same : second = first) : Settlement first second [] := by
  rw [same]
  exact .kept first

/-- Waiting elsewhere does not matter. -/
theorem frame (settlement : Settlement first second replies) (front back : Nat) :
    Settlement (front + first + back) (front + second + back) replies := by
  cases settlement with
  | kept => exact .kept _
  | settled count answered =>
    have sum : front + (second + 1) + back = front + second + back + 1 := by omega
    rw [sum]
    exact .settled _ answered

/-- A call that waits at most once is answered at most once. -/
theorem trans (before : Settlement first second earlier) (after : Settlement second third later)
    (once : first ≤ 1) : Settlement first third (earlier ++ later) := by
  cases before with
  | kept => exact after
  | settled count answered =>
    cases after with
    | kept =>
      rw [List.append_nil]
      exact .settled _ answered
    | settled => omega

/-- Nothing comes to wait by being answered. -/
theorem le (settlement : Settlement first second replies) : second ≤ first := by
  cases settlement <;> omega

/-- A call that does not wait is not answered. -/
theorem of_zero (settlement : Settlement 0 second replies) : second = 0 ∧ replies = [] := by
  cases settlement
  exact ⟨rfl, rfl⟩

end Settlement

/-- Whether an owner keeps this token with its request in flight. -/
def Owner.waitsFor (token : ReplyToken) (owner : Owner) : Bool :=
  owner.pending.any fun request => request.token == token

namespace Transport

variable {S : Type} {before after prior : Transport S} {calls : List Call} {token : ReplyToken}

/-- How many owners keep this token. -/
def waiting (token : ReplyToken) (transport : Transport S) : Nat :=
  transport.owners.owners.countP (Owner.waitsFor token)

/-- The owners of a transport are counted around one of them. -/
theorem waiting_split {front back : List Owner} {owner : Owner} {transport : Transport S}
    (owners_eq : transport.owners.owners = front ++ owner :: back) :
    transport.waiting token = front.countP (Owner.waitsFor token) +
      (if owner.waitsFor token then 1 else 0) + back.countP (Owner.waitsFor token) := by
  rw [waiting, owners_eq, List.countP_append, List.countP_cons]
  omega

/-- Only the requests of the owners matter. -/
theorem waiting_eq_of_pending
    (requests : after.owners.owners.map Owner.pending = before.owners.owners.map Owner.pending) :
    after.waiting token = before.waiting token := by
  have count : ∀ owners : List Owner, owners.countP (Owner.waitsFor token) =
      (owners.map Owner.pending).countP fun pending =>
        pending.any fun request => request.token == token := by
    intro owners
    rw [List.countP_map]
    rfl
  rw [waiting, waiting, count, count, requests]

/-- An owner without a request keeps no token. -/
theorem waitsFor_of_settled {owner : Owner} (settled : owner.pending = none) :
    owner.waitsFor token = false := by
  simp [Owner.waitsFor, settled]

/-- Announcements answer nothing. -/
@[simp] theorem repliesTo_announcement (transport : Transport S) (phase : Phase) :
    repliesTo token (transport.announcement phase) = [] := by
  unfold announcement
  split <;> rfl

/-- Nor does the end of a watch. -/
@[simp] theorem repliesTo_unwatching (watch : Option WatchId) :
    repliesTo token (unwatching watch) = [] := by
  cases watch <;> rfl

variable [ProfileSession S]

/-- Calls to a session answer nothing. -/
@[simp] theorem repliesTo_sessionCall (session : S) (call : SessionCall) (calls : List Call) :
    repliesTo token (sessionCall session call :: calls) = repliesTo token calls :=
  repliesTo_cons_silent rfl calls

/-- Settings answer nothing. -/
theorem repliesTo_settings (settings : ∀ call ∈ calls, IsSetting call) :
    repliesTo token calls = [] := by
  refine repliesTo_eq_nil fun call member => ?_
  have setting := settings call member
  unfold IsSetting at setting
  split at setting <;> first | rfl | cases setting

/-- Failing a request answers the call that it was made for, once, and no other. -/
theorem Dismissal.replies {session after : S} {pending : Option Request}
    (dismissal : Dismissal session pending after calls) (token : ReplyToken) :
    if pending.any fun request => request.token == token then
      ∃ accepted, repliesTo token calls = [accepted]
    else repliesTo token calls = [] := by
  cases dismissal with
  | nothing => rfl
  | reported kind other accepted =>
    by_cases same : other = token
    · subst same
      simp
    · simp [same, repliesTo_reply_ne same]
  | cancelled kind other id accepted =>
    by_cases same : other = token
    · subst same
      simp
    · simp [same, repliesTo_reply_ne same]

/-- The calls with which a record goes answer what its request was made for. -/
theorem Departure.replies {record : Owner} {remaining : List Owner}
    (departure : Departure before record remaining after calls) (token : ReplyToken) :
    if record.waitsFor token then ∃ accepted, repliesTo token calls = [accepted]
    else repliesTo token calls = [] := by
  cases departure with
  | stays dismissed _ =>
    have replies := dismissed.replies token
    simpa [Owner.waitsFor] using replies
  | settles dismissed _ _ =>
    have replies := dismissed.replies token
    simpa [Owner.waitsFor] using replies

/-- What precedes the end of an ownership answers its call already and drops the token, or loses
replies at most and keeps it. -/
theorem Ending.replies {owner record : Owner} {completed : Option Operation}
    (ending : Ending before owner completed record prior calls) (token : ReplyToken) :
    if owner.waitsFor token then
      (∃ lost, repliesTo token calls = List.replicate lost false ∧ record.waitsFor token = true) ∨
        ∃ accepted, repliesTo token calls = [accepted] ∧ record.waitsFor token = false
    else repliesTo token calls = [] ∧ record.waitsFor token = false := by
  split
  · rename_i waits
    cases ending with
    | plain => exact .inl ⟨0, rfl, waits⟩
    | disconnected => exact .inl ⟨0, rfl, waits⟩
    | suspended => exact .inl ⟨0, rfl, waits⟩
    | failed pending =>
      refine .inl ⟨0, rfl, ?_⟩
      simpa [Owner.waitsFor, pending] using waits
    | @undelivered other _ _ pending _ =>
      have same : other = token := by simpa [Owner.waitsFor, pending] using waits
      subst same
      exact .inl ⟨1, repliesTo_reply _ _ _ _, by simp [Owner.waitsFor]⟩
    | @stopped other _ pending accepted =>
      have same : other = token := by simpa [Owner.waitsFor, pending] using waits
      subst same
      exact .inr ⟨accepted, repliesTo_reply _ _ _ _, rfl⟩
  · rename_i waits
    have idle : owner.waitsFor token = false := by simpa using waits
    cases ending with
    | plain => exact ⟨rfl, idle⟩
    | disconnected => exact ⟨rfl, idle⟩
    | suspended => exact ⟨rfl, idle⟩
    | failed pending =>
      refine ⟨rfl, ?_⟩
      simpa [Owner.waitsFor, pending] using idle
    | undelivered pending _ =>
      have different := by simpa [Owner.waitsFor, pending] using idle
      exact ⟨repliesTo_reply_ne different _ _ _, by simpa [Owner.waitsFor] using different⟩
    | stopped pending accepted =>
      have different := by simpa [Owner.waitsFor, pending] using idle
      exact ⟨repliesTo_reply_ne different _ _ _, rfl⟩

/-- The owner that leaves takes its token along, and the call is answered. -/
theorem Leaving.settlement {client : String} {completed : Option Operation}
    (leaving : Leaving before client completed after calls) (token : ReplyToken) :
    Settlement (before.waiting token) (after.waiting token) (repliesTo token calls) := by
  obtain @⟨front, back, owner, record, _, prior, _, earlier, later, stands, ending, departure⟩ :=
    leaving
  have prelude := ending.replies token
  have finale := departure.replies token
  have others : after.waiting token =
      front.countP (Owner.waitsFor token) + back.countP (Owner.waitsFor token) := by
    rw [waiting, departure.frame.1, List.countP_append]
  rw [waiting_split stands.owners_eq, others, repliesTo_append]
  by_cases waits : owner.waitsFor token = true
  · rw [if_pos waits] at prelude ⊢
    have answered : Answered (repliesTo token earlier ++ repliesTo token later) := by
      rcases prelude with ⟨lost, replies, kept⟩ | ⟨accepted, replies, dropped⟩
      · rw [if_pos kept] at finale
        obtain ⟨last, final⟩ := finale
        exact ⟨lost, last, by rw [replies, final]⟩
      · rw [dropped] at finale
        have final : repliesTo token later = [] := finale
        rw [replies, final]
        exact answered_single accepted
    have settled := (Settlement.settled 0 answered).frame (front.countP (Owner.waitsFor token))
      (back.countP (Owner.waitsFor token))
    exact settled
  · rw [if_neg waits] at prelude ⊢
    obtain ⟨replies, dropped⟩ := prelude
    rw [dropped] at finale
    have final : repliesTo token later = [] := finale
    rw [replies, final]
    exact .kept _

/-- When all owners leave, the call of each is answered. -/
theorem Exodus.settlement (exodus : Exodus before after calls) (once : before.waiting token ≤ 1) :
    Settlement (before.waiting token) (after.waiting token) (repliesTo token calls) := by
  induction exodus with
  | done => exact .kept _
  | next owners_eq departure _ ih =>
    have first := (departure.leaving owners_eq).settlement token
    rw [repliesTo_append]
    exact first.trans (ih (Nat.le_trans first.le once)) once

/-! ### Method calls of others -/

/-- An acquire answers no call but its own. -/
theorem Acquiring.settlement {client : String} {other : ReplyToken}
    {outcome : Except Error Completion} (step : Acquiring before client other outcome after calls)
    (different : other ≠ token) :
    Settlement (before.waiting token) (after.waiting token) (repliesTo token calls) := by
  cases step with
  | refused => exact .kept _
  | undelivered =>
    rw [repliesTo_reply_ne different]
    exact .kept _
  | locked =>
    rw [repliesTo_sessionCall]
    exact .kept _
  | unstarted =>
    simp only [repliesTo_sessionCall]
    exact .kept _
  | joined =>
    have same : ∀ (owners : List Owner) (owner : Owner), owner.pending = none →
        (owners ++ [owner]).countP (Owner.waitsFor token) =
          owners.countP (Owner.waitsFor token) := by
      intro owners owner settled
      simp [waitsFor_of_settled settled]
    rw [repliesTo_reply_ne different, waiting, waiting, same _ _ rfl]
    exact .kept _
  | started _ free _ _ _ =>
    have none : before.waiting token = 0 := by rw [waiting, free.1, List.countP_nil]
    rw [none, waiting]
    simp only [repliesTo_sessionCall, List.countP_singleton, Owner.waitsFor, Option.any_some,
      beq_iff_eq, different, if_false]
    exact .kept 0

/-- A release answers no call but its own and those that it ends. -/
theorem Releasing.settlement {client : String} {other : ReplyToken}
    {outcome : Except Error Completion} (step : Releasing before client other outcome after calls)
    (different : other ≠ token) :
    Settlement (before.waiting token) (after.waiting token) (repliesTo token calls) := by
  cases step with
  | refused => exact .kept _
  | narrowed stands _ _ => exact .of_eq (waiting_eq_of_pending (by simp [stands.owners_eq]))
  | left leaving => exact leaving.settlement token
  | suspending _ single settled _ _ =>
    rw [repliesTo_sessionCall, waiting, waiting, single]
    simp only [List.countP_singleton, Owner.waitsFor, settled, Option.any_none, Option.any_some,
      beq_iff_eq, different, if_false]
    exact .kept _

/-- A reaction answers the calls of the owners that it ends, and that of the owner that is given
its stream. -/
theorem Reaction.settlement {completed : Option Operation}
    (step : Reaction before completed after calls) (once : before.waiting token ≤ 1) :
    Settlement (before.waiting token) (after.waiting token) (repliesTo token calls) := by
  cases step with
  | kept => exact .kept _
  | leaving step => exact step.settlement token
  | @granted owner other id stream single pending found =>
    have none : [{ owner with pending := none }].countP (Owner.waitsFor token) = 0 := rfl
    rw [waiting, waiting, single, none, List.countP_singleton]
    by_cases same : other = token
    · subst same
      rw [repliesTo_reply, repliesTo_announcement]
      simp only [Owner.waitsFor, pending, Option.any_some, beq_self_eq_true, if_true]
      exact .settled 0 (answered_single true)
    · rw [repliesTo_reply_ne same, repliesTo_announcement]
      simp only [Owner.waitsFor, pending, Option.any_some, beq_iff_eq, same, if_false]
      exact .kept 0
  | followed =>
    rw [repliesTo_announcement]
    exact .kept _
  | adjusted _ _ settings =>
    rw [repliesTo_settings settings]
    exact .kept _
  | emptied exodus => exact exodus.settlement once

/-! ### A method call of one's own -/

/-- How a fresh call is left by the operation that it asks for, by the outcome: how often it waits,
and the replies so far. -/
inductive Opening : Except Error Completion → Nat → List Bool → Prop
  /-- It is refused; replies that the bus lost may have come before. -/
  | refused (cause : Error) (lost : Nat) : Opening (.error cause) 0 (List.replicate lost false)
  /-- It is settled and not answered yet. -/
  | done : Opening (.ok .done) 0 []
  /-- It waits. -/
  | waits : Opening (.ok .pending) 1 []
  /-- It was answered and the bus took the reply. -/
  | answered : Opening (.ok .pending) 0 [true]

/-- An acquire is refused, waits for the stream or has been given it. -/
theorem Acquiring.opening {client : String} {outcome : Except Error Completion}
    (step : Acquiring before client token outcome after calls) (fresh : before.waiting token = 0) :
    Opening outcome (after.waiting token) (repliesTo token calls) := by
  cases step with
  | refused cause =>
    rw [fresh]
    exact .refused cause 0
  | undelivered cause =>
    rw [fresh, repliesTo_reply]
    exact .refused cause 1
  | locked =>
    rw [repliesTo_sessionCall]
    exact fresh ▸ .refused _ 0
  | unstarted =>
    simp only [repliesTo_sessionCall]
    exact fresh ▸ .refused _ 0
  | joined =>
    rw [repliesTo_reply, waiting, List.countP_append, ← waiting, fresh]
    exact .answered
  | started =>
    rw [waiting]
    simp only [repliesTo_sessionCall, List.countP_singleton, Owner.waitsFor, Option.any_some,
      beq_self_eq_true, if_true]
    exact .waits

/-- A release is refused, settled, or waits for the stream to stop. -/
theorem Releasing.opening {client : String} {outcome : Except Error Completion}
    (step : Releasing before client token outcome after calls) (fresh : before.waiting token = 0) :
    Opening outcome (after.waiting token) (repliesTo token calls) := by
  cases step with
  | refused cause =>
    rw [fresh]
    exact .refused cause 0
  | narrowed stands _ _ =>
    rw [@waiting_eq_of_pending S before _ token (by simp [stands.owners_eq]), fresh]
    exact .done
  | left leaving =>
    have settlement := leaving.settlement token
    rw [fresh] at settlement
    obtain ⟨none, silent⟩ := settlement.of_zero
    rw [none, silent]
    exact .done
  | suspending =>
    rw [repliesTo_sessionCall, waiting]
    simp only [List.countP_singleton, Owner.waitsFor, Option.any_some, beq_self_eq_true, if_true]
    exact .waits

end Transport

end BluetoothHost
