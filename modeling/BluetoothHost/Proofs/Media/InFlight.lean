import BluetoothHost.Proofs.Media.Run
import Mathlib.Data.List.Nodup

/-!
# Where the operations of a session go

A session accepts an operation when it is asked to start or to stop its stream, and the operation
is then in flight for one owner. It leaves that place in one of two ways: a report completes it,
or the session is told to cancel it. The books below are kept as lists, so that the numbers of
times that an identifier was handed out, is in flight, was reported and was cancelled can be
compared after every run. They agree even where a session hands an identifier out twice; where it
does not, each operation has gone one way, once.
-/

namespace BluetoothHost

/-- The operation that a call to a session began. -/
def Call.begun? : Call → Option Operation
  | .session _ (.resume client (some id)) => some ⟨client, .acquire, id⟩
  | .session _ (.suspend client (some id)) => some ⟨client, .release, id⟩
  | _ => none

/-- The identifier that a call to a session cancelled. -/
def Call.cancelled? : Call → Option RequestId
  | .session _ (.cancel id) => some id
  | _ => none

/-- The operations that these calls began, in their order. -/
def begunBy (calls : List Call) : List Operation := calls.filterMap Call.begun?

/-- The identifiers that these calls cancelled, in their order. -/
def cancelledBy (calls : List Call) : List RequestId := calls.filterMap Call.cancelled?

/-- Where there are no calls nothing is begun. -/
@[simp] theorem begunBy_nil : begunBy [] = [] := rfl

/-- Neither is anything cancelled. -/
@[simp] theorem cancelledBy_nil : cancelledBy [] = [] := rfl

/-- What is begun earlier and later is begun altogether. -/
@[simp] theorem begunBy_append (earlier later : List Call) :
    begunBy (earlier ++ later) = begunBy earlier ++ begunBy later := List.filterMap_append

/-- Likewise for what is cancelled. -/
@[simp] theorem cancelledBy_append (earlier later : List Call) :
    cancelledBy (earlier ++ later) = cancelledBy earlier ++ cancelledBy later :=
  List.filterMap_append

/-- These calls begin and cancel nothing. -/
def Passive (calls : List Call) : Prop :=
  ∀ call ∈ calls, call.begun? = none ∧ call.cancelled? = none

namespace Passive

variable {call : Call} {calls : List Call}

/-- No calls are passive. -/
theorem nil : Passive [] := by simp [Passive]

/-- One more call that neither begins nor cancels anything keeps calls passive. -/
theorem cons (begins : call.begun? = none) (cancels : call.cancelled? = none)
    (others : Passive calls) : Passive (call :: calls) := by
  intro other member
  rcases List.mem_cons.mp member with rfl | further
  · exact ⟨begins, cancels⟩
  · exact others other further

/-- Passive calls begin nothing. -/
theorem begunBy_eq (passive : Passive calls) : begunBy calls = [] :=
  List.filterMap_eq_nil_iff.mpr fun call member => (passive call member).1

/-- They cancel nothing. -/
theorem cancelledBy_eq (passive : Passive calls) : cancelledBy calls = [] :=
  List.filterMap_eq_nil_iff.mpr fun call member => (passive call member).2

end Passive

/-- The operation that the session is working on for an owner. -/
def Owner.operation? (owner : Owner) : Option Operation :=
  owner.pending.bind fun request =>
    request.id.map fun id => ⟨owner.client.value, request.kind, id⟩

/-- The identifier of that operation is the one that is in flight. -/
theorem Owner.id_operation? (owner : Owner) :
    owner.operation?.map Operation.id = owner.inFlight := by
  unfold Owner.operation? Owner.inFlight
  simp [Option.map_bind, Function.comp_def]

/-- Where no identifier was handed out twice, an operation is dropped as often as its identifier. -/
theorem count_id_eq {operations dropped : List Operation} {operation : Operation}
    (distinct : (operations.map Operation.id).Nodup) (member : operation ∈ operations)
    (within : dropped ⊆ operations) :
    (dropped.map Operation.id).count operation.id = dropped.count operation := by
  rw [List.count, List.countP_map]
  refine List.countP_congr fun other present => ?_
  have same := List.inj_on_of_nodup_map distinct (within present) member
  simpa using ⟨same, congrArg Operation.id⟩

namespace Transport

variable {S B A : Type} {before middle after prior : Transport S} {owner record : Owner}
  {completed : Option Operation} {calls earlier later : List Call}

/-- The operations that the session is working on, one for each owner that waits for one. -/
def operations (transport : Transport S) : List Operation :=
  transport.owners.owners.filterMap Owner.operation?

/-- Owners that wait for nothing have no operations in flight. -/
theorem operations_eq_nil {transport : Transport S}
    (idle : ∀ owner ∈ transport.owners.owners, owner.pending = none) :
    transport.operations = [] := by
  refine List.filterMap_eq_nil_iff.mpr fun owner member => ?_
  rw [Owner.operation?, idle owner member]
  rfl

/-- One owner's operation among the others. -/
theorem operations_of_single {transport : Transport S} {front back : List Owner}
    (owners_eq : transport.owners.owners = front ++ owner :: back) :
    transport.operations = front.filterMap Owner.operation? ++
      (owner.operation?.toList ++ back.filterMap Owner.operation?) := by
  rw [operations, owners_eq, List.filterMap_append]
  congr 1
  cases found : owner.operation? <;> simp [found]

/-- The books of a transport between two moments: what was in flight or was begun is in flight, or
was reported complete, or was cancelled. -/
def Settled (before after : Transport S) (completed : List Operation) (calls : List Call) : Prop :=
  ∃ dropped : List Operation, dropped.map Operation.id = cancelledBy calls ∧
    (before.operations ++ begunBy calls).Perm (after.operations ++ completed ++ dropped)

namespace Settled

/-- Nothing happens to operations where the same ones are in flight and none is begun or
cancelled. -/
theorem of_passive (same : after.operations = before.operations) (passive : Passive calls) :
    Settled before after [] calls := by
  refine ⟨[], passive.cancelledBy_eq.symm, ?_⟩
  rw [passive.begunBy_eq, same]
  simp

/-- The books of two spans of time are added up. -/
theorem trans {first second : List Operation} (one : Settled before middle first earlier)
    (other : Settled middle after second later) :
    Settled before after (first ++ second) (earlier ++ later) := by
  obtain ⟨dropped, ids, books⟩ := one
  obtain ⟨further, more, others⟩ := other
  refine ⟨dropped ++ further, by simp [ids, more], ?_⟩
  rw [List.perm_iff_count] at books others ⊢
  intro operation
  have left := books operation
  have right := others operation
  simp only [begunBy_append, List.count_append] at left right ⊢
  omega

end Settled

section Steps

variable [ProfileSession S] {client : String} {token : ReplyToken}
  {outcome : Except Error Completion}

omit [ProfileSession S] in
/-- Announcing a phase is passive. -/
theorem announcement_passive (transport : Transport S) (phase : Phase) :
    Passive (transport.announcement phase) := by
  unfold announcement
  split
  · exact .nil
  · exact .cons rfl rfl .nil

/-- Ending a watch is passive. -/
theorem unwatching_passive (watch : Option WatchId) : Passive (unwatching watch) := by
  cases watch with
  | none => exact .nil
  | some watch => exact .cons rfl rfl .nil

/-- Telling the session about settings is passive. -/
theorem settings_passive (settings : ∀ call ∈ calls, IsSetting call) : Passive calls := by
  intro call member
  have setting := settings call member
  unfold IsSetting at setting
  split at setting <;> first | exact ⟨rfl, rfl⟩ | cases setting

/-- A session is told to cancel exactly what it is still working on. -/
theorem Dismissal.books {session later : S} {pending : Option Request}
    (dismissal : Dismissal session pending later calls) :
    begunBy calls = [] ∧ cancelledBy calls = (pending.bind Request.id).toList := by
  cases dismissal <;> exact ⟨rfl, rfl⟩

/-- When a record goes its operation is cancelled, if it has one. -/
theorem Departure.books {remaining : List Owner}
    (departure : Departure before record remaining after calls) :
    begunBy calls = [] ∧ cancelledBy calls = record.operation?.toList.map Operation.id := by
  have named : record.operation?.toList.map Operation.id = record.inFlight.toList := by
    rw [← record.id_operation?, Option.toList_map]
  have unwatched := unwatching_passive record.watch
  cases departure with
  | stays dismissed _ =>
    obtain ⟨begins, cancels⟩ := dismissed.books
    rw [begunBy_append, cancelledBy_append, begins, cancels, unwatched.begunBy_eq,
      unwatched.cancelledBy_eq, named]
    exact ⟨rfl, List.append_nil _⟩
  | @settles session _ dismissed _ _ =>
    obtain ⟨begins, cancels⟩ := dismissed.books
    have released : Passive (sessionCall session .unlock ::
        before.announcement (restPhase session)) := .cons rfl rfl (announcement_passive _ _)
    rw [begunBy_append, cancelledBy_append, begunBy_append, cancelledBy_append, begins, cancels,
      unwatched.begunBy_eq, unwatched.cancelledBy_eq, released.begunBy_eq,
      released.cancelledBy_eq, named]
    exact ⟨rfl, by simp [Owner.inFlight]⟩

/-- What precedes the end of an ownership may complete its operation; otherwise the operation is
still the record's. -/
theorem Ending.books (ending : Ending before owner completed record prior calls) :
    Passive calls ∧
      owner.operation?.toList = completed.toList ++ record.operation?.toList := by
  cases ending with
  | plain => exact ⟨.nil, rfl⟩
  | disconnected => exact ⟨.nil, rfl⟩
  | suspended => exact ⟨.cons rfl rfl .nil, rfl⟩
  | failed pending => exact ⟨.nil, by simp [Owner.operation?, pending]⟩
  | undelivered pending _ => exact ⟨.cons rfl rfl .nil, by simp [Owner.operation?, pending]⟩
  | stopped pending _ => exact ⟨.cons rfl rfl .nil, by simp [Owner.operation?, pending]⟩

/-- The operation of an owner that leaves is completed or cancelled; the others go on. -/
theorem Leaving.settled (leaving : Leaving before client completed after calls) :
    Settled before after completed.toList calls := by
  obtain @⟨front, back, owner, record, _, prior, _, earlier, later, stands, ending, departure⟩ :=
    leaving
  obtain ⟨passive, split⟩ := ending.books
  obtain ⟨begins, cancels⟩ := departure.books
  have remaining : after.owners.owners = front ++ back :=
    congrArg OwnerSet.owners departure.frame.1
  refine ⟨record.operation?.toList, ?_, ?_⟩
  · rw [cancelledBy_append, passive.cancelledBy_eq, cancels, List.nil_append]
  · rw [begunBy_append, passive.begunBy_eq, begins, operations_of_single stands.owners_eq, split,
      operations, remaining, List.perm_iff_count]
    intro operation
    simp only [List.count_append, List.filterMap_append, List.count_nil]
    omega

/-- When all leave, all that is in flight is cancelled. -/
theorem Exodus.settled (exodus : Exodus before after calls) : Settled before after [] calls := by
  induction exodus with
  | done unowned stream => exact .of_passive rfl .nil
  | next owners_eq departure _ ih => exact (departure.leaving owners_eq).settled.trans ih

/-- An acquire begins the operation of the owner that it brings, if the stream is to start. -/
theorem Acquiring.settled (step : Acquiring before client token outcome after calls) :
    Settled before after [] calls := by
  cases step with
  | refused => exact .of_passive rfl .nil
  | undelivered => exact .of_passive rfl (.cons rfl rfl .nil)
  | locked => exact .of_passive rfl (.cons rfl rfl .nil)
  | unstarted => exact .of_passive rfl (.cons rfl rfl (.cons rfl rfl (.cons rfl rfl .nil)))
  | joined =>
    refine .of_passive ?_ (.cons rfl rfl (.cons rfl rfl .nil))
    simp [operations, Owner.operation?]
  | @started name lock id watch locked session isClient free _ _ _ =>
    refine ⟨[], rfl, ?_⟩
    rw [operations, free.1, ← isClient]
    exact .refl _

/-- A release begins an operation only where there is none. -/
theorem Releasing.settled (step : Releasing before client token outcome after calls) :
    Settled before after [] calls := by
  cases step with
  | refused => exact .of_passive rfl .nil
  | narrowed stands _ _ =>
    refine .of_passive ?_ .nil
    rw [operations_of_single stands.owners_eq, operations_of_single rfl]
    rfl
  | left leaving => exact leaving.settled
  | @suspending owner id session isClient single settled _ _ =>
    refine ⟨[], rfl, ?_⟩
    rw [operations_eq_nil (by simpa [single] using settled), ← isClient]
    exact .refl _

/-- A reaction begins nothing. -/
theorem Reaction.settled (step : Reaction before completed after calls) :
    Settled before after completed.toList calls := by
  cases step with
  | kept => exact .of_passive rfl .nil
  | leaving step => exact step.settled
  | @granted owner token id stream single pending _ =>
    have announced := announcement_passive before .active
    refine ⟨[], ?_, ?_⟩
    · exact (Passive.cons rfl rfl announced).cancelledBy_eq.symm
    · rw [(Passive.cons rfl rfl announced).begunBy_eq, operations, single]
      simp [operations, Owner.operation?, pending]
  | followed => exact .of_passive rfl (announcement_passive _ _)
  | adjusted _ _ settings => exact .of_passive rfl (settings_passive settings)
  | emptied exodus => exact exodus.settled

/-- Every change keeps the books. -/
theorem Change.settled (change : Change before completed after calls) :
    Settled before after completed.toList calls := by
  cases change with
  | acquiring step => exact step.settled
  | releasing step => exact step.settled
  | reacting step => exact step.settled

end Steps

/-! ### Runs -/

/-- The operation that a move reports to be complete, in the names of the report. -/
def Move.names? {S B : Type} : Move S B → Option Operation
  | .resumeComplete client id _ => some ⟨client, .acquire, id⟩
  | .suspendComplete client id => some ⟨client, .release, id⟩
  | _ => none

section Runs

variable [ProfileSession S] [MessageBus B]

/-- The operations that the moves of a run complete, in their order. -/
def completions (transport : Transport S) : List (Move S B) → Environment B A → List Operation
  | [], _ => []
  | move :: moves, env =>
    let (next, further) := transport.perform move env
    (transport.completion move).toList ++ next.completions moves further

/-- A run keeps the books. -/
theorem run_settled {transport : Transport S} (sound : transport.Sound) (moves : List (Move S B))
    (env : Environment B A) :
    ∃ calls, env.Makes calls (transport.run moves env).2 ∧
      Settled transport (transport.run moves env).1 (transport.completions moves env) calls := by
  induction moves generalizing transport env with
  | nil => exact ⟨[], env.makes_nil, .of_passive rfl .nil⟩
  | cons move moves ih =>
    obtain ⟨earlier, made, change⟩ := perform_change sound move env
    obtain ⟨later, further, rest⟩ := ih (change.sound sound) (transport.perform move env).2
    exact ⟨earlier ++ later, made.append further, change.settled.trans rest⟩

omit [ProfileSession S] in
/-- Only an operation in flight is found waiting. -/
theorem awaiting?_eq_none {transport : Transport S} {client : String} {kind : RequestKind}
    {id : RequestId} (absent : ⟨client, kind, id⟩ ∉ transport.operations) :
    transport.awaiting? client kind id = none := by
  cases awaiting : transport.awaiting? client kind id with
  | none => rfl
  | some found =>
    obtain ⟨owner, request⟩ := found
    obtain ⟨present, pending, rfl, asked⟩ := awaiting?_eq_some awaiting
    obtain ⟨front, back, stands⟩ := OwnerSet.stands_of_get? present
    have member : owner ∈ transport.owners.owners := by simp [stands.owners_eq]
    refine absurd (List.mem_filterMap.mpr ⟨owner, member, ?_⟩) absent
    simp [Owner.operation?, pending, asked, stands.client_eq]

/-- A report of an operation that is not in flight changes nothing. -/
theorem perform_stale {transport : Transport S} {move : Move S B} {operation : Operation}
    (named : move.names? = some operation) (absent : operation ∉ transport.operations)
    (env : Environment B A) : transport.perform move env = (transport, env) := by
  cases move with
  | resumeComplete client id result =>
    obtain rfl := Option.some.inj named
    simp only [perform, resumeComplete, awaiting?_eq_none absent]
  | suspendComplete client id =>
    obtain rfl := Option.some.inj named
    simp only [perform, suspendComplete, awaiting?_eq_none absent]
  | _ => cases named

/-- Where a session hands no identifier out twice, every operation that it was asked for is at the
end of a run in flight for one owner, or completed by one report that named its client, its kind
and its identifier, or cancelled once, and never two of these. Nothing else is in flight,
completed or cancelled, and a report of anything that is not in flight changes nothing. -/
theorem run_operations {id : TransportId} {config : TransportConfig} {session : S}
    {voiceMtu : UInt16} {transport : Transport S}
    (created : create id config session voiceMtu = .ok transport) (moves : List (Move S B))
    (env : Environment B A) {after : Transport S} {later : Environment B A}
    (ran : transport.run moves env = (after, later)) :
    ∃ calls, env.Makes calls later ∧
      (((begunBy calls).map Operation.id).Nodup →
        (∀ operation ∈ begunBy calls, after.operations.count operation +
          (transport.completions moves env).count operation +
          (cancelledBy calls).count operation.id = 1) ∧
        (∀ operation, operation ∈ after.operations ∨ operation ∈ transport.completions moves env →
          operation ∈ begunBy calls) ∧
        ∀ id ∈ cancelledBy calls, ∃ operation ∈ begunBy calls, operation.id = id) ∧
      ∀ (move : Move S B) (operation : Operation), move.names? = some operation →
        operation ∉ after.operations → after.perform move later = (after, later) := by
  obtain ⟨calls, made, dropped, ids, books⟩ := run_settled (sound_create created) moves env
  have idle : transport.operations = [] :=
    operations_eq_nil (by simp [created_unowned created])
  rw [idle, List.nil_append, ran] at books
  rw [ran] at made
  refine ⟨calls, made, fun distinct => ⟨?_, ?_, ?_⟩, fun move operation named absent =>
    perform_stale named absent later⟩
  · intro operation begun
    have once := List.count_eq_one_of_mem distinct.of_map begun
    have split := books.count_eq operation
    rw [← ids, count_id_eq distinct begun fun other member => books.mem_iff.mpr (by simp [member])]
    simp only [List.count_append] at split
    omega
  · intro operation present
    rw [books.mem_iff, List.mem_append, List.mem_append]
    exact .inl present
  · intro id member
    rw [← ids] at member
    obtain ⟨operation, present, rfl⟩ := List.mem_map.mp member
    exact ⟨operation, books.mem_iff.mpr (by simp [present]), rfl⟩

/-- A stream that was asked for twice, because the first request was withdrawn, and then asked to
stop: the first operation was cancelled, so that its late report changes nothing, the second was
completed and the third is in flight. -/
theorem run_operations_of_restarted :
    let moves : List (Move PlainSession PlainBus) :=
      [.acquire ":1.7" ⟨1⟩ "rw", .release ":1.7" ⟨2⟩ "rw", .acquire ":1.7" ⟨3⟩ "rw",
        .resumeComplete ":1.7" ⟨1⟩ (.ok ()), .release ":1.7" ⟨4⟩ "rw"]
    let stopping := (plainTransport false).run moves plainEnvironment
    (∃ calls, plainEnvironment.Makes calls stopping.2 ∧
      begunBy calls =
        [⟨":1.7", .acquire, ⟨0⟩⟩, ⟨":1.7", .acquire, ⟨1⟩⟩, ⟨":1.7", .release, ⟨2⟩⟩] ∧
      ∀ operation ∈ begunBy calls, stopping.1.operations.count operation +
        ((plainTransport false).completions moves plainEnvironment).count operation +
        (cancelledBy calls).count operation.id = 1) ∧
      stopping.1.perform (.resumeComplete ":1.7" ⟨0⟩ (.ok ())) stopping.2 = stopping := by
  intro moves stopping
  obtain ⟨calls, made, books, stale⟩ := run_operations (create_plain false) moves plainEnvironment
    rfl
  have begun : begunBy calls =
      [⟨":1.7", .acquire, ⟨0⟩⟩, ⟨":1.7", .acquire, ⟨1⟩⟩, ⟨":1.7", .release, ⟨2⟩⟩] := by
    rw [← List.nil_append calls]
    exact (congrArg begunBy made).symm
  have distinct : ((begunBy calls).map Operation.id).Nodup := by
    rw [begun]
    decide
  exact ⟨⟨calls, made, begun, (books distinct).1⟩,
    stale _ ⟨":1.7", .acquire, ⟨0⟩⟩ rfl (by decide)⟩

end Runs

end Transport

end BluetoothHost
