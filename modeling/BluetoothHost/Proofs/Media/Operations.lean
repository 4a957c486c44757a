import BluetoothHost.Proofs.Media.Change

/-!
# What the operations do

Each operation on a sound transport makes one of the changes to it. The statements name the calls
that the operation writes into the journal and, for an acquire and a release, tie the change to the
outcome with which the call is answered.
-/

namespace BluetoothHost.Transport

variable {S B A : Type} [ProfileSession S] [MessageBus B]
  {transport : Transport S} {client : String}

/-! ### The end of an ownership -/

omit [ProfileSession S] in
/-- Moving to a phase announces it. -/
theorem moveTo_makes (transport : Transport S) (phase : Phase) (env : Environment B A) :
    env.Makes (transport.announcement phase) (transport.moveTo phase env).2 := by
  unfold moveTo announcement
  split
  · exact env.makes_nil
  · exact env.propertyChanged_makes _ _

/-- Fail the request of a leaving owner, if it has one. -/
def dismiss (transport : Transport S) (pending : Option Request) (env : Environment B A) :
    Transport S × Environment B A :=
  match pending with
  | none => (transport, env)
  | some request => transport.abandon request env

/-- End the watch of a leaving owner, if it has one. -/
def unwatch (watch : Option WatchId) (env : Environment B A) : Environment B A :=
  match watch with
  | none => env
  | some watch => env.removeWatch watch

/-- An ownership ends in three steps once the record is gone. -/
theorem removeOwner_eq {front back : List Owner} {owner : Owner}
    (stands : transport.owners.Stands client front owner back) (env : Environment B A) :
    transport.removeOwner client env =
      let erased : Transport S := { transport with
        owners := ⟨front ++ back⟩, lock := transport.lock &&& ~~~owner.lock }
      let failed := erased.dismiss owner.pending env
      failed.1.settle (unwatch owner.watch failed.2) := by
  unfold removeOwner
  rw [stands.get?_eq, stands.erase_eq]
  rfl

/-- Failing the request of a leaving owner dismisses it. -/
theorem dismiss_dismissal (transport : Transport S) (pending : Option Request)
    (env : Environment B A) :
    ∃ session calls, Dismissal transport.session pending session calls ∧
      (transport.dismiss pending env).1 = { transport with session } ∧
      env.Makes calls (transport.dismiss pending env).2 := by
  match pending with
  | none => exact ⟨transport.session, [], .nothing, rfl, env.makes_nil⟩
  | some ⟨kind, token, none⟩ =>
    exact ⟨transport.session, _, .reported kind token _, rfl, env.sendReply_makes _ _⟩
  | some ⟨kind, token, some id⟩ =>
    have told : env.Makes [sessionCall transport.session (.cancel id)]
        (Session.cancel transport.session id env).2 := rfl
    exact ⟨ProfileSession.cancel transport.session id, _, .cancelled kind token id _, rfl,
      told.append (Environment.sendReply_makes _ _ _)⟩

omit [ProfileSession S] in
/-- Ending the watch of a leaving owner is one call, if there is a watch. -/
theorem unwatch_makes (watch : Option WatchId) (env : Environment B A) :
    env.Makes (unwatching watch) (unwatch watch env) := by
  cases watch with
  | none => exact env.makes_nil
  | some watch => exact env.removeWatch_makes watch

/-- Without the last owner of a transport in use the session is given up. -/
theorem settle_used (transport : Transport S) (env : Environment B A)
    (unowned : transport.owners.owners = []) (used : transport.phase.inUse = true) :
    (transport.settle env).1 = { transport with
        session := ProfileSession.unlock transport.session, phase := restPhase transport.session } ∧
      env.Makes (sessionCall transport.session .unlock ::
        transport.announcement (restPhase transport.session)) (transport.settle env).2 := by
  have condition : (transport.owners.isEmpty && transport.phase.inUse) = true := by
    simp [OwnerSet.isEmpty, unowned, used]
  unfold settle
  rw [if_pos condition]
  have unlocked : env.Makes [sessionCall transport.session .unlock]
      (Session.unlock transport.session env).2 := rfl
  exact ⟨rfl, unlocked.append (moveTo_makes _ _ _)⟩

/-- While others own the transport, or where it is not in use, the session is kept. -/
theorem settle_kept (transport : Transport S) (env : Environment B A)
    (kept : transport.owners.owners ≠ [] ∨ transport.phase.inUse = false) :
    transport.settle env = (transport, env) := by
  have condition : (transport.owners.isEmpty && transport.phase.inUse) = false := by
    rcases kept with owned | unused
    · simp [OwnerSet.isEmpty, owned]
    · simp [unused]
  unfold settle
  rw [condition]
  rfl

/-- Where a record stands, the end of the ownership takes it away. -/
theorem removeOwner_departure {front back : List Owner} {owner : Owner}
    (stands : transport.owners.Stands client front owner back) (env : Environment B A) :
    ∃ calls, Departure transport owner (front ++ back) (transport.removeOwner client env).1 calls ∧
      env.Makes calls (transport.removeOwner client env).2 := by
  let erased : Transport S := { transport with
    owners := ⟨front ++ back⟩, lock := transport.lock &&& ~~~owner.lock }
  have dismissed := erased.dismiss_dismissal owner.pending env
  rw [removeOwner_eq stands]
  change ∃ calls, Departure transport owner (front ++ back)
    (settle (erased.dismiss owner.pending env).1 (unwatch owner.watch (erased.dismiss _ _).2)).1
      calls ∧ env.Makes calls
        (settle (erased.dismiss owner.pending env).1 (unwatch owner.watch (erased.dismiss _ _).2)).2
  revert dismissed
  rcases erased.dismiss owner.pending env with ⟨failed, middle⟩
  intro dismissed
  obtain ⟨session, calls, dismissal, rfl, told⟩ := dismissed
  have unwatched := told.append (unwatch_makes owner.watch middle)
  by_cases kept : front ++ back ≠ [] ∨ transport.phase.inUse = false
  · rw [settle_kept _ _ kept]
    exact ⟨_, .stays dismissal kept, unwatched⟩
  · simp only [ne_eq, not_or, Decidable.not_not, Bool.not_eq_false] at kept
    obtain ⟨last, used⟩ := kept
    have ⟨after, released⟩ := settle_used { erased with session } (unwatch owner.watch middle)
      last used
    rw [after]
    exact ⟨_, .settles dismissal last used, unwatched.append released⟩

/-! ### Acquire -/

/-- What is known of a client that may ask for an access now. -/
structure Admitted (transport : Transport S) (client : String) (lock : Lock) (name : ClientName) :
    Prop where
  /-- It is named. -/
  isClient : name.value = client
  /-- It owns nothing yet. -/
  fresh : transport.owners.contains client = false
  /-- It asks for something. -/
  wanted : lock.isEmpty = false
  /-- What it asks for is free. -/
  free : transport.lock.Apart lock
  /-- No request is in flight. -/
  quiet : transport.owners.hasInFlight = false
  /-- There is room for it. -/
  room : transport.owners.size < Limits.owners

omit [ProfileSession S] in
/-- A client is admitted only when no objection applies. -/
theorem admitted_of_ok {access : Access} {name : ClientName}
    (admission : transport.admission client access = .ok name) :
    transport.Admitted client access.lock name := by
  unfold Transport.admission at admission
  repeat' split at admission
  all_goals try cases admission
  rename_i fresh wanted _ free quiet room _ named
  exact ⟨Text.value_of_ofString? named, by simpa using fresh, by simpa using wanted,
    by simpa [Lock.Apart] using free, by simpa using quiet, by omega⟩

omit [ProfileSession S] in
/-- An admitted client owns none of the records. -/
theorem Admitted.ne {lock : Lock} {name : ClientName}
    (admitted : transport.Admitted client lock name) :
    ∀ other ∈ transport.owners.owners, other.client ≠ name := by
  intro other member same
  have absent : transport.owners.get? client = none := by
    simpa [OwnerSet.contains] using admitted.fresh
  exact OwnerSet.ne_of_get?_eq_none absent other member (same ▸ admitted.isClient)

omit [ProfileSession S] in
/-- A record of an admitted client goes behind the others. -/
theorem Admitted.insert_eq {lock : Lock} {name : ClientName}
    (admitted : transport.Admitted client lock name) (pending : Option Request)
    (watch : Option WatchId) :
    transport.owners.insert { client := name, lock, pending, watch } =
      .ok ⟨transport.owners.owners ++ [{ client := name, lock, pending, watch }]⟩ :=
  OwnerSet.insert_eq (by rw [admitted.isClient]; exact admitted.fresh) admitted.room

/-- Joining the owners of a running stream is one of the steps of an acquire. -/
theorem join_acquiring {lock : Lock} {name : ClientName} {stream : Stream}
    (admitted : transport.Admitted client lock name) (running : Condition.running.Holds transport)
    (known : transport.stream = some stream) (token : ReplyToken) (env : Environment B A) :
    ∃ calls, env.Makes calls (transport.join name token lock stream env).2.2 ∧
      Acquiring transport client token (transport.join name token lock stream env).1
        (transport.join name token lock stream env).2.1 calls := by
  have answered := env.sendReply_makes token (.acquired (stream.masked lock))
  unfold join
  revert answered
  rcases env.sendReply token (.acquired (stream.masked lock)) with ⟨cause | _, later⟩
  · intro answered
    exact ⟨_, answered, .undelivered cause running known⟩
  · intro answered
    have watched := answered.append (later.watchDisconnect_makes name.value)
    rw [admitted.isClient] at watched
    simp only [admitted.insert_eq, admitted.isClient]
    refine ⟨_, watched, ?_⟩
    exact .joined admitted.isClient running known admitted.ne admitted.free admitted.wanted

omit [MessageBus B] in
/-- Asking an unused session to start its stream ends in one of three ways. -/
theorem start_cases (session : S) (client : String) (env : Environment B A) :
    (∃ after, ProfileSession.lock session = (false, after) ∧
      (Session.start session false client env).1 = none ∧
      (Session.start session false client env).2.1 = after ∧
      env.Makes [sessionCall session (.lock false)] (Session.start session false client env).2.2) ∨
    (∃ locked after, ProfileSession.lock session = (true, locked) ∧
      ProfileSession.resume locked client = (none, after) ∧
      (Session.start session false client env).1 = none ∧
      (Session.start session false client env).2.1 = ProfileSession.unlock after ∧
      env.Makes [sessionCall session (.lock true), sessionCall locked (.resume client none),
        sessionCall after .unlock] (Session.start session false client env).2.2) ∨
    ∃ locked after id, ProfileSession.lock session = (true, locked) ∧
      ProfileSession.resume locked client = (some id, after) ∧
      (Session.start session false client env).1 = some id ∧
      (Session.start session false client env).2.1 = after ∧
      env.Makes [sessionCall session (.lock true), sessionCall locked (.resume client (some id))]
        (Session.start session false client env).2.2 := by
  unfold Session.start Session.lock Session.requestStart Session.unlock Session.record
  rcases ProfileSession.lock session with ⟨_ | _, locked⟩
  · exact .inl ⟨locked, rfl, rfl, rfl, rfl⟩
  · rcases resumed : ProfileSession.resume locked client with ⟨_ | id, after⟩
    · refine .inr (.inl ⟨locked, after, rfl, resumed, ?_⟩)
      simp [resumed, Environment.Makes, Environment.record, sessionCall]
    · refine .inr (.inr ⟨locked, after, id, rfl, resumed, ?_⟩)
      simp [resumed, Environment.Makes, Environment.record, sessionCall]

/-- Having the stream started is one of the steps of an acquire. A refused client leaves the lock
as it was, because what it asked for had been free. -/
theorem request_acquiring {lock : Lock} {name : ClientName}
    (admitted : transport.Admitted client lock name) (sound : transport.Sound)
    (free : Condition.free.Holds transport) (token : ReplyToken) (env : Environment B A) :
    ∃ calls, env.Makes calls (transport.request name token lock env).2.2 ∧
      Acquiring transport client token (transport.request name token lock env).1
        (transport.request name token lock env).2.1 calls := by
  have unused : transport.phase.inUse = false := inUse_eq_false.mpr free.2
  have restored : (transport.lock ||| lock) &&& ~~~lock = transport.lock :=
    Lock.or_minus admitted.free
  have unheld : transport.lock ||| lock = lock := by
    have nothing := sound.shared.lock_eq
    rw [free.1, OwnerSet.lock_nil] at nothing
    rw [nothing, Lock.none_or]
  have started := start_cases transport.session name.value env
  unfold request
  rw [unused]
  revert started
  rcases Session.start transport.session false name.value env with ⟨request, session, later⟩
  rw [admitted.isClient]
  rintro (⟨_, denied, rfl, rfl, made⟩ | ⟨locked, _, granted, denied, rfl, rfl, made⟩ |
    ⟨locked, _, id, granted, accepted, rfl, rfl, made⟩)
  · simp only [restored]
    exact ⟨_, made, .locked free denied⟩
  · simp only [restored]
    exact ⟨_, made, .unstarted free granted denied⟩
  · have watched := made.append (later.watchDisconnect_makes client)
    have joined := admitted.insert_eq (some ⟨.acquire, token, some id⟩)
      (later.watchDisconnect client).1
    rw [free.1, List.nil_append] at joined
    simp only [joined, unheld]
    have step := @Acquiring.started S _ transport client token name lock id
      (later.watchDisconnect client).1 locked _ admitted.isClient free admitted.wanted granted
      accepted
    by_cases idle : transport.phase = .idle
    · simp only [idle, if_true, moveTo, Phase.text] at step ⊢
      exact ⟨_, watched, step⟩
    · simp only [idle, if_false] at step ⊢
      exact ⟨_, watched, step⟩

/-- An acquire makes one of its steps. -/
theorem acquire_acquiring (sound : transport.Sound) (client : String) (token : ReplyToken)
    (access : String) (env : Environment B A) :
    ∃ calls, env.Makes calls (transport.acquire client token access env).2.2 ∧
      Acquiring transport client token (transport.acquire client token access env).1
        (transport.acquire client token access env).2.1 calls := by
  cases admission : transport.admission client (Access.parse access) with
  | error cause =>
    simp only [acquire, admission]
    exact ⟨[], env.makes_nil, .refused cause⟩
  | ok name =>
    have admitted := admitted_of_ok admission
    rcases sound.free_or_running admitted.quiet with free | running
    · have requested := request_acquiring admitted sound free token env
      rcases free.2 with idle | pending
      · simpa only [acquire, admission, idle] using requested
      · simpa only [acquire, admission, pending] using requested
    · obtain ⟨stream, known⟩ := Option.isSome_iff_exists.mp running.2.2.2
      have joined := join_acquiring admitted running known token env
      simpa only [acquire, admission, running.2.2.1, known] using joined

/-! ### Release -/

omit [MessageBus B] in
/-- The owners before the end of an ownership are seen only in those that remain. -/
theorem Departure.of_owners {prior after : Transport S} {owners : OwnerSet} {record : Owner}
    {remaining : List Owner} {calls : List Call}
    (departure : Departure { prior with owners } record remaining after calls) :
    Departure prior record remaining after calls := by
  cases departure with
  | stays dismissed kept => exact .stays dismissed kept
  | settles dismissed last used => exact .settles dismissed last used

/-- Where a record stands, whatever precedes it, its removal ends the ownership. -/
theorem removeOwner_leaving {front back : List Owner} {owner record : Owner}
    {completed : Option Operation} {prior : Transport S} {earlier : List Call}
    (stands : transport.owners.Stands client front owner back)
    (ending : Ending transport owner completed record prior earlier) (current : Transport S)
    (same : current = { prior with owners := ⟨front ++ record :: back⟩ })
    {first env : Environment B A} (made : first.Makes earlier env) :
    ∃ calls, first.Makes calls (current.removeOwner client env).2 ∧
      Leaving transport client completed (current.removeOwner client env).1 calls := by
  obtain ⟨client_eq, -, -, -, -⟩ := ending.frame
  have place : current.owners.Stands client front record back := by
    rw [same]
    exact stands.changed client_eq
  obtain ⟨calls, departure, further⟩ := removeOwner_departure place env
  rw [same] at departure
  exact ⟨_, made.append further, .intro stands ending (same ▸ departure.of_owners)⟩

/-- A removal as such ends an ownership. -/
theorem removeOwner_plain {front back : List Owner} {owner : Owner}
    (stands : transport.owners.Stands client front owner back) (env : Environment B A) :
    ∃ calls, env.Makes calls (transport.removeOwner client env).2 ∧
      Leaving transport client none (transport.removeOwner client env).1 calls := by
  refine removeOwner_leaving stands .plain transport ?_ env.makes_nil
  rw [← stands.owners_eq]

/-- Having the stream stopped is one of the steps of a release. -/
theorem suspend_releasing {owner : Owner} (isClient : owner.client.value = client)
    (single : transport.owners.owners = [owner]) (settled : owner.pending = none)
    (active : transport.phase = .active) (token : ReplyToken) (env : Environment B A) :
    ∃ calls, env.Makes calls (transport.suspend client token env).2.2 ∧
      Releasing transport client token (.ok (transport.suspend client token env).1)
        (transport.suspend client token env).2.1 calls := by
  have stands : transport.owners.Stands client [] owner [] := ⟨single, isClient, by simp⟩
  unfold suspend Session.suspend Session.record
  rcases stopped : ProfileSession.suspend transport.session client with ⟨_ | id, session⟩
  · have told : env.Makes [sessionCall transport.session (.suspend owner.client.value none)]
        (env.record
          (.session (ProfileSession.label transport.session) (.suspend client none))) := by
      rw [isClient]
      rfl
    have ending := @Ending.suspended S _ transport owner session single settled active
      (isClient ▸ stopped)
    obtain ⟨calls, made, leaving⟩ := removeOwner_leaving stands ending
      { transport with session, phase := .suspending } (by rw [List.nil_append, ← single]) told
    simp only [moveTo, active, Phase.text, if_true, stopped]
    exact ⟨calls, made, .left leaving⟩
  · have step := @Releasing.suspending S _ transport client token owner id session isClient single
      settled active stopped
    simp only [moveTo, active, Phase.text, if_true, stopped, stands.modify_eq]
    exact ⟨_, rfl, step⟩

/-- Giving up everything is one of the steps of a release. -/
theorem releaseAll_releasing (sound : transport.Sound) {front back : List Owner} {owner : Owner}
    (stands : transport.owners.Stands client front owner back) (token : ReplyToken)
    (env : Environment B A) :
    ∃ calls, env.Makes calls (transport.releaseAll client owner.pending token env).2.2 ∧
      Releasing transport client token (transport.releaseAll client owner.pending token env).1
        (transport.releaseAll client owner.pending token env).2.1 calls := by
  unfold releaseAll
  by_cases atOnce : 1 < transport.owners.size ∨
      (owner.pending.any fun request => request.kind == .acquire) = true
  · obtain ⟨calls, made, leaving⟩ := removeOwner_plain stands env
    rw [if_pos atOnce]
    exact ⟨calls, made, .left leaving⟩
  · rw [if_neg atOnce]
    cases pending : owner.pending with
    | some request => exact ⟨[], env.makes_nil, .refused _⟩
    | none =>
      have sizes : front.length + back.length = 0 := by
        simp only [OwnerSet.size, stands.owners_eq, List.length_append, List.length_cons] at atOnce
        omega
      have front_nil : front = [] := List.eq_nil_of_length_eq_zero (by omega)
      have back_nil : back = [] := List.eq_nil_of_length_eq_zero (by omega)
      subst front_nil back_nil
      have running := sound.running_of_settled stands.owners_eq pending
      obtain ⟨calls, made, step⟩ := suspend_releasing stands.client_eq stands.owners_eq pending
        running.2.2.1 token env
      exact ⟨calls, made, step⟩

/-- A release makes one of its steps. -/
theorem release_releasing (sound : transport.Sound) (client : String) (token : ReplyToken)
    (access : String) (env : Environment B A) :
    ∃ calls, env.Makes calls (transport.release client token access env).2.2 ∧
      Releasing transport client token (transport.release client token access env).1
        (transport.release client token access env).2.1 calls := by
  cases found : transport.owners.get? client with
  | none =>
    simp only [release, found]
    exact ⟨[], env.makes_nil, .refused _⟩
  | some owner =>
    obtain ⟨front, back, stands⟩ := OwnerSet.stands_of_get? found
    simp only [release, found]
    split
    · exact ⟨[], env.makes_nil, .refused _⟩
    · split
      · exact releaseAll_releasing sound stands token env
      · rename_i different
        split
        · rename_i within
          rw [stands.modify_eq]
          exact ⟨[], env.makes_nil, .narrowed stands within different⟩
        · exact ⟨[], env.makes_nil, .refused _⟩

/-! ### Reports of the session and departures -/

omit [ProfileSession S] in
/-- An owner is found waiting only with the request that is asked for. -/
theorem awaiting?_eq_some {kind : RequestKind} {id : RequestId} {owner : Owner} {request : Request}
    (awaiting : transport.awaiting? client kind id = some (owner, request)) :
    transport.owners.get? client = some owner ∧ owner.pending = some request ∧
      request.kind = kind ∧ request.id = some id := by
  unfold awaiting? at awaiting
  cases found : transport.owners.get? client with
  | none => simp [found] at awaiting
  | some other =>
    cases pending : other.pending with
    | none => simp [found, pending] at awaiting
    | some asked =>
      simp only [found, pending, Option.ite_none_right_eq_some, Option.some.injEq,
        Prod.mk.injEq] at awaiting
      obtain ⟨⟨sameKind, sameId⟩, rfl, rfl⟩ := awaiting
      exact ⟨rfl, pending, sameKind, sameId⟩

/-- The operation that a report completes: the one that is in flight for this client, of this kind
and under this identifier. -/
def reported (transport : Transport S) (client : String) (kind : RequestKind) (id : RequestId) :
    Option Operation :=
  (transport.awaiting? client kind id).map fun _ => ⟨client, kind, id⟩

/-- Giving the stream to the owner that waits for it lets it run, or ends the ownership where the
reply is lost. -/
theorem deliver_reaction {owner : Owner} {token : ReplyToken} {id : RequestId} {stream : Stream}
    (single : transport.owners.owners = [owner])
    (pending : owner.pending = some ⟨.acquire, token, some id⟩)
    (found : transport.endpoint.stream transport.session = some stream) (waiting : Transport S)
    (same : waiting = { transport with
      owners := ⟨[{ owner with pending := some ⟨.acquire, token, none⟩ }]⟩ })
    (env : Environment B A) :
    ∃ calls, env.Makes calls (waiting.deliver owner token stream env).2 ∧
      Reaction transport (some ⟨owner.client.value, .acquire, id⟩)
        (waiting.deliver owner token stream env).1 calls := by
  have stands : transport.owners.Stands owner.client.value [] owner [] :=
    ⟨single, rfl, by simp⟩
  have reported : waiting.owners.Stands owner.client.value []
      { owner with pending := some ⟨.acquire, token, none⟩ } [] := same ▸ stands.changed rfl
  have answered := env.sendReply_makes token (.acquired (stream.masked owner.lock))
  unfold deliver
  revert answered
  rcases env.sendReply token (.acquired (stream.masked owner.lock)) with ⟨_ | _, later⟩
  · intro answered
    obtain ⟨calls, made, leaving⟩ := removeOwner_leaving stands (.undelivered pending found)
      { waiting with stream := some stream } (same ▸ rfl) answered
    exact ⟨calls, made, .leaving leaving⟩
  · intro answered
    have announced :=
      answered.append (moveTo_makes { waiting with stream := some stream } .active later)
    simp only [reported.modify_eq]
    subst same
    exact ⟨_, announced, .granted single pending found⟩

/-- A report that the stream has started or failed to is passed over, gives the stream to the owner
that waits for it, or ends its ownership. -/
theorem resumeComplete_reaction (sound : transport.Sound) (client : String) (id : RequestId)
    (result : Except Error Unit) (env : Environment B A) :
    ∃ calls, env.Makes calls (transport.resumeComplete client id result env).2 ∧
      Reaction transport (transport.reported client .acquire id)
        (transport.resumeComplete client id result env).1 calls := by
  unfold resumeComplete reported
  cases awaiting : transport.awaiting? client .acquire id with
  | none => exact ⟨[], env.makes_nil, .kept⟩
  | some found =>
    obtain ⟨owner, kind, token, known⟩ := found
    obtain ⟨found, pending, rfl, rfl⟩ := awaiting?_eq_some awaiting
    obtain ⟨front, back, stands⟩ := OwnerSet.stands_of_get? found
    obtain rfl := stands.client_eq
    have alone := sound.single_of_pending stands.owners_eq (by simp [pending])
    obtain ⟨rfl, rfl⟩ := List.append_eq_nil_iff.mp alone
    let waiting : Transport S := { transport with
      owners := ⟨[{ owner with pending := some ⟨.acquire, token, none⟩ }]⟩ }
    have modified : { transport with
        owners := transport.owners.modify owner.client.value fun owner =>
          { owner with pending := some ⟨.acquire, token, none⟩ } } = waiting := by
      rw [stands.modify_eq]
      rfl
    simp only [modified]
    split
    · rename_i stream _ started
      exact deliver_reaction stands.owners_eq pending started waiting rfl env
    · obtain ⟨calls, made, leaving⟩ :=
        removeOwner_leaving stands (.failed pending) waiting rfl env.makes_nil
      exact ⟨calls, made, .leaving leaving⟩

/-- A report that the stream has stopped is passed over or ends the ownership that waits for it. -/
theorem suspendComplete_reaction (transport : Transport S) (client : String) (id : RequestId)
    (env : Environment B A) :
    ∃ calls, env.Makes calls (transport.suspendComplete client id env).2 ∧
      Reaction transport (transport.reported client .release id)
        (transport.suspendComplete client id env).1 calls := by
  unfold suspendComplete reported
  cases awaiting : transport.awaiting? client .release id with
  | none => exact ⟨[], env.makes_nil, .kept⟩
  | some found =>
    obtain ⟨owner, kind, token, known⟩ := found
    obtain ⟨found, pending, rfl, rfl⟩ := awaiting?_eq_some awaiting
    obtain ⟨front, back, stands⟩ := OwnerSet.stands_of_get? found
    obtain rfl := stands.client_eq
    simp only [stands.modify_eq]
    obtain ⟨calls, made, leaving⟩ := removeOwner_leaving stands (.stopped pending _)
      { transport with owners := ⟨front ++ { owner with pending := none } :: back⟩ } rfl
      (env.sendReply_makes token .done)
    exact ⟨calls, made, .leaving leaving⟩

/-- The departure of a client that is no owner is passed over; that of an owner ends its
ownership. -/
theorem clientDisconnected_cases (transport : Transport S) (client : String)
    (env : Environment B A) :
    (transport.owners.contains client = false ∧
      transport.clientDisconnected client env = (false, transport, env)) ∨
    ∃ calls, env.Makes calls (transport.clientDisconnected client env).2.2 ∧
      Leaving transport client none (transport.clientDisconnected client env).2.1 calls := by
  unfold clientDisconnected
  cases found : transport.owners.get? client with
  | none =>
    simp only [OwnerSet.contains, found]
    exact .inl ⟨rfl, rfl⟩
  | some owner =>
    obtain ⟨front, back, stands⟩ := OwnerSet.stands_of_get? found
    simp only [OwnerSet.contains, found, Option.isSome_some, if_true, stands.modify_eq]
    exact .inr (removeOwner_leaving stands .disconnected
      { transport with owners := ⟨front ++ { owner with watch := none } :: back⟩ } rfl
      env.makes_nil)

/-- The departure of a client ends its ownership, if it is an owner. -/
theorem clientDisconnected_reaction (transport : Transport S) (client : String)
    (env : Environment B A) :
    ∃ calls, env.Makes calls (transport.clientDisconnected client env).2.2 ∧
      Reaction transport none (transport.clientDisconnected client env).2.1 calls := by
  rcases transport.clientDisconnected_cases client env with ⟨-, passed⟩ | ⟨calls, made, leaving⟩
  · rw [passed]
    exact ⟨[], env.makes_nil, .kept⟩
  · exact ⟨calls, made, .leaving leaving⟩

/-! ### Ends of all ownerships -/

/-- Removing every owner, the oldest first, is an exodus. -/
theorem removeOwners_exodus {owners : List Owner} (owners_eq : transport.owners.owners = owners)
    (env : Environment B A) :
    ∃ calls, env.Makes calls (transport.removeOwners (owners.map Owner.client) env).2 ∧
      ∀ stream, Exodus transport
        { (transport.removeOwners (owners.map Owner.client) env).1 with stream } calls := by
  induction owners generalizing transport env with
  | nil => exact ⟨[], env.makes_nil, fun stream => .done owners_eq stream⟩
  | cons owner back ih =>
    have stands : transport.owners.Stands owner.client.value [] owner back :=
      ⟨owners_eq, rfl, by simp⟩
    obtain ⟨earlier, departure, made⟩ := removeOwner_departure stands env
    obtain ⟨later, further, exodus⟩ := ih (congrArg OwnerSet.owners departure.frame.1)
      (transport.removeOwner owner.client.value env).2
    exact ⟨_, made.append further, fun stream => .next owners_eq departure (exodus stream)⟩

/-- Taking a transport down ends every ownership and forgets the stream. -/
theorem shutDown_exodus (transport : Transport S) (env : Environment B A) :
    ∃ calls, env.Makes calls (transport.shutDown env).2 ∧
      Exodus transport (transport.shutDown env).1 calls := by
  obtain ⟨calls, made, exodus⟩ := @removeOwners_exodus S B A _ _ transport _ rfl env
  exact ⟨calls, made, exodus none⟩

/-- News of playback are followed by a transport that is not in use, end every ownership of a
running stream that ceases, and are passed over otherwise. -/
theorem reportPlaying_reaction (transport : Transport S) (playing : Bool) (env : Environment B A) :
    ∃ calls, env.Makes calls (transport.reportPlaying playing env).2 ∧
      Reaction transport none (transport.reportPlaying playing env).1 calls := by
  unfold reportPlaying
  split
  · rename_i idle
    exact ⟨_, moveTo_makes _ _ _, .followed (by rw [idle]; rfl) rfl⟩
  · rename_i pending
    exact ⟨_, moveTo_makes _ _ _, .followed (by rw [pending]; rfl) rfl⟩
  · obtain ⟨calls, made, exodus⟩ := @removeOwners_exodus S B A _ _ transport _ rfl env
    exact ⟨calls, made, .emptied (exodus _)⟩
  · exact ⟨[], env.makes_nil, .kept⟩

/-! ### Settings -/

omit [MessageBus B] in
/-- The volume is set with settings only. -/
theorem setVolume_makes (role : AudioRole) (delay : UInt16) (known : Option UInt16)
    (value : PropertyValue) (session : S) (env : Environment B A) :
    ∃ calls, env.Makes calls (Endpoint.setVolume role delay known value session env).2.2.2 ∧
      ∀ call ∈ calls, IsSetting call := by
  unfold Endpoint.setVolume
  cases value.uint16? with
  | none => exact ⟨[], env.makes_nil, by simp⟩
  | some volume =>
    by_cases loud : volume > Limits.volume
    · simp only [if_pos loud]
      exact ⟨[], env.makes_nil, by simp⟩
    · by_cases same : known = some volume
      · simp only [if_neg loud, if_pos same]
        exact ⟨[], env.makes_nil, by simp⟩
      · simp only [if_neg loud, if_neg same]
        have told : env.Makes [sessionCall session (.setVolume volume.toUInt8)]
          (Session.setVolume session volume.toUInt8 env).2.2 := rfl
        revert told
        rcases Session.setVolume session volume.toUInt8 env with ⟨_ | _, after, later⟩
        all_goals
          intro told
          exact ⟨_, told, by simp [sessionCall, IsSetting]⟩

omit [MessageBus B] in
/-- A property is set with settings only. -/
theorem setEndpoint_makes (endpoint : Endpoint) (name : String) (value : PropertyValue)
    (session : S) (env : Environment B A) :
    ∃ calls, env.Makes calls (endpoint.setProperty name value session env).2.2.2 ∧
      ∀ call ∈ calls, IsSetting call := by
  cases endpoint with
  | audio role delay volume =>
    unfold Endpoint.setProperty
    by_cases isDelay : name = "Delay"
    · simp only [if_pos isDelay]
      exact ⟨[], env.makes_nil, by simp⟩
    · by_cases isVolume : name = "Volume"
      · simp only [if_neg isDelay, if_pos isVolume]
        exact setVolume_makes role delay volume value session env
      · simp only [if_neg isDelay, if_neg isVolume]
        exact ⟨[], env.makes_nil, by simp⟩
  | headset mtu =>
    unfold Endpoint.setProperty
    cases value.bool? with
    | none => exact ⟨[], env.makes_nil, by simp⟩
    | some enabled =>
      by_cases isReduction : name = "NREC"
      · simp only [if_pos isReduction]
        exact ⟨[sessionCall session (.setNoiseReduction enabled)], rfl,
          by simp [sessionCall, IsSetting]⟩
      · by_cases isRingtone : name = "InbandRingtone"
        · simp only [if_neg isReduction, if_pos isRingtone]
          exact ⟨[sessionCall session (.setInbandRingtone enabled)], rfl,
            by simp [sessionCall, IsSetting]⟩
        · simp only [if_neg isReduction, if_neg isRingtone]
          exact ⟨[], env.makes_nil, by simp⟩
  | gateway mtu => exact ⟨[], env.makes_nil, by simp⟩

omit [MessageBus B] in
/-- Setting a property adjusts a transport. -/
theorem setProperty_reaction (transport : Transport S) (client name : String)
    (value : PropertyValue) (env : Environment B A) :
    ∃ calls, env.Makes calls (transport.setProperty client name value env).2.2 ∧
      Reaction transport none (transport.setProperty client name value env).2.1 calls := by
  unfold setProperty
  split
  · obtain ⟨calls, made, settings⟩ :=
      setEndpoint_makes transport.endpoint name value transport.session env
    exact ⟨calls, made, .adjusted _ _ settings⟩
  · exact ⟨[], env.makes_nil, .kept⟩

omit [ProfileSession S] in
/-- News of the device are announced where they are new. -/
theorem announce_makes (property : Property) (setting : property.name ≠ "State") (path : String)
    (isNew : Bool) (env : Environment B A) :
    ∃ calls, env.Makes calls (if isNew then env.propertyChanged path property else env) ∧
      ∀ call ∈ calls, IsSetting call := by
  cases isNew with
  | false => exact ⟨[], env.makes_nil, by simp⟩
  | true => exact ⟨_, env.propertyChanged_makes path property, by simpa [IsSetting] using setting⟩

/-- News of the delay adjust a transport. -/
theorem reportDelay_reaction (transport : Transport S) (delay : UInt16) (env : Environment B A) :
    ∃ calls, env.Makes calls (transport.reportDelay delay env).2.2 ∧
      Reaction transport none (transport.reportDelay delay env).2.1 calls := by
  unfold reportDelay
  split
  · exact ⟨[], env.makes_nil, .kept⟩
  · obtain ⟨calls, made, settings⟩ := announce_makes ⟨"Delay", .uint16 delay⟩ (by simp)
      transport.path.value _ env
    exact ⟨calls, made, .adjusted _ transport.session settings⟩

/-- News of the volume adjust a transport. -/
theorem reportVolume_reaction (transport : Transport S) (volume : UInt16) (env : Environment B A) :
    ∃ calls, env.Makes calls (transport.reportVolume volume env).2.2 ∧
      Reaction transport none (transport.reportVolume volume env).2.1 calls := by
  unfold reportVolume
  split
  · exact ⟨[], env.makes_nil, .kept⟩
  · split
    · exact ⟨[], env.makes_nil, .kept⟩
    · obtain ⟨calls, made, settings⟩ := announce_makes ⟨"Volume", .uint16 volume⟩ (by simp)
        transport.path.value _ env
      exact ⟨calls, made, .adjusted _ transport.session settings⟩

end BluetoothHost.Transport
