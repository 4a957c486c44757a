import BluetoothHost.Proofs.Media.Settings

/-!
# What clients are told of the stream

An acquire is answered in two places: at once where the stream runs already, and otherwise when the
session reports that it has started it. In between the client may have given up a part of its lock.
Either way the reply is the stream that the transport has stored, as the client may use it with the
lock that it has by then, and what is stored is the stream that the session had when a start was
last complete and found one.
-/

namespace BluetoothHost

/-! ### Streams of the kinds of endpoints -/

namespace Endpoint

/-- Whether an endpoint carries voice. -/
def isVoice : Endpoint → Bool
  | audio _ _ _ => false
  | headset _ | gateway _ => true

/-- The stream of a session as the clients of an endpoint are given it. -/
def adapt : Endpoint → Stream → Stream
  | audio _ _ _, stream => stream
  | headset mtu, stream | gateway mtu, stream => stream.withMtu mtu

/-- The stream of an endpoint is the one of its session, adapted. -/
theorem stream_eq {S : Type} [ProfileSession S] (endpoint : Endpoint) (session : S) :
    endpoint.stream session = (ProfileSession.stream session).map endpoint.adapt := by
  cases endpoint with
  | audio => exact Option.map_id'.symm
  | headset => rfl
  | gateway => rfl

/-- A voice endpoint has the packet size of the host. -/
theorem ofUuid_adapt {uuid : Uuid} {voiceMtu : UInt16} {endpoint : Endpoint}
    (known : ofUuid uuid voiceMtu = .ok endpoint) (stream : Stream) :
    endpoint.adapt stream =
      if endpoint.isVoice then ⟨stream.descriptor, voiceMtu, voiceMtu⟩ else stream := by
  unfold ofUuid at known
  repeat' split at known
  all_goals cases known
  all_goals rfl

variable {S B A : Type} [ProfileSession S]

omit [ProfileSession S] in
/-- What the device reports does not change which stream clients are given. -/
theorem reportDelay?_adapt {endpoint next : Endpoint} {delay : UInt16} {isNew : Bool}
    (taken : endpoint.reportDelay? delay = some (isNew, next)) : next.adapt = endpoint.adapt := by
  cases endpoint <;> cases taken
  rfl

omit [ProfileSession S] in
/-- Of the volume neither. -/
theorem reportVolume?_adapt {endpoint next : Endpoint} {volume : UInt16} {isNew : Bool}
    (taken : endpoint.reportVolume? volume = some (isNew, next)) :
    next.adapt = endpoint.adapt := by
  cases endpoint <;> cases taken
  rfl

/-- Setting the volume does not change which stream clients are given. -/
theorem setVolume_adapt (role : AudioRole) (delay : UInt16) (known : Option UInt16)
    (value : PropertyValue) (session : S) (env : Environment B A) :
    (setVolume role delay known value session env).2.1.adapt = (audio role delay known).adapt := by
  unfold setVolume
  dsimp only
  repeat' split
  all_goals rfl

/-- Nor does setting another property. -/
theorem setProperty_adapt (endpoint : Endpoint) (name : String) (value : PropertyValue)
    (session : S) (env : Environment B A) :
    (endpoint.setProperty name value session env).2.1.adapt = endpoint.adapt := by
  cases endpoint with
  | audio role delay volume =>
    unfold setProperty setDelay
    dsimp only
    split
    · cases value.uint16? <;> rfl
    · split
      · exact setVolume_adapt role delay volume value session env
      · rfl
  | headset mtu =>
    unfold setProperty
    dsimp only
    repeat' split
    all_goals rfl
  | gateway mtu => rfl

end Endpoint

/-- A client is told the packet sizes of the directions that it holds. -/
theorem Stream.masked_eq (stream : Stream) (lock : Lock) :
    stream.masked lock = ⟨stream.descriptor, if lock.read then stream.readMtu else 0,
      if lock.write then stream.writeMtu else 0⟩ := by
  simp [masked, Lock.contains, Lock.reading, Lock.writing]

namespace Transport

variable {S B A : Type} [ProfileSession S]

/-! ### The stored stream -/

/-- The stream that the session has when a move reports that it has been started, if it has one. -/
def found? (transport : Transport S) : Move S B → Option Stream
  | .resumeComplete client id (.ok ()) =>
    (transport.awaiting? client .acquire id).bind fun _ => ProfileSession.stream transport.session
  | _ => none

section Stored

variable [MessageBus B]

/-- The streams that were found along a run, the latest last. -/
def streamsFound (transport : Transport S) : List (Move S B) → Environment B A → List Stream
  | [], _ => []
  | move :: moves, env =>
    let (next, further) := transport.perform move env
    (transport.found? move).toList ++ next.streamsFound moves further

/-- No move changes which stream clients are given. -/
theorem perform_adapt {transport : Transport S} (sound : transport.Sound) (move : Move S B)
    (env : Environment B A) :
    (transport.perform move env).1.endpoint.adapt = transport.endpoint.adapt := by
  cases setting : move.isSetting with
  | false =>
    obtain ⟨calls, -, untouched⟩ := perform_untouched sound setting env
    rw [untouched.endpoint_eq]
  | true =>
    cases move with
    | setProperty client name value =>
      unfold perform setProperty
      dsimp only
      split
      · exact transport.endpoint.setProperty_adapt name value transport.session env
      · rfl
    | reportDelay delay =>
      unfold perform reportDelay
      dsimp only
      split
      · rfl
      · rename_i taken
        exact Endpoint.reportDelay?_adapt taken
    | reportVolume volume =>
      unfold perform reportVolume
      dsimp only
      split
      · rfl
      · split
        · rfl
        · rename_i taken
          exact Endpoint.reportVolume?_adapt taken
    | _ => cases setting

/-- Nor does a run. -/
theorem run_adapt {transport : Transport S} (sound : transport.Sound) (moves : List (Move S B))
    (env : Environment B A) :
    (transport.run moves env).1.endpoint.adapt = transport.endpoint.adapt := by
  induction moves generalizing transport env with
  | nil => rfl
  | cons move moves ih =>
    exact (ih (perform_sound sound move env) _).trans (perform_adapt sound move env)

/-- The end of an ownership does not touch the stored stream. -/
theorem removeOwner_stream (transport : Transport S) (client : String) (env : Environment B A) :
    (transport.removeOwner client env).1.stream = transport.stream := by
  cases found : transport.owners.get? client with
  | none => simp only [removeOwner, found]
  | some owner =>
    obtain ⟨front, back, stands⟩ := OwnerSet.stands_of_get? found
    obtain ⟨calls, departure, -⟩ := removeOwner_departure stands env
    exact departure.frame.2.2.1

/-- Nor does the end of several. -/
theorem removeOwners_stream (transport : Transport S) (clients : List ClientName)
    (env : Environment B A) :
    (transport.removeOwners clients env).1.stream = transport.stream := by
  induction clients generalizing transport env with
  | nil => rfl
  | cons client clients ih =>
    rw [removeOwners]
    exact (ih _ _).trans (transport.removeOwner_stream client.value env)

/-- An acquire leaves it alone. -/
theorem acquire_stream {transport : Transport S} (sound : transport.Sound) (client : String)
    (token : ReplyToken) (access : String) (env : Environment B A) :
    (transport.acquire client token access env).2.1.stream = transport.stream := by
  obtain ⟨calls, -, step⟩ := acquire_acquiring sound client token access env
  generalize (transport.acquire client token access env).2.1 = after at step
  generalize (transport.acquire client token access env).1 = outcome at step
  cases step <;> rfl

/-- So does a release. -/
theorem release_stream (transport : Transport S) (client : String) (token : ReplyToken)
    (access : String) (env : Environment B A) :
    (transport.release client token access env).2.1.stream = transport.stream := by
  unfold release releaseAll suspend
  dsimp only
  repeat' split
  all_goals first | rfl | exact removeOwner_stream _ _ _

/-- So does a report that the stream has stopped. -/
theorem suspendComplete_stream (transport : Transport S) (client : String) (id : RequestId)
    (env : Environment B A) :
    (transport.suspendComplete client id env).1.stream = transport.stream := by
  unfold suspendComplete
  split
  · rfl
  · exact removeOwner_stream _ _ _

/-- So does news of playback. -/
theorem reportPlaying_stream (transport : Transport S) (playing : Bool) (env : Environment B A) :
    (transport.reportPlaying playing env).1.stream = transport.stream := by
  unfold reportPlaying
  split
  · rfl
  · rfl
  · exact removeOwners_stream _ _ _
  · rfl

/-- So does the departure of a client. -/
theorem clientDisconnected_stream (transport : Transport S) (client : String)
    (env : Environment B A) :
    (transport.clientDisconnected client env).2.1.stream = transport.stream := by
  unfold clientDisconnected
  split
  · exact removeOwner_stream _ _ _
  · rfl

omit [MessageBus B] in
/-- So does a setting by a client. -/
theorem setProperty_stream (transport : Transport S) (client name : String) (value : PropertyValue)
    (env : Environment B A) :
    (transport.setProperty client name value env).2.1.stream = transport.stream := by
  unfold setProperty
  split <;> rfl

omit [ProfileSession S] in
/-- So does news of the delay. -/
theorem reportDelay_stream (transport : Transport S) (delay : UInt16) (env : Environment B A) :
    (transport.reportDelay delay env).2.1.stream = transport.stream := by
  unfold reportDelay
  split <;> rfl

omit [ProfileSession S] in
/-- So does news of the volume. -/
theorem reportVolume_stream (transport : Transport S) (volume : UInt16) (env : Environment B A) :
    (transport.reportVolume volume env).2.1.stream = transport.stream := by
  unfold reportVolume
  split
  · rfl
  · split <;> rfl

/-- A stream that was started is stored before its owner is told, whether or not the bus takes the
reply. -/
theorem deliver_stream (transport : Transport S) (owner : Owner) (token : ReplyToken)
    (stream : Stream) (env : Environment B A) :
    (transport.deliver owner token stream env).1.stream = some stream := by
  unfold deliver
  dsimp only
  split
  · exact removeOwner_stream _ _ _
  · rfl

/-- A report that a start is complete stores the stream that it finds. -/
theorem resumeComplete_stream (transport : Transport S) (client : String) (id : RequestId)
    (result : Except Error Unit) (env : Environment B A) :
    (transport.resumeComplete client id result env).1.stream =
      ((transport.found? (.resumeComplete client id result : Move S B)).map
        transport.endpoint.adapt).or transport.stream := by
  cases awaiting : transport.awaiting? client .acquire id with
  | none =>
    rw [resumeComplete_unreported awaiting]
    cases result <;> simp [found?, awaiting]
  | some waiting =>
    unfold resumeComplete
    simp only [awaiting, Endpoint.stream_eq]
    cases result with
    | error cause => exact removeOwner_stream _ _ _
    | ok =>
      cases found : ProfileSession.stream transport.session with
      | none =>
        simp only [found?, awaiting, found, Option.map_none]
        exact removeOwner_stream _ _ _
      | some stream =>
        simp only [found?, awaiting, found, Option.map_some]
        exact deliver_stream _ _ _ _ _

/-- A move stores the stream that it finds and leaves the stored one alone where it finds none; only
a transport that is taken down forgets it. -/
theorem perform_stream {transport : Transport S} (sound : transport.Sound) (move : Move S B)
    (env : Environment B A) :
    (transport.perform move env).1.stream =
        ((transport.found? move).map transport.endpoint.adapt).or transport.stream ∨
      move = .shutDown ∧ (transport.perform move env).1.stream = none := by
  cases move with
  | shutDown => exact .inr ⟨rfl, rfl⟩
  | resumeComplete client id result =>
    exact .inl (transport.resumeComplete_stream client id result env)
  | acquire client token access => exact .inl (acquire_stream sound client token access env)
  | release client token access => exact .inl (transport.release_stream client token access env)
  | suspendComplete client id => exact .inl (transport.suspendComplete_stream client id env)
  | reportPlaying playing => exact .inl (transport.reportPlaying_stream playing env)
  | clientDisconnected client => exact .inl (transport.clientDisconnected_stream client env)
  | setProperty client name value => exact .inl (transport.setProperty_stream client name value env)
  | reportDelay delay => exact .inl (transport.reportDelay_stream delay env)
  | reportVolume volume => exact .inl (transport.reportVolume_stream volume env)
  | evolve session bus => exact .inl rfl

/-- The stored stream is the latest of those that were found, or it was forgotten when the transport
was taken down. -/
def Stored (found : List Stream) (takenDown : Prop) (transport : Transport S) : Prop :=
  transport.stream = found.getLast?.map transport.endpoint.adapt ∨
    takenDown ∧ transport.stream = none

/-- A move adds the stream that it finds. -/
theorem Stored.perform {transport : Transport S} {found : List Stream} {takenDown : Prop}
    (stored : Stored found takenDown transport) (sound : transport.Sound) (move : Move S B)
    (env : Environment B A) :
    Stored (found ++ (transport.found? move).toList) (takenDown ∨ move = .shutDown)
      (transport.perform move env).1 := by
  rw [Stored, perform_adapt sound]
  rcases perform_stream sound move env with kept | ⟨down, forgotten⟩
  · rw [kept]
    cases transport.found? move with
    | some latest => exact .inl (by simp)
    | none =>
      rw [Option.toList_none, List.append_nil]
      exact stored.imp_right fun ⟨down, forgotten⟩ => ⟨.inl down, forgotten⟩
  · exact .inr ⟨.inr down, forgotten⟩

/-- So does a run. -/
theorem Stored.run {transport : Transport S} {found : List Stream} {takenDown : Prop}
    (stored : Stored found takenDown transport) (sound : transport.Sound) (moves : List (Move S B))
    (env : Environment B A) :
    Stored (found ++ transport.streamsFound moves env) (takenDown ∨ .shutDown ∈ moves)
      (transport.run moves env).1 := by
  induction moves generalizing transport found takenDown env with
  | nil => simpa [streamsFound, Transport.run] using stored
  | cons move moves ih =>
    have rest := ih (stored.perform sound move env) (perform_sound sound move env)
      (transport.perform move env).2
    rw [List.append_assoc, or_assoc] at rest
    rw [List.mem_cons, eq_comm]
    exact rest

end Stored

end Transport

/-! ### Who asks and who is answered -/

/-- The client and the token of an acquire that waits for the stream, if an owner does. -/
def Owner.asking? (owner : Owner) : Option (String × ReplyToken) :=
  match owner.pending with
  | some ⟨.acquire, token, _⟩ => some (owner.client.value, token)
  | _ => none

/-- The token and the stream of a reply that gives a client the stream, if the bus took it. -/
def Call.given? : Call → Option (ReplyToken × Stream)
  | .reply token (.acquired stream) true => some (token, stream)
  | _ => none

/-- None of these calls gives a client the stream. -/
def Ungiven (calls : List Call) : Prop := ∀ call ∈ calls, call.given? = none

namespace Ungiven

variable {call : Call} {calls earlier later : List Call}

/-- Where there are no calls nothing is given. -/
theorem nil : Ungiven [] := by simp [Ungiven]

/-- One more call that gives nothing changes nothing about that. -/
theorem cons (other : call.given? = none) (others : Ungiven calls) : Ungiven (call :: calls) :=
  List.forall_mem_cons.mpr ⟨other, others⟩

/-- Nothing is given by calls that come one after the other. -/
theorem append (before : Ungiven earlier) (after : Ungiven later) : Ungiven (earlier ++ later) :=
  List.forall_mem_append.mpr ⟨before, after⟩

/-- Among such calls is no reply that gives a stream. -/
theorem notMem (ungiven : Ungiven calls) (token : ReplyToken) (given : Stream) :
    .reply token (.acquired given) true ∉ calls := by
  intro member
  cases ungiven _ member

end Ungiven

namespace Transport

variable {S B A : Type}

/-- The clients that wait for the stream, with the tokens of their acquires. -/
def asking (transport : Transport S) : List (String × ReplyToken) :=
  transport.owners.owners.filterMap Owner.asking?

/-- Nobody waits for the stream of a transport that nobody owns. -/
theorem asking_eq_nil {transport : Transport S} (unowned : transport.owners.owners = []) :
    transport.asking = [] := by
  rw [asking, unowned, List.filterMap_nil]

/-- The client that makes an acquire by a move, with the token. -/
def Move.asked : Move S B → List (String × ReplyToken)
  | .acquire client token _ => [(client, token)]
  | _ => []

/-- Whoever asks by a move makes an acquire under that token. -/
theorem Move.eq_of_asked {move : Move S B} {client : String} {token : ReplyToken}
    (asked : (client, token) ∈ move.asked) : ∃ access, move = .acquire client token access := by
  cases move with
  | acquire other own access =>
    obtain ⟨rfl, rfl⟩ := Prod.mk.inj (List.mem_singleton.mp asked)
    exact ⟨access, rfl⟩
  | _ => cases asked

/-! ### What a client holds -/

/-- A client has the stream that it was given: it is an owner that waits for nothing, the transport
is active, and what it was given is the stored stream with the packet sizes of the directions that
it holds. -/
structure Holding (transport : Transport S) (client : String) (given : Stream) (owner : Owner)
    (stored : Stream) : Prop where
  /-- The client is an owner. -/
  owns : transport.owners.get? client = some owner
  /-- It waits for nothing. -/
  settled : owner.pending = none
  /-- The transport is active. -/
  active : transport.phase = .active
  /-- The stream is stored. -/
  known : transport.stream = some stored
  /-- The client was given this stream with the packet sizes of the directions that it holds. -/
  given_eq : given = ⟨stored.descriptor, if owner.lock.read then stored.readMtu else 0,
    if owner.lock.write then stored.writeMtu else 0⟩

/-- What a step makes of the clients that ask for the stream: it comes to no client but those that
waited for it and those that ask for it in this step, and who is given it has it. -/
structure Grants (before after : Transport S) (asked : List (String × ReplyToken))
    (calls : List Call) : Prop where
  /-- Nobody else comes to wait. -/
  asking : after.asking ⊆ before.asking ++ asked
  /-- Who is given the stream has it. -/
  granted : ∀ token given, .reply token (.acquired given) true ∈ calls →
    ∃ client owner stored, (client, token) ∈ before.asking ++ asked ∧
      Holding after client given owner stored

section Steps

variable {before after prior : Transport S} {client : String} {token : ReplyToken}
  {outcome : Except Error Completion} {completed : Option Operation} {owner record : Owner}
  {remaining : List Owner} {asked : List (String × ReplyToken)} {calls : List Call}

/-- Where nobody is given anything only the waiting matters. -/
theorem Grants.of_ungiven (asking : after.asking ⊆ before.asking) (ungiven : Ungiven calls) :
    Grants before after asked calls where
  asking := List.subset_append_of_subset_left _ asking
  granted := fun token given member => absurd member (ungiven.notMem token given)

/-- The calls with which ownerships end give nothing. -/
theorem ungiven_of_parting (parting : ∀ call ∈ calls, IsParting call) : Ungiven calls := by
  intro call member
  have parts := parting call member
  unfold IsParting at parts
  split at parts <;> first | rfl | cases parts

/-- An announcement gives nothing. -/
theorem announcement_ungiven (transport : Transport S) (phase : Phase) :
    Ungiven (transport.announcement phase) :=
  ungiven_of_parting (transport.announcement_parting phase)

/-- Nor do settings. -/
theorem settings_ungiven (settings : ∀ call ∈ calls, IsSetting call) : Ungiven calls := by
  intro call member
  have setting := settings call member
  unfold IsSetting at setting
  split at setting <;> first | rfl | cases setting

variable [ProfileSession S]

/-- A reply that was lost gave nothing. -/
theorem Ending.ungiven (ending : Ending before owner completed record prior calls) :
    Ungiven calls := by
  cases ending with
  | plain | disconnected | failed => exact .nil
  | undelivered | stopped | suspended => exact .cons rfl .nil

/-- The end of an ownership gives nobody the stream, and the others go on waiting. -/
theorem Leaving.grants (leaving : Leaving before client completed after calls) :
    Grants before after asked calls := by
  obtain @⟨front, back, owner, _, _, _, _, _, _, stands, ending, departure⟩ := leaving
  refine .of_ungiven ?_ (ending.ungiven.append (ungiven_of_parting departure.parting))
  have fewer : (front ++ back).Sublist (front ++ owner :: back) :=
    (List.sublist_cons_self owner back).append_left front
  rw [asking, asking, departure.frame.1, stands.owners_eq]
  exact (fewer.filterMap Owner.asking?).subset

/-- A client that joins a running stream has it at once; one that has to wait for it asks. -/
theorem Acquiring.grants (step : Acquiring before client token outcome after calls) :
    Grants before after [(client, token)] calls := by
  cases step with
  | refused => exact .of_ungiven (List.Subset.refl _) .nil
  | undelivered | locked => exact .of_ungiven (List.Subset.refl _) (.cons rfl .nil)
  | unstarted => exact .of_ungiven (List.Subset.refl _) (.cons rfl (.cons rfl (.cons rfl .nil)))
  | @joined name lock stream watch isClient running known fresh _ _ =>
    refine ⟨?_, fun other given member => ?_⟩
    · rw [asking, List.filterMap_append]
      exact List.append_subset.mpr ⟨List.subset_append_left _ _, by simp [Owner.asking?]⟩
    · have answer : Call.reply other (.acquired given) true =
          .reply token (.acquired (stream.masked lock)) true := by simpa using member
      cases answer
      have stands : (OwnerSet.mk (before.owners.owners ++ [{ client := name, lock, watch }])).Stands
          client before.owners.owners { client := name, lock, watch } [] :=
        ⟨rfl, isClient, fun owner present same =>
          fresh owner present (Text.eq_of_value (same.trans isClient.symm))⟩
      exact ⟨client, _, stream, by simp, stands.get?_eq, rfl, running.2.2.1, known,
        stream.masked_eq lock⟩
  | started isClient free _ _ _ =>
    refine ⟨?_, fun other given member => absurd member (Ungiven.notMem ?_ other given)⟩
    · simp [asking, Owner.asking?, isClient, free.1]
    · exact .cons rfl (.cons rfl (.cons rfl .nil))

/-- A release gives nobody the stream. -/
theorem Releasing.grants (step : Releasing before client token outcome after calls) :
    Grants before after asked calls := by
  cases step with
  | refused => exact .of_ungiven (List.Subset.refl _) .nil
  | narrowed stands _ _ =>
    refine .of_ungiven ?_ .nil
    rw [asking, asking, stands.owners_eq, List.filterMap_append, List.filterMap_append,
      List.filterMap_cons, List.filterMap_cons]
    exact List.Subset.refl _
  | left leaving => exact leaving.grants
  | suspending => exact .of_ungiven (List.nil_subset _) (.cons rfl .nil)

/-- The owner that waited for the stream has it once it is told so. -/
theorem Reaction.grants (step : Reaction before completed after calls) :
    Grants before after asked calls := by
  cases step with
  | kept => exact .of_ungiven (List.Subset.refl _) .nil
  | leaving step => exact step.grants
  | @granted owner token id stream single pending _ =>
    have waits : (owner.client.value, token) ∈ before.asking := by
      simp [asking, single, Owner.asking?, pending]
    refine ⟨List.nil_subset _, fun other given member => ?_⟩
    rcases List.mem_cons.mp member with answer | announced
    · cases answer
      have stands : (OwnerSet.mk [{ owner with pending := none }]).Stands owner.client.value []
          { owner with pending := none } [] := ⟨rfl, rfl, by simp⟩
      exact ⟨_, _, stream, List.mem_append_left _ waits, stands.get?_eq, rfl, rfl, rfl,
        stream.masked_eq owner.lock⟩
    · exact absurd announced ((announcement_ungiven before .active).notMem other given)
  | followed => exact .of_ungiven (List.Subset.refl _) (announcement_ungiven _ _)
  | adjusted _ _ settings => exact .of_ungiven (List.Subset.refl _) (settings_ungiven settings)
  | emptied exodus =>
    refine .of_ungiven ?_ (ungiven_of_parting exodus.parting)
    rw [asking_eq_nil exodus.unowned]
    exact List.nil_subset _

end Steps

/-! ### Runs -/

variable [ProfileSession S] [MessageBus B]

/-- Only an acquire asks for the stream, and who is given it has it. -/
theorem perform_grants {transport : Transport S} (sound : transport.Sound) (move : Move S B)
    (env : Environment B A) :
    ∃ calls, env.Makes calls (transport.perform move env).2 ∧
      Grants transport (transport.perform move env).1 move.asked calls := by
  cases request : move.isRequest with
  | false =>
    obtain ⟨calls, made, step⟩ := perform_reaction sound request env
    exact ⟨calls, made, step.grants⟩
  | true =>
    cases move with
    | acquire client token access =>
      obtain ⟨calls, made, step⟩ := acquire_acquiring sound client token access env
      exact ⟨calls, made, step.grants⟩
    | release client token access =>
      obtain ⟨calls, made, step⟩ := release_releasing sound client token access env
      exact ⟨calls, made, step.grants⟩
    | _ => cases request

/-- Whoever waits at the end of a run waited before it or asked in it. -/
theorem run_asking {transport : Transport S} (sound : transport.Sound) (moves : List (Move S B))
    (env : Environment B A) :
    (transport.run moves env).1.asking ⊆ transport.asking ++ moves.flatMap Move.asked := by
  induction moves generalizing transport env with
  | nil => exact List.subset_append_left _ _
  | cons move moves ih =>
    obtain ⟨calls, -, grants⟩ := perform_grants sound move env
    have rest := ih (perform_sound sound move env) (transport.perform move env).2
    rw [List.flatMap_cons, ← List.append_assoc]
    exact List.Subset.trans rest (List.append_subset.mpr
      ⟨List.subset_append_of_subset_left _ grants.asking, List.subset_append_right _ _⟩)

omit [ProfileSession S] in
/-- A fresh transport has found no stream. -/
theorem created_stored {id : TransportId} {config : TransportConfig} {session : S}
    {voiceMtu : UInt16} {transport : Transport S}
    (created : create id config session voiceMtu = .ok transport) : Stored [] False transport := by
  unfold create at created
  repeat' split at created
  all_goals cases created
  exact .inl rfl

omit [ProfileSession S] in
/-- A fresh transport has the endpoint of its service. -/
theorem created_adapt {id : TransportId} {config : TransportConfig} {session : S}
    {voiceMtu : UInt16} {transport : Transport S}
    (created : create id config session voiceMtu = .ok transport) (stream : Stream) :
    transport.endpoint.adapt stream =
      if transport.endpoint.isVoice then ⟨stream.descriptor, voiceMtu, voiceMtu⟩ else stream := by
  unfold create at created
  repeat' split at created
  all_goals cases created
  exact Endpoint.ofUuid_adapt (by assumption) stream

/-- Whatever befalls a transport after a run from its creation, the stored stream is then the one
that the session had when a start was last complete and found one, with the packet size of the host
in both directions where the transport carries voice; it is missing only if there was none or the
transport was taken down. And whenever the bus takes a reply that gives a client the stream, the
client acquires the transport by this move, or it waited and had made its acquire before, under the
token of the reply. It has the stream then: it is an owner that waits for nothing, the transport is
active, and the reply is the stored stream, without the packet sizes of the directions that are not
in the lock which the owner has by now. -/
theorem run_granted {id : TransportId} {config : TransportConfig} {session : S}
    {voiceMtu : UInt16} {transport : Transport S}
    (created : create id config session voiceMtu = .ok transport) (moves : List (Move S B))
    (env : Environment B A) {before : Transport S} {middle : Environment B A}
    (ran : transport.run moves env = (before, middle)) (move : Move S B) {after : Transport S}
    {later : Environment B A} (performed : before.perform move middle = (after, later)) :
    (after.stream = (transport.streamsFound (moves ++ [move]) env).getLast?.map
        (fun found => if transport.endpoint.isVoice then ⟨found.descriptor, voiceMtu, voiceMtu⟩
          else found) ∨
      .shutDown ∈ moves ++ [move] ∧ after.stream = none) ∧
    ∃ calls, middle.Makes calls later ∧
      ∀ token given, .reply token (.acquired given) true ∈ calls →
        ∃ client access owner stored,
          (move = .acquire client token access ∨
            (client, token) ∈ before.asking ∧ .acquire client token access ∈ moves) ∧
          Holding after client given owner stored := by
  have fresh := sound_create created
  have sound := run_created_sound created ran
  constructor
  · have stored := (created_stored created).run fresh (moves ++ [move]) env
    have same := run_adapt fresh (moves ++ [move]) env
    have reached : (transport.run (moves ++ [move]) env).1 = after := by
      rw [run_append, ran]
      exact congrArg Prod.fst performed
    rw [Stored, same, List.nil_append, false_or, reached, funext (created_adapt created)] at stored
    exact stored
  · obtain ⟨calls, made, grants⟩ := perform_grants sound move middle
    have asking := run_asking fresh moves env
    rw [performed] at made grants
    rw [ran, asking_eq_nil (created_unowned created), List.nil_append] at asking
    refine ⟨calls, made, fun token given member => ?_⟩
    obtain ⟨client, owner, stored, asked, holding⟩ := grants.granted token given member
    rcases List.mem_append.mp asked with waited | now
    · obtain ⟨earlier, present, asks⟩ := List.mem_flatMap.mp (asking waited)
      obtain ⟨access, rfl⟩ := Move.eq_of_asked asks
      exact ⟨client, access, owner, stored, .inr ⟨waited, present⟩, holding⟩
    · obtain ⟨access, rfl⟩ := Move.eq_of_asked now
      exact ⟨client, access, owner, stored, .inl rfl, holding⟩

/-- Two clients share the stream of a headset that takes packets of 48 bytes, though its session
speaks of others. The first gave up writing while it waited, and the second joins to write: each is
told the packet size of the direction that it holds. -/
theorem run_granted_of_narrowed :
    let headset : Transport PlainSession := { plainTransport false with
      uuid := Uuid.handsFreeGateway, endpoint := .headset 48 }
    let requests : List (Move PlainSession PlainBus) :=
      [.acquire ":1.7" ⟨1⟩ "rw", .release ":1.7" ⟨2⟩ "w"]
    let waiting := headset.run requests plainEnvironment
    let running := waiting.1.perform (.resumeComplete ":1.7" ⟨0⟩ (.ok ())) waiting.2
    let shared := running.1.perform (.acquire ":1.8" ⟨3⟩ "w") running.2
    (∃ client owner stored, Holding running.1 client ⟨3, 48, 0⟩ owner stored) ∧
      ∃ client owner stored, Holding shared.1 client ⟨3, 0, 48⟩ owner stored := by
  intro headset requests waiting running shared
  have created : create ⟨0⟩ { plainConfig with uuid := Uuid.handsFreeGateway } {} 48 =
      .ok headset := rfl
  constructor
  · obtain ⟨-, calls, made, granted⟩ := run_granted created requests plainEnvironment
      (Prod.eta _).symm (.resumeComplete ":1.7" ⟨0⟩ (.ok ())) (Prod.eta _).symm
    have answered : waiting.2.Makes [.reply ⟨1⟩ (.acquired ⟨3, 48, 0⟩) true,
        .signal "/org/bluez/hci0/dev_01/fd0" ⟨"State", .text "active"⟩] running.2 := by
      rw [Environment.Makes]
      decide +kernel
    obtain ⟨client, _, owner, stored, -, holding⟩ :=
      granted ⟨1⟩ ⟨3, 48, 0⟩ (by rw [made.unique answered]; exact List.mem_cons_self)
    exact ⟨client, owner, stored, holding⟩
  · have ran : headset.run (requests ++ [.resumeComplete ":1.7" ⟨0⟩ (.ok ())]) plainEnvironment =
        (running.1, running.2) := headset.run_append requests _ plainEnvironment
    obtain ⟨-, calls, made, granted⟩ := run_granted created _ plainEnvironment ran
      (.acquire ":1.8" ⟨3⟩ "w") (Prod.eta _).symm
    have answered : running.2.Makes [.reply ⟨3⟩ (.acquired ⟨3, 0, 48⟩) true,
        .watch ":1.8" (some ⟨0⟩)] shared.2 := by
      rw [Environment.Makes]
      decide +kernel
    obtain ⟨client, _, owner, stored, -, holding⟩ :=
      granted ⟨3⟩ ⟨3, 0, 48⟩ (by rw [made.unique answered]; exact List.mem_cons_self)
    exact ⟨client, owner, stored, holding⟩

end Transport

end BluetoothHost
