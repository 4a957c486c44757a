import BluetoothHost.Proofs.Media.Run
import Mathlib.Data.List.Chain

/-!
# What clients are told of the state

A transport moves through five phases, of which clients see three words, and one operation may pass
through several phases. Whoever starts from the word for an idle transport and takes over each word
that is announced always knows the present one, and is never told what it knows already.
-/

namespace BluetoothHost

/-- The state that a call announces, if it announces one. -/
def Call.state? : Call → Option PropertyValue
  | .signal _ property => if property.name = "State" then some property.value else none
  | _ => none

/-- The states that were announced, the latest last. -/
def announcedStates (calls : List Call) : List PropertyValue := calls.filterMap Call.state?

/-- These calls announce no state. -/
def Stateless (calls : List Call) : Prop := ∀ call ∈ calls, call.state? = none

namespace Stateless

variable {call : Call} {calls earlier later : List Call}

/-- Where there are no calls no phase is announced. -/
theorem nil : Stateless [] := by simp [Stateless]

/-- One more call that announces none changes nothing about that. -/
theorem cons (silent : call.state? = none) (others : Stateless calls) :
    Stateless (call :: calls) :=
  List.forall_mem_cons.mpr ⟨silent, others⟩

/-- None is announced by calls that come one after the other. -/
theorem append (before : Stateless earlier) (after : Stateless later) :
    Stateless (earlier ++ later) :=
  List.forall_mem_append.mpr ⟨before, after⟩

end Stateless

/-- To those who know one word for the state of an object, these calls tell another one each time,
and a given word at last. -/
inductive Tells (path : String) : String → List Call → String → Prop
  /-- Nothing is called. -/
  | nothing (word : String) : Tells path word [] word
  /-- A call announces no state. -/
  | silent {call : Call} {calls : List Call} {word last : String} (silent : call.state? = none)
      (further : Tells path word calls last) : Tells path word (call :: calls) last
  /-- A call announces a new one. -/
  | changed {calls : List Call} {word next last : String} (differs : word ≠ next)
      (further : Tells path next calls last) :
      Tells path word (.signal path ⟨"State", .text next⟩ :: calls) last

namespace Tells

variable {path word middle last : String} {calls earlier later : List Call}

/-- Consecutive calls tell one word after another. -/
theorem append (before : Tells path word earlier middle) (after : Tells path middle later last) :
    Tells path word (earlier ++ later) last := by
  induction before with
  | nothing => exact after
  | silent silent _ ih => exact .silent silent (ih after)
  | changed differs _ ih => exact .changed differs (ih after)

/-- Calls that announce no state leave the word as it is. -/
theorem of_stateless (stateless : Stateless calls) (word : String) :
    Tells path word calls word := by
  induction calls with
  | nil => exact .nothing word
  | cons call calls ih =>
    obtain ⟨here, further⟩ := List.forall_mem_cons.mp stateless
    exact .silent here (ih further)

/-- No two announcements in a row are the same, the first differs from the word that was known
before, and the last is the word that is known then. -/
theorem announced (tells : Tells path word calls last) :
    (PropertyValue.text word :: announcedStates calls).IsChain (· ≠ ·) ∧
      (PropertyValue.text word :: announcedStates calls).getLast? = some (.text last) := by
  induction tells with
  | nothing word => exact ⟨.singleton _, rfl⟩
  | silent silent _ ih =>
    rw [announcedStates, List.filterMap_cons_none silent]
    exact ih
  | @changed calls word next last differs _ ih =>
    have heard : announcedStates (.signal path ⟨"State", .text next⟩ :: calls) =
        .text next :: announcedStates calls := List.filterMap_cons_some rfl
    rw [heard, List.isChain_cons_cons, List.getLast?_cons_cons]
    exact ⟨⟨by simpa using differs, ih.1⟩, ih.2⟩

/-- States are announced for this object only. -/
theorem path_eq (tells : Tells path word calls last) {other : String} {property : Property}
    (member : .signal other property ∈ calls) (isState : property.name = "State") :
    other = path := by
  induction tells with
  | nothing => cases member
  | silent silent _ ih =>
    rcases List.mem_cons.mp member with rfl | further
    · simp [Call.state?, isState] at silent
    · exact ih further
  | changed _ _ ih =>
    rcases List.mem_cons.mp member with same | further
    · cases same
      rfl
    · exact ih further

end Tells

namespace Transport

variable {S B A : Type}

/-- From one moment to another clients were told of the changes of the phase that they can see, and
the transport kept its path. -/
def Tracked (before after : Transport S) (calls : List Call) : Prop :=
  after.path = before.path ∧ Tells before.path.value before.phase.text calls after.phase.text

namespace Tracked

variable {first second third before after : Transport S} {calls earlier later : List Call}

/-- Whoever followed two changes in a row followed both. -/
theorem trans (before : Tracked first second earlier) (after : Tracked second third later) :
    Tracked first third (earlier ++ later) := by
  obtain ⟨same, tells⟩ := before
  obtain ⟨also, further⟩ := after
  exact ⟨also.trans same, tells.append (same ▸ further)⟩

/-- Where clients see the same word as before, no announcement is needed. -/
theorem of_stateless (path : after.path = before.path) (word : after.phase.text = before.phase.text)
    (stateless : Stateless calls) : Tracked before after calls :=
  ⟨path, word ▸ .of_stateless stateless _⟩

/-- A move to another phase is announced to those who see the difference. -/
theorem announcement {phase : Phase} (path : after.path = before.path)
    (moved : after.phase = phase) : Tracked before after (before.announcement phase) := by
  refine ⟨path, ?_⟩
  rw [moved, Transport.announcement]
  split
  · rename_i same
    exact same ▸ .nothing _
  · rename_i differs
    exact .changed differs (.nothing _)

end Tracked

section Steps

variable [ProfileSession S] {before after : Transport S} {calls : List Call}

omit [ProfileSession S] in
/-- The end of a watch announces no state. -/
theorem unwatching_stateless (watch : Option WatchId) : Stateless (unwatching watch) := by
  cases watch with
  | none => exact .nil
  | some watch => exact .cons rfl .nil

/-- Nor do settings. -/
theorem settings_stateless (settings : ∀ call ∈ calls, IsSetting call) : Stateless calls := by
  intro call member
  have setting := settings call member
  unfold IsSetting at setting
  split at setting
  · rfl
  · rfl
  · rfl
  · exact if_neg setting
  · cases setting

/-- Nor does a request that is failed. -/
theorem Dismissal.stateless {session after : S} {pending : Option Request}
    (dismissal : Dismissal session pending after calls) : Stateless calls := by
  cases dismissal with
  | nothing => exact .nil
  | reported => exact .cons rfl .nil
  | cancelled => exact .cons rfl (.cons rfl .nil)

/-- What precedes the end of an ownership shows nothing new: a transport that waits for its stream
to stop still looks active. -/
theorem Ending.tracked {owner record : Owner} {prior : Transport S}
    {completed : Option Operation} (ending : Ending before owner completed record prior calls) :
    Tracked before prior calls := by
  cases ending with
  | plain | disconnected | failed => exact .of_stateless rfl rfl .nil
  | undelivered | stopped => exact .of_stateless rfl rfl (.cons rfl .nil)
  | suspended _ _ active _ => exact .of_stateless rfl (by rw [active]; rfl) (.cons rfl .nil)

/-- When a record goes clients are told of the phase in which that leaves the transport. -/
theorem Departure.tracked {record : Owner} {remaining : List Owner}
    (departure : Departure before record remaining after calls) : Tracked before after calls := by
  cases departure with
  | stays dismissed _ =>
    exact .of_stateless rfl rfl (dismissed.stateless.append (unwatching_stateless _))
  | @settles session _ dismissed _ _ =>
    have ended := dismissed.stateless.append (unwatching_stateless record.watch)
    have unlocked : Stateless [sessionCall session .unlock] := .cons rfl .nil
    have silent : Tracked before before _ := .of_stateless rfl rfl (ended.append unlocked)
    rw [List.append_cons]
    exact silent.trans (.announcement rfl rfl)

/-- When an ownership ends clients are told what they can see of it. -/
theorem Leaving.tracked {client : String} {completed : Option Operation}
    (leaving : Leaving before client completed after calls) : Tracked before after calls := by
  obtain ⟨-, ending, departure⟩ := leaving
  have left : Tracked _ after _ := departure.tracked
  exact ending.tracked.trans left

/-- So they are when all owners leave. -/
theorem Exodus.tracked (exodus : Exodus before after calls) : Tracked before after calls := by
  induction exodus with
  | done => exact .of_stateless rfl rfl .nil
  | next _ departure _ ih => exact departure.tracked.trans ih

/-- A transport that is acquired looks as it did before. -/
theorem Acquiring.tracked {client : String} {token : ReplyToken}
    {outcome : Except Error Completion} (step : Acquiring before client token outcome after calls) :
    Tracked before after calls := by
  cases step with
  | refused => exact .of_stateless rfl rfl .nil
  | undelivered | locked => exact .of_stateless rfl rfl (.cons rfl .nil)
  | joined => exact .of_stateless rfl rfl (.cons rfl (.cons rfl .nil))
  | unstarted => exact .of_stateless rfl rfl (.cons rfl (.cons rfl (.cons rfl .nil)))
  | started =>
    refine .of_stateless rfl ?_ (.cons rfl (.cons rfl (.cons rfl .nil)))
    show (if before.phase = .idle then Phase.requesting else before.phase).text = before.phase.text
    split
    · rename_i idle
      rw [idle]
      rfl
    · rfl

/-- So does one whose stream is to stop. -/
theorem Releasing.tracked {client : String} {token : ReplyToken}
    {outcome : Except Error Completion} (step : Releasing before client token outcome after calls) :
    Tracked before after calls := by
  cases step with
  | refused | narrowed => exact .of_stateless rfl rfl .nil
  | left leaving => exact leaving.tracked
  | suspending _ _ _ active _ =>
    exact .of_stateless rfl (by rw [active]; rfl) (.cons rfl .nil)

/-- Clients are told when the stream has started and when the device begins or ceases to play. -/
theorem Reaction.tracked {completed : Option Operation}
    (step : Reaction before completed after calls) : Tracked before after calls := by
  cases step with
  | kept => exact .of_stateless rfl rfl .nil
  | leaving step => exact step.tracked
  | @granted owner token id stream _ _ _ =>
    have answered : Tracked before before
        [.reply token (.acquired (stream.masked owner.lock)) true] :=
      .of_stateless rfl rfl (.cons rfl .nil)
    exact answered.trans (.announcement rfl rfl)
  | followed => exact .announcement rfl rfl
  | adjusted _ _ settings => exact .of_stateless rfl rfl (settings_stateless settings)
  | emptied exodus => exact exodus.tracked

/-- Clients are told what they can see of every change. -/
theorem Change.tracked {completed : Option Operation}
    (change : Change before completed after calls) : Tracked before after calls := by
  cases change with
  | acquiring step => exact step.tracked
  | releasing step => exact step.tracked
  | reacting step => exact step.tracked

/-! ### Reading the state -/

/-- No endpoint adds more than three properties. -/
theorem length_endpointProperties_le (endpoint : Endpoint) (session : S) :
    (endpoint.properties session).length ≤ 3 := by
  cases endpoint with
  | audio _ _ volume =>
    have shown : (volume.filter (· ≤ Limits.volume)).toList.length ≤ 1 := by
      cases volume.filter (· ≤ Limits.volume) <;> simp
    simp only [Endpoint.properties, List.length_cons, Option.toList_map, List.length_map]
    omega
  | headset => exact Nat.le_refl 3
  | gateway => exact Nat.zero_le 3

/-- The properties of a transport can always be read: there is room for those that its kind adds
behind the common ones. -/
theorem properties_eq (transport : Transport S) :
    transport.properties =
      .ok (transport.commonProperties ++ transport.endpoint.properties transport.session) := by
  have bound := length_endpointProperties_le transport.endpoint transport.session
  have room : transport.commonProperties.length +
      (transport.endpoint.properties transport.session).length ≤ Limits.properties := by
    show 5 + (transport.endpoint.properties transport.session).length ≤ 12
    omega
  have fits : (transport.endpoint.properties transport.session).take
      (Limits.properties - transport.commonProperties.length) =
        transport.endpoint.properties transport.session := List.take_of_length_le (by omega)
  have common : Property.append [] transport.commonProperties =
      (.ok (), transport.commonProperties) := rfl
  simp only [properties, common]
  rw [Property.append, if_pos room, fits]

/-- Among them the state is the word for the phase. -/
theorem properties_state (transport : Transport S) :
    ∃ list, transport.properties = .ok list ∧
      Property.lookup? list "State" = some (.text transport.phase.text) :=
  ⟨_, transport.properties_eq, by simp [Property.lookup?, commonProperties]⟩

variable [MessageBus B]

/-- Clients can follow a run. -/
theorem run_tracked {transport : Transport S} (sound : transport.Sound) (moves : List (Move S B))
    (env : Environment B A) :
    ∃ calls, env.Makes calls (transport.run moves env).2 ∧
      Tracked transport (transport.run moves env).1 calls := by
  induction moves generalizing transport env with
  | nil => exact ⟨[], env.makes_nil, .of_stateless rfl rfl .nil⟩
  | cons move moves ih =>
    obtain ⟨earlier, made, change⟩ := perform_change sound move env
    obtain ⟨later, further, tracked⟩ := ih (change.sound sound) (transport.perform move env).2
    exact ⟨_, made.append further, change.tracked.trans tracked⟩

omit [ProfileSession S] in
/-- A fresh transport is idle. -/
theorem created_idle {id : TransportId} {config : TransportConfig} {session : S}
    {voiceMtu : UInt16} {transport : Transport S}
    (created : create id config session voiceMtu = .ok transport) : transport.phase = .idle := by
  unfold create at created
  repeat' split at created
  all_goals cases created
  rfl

/-- After every run from its creation, the states that a transport has announced, with the word for
an idle transport in front of them, never repeat the one before, and the last of them is the word
for the present phase. It is also the state that is read among the properties, which can always be
read. All announcements of states are made for the object of the transport. -/
theorem run_announced {id : TransportId} {config : TransportConfig} {session : S}
    {voiceMtu : UInt16} {transport : Transport S}
    (created : create id config session voiceMtu = .ok transport) (moves : List (Move S B))
    (env : Environment B A) {after : Transport S} {later : Environment B A}
    (ran : transport.run moves env = (after, later)) :
    ∃ calls, env.Makes calls later ∧
      (PropertyValue.text "idle" :: announcedStates calls).IsChain (· ≠ ·) ∧
      (PropertyValue.text "idle" :: announcedStates calls).getLast? =
        some (.text after.phase.text) ∧
      (∀ path property, .signal path property ∈ calls → property.name = "State" →
        path = transport.path.value) ∧
      ∃ list, after.properties = .ok list ∧
        Property.lookup? list "State" = some (.text after.phase.text) := by
  obtain ⟨calls, made, -, tells⟩ := run_tracked (sound_create created) moves env
  rw [ran] at made tells
  have start : transport.phase.text = "idle" := by
    rw [created_idle created]
    rfl
  rw [start] at tells
  obtain ⟨chain, last⟩ := tells.announced
  exact ⟨calls, made, chain, last, fun _ _ => tells.path_eq, after.properties_state⟩

/-- A client that acquires a transport while the device plays, gets its stream and releases it again
makes the transport pass through active back to pending, and each of the words is announced once. -/
theorem run_announced_of_playing :
    let moves : List (Move PlainSession PlainBus) :=
      [.reportPlaying true, .acquire ":1.7" ⟨1⟩ "rw", .resumeComplete ":1.7" ⟨0⟩ (.ok ()),
        .release ":1.7" ⟨2⟩ "rw", .suspendComplete ":1.7" ⟨1⟩]
    let after := (plainTransport true).run moves plainEnvironment
    announcedStates after.2.journal = [.text "pending", .text "active", .text "pending"] ∧
      after.1.phase = .pending ∧
      ∃ calls, plainEnvironment.Makes calls after.2 ∧
        (PropertyValue.text "idle" :: announcedStates calls).IsChain (· ≠ ·) := by
  intro moves after
  obtain ⟨calls, made, chain, -⟩ := run_announced (create_plain true) moves plainEnvironment rfl
  exact ⟨by decide +kernel, by decide +kernel, calls, made, chain⟩

end Steps

end Transport

end BluetoothHost
