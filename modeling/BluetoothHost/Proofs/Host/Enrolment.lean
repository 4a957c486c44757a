import BluetoothHost.Proofs.Gatt.Enrolment
import BluetoothHost.Proofs.Host.Answers

/-!
# What becomes of a registration

A registration is refused at once or waits until its client is ready and is answered then. There
is one other way out: a client that gives up the service, or leaves the bus, takes the service with
it, and the registration is never answered. A client that is gone expects nothing, but one that
gave the service up goes on waiting for an answer.
-/

namespace BluetoothHost

open Transport (PlainSession PlainBus plainEnvironment)

variable {S B A : Type}

/-- Whether an event concerns transports and nothing else. -/
def Event.IsMedia : Event S → Prop
  | .methodCall _ _ (.acquire _ _) | .methodCall _ _ (.release _ _)
  | .methodCall _ _ (.getProperties _) | .methodCall _ _ (.setProperty _ _ _)
  | .transportConfigured _ _ _ _ _ _ | .transportClosed _ | .resumeComplete _ _ _ _
  | .suspendComplete _ _ _ | .playbackChanged _ _ | .delayReported _ _ | .volumeReported _ _ => True
  | _ => False

/-- Whether a client gives up the service under a path with this turn: it says so, or it leaves
the bus. -/
def Turn.GivesUp (client : ClientName) (path : ObjectPath) : Turn S B A → Prop
  | .event (.clientDisconnected other) => other = client
  | .event (.methodCall other _ (.unregisterService given)) => other = client ∧ given = path
  | _ => False

namespace Host

variable {host : Host S} {token : ReplyToken} {client : ClientName} {path : ObjectPath}

/-- What is known of the transports of a host while a registration waits under this token. -/
structure Clear (token : ReplyToken) (host : Host S) : Prop where
  /-- The transports are sound. -/
  sound : host.transports.Sound
  /-- None of their owners keeps the token. -/
  nowhere : host.transports.waiting token = 0

/-- Where no service keeps the token either, the method call is over. -/
theorem Clear.ready (clear : host.Clear token)
    (unregistered : host.publications.Unregistered token) : host.Ready token :=
  ⟨clear.sound, by rw [clear.nowhere]; omega, unregistered⟩

/-- The transports of a clear host settle nothing under the token, whatever the services are. -/
theorem Clear.bare (clear : host.Clear token) :
    ({ host with publications := {} } : Host S).Ready token :=
  ⟨clear.sound, by rw [clear.nowhere]; omega, by simp [Publications.Unregistered]⟩

/-- What settles nothing leaves a host clear. -/
theorem Settles.clear {before after : Host S} {first second : Environment B A}
    (settles : Settles token before after first second)
    (nowhere : before.transports.waiting token = 0) :
    after.Clear token ∧ first.Silent token second := by
  obtain ⟨calls, made, settlement⟩ := settles.account
  rw [nowhere] at settlement
  obtain ⟨none, silent⟩ := settlement.of_zero
  exact ⟨⟨settles.sound, none⟩, calls, made, silent⟩

section Events

variable [ProfileSession S] [MessageBus B] [AttributeServer A]

/-- What concerns transports is done without regard to published services and the database. -/
theorem process_media {event : Event S} (media : event.IsMedia) (host : Host S)
    (publications : Publications) (database : Database) (env : Environment B A) :
    ({ host with publications, database } : Host S).process event env =
      ({ (host.process event env).1 with publications, database }, (host.process event env).2) := by
  have framed : ∀ {α : Type} (path : ObjectPath)
      (operation : TransportId → TransportTable S → Environment B A →
        Except Error α × TransportTable S × Environment B A),
      ({ host with publications, database } : Host S).onTransport path operation env =
        ((host.onTransport path operation env).1,
          { (host.onTransport path operation env).2.1 with publications, database },
          (host.onTransport path operation env).2.2) := by
    intro α path operation
    unfold onTransport
    cases host.transports.findPath? path.value <;> rfl
  unfold Event.IsMedia at media
  split at media
  case h_12 => exact media.elim
  all_goals simp only [process, call, framed, createTransport]

/-- So it answers no method call that no transport keeps. -/
theorem process_media_clear (clear : host.Clear token) {event : Event S} (media : event.IsMedia)
    (foreign : event.token? ≠ some token) (env : Environment B A) :
    (host.process event env).1.Clear token ∧
      (host.process event env).1.publications = host.publications ∧
      env.Silent token (host.process event env).2 := by
  have ⟨kept, silent⟩ := (process_settles clear.bare event foreign env).clear clear.nowhere
  have framed : host.process event env = _ := process_media media
    { host with publications := {} } host.publications host.database env
  rw [framed]
  exact ⟨⟨kept.sound, kept.nowhere⟩, rfl, silent⟩

/-- The departure of a client leaves the transports clear of the token and answers nothing under
it. -/
theorem process_disconnect_clear (clear : host.Clear token) (other : ClientName)
    (env : Environment B A) :
    (host.process (.clientDisconnected other) env).1.Clear token ∧
      env.Silent token (host.process (.clientDisconnected other) env).2 := by
  have once : host.transports.waiting token ≤ 1 := by rw [clear.nowhere]; omega
  have settles := host.transports.clientDisconnected_settles clear.sound once other.value env
  obtain ⟨calls, made, settlement⟩ := settles.account
  rw [clear.nowhere] at settlement
  obtain ⟨nowhere, silent⟩ := settlement.of_zero
  have left : env.Silent token (host.transports.clientDisconnected other.value env).2.2 :=
    ⟨calls, made, silent⟩
  exact ⟨⟨settles.sound, nowhere⟩, left.trans (Publications.clientDisconnected_silent _ _ _ _)⟩

/-- A registration under a new token is answered at once or waits. -/
theorem process_register (clear : host.Clear token)
    (unregistered : host.publications.Unregistered token) (client : ClientName) (path : ObjectPath)
    (env : Environment B A) :
    (host.process (.methodCall client token (.registerService path)) env).1.Clear token ∧
      Publications.Proceeds token client path
        (host.process (.methodCall client token (.registerService path)) env).1.publications env
        (host.process (.methodCall client token (.registerService path)) env).2 := by
  refine ⟨⟨clear.sound, clear.nowhere⟩, ?_⟩
  simp only [process, call]
  rcases Publications.register_cases unregistered client path with ⟨cause, refused⟩ |
    ⟨taken, awaits⟩
  · rw [refused]
    exact .inr ⟨unregistered, env.sendReply_answersOnce token (.error cause)⟩
  · rw [taken]
    exact .inl ⟨awaits, .refl env⟩

/-! ### The turns of a registration that waits -/

/-- A turn by which the client gives up the service ends the registration without an answer. -/
theorem take_givesUp (clear : host.Clear token)
    (awaits : host.publications.Awaits token client path) {turn : Turn S B A}
    (foreign : turn.token? ≠ some token) (givesUp : turn.GivesUp client path)
    (env : Environment B A) :
    (host.take turn env).1.Clear token ∧
      (host.take turn env).1.publications.Unregistered token ∧
      env.Silent token (host.take turn env).2 := by
  unfold Turn.GivesUp at givesUp
  split at givesUp
  · rename_i leaving
    subst givesUp
    have ⟨kept, silent⟩ := process_disconnect_clear clear leaving env
    have gone := awaits.disconnect_own host.database
      (host.transports.clientDisconnected leaving.value env).2.2
    exact ⟨kept, gone, silent⟩
  · rename_i caller other given
    obtain ⟨rfl, rfl⟩ := givesUp
    have different : other ≠ token := fun same => foreign (congrArg some same)
    have quiet := @Publications.unregister_silent B A token _ host.publications host.database
      caller.value given.value env
    exact ⟨⟨clear.sound, clear.nowhere⟩, awaits.unregister_own host.database env,
      quiet.trans (answer_silent different _ _)⟩
  · exact givesUp.elim

/-- Every other event leaves the registration waiting or answers it once. -/
theorem process_awaits (clear : host.Clear token)
    (awaits : host.publications.Awaits token client path) {event : Event S}
    (foreign : event.token? ≠ some token)
    (stays : ¬(Turn.event event : Turn S B A).GivesUp client path) (env : Environment B A) :
    (host.process event env).1.Clear token ∧
      Publications.Proceeds token client path (host.process event env).1.publications env
        (host.process event env).2 := by
  by_cases media : event.IsMedia
  · have ⟨kept, untouched, silent⟩ := process_media_clear clear media foreign env
    refine ⟨kept, .inl ⟨?_, silent⟩⟩
    rwa [untouched]
  -- what is left concerns published services, and a departure concerns both
  have same : ∀ publications database,
      ({ host with publications, database } : Host S).Clear token := fun _ _ =>
    ⟨clear.sound, clear.nowhere⟩
  cases event with
  | methodCall caller other call =>
    have different : other ≠ token := fun same => foreign (congrArg some same)
    cases call with
    | registerService given =>
      exact ⟨same _ _, .inl ⟨awaits.register different, answer_silent different _ _⟩⟩
    | unregisterService given =>
      have elsewhere : ¬(caller.value = client.value ∧ given.value = path.value) := fun named =>
        stays ⟨Text.eq_of_value named.1, Text.eq_of_value named.2⟩
      have quiet := @Publications.unregister_silent B A token _ host.publications host.database
        caller.value given.value env
      exact ⟨same _ _, .inl ⟨awaits.unregister_other elsewhere host.database env,
        quiet.trans (answer_silent different _ _)⟩⟩
    | _ => exact absurd trivial media
  | clientDisconnected leaving =>
    have ⟨kept, silent⟩ := process_disconnect_clear clear leaving env
    have others : leaving.value ≠ client.value := fun named => stays (Text.eq_of_value named)
    have remains := awaits.disconnect_other others host.database
      (host.transports.clientDisconnected leaving.value env).2.2
    exact ⟨kept, .inl ⟨remains, silent⟩⟩
  | objectPublished publisher object =>
    have enrolled := host.publications.publish_enrolments publisher.value object
    exact ⟨same _ _, .inl ⟨awaits.of_enrolments enrolled, .refl env⟩⟩
  | objectWithdrawn publisher given =>
    have enrolled := host.publications.withdraw_enrolments publisher.value given.value
    exact ⟨same _ _, .inl ⟨awaits.of_enrolments enrolled, .refl env⟩⟩
  | clientReady publisher given => exact ⟨same _ _, awaits.clientReady host.database env⟩
  | valueChanged publisher given value =>
    have enrolled := host.publications.valueChanged_enrolments host.database publisher.value
      given.value value.data env
    have quiet := @Publications.valueChanged_silent B A token _ host.publications host.database
      publisher.value given.value value.data env
    exact ⟨same _ _, .inl ⟨awaits.of_enrolments enrolled, quiet⟩⟩
  | _ => exact absurd trivial media

/-- So does every other turn. -/
theorem take_awaits (clear : host.Clear token)
    (awaits : host.publications.Awaits token client path) {turn : Turn S B A}
    (foreign : turn.token? ≠ some token) (stays : ¬turn.GivesUp client path)
    (env : Environment B A) :
    (host.take turn env).1.Clear token ∧
      Publications.Proceeds token client path (host.take turn env).1.publications env
        (host.take turn env).2 := by
  cases turn with
  | event processed => exact process_awaits clear awaits foreign stays env
  | drift sessions bus server =>
    have ⟨kept, silent⟩ := (drift_settles clear.bare sessions env bus server).clear clear.nowhere
    exact ⟨⟨kept.sound, kept.nowhere⟩, .inl ⟨awaits, silent⟩⟩

/-! ### Runs -/

/-- At one of these turns the client gives up the service while the registration waits. -/
def Forsaken (token : ReplyToken) (client : ClientName) (path : ObjectPath) :
    Host S → List (Turn S B A) → Environment B A → Prop
  | _, [], _ => False
  | host, turn :: turns, env =>
    host.publications.awaiting token = 1 ∧ turn.GivesUp client path ∨
      Forsaken token client path (host.take turn env).1 turns (host.take turn env).2

/-- What becomes of a registration, by whether it was forsaken. -/
def Concluded (forsaken : Prop) (awaiting : Nat) (replies : List Bool) : Prop :=
  (¬forsaken → awaiting = 1 ∧ replies = [] ∨
    awaiting = 0 ∧ ∃ accepted, replies = [accepted]) ∧
  (forsaken → awaiting = 0 ∧ replies = [])

/-- Once no service keeps the token, nothing more happens to the registration. -/
theorem takeAll_over (clear : host.Clear token)
    (unregistered : host.publications.Unregistered token) (client : ClientName) (path : ObjectPath)
    {turns : List (Turn S B A)} (foreign : ∀ turn ∈ turns, turn.token? ≠ some token)
    (env : Environment B A) :
    (host.takeAll turns env).1.Clear token ∧
      (host.takeAll turns env).1.publications.Unregistered token ∧
      env.Silent token (host.takeAll turns env).2 ∧ ¬Forsaken token client path host turns env := by
  induction turns generalizing host env with
  | nil => exact ⟨clear, unregistered, .refl env, not_false⟩
  | cons turn turns ih =>
    have settles := take_settles (clear.ready unregistered) turn (foreign turn (by simp)) env
    have ⟨kept, silent⟩ := settles.clear clear.nowhere
    obtain ⟨still, ended, quiet, never⟩ := ih kept settles.unregistered
      (fun other member => foreign other (by simp [member])) (host.take turn env).2
    refine ⟨still, ended, silent.trans quiet, ?_⟩
    rintro (⟨waits, -⟩ | later)
    · rw [Publications.awaiting_eq_zero unregistered] at waits
      cases waits
    · exact never later

/-- A registration that was answered has come to a conclusion, and one that waits comes to the
conclusion of the turns that follow. -/
theorem takeAll_concluded (clear : host.Clear token) {turns : List (Turn S B A)}
    (foreign : ∀ turn ∈ turns, turn.token? ≠ some token) {first env : Environment B A}
    (proceeds : Publications.Proceeds token client path host.publications first env)
    (conclude : host.publications.Awaits token client path →
      ∃ calls, env.Makes calls (host.takeAll turns env).2 ∧
        Concluded (Forsaken token client path host turns env)
          ((host.takeAll turns env).1.publications.awaiting token) (repliesTo token calls)) :
    ∃ calls, first.Makes calls (host.takeAll turns env).2 ∧
      Concluded (Forsaken token client path host turns env)
        ((host.takeAll turns env).1.publications.awaiting token) (repliesTo token calls) := by
  rcases proceeds with ⟨awaits, earlier, made, none⟩ | ⟨unregistered, once⟩
  · obtain ⟨later, further, concluded⟩ := conclude awaits
    refine ⟨earlier ++ later, made.append further, ?_⟩
    rw [repliesTo_append, none, List.nil_append]
    exact concluded
  · obtain ⟨-, ended, quiet, never⟩ := takeAll_over clear unregistered client path foreign env
    obtain ⟨calls, accepted, made, one⟩ := once.silent quiet
    exact ⟨calls, made, fun _ => .inr ⟨Publications.awaiting_eq_zero ended, accepted, one⟩,
      fun forsaken => absurd forsaken never⟩

/-- A registration that waits comes to one of its conclusions. -/
theorem takeAll_awaits (clear : host.Clear token)
    (awaits : host.publications.Awaits token client path) {turns : List (Turn S B A)}
    (foreign : ∀ turn ∈ turns, turn.token? ≠ some token) (env : Environment B A) :
    ∃ calls, env.Makes calls (host.takeAll turns env).2 ∧
      Concluded (Forsaken token client path host turns env)
        ((host.takeAll turns env).1.publications.awaiting token) (repliesTo token calls) := by
  induction turns generalizing host env with
  | nil => exact ⟨[], env.makes_nil, fun _ => .inl ⟨awaits.awaiting_eq_one, rfl⟩, False.elim⟩
  | cons turn turns ih =>
    have own := foreign turn (by simp)
    have others := fun other member => foreign other (List.mem_cons_of_mem turn member)
    by_cases givesUp : turn.GivesUp client path
    · obtain ⟨kept, unregistered, silent⟩ := take_givesUp clear awaits own givesUp env
      obtain ⟨-, ended, quiet, -⟩ := takeAll_over kept unregistered client path others
        (host.take turn env).2
      obtain ⟨calls, made, none⟩ := silent.trans quiet
      have forsaken : Forsaken token client path host (turn :: turns) env :=
        .inl ⟨awaits.awaiting_eq_one, givesUp⟩
      exact ⟨calls, made, fun never => absurd forsaken never,
        fun _ => ⟨Publications.awaiting_eq_zero ended, none⟩⟩
    · obtain ⟨kept, proceeds⟩ := take_awaits clear awaits own givesUp env
      have same : Forsaken token client path host (turn :: turns) env ↔
          Forsaken token client path (host.take turn env).1 turns (host.take turn env).2 :=
        or_iff_right fun now => givesUp now.2
      rw [same]
      exact takeAll_concluded kept others proceeds fun still => ih kept still others _

/-- A run is forsaken in its first part or in the rest. -/
theorem forsaken_append (host : Host S) (earlier later : List (Turn S B A))
    (env : Environment B A) :
    Forsaken token client path host (earlier ++ later) env ↔
      Forsaken token client path host earlier env ∨
        Forsaken token client path (host.takeAll earlier env).1 later
          (host.takeAll earlier env).2 := by
  induction earlier generalizing host env with
  | nil => exact (or_iff_right id).symm
  | cons turn turns ih => exact (or_congr_right (ih _ _)).trans or_assoc.symm

/-- From the turn on that processes it, a registration waits for one service and was never
answered, or it waits nowhere and was answered once, as long as its client does not leave the bus
or give up the service while the registration waits. Once the client has done that, the service is
gone and the registration is never answered. -/
theorem takeAll_registration (options : HostOptions) (earlier later : List (Turn S B A))
    (client : ClientName) (token : ReplyToken) (path : ObjectPath) {turns : List (Turn S B A)}
    (asked : turns = earlier ++ .event (.methodCall client token (.registerService path)) :: later)
    (distinct : (turns.filterMap Turn.token?).Nodup) (env : Environment B A) {host : Host S}
    {final : Environment B A} (ran : (create options).takeAll turns env = (host, final)) :
    ∃ calls, env.Makes calls final ∧
      Concluded (Forsaken token client path (create options) turns env)
        (host.publications.awaiting token) (repliesTo token calls) := by
  subst asked
  obtain ⟨before, behind⟩ := foreign_of_nodup rfl distinct
  have ready : (create options : Host S).Ready token := ready_create options
  obtain ⟨clear, fresh, ⟨made, makes, none⟩, never⟩ :=
    takeAll_over ⟨ready.sound, rfl⟩ ready.unregistered client path before env
  obtain ⟨kept, waits⟩ := process_register clear fresh client path
    ((create options).takeAll earlier env).2
  obtain ⟨calls, further, concluded⟩ := takeAll_concluded kept behind waits fun awaits =>
    takeAll_awaits kept awaits behind _
  have same : Forsaken token client path (create options)
      (earlier ++ .event (.methodCall client token (.registerService path)) :: later) env ↔ _ :=
    (forsaken_append _ _ _ _).trans ((or_iff_right never).trans (or_iff_right fun now => now.2))
  rw [takeAll_append] at ran
  obtain ⟨rfl, rfl⟩ := Prod.ext_iff.mp ran
  refine ⟨made ++ calls, makes.append further, ?_⟩
  rw [same, repliesTo_append, none]
  exact concluded

/-- A client that gives up a service before it is ready has that call answered, and never its
registration. -/
theorem takeAll_registration_of_unregistered :
    let client : ClientName := ⟨":1.7", by decide⟩
    let path : ObjectPath := ⟨"/app", by decide⟩
    let turns : List (Turn PlainSession PlainBus Unit) :=
      [.event (.methodCall client ⟨1⟩ (.registerService path)),
        .event (.methodCall client ⟨2⟩ (.unregisterService path))]
    let after := (create {}).takeAll turns plainEnvironment
    ∃ calls, plainEnvironment.Makes calls after.2 ∧ repliesTo ⟨2⟩ calls = [true] ∧
      after.1.publications.awaiting ⟨1⟩ = 0 ∧ repliesTo ⟨1⟩ calls = [] := by
  intro client path turns after
  have asked : turns = [] ++ .event (.methodCall client ⟨1⟩ (.registerService path)) ::
      [.event (.methodCall client ⟨2⟩ (.unregisterService path))] := rfl
  obtain ⟨calls, made, -, forsaken⟩ := takeAll_registration {} [] _ client ⟨1⟩ path asked
    (by decide) plainEnvironment rfl
  have written : calls = after.2.journal := made.symm
  have gone : Forsaken ⟨1⟩ client path (create {}) turns plainEnvironment :=
    .inr (.inl ⟨by decide, rfl, rfl⟩)
  refine ⟨calls, made, ?_, forsaken gone⟩
  rw [written]
  decide

end Events

end Host

end BluetoothHost
