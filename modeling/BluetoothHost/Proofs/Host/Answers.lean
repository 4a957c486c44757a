import BluetoothHost.Host.Queue
import BluetoothHost.Proofs.Host.Settlement
import BluetoothHost.Proofs.Media.Run

/-!
# Every method call is answered once

Apart from a registration, a method call is answered while it is processed or kept with the
request in flight of one owner of one transport, and then answered by whatever ends the request.
A host that runs takes turns: it processes an event, or its neighbours go on by themselves.
-/

namespace BluetoothHost

open Transport (Opening)

/-- What happens next to a host. -/
inductive Turn (S B A : Type)
  /-- It processes an event. -/
  | event (event : Event S)
  /-- The sessions, the bus and the attribute server have gone on by themselves. -/
  | drift (sessions : Transport S → S) (bus : B) (server : A)

/-- The token of a method call that is processed. -/
def Turn.token? {S B A : Type} : Turn S B A → Option ReplyToken
  | .event processed => processed.token?
  | .drift _ _ _ => none

/-- A method call that was processed waits once and was not answered, or it does not wait and was
answered. -/
def Accounted (waiting : Nat) (replies : List Bool) : Prop :=
  waiting = 1 ∧ replies = [] ∨ waiting = 0 ∧ Answered replies

/-- A method call stays accounted for. -/
theorem Accounted.settle {waiting after : Nat} {replies more : List Bool}
    (accounted : Accounted waiting replies) (settlement : Settlement waiting after more) :
    Accounted after (replies ++ more) := by
  rcases accounted with ⟨rfl, rfl⟩ | ⟨rfl, answered⟩
  · rw [List.nil_append]
    cases settlement with
    | kept => exact .inl ⟨rfl, rfl⟩
    | settled _ answered => exact .inr ⟨rfl, answered⟩
  · obtain ⟨none, silent⟩ := settlement.of_zero
    rw [none, silent, List.append_nil]
    exact .inr ⟨rfl, answered⟩

namespace Host

variable {S B A : Type} {token : ReplyToken} {host : Host S}

/-- The host once its sessions have gone on. -/
def drift (host : Host S) (sessions : Transport S → S) : Host S :=
  let moved := host.transports.transports.map fun transport =>
    { transport with session := sessions transport }
  { host with transports := { host.transports with transports := moved } }

/-- Going on by themselves, sessions leave the transports sound. -/
theorem drift_sound (sound : host.transports.Sound) (sessions : Transport S → S) :
    (host.drift sessions).transports.Sound := by
  intro transport member
  obtain ⟨before, present, rfl⟩ := List.mem_map.mp member
  obtain ⟨shared, condition⟩ := sound before present
  exact ⟨shared, condition⟩

/-- They settle nothing. -/
theorem drift_settles (ready : host.Ready token) (sessions : Transport S → S)
    (env : Environment B A) (bus : B) (server : A) :
    Settles token host (host.drift sessions) env { env with bus, server } := by
  refine ⟨drift_sound ready.sound sessions, ready.unregistered, [], env.makes_nil, .of_eq ?_⟩
  simp only [drift, TransportTable.waiting, TransportTable.waitingAmong, List.flatMap_map]

/-- A host after a method call was processed: it is as ready as before, and the calls since then
account for the method call. -/
structure Accounts (token : ReplyToken) (host : Host S) (first second : Environment B A) :
    Prop where
  /-- The transports are sound. -/
  sound : host.transports.Sound
  /-- No service waits to be registered under the token. -/
  unregistered : host.publications.Unregistered token
  /-- The method call waits once, or it was answered. -/
  account : ∃ calls, first.Makes calls second ∧
    Accounted (host.transports.waiting token) (repliesTo token calls)

namespace Accounts

variable {later : Host S} {first second third : Environment B A}

/-- A host that accounts for a method call keeps its token at most once. -/
theorem ready (accounts : Accounts token host first second) : host.Ready token := by
  obtain ⟨_, -, accounted⟩ := accounts.account
  refine ⟨accounts.sound, ?_, accounts.unregistered⟩
  rcases accounted with ⟨one, -⟩ | ⟨nowhere, -⟩
  · omega
  · omega

/-- What settles the method call leaves it accounted for. -/
theorem settle (accounts : Accounts token host first second)
    (settles : Settles token host later second third) : Accounts token later first third := by
  obtain ⟨earlier, made, accounted⟩ := accounts.account
  obtain ⟨more, further, settlement⟩ := settles.account
  refine ⟨settles.sound, settles.unregistered, earlier ++ more, made.append further, ?_⟩
  rw [repliesTo_append]
  exact accounted.settle settlement

end Accounts

section Events

variable [MessageBus B]

/-- Once an opened method call has been answered unless it is answered otherwise, it is accounted
for. -/
theorem answer_opening {outcome : Except Error Completion} {waiting : Nat} {replies : List Bool}
    (opening : Opening outcome waiting replies) (env : Environment B A) :
    ∃ calls, env.Makes calls (answer token (outcome.map immediate) env) ∧
      Accounted waiting (replies ++ repliesTo token calls) := by
  cases opening with
  | refused cause lost =>
    obtain ⟨calls, accepted, made, one⟩ :=
      @answer_replies B A token _ (.error cause) (by simp) env
    exact ⟨calls, made, .inr ⟨rfl, lost, accepted, by rw [one]⟩⟩
  | done =>
    obtain ⟨calls, accepted, made, one⟩ :=
      @answer_replies B A token _ (.ok (some .done)) (by simp) env
    exact ⟨calls, made, .inr ⟨rfl, 0, accepted, by rw [one]; rfl⟩⟩
  | waits => exact ⟨[], env.makes_nil, .inl ⟨rfl, rfl⟩⟩
  | answered => exact ⟨[], env.makes_nil, .inr ⟨rfl, answered_single true⟩⟩

/-- An operation that opens a method call on the table accounts for it on the host, once its
outcome has been answered. -/
theorem onTransport_accounts (ready : host.Ready token) (fresh : host.transports.waiting token = 0)
    (path : ObjectPath)
    (operation : TransportId → TransportTable S → Environment B A →
      Except Error Completion × TransportTable S × Environment B A) (env : Environment B A)
    (each : ∀ id, (operation id host.transports env).2.1.Sound ∧
      ∃ calls, env.Makes calls (operation id host.transports env).2.2 ∧
        Opening (operation id host.transports env).1
          ((operation id host.transports env).2.1.waiting token) (repliesTo token calls)) :
    Accounts token (host.onTransport path operation env).2.1 env
      (answer token ((host.onTransport path operation env).1.map immediate)
        (host.onTransport path operation env).2.2) := by
  unfold onTransport
  cases host.transports.findPath? path.value with
  | none =>
    have opening : Opening (.error .doesNotExist) (host.transports.waiting token) [] :=
      fresh ▸ .refused _ 0
    obtain ⟨calls, made, accounted⟩ := @answer_opening B A token _ _ _ _ opening env
    exact ⟨ready.sound, ready.unregistered, calls, made, accounted⟩
  | some id =>
    obtain ⟨sound, earlier, made, opening⟩ := each id
    obtain ⟨later, further, accounted⟩ := @answer_opening B A token _ _ _ _ opening
      (operation id host.transports env).2.2
    refine ⟨sound, ready.unregistered, earlier ++ later, made.append further, ?_⟩
    rwa [repliesTo_append]

variable [ProfileSession S] [AttributeServer A]

/-- An immediate call is answered while it is processed. -/
theorem immediate_accounts (ready : host.Ready token) (fresh : host.transports.waiting token = 0)
    (client : ClientName) {call : MethodCall} (immediate : Immediate call)
    (env : Environment B A) :
    Accounts token (host.process (.methodCall client token call) env).1 env
      (host.process (.methodCall client token call) env).2 := by
  have settles := immediate_settles ready immediate client.value token env
  obtain ⟨earlier, made, settlement⟩ := settles.account
  rw [fresh] at settlement
  obtain ⟨none, silent⟩ := settlement.of_zero
  obtain ⟨later, accepted, further, one⟩ :=
    @answer_replies B A token _ _ (immediate_outcome immediate host client.value env)
      (host.call client.value token call env).2.2
  refine ⟨settles.sound, settles.unregistered, earlier ++ later, made.append further, ?_⟩
  rw [repliesTo_append, silent, one]
  exact .inr ⟨none, answered_single accepted⟩

/-- A fresh method call that is no registration is accounted for once it has been processed. -/
theorem process_accounts (ready : host.Ready token) (fresh : host.transports.waiting token = 0)
    (client : ClientName) {call : MethodCall} (kind : ∀ path, call ≠ .registerService path)
    (env : Environment B A) :
    Accounts token (host.process (.methodCall client token call) env).1 env
      (host.process (.methodCall client token call) env).2 := by
  cases call with
  | acquire transport access =>
    exact onTransport_accounts ready fresh transport
      (fun id table => table.acquire id client.value token access.value) env fun id =>
      TransportTable.acquire_opening ready.sound fresh id client.value access.value env
  | release transport access =>
    exact onTransport_accounts ready fresh transport
      (fun id table => table.release id client.value token access.value) env fun id =>
      TransportTable.release_opening ready.sound fresh id client.value access.value env
  | getProperties transport =>
    exact immediate_accounts ready fresh client (.getProperties transport) env
  | setProperty transport name value =>
    exact immediate_accounts ready fresh client (.setProperty transport name value) env
  | unregisterService path =>
    exact immediate_accounts ready fresh client (.unregisterService path) env
  | registerService path => exact absurd rfl (kind path)

/-! ### Turns -/

/-- The host and its neighbours after a turn. -/
def take (host : Host S) (turn : Turn S B A) (env : Environment B A) : Host S × Environment B A :=
  match turn with
  | .event processed => host.process processed env
  | .drift sessions bus server => (host.drift sessions, { env with bus, server })

/-- The host and its neighbours after a list of turns. -/
def takeAll (host : Host S) : List (Turn S B A) → Environment B A → Host S × Environment B A
  | [], env => (host, env)
  | turn :: turns, env =>
    let (host, env) := host.take turn env
    host.takeAll turns env

/-- Turns go on from where earlier ones have ended. -/
theorem takeAll_append (host : Host S) (earlier later : List (Turn S B A))
    (env : Environment B A) :
    host.takeAll (earlier ++ later) env =
      (host.takeAll earlier env).1.takeAll later (host.takeAll earlier env).2 := by
  induction earlier generalizing host env with
  | nil => rfl
  | cons turn turns ih => exact ih _ _

/-- Events alone are processed as they are in the queue. -/
theorem takeAll_events (host : Host S) (events : List (Event S)) (env : Environment B A) :
    host.takeAll (events.map Turn.event) env = host.processAll events env := by
  induction events generalizing host env with
  | nil => rfl
  | cons event events ih => exact ih _ _

/-- Every turn but that of a method call under this token settles it. -/
theorem take_settles (ready : host.Ready token) (turn : Turn S B A)
    (foreign : turn.token? ≠ some token) (env : Environment B A) :
    Settles token host (host.take turn env).1 env (host.take turn env).2 := by
  cases turn with
  | event processed => exact process_settles ready processed foreign env
  | drift sessions bus server => exact drift_settles ready sessions env bus server

/-- So do all turns before and after it. -/
theorem takeAll_settles (ready : host.Ready token) (turns : List (Turn S B A))
    (foreign : ∀ turn ∈ turns, turn.token? ≠ some token) (env : Environment B A) :
    Settles token host (host.takeAll turns env).1 env (host.takeAll turns env).2 := by
  induction turns generalizing host env with
  | nil => exact ⟨ready.sound, ready.unregistered, [], env.makes_nil, .kept _⟩
  | cons turn turns ih =>
    have first := take_settles ready turn (foreign turn (by simp)) env
    have rest := ih (first.ready ready) (fun other member => foreign other (by simp [member]))
      (host.take turn env).2
    exact first.trans rest ready

omit [ProfileSession S] [MessageBus B] [AttributeServer A] in
/-- Where all tokens are different no other turn has the token of a method call. -/
theorem foreign_of_nodup {earlier later : List (Turn S B A)} {turn : Turn S B A}
    (named : turn.token? = some token)
    (distinct : ((earlier ++ turn :: later).filterMap Turn.token?).Nodup) :
    (∀ other ∈ earlier, other.token? ≠ some token) ∧
      ∀ other ∈ later, other.token? ≠ some token := by
  rw [List.filterMap_append, List.filterMap_cons_some named, List.nodup_append,
    List.nodup_cons] at distinct
  obtain ⟨-, ⟨absent, -⟩, apart⟩ := distinct
  constructor
  · intro other member same
    exact apart token (List.mem_filterMap.mpr ⟨other, member, same⟩) token (by simp) rfl
  · intro other member same
    exact absent (List.mem_filterMap.mpr ⟨other, member, same⟩)

/-- A fresh method call that is no registration is accounted for from the turn on that processes
it. -/
theorem takeAll_accounts (ready : host.Ready token) (fresh : host.transports.waiting token = 0)
    (client : ClientName) {call : MethodCall} (kind : ∀ path, call ≠ .registerService path)
    {later : List (Turn S B A)} (foreign : ∀ turn ∈ later, turn.token? ≠ some token)
    (env : Environment B A) :
    Accounts token (host.takeAll (.event (.methodCall client token call) :: later) env).1 env
      (host.takeAll (.event (.methodCall client token call) :: later) env).2 := by
  have processed := process_accounts ready fresh client kind env
  exact processed.settle (takeAll_settles processed.ready later foreign _)

/-- From the turn on that processes it, a method call that is no registration waits for one owner
of one transport and was never answered, or it waits nowhere and was answered. Of its replies the
bus lost all but the last, so none follows one that the bus took; and if it took them all, there
was exactly one. -/
theorem takeAll_answers (options : HostOptions) (earlier later : List (Turn S B A))
    (client : ClientName) (token : ReplyToken) {call : MethodCall}
    (kind : ∀ path, call ≠ .registerService path)
    (distinct : ((earlier ++ .event (.methodCall client token call) :: later).filterMap
      Turn.token?).Nodup)
    (env : Environment B A) {host : Host S} {final : Environment B A}
    (ran : (create options).takeAll (earlier ++ .event (.methodCall client token call) :: later)
      env = (host, final)) :
    ∃ calls, env.Makes calls final ∧
      (∀ service ∈ host.publications.services, service.registration ≠ some token) ∧
      (host.transports.waiting token = 1 ∧ repliesTo token calls = [] ∨
        host.transports.waiting token = 0 ∧
          ∃ lost last, repliesTo token calls = List.replicate lost false ++ [last]) ∧
      ((∀ accepted ∈ repliesTo token calls, accepted = true) →
        host.transports.waiting token = 0 → repliesTo token calls = [true]) := by
  obtain ⟨before, behind⟩ := foreign_of_nodup rfl distinct
  have ready : (create options : Host S).Ready token := ready_create options
  have start := takeAll_settles ready earlier before env
  obtain ⟨made, makes, settlement⟩ := start.account
  have none : (create options : Host S).transports.waiting token = 0 := by
    rfl
  rw [none] at settlement
  obtain ⟨fresh, silent⟩ := settlement.of_zero
  have ended := takeAll_accounts (start.ready ready) fresh client kind behind
    ((create options).takeAll earlier env).2
  rw [← takeAll_append, ran] at ended
  obtain ⟨-, unregistered, more, further, accounted⟩ := ended
  have replies : repliesTo token (made ++ more) = repliesTo token more := by
    rw [repliesTo_append, silent, List.nil_append]
  refine ⟨made ++ more, makes.append further, unregistered, ?_, ?_⟩
  · rw [replies]
    exact accounted
  · rw [replies]
    intro taken nowhere
    rcases accounted with ⟨one, -⟩ | ⟨-, lost, last, answered⟩
    · rw [nowhere] at one
      cases one
    · rw [answered] at taken ⊢
      cases lost with
      | zero =>
        rw [taken last (by simp)]
        rfl
      | succ count =>
        have refused := taken false (by simp)
        cases refused

end Events

open Transport (PlainSession PlainBus plainTransport plainEnvironment)

/-- A server that knows no peers and refuses whatever it is asked for. -/
instance : AttributeServer Unit where
  registerService server _ _ := (none, server)
  registerCharacteristic server _ _ _ _ := (none, server)
  registerDescriptor server _ _ := (none, server)
  removeRange server _ := server
  updateValue server _ _ := (false, server)
  notify server _ _ := server
  peers _ := []
  sendIndication server _ _ := server

/-- An acquire that waits for its stream is answered once, when the stream has started. -/
theorem takeAll_answers_acquire :
    let plain := plainTransport false
    let configured : Turn PlainSession PlainBus Unit := .event
      (.transportConfigured plain.device plain.devicePath plain.uuid 0 plain.configuration {})
    let client : ClientName := ⟨":1.7", by decide⟩
    let started : Turn PlainSession PlainBus Unit := .event
      (.resumeComplete plain.path client ⟨0⟩ (.ok ()))
    let after := (create {}).takeAll [configured,
      .event (.methodCall client ⟨1⟩ (.acquire plain.path ⟨"rw", by decide⟩)), started]
      plainEnvironment
    ∃ calls, plainEnvironment.Makes calls after.2 ∧ after.1.transports.waiting ⟨1⟩ = 0 ∧
      repliesTo ⟨1⟩ calls = [true] := by
  intro plain configured client started after
  have kind : ∀ path, MethodCall.acquire plain.path ⟨"rw", by decide⟩ ≠ .registerService path := by
    intro path same
    cases same
  obtain ⟨calls, made, -, -, once⟩ := takeAll_answers {} [configured] [started] client ⟨1⟩ kind
    (by decide) plainEnvironment rfl
  have written : calls = after.2.journal := made.symm
  have nowhere : after.1.transports.waiting ⟨1⟩ = 0 := by decide +kernel
  refine ⟨calls, made, nowhere, once ?_ nowhere⟩
  rw [written]
  decide +kernel

end Host

end BluetoothHost
