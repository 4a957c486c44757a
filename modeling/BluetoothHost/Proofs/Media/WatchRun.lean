import BluetoothHost.Proofs.Media.Run
import BluetoothHost.Proofs.Media.Watches

/-!
# Watches over the runs of a table

The transports of a table are used by clients, sessions and devices in any order, and a client
may own several of them. Only its departure concerns more than one transport at once: it takes the
watches of the client on all of them, and none is ended by the host then. Every other move follows
the watches of one transport, with those of the others around them.
-/

namespace BluetoothHost.TransportTable

open Transport (Watched)

/-- What can befall the transports of a table. -/
inductive Move (S B : Type)
  /-- A stream was configured. -/
  | create (config : TransportConfig) (session : S)
  /-- A transport is taken down. -/
  | remove (id : TransportId)
  /-- A client acquires a transport. -/
  | acquire (id : TransportId) (client : String) (token : ReplyToken) (access : String)
  /-- A client releases a transport. -/
  | release (id : TransportId) (client : String) (token : ReplyToken) (access : String)
  /-- A client sets a property of a transport. -/
  | setProperty (id : TransportId) (client name : String) (value : PropertyValue)
  /-- A session finished starting its stream, or failed to. -/
  | resumeComplete (id : TransportId) (client : String) (request : RequestId)
      (result : Except Error Unit)
  /-- A session finished stopping its stream. -/
  | suspendComplete (id : TransportId) (client : String) (request : RequestId)
  /-- A device began or ceased to play. -/
  | reportPlaying (id : TransportId) (playing : Bool)
  /-- A device reported its delay. -/
  | reportDelay (id : TransportId) (delay : UInt16)
  /-- A device reported its volume. -/
  | reportVolume (id : TransportId) (volume : UInt16)
  /-- A client left the bus. -/
  | clientDisconnected (client : String)
  /-- The sessions and the bus have gone on by themselves. -/
  | evolve (sessions : Transport S → S) (bus : B)

variable {S B A : Type}

/-- The table once its sessions have gone on. -/
def evolve (table : TransportTable S) (sessions : Transport S → S) : TransportTable S :=
  { table with transports := table.transports.map fun transport =>
      { transport with session := sessions transport } }

/-- The watches that are kept for the owners of live transports. -/
def watches (table : TransportTable S) : List Watch :=
  table.transports.flatMap fun transport => transport.owners.watches

/-- Going on by themselves, sessions leave the transports sound. -/
theorem evolve_sound {table : TransportTable S} (sound : table.Sound)
    (sessions : Transport S → S) : (table.evolve sessions).Sound := by
  intro transport member
  obtain ⟨before, present, rfl⟩ := List.mem_map.mp member
  obtain ⟨shared, condition⟩ := sound before present
  exact ⟨shared, condition⟩

/-- They have no say in the watches. -/
theorem evolve_watches (table : TransportTable S) (sessions : Transport S → S) :
    (table.evolve sessions).watches = table.watches := by
  rw [watches, evolve, List.flatMap_map]
  rfl

/-- A transport that is created has no owner. -/
theorem create_watches (table : TransportTable S) (config : TransportConfig) (session : S) :
    (table.create config session).2.watches = table.watches := by
  unfold create
  split
  · rfl
  · split
    · rfl
    · dsimp only
      split
      · rfl
      · rename_i transport created
        have unowned : transport.owners.watches = [] := by
          rw [OwnerSet.watches, Transport.created_unowned created]
          rfl
        simp [watches, unowned]

section Moves

variable [ProfileSession S] [MessageBus B]

/-- The table and its neighbours after a move. -/
def perform (table : TransportTable S) (move : Move S B) (env : Environment B A) :
    TransportTable S × Environment B A :=
  match move with
  | .create config session => ((table.create config session).2, env)
  | .remove id => (table.remove id env).2
  | .acquire id client token access => (table.acquire id client token access env).2
  | .release id client token access => (table.release id client token access env).2
  | .setProperty id client name value => (table.setProperty id client name value env).2
  | .resumeComplete id client request result =>
    (table.resumeComplete id client request result env).2
  | .suspendComplete id client request => (table.suspendComplete id client request env).2
  | .reportPlaying id playing => (table.reportPlaying id playing env).2
  | .reportDelay id delay => (table.reportDelay id delay env).2
  | .reportVolume id volume => (table.reportVolume id volume env).2
  | .clientDisconnected client => (table.clientDisconnected client env).2
  | .evolve sessions bus => (table.evolve sessions, { env with bus })

/-- The table and its neighbours after a list of moves. -/
def run (table : TransportTable S) : List (Move S B) → Environment B A →
    TransportTable S × Environment B A
  | [], env => (table, env)
  | move :: moves, env =>
    let (next, further) := table.perform move env
    next.run moves further

/-- The departure that a move reports. -/
def Move.departure? : Move S B → Option WatchEvent
  | .clientDisconnected client => some (.departed client)
  | _ => none

/-- What a move does to watches: the departure that it reports, and the calls that it makes. -/
def moveEvents (table : TransportTable S) (move : Move S B) (env : Environment B A) :
    List WatchEvent :=
  move.departure?.toList ++ watchEvents (env.callsUntil (table.perform move env).2)

/-- What a list of moves does to watches. -/
def runEvents (table : TransportTable S) : List (Move S B) → Environment B A → List WatchEvent
  | [], _ => []
  | move :: moves, env =>
    let (next, further) := table.perform move env
    table.moveEvents move env ++ next.runEvents moves further

/-- A table after a move that was followed: it is sound, and its watches flowed as the events
say. -/
structure Follows (before : TransportTable S) (events : List WatchEvent)
    (after : TransportTable S) : Prop where
  /-- The transports are sound. -/
  sound : after.Sound
  /-- The watches flowed. -/
  flow : WatchFlow before.watches events after.watches

variable {table : TransportTable S}

omit [ProfileSession S] [MessageBus B] in
/-- The watches of one transport stand between those of the others. -/
theorem watches_split {front back : List (Transport S)} {transport : Transport S}
    (split : table.transports = front ++ transport :: back) :
    table.watches = front.flatMap (fun transport => transport.owners.watches) ++
      (transport.owners.watches ++ back.flatMap fun transport => transport.owners.watches) := by
  rw [watches, split, List.flatMap_append, List.flatMap_cons]

omit [ProfileSession S] [MessageBus B] in
/-- The watches of one transport flow among those of the others. -/
theorem flow_among {transport after : Transport S} {calls : List Call}
    (flow : WatchFlow transport.owners.watches (watchEvents calls) after.owners.watches)
    (front back : List Watch) :
    WatchFlow (front ++ (transport.owners.watches ++ back)) (watchEvents calls)
      (front ++ (after.owners.watches ++ back)) := by
  have others := flow.frame (fun client => departed_notMem_watchEvents client calls) (front ++ back)
  have regroup (watches : List Watch) :
      (front ++ (watches ++ back)).Perm (front ++ back ++ watches) := by
    rw [List.append_assoc]
    exact List.perm_append_comm.append_left front
  exact .of_perm (regroup _) (List.append_nil (watchEvents calls) ▸
    others.trans (.done (regroup _).symm))

omit [ProfileSession S] [MessageBus B] in
/-- What follows the watches of every sound transport follows those of the table. -/
theorem act_follows {α : Type} (sound : table.Sound) (id : TransportId)
    {operation : Transport S → Environment B A → Except Error α × Transport S × Environment B A}
    (each : ∀ transport env, transport.Sound → (operation transport env).2.1.Sound ∧
      Watched transport env (operation transport env).2.1 (operation transport env).2.2)
    (env : Environment B A) :
    Follows table (watchEvents (env.callsUntil (table.act id operation env).2.2))
      (table.act id operation env).2.1 := by
  rcases table.act_cases id operation env with missing | ⟨front, transport, back, split, acted⟩
  · rw [missing, env.makes_nil.callsUntil_eq]
    exact ⟨sound, .refl _⟩
  · obtain ⟨kept, calls, made, flow⟩ := each transport env (sound transport (by simp [split]))
    rw [acted, made.callsUntil_eq]
    refine ⟨sound.replaced split kept, ?_⟩
    rw [watches_split split, watches_split rfl]
    exact flow_among flow _ _

/-- Taking a transport down ends the watches of its owners. -/
theorem remove_follows (sound : table.Sound) (id : TransportId) (env : Environment B A) :
    Follows table (watchEvents (env.callsUntil (table.remove id env).2.2))
      (table.remove id env).2.1 := by
  refine ⟨remove_sound sound id env, ?_⟩
  unfold remove get?
  cases found : table.transports.find? (hasId id) with
  | none =>
    rw [env.makes_nil.callsUntil_eq]
    exact .refl _
  | some transport =>
    obtain ⟨front, back, split, -, erased⟩ := split_of_find? found
    obtain ⟨calls, made, flow⟩ := transport.shutDown_watched env
    obtain ⟨_, -, exodus⟩ := transport.shutDown_exodus env
    have emptied : (transport.shutDown env).1.owners.watches = [] := by
      rw [OwnerSet.watches, exodus.unowned]
      rfl
    dsimp only
    rw [erased, made.callsUntil_eq, watches_split split]
    have among := flow_among flow
      (front.flatMap fun transport => transport.owners.watches)
      (back.flatMap fun transport => transport.owners.watches)
    rw [emptied, List.nil_append, ← List.flatMap_append] at among
    exact among

/-- When a client leaves the host ends no watch. -/
theorem disconnectEach_silent (transports : List (Transport S)) (client : String)
    (env : Environment B A) :
    ∃ calls, env.Makes calls (disconnectEach client transports env).2.2 ∧
      watchEvents calls = [] := by
  induction transports generalizing env with
  | nil => exact ⟨[], env.makes_nil, rfl⟩
  | cons transport rest ih =>
    obtain ⟨earlier, made, silent⟩ := transport.clientDisconnected_silent client env
    obtain ⟨later, further, quiet⟩ := ih (transport.clientDisconnected client env).2.2
    exact ⟨earlier ++ later, made.append further, by rw [watchEvents_append, silent, quiet]; rfl⟩

/-- When a client leaves the watches for it are gone from every transport. -/
theorem disconnectEach_watches {transports : List (Transport S)}
    (sound : ∀ transport ∈ transports, transport.Sound) (client : String)
    (env : Environment B A) :
    ((disconnectEach client transports env).2.1.flatMap
        fun transport => transport.owners.watches) =
      (transports.flatMap fun transport => transport.owners.watches).filter
        fun watch => watch.client != client := by
  induction transports generalizing env with
  | nil => rfl
  | cons transport rest ih =>
    obtain ⟨here, behind⟩ := List.forall_mem_cons.mp sound
    obtain ⟨others, -, unowned⟩ := Transport.clientDisconnected_others here client env
    rw [disconnectEach, List.flatMap_cons, List.flatMap_cons, List.filter_append,
      Transport.watches_of_others others unowned, ih behind]

/-- Every move follows the watches. -/
theorem perform_follows (sound : table.Sound) (move : Move S B) (env : Environment B A) :
    Follows table (table.moveEvents move env) (table.perform move env).1 := by
  cases move with
  | create config session =>
    refine ⟨create_sound sound config session, ?_⟩
    rw [moveEvents, perform, env.makes_nil.callsUntil_eq, create_watches]
    exact .refl _
  | remove id => exact remove_follows sound id env
  | acquire id client token access =>
    refine act_follows sound id (fun transport env kept => ?_) env
    obtain ⟨calls, -, step⟩ := Transport.acquire_acquiring kept client token access env
    exact ⟨step.sound kept, Transport.acquire_watched kept client token access env⟩
  | release id client token access =>
    refine act_follows sound id (fun transport env kept => ?_) env
    obtain ⟨calls, -, step⟩ := Transport.release_releasing kept client token access env
    exact ⟨step.sound kept, transport.release_watched client token access env⟩
  | setProperty id client name value =>
    refine act_follows sound id (fun transport env kept => ?_) env
    obtain ⟨calls, -, step⟩ := transport.setProperty_reaction client name value env
    exact ⟨step.sound kept, transport.setProperty_watched client name value env⟩
  | resumeComplete id client request result =>
    refine act_follows sound id (fun transport env kept => ?_) env
    obtain ⟨calls, -, step⟩ := Transport.resumeComplete_reaction kept client request result env
    exact ⟨step.sound kept, transport.resumeComplete_watched client request result env⟩
  | suspendComplete id client request =>
    refine act_follows sound id (fun transport env kept => ?_) env
    obtain ⟨calls, -, step⟩ := transport.suspendComplete_reaction client request env
    exact ⟨step.sound kept, transport.suspendComplete_watched client request env⟩
  | reportPlaying id playing =>
    refine act_follows sound id (fun transport env kept => ?_) env
    obtain ⟨calls, -, step⟩ := transport.reportPlaying_reaction playing env
    exact ⟨step.sound kept, transport.reportPlaying_watched playing env⟩
  | reportDelay id delay =>
    refine act_follows sound id (fun transport env kept => ?_) env
    obtain ⟨calls, -, step⟩ := transport.reportDelay_reaction delay env
    exact ⟨step.sound kept, transport.reportDelay_watched delay env⟩
  | reportVolume id volume =>
    refine act_follows sound id (fun transport env kept => ?_) env
    obtain ⟨calls, -, step⟩ := transport.reportVolume_reaction volume env
    exact ⟨step.sound kept, transport.reportVolume_watched volume env⟩
  | clientDisconnected client =>
    refine ⟨(clientDisconnected_spares sound client env).sound, .departed ?_⟩
    obtain ⟨calls, made, silent⟩ := disconnectEach_silent table.transports client env
    have quiet :
        watchEvents (env.callsUntil (table.perform (.clientDisconnected client) env).2) = [] :=
      (congrArg watchEvents made.callsUntil_eq).trans silent
    have left : (table.perform (.clientDisconnected client) env).1.watches =
        table.watches.filter fun watch => watch.client != client :=
      disconnectEach_watches sound client env
    rw [quiet, left]
    exact .refl _
  | evolve sessions bus =>
    have nothing : env.Makes [] { env with bus } := env.makes_nil
    refine ⟨evolve_sound sound sessions, ?_⟩
    rw [moveEvents, perform, nothing.callsUntil_eq, evolve_watches]
    exact .refl _

/-- So does every run. -/
theorem run_follows (sound : table.Sound) (moves : List (Move S B)) (env : Environment B A) :
    Follows table (table.runEvents moves env) (table.run moves env).1 := by
  induction moves generalizing table env with
  | nil => exact ⟨sound, .refl _⟩
  | cons move moves ih =>
    have step := perform_follows sound move env
    have rest := ih step.sound (table.perform move env).2
    exact ⟨rest.sound, step.flow.trans rest.flow⟩

/-- Where the bus grants no watch under a name that it has used before, after every run of a fresh
table the watches that the bus has granted, and that the host has neither ended nor seen fire by
the departure of their client, are those kept in the records of the owners of live transports, and
each is kept in one record. The host has ended no watch twice, and none after it has processed the
departure of its client. -/
theorem run_watches (voiceMtu : UInt16) (moves : List (Move S B)) (env : Environment B A)
    {events : List WatchEvent} {after : TransportTable S} {later : Environment B A}
    (ran : run { voiceMtu } moves env = (after, later))
    (happened : runEvents { voiceMtu } moves env = events)
    (distinct : ((addedIn events).map Watch.id).Nodup) :
    (openWatches events).Perm after.watches ∧
      (after.watches.map Watch.id).Nodup ∧
      (endedIn events).Nodup ∧
      ∀ earlier watch middle rest,
        events = (earlier ++ .added watch :: middle) ++ .departed watch.client :: rest →
          .ended watch.id ∉ rest := by
  have follows := @run_follows S B A _ _ { voiceMtu } (by simp [Sound]) moves env
  rw [ran, happened] at follows
  have flow : WatchFlow [] events after.watches := follows.flow
  refine ⟨(flow.open_perm distinct).symm, flow.nodup_after distinct, flow.nodup_ended distinct, ?_⟩
  rintro earlier watch middle rest rfl
  exact flow.notMem_ended_of_departed distinct

end Moves

/-! ### A bus that counts -/

/-- A bus that takes every reply and grants every watch under the next number. -/
structure CountingBus where
  /-- The number of the next watch. -/
  next : UInt32 := 0
deriving DecidableEq

/-- A counting bus never refuses. -/
instance : MessageBus CountingBus where
  sendReply bus _ _ := (.ok (), bus)
  watchDisconnect bus _ := (some ⟨bus.next⟩, ⟨bus.next + 1⟩)
  removeWatch bus _ := bus
  propertyChanged bus _ _ := bus
  setRemoteValue bus _ _ _ := (.ok (), bus)

/-- Two clients share a transport, and one of them has another for itself. It gives up the first,
so that one watch is ended, and leaves, so that another fires; the watch of the other client is
the only one that is open, and it is the only one that is kept. -/
theorem run_watches_of_two :
    let env : Environment CountingBus Unit := { bus := {}, server := () }
    let moves : List (Move Transport.PlainSession CountingBus) :=
      [.create Transport.plainConfig {}, .create Transport.plainConfig {},
        .acquire ⟨0⟩ ":1.7" ⟨1⟩ "r", .acquire ⟨1⟩ ":1.7" ⟨2⟩ "rw",
        .resumeComplete ⟨0⟩ ":1.7" ⟨0⟩ (.ok ()), .acquire ⟨0⟩ ":1.8" ⟨3⟩ "w",
        .release ⟨0⟩ ":1.7" ⟨4⟩ "r", .clientDisconnected ":1.7"]
    let events := runEvents {} moves env
    events = [.added ⟨":1.7", ⟨0⟩⟩, .added ⟨":1.7", ⟨1⟩⟩, .added ⟨":1.8", ⟨2⟩⟩, .ended ⟨0⟩,
        .departed ":1.7"] ∧
      (run {} moves env).1.watches = [⟨":1.8", ⟨2⟩⟩] ∧ (endedIn events).Nodup := by
  intro env moves events
  have happened : events = [.added ⟨":1.7", ⟨0⟩⟩, .added ⟨":1.7", ⟨1⟩⟩, .added ⟨":1.8", ⟨2⟩⟩,
      .ended ⟨0⟩, .departed ":1.7"] := by decide +kernel
  have ran : run {} moves env = ((run {} moves env).1, (run {} moves env).2) := (Prod.eta _).symm
  obtain ⟨opened, -, ended, -⟩ :=
    run_watches Limits.defaultVoiceMtu moves env ran happened (by decide)
  have last : openWatches [.added ⟨":1.7", ⟨0⟩⟩, .added ⟨":1.7", ⟨1⟩⟩, .added ⟨":1.8", ⟨2⟩⟩,
      .ended ⟨0⟩, .departed ":1.7"] = [⟨":1.8", ⟨2⟩⟩] := by decide
  rw [last] at opened
  rw [happened]
  exact ⟨rfl, (List.singleton_perm.mp opened).symm, ended⟩

end BluetoothHost.TransportTable
