import BluetoothHost.Media.Table
import BluetoothHost.Proofs.Media.Answers

/-!
# How the transports answer method calls

An operation on the table reaches one transport, the first with an identifier, or all of them in
turn when a client leaves the bus. What holds for the transport that is reached holds for the
table, since the others neither change nor call anyone.
-/

namespace BluetoothHost

open Transport (Opening)

namespace TransportTable

variable {S B A : Type} {token : ReplyToken} {table : TransportTable S}

/-- How many owners of some transports keep this token. -/
def waitingAmong (token : ReplyToken) (transports : List (Transport S)) : Nat :=
  (transports.flatMap fun transport => transport.owners.owners).countP (Owner.waitsFor token)

/-- The first transport is counted on its own. -/
theorem waitingAmong_cons (token : ReplyToken) (transport : Transport S)
    (rest : List (Transport S)) :
    waitingAmong token (transport :: rest) = transport.waiting token + waitingAmong token rest := by
  rw [waitingAmong, List.flatMap_cons, List.countP_append]
  rfl

/-- Consecutive transports are counted separately. -/
theorem waitingAmong_append (token : ReplyToken) (front back : List (Transport S)) :
    waitingAmong token (front ++ back) = waitingAmong token front + waitingAmong token back := by
  rw [waitingAmong, List.flatMap_append, List.countP_append]
  rfl

/-- How many owners of live transports keep this token. -/
def waiting (token : ReplyToken) (table : TransportTable S) : Nat :=
  waitingAmong token table.transports

/-- Every live transport is sound. -/
def Sound (table : TransportTable S) : Prop := ∀ transport ∈ table.transports, transport.Sound

/-- The transports before and after one of them are counted separately. -/
theorem waiting_split {front back : List (Transport S)} {transport : Transport S}
    (transports_eq : table.transports = front ++ transport :: back) :
    table.waiting token =
      waitingAmong token front + transport.waiting token + waitingAmong token back := by
  rw [waiting, transports_eq, waitingAmong_append, waitingAmong_cons, Nat.add_assoc]

/-- One of the transports may be replaced by a sound one. -/
theorem Sound.replaced {front back : List (Transport S)} {transport after : Transport S}
    (sound : table.Sound) (transports_eq : table.transports = front ++ transport :: back)
    (kept : after.Sound) : ∀ other ∈ front ++ after :: back, other.Sound := by
  intro other member
  have others : other = after ∨ other ∈ table.transports := by
    rw [transports_eq]
    simp only [List.mem_append, List.mem_cons] at member ⊢
    rcases member with before | same | behind
    · exact .inr (.inl before)
    · exact .inl same
    · exact .inr (.inr (.inr behind))
  rcases others with rfl | present
  · exact kept
  · exact sound other present

/-- An operation on the transport with an identifier finds none, or changes the first one only. -/
theorem act_cases {α : Type} (table : TransportTable S) (id : TransportId)
    (operation : Transport S → Environment B A → Except Error α × Transport S × Environment B A)
    (env : Environment B A) :
    table.act id operation env = (.error .doesNotExist, table, env) ∨
    ∃ front transport back, table.transports = front ++ transport :: back ∧
      table.act id operation env = ((operation transport env).1,
        { table with transports := front ++ (operation transport env).2.1 :: back },
        (operation transport env).2.2) := by
  unfold act get?
  cases found : table.transports.find? (hasId id) with
  | none => exact .inl rfl
  | some transport =>
    obtain ⟨front, back, transports_eq, updated, -⟩ := split_of_find? found
    refine .inr ⟨front, transport, back, transports_eq, ?_⟩
    simp only [replace, updated]

/-- What happens to the transports between two moments keeps them sound and answers this method
call at most once, where it no longer waits. -/
structure Settles (token : ReplyToken) (before after : TransportTable S)
    (first second : Environment B A) : Prop where
  /-- The transports stay sound. -/
  sound : after.Sound
  /-- The calls account for the method call. -/
  account : ∃ calls, first.Makes calls second ∧
    Settlement (before.waiting token) (after.waiting token) (repliesTo token calls)

/-- Where nothing happens nothing is answered. -/
theorem Settles.refl (sound : table.Sound) (env : Environment B A) :
    Settles token table table env env :=
  ⟨sound, [], env.makes_nil, .kept _⟩

/-- What settles a method call for every transport settles it for the table. -/
theorem act_settles {α : Type} (sound : table.Sound) (once : table.waiting token ≤ 1)
    (id : TransportId)
    {operation : Transport S → Environment B A → Except Error α × Transport S × Environment B A}
    (each : ∀ transport env, transport.Sound → transport.waiting token ≤ 1 →
      (operation transport env).2.1.Sound ∧
        ∃ calls, env.Makes calls (operation transport env).2.2 ∧
          Settlement (transport.waiting token) ((operation transport env).2.1.waiting token)
            (repliesTo token calls))
    (env : Environment B A) :
    Settles token table (table.act id operation env).2.1 env (table.act id operation env).2.2 := by
  rcases table.act_cases id operation env with missing | ⟨front, transport, back, split, acted⟩
  · rw [missing]
    exact .refl sound env
  · have bound : transport.waiting token ≤ 1 := by
      rw [waiting_split split] at once
      omega
    have before := sound transport (by simp [split])
    obtain ⟨kept, calls, made, settlement⟩ := each transport env before bound
    rw [acted]
    refine ⟨sound.replaced split kept, calls, made, ?_⟩
    rw [waiting_split split, waiting_split rfl]
    exact settlement.frame _ _

/-- What opens a fresh method call on every transport opens it on the table. -/
theorem act_opening (sound : table.Sound) (fresh : table.waiting token = 0) (id : TransportId)
    {operation : Transport S → Environment B A →
      Except Error Completion × Transport S × Environment B A}
    (each : ∀ transport env, transport.Sound → transport.waiting token = 0 →
      (operation transport env).2.1.Sound ∧
        ∃ calls, env.Makes calls (operation transport env).2.2 ∧
          Opening (operation transport env).1 ((operation transport env).2.1.waiting token)
            (repliesTo token calls))
    (env : Environment B A) :
    (table.act id operation env).2.1.Sound ∧
      ∃ calls, env.Makes calls (table.act id operation env).2.2 ∧
        Opening (table.act id operation env).1 ((table.act id operation env).2.1.waiting token)
          (repliesTo token calls) := by
  rcases table.act_cases id operation env with missing | ⟨front, transport, back, split, acted⟩
  · rw [missing]
    exact ⟨sound, [], env.makes_nil, fresh ▸ .refused _ 0⟩
  · rw [waiting_split split] at fresh
    obtain ⟨kept, calls, made, opening⟩ :=
      each transport env (sound transport (by simp [split])) (by omega)
    rw [acted]
    refine ⟨sound.replaced split kept, calls, made, ?_⟩
    have only : TransportTable.waiting token
        { table with transports := front ++ (operation transport env).2.1 :: back } =
          (operation transport env).2.1.waiting token := by
      rw [waiting_split rfl]
      omega
    rw [only]
    exact opening

/-- A transport that is created is sound, as all others are. -/
theorem create_sound (sound : table.Sound) (config : TransportConfig) (session : S) :
    (table.create config session).2.Sound := by
  unfold create
  split
  · exact sound
  · split
    · exact sound
    · dsimp only
      split
      · exact sound
      · rename_i transport created
        intro other member
        rcases List.mem_append.mp member with before | new
        · exact sound other before
        · rw [List.mem_singleton.mp new]
          exact Transport.sound_create created

/-- A transport that is created has no owners, so it keeps no token. -/
theorem create_settles (sound : table.Sound) (config : TransportConfig) (session : S)
    (env : Environment B A) : Settles token table (table.create config session).2 env env := by
  refine ⟨create_sound sound config session, [], env.makes_nil, .of_eq ?_⟩
  unfold create
  split
  · rfl
  · split
    · rfl
    · dsimp only
      split
      · rfl
      · rename_i transport created
        have unowned : transport.waiting token = 0 := by
          rw [Transport.waiting, Transport.created_unowned created, List.countP_nil]
        rw [waiting, waitingAmong_append, waitingAmong_cons, unowned]
        rfl

variable [ProfileSession S] [MessageBus B]

omit [MessageBus B] in
/-- A reaction of a transport settles a method call. -/
theorem reaction_settles {transport after : Transport S} {completed : Option Operation}
    {first second : Environment B A} (sound : transport.Sound) (once : transport.waiting token ≤ 1)
    (reacted : ∃ calls, first.Makes calls second ∧
      Transport.Reaction transport completed after calls) :
    after.Sound ∧ ∃ calls, first.Makes calls second ∧
      Settlement (transport.waiting token) (after.waiting token) (repliesTo token calls) := by
  obtain ⟨calls, made, step⟩ := reacted
  exact ⟨step.sound sound, calls, made, step.settlement once⟩

omit [MessageBus B] in
/-- An operation to which every sound transport reacts settles a method call. -/
theorem act_reaction_settles {α : Type} (sound : table.Sound) (once : table.waiting token ≤ 1)
    (id : TransportId)
    {operation : Transport S → Environment B A → Except Error α × Transport S × Environment B A}
    {completed : Transport S → Option Operation}
    (each : ∀ transport env, transport.Sound →
      ∃ calls, env.Makes calls (operation transport env).2.2 ∧
        Transport.Reaction transport (completed transport) (operation transport env).2.1 calls)
    (env : Environment B A) :
    Settles token table (table.act id operation env).2.1 env (table.act id operation env).2.2 :=
  act_settles sound once id
    (fun transport env kept bound => reaction_settles kept bound (each transport env kept)) env

/-- An acquire settles the method calls of others. -/
theorem acquire_settles (sound : table.Sound) (once : table.waiting token ≤ 1) (id : TransportId)
    {other : ReplyToken} (different : other ≠ token) (client access : String)
    (env : Environment B A) :
    Settles token table (table.acquire id client other access env).2.1 env
      (table.acquire id client other access env).2.2 := by
  refine act_settles sound once id (fun transport env kept _ => ?_) env
  obtain ⟨calls, made, step⟩ := Transport.acquire_acquiring kept client other access env
  exact ⟨step.sound kept, calls, made, step.settlement different⟩

/-- A release settles the method calls of others. -/
theorem release_settles (sound : table.Sound) (once : table.waiting token ≤ 1) (id : TransportId)
    {other : ReplyToken} (different : other ≠ token) (client access : String)
    (env : Environment B A) :
    Settles token table (table.release id client other access env).2.1 env
      (table.release id client other access env).2.2 := by
  refine act_settles sound once id (fun transport env kept _ => ?_) env
  obtain ⟨calls, made, step⟩ := Transport.release_releasing kept client other access env
  exact ⟨step.sound kept, calls, made, step.settlement different⟩

/-- An acquire opens its own method call. -/
theorem acquire_opening (sound : table.Sound) (fresh : table.waiting token = 0) (id : TransportId)
    (client access : String) (env : Environment B A) :
    (table.acquire id client token access env).2.1.Sound ∧
      ∃ calls, env.Makes calls (table.acquire id client token access env).2.2 ∧
        Opening (table.acquire id client token access env).1
          ((table.acquire id client token access env).2.1.waiting token)
          (repliesTo token calls) := by
  refine act_opening sound fresh id (fun transport env kept idle => ?_) env
  obtain ⟨calls, made, step⟩ := Transport.acquire_acquiring kept client token access env
  exact ⟨step.sound kept, calls, made, step.opening idle⟩

/-- A release opens its own method call. -/
theorem release_opening (sound : table.Sound) (fresh : table.waiting token = 0) (id : TransportId)
    (client access : String) (env : Environment B A) :
    (table.release id client token access env).2.1.Sound ∧
      ∃ calls, env.Makes calls (table.release id client token access env).2.2 ∧
        Opening (table.release id client token access env).1
          ((table.release id client token access env).2.1.waiting token)
          (repliesTo token calls) := by
  refine act_opening sound fresh id (fun transport env kept idle => ?_) env
  obtain ⟨calls, made, step⟩ := Transport.release_releasing kept client token access env
  exact ⟨step.sound kept, calls, made, step.opening idle⟩

/-- Taking a transport down leaves the others sound. -/
theorem remove_sound (sound : table.Sound) (id : TransportId) (env : Environment B A) :
    (table.remove id env).2.1.Sound := by
  unfold remove
  split
  · exact sound
  · exact fun other member => sound other (List.eraseP_subset member)

/-- Taking a transport down answers the calls of all its owners; then it goes. -/
theorem remove_settles (sound : table.Sound) (once : table.waiting token ≤ 1) (id : TransportId)
    (env : Environment B A) :
    Settles token table (table.remove id env).2.1 env (table.remove id env).2.2 := by
  refine ⟨remove_sound sound id env, ?_⟩
  unfold remove get?
  cases found : table.transports.find? (hasId id) with
  | none => exact ⟨[], env.makes_nil, .kept _⟩
  | some transport =>
    obtain ⟨front, back, split, -, erased⟩ := split_of_find? found
    obtain ⟨calls, made, exodus⟩ := transport.shutDown_exodus env
    rw [waiting_split split] at once ⊢
    have settlement := exodus.settlement (by omega : transport.waiting token ≤ 1)
    have emptied : (transport.shutDown env).1.waiting token = 0 := by
      rw [Transport.waiting, exodus.unowned, List.countP_nil]
    rw [emptied] at settlement
    dsimp only
    rw [erased]
    have others : TransportTable.waiting token { table with transports := front ++ back } =
        waitingAmong token front + 0 + waitingAmong token back := by
      rw [waiting, waitingAmong_append, Nat.add_zero]
    rw [others]
    exact ⟨calls, made, settlement.frame _ _⟩

/-- The departure of a client from several transports answers its calls on them. -/
theorem disconnectEach_settles {transports : List (Transport S)}
    (sound : ∀ transport ∈ transports, transport.Sound)
    (once : waitingAmong token transports ≤ 1) (client : String) (env : Environment B A) :
    (∀ transport ∈ (disconnectEach client transports env).2.1, transport.Sound) ∧
      ∃ calls, env.Makes calls (disconnectEach client transports env).2.2 ∧
        Settlement (waitingAmong token transports)
          (waitingAmong token (disconnectEach client transports env).2.1)
          (repliesTo token calls) := by
  induction transports generalizing env with
  | nil => exact ⟨sound, [], env.makes_nil, .kept _⟩
  | cons transport rest ih =>
    rw [waitingAmong_cons] at once ⊢
    have bound : transport.waiting token ≤ 1 := by omega
    obtain ⟨kept, earlier, made, first⟩ := reaction_settles (sound transport (by simp)) bound
      (transport.clientDisconnected_reaction client env)
    obtain ⟨others, later, further, second⟩ :=
      ih (fun other member => sound other (by simp [member]))
      (by omega) (transport.clientDisconnected client env).2.2
    refine ⟨fun other member => ?_, earlier ++ later, made.append further, ?_⟩
    · rcases List.mem_cons.mp member with same | behind
      · rw [same]
        exact kept
      · exact others other behind
    · have before := first.frame 0 (waitingAmong token rest)
      have after := second.frame ((transport.clientDisconnected client env).2.1.waiting token) 0
      rw [Nat.zero_add, Nat.zero_add] at before
      rw [Nat.add_zero, Nat.add_zero] at after
      rw [repliesTo_append, disconnectEach, waitingAmong_cons]
      exact before.trans after once

/-- The departure of a client answers its calls. -/
theorem clientDisconnected_settles (sound : table.Sound) (once : table.waiting token ≤ 1)
    (client : String) (env : Environment B A) :
    Settles token table (table.clientDisconnected client env).2.1 env
      (table.clientDisconnected client env).2.2 := by
  obtain ⟨kept, account⟩ := disconnectEach_settles sound once client env
  exact ⟨kept, account⟩

end TransportTable

end BluetoothHost
