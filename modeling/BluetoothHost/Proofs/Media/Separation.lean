import BluetoothHost.Proofs.Media.Table

/-!
# What a client leaves alone on the transports

An owner is found by the name of its client, and no client owns a transport twice. So whatever a
client does to a transport, the records of all other owners stay as they are. Once it has left the
bus no transport has a record of it, and its departure does nothing if it is reported again.
-/

namespace BluetoothHost

/-- A client is no owner if no record is one of it. -/
theorem OwnerSet.contains_eq_false_iff {set : OwnerSet} {client : String} :
    set.contains client = false ↔ ∀ owner ∈ set.owners, owner.client.value ≠ client := by
  rw [contains, get?, Option.isSome_eq_false_iff, Option.isNone_iff_eq_none, List.find?_eq_none]
  simp [Owner.isClient]

/-- A record that stands for a client is not among those of others. -/
theorem OwnerSet.Stands.filter_eq {set : OwnerSet} {client : String} {front back : List Owner}
    {owner : Owner} (stands : set.Stands client front owner back) :
    (set.owners.filter fun owner => !owner.isClient client) =
      (front ++ back).filter fun owner => !owner.isClient client := by
  have own : owner.isClient client = true := beq_iff_eq.mpr stands.client_eq
  rw [stands.owners_eq, List.filter_append, List.filter_append, List.filter_cons_of_neg]
  simp [own]

namespace Transport

variable {S B A : Type} {client : String}

/-- What others than this client have of a transport: its identifier and the records of those
owners. -/
def othersOf (client : String) (transport : Transport S) : TransportId × List Owner :=
  (transport.id, transport.owners.owners.filter fun owner => !owner.isClient client)

variable [ProfileSession S] {before after : Transport S} {token : ReplyToken}
  {outcome : Except Error Completion} {completed : Option Operation} {calls : List Call}

/-- The end of the ownership of a client leaves all others alone. -/
theorem Leaving.othersOf_eq (leaving : Leaving before client completed after calls) :
    after.othersOf client = before.othersOf client := by
  obtain @⟨front, back, owner, record, _, prior, _, _, _, stands, ending, departure⟩ := leaving
  have first : prior.id = before.id := by cases ending <;> rfl
  have second : after.id = prior.id := by cases departure <;> rfl
  have remaining := departure.frame.1
  rw [othersOf, othersOf, second, first, remaining, stands.filter_eq]

/-- The client is no owner any more. -/
theorem Leaving.unowned (leaving : Leaving before client completed after calls)
    (sound : before.Sound) : after.owners.contains client = false := by
  obtain @⟨front, back, owner, record, _, prior, _, _, _, stands, ending, departure⟩ := leaving
  have apart := sound.shared.apart
  rw [stands.owners_eq] at apart
  obtain ⟨-, behind, -⟩ := List.pairwise_append.mp apart
  rw [departure.frame.1]
  refine OwnerSet.contains_eq_false_iff.mpr fun other member => ?_
  rcases List.mem_append.mp member with earlier | later
  · exact stands.first other earlier
  · -- No client owns twice, so there is no second record of it behind the first.
    intro same
    have differs := ((List.pairwise_cons.mp behind).1 other later).1
    exact differs (Text.eq_of_value (stands.client_eq.trans same.symm))

/-- An acquire leaves the records of others alone. -/
theorem Acquiring.othersOf_eq (step : Acquiring before client token outcome after calls) :
    after.othersOf client = before.othersOf client := by
  cases step with
  | @joined name _ _ _ isClient =>
    have own : (name.value == client) = true := beq_iff_eq.mpr isClient
    simp [othersOf, Owner.isClient, own]
  | @started name _ _ _ _ _ isClient free =>
    have own : (name.value == client) = true := beq_iff_eq.mpr isClient
    simp [othersOf, Owner.isClient, own, free.1]
  | _ => rfl

/-- So does a release. -/
theorem Releasing.othersOf_eq (step : Releasing before client token outcome after calls) :
    after.othersOf client = before.othersOf client := by
  cases step with
  | refused => rfl
  | @narrowed _ _ owner part stands =>
    have changed := OwnerSet.Stands.changed stands
      (show { owner with lock := owner.lock &&& ~~~part }.client = owner.client from rfl)
    exact congrArg (Prod.mk before.id) (changed.filter_eq.trans stands.filter_eq.symm)
  | left leaving => exact leaving.othersOf_eq
  | @suspending owner _ _ isClient single =>
    have own : (owner.client.value == client) = true := beq_iff_eq.mpr isClient
    simp [othersOf, Owner.isClient, own, single]

/-- So does the setting of a property. -/
theorem setProperty_othersOf (transport : Transport S) (client name : String)
    (value : PropertyValue) (env : Environment B A) :
    (transport.setProperty client name value env).2.1.othersOf client =
      transport.othersOf client := by
  unfold setProperty
  split <;> rfl

variable [MessageBus B]

/-- So does the departure of the client, after which it is no owner. -/
theorem clientDisconnected_others {transport : Transport S} (sound : transport.Sound)
    (client : String) (env : Environment B A) :
    (transport.clientDisconnected client env).2.1.othersOf client = transport.othersOf client ∧
      (transport.clientDisconnected client env).2.1.Sound ∧
      (transport.clientDisconnected client env).2.1.owners.contains client = false := by
  rcases transport.clientDisconnected_cases client env with ⟨absent, passed⟩ |
    ⟨calls, -, leaving⟩
  · rw [passed]
    exact ⟨rfl, sound, absent⟩
  · exact ⟨leaving.othersOf_eq, leaving.sound sound, leaving.unowned sound⟩

end Transport

namespace TransportTable

variable {S B A : Type} {client : String} {table : TransportTable S}

/-- What others than this client have of the transports. -/
def othersOf (client : String) (table : TransportTable S) : List (TransportId × List Owner) :=
  table.transports.map (Transport.othersOf client)

/-- What happens to the transports between two moments keeps them sound and leaves alone what others
than this client have. -/
structure Spares (client : String) (before after : TransportTable S) : Prop where
  /-- The transports stay sound. -/
  sound : after.Sound
  /-- What others have stays as it is. -/
  others : after.othersOf client = before.othersOf client

/-! ### Operations on one transport -/

/-- What leaves others alone on every sound transport leaves them alone on the table. -/
theorem act_spares {α : Type} (sound : table.Sound) (id : TransportId)
    {operation : Transport S → Environment B A → Except Error α × Transport S × Environment B A}
    (each : ∀ transport env, transport.Sound → (operation transport env).2.1.Sound ∧
      (operation transport env).2.1.othersOf client = transport.othersOf client)
    (env : Environment B A) : Spares client table (table.act id operation env).2.1 := by
  rcases table.act_cases id operation env with missing | ⟨front, transport, back, split, acted⟩
  · rw [missing]
    exact ⟨sound, rfl⟩
  · obtain ⟨kept, same⟩ := each transport env (sound transport (by simp [split]))
    rw [acted]
    refine ⟨sound.replaced split kept, ?_⟩
    rw [othersOf, othersOf, split, List.map_append, List.map_append, List.map_cons,
      List.map_cons, same]

/-- A reaction of one transport keeps the table sound. -/
theorem act_reaction_sound [ProfileSession S] {α : Type} (sound : table.Sound) (id : TransportId)
    {operation : Transport S → Environment B A → Except Error α × Transport S × Environment B A}
    {completed : Transport S → Option Operation}
    (each : ∀ transport env, transport.Sound →
      ∃ calls, env.Makes calls (operation transport env).2.2 ∧
        Transport.Reaction transport (completed transport) (operation transport env).2.1 calls)
    (env : Environment B A) : (table.act id operation env).2.1.Sound := by
  rcases table.act_cases id operation env with missing | ⟨front, transport, back, split, acted⟩
  · rwa [missing]
  · have before := sound transport (by simp [split])
    obtain ⟨calls, -, step⟩ := each transport env before
    rw [acted]
    exact sound.replaced split (step.sound before)

variable [ProfileSession S] [MessageBus B]

/-- An acquire leaves alone what others have. -/
theorem acquire_spares (sound : table.Sound) (id : TransportId) (client : String)
    (token : ReplyToken) (access : String) (env : Environment B A) :
    Spares client table (table.acquire id client token access env).2.1 := by
  refine act_spares sound id (fun transport env kept => ?_) env
  obtain ⟨calls, -, step⟩ := Transport.acquire_acquiring kept client token access env
  exact ⟨step.sound kept, step.othersOf_eq⟩

/-- So does a release. -/
theorem release_spares (sound : table.Sound) (id : TransportId) (client : String)
    (token : ReplyToken) (access : String) (env : Environment B A) :
    Spares client table (table.release id client token access env).2.1 := by
  refine act_spares sound id (fun transport env kept => ?_) env
  obtain ⟨calls, -, step⟩ := Transport.release_releasing kept client token access env
  exact ⟨step.sound kept, step.othersOf_eq⟩

omit [MessageBus B] in
/-- So does the setting of a property. -/
theorem setProperty_spares (sound : table.Sound) (id : TransportId) (client name : String)
    (value : PropertyValue) (env : Environment B A) :
    Spares client table (table.setProperty id client name value env).2.1 := by
  refine act_spares sound id (fun transport env kept => ?_) env
  obtain ⟨calls, -, step⟩ := transport.setProperty_reaction client name value env
  exact ⟨step.sound kept, transport.setProperty_othersOf client name value env⟩

/-! ### The departure of a client -/

/-- Every transport is afterwards what the departure made of it. -/
theorem mem_disconnectEach {transports : List (Transport S)} {env : Environment B A}
    {after : Transport S} (member : after ∈ (disconnectEach client transports env).2.1) :
    ∃ before ∈ transports, ∃ between : Environment B A,
      after = (before.clientDisconnected client between).2.1 := by
  induction transports generalizing env with
  | nil => cases member
  | cons transport rest ih =>
    rcases List.mem_cons.mp member with here | behind
    · exact ⟨transport, List.mem_cons_self, env, here⟩
    · obtain ⟨before, present, further⟩ := ih behind
      exact ⟨before, List.mem_cons_of_mem _ present, further⟩

/-- It leaves others alone on several transports. -/
theorem disconnectEach_othersOf {transports : List (Transport S)}
    (sound : ∀ transport ∈ transports, transport.Sound) (env : Environment B A) :
    (disconnectEach client transports env).2.1.map (Transport.othersOf client) =
      transports.map (Transport.othersOf client) := by
  induction transports generalizing env with
  | nil => rfl
  | cons transport rest ih =>
    obtain ⟨here, behind⟩ := List.forall_mem_cons.mp sound
    have kept := (Transport.clientDisconnected_others here client env).1
    rw [disconnectEach, List.map_cons, List.map_cons, kept, ih behind]

/-- The departure of a client leaves alone what others have. -/
theorem clientDisconnected_spares (sound : table.Sound) (client : String)
    (env : Environment B A) :
    Spares client table (table.clientDisconnected client env).2.1 where
  sound := by
    intro transport member
    obtain ⟨before, present, between, rfl⟩ := mem_disconnectEach member
    exact (Transport.clientDisconnected_others (sound before present) client between).2.1
  others := disconnectEach_othersOf sound env

/-- The client owns none of the transports any more. -/
theorem clientDisconnected_unowned (sound : table.Sound) (client : String)
    (env : Environment B A) :
    ∀ transport ∈ (table.clientDisconnected client env).2.1.transports,
      transport.owners.contains client = false := by
  intro transport member
  obtain ⟨before, present, between, rfl⟩ := mem_disconnectEach member
  exact (Transport.clientDisconnected_others (sound before present) client between).2.2

/-- From transports that it does not own a client departs without a trace. -/
theorem disconnectEach_absent {transports : List (Transport S)}
    (absent : ∀ transport ∈ transports, transport.owners.contains client = false)
    (env : Environment B A) :
    disconnectEach client transports env = (0, transports, env) := by
  induction transports with
  | nil => rfl
  | cons transport rest ih =>
    obtain ⟨here, behind⟩ := List.forall_mem_cons.mp absent
    have passed : transport.clientDisconnected client env = (false, transport, env) := by
      unfold Transport.clientDisconnected
      rw [here]
      rfl
    rw [disconnectEach, passed]
    dsimp only
    rw [ih behind]
    rfl

/-- So it does from the table. -/
theorem clientDisconnected_absent
    (absent : ∀ transport ∈ table.transports, transport.owners.contains client = false)
    (env : Environment B A) : table.clientDisconnected client env = (0, table, env) := by
  unfold clientDisconnected
  rw [disconnectEach_absent absent]

end TransportTable

end BluetoothHost
