import BluetoothHost.Proofs.Media.WatchRun
import Mathlib.Data.List.Perm.Subperm

/-!
# Which transport is meant

Identifiers come from a counter of 16 bits, which wraps around while transports of an earlier round
are still alive, and the object path of a transport is made of the path of its device and its
identifier. There are more identifiers than transports, so the search for a free one ends; and the
identifier is read back from the end of a path, so that paths differ where identifiers do, whatever
the devices are. No operation renames a transport. Hence an identifier or a path always means one
transport, and nothing that is done under it concerns another.
-/

namespace BluetoothHost

/-- What a transport is called by: its identifier and its object path, with the path of the device
from which the latter is made. -/
structure TransportName where
  /-- The identifier. -/
  id : TransportId
  /-- The object path of the device. -/
  devicePath : ObjectPath
  /-- The object path. -/
  path : ObjectPath
deriving DecidableEq

namespace Transport

variable {S B A : Type}

/-- What the transport is called by. -/
def name (transport : Transport S) : TransportName :=
  ⟨transport.id, transport.devicePath, transport.path⟩

/-! ### Paths -/

/-- The digits at the end of a text, the last one first. -/
def trailingDigits (text : String) : List Char := text.toList.reverse.takeWhile Char.isDigit

/-- At the end of an object path stands the identifier, whatever digits the path of the device
has. -/
theorem trailingDigits_pathText (devicePath : String) (id : TransportId) :
    trailingDigits (pathText devicePath id) = (Nat.toDigits 10 id.number.toNat).reverse := by
  have split : (pathText devicePath id).toList.reverse =
      (Nat.toDigits 10 id.number.toNat).reverse ++
        'd' :: 'f' :: '/' :: devicePath.toList.reverse := by
    simp [pathText]
  have digits : ∀ digit ∈ (Nat.toDigits 10 id.number.toNat).reverse, digit.isDigit = true := by
    intro digit member
    exact Nat.isDigit_of_mem_toDigits (by decide) (by decide) (List.mem_reverse.mp member)
  rw [trailingDigits, split, List.takeWhile_append_of_pos digits]
  simp

/-- Transports with one object path have one identifier. -/
theorem pathText_id {devicePath other : String} {id next : TransportId}
    (same : pathText devicePath id = pathText other next) : id = next := by
  have digits : Nat.toDigits 10 id.number.toNat = Nat.toDigits 10 next.number.toNat := by
    apply List.reverse_injective
    rw [← trailingDigits_pathText devicePath, ← trailingDigits_pathText other, same]
  have numbers : id.number.toNat = next.number.toNat := by
    have read := congrArg (fun digits => Nat.ofDigitChars 10 digits 0) digits
    simpa using read
  cases id
  cases next
  exact congrArg TransportId.mk (UInt16.toNat_inj.mp numbers)

/-- A fresh transport has the identifier that it was given, and the path that belongs to it. -/
theorem create_name {id : TransportId} {config : TransportConfig} {session : S}
    {voiceMtu : UInt16} {transport : Transport S}
    (created : create id config session voiceMtu = .ok transport) :
    transport.id = id ∧ transport.path.value = pathText transport.devicePath.value id := by
  unfold create at created
  repeat' split at created
  all_goals cases created
  rename_i _ device path known made _ _ _
  have first := Text.value_of_ofString? known
  have second := Text.value_of_ofString? made
  exact ⟨rfl, by rw [first, second]⟩

/-! ### No operation renames a transport -/

section Names

variable [ProfileSession S] {before after prior : Transport S} {client : String}
  {token : ReplyToken} {outcome : Except Error Completion} {completed : Option Operation}
  {owner record : Owner} {remaining : List Owner} {calls : List Call}

/-- An owner that goes leaves the name of the transport alone. -/
theorem Departure.name_eq (departure : Departure before record remaining after calls) :
    after.name = before.name := by
  cases departure <;> rfl

/-- So does a client that leaves. -/
theorem Leaving.name_eq (leaving : Leaving before client completed after calls) :
    after.name = before.name := by
  obtain ⟨-, ending, departure⟩ := leaving
  rw [departure.name_eq]
  cases ending <;> rfl

/-- So does the departure of all owners. -/
theorem Exodus.name_eq (exodus : Exodus before after calls) : after.name = before.name := by
  induction exodus with
  | done => rfl
  | next _ departure _ ih => rw [ih, departure.name_eq]

/-- So does an acquire, whatever its outcome. -/
theorem Acquiring.name_eq (step : Acquiring before client token outcome after calls) :
    after.name = before.name := by
  cases step <;> rfl

/-- So does a release. -/
theorem Releasing.name_eq (step : Releasing before client token outcome after calls) :
    after.name = before.name := by
  cases step with
  | left leaving => exact leaving.name_eq
  | _ => rfl

/-- So does whatever the session reports. -/
theorem Reaction.name_eq (step : Reaction before completed after calls) :
    after.name = before.name := by
  cases step with
  | leaving step => exact step.name_eq
  | emptied exodus => exact exodus.name_eq
  | _ => rfl

/-- A client that leaves the bus does not rename its transports either. -/
theorem clientDisconnected_name [MessageBus B] (transport : Transport S) (client : String)
    (env : Environment B A) :
    (transport.clientDisconnected client env).2.1.name = transport.name := by
  obtain ⟨calls, -, step⟩ := transport.clientDisconnected_reaction client env
  exact step.name_eq

end Names

end Transport

namespace TransportTable

variable {S B A : Type} {table : TransportTable S}

/-! ### Identifiers -/

/-- No transport is found under an identifier that none has. -/
theorem get?_eq_none_iff {id : TransportId} :
    table.get? id = none ↔ ∀ transport ∈ table.transports, transport.id ≠ id := by
  simp [get?, hasId]

/-- Some transport is found under an identifier that one has. -/
theorem get?_isSome_iff {id : TransportId} :
    (table.get? id).isSome ↔ id ∈ table.transports.map Transport.id := by
  simp [get?, hasId]

/-- The identifier that the search for a free one looks at after a number of steps. -/
def idAfter (table : TransportTable S) (steps : Nat) : TransportId :=
  ⟨table.nextId + UInt16.ofNat steps⟩

/-- The search comes back to an identifier only after all others. -/
theorem idAfter_inj {one other : Nat} (first : one < UInt16.size) (second : other < UInt16.size)
    (same : table.idAfter one = table.idAfter other) : one = other := by
  have numbers : table.nextId + UInt16.ofNat one = table.nextId + UInt16.ofNat other :=
    congrArg TransportId.number same
  have offsets : (UInt16.ofNat one).toNat = (UInt16.ofNat other).toNat :=
    congrArg UInt16.toNat ((UInt16.add_right_inj table.nextId).mp numbers)
  rwa [UInt16.toNat_ofNat_of_lt' first, UInt16.toNat_ofNat_of_lt' second] at offsets

/-- As long as there are fewer transports than identifiers, the search passes over the identifiers
in use and ends at one that is not, after no more steps than there are transports. -/
theorem freeId?_eq_some (room : table.size < UInt16.size) :
    ∃ steps ≤ table.size, table.freeId? = some (table.idAfter steps) ∧
      table.get? (table.idAfter steps) = none ∧
      ∀ earlier < steps, (table.get? (table.idAfter earlier)).isSome := by
  have search : table.freeId? = ((List.range (table.size + 1)).find?
      fun steps => (table.get? (table.idAfter steps)).isNone).map table.idAfter := List.find?_map
  cases found : (List.range (table.size + 1)).find?
      fun steps => (table.get? (table.idAfter steps)).isNone with
  | some steps =>
    obtain ⟨free, within, earlier⟩ := List.find?_range_eq_some.mp found
    refine ⟨steps, Nat.lt_succ_iff.mp (List.mem_range.mp within), by rw [search, found]; rfl,
      Option.isNone_iff_eq_none.mp free, fun other before => ?_⟩
    simpa using earlier other before
  | none =>
    -- All these identifiers would be in use, but they are more than there are transports.
    have used : (List.range (table.size + 1)).map table.idAfter ⊆
        table.transports.map Transport.id := by
      intro id member
      obtain ⟨steps, within, rfl⟩ := List.mem_map.mp member
      have taken := List.find?_eq_none.mp found steps within
      apply get?_isSome_iff.mp
      simpa [Option.isSome_iff_ne_none] using taken
    have different : ((List.range (table.size + 1)).map table.idAfter).Nodup := by
      apply List.nodup_range.map_on
      intro one first other second same
      have small := List.mem_range.mp first
      have bound := List.mem_range.mp second
      exact idAfter_inj (by omega) (by omega) same
    have bound := (List.subperm_of_subset different used).length_le
    rw [List.length_map, List.length_map, List.length_range, ← size] at bound
    omega

/-- A creation is refused and leaves the transports alone, or adds one with a free identifier. -/
theorem create_cases (table : TransportTable S) (config : TransportConfig) (session : S) :
    (∃ cause, (table.create config session).1 = .error cause ∧
      (table.create config session).2.transports = table.transports) ∨
    ∃ id transport, table.freeId? = some id ∧
      Transport.create id config session table.voiceMtu = .ok transport ∧
      table.create config session = (.ok id, { table with
        nextId := id.number + 1, transports := table.transports ++ [transport] }) := by
  unfold create
  split
  · exact .inl ⟨_, rfl, rfl⟩
  · cases found : table.freeId? with
    | none => exact .inl ⟨_, rfl, rfl⟩
    | some id =>
      dsimp only
      cases created : Transport.create id config session table.voiceMtu with
      | error cause => exact .inl ⟨cause, rfl, rfl⟩
      | ok transport => exact .inr ⟨id, transport, rfl, created, rfl⟩

/-- A free identifier is one that no transport has. -/
theorem ne_of_freeId? {id : TransportId} (free : table.freeId? = some id) :
    ∀ transport ∈ table.transports, transport.id ≠ id := by
  have none := List.find?_some free
  exact get?_eq_none_iff.mp (Option.isNone_iff_eq_none.mp none)

/-! ### Names along a run -/

/-- What the transports are called by. -/
def names (table : TransportTable S) : List TransportName := table.transports.map Transport.name

/-- What every operation keeps of the transports and what they are called by. -/
structure Identified (table : TransportTable S) : Prop where
  /-- The transports are sound. -/
  sound : table.Sound
  /-- No two of them have one identifier. -/
  distinct : (table.names.map TransportName.id).Nodup
  /-- The path of each is the one that belongs to its identifier. -/
  named : ∀ name ∈ table.names, name.path.value = Transport.pathText name.devicePath.value name.id

namespace Identified

variable {after : TransportTable S}

/-- Names may go, but those that stay are the same. -/
theorem of_names (identified : table.Identified) (sound : after.Sound)
    (fewer : after.names.Sublist table.names) : after.Identified where
  sound := sound
  distinct := identified.distinct.sublist (fewer.map _)
  named := fun name member => identified.named name (fewer.subset member)

/-- A transport that is created is called by a free identifier and the path that belongs to it. -/
theorem create (identified : table.Identified) (config : TransportConfig) (session : S) :
    (table.create config session).2.Identified := by
  have sound := create_sound identified.sound config session
  rcases table.create_cases config session with ⟨cause, -, same⟩ |
    ⟨id, transport, free, created, added⟩
  · apply identified.of_names sound
    rw [names, same]
    exact .refl _
  · obtain ⟨own, path⟩ := Transport.create_name created
    rw [added] at sound ⊢
    refine ⟨sound, ?_, ?_⟩
    · have fresh : id ∉ table.names.map TransportName.id := by
        intro member
        simp only [names, List.map_map, List.mem_map, Function.comp_apply] at member
        obtain ⟨other, there, same⟩ := member
        exact ne_of_freeId? free other there same
      simp only [names, List.map_append, List.map_cons, List.map_nil, List.nodup_append]
      refine ⟨identified.distinct, List.nodup_singleton _, ?_⟩
      intro first member second single same
      rw [List.mem_singleton.mp single] at same
      have known : first = id := same.trans own
      exact fresh (known ▸ member)
    · intro name member
      simp only [names, List.map_append, List.mem_append, List.map_cons, List.map_nil,
        List.mem_singleton] at member
      rcases member with old | new
      · exact identified.named name old
      · rw [new]
        show transport.path.value = Transport.pathText transport.devicePath.value transport.id
        rw [path, own]

end Identified

/-- What renames no transport leaves all names as they are. -/
theorem act_names {α : Type} (id : TransportId)
    {operation : Transport S → Environment B A → Except Error α × Transport S × Environment B A}
    (each : ∀ transport ∈ table.transports, ∀ env,
      (operation transport env).2.1.name = transport.name)
    (env : Environment B A) : (table.act id operation env).2.1.names = table.names := by
  rcases table.act_cases id operation env with missing | ⟨front, transport, back, split, acted⟩
  · rw [missing]
  · have same := each transport (by simp [split]) env
    rw [acted, names, names, split]
    simp [same]

section Moves

variable [ProfileSession S] [MessageBus B]

/-- The departure of a client renames no transport. -/
theorem disconnectEach_names (transports : List (Transport S)) (client : String)
    (env : Environment B A) :
    (disconnectEach client transports env).2.1.map Transport.name =
      transports.map Transport.name := by
  induction transports generalizing env with
  | nil => rfl
  | cons transport rest ih =>
    rw [disconnectEach, List.map_cons, List.map_cons, ih,
      transport.clientDisconnected_name client env]

/-- Without a transport its name is gone. -/
theorem remove_names (table : TransportTable S) (id : TransportId) (env : Environment B A) :
    (table.remove id env).2.1.names.Sublist table.names := by
  unfold remove
  split
  · exact .refl _
  · exact List.eraseP_sublist.map _

/-- Every move keeps the transports apart. -/
theorem perform_identified (identified : table.Identified) (move : Move S B)
    (env : Environment B A) : (table.perform move env).1.Identified := by
  have sound := (perform_follows identified.sound move env).sound
  have renamed (same : (table.perform move env).1.names = table.names) :
      (table.perform move env).1.Identified :=
    identified.of_names sound (same ▸ .refl _)
  cases move with
  | create config session => exact identified.create config session
  | remove id => exact identified.of_names sound (table.remove_names id env)
  | acquire id client token access =>
    refine renamed (act_names id (fun transport member env => ?_) env)
    obtain ⟨_, -, step⟩ :=
      Transport.acquire_acquiring (identified.sound transport member) client token access env
    exact step.name_eq
  | release id client token access =>
    refine renamed (act_names id (fun transport member env => ?_) env)
    obtain ⟨_, -, step⟩ :=
      Transport.release_releasing (identified.sound transport member) client token access env
    exact step.name_eq
  | setProperty id client name value =>
    refine renamed (act_names id (fun transport _ env => ?_) env)
    obtain ⟨_, -, step⟩ := transport.setProperty_reaction client name value env
    exact step.name_eq
  | resumeComplete id client request result =>
    refine renamed (act_names id (fun transport member env => ?_) env)
    have sound := identified.sound transport member
    obtain ⟨_, -, step⟩ := Transport.resumeComplete_reaction sound client request result env
    exact step.name_eq
  | suspendComplete id client request =>
    refine renamed (act_names id (fun transport _ env => ?_) env)
    obtain ⟨_, -, step⟩ := transport.suspendComplete_reaction client request env
    exact step.name_eq
  | reportPlaying id playing =>
    refine renamed (act_names id (fun transport _ env => ?_) env)
    obtain ⟨_, -, step⟩ := transport.reportPlaying_reaction playing env
    exact step.name_eq
  | reportDelay id delay =>
    refine renamed (act_names id (fun transport _ env => ?_) env)
    obtain ⟨_, -, step⟩ := transport.reportDelay_reaction delay env
    exact step.name_eq
  | reportVolume id volume =>
    refine renamed (act_names id (fun transport _ env => ?_) env)
    obtain ⟨_, -, step⟩ := transport.reportVolume_reaction volume env
    exact step.name_eq
  | clientDisconnected client => exact renamed (disconnectEach_names table.transports client env)
  | evolve sessions bus =>
    apply renamed
    simp [perform, evolve, names, Transport.name]

/-- So does every run. -/
theorem run_identified (identified : table.Identified) (moves : List (Move S B))
    (env : Environment B A) : (table.run moves env).1.Identified := by
  induction moves generalizing table env with
  | nil => exact identified
  | cons move moves ih => exact ih (perform_identified identified move env) _

end Moves

/-! ### Who is meant -/

namespace Identified

variable (identified : table.Identified)
include identified

/-- Live transports have different identifiers. -/
theorem ids_nodup : (table.transports.map Transport.id).Nodup := by
  simpa [names, Transport.name, Function.comp_def] using identified.distinct

/-- And they have different object paths. -/
theorem paths_nodup : (table.transports.map fun transport => transport.path.value).Nodup := by
  have different := List.pairwise_map.mp identified.ids_nodup
  apply List.pairwise_map.mpr
  apply different.imp_of_mem
  intro transport other first second apart same
  have path := identified.named transport.name (List.mem_map_of_mem first)
  have further := identified.named other.name (List.mem_map_of_mem second)
  exact apart (Transport.pathText_id (path.symm.trans (same.trans further)))

/-- At most one transport has an identifier. -/
theorem filter_hasId (id : TransportId) : (table.transports.filter (hasId id)).length ≤ 1 := by
  have once := List.nodup_iff_count_le_one.mp identified.ids_nodup id
  rwa [List.count_eq_countP, List.countP_map, List.countP_eq_length_filter] at once

variable {transport : Transport S} (live : transport ∈ table.transports)
include live

/-- A live transport is found by its identifier. -/
theorem get?_id : table.get? transport.id = some transport := by
  cases found : table.get? transport.id with
  | none => exact absurd rfl (get?_eq_none_iff.mp found transport live)
  | some other =>
    have same : other.id = transport.id := by simpa [hasId] using List.find?_some found
    have there : other ∈ table.transports := List.mem_of_find?_eq_some found
    rw [List.inj_on_of_nodup_map identified.ids_nodup there live same]

/-- And its identifier is found by its object path. -/
theorem findPath?_path : table.findPath? transport.path.value = some transport.id := by
  unfold findPath?
  cases found : table.transports.find? fun other => other.path.value == transport.path.value with
  | none => simpa using List.find?_eq_none.mp found transport live
  | some other =>
    have same : other.path.value = transport.path.value := by
      simpa using List.find?_some found
    have there : other ∈ table.transports := List.mem_of_find?_eq_some found
    rw [List.inj_on_of_nodup_map identified.paths_nodup there live same]
    rfl

end Identified

section Reached

variable [ProfileSession S] [MessageBus B]

variable (B A) in
/-- A transport is the one, and the only one, that its identifier and its object path mean: what is
done under them depends on it alone, and leaves the other transports as they are. -/
structure Reached (table : TransportTable S) (transport : Transport S) : Prop where
  /-- It is found by its identifier. -/
  get : table.get? transport.id = some transport
  /-- Its identifier is found by its path. -/
  findPath : table.findPath? transport.path.value = some transport.id
  /-- Operations that may change a transport. -/
  act : ∀ {α : Type} (operation : Transport S → Environment B A →
      Except Error α × Transport S × Environment B A) (env : Environment B A),
    table.act transport.id operation env = ((operation transport env).1,
      { table with transports := table.transports.map fun other =>
          if other.id = transport.id then (operation transport env).2.1 else other },
      (operation transport env).2.2)
  /-- The request for its properties. -/
  properties : table.properties transport.id = transport.properties
  /-- Its removal. -/
  remove : ∀ env : Environment B A, table.remove transport.id env =
    (.ok (transport.shutDown env).1.session,
      { table with transports := table.transports.filter fun other => other.id != transport.id },
      (transport.shutDown env).2)

/-- Where no two transports have one name each is reached. -/
theorem Identified.reached (identified : table.Identified) {transport : Transport S}
    (live : transport ∈ table.transports) : Reached B A table transport where
  get := identified.get?_id live
  findPath := identified.findPath?_path live
  act := by
    intro α operation env
    have single := identified.filter_hasId transport.id
    simp [TransportTable.act, identified.get?_id live, replace, updateFirst_eq_map _ single, hasId]
  properties := by rw [TransportTable.properties, identified.get?_id live]
  remove := by
    intro env
    have single := identified.filter_hasId transport.id
    simp [TransportTable.remove, identified.get?_id live, eraseP_eq_filter single, hasId, bne]

end Reached

/-! ### Every counter -/

/-- What the creation of a transport does, whether it is accepted or not. -/
structure Creates (table : TransportTable S) (config : TransportConfig) (session : S) : Prop where
  /-- The search ends, at the first identifier from the counter on that no transport has. -/
  search : table.size < Limits.transports → ∃ steps ≤ table.size,
    table.freeId? = some (table.idAfter steps) ∧ table.get? (table.idAfter steps) = none ∧
      ∀ earlier < steps, (table.get? (table.idAfter earlier)).isSome
  /-- A refusal leaves the transports alone. -/
  refused : ∀ cause, (table.create config session).1 = .error cause →
    (table.create config session).2.transports = table.transports
  /-- Otherwise a transport is added whose identifier no other had. -/
  accepted : ∀ id, (table.create config session).1 = .ok id → table.get? id = none ∧
    ∃ transport, transport.id = id ∧
      (table.create config session).2.transports = table.transports ++ [transport]

/-- The creation of a transport, on every table. -/
theorem creates (table : TransportTable S) (config : TransportConfig) (session : S) :
    table.Creates config session where
  search := by
    intro room
    exact freeId?_eq_some (Nat.lt_trans room (by decide))
  refused := by
    intro cause refused
    rcases table.create_cases config session with ⟨_, -, same⟩ | ⟨id, transport, -, -, added⟩
    · exact same
    · rw [added] at refused
      cases refused
  accepted := by
    intro id accepted
    rcases table.create_cases config session with ⟨cause, refused, -⟩ |
      ⟨free, transport, search, created, added⟩
    · rw [refused] at accepted
      cases accepted
    · rw [added] at accepted
      cases accepted
      refine ⟨get?_eq_none_iff.mpr (ne_of_freeId? search), transport, ?_, by rw [added]⟩
      exact (Transport.create_name created).1

variable [ProfileSession S] [MessageBus B]

/-- Wherever the counter begins, and whatever happens to the transports, live transports have
different identifiers and different object paths; each is reached by both, and by both it alone.
And wherever the counter stands, also where it wraps around, the search for an identifier ends at
one that is free, and a creation that is refused leaves the transports alone. -/
theorem run_identity (nextId voiceMtu : UInt16) (moves : List (Move S B)) (env : Environment B A)
    {after : TransportTable S} {later : Environment B A}
    (ran : run { nextId, voiceMtu } moves env = (after, later)) :
    (after.transports.map Transport.id).Nodup ∧
      (after.transports.map fun transport => transport.path.value).Nodup ∧
      (∀ transport ∈ after.transports, Reached B A after transport) ∧
      ∀ counter config session, Creates { after with nextId := counter } config session := by
  have fresh : ({ nextId, voiceMtu } : TransportTable S).Identified :=
    ⟨by simp [Sound], by simp [names], by simp [names]⟩
  have identified : after.Identified := by
    have kept := run_identified fresh moves env
    rwa [ran] at kept
  exact ⟨identified.ids_nodup, identified.paths_nodup, fun _ live => identified.reached live,
    fun _ => creates _⟩

/-- The counter begins at the last identifier and wraps around while the first transport is alive;
one device has a path that ends in digits like a transport. When the counter stands at the last
identifier again, the search passes over the two in use. -/
theorem run_identity_of_wrapped :
    let env : Environment Transport.PlainBus Unit := Transport.plainEnvironment
    let other := { Transport.plainConfig with devicePath := "/org/bluez/hci0/dev_01/fd6" }
    let moves : List (Move Transport.PlainSession Transport.PlainBus) :=
      [.create Transport.plainConfig {}, .create other {},
        .create { other with uuid := Uuid.primaryService } {}, .create other {},
        .remove ⟨2⟩, .acquire ⟨0⟩ ":1.7" ⟨1⟩ "r"]
    let after := (run { nextId := 0xFFFF } moves env).1
    let again := { after with nextId := 0xFFFF }
    after.transports.map (fun transport => (transport.id, transport.path.value)) =
        [(⟨0xFFFF⟩, "/org/bluez/hci0/dev_01/fd65535"), (⟨0⟩, "/org/bluez/hci0/dev_01/fd6/fd0")] ∧
      (∀ transport ∈ after.transports,
        after.findPath? transport.path.value = some transport.id) ∧
      (again.create other {}).1 = .ok ⟨1⟩ ∧ again.get? ⟨1⟩ = none := by
  intro env other moves after again
  obtain ⟨-, -, reached, creates⟩ :=
    run_identity 0xFFFF Limits.defaultVoiceMtu moves env (Prod.eta _).symm
  have live : after.transports.map (fun transport => (transport.id, transport.path.value)) =
      [(⟨0xFFFF⟩, "/org/bluez/hci0/dev_01/fd65535"), (⟨0⟩, "/org/bluez/hci0/dev_01/fd6/fd0")] := by
    decide +kernel
  have accepted : (again.create other {}).1 = .ok ⟨1⟩ := by decide +kernel
  have free : again.get? ⟨1⟩ = none := ((creates 0xFFFF other {}).accepted ⟨1⟩ accepted).1
  exact ⟨live, fun transport member => (reached transport member).findPath, accepted, free⟩

end TransportTable

end BluetoothHost
