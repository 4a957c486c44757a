import BluetoothHost.Proofs.Media.Announcements
import BluetoothHost.Proofs.Media.Settings

/-!
# Delay and volume

The delay and the volume of an audio transport are two registers that clients and the device both
write. Clients have to own the transport, and their volume has to be taken by the session unless it
is the present one; the device's is announced where it is new. Whoever wrote, what is read is the
write that was accepted last.
-/

namespace BluetoothHost

/-- What an audio endpoint remembers of the device. -/
inductive Register
  /-- The delay, in tenths of a millisecond. -/
  | delay
  /-- The volume, from the first time that it is known. -/
  | volume
deriving DecidableEq

namespace Register

/-- The property in which a register is read. -/
def name : Register → String
  | delay => "Delay"
  | volume => "Volume"

/-- The content of a register after these writes, the latest last. -/
def value? : Register → List UInt16 → Option UInt16
  | delay, writes => some (writes.getLast?.getD 0)
  | volume, writes => writes.getLast?

/-- A further write replaces what was there. -/
theorem value?_append (register : Register) (writes : List UInt16) (write : Option UInt16) :
    register.value? (writes ++ write.toList) = write.or (register.value? writes) := by
  cases write with
  | none => simp
  | some level => cases register <;> simp [value?]

end Register

namespace Endpoint

/-- What an endpoint has in a register. -/
def held? : Endpoint → Register → Option UInt16
  | audio _ delay _, .delay => some delay
  | audio _ _ volume, .volume => volume
  | _, _ => none

/-- An endpoint that carries audio. -/
def IsAudio (endpoint : Endpoint) : Prop := ∃ role delay volume, endpoint = audio role delay volume

end Endpoint

/-- The volume to which a call sets a session. -/
def Call.level? : Call → Option UInt8
  | .session _ (.setVolume level) => some level
  | _ => none

/-- Whether a call announces a register. -/
def Call.announces (register : Register) : Call → Bool
  | .signal _ property => property.name == register.name
  | _ => false

/-- The volumes to which these calls set a session. -/
def levelsSet (calls : List Call) : List UInt16 :=
  (calls.filterMap Call.level?).map UInt8.toUInt16

/-- A value that reads as a number is that number. -/
theorem PropertyValue.eq_of_uint16? {value : PropertyValue} {level : UInt16}
    (fits : value.uint16? = some level) : value = .uint16 level := by
  cases value <;> cases fits
  rfl

/-- A volume within the range is told to the session as it is. -/
theorem toUInt16_toUInt8_of_le {level : UInt16} (bounded : level ≤ Limits.volume) :
    level.toUInt8.toUInt16 = level := by
  have small : level.toNat ≤ 127 := UInt16.le_iff_toNat_le.mp bounded
  apply UInt16.toNat_inj.mp
  rw [UInt8.toNat_toUInt16, UInt16.toNat_toUInt8]
  omega

namespace Transport

/-! ### What moves write -/

variable {S B A : Type}

/-- What a move would write into a register. -/
def Move.writes? (register : Register) : Move S B → Option UInt16
  | .setProperty _ name value => if name = register.name then value.uint16? else none
  | .reportDelay delay => if register = .delay then some delay else none
  | .reportVolume volume => if register = .volume then some volume else none
  | _ => none

/-- What the device reports of a register by a move. -/
def Move.reports? (register : Register) : Move S B → Option UInt16
  | .reportDelay delay => if register = .delay then some delay else none
  | .reportVolume volume => if register = .volume then some volume else none
  | _ => none

/-- The volume that a move asks the session for: an owner wants it, it is within the range, and it
is not the present one. -/
def Move.wanted? (owners : OwnerSet) (present : Option UInt16) : Move S B → Option UInt16
  | .setProperty client name (.uint16 level) =>
    if owners.contains client ∧ name = "Volume" ∧ level ≤ Limits.volume ∧ present ≠ some level then
      some level
    else none
  | _ => none

variable [ProfileSession S] [MessageBus B]

/-- Whether a method call or a report succeeds; moves without an answer do. -/
def outcome (transport : Transport S) (move : Move S B) (env : Environment B A) :
    Except Error Unit :=
  match move with
  | .acquire client token access => (transport.acquire client token access env).1.map fun _ => ()
  | .release client token access => (transport.release client token access env).1.map fun _ => ()
  | .setProperty client name value => (transport.setProperty client name value env).1
  | .reportDelay delay => (transport.reportDelay delay env).1
  | .reportVolume volume => (transport.reportVolume volume env).1
  | _ => .ok ()

/-- What a move writes into a register, if it does not fail. -/
def written? (transport : Transport S) (register : Register) (move : Move S B)
    (env : Environment B A) : Option UInt16 :=
  if (transport.outcome move env).isOk then move.writes? register else none

/-- The writes into a register that were accepted along a run, the latest last. -/
def accepted (transport : Transport S) (register : Register) :
    List (Move S B) → Environment B A → List UInt16
  | [], _ => []
  | move :: moves, env =>
    let (next, further) := transport.perform move env
    (transport.written? register move env).toList ++ next.accepted register moves further

/-! ### What a move does to the registers -/

/-- What a move does to the registers of an audio transport, by its outcome and with the calls that
it makes. -/
structure Effect (before after : Transport S) (move : Move S B) (outcome : Except Error Unit)
    (calls : List Call) : Prop where
  /-- It goes on carrying audio. -/
  audio : after.endpoint.IsAudio
  /-- A register has what the move wrote, if it did not fail and wrote one, and what it had
  otherwise. -/
  held : ∀ register, after.endpoint.held? register =
    (if outcome.isOk then move.writes? register else none).or (before.endpoint.held? register)
  /-- A volume that was written is within the range. -/
  bounded : ∀ level, outcome.isOk → move.writes? .volume = some level → level ≤ Limits.volume
  /-- A move that fails changes nothing. -/
  refused : ∀ cause, outcome = .error cause → after.endpoint = before.endpoint
  /-- The session is asked for the volume that is wanted of it, and for nothing else. -/
  levels : levelsSet calls = (move.wanted? before.owners (before.endpoint.held? .volume)).toList
  /-- What the device reports is announced, if it is new, and nothing else is. -/
  news : ∀ register, calls.filter (Call.announces register) =
    if after.endpoint.held? register = before.endpoint.held? register then []
    else ((move.reports? register).map fun level =>
      Call.signal before.path.value ⟨register.name, .uint16 level⟩).toList

section Unset

variable {calls : List Call}

omit [ProfileSession S] [MessageBus B] in
/-- Calls that are no settings set no volume. -/
theorem Unset.levelsSet_eq (unset : Unset calls) : levelsSet calls = [] := by
  rw [levelsSet, List.map_eq_nil_iff, List.filterMap_eq_nil_iff]
  intro call member
  have other := unset call member
  unfold Call.level?
  split
  · exact absurd trivial other
  · rfl

/-- They announce no register. -/
theorem Unset.announces_eq (unset : Unset calls) (register : Register) :
    calls.filter (Call.announces register) = [] := by
  rw [List.filter_eq_nil_iff]
  intro call member
  have other := unset call member
  cases call with
  | signal path property =>
    have isState : property.name = "State" := not_not.mp other
    cases register <;> simp [Call.announces, isState, Register.name]
  | _ => simp [Call.announces]

end Unset

omit [ProfileSession S] [MessageBus B] in
/-- A move that is not about a setting has no effect on the registers. -/
theorem Untouched.effect {before after : Transport S} {move : Move S B} {calls : List Call}
    (untouched : Untouched before after calls) (other : move.isSetting = false)
    (audio : before.endpoint.IsAudio) (outcome : Except Error Unit) :
    Effect before after move outcome calls := by
  have writes : ∀ register, move.writes? register = none := by
    intro register
    cases move <;> first | rfl | cases other
  have wants : ∀ present, move.wanted? before.owners present = none := by
    intro present
    cases move <;> first | rfl | cases other
  obtain ⟨same, unset⟩ := untouched
  refine ⟨same ▸ audio, ?_, ?_, fun _ _ => same, ?_, ?_⟩
  · intro register
    rw [writes, ite_self, same, Option.none_or]
  · intro level _ written
    rw [writes] at written
    cases written
  · rw [unset.levelsSet_eq, wants, Option.toList_none]
  · intro register
    rw [unset.announces_eq, same, if_pos rfl]

/-- What a client's setting does to an audio endpoint, by its outcome and with the calls that it
makes. -/
inductive Setting (role : AudioRole) (delay : UInt16) (volume : Option UInt16) (session : S)
    (name : String) (value : PropertyValue) : Except Error Unit → Endpoint → List Call → Prop
  /-- It is no property that can be set, or the value does not fit it. -/
  | refused (cause : Error)
      (unfit : ∀ level, name = "Volume" → value.uint16? = some level → ¬level ≤ Limits.volume) :
      Setting role delay volume session name value (.error cause) (.audio role delay volume) []
  /-- The delay is set. -/
  | delayed {level : UInt16} (isDelay : name = "Delay") (fits : value.uint16? = some level) :
      Setting role delay volume session name value (.ok ()) (.audio role level volume) []
  /-- The volume is set to what it is. -/
  | repeated {level : UInt16} (isVolume : name = "Volume") (fits : value.uint16? = some level)
      (bounded : level ≤ Limits.volume) (same : volume = some level) :
      Setting role delay volume session name value (.ok ()) (.audio role delay volume) []
  /-- The session does not take the volume. -/
  | failed {level : UInt16} (cause : Error) (isVolume : name = "Volume")
      (fits : value.uint16? = some level) (bounded : level ≤ Limits.volume)
      (differs : volume ≠ some level) :
      Setting role delay volume session name value (.error cause) (.audio role delay volume)
        [sessionCall session (.setVolume level.toUInt8)]
  /-- The session takes the volume. -/
  | taken {level : UInt16} (isVolume : name = "Volume") (fits : value.uint16? = some level)
      (bounded : level ≤ Limits.volume) (differs : volume ≠ some level) :
      Setting role delay volume session name value (.ok ()) (.audio role delay (some level))
        [sessionCall session (.setVolume level.toUInt8)]

omit [MessageBus B] in
/-- The volume of an audio endpoint is set in one of these ways. -/
theorem setVolume_setting (role : AudioRole) (delay : UInt16) (volume : Option UInt16)
    (value : PropertyValue) (session : S) (env : Environment B A) :
    let result := Endpoint.setVolume role delay volume value session env
    ∃ calls, env.Makes calls result.2.2.2 ∧
      Setting role delay volume session "Volume" value result.1 result.2.1 calls := by
  unfold Endpoint.setVolume
  cases fits : value.uint16? with
  | none => exact ⟨[], env.makes_nil, .refused _ (by simp [fits])⟩
  | some level =>
    by_cases loud : level > Limits.volume
    · simp only [if_pos loud]
      refine ⟨[], env.makes_nil, .refused _ fun other _ also => ?_⟩
      rw [fits] at also
      cases also
      exact UInt16.not_le.mpr loud
    · have bounded : level ≤ Limits.volume := UInt16.not_lt.mp loud
      by_cases same : volume = some level
      · simp only [if_neg loud, if_pos same]
        exact ⟨[], env.makes_nil, .repeated rfl fits bounded same⟩
      · simp only [if_neg loud, if_neg same]
        have told : env.Makes [sessionCall session (.setVolume level.toUInt8)]
          (Session.setVolume session level.toUInt8 env).2.2 := rfl
        revert told
        rcases Session.setVolume session level.toUInt8 env with ⟨cause | _, later, env⟩
        · exact fun told => ⟨_, told, .failed cause rfl fits bounded same⟩
        · exact fun told => ⟨_, told, .taken rfl fits bounded same⟩

omit [MessageBus B] in
/-- So is any property. -/
theorem setEndpoint_setting (role : AudioRole) (delay : UInt16) (volume : Option UInt16)
    (name : String) (value : PropertyValue) (session : S) (env : Environment B A) :
    let result := (Endpoint.audio role delay volume).setProperty name value session env
    ∃ calls, env.Makes calls result.2.2.2 ∧
      Setting role delay volume session name value result.1 result.2.1 calls := by
  unfold Endpoint.setProperty
  by_cases isDelay : name = "Delay"
  · simp only [if_pos isDelay, Endpoint.setDelay]
    cases fits : value.uint16? with
    | none => exact ⟨[], env.makes_nil, .refused _ (by simp [fits])⟩
    | some level => exact ⟨[], env.makes_nil, .delayed isDelay fits⟩
  · by_cases isVolume : name = "Volume"
    · subst isVolume
      exact setVolume_setting role delay volume value session env
    · simp only [if_neg isDelay, if_neg isVolume]
      exact ⟨[], env.makes_nil, .refused _ fun level named => absurd named isVolume⟩

section Setting

variable {role : AudioRole} {delay : UInt16} {volume : Option UInt16} {session : S} {name : String}
  {value : PropertyValue} {outcome : Except Error Unit} {endpoint : Endpoint} {calls : List Call}

omit [MessageBus B]

/-- Settings are those of audio endpoints. -/
theorem Setting.isAudio
    (setting : Setting role delay volume session name value outcome endpoint calls) :
    endpoint.IsAudio := by
  cases setting <;> exact ⟨_, _, _, rfl⟩

/-- A setting announces nothing. -/
theorem Setting.silent
    (setting : Setting role delay volume session name value outcome endpoint calls)
    (register : Register) : calls.filter (Call.announces register) = [] := by
  cases setting <;> rfl

/-- A setting that fails changes nothing. -/
theorem Setting.unchanged
    (setting : Setting role delay volume session name value outcome endpoint calls) {cause : Error}
    (failed : outcome = .error cause) : endpoint = .audio role delay volume := by
  cases setting <;> first | rfl | cases failed

/-- A setting that does not fail writes what the client gave. -/
theorem Setting.held
    (setting : Setting role delay volume session name value outcome endpoint calls)
    (client : String) (register : Register) :
    endpoint.held? register =
      (if outcome.isOk then (Move.setProperty client name value : Move S B).writes? register
        else none).or ((Endpoint.audio role delay volume).held? register) := by
  cases setting with
  | refused | failed => rfl
  | delayed isDelay fits =>
    cases register <;> simp [Endpoint.held?, Move.writes?, Register.name, Except.isOk,
      Except.toBool, isDelay, fits]
  | repeated isVolume fits _ same =>
    cases register <;> simp [Endpoint.held?, Move.writes?, Register.name, Except.isOk,
      Except.toBool, isVolume, fits, same]
  | taken isVolume fits =>
    cases register <;> simp [Endpoint.held?, Move.writes?, Register.name, Except.isOk,
      Except.toBool, isVolume, fits]

/-- A volume that is set is within the range. -/
theorem Setting.bounded
    (setting : Setting role delay volume session name value outcome endpoint calls)
    {client : String} {level : UInt16} (accepted : outcome.isOk)
    (written : (Move.setProperty client name value : Move S B).writes? .volume = some level) :
    level ≤ Limits.volume := by
  obtain ⟨isVolume, fits⟩ := Option.ite_none_right_eq_some.mp written
  cases setting with
  | refused | failed => cases accepted
  | delayed isDelay =>
    exact absurd (isDelay.symm.trans isVolume) (by decide)
  | repeated _ also bounded | taken _ also bounded =>
    rw [fits] at also
    cases also
    exact bounded

/-- The session is told of a volume that is within the range and new. -/
theorem Setting.levels
    (setting : Setting role delay volume session name value outcome endpoint calls)
    {owners : OwnerSet} {client : String} (owner : owners.contains client = true) :
    levelsSet calls =
      ((Move.setProperty client name value : Move S B).wanted? owners volume).toList := by
  cases setting with
  | refused cause unfit =>
    cases value <;> first | rfl | skip
    rename_i level
    have none : ¬(owners.contains client = true ∧ name = "Volume" ∧ level ≤ Limits.volume ∧
        volume ≠ some level) := fun ⟨_, isVolume, bounded, _⟩ => unfit level isVolume rfl bounded
    rw [Move.wanted?, if_neg none]
    rfl
  | delayed isDelay fits =>
    obtain rfl := PropertyValue.eq_of_uint16? fits
    simp [Move.wanted?, isDelay, levelsSet]
  | repeated isVolume fits bounded same =>
    obtain rfl := PropertyValue.eq_of_uint16? fits
    simp [Move.wanted?, same, levelsSet]
  | failed _ isVolume fits bounded differs | taken isVolume fits bounded differs =>
    obtain rfl := PropertyValue.eq_of_uint16? fits
    rw [Move.wanted?, if_pos ⟨owner, isVolume, bounded, differs⟩]
    exact congrArg (fun level => [level]) (toUInt16_toUInt8_of_le bounded)

/-- An owner's setting has these effects. -/
theorem Setting.effect {transport : Transport S}
    (setting : Setting role delay volume transport.session name value outcome endpoint calls)
    (audio : transport.endpoint = .audio role delay volume) {client : String}
    (owner : transport.owners.contains client = true) (session : S) :
    Effect transport { transport with endpoint, session }
      (.setProperty client name value : Move S B) outcome calls where
  audio := setting.isAudio
  held := audio ▸ setting.held client
  bounded := fun _ => setting.bounded
  refused := fun _ failed => audio ▸ setting.unchanged failed
  levels := audio ▸ setting.levels owner
  news := by
    intro register
    rw [setting.silent]
    split <;> rfl

end Setting

section Effects

variable {transport : Transport S} {move : Move S B}

omit [ProfileSession S] [MessageBus B]

/-- A setting that fails without asking the session has no effect. -/
theorem Effect.of_refused (audio : transport.endpoint.IsAudio) (cause : Error)
    (unwanted : move.wanted? transport.owners (transport.endpoint.held? .volume) = none) :
    Effect transport transport move (.error cause) [] where
  audio := audio
  held := fun _ => rfl
  bounded := nofun
  refused := fun _ _ => rfl
  levels := by
    rw [unwanted]
    rfl
  news := fun _ => (if_pos rfl).symm

/-- A report of the device that is taken replaces one register, and is announced where it is new. -/
theorem Effect.of_report {register : Register} {level : UInt16} {endpoint : Endpoint}
    (audio : endpoint.IsAudio)
    (held : ∀ other, endpoint.held? other =
      if other = register then some level else transport.endpoint.held? other)
    (writes : ∀ other, move.writes? other = if other = register then some level else none)
    (reports : ∀ other, move.reports? other = if other = register then some level else none)
    (unwanted : ∀ present, move.wanted? transport.owners present = none)
    (bounded : register = .volume → level ≤ Limits.volume) {isNew : Bool}
    (new : isNew = true ↔ transport.endpoint.held? register ≠ some level) :
    Effect transport { transport with endpoint } move (.ok ())
      (if isNew then [.signal transport.path.value ⟨register.name, .uint16 level⟩] else []) where
  audio := audio
  held := by
    intro other
    rw [held, writes]
    by_cases same : other = register <;> simp [same, Except.isOk, Except.toBool]
  bounded := by
    intro most _ written
    rw [writes] at written
    obtain ⟨isVolume, rfl⟩ : Register.volume = register ∧ level = most := by simpa using written
    exact bounded isVolume.symm
  refused := nofun
  levels := by
    rw [unwanted]
    split <;> rfl
  news := by
    intro other
    rw [held, reports]
    by_cases same : other = register
    · subst same
      by_cases known : transport.endpoint.held? other = some level
      · simp [new, known]
      · simp [new, known, Ne.symm known, Call.announces]
    · have names : register.name ≠ other.name := by
        revert same
        cases register <;> cases other <;> decide
      rw [if_neg same, if_pos rfl]
      cases isNew
      · rfl
      · simp [Call.announces, names]

end Effects

omit [MessageBus B] in
/-- A setting has no effect but that of an owner. -/
theorem setProperty_effect {transport : Transport S} (audio : transport.endpoint.IsAudio)
    (client name : String) (value : PropertyValue) (env : Environment B A) :
    ∃ calls, env.Makes calls (transport.setProperty client name value env).2.2 ∧
      Effect transport (transport.setProperty client name value env).2.1
        (.setProperty client name value : Move S B)
        (transport.setProperty client name value env).1 calls := by
  unfold setProperty
  cases owner : transport.owners.contains client with
  | false =>
    refine ⟨[], env.makes_nil, .of_refused audio _ ?_⟩
    cases value <;> simp [Move.wanted?, owner]
  | true =>
    obtain ⟨role, delay, volume, known⟩ := audio
    obtain ⟨calls, made, setting⟩ :=
      setEndpoint_setting role delay volume name value transport.session env
    rw [← known] at made setting
    exact ⟨calls, made, setting.effect known owner _⟩

omit [ProfileSession S] in
/-- News of the device are announced where they are new. -/
theorem report_makes (property : Property) (path : String) (isNew : Bool)
    (env : Environment B A) :
    env.Makes (if isNew then [.signal path property] else [])
      (if isNew then env.propertyChanged path property else env) := by
  cases isNew with
  | false => exact env.makes_nil
  | true => exact env.propertyChanged_makes path property

omit [ProfileSession S] in
/-- What the device reports of its delay is always taken. -/
theorem reportDelay_effect {transport : Transport S} (audio : transport.endpoint.IsAudio)
    (delay : UInt16) (env : Environment B A) :
    ∃ calls, env.Makes calls (transport.reportDelay delay env).2.2 ∧
      Effect transport (transport.reportDelay delay env).2.1 (.reportDelay delay : Move S B)
        (transport.reportDelay delay env).1 calls := by
  obtain ⟨role, known, volume, audio⟩ := audio
  have new : (known != delay) = true ↔ transport.endpoint.held? .delay ≠ some delay := by
    simp [audio, Endpoint.held?]
  have held : ∀ other, (Endpoint.audio role delay volume).held? other =
      if other = .delay then some delay else transport.endpoint.held? other := by
    rw [audio]
    rintro ⟨⟩ <;> rfl
  have effect : Effect transport { transport with endpoint := .audio role delay volume }
      (.reportDelay delay : Move S B) (.ok ()) _ :=
    .of_report ⟨role, delay, volume, rfl⟩ held (fun _ => rfl) (fun _ => rfl) (fun _ => rfl) nofun
      new
  simp only [reportDelay, Endpoint.reportDelay?, audio] at effect ⊢
  exact ⟨_, report_makes ⟨"Delay", .uint16 delay⟩ transport.path.value _ env, effect⟩

omit [ProfileSession S] in
/-- What the device reports of its volume is taken if it is within the range. -/
theorem reportVolume_effect {transport : Transport S} (audio : transport.endpoint.IsAudio)
    (volume : UInt16) (env : Environment B A) :
    ∃ calls, env.Makes calls (transport.reportVolume volume env).2.2 ∧
      Effect transport (transport.reportVolume volume env).2.1 (.reportVolume volume : Move S B)
        (transport.reportVolume volume env).1 calls := by
  unfold reportVolume
  by_cases loud : volume > Limits.volume
  · rw [if_pos loud]
    exact ⟨[], env.makes_nil, .of_refused audio _ rfl⟩
  · rw [if_neg loud]
    obtain ⟨role, delay, known, audio⟩ := audio
    have new : (known != some volume) = true ↔ transport.endpoint.held? .volume ≠ some volume := by
      simp [audio, Endpoint.held?]
    have held : ∀ other, (Endpoint.audio role delay (some volume)).held? other =
        if other = .volume then some volume else transport.endpoint.held? other := by
      rw [audio]
      rintro ⟨⟩ <;> rfl
    have effect : Effect transport { transport with endpoint := .audio role delay (some volume) }
        (.reportVolume volume : Move S B) (.ok ()) _ :=
      .of_report ⟨role, delay, _, rfl⟩ held (fun _ => rfl) (fun _ => rfl) (fun _ => rfl)
        (fun _ => UInt16.not_lt.mp loud) new
    simp only [Endpoint.reportVolume?, audio] at effect ⊢
    exact ⟨_, report_makes ⟨"Volume", .uint16 volume⟩ transport.path.value _ env, effect⟩

/-- Every move has these effects on the registers of a sound audio transport. -/
theorem perform_effect {transport : Transport S} (sound : transport.Sound)
    (audio : transport.endpoint.IsAudio) (move : Move S B) (env : Environment B A) :
    ∃ calls, env.Makes calls (transport.perform move env).2 ∧
      Effect transport (transport.perform move env).1 move (transport.outcome move env) calls := by
  cases setting : move.isSetting with
  | false =>
    obtain ⟨calls, made, untouched⟩ := perform_untouched sound setting env
    exact ⟨calls, made, untouched.effect setting audio _⟩
  | true =>
    cases move with
    | setProperty client name value => exact setProperty_effect audio client name value env
    | reportDelay delay => exact reportDelay_effect audio delay env
    | reportVolume volume => exact reportVolume_effect audio volume env
    | _ => cases setting

/-! ### What is read after a run -/

/-- An audio transport remembers the last of these writes into each register, and every volume among
them was within the range. -/
structure Remembers (writes : Register → List UInt16) (transport : Transport S) : Prop where
  /-- It carries audio. -/
  audio : transport.endpoint.IsAudio
  /-- Each register has what was written last. -/
  held : ∀ register, transport.endpoint.held? register = register.value? (writes register)
  /-- No volume was beyond the range. -/
  bounded : ∀ level ∈ writes .volume, level ≤ Limits.volume

/-- A move adds what it writes. -/
theorem Remembers.perform {transport : Transport S} {writes : Register → List UInt16}
    (remembers : Remembers writes transport) (sound : transport.Sound) (move : Move S B)
    (env : Environment B A) :
    Remembers (fun register => writes register ++ (transport.written? register move env).toList)
      (transport.perform move env).1 := by
  obtain ⟨calls, -, effect⟩ := perform_effect sound remembers.audio move env
  refine ⟨effect.audio, fun register => ?_, fun level member => ?_⟩
  · rw [effect.held, Register.value?_append, remembers.held, written?]
  · rcases List.mem_append.mp member with before | now
    · exact remembers.bounded level before
    · obtain ⟨accepted, wrote⟩ := Option.ite_none_right_eq_some.mp (Option.mem_toList.mp now)
      exact effect.bounded level accepted wrote

/-- So does a run. -/
theorem Remembers.run {transport : Transport S} {writes : Register → List UInt16}
    (remembers : Remembers writes transport) (sound : transport.Sound) (moves : List (Move S B))
    (env : Environment B A) :
    Remembers (fun register => writes register ++ transport.accepted register moves env)
      (transport.run moves env).1 := by
  induction moves generalizing transport writes env with
  | nil => simpa [accepted, Transport.run] using remembers
  | cons move moves ih =>
    have rest := ih (remembers.perform sound move env) (perform_sound sound move env)
      (transport.perform move env).2
    simp only [List.append_assoc] at rest
    exact rest

omit [ProfileSession S] [MessageBus B] in
/-- A fresh transport of an audio service has nothing written into its registers. -/
theorem created_remembers {id : TransportId} {config : TransportConfig} {session : S}
    {voiceMtu : UInt16} {transport : Transport S}
    (created : create id config session voiceMtu = .ok transport)
    (audio : config.uuid ≈ Uuid.audioSource ∨ config.uuid ≈ Uuid.audioSink) :
    Remembers (fun _ => []) transport := by
  have kind : ∃ role, Endpoint.ofUuid config.uuid voiceMtu = .ok (.audio role 0 none) := by
    unfold Endpoint.ofUuid
    by_cases source : config.uuid ≈ Uuid.audioSource
    · exact ⟨.source, if_pos source⟩
    · exact ⟨.sink, by rw [if_neg source, if_pos (audio.resolve_left source)]⟩
  obtain ⟨role, kind⟩ := kind
  simp only [create, kind] at created
  repeat' split at created
  all_goals cases created
  exact ⟨⟨role, 0, none, rfl⟩, by rintro ⟨⟩ <;> rfl, nofun⟩

omit [MessageBus B] in
/-- An audio endpoint adds its registers to the properties. -/
theorem mem_audioProperties {role : AudioRole} {delay : UInt16} {volume : Option UInt16}
    (bounded : ∀ level, volume = some level → level ≤ Limits.volume) (session : S)
    (register : Register) (value : PropertyValue) :
    ⟨register.name, value⟩ ∈ (Endpoint.audio role delay volume).properties session ↔
      ∃ level, (Endpoint.audio role delay volume).held? register = some level ∧
        value = .uint16 level := by
  cases volume with
  | none => cases register <;> simp [Endpoint.properties, Endpoint.held?, Register.name]
  | some level =>
    have shown := bounded level rfl
    cases register <;>
      simp [Endpoint.properties, shown, Endpoint.held?, Register.name, @eq_comm _ value]

omit [MessageBus B] in
/-- The registers are read among the properties, and nothing else is read under their names. -/
theorem Remembers.read {transport : Transport S} {writes : Register → List UInt16}
    (remembers : Remembers writes transport) :
    ∃ list, transport.properties = .ok list ∧
      ∀ (register : Register) value, ⟨register.name, value⟩ ∈ list ↔
        ∃ level, register.value? (writes register) = some level ∧ value = .uint16 level := by
  refine ⟨_, transport.properties_eq, fun register value => ?_⟩
  obtain ⟨⟨role, delay, volume, audio⟩, held, bounded⟩ := remembers
  have common : ⟨register.name, value⟩ ∉ transport.commonProperties := by
    cases register <;> simp [commonProperties, Register.name]
  have within : ∀ level, volume = some level → level ≤ Limits.volume := by
    intro level known
    have last := held .volume
    rw [audio] at last
    exact bounded level (List.mem_of_getLast? (last.symm.trans known))
  rw [List.mem_append, or_iff_right common, ← held, audio]
  exact mem_audioProperties within transport.session register value

/-- Whatever happened to an audio transport since its creation, its properties show in each register
the write that was accepted last -- of the delay zero before the first, of the volume nothing before
the first -- be it an owner's or the device's, and no volume was ever accepted that is beyond the
range. Whatever befalls it next, a call that fails changes neither register; the session is asked
for a volume exactly if an owner wants one within the range that is not the present one, and for
that volume; and a register is announced exactly if the device reports it and this changes it. -/
theorem run_registers {id : TransportId} {config : TransportConfig} {session : S}
    {voiceMtu : UInt16} {transport : Transport S}
    (created : create id config session voiceMtu = .ok transport)
    (audio : config.uuid ≈ Uuid.audioSource ∨ config.uuid ≈ Uuid.audioSink)
    (moves : List (Move S B)) (env : Environment B A) {before : Transport S}
    {middle : Environment B A} (ran : transport.run moves env = (before, middle))
    (move : Move S B) {after : Transport S} {later : Environment B A}
    (performed : before.perform move middle = (after, later)) :
    (∃ list, before.properties = .ok list ∧
      ∀ (register : Register) value, ⟨register.name, value⟩ ∈ list ↔
        ∃ level, register.value? (transport.accepted register moves env) = some level ∧
          value = .uint16 level) ∧
    (∀ level ∈ transport.accepted .volume moves env, level ≤ Limits.volume) ∧
    (∀ cause, before.outcome move middle = .error cause → after.endpoint = before.endpoint) ∧
    ∃ calls, middle.Makes calls later ∧
      levelsSet calls = (move.wanted? before.owners
        (transport.accepted .volume moves env).getLast?).toList ∧
      ∀ register : Register, calls.filter (Call.announces register) =
        if register.value? (transport.accepted register (moves ++ [move]) env) =
          register.value? (transport.accepted register moves env) then []
        else ((move.reports? register).map fun level =>
          Call.signal before.path.value ⟨register.name, .uint16 level⟩).toList := by
  have fresh := sound_create created
  have empty := created_remembers created audio
  have remembers := empty.run fresh moves env
  have further := empty.run fresh (moves ++ [move]) env
  rw [run_append] at further
  simp only [ran, run, performed, List.nil_append] at remembers further
  obtain ⟨calls, made, effect⟩ :=
    perform_effect (run_created_sound created ran) remembers.audio move middle
  rw [performed] at made effect
  refine ⟨remembers.read, remembers.bounded, effect.refused, calls, made, ?_, fun register => ?_⟩
  · rw [effect.levels, remembers.held]
    rfl
  · rw [effect.news, further.held, remembers.held]

/-- A session that takes volumes up to a hundred. -/
inductive LimitedSession
  /-- It remembers nothing. -/
  | ready
deriving DecidableEq

/-- It starts and stops whenever it is asked to. -/
instance : ProfileSession LimitedSession where
  label _ := 0
  lock session := (true, session)
  unlock session := session
  resume session _ := (some ⟨0⟩, session)
  suspend session _ := (some ⟨0⟩, session)
  cancel session _ := session
  stream _ := some { descriptor := 3, readMtu := 672, writeMtu := 895 }
  isPlaying _ := false
  setVolume session level :=
    (if level ≤ 100 then .ok () else .error .notSupported, session)

/-- The device reports a volume, somebody who is no owner cannot set it, the session does not take
the owner's first volume, and the delay is set beside. The device's volume is read then, until the
owner has set one that the session takes, which is not announced. -/
theorem run_registers_of_limited :
    let transport : Transport LimitedSession :=
      { plainTransport false with session := .ready }
    let moves : List (Move LimitedSession PlainBus) :=
      [.acquire ":1.7" ⟨1⟩ "rw", .resumeComplete ":1.7" ⟨0⟩ (.ok ()), .reportVolume 30,
        .setProperty ":1.8" "Volume" (.uint16 50), .setProperty ":1.7" "Volume" (.uint16 110),
        .setProperty ":1.7" "Delay" (.uint16 150)]
    let reached := transport.run moves plainEnvironment
    let move : Move LimitedSession PlainBus := .setProperty ":1.7" "Volume" (.uint16 70)
    (∃ list, reached.1.properties = .ok list ∧ ⟨"Volume", .uint16 30⟩ ∈ list ∧
      ⟨"Delay", .uint16 150⟩ ∈ list) ∧
    ∃ calls, reached.2.Makes calls (reached.1.perform move reached.2).2 ∧ levelsSet calls = [70] ∧
      calls.filter (Call.announces .volume) = [] := by
  intro transport moves reached move
  have created : create ⟨0⟩ plainConfig LimitedSession.ready Limits.defaultVoiceMtu =
      .ok transport := rfl
  have volume : transport.accepted .volume moves plainEnvironment = [30] := by decide +kernel
  have delay : transport.accepted .delay moves plainEnvironment = [150] := by decide +kernel
  have owner : reached.1.owners.contains ":1.7" = true := by decide +kernel
  have wanted : move.wanted? reached.1.owners (some 30) = some 70 := by
    simp only [move, Move.wanted?]
    exact if_pos ⟨owner, trivial, by decide, by decide⟩
  obtain ⟨⟨list, all, reads⟩, -, -, calls, made, levels, news⟩ :=
    run_registers created (.inr rfl) moves plainEnvironment (Prod.eta _).symm move (Prod.eta _).symm
  refine ⟨⟨list, all, (reads .volume _).mpr ⟨30, ?_, rfl⟩, (reads .delay _).mpr ⟨150, ?_, rfl⟩⟩,
    calls, made, ?_, ?_⟩
  · rw [volume]
    rfl
  · rw [delay]
    rfl
  · rw [levels, volume]
    exact congrArg Option.toList wanted
  · rw [news .volume]
    split <;> rfl

end Transport

end BluetoothHost
