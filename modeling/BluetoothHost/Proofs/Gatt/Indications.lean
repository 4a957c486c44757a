import BluetoothHost.Proofs.Gatt.Rollback

/-!
# What peers are told

Peers that remember the database are told of every change to the handles that they see: when a
service is registered or fails to be, and when a registered one is removed. What an operation asks
the server for comes first, then one message goes to each peer that is trusted and connected, and
it can be read back as the range that is concerned. A service that the server refused has none, and
peers are told the local handles between the ends of its chain.
-/

namespace BluetoothHost

namespace HandleRange

/-- The range that an indication tells, if its message is one. -/
def ofMessage? : List UInt8 → Option HandleRange
  | [opcode, low, high, lastLow, lastHigh] =>
    if opcode = indicationOpcode then
      some ⟨UInt16.ofNat (LittleEndian.decode [low, high]),
        UInt16.ofNat (LittleEndian.decode [lastLow, lastHigh])⟩
    else none
  | _ => none

/-- The message that tells a range: the opcode and both ends with their lower bytes first. -/
theorem changedMessage_eq (range : HandleRange) :
    range.changedMessage = [0x1D, range.first.toUInt8, (range.first >>> 8).toUInt8,
      range.last.toUInt8, (range.last >>> 8).toUInt8] := by
  have bytes (handle : Handle) :
      LittleEndian.encode 2 handle.toNat = [handle.toUInt8, (handle >>> 8).toUInt8] := by
    have low : UInt8.ofNat handle.toNat = handle.toUInt8 := UInt8.toNat_inj.mp (by simp)
    have high : UInt8.ofNat (handle.toNat / 256) = (handle >>> 8).toUInt8 :=
      UInt8.toNat_inj.mp (by simp [Nat.shiftRight_eq_div_pow])
    simp only [LittleEndian.encode, low, high]
  rw [changedMessage, bytes, bytes]
  rfl

/-- What is told can be read back. -/
theorem ofMessage?_changedMessage (range : HandleRange) :
    ofMessage? range.changedMessage = some range := by
  have read (handle : Handle) :
      UInt16.ofNat (LittleEndian.decode (LittleEndian.encode 2 handle.toNat)) = handle := by
    have small : handle.toNat % LittleEndian.count 2 = handle.toNat :=
      Nat.mod_eq_of_lt handle.toNat_lt
    rw [LittleEndian.decode_encode, small, UInt16.ofNat_toNat]
  have parts : ofMessage? range.changedMessage =
      some ⟨UInt16.ofNat (LittleEndian.decode (LittleEndian.encode 2 range.first.toNat)),
        UInt16.ofNat (LittleEndian.decode (LittleEndian.encode 2 range.last.toNat))⟩ := rfl
  rw [parts, read, read]

end HandleRange

/-- The message by which a peer is told something, with the peer. -/
def Call.indication? : Call → Option (Address × List UInt8)
  | .indicate peer message => some (peer, message)
  | _ => none

/-- The indications among these calls, in their order. -/
def indications (calls : List Call) : List (Address × List UInt8) :=
  calls.filterMap Call.indication?

/-- Earlier indications come before later ones. -/
@[simp] theorem indications_append (earlier later : List Call) :
    indications (earlier ++ later) = indications earlier ++ indications later :=
  List.filterMap_append

namespace Database

variable {B A : Type} {database before after : Database}

/-! ### The ends of the chain -/

/-- The chain lists handles in ascending order, and all of them were given out. -/
structure Strung (database : Database) : Prop where
  /-- The handles ascend. -/
  ascending : database.chain.Pairwise fun earlier later => earlier.handle < later.handle
  /-- They are below the counter. -/
  given : ∀ node ∈ database.chain, node.handle.toNat < database.nextHandle

/-- New handles from the counter on may be listed behind the others. -/
theorem Strung.append (strung : before.Strung) {attributes : List Attribute} {nodes : List Node}
    {next : Nat} (ascending : nodes.Pairwise fun earlier later => earlier.handle < later.handle)
    (fresh : ∀ node ∈ nodes, before.nextHandle ≤ node.handle.toNat)
    (below : ∀ node ∈ nodes, node.handle.toNat < next) (grows : before.nextHandle ≤ next) :
    Strung { before with attributes, chain := before.chain ++ nodes, nextHandle := next } where
  ascending := by
    refine List.pairwise_append.mpr ⟨strung.ascending, ascending, fun old member new added => ?_⟩
    have given := strung.given old member
    have later := fresh new added
    exact UInt16.lt_iff_toNat_lt.mpr (by omega)
  given := by
    intro node member
    rcases List.mem_append.mp member with old | new
    · exact Nat.lt_of_lt_of_le (strung.given node old) grows
    · exact below node new

/-- A chain that is used up lists nothing. -/
theorem strung_consumed (attributes : List Attribute) :
    Strung { before with attributes, chain := [] } where
  ascending := .nil
  given := nofun

/-- Every change keeps the chain in order and does not decide whether peers are told. -/
theorem Change.strung {service : Handle} (change : Change service before after)
    (strung : before.Strung) : after.Strung ∧ after.announces = before.announces := by
  cases change with
  | retouched _ kept =>
    rcases kept with rfl | rfl
    · exact ⟨⟨strung.ascending, strung.given⟩, rfl⟩
    · exact ⟨strung_consumed _, rfl⟩
  | begun next =>
    refine ⟨⟨List.pairwise_singleton _ _, fun node member => ?_⟩, rfl⟩
    rw [List.mem_singleton.mp member]
    exact Nat.lt_succ_of_le (Nat.le_of_eq next)
  | @declared _ _ _ _ _ handle _ _ next room =>
    have successor := toNat_succ room
    refine ⟨strung.append (List.pairwise_pair.mpr (lt_succ room)) ?_ ?_ (by omega), rfl⟩
    · simp [successor, next]
    · simp [successor, next]
  | described _ _ next =>
    refine ⟨strung.append (List.pairwise_singleton _ _) ?_ ?_ (by omega), rfl⟩
    · simp [next]
    · simp [next]
  | removed =>
    refine ⟨?_, rfl⟩
    show Strung { before with attributes := _, chain := if _ then _ else _ }
    split
    · exact strung_consumed _
    · exact ⟨strung.ascending, strung.given⟩

/-- So do any number of changes. -/
theorem Changes.strung {service : Handle} (changes : Changes service before after)
    (strung : before.Strung) : after.Strung ∧ after.announces = before.announces := by
  induction changes with
  | refl => exact ⟨strung, rfl⟩
  | tail _ change ih =>
    obtain ⟨kept, same⟩ := change.strung ih.1
    exact ⟨kept, same.trans ih.2⟩

/-- The local handles of a chain are those between its ends. -/
theorem localRange_eq {head : Node} {rest : List Node}
    (ascending : (head :: rest).Pairwise fun earlier later => earlier.handle < later.handle) :
    localRange head (head :: rest) =
      ⟨head.handle, ((head :: rest).getLast (List.cons_ne_nil head rest)).handle⟩ := by
  have last : (head :: rest).getLast? =
      some ((head :: rest).getLast (List.cons_ne_nil head rest)) :=
    List.getLast?_eq_some_getLast _
  have above : head.handle ≤ ((head :: rest).getLast (List.cons_ne_nil head rest)).handle := by
    rcases List.mem_cons.mp (List.getLast_mem (List.cons_ne_nil head rest)) with same | behind
    · exact UInt16.le_of_eq (congrArg Node.handle same.symm)
    · exact UInt16.le_of_lt ((List.pairwise_cons.mp ascending).1 _ behind)
  have highest : max ((head :: rest).getLast (List.cons_ne_nil head rest)).handle head.handle =
      ((head :: rest).getLast (List.cons_ne_nil head rest)).handle := by
    refine UInt16.toNat_inj.mp ?_
    rw [UInt16.toNat_max]
    exact Nat.max_eq_left (UInt16.le_iff_toNat_le.mp above)
  rw [localRange, last, Option.getD_some, highest]

section Server

variable [AttributeServer A]

/-- In a run the chain stays in order, and peers are told or not as was decided at first. -/
theorem run_strung (orderly : database.Orderly) (strung : database.Strung)
    (operations : List (Operation B A)) (env : Environment B A) :
    (database.run operations env).1.Strung ∧
      (database.run operations env).1.announces = database.announces := by
  refine (run_invariant (fun next => next.Orderly ∧ next.Strung ∧
    next.announces = database.announces) ?_ ⟨orderly, strung, rfl⟩ operations env).2
  rintro next operation env ⟨ordered, kept, same⟩
  obtain ⟨service, changes⟩ := perform_changes ordered operation env
  obtain ⟨strung, unchanged⟩ := changes.strung kept
  exact ⟨changes.orderly ordered, strung, unchanged.trans same⟩

/-! ### What is told -/

/-- From one moment to another these calls are made. Where peers are to be told, one message then
goes to each peer that the server reports to be trusted and connected, in its order, and to nobody
else; the message is the opcode and both ends of a range, lower bytes first, and is read as that
range. Where they are not, nothing else is called. -/
def Informs (announces : Bool) (before : Environment B A) (work : List Call)
    (range : HandleRange) (after : Environment B A) : Prop :=
  ∃ between message, before.Makes work between ∧
    message = [0x1D, range.first.toUInt8, (range.first >>> 8).toUInt8, range.last.toUInt8,
      (range.last >>> 8).toUInt8] ∧
    HandleRange.ofMessage? message = some range ∧
    between.Makes
      (if announces then
        ((AttributeServer.peers between.server).filter fun peer =>
          peer.trusted && peer.connected).map fun peer => .indicate peer.address message
      else []) after

/-- What the registration of a chain asks the server for, and the range that is concerned. -/
inductive Affected (head : Node) (rest : List Node) :
    Except Error HandleRange → List Call → HandleRange → Prop
  /-- The service is registered with a range. -/
  | registered {work : List Call} (range : HandleRange)
      (registers : ∀ call ∈ work, call.isRegistration = true)
      (begun : acceptedServices work = [range.first]) :
      Affected head rest (.ok range) work range
  /-- The service was accepted, and what was given out for it is dropped at last. -/
  | rolledBack {work : List Call} {range : HandleRange} (cause : Error)
      (registers : ∀ call ∈ work, call.isRegistration = true)
      (begun : acceptedServices work = [range.first]) :
      Affected head rest (.error cause) (work ++ [.removeRange range]) range
  /-- The service was not accepted; the handles between the ends of the chain are concerned. -/
  | refused {work : List Call} (cause : Error)
      (registers : ∀ call ∈ work, call.isRegistration = true)
      (unaccepted : acceptedServices work = []) :
      Affected head rest (.error cause) work
        ⟨head.handle, ((head :: rest).getLast (List.cons_ne_nil head rest)).handle⟩

/-- An announcement informs of its range. -/
theorem announce_informs {first env : Environment B A} {work : List Call}
    (made : first.Makes work env) (database : Database) (range : HandleRange) :
    Informs database.announces first work range (database.announce range env) :=
  ⟨env, range.changedMessage, made, range.changedMessage_eq, range.ofMessage?_changedMessage,
    database.announce_makes range env⟩

/-- The registration of a chain informs of the range that is concerned. -/
theorem materialize_informs (chained : Chained database.chain) (strung : database.Strung)
    {head : Node} {rest : List Node} (chain_eq : database.chain = head :: rest)
    (env : Environment B A) :
    ∃ work range, Affected head rest (database.materialize env).1 work range ∧
      Informs database.announces env work range (database.materialize env).2.2 := by
  rw [chain_eq] at chained
  obtain ⟨isService, inner⟩ := chained
  have ends := localRange_eq (chain_eq ▸ strung.ascending)
  obtain ⟨calls, made, ended⟩ := @registerNodes_ended B A _ database head rest isService inner
    (database.tableSize (head :: rest)) env
  unfold materialize
  dsimp only
  rw [chain_eq]
  dsimp only
  rw [if_pos isService, ends]
  revert made ended
  rcases database.registerNodes (database.tableSize (head :: rest)) (head :: rest) {} env with
    ⟨outcome, registration, later⟩
  intro made ended
  dsimp only at made ended ⊢
  generalize registration.range? = ranged at ended ⊢
  cases ended with
  | @unaccepted cause asks unaccepted =>
    exact ⟨calls, _, .refused cause asks.isRegistration unaccepted, announce_informs made _ _⟩
  | @accepted _ range asks begun reached =>
    cases outcome with
    | ok =>
      exact ⟨calls, range, .registered range asks.isRegistration begun, announce_informs made _ _⟩
    | error cause =>
      have dropped := made.append (later.removeRange_makes range)
      exact ⟨_, range, .rolledBack cause asks.isRegistration begun,
        announce_informs dropped _ _⟩

/-- The removal of a service with a range drops the range and informs of it. -/
theorem removeService_informs (orderly : database.Orderly) {entry : Attribute}
    {range : HandleRange} (member : entry ∈ database.attributes)
    (isService : entry.isService = true) (noted : entry.range = some range)
    (env : Environment B A) :
    Informs database.announces env [.removeRange range] range
      (database.removeService entry.handle env).2.2 := by
  have fine := removeService_ok orderly member isService env
  rcases database.removeService_eq entry.handle env with ⟨cause, refused⟩ |
    ⟨front, declaration, run, rest, stretch, named, gone⟩
  · rw [refused] at fine
    cases fine
  · have present : declaration ∈ database.attributes := by simp [stretch.attributes_eq]
    obtain rfl := orderly.ascending.eq_of_handle present member named
    rw [gone, noted]
    exact announce_informs (env.removeRange_makes range) database range

/-! ### What is not told -/

/-- From one moment to another nobody is told anything. -/
def Discreet (before after : Environment B A) : Prop :=
  ∃ calls, before.Makes calls after ∧ indications calls = []

omit [AttributeServer A] in
/-- Where nothing happens nobody is told. -/
theorem Discreet.refl (env : Environment B A) : Discreet env env := ⟨[], env.makes_nil, rfl⟩

omit [AttributeServer A] in
/-- Nor by discreet operations in turn. -/
theorem Discreet.trans {first second third : Environment B A} (one : Discreet first second)
    (other : Discreet second third) : Discreet first third := by
  obtain ⟨earlier, made, silent⟩ := one
  obtain ⟨later, further, quiet⟩ := other
  exact ⟨earlier ++ later, made.append further, by rw [indications_append, silent, quiet]; rfl⟩

/-- A new value is passed on without an indication. -/
theorem updateValue_discreet (database : Database) (uuid : Uuid) (value : List UInt8)
    (env : Environment B A) : Discreet env (database.updateValue uuid value env).2.2 := by
  unfold updateValue
  split
  · rename_i entry _ _
    cases Bytes.ofList? Limits.attributeValue value with
    | none => exact .refl env
    | some kept =>
      dsimp only
      split
      · exact .refl env
      · rename_i properties _
        have told : Discreet env (env.updateValue uuid value).2 := ⟨_, rfl, rfl⟩
        revert told
        rcases env.updateValue uuid value with ⟨_ | _, later⟩
        · exact id
        · intro told
          dsimp only
          split
          · unfold push
            split
            · have sent : Discreet later (later.notify uuid value) := ⟨_, rfl, rfl⟩
              exact told.trans sent
            · exact told
          · exact told
  · exact .refl env

omit [AttributeServer A] in
/-- A write does what the handler does. -/
theorem write_discreet (database : Database) (uuid : Uuid) (value : List UInt8)
    {handler : AttributeHandler (Environment B A)}
    (discreet : ∀ entry value env, Discreet env (handler.write entry value env).2)
    (env : Environment B A) : Discreet env (database.write uuid value handler env).2.2 := by
  unfold write
  split
  · split
    · exact discreet _ _ env
    · exact .refl env
  · exact .refl env

/-- The handles that peers see are concerned by an operation: a service that is under construction
is to be registered, or one that has a range is to be removed. -/
def Concerns (database : Database) : Operation B A → Prop
  | .materialize => database.chain ≠ []
  | .removeService service =>
    ∃ entry ∈ database.attributes, entry.handle = service ∧ entry.isService = true ∧
      entry.range.isSome = true
  | _ => False

/-- An operation does nothing but what the database does: what is around it does not go on by
itself, and the handler of a write tells no peer anything. -/
def Operation.Own : Operation B A → Prop
  | .write _ _ handler => ∀ entry value env, Discreet env (handler.write entry value env).2
  | .evolve _ => False
  | _ => True

/-- An operation that concerns no handles of peers tells them nothing. -/
theorem perform_discreet {operation : Operation B A} (own : operation.Own)
    (unconcerned : ¬database.Concerns operation) (env : Environment B A) :
    Discreet env (database.perform operation env).2 := by
  cases operation with
  | addService | addCharacteristic | addDescriptor | setNotifyReady => exact .refl env
  | materialize =>
    have empty : database.chain = [] := Decidable.not_not.mp unconcerned
    unfold perform materialize
    rw [empty]
    exact .refl env
  | removeService service =>
    rcases database.removeService_eq service env with ⟨cause, refused⟩ |
      ⟨front, declaration, run, rest, stretch, named, gone⟩
    · simp only [perform, refused]
      exact .refl env
    · simp only [perform, gone]
      cases noted : declaration.range with
      | none => exact .refl env
      | some range =>
        have present : declaration ∈ database.attributes := by simp [stretch.attributes_eq]
        exact absurd ⟨declaration, present, named, stretch.isService, by simp [noted]⟩ unconcerned
  | updateValue uuid value => exact database.updateValue_discreet uuid value env
  | write uuid value handler => exact database.write_discreet uuid value own env
  | evolve => exact own.elim

omit [AttributeServer A] in
/-- What a registration asks for tells peers nothing. -/
theorem Affected.indications_eq {head : Node} {rest : List Node}
    {outcome : Except Error HandleRange} {work : List Call} {range : HandleRange}
    (affected : Affected head rest outcome work range) : indications work = [] := by
  have registrations {calls : List Call} (registers : ∀ call ∈ calls, call.isRegistration = true) :
      indications calls = [] := by
    refine List.filterMap_eq_nil_iff.mpr fun call member => ?_
    have registration := registers call member
    cases call <;> first | rfl | cases registration
  cases affected with
  | registered _ registers => exact registrations registers
  | rolledBack _ registers =>
    rw [indications_append, registrations registers]
    rfl
  | refused _ registers => exact registrations registers

/-- Where peers are not to be told, calls that tell nothing are all there is. -/
theorem Informs.discreet {first second : Environment B A} {work : List Call} {range : HandleRange}
    (informs : Informs false first work range second) (silent : indications work = []) :
    Discreet first second := by
  obtain ⟨between, message, made, -, -, further⟩ := informs
  exact ⟨work ++ [], made.append further, by rw [List.append_nil, silent]⟩

/-- After every run from a database in which nothing was stored yet, and whatever the server answers
now, the registration of a service under construction and the removal of one with a range tell every
peer that the server then reports as trusted and connected of the range that is concerned, each by
one message and nobody else by any, after everything that they ask the server for. No other
operation tells any peer anything, and where peers are not to be told none does. -/
theorem run_indications {first : Handle} {announces : Bool} {operations : List (Operation B A)}
    {env later : Environment B A}
    (ran : (fresh first announces).run operations env = (database, later))
    (now : Environment B A) :
    (∀ head rest, database.chain = head :: rest →
      ∃ work range, Affected head rest (database.materialize now).1 work range ∧
        Informs announces now work range (database.materialize now).2.2) ∧
    (∀ entry ∈ database.attributes, ∀ range, entry.isService = true → entry.range = some range →
      Informs announces now [.removeRange range] range
        (database.removeService entry.handle now).2.2) ∧
    ∀ operation : Operation B A, operation.Own →
      announces = false ∨ ¬database.Concerns operation →
        Discreet now (database.perform operation now).2 := by
  have ranged := (run_books (ranged_fresh first announces) operations env).1
  obtain ⟨strung, decided⟩ := run_strung (ranged_fresh first announces).orderly
    ⟨.nil, nofun⟩ operations env
  rw [ran] at ranged strung decided
  obtain rfl : database.announces = announces := decided
  refine ⟨fun head rest chain_eq => materialize_informs ranged.chained strung chain_eq now,
    fun entry member range isService noted =>
      removeService_informs ranged.orderly member isService noted now,
    fun operation own quiet => ?_⟩
  by_cases concerned : database.Concerns operation
  · have untold := quiet.resolve_right (absurd concerned)
    cases operation with
    | materialize =>
      obtain ⟨head, rest, chain_eq⟩ := List.exists_cons_of_ne_nil concerned
      obtain ⟨work, range, affected, informs⟩ :=
        materialize_informs ranged.chained strung chain_eq now
      rw [untold] at informs
      exact informs.discreet affected.indications_eq
    | removeService service =>
      obtain ⟨entry, member, rfl, isService, noted⟩ := concerned
      obtain ⟨range, noted⟩ := Option.isSome_iff_exists.mp noted
      have informs := removeService_informs ranged.orderly member isService noted now
      rw [untold] at informs
      exact informs.discreet rfl
    | _ => exact concerned.elim
  · exact perform_discreet own concerned now

/-- A server that refuses everything and knows some peers. -/
structure RefusingServer where
  /-- The peers. -/
  peers : List Peer

/-- It answers every registration and every value with a refusal. -/
instance : AttributeServer RefusingServer where
  registerService server _ _ := (none, server)
  registerCharacteristic server _ _ _ _ := (none, server)
  registerDescriptor server _ _ := (none, server)
  removeRange server _ := server
  updateValue server _ _ := (false, server)
  notify server _ _ := server
  peers := RefusingServer.peers
  sendIndication server _ _ := server

/-- A service that the server refuses has the local handles from 1 to 3. Of three peers only the one
that is trusted and connected is told of them. -/
theorem run_indications_of_refused :
    let told : Peer := ⟨⟨#v[0, 0, 0, 0, 0, 1]⟩, true, true⟩
    let others : List Peer :=
      [⟨⟨#v[0, 0, 0, 0, 0, 2]⟩, false, true⟩, ⟨⟨#v[0, 0, 0, 0, 0, 3]⟩, true, false⟩]
    let env : Environment Transport.PlainBus RefusingServer :=
      { bus := .ready, server := ⟨told :: others⟩ }
    let database := ((fresh 1 true).run [.addService (.uuid16 0x180F),
      .addCharacteristic (.uuid16 0x2A19) (.read ||| .notify) .both] env).1
    (database.materialize env).2.2.journal = [.registerService (.uuid16 0x180F) 4 none,
        .indicate told.address [0x1D, 1, 0, 3, 0]] ∧
      ∃ work range, Affected ⟨1, .service⟩ [⟨2, .declaration⟩, ⟨3, .value⟩]
          (database.materialize env).1 work range ∧
        Informs true env work range (database.materialize env).2.2 := by
  intro told others env database
  obtain ⟨registration, -, -⟩ := run_indications (Prod.eta _).symm env
  exact ⟨by decide +kernel, registration _ _ rfl⟩

end Server

end Database

end BluetoothHost
