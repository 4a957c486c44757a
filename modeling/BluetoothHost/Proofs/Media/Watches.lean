import BluetoothHost.Proofs.Media.Separation
import Mathlib.Data.List.Nodup

/-!
# Watches for the departure of clients

A client that becomes an owner is watched, so that its locks can be freed when it leaves the bus.
The watch is granted by the bus and kept in the record of the owner. It goes in one of two ways:
the host ends it when the record goes, or it fires when the client leaves. The events below say
what happened to watches, and a flow follows the watches that are kept from event to event. Only
the departure of a client takes several at once, so everything else is followed on one transport,
with the watches of the others around it.
-/

namespace BluetoothHost

/-- A watch that the bus granted. -/
structure Watch where
  /-- The client that is watched. -/
  client : String
  /-- The name that the bus gave it. -/
  id : WatchId
deriving DecidableEq

/-- Something that happens to watches. -/
inductive WatchEvent
  /-- The bus granted one. -/
  | added (watch : Watch)
  /-- The host ended the one of this name. -/
  | ended (id : WatchId)
  /-- A client left the bus, by which all that were kept for it fired. -/
  | departed (client : String)
deriving DecidableEq

/-- What a call does to watches. -/
def Call.watchEvent? : Call → Option WatchEvent
  | .watch client (some id) => some (.added ⟨client, id⟩)
  | .unwatch id => some (.ended id)
  | _ => none

/-- What these calls do to watches, in their order. -/
def watchEvents (calls : List Call) : List WatchEvent := calls.filterMap Call.watchEvent?

/-- Without calls nothing happens to watches. -/
@[simp] theorem watchEvents_nil : watchEvents [] = [] := rfl

/-- Earlier events come before later ones. -/
@[simp] theorem watchEvents_append (earlier later : List Call) :
    watchEvents (earlier ++ later) = watchEvents earlier ++ watchEvents later :=
  List.filterMap_append

/-- No call is the departure of a client. -/
theorem departed_notMem_watchEvents (client : String) (calls : List Call) :
    .departed client ∉ watchEvents calls := by
  intro member
  obtain ⟨call, -, event⟩ := List.mem_filterMap.mp member
  unfold Call.watchEvent? at event
  split at event <;> cases event

namespace WatchEvent

/-- The watch that was added. -/
def added? : WatchEvent → Option Watch
  | .added watch => some watch
  | _ => none

/-- The watch that the host ended. -/
def ended? : WatchEvent → Option WatchId
  | .ended id => some id
  | _ => none

end WatchEvent

/-- The watches that were added, in their order. -/
def addedIn (events : List WatchEvent) : List Watch := events.filterMap WatchEvent.added?

/-- The names of the watches that the host ended, in their order. -/
def endedIn (events : List WatchEvent) : List WatchId := events.filterMap WatchEvent.ended?

/-- Whether these events leave a watch alone: the host does not end it, and its client does not
leave. -/
def Spared (events : List WatchEvent) (watch : Watch) : Prop :=
  .ended watch.id ∉ events ∧ .departed watch.client ∉ events

/-- Whether a watch is spared can be computed. -/
instance (events : List WatchEvent) (watch : Watch) : Decidable (Spared events watch) :=
  inferInstanceAs (Decidable (_ ∧ _))

/-- Another addition takes no watch away. -/
theorem spared_added {events : List WatchEvent} {watch other : Watch} :
    Spared (.added other :: events) watch ↔ Spared events watch := by
  simp [Spared]

/-- The host takes away the watch of the name that it ends. -/
theorem spared_ended {events : List WatchEvent} {watch : Watch} {id : WatchId} :
    Spared (.ended id :: events) watch ↔ watch.id ≠ id ∧ Spared events watch := by
  simp [Spared, and_assoc]

/-- A client that leaves takes its own watches with it. -/
theorem spared_departed {events : List WatchEvent} {watch : Watch} {client : String} :
    Spared (.departed client :: events) watch ↔ watch.client ≠ client ∧ Spared events watch := by
  simp [Spared, and_left_comm]

/-- The watches that were added and not taken away by what happened later: neither ended by the host
nor fired by the departure of their client. -/
def openWatches : List WatchEvent → List Watch
  | [] => []
  | .added watch :: later =>
    if Spared later watch then watch :: openWatches later else openWatches later
  | _ :: later => openWatches later

/-- From some watches that are kept to others. A watch is added at the end, the host ends one that
is kept, and the departure of a client takes all that were kept for it. -/
inductive WatchFlow : List Watch → List WatchEvent → List Watch → Prop
  /-- Nothing happens; the order in which watches are kept does not matter. -/
  | done {before after : List Watch} (same : before.Perm after) : WatchFlow before [] after
  /-- One more is kept. -/
  | added {before after : List Watch} {watch : Watch} {events : List WatchEvent}
      (further : WatchFlow (before ++ [watch]) events after) :
      WatchFlow before (.added watch :: events) after
  /-- One of those that are kept is ended. -/
  | ended {before remaining after : List Watch} {watch : Watch} {events : List WatchEvent}
      (kept : before.Perm (watch :: remaining)) (further : WatchFlow remaining events after) :
      WatchFlow before (.ended watch.id :: events) after
  /-- A client leaves. -/
  | departed {before after : List Watch} {client : String} {events : List WatchEvent}
      (further : WatchFlow (before.filter fun watch => watch.client != client) events after) :
      WatchFlow before (.departed client :: events) after

namespace WatchFlow

variable {before middle after others : List Watch} {events earlier later : List WatchEvent}

/-- Nothing happens. -/
theorem refl (watches : List Watch) : WatchFlow watches [] watches := .done (.refl _)

/-- A flow may begin with the same watches in another order. -/
theorem of_perm (same : before.Perm middle) (flow : WatchFlow middle events after) :
    WatchFlow before events after := by
  induction flow generalizing before with
  | done also => exact .done (same.trans also)
  | added _ ih => exact .added (ih (same.append_right _))
  | ended kept further _ => exact .ended (same.trans kept) further
  | departed _ ih => exact .departed (ih (same.filter _))

/-- Consecutive flows make one. -/
theorem trans (one : WatchFlow before earlier middle) (other : WatchFlow middle later after) :
    WatchFlow before (earlier ++ later) after := by
  induction one with
  | done same => exact of_perm same other
  | added _ ih => exact .added (ih other)
  | ended kept _ ih => exact .ended kept (ih other)
  | departed _ ih => exact .departed (ih other)

/-- A flow can be cut in two. -/
theorem split (flow : WatchFlow before (earlier ++ later) after) :
    ∃ middle, WatchFlow before earlier middle ∧ WatchFlow middle later after := by
  induction earlier generalizing before with
  | nil => exact ⟨before, .refl before, flow⟩
  | cons event earlier ih =>
    cases flow with
    | added further =>
      obtain ⟨middle, one, other⟩ := ih further
      exact ⟨middle, .added one, other⟩
    | ended kept further =>
      obtain ⟨middle, one, other⟩ := ih further
      exact ⟨middle, .ended kept one, other⟩
    | departed further =>
      obtain ⟨middle, one, other⟩ := ih further
      exact ⟨middle, .departed one, other⟩

/-- As long as no client leaves, other watches may be kept besides. -/
theorem frame (flow : WatchFlow before events after)
    (present : ∀ client, .departed client ∉ events) (others : List Watch) :
    WatchFlow (others ++ before) events (others ++ after) := by
  induction flow with
  | done same => exact .done (same.append_left others)
  | added _ ih =>
    have further := ih fun client member => present client (by simp [member])
    rw [← List.append_assoc] at further
    exact .added further
  | ended kept _ ih =>
    have further := ih fun client member => present client (by simp [member])
    exact .ended ((kept.append_left others).trans List.perm_middle) further
  | @departed _ _ client => exact absurd List.mem_cons_self (present client)

/-! ### What follows from a flow -/

/-- The books of a flow: what was kept or added is kept at the end, or the host ended it, or it
fired. -/
theorem books (flow : WatchFlow before events after) :
    ∃ ended fired : List Watch, ended.map Watch.id = endedIn events ∧
      (before ++ addedIn events).Perm (after ++ ended ++ fired) := by
  induction flow with
  | done same => exact ⟨[], [], rfl, by simpa [addedIn] using same⟩
  | @added before after watch events _ ih =>
    obtain ⟨ended, fired, names, balance⟩ := ih
    refine ⟨ended, fired, names, ?_⟩
    rw [List.append_assoc, List.singleton_append] at balance
    exact balance
  | @ended before remaining after watch events kept _ ih =>
    obtain ⟨ended, fired, names, balance⟩ := ih
    refine ⟨watch :: ended, fired, congrArg (watch.id :: ·) names, ?_⟩
    refine (kept.append_right _).trans ((balance.cons watch).trans ?_)
    simpa only [List.append_assoc, List.cons_append] using List.perm_middle.symm
  | @departed before after client events _ ih =>
    obtain ⟨ended, fired, names, balance⟩ := ih
    let gone := before.filter fun watch => !(watch.client != client)
    have parted : before.Perm ((before.filter fun watch => watch.client != client) ++ gone) :=
      (List.filter_append_perm _ before).symm
    refine ⟨ended, fired ++ gone, names, (parted.append_right (addedIn events)).trans ?_⟩
    have aside : (gone ++ addedIn events).Perm (addedIn events ++ gone) := List.perm_append_comm
    rw [List.append_assoc]
    refine (aside.append_left _).trans ?_
    rw [← List.append_assoc, ← List.append_assoc]
    exact balance.append_right gone

/-- What is kept at the end was kept before or was added. -/
theorem mem_of_mem (flow : WatchFlow before events after) {watch : Watch} (member : watch ∈ after) :
    watch ∈ before ++ addedIn events := by
  obtain ⟨ended, fired, -, balance⟩ := flow.books
  exact balance.mem_iff.mpr (by simp [member])

/-- Only a watch that was kept or added is ended. -/
theorem exists_of_ended (flow : WatchFlow before events after) {id : WatchId}
    (ended : .ended id ∈ events) : ∃ watch ∈ before ++ addedIn events, watch.id = id := by
  obtain ⟨gone, fired, names, balance⟩ := flow.books
  have named : id ∈ gone.map Watch.id := by
    rw [names]
    exact List.mem_filterMap.mpr ⟨_, ended, rfl⟩
  obtain ⟨watch, member, same⟩ := List.mem_map.mp named
  exact ⟨watch, balance.mem_iff.mpr (by simp [member]), same⟩

section Distinct

variable (distinct : ((before ++ addedIn events).map Watch.id).Nodup)
include distinct

/-- Where no name is granted twice, those that are kept at the end have different names. -/
theorem nodup_after (flow : WatchFlow before events after) : (after.map Watch.id).Nodup := by
  obtain ⟨ended, fired, -, balance⟩ := flow.books
  have all := (balance.map Watch.id).nodup_iff.mp distinct
  rw [List.append_assoc, List.map_append] at all
  exact all.of_append_left

/-- No watch is ended twice. -/
theorem nodup_ended (flow : WatchFlow before events after) : (endedIn events).Nodup := by
  obtain ⟨ended, fired, names, balance⟩ := flow.books
  have all := (balance.map Watch.id).nodup_iff.mp distinct
  rw [List.map_append, List.map_append] at all
  rw [← names]
  exact all.of_append_left.of_append_right

/-- What is kept at the end is what was kept and was not taken away, and what was added and was not
taken away later. -/
theorem open_perm (flow : WatchFlow before events after) :
    after.Perm ((before.filter fun watch => Spared events watch) ++ openWatches events) := by
  induction flow with
  | @done before after same =>
    have all : (before.filter fun watch => Spared [] watch) = before := by
      simp [Spared]
    rw [all, openWatches, List.append_nil]
    exact same.symm
  | @added before after watch events _ ih =>
    have names : ((before ++ [watch] ++ addedIn events).map Watch.id).Nodup := by
      rw [List.append_assoc]
      exact distinct
    have spared : (fun other => decide (Spared (.added watch :: events) other)) =
        fun other => decide (Spared events other) :=
      funext fun other => decide_eq_decide.mpr spared_added
    have opened : openWatches (.added watch :: events) =
        ([watch].filter fun watch => Spared events watch) ++ openWatches events := by
      rw [openWatches]
      split <;> simp [*]
    rw [spared, opened, ← List.append_assoc, ← List.filter_append]
    exact ih names
  | @ended before remaining after watch events kept _ ih =>
    have names := ((kept.append_right (addedIn events)).map Watch.id).nodup_iff.mp distinct
    rw [List.cons_append, List.map_cons, List.nodup_cons] at names
    obtain ⟨unnamed, others⟩ := names
    have gone : ¬Spared (.ended watch.id :: events) watch := fun spared =>
      (spared_ended.mp spared).1 rfl
    have stay : ∀ other ∈ remaining, decide (Spared (.ended watch.id :: events) other) =
        decide (Spared events other) := by
      intro other member
      have differs : other.id ≠ watch.id := fun same =>
        unnamed (same ▸ List.mem_map_of_mem (List.mem_append_left _ member))
      exact decide_eq_decide.mpr (spared_ended.trans (and_iff_right differs))
    refine (ih others).trans (List.Perm.append_right _ ?_)
    refine (List.Perm.of_eq ?_).trans (kept.filter _).symm
    rw [List.filter_cons_of_neg (by simpa using gone), List.filter_congr stay]
  | @departed before after client events _ ih =>
    have names : (((before.filter fun watch => watch.client != client) ++
        addedIn events).map Watch.id).Nodup :=
      distinct.sublist ((List.filter_sublist.append_right _).map _)
    have spared : (fun watch => decide (Spared (.departed client :: events) watch)) =
        fun watch => decide (Spared events watch) && (watch.client != client) := by
      funext watch
      rw [Bool.eq_iff_iff, decide_eq_true_iff, spared_departed, Bool.and_eq_true,
        decide_eq_true_iff, bne_iff_ne, and_comm]
    rw [spared, ← List.filter_filter]
    exact ih names

omit distinct

/-- No watch is ended once the departure of its client has been processed. -/
theorem notMem_ended_of_departed {watch : Watch} {middle : List WatchEvent}
    (flow : WatchFlow before
      ((earlier ++ .added watch :: middle) ++ .departed watch.client :: later) after)
    (distinct : ((before ++ addedIn ((earlier ++ .added watch :: middle) ++
      .departed watch.client :: later)).map Watch.id).Nodup) :
    .ended watch.id ∉ later := by
  intro ended
  obtain ⟨between, one, other⟩ := flow.split
  have added : watch ∈ before ++ addedIn (earlier ++ .added watch :: middle) := by
    simp [addedIn, WatchEvent.added?]
  have parts : addedIn ((earlier ++ .added watch :: middle) ++ .departed watch.client :: later) =
      addedIn (earlier ++ .added watch :: middle) ++ addedIn later := List.filterMap_append
  rw [parts, ← List.append_assoc, List.map_append] at distinct
  cases other with
  | departed further =>
    obtain ⟨found, present, same⟩ := further.exists_of_ended ended
    rcases List.mem_append.mp present with kept | new
    · -- It was kept for another client, under the name that the first watch still has.
      obtain ⟨here, differs⟩ := List.mem_filter.mp kept
      have origin := one.mem_of_mem here
      have identical := List.inj_on_of_nodup_map distinct.of_append_left origin added same
      simp [identical] at differs
    · -- It was granted later, under a name that had been granted.
      have apart := List.disjoint_of_nodup_append distinct
      refine apart (List.mem_map_of_mem added) ?_
      rw [← same]
      exact List.mem_map_of_mem new

end Distinct

end WatchFlow

/-- The watch that is kept in the record of an owner. -/
def Owner.kept? (owner : Owner) : Option Watch := owner.watch.map fun id => ⟨owner.client.value, id⟩

/-- The watches that are kept in the records of owners. -/
def OwnerSet.watches (set : OwnerSet) : List Watch := set.owners.filterMap Owner.kept?

/-- A change of a record that keeps its watch keeps all watches. -/
theorem OwnerSet.modify_watches (set : OwnerSet) (client : String) {change : Owner → Owner}
    (kept : ∀ owner, (change owner).kept? = owner.kept?) :
    (set.modify client change).watches = set.watches := by
  have same : (set.modify client change).owners.map Owner.kept? = set.owners.map Owner.kept? :=
    map_updateFirst kept set.owners
  have collected := congrArg (List.filterMap id) same
  rw [List.filterMap_map, List.filterMap_map] at collected
  exact collected

/-- The watch of one record stands between those of the others. -/
theorem OwnerSet.watches_of_single {set : OwnerSet} {front back : List Owner} {owner : Owner}
    (owners_eq : set.owners = front ++ owner :: back) :
    set.watches = front.filterMap Owner.kept? ++ (owner.kept?.toList ++
      back.filterMap Owner.kept?) := by
  rw [watches, owners_eq, List.filterMap_append]
  congr 1
  cases found : owner.kept? <;> simp [found]

namespace Transport

variable {S B A : Type} {before middle after : Transport S} {first second third : Environment B A}
  {calls : List Call}

/-- Between two moments the watches of a transport flowed as the calls say. -/
def Watched (before : Transport S) (first : Environment B A) (after : Transport S)
    (second : Environment B A) : Prop :=
  ∃ calls, first.Makes calls second ∧
    WatchFlow before.owners.watches (watchEvents calls) after.owners.watches

namespace Watched

/-- Calls that concern no watch go with watches that stay. -/
theorem of_silent (made : first.Makes calls second) (silent : watchEvents calls = [])
    (same : after.owners.watches = before.owners.watches) : Watched before first after second :=
  ⟨calls, made, silent ▸ same ▸ .refl _⟩

/-- Where nothing is called the watches stay. -/
theorem of_eq (same : after.owners.watches = before.owners.watches) (env : Environment B A) :
    Watched before env after env :=
  .of_silent env.makes_nil rfl same

/-- One span of time after another. -/
theorem trans (one : Watched before first middle second)
    (other : Watched middle second after third) : Watched before first after third := by
  obtain ⟨earlier, made, flow⟩ := one
  obtain ⟨later, further, rest⟩ := other
  exact ⟨earlier ++ later, made.append further, watchEvents_append _ _ ▸ flow.trans rest⟩

end Watched

/-! ### Calls that concern no watch -/

/-- The announcement of a phase concerns none. -/
theorem announcement_unwatched (transport : Transport S) (phase : Phase) :
    watchEvents (transport.announcement phase) = [] := by
  unfold announcement
  split <;> rfl

/-- Nor do settings. -/
theorem settings_unwatched (settings : ∀ call ∈ calls, IsSetting call) :
    watchEvents calls = [] := by
  refine List.filterMap_eq_nil_iff.mpr fun call member => ?_
  have setting := settings call member
  unfold IsSetting at setting
  split at setting <;> first | rfl | cases setting

variable [ProfileSession S]

/-- Nor does a request that is failed. -/
theorem Dismissal.unwatched {session later : S} {pending : Option Request}
    (dismissal : Dismissal session pending later calls) : watchEvents calls = [] := by
  cases dismissal <;> rfl

/-- When a record goes its watch is ended, if it has one. -/
theorem Departure.watchEvents_eq {record : Owner} {remaining : List Owner}
    (departure : Departure before record remaining after calls) :
    watchEvents calls = record.watch.toList.map .ended := by
  have ended : watchEvents (unwatching record.watch) = record.watch.toList.map .ended := by
    cases record.watch <;> rfl
  cases departure with
  | stays dismissed _ => rw [watchEvents_append, dismissed.unwatched, ended, List.nil_append]
  | @settles session _ dismissed _ _ =>
    have released : watchEvents (sessionCall session .unlock ::
        before.announcement (restPhase session)) = [] := announcement_unwatched _ _
    rw [watchEvents_append, watchEvents_append, dismissed.unwatched, ended, released,
      List.nil_append, List.append_nil]

/-! ### The operations -/

variable [MessageBus B]

/-- The end of an ownership ends the watch in the record. -/
theorem removeOwner_watched (transport : Transport S) (client : String) (env : Environment B A) :
    Watched transport env (transport.removeOwner client env).1
      (transport.removeOwner client env).2 := by
  cases found : transport.owners.get? client with
  | none =>
    unfold removeOwner
    rw [found]
    exact .of_eq rfl env
  | some owner =>
    obtain ⟨front, back, stands⟩ := OwnerSet.stands_of_get? found
    obtain ⟨calls, departure, made⟩ := removeOwner_departure stands env
    refine ⟨calls, made, ?_⟩
    rw [departure.watchEvents_eq, departure.frame.1, OwnerSet.watches_of_single stands.owners_eq,
      OwnerSet.watches, List.filterMap_append]
    unfold Owner.kept?
    cases owner.watch with
    | none => exact .refl _
    | some id =>
      exact @WatchFlow.ended _ _ _ ⟨owner.client.value, id⟩ _ List.perm_middle (.refl _)

/-- So does the end of several. -/
theorem removeOwners_watched (transport : Transport S) (clients : List ClientName)
    (env : Environment B A) :
    Watched transport env (transport.removeOwners clients env).1
      (transport.removeOwners clients env).2 := by
  induction clients generalizing transport env with
  | nil => exact .of_eq rfl env
  | cons client clients ih =>
    exact (transport.removeOwner_watched client.value env).trans (ih _ _)

/-- Taking a transport down ends all its watches. -/
theorem shutDown_watched (transport : Transport S) (env : Environment B A) :
    Watched transport env (transport.shutDown env).1 (transport.shutDown env).2 :=
  transport.removeOwners_watched _ env

/-- An acquire adds the watch that the bus grants, if it comes to that. -/
theorem acquire_watched {transport : Transport S} (sound : transport.Sound) (client : String)
    (token : ReplyToken) (access : String) (env : Environment B A) :
    Watched transport env (transport.acquire client token access env).2.1
      (transport.acquire client token access env).2.2 := by
  obtain ⟨calls, made, step⟩ := acquire_acquiring sound client token access env
  refine ⟨calls, made, ?_⟩
  revert step
  generalize (transport.acquire client token access env).1 = outcome
  generalize (transport.acquire client token access env).2.1 = acquired
  intro step
  cases step with
  | refused | undelivered | locked | unstarted => exact .refl _
  | @joined name _ _ watch isClient =>
    cases watch with
    | none =>
      rw [OwnerSet.watches_of_single rfl]
      exact .done (by simp [OwnerSet.watches, Owner.kept?])
    | some id =>
      rw [OwnerSet.watches_of_single rfl]
      exact .added (.done (by simp [OwnerSet.watches, Owner.kept?, isClient]))
  | @started name _ _ watch _ _ isClient free =>
    cases watch with
    | none => exact .done (by simp [OwnerSet.watches, Owner.kept?, free.1])
    | some id => exact .added (.done (by simp [OwnerSet.watches, Owner.kept?, isClient, free.1]))

/-- Having the stream stopped ends the watch of an owner that leaves at once. -/
theorem suspend_watched (transport : Transport S) (client : String) (token : ReplyToken)
    (env : Environment B A) :
    Watched transport env (transport.suspend client token env).2.1
      (transport.suspend client token env).2.2 := by
  have announced : Watched transport env (transport.moveTo .suspending env).1
      (transport.moveTo .suspending env).2 :=
    .of_silent (moveTo_makes _ _ _) (announcement_unwatched _ _) rfl
  unfold suspend
  revert announced
  rcases transport.moveTo .suspending env with ⟨moved, told⟩
  intro announced
  have asked : Watched moved told
      { moved with session := (Session.suspend moved.session client told).2.1 }
      (Session.suspend moved.session client told).2.2 := .of_silent rfl rfl rfl
  dsimp only
  revert asked
  rcases Session.suspend moved.session client told with ⟨_ | id, session, env⟩
  · intro asked
    exact announced.trans (asked.trans (removeOwner_watched _ client env))
  · intro asked
    refine announced.trans (asked.trans (.of_eq ?_ env))
    exact OwnerSet.modify_watches _ client fun _ => rfl

/-- A release ends the watch of an owner that leaves. -/
theorem release_watched (transport : Transport S) (client : String) (token : ReplyToken)
    (access : String) (env : Environment B A) :
    Watched transport env (transport.release client token access env).2.1
      (transport.release client token access env).2.2 := by
  cases found : transport.owners.get? client with
  | none =>
    simp only [release, found]
    exact .of_eq rfl env
  | some owner =>
    simp only [release, found]
    split
    · exact .of_eq rfl env
    · split
      · unfold releaseAll
        split
        · exact transport.removeOwner_watched client env
        · split
          · exact .of_eq rfl env
          · exact transport.suspend_watched client token env
      · split
        · refine .of_eq ?_ env
          exact OwnerSet.modify_watches _ client fun _ => rfl
        · exact .of_eq rfl env

/-- A client that gets its stream is watched as before, and one that the reply does not reach no
longer. -/
theorem deliver_watched (transport : Transport S) (owner : Owner) (token : ReplyToken)
    (stream : Stream) (env : Environment B A) :
    Watched transport env (transport.deliver owner token stream env).1
      (transport.deliver owner token stream env).2 := by
  have answered : Watched transport env { transport with stream := some stream }
      (env.sendReply token (.acquired (stream.masked owner.lock))).2 :=
    .of_silent (env.sendReply_makes _ _) rfl rfl
  unfold deliver
  revert answered
  rcases env.sendReply token (.acquired (stream.masked owner.lock)) with ⟨_ | _, later⟩
  · intro answered
    exact answered.trans (removeOwner_watched _ _ later)
  · intro answered
    refine answered.trans (.of_silent (moveTo_makes _ _ _) (announcement_unwatched _ _) ?_)
    exact OwnerSet.modify_watches _ _ fun _ => rfl

/-- A report that the stream has started, or failed to, ends the watch of an owner that leaves. -/
theorem resumeComplete_watched (transport : Transport S) (client : String) (id : RequestId)
    (result : Except Error Unit) (env : Environment B A) :
    Watched transport env (transport.resumeComplete client id result env).1
      (transport.resumeComplete client id result env).2 := by
  unfold resumeComplete
  cases transport.awaiting? client .acquire id with
  | none => exact .of_eq rfl env
  | some found =>
    obtain ⟨owner, request⟩ := found
    let reported : Transport S := { transport with
      owners := transport.owners.modify client fun owner =>
        { owner with pending := some { request with id := none } } }
    have noted : Watched transport env reported env := by
      refine .of_eq ?_ env
      exact OwnerSet.modify_watches _ client fun _ => rfl
    dsimp only
    split
    · exact noted.trans (deliver_watched reported owner _ _ env)
    · exact noted.trans (removeOwner_watched reported client env)

/-- A report that the stream has stopped ends the watch of the owner that leaves. -/
theorem suspendComplete_watched (transport : Transport S) (client : String) (id : RequestId)
    (env : Environment B A) :
    Watched transport env (transport.suspendComplete client id env).1
      (transport.suspendComplete client id env).2 := by
  unfold suspendComplete
  cases transport.awaiting? client .release id with
  | none => exact .of_eq rfl env
  | some found =>
    obtain ⟨owner, request⟩ := found
    have answered : Watched transport env
        { transport with
          owners := transport.owners.modify client fun owner => { owner with pending := none } }
        (env.sendReply request.token .done).2 :=
      .of_silent (env.sendReply_makes _ _) rfl (OwnerSet.modify_watches _ client fun _ => rfl)
    exact answered.trans (removeOwner_watched _ client _)

/-- When a running stream ceases the watches of all its owners are ended. -/
theorem reportPlaying_watched (transport : Transport S) (playing : Bool) (env : Environment B A) :
    Watched transport env (transport.reportPlaying playing env).1
      (transport.reportPlaying playing env).2 := by
  unfold reportPlaying
  split
  · exact .of_silent (moveTo_makes _ _ _) (announcement_unwatched _ _) rfl
  · exact .of_silent (moveTo_makes _ _ _) (announcement_unwatched _ _) rfl
  · exact transport.removeOwners_watched _ env
  · exact .of_eq rfl env

omit [MessageBus B] in
/-- The setting of a property concerns no watch. -/
theorem setProperty_watched (transport : Transport S) (client name : String)
    (value : PropertyValue) (env : Environment B A) :
    Watched transport env (transport.setProperty client name value env).2.1
      (transport.setProperty client name value env).2.2 := by
  unfold setProperty
  split
  · obtain ⟨calls, made, settings⟩ :=
      setEndpoint_makes transport.endpoint name value transport.session env
    exact .of_silent made (settings_unwatched settings) rfl
  · exact .of_eq rfl env

omit [ProfileSession S] in
/-- Nor do news of the delay. -/
theorem reportDelay_watched (transport : Transport S) (delay : UInt16) (env : Environment B A) :
    Watched transport env (transport.reportDelay delay env).2.1
      (transport.reportDelay delay env).2.2 := by
  unfold reportDelay
  split
  · exact .of_eq rfl env
  · obtain ⟨calls, made, settings⟩ := announce_makes ⟨"Delay", .uint16 delay⟩ (by simp)
      transport.path.value _ env
    exact .of_silent made (settings_unwatched settings) rfl

omit [ProfileSession S] in
/-- Nor do news of the volume. -/
theorem reportVolume_watched (transport : Transport S) (volume : UInt16) (env : Environment B A) :
    Watched transport env (transport.reportVolume volume env).2.1
      (transport.reportVolume volume env).2.2 := by
  unfold reportVolume
  split
  · exact .of_eq rfl env
  · split
    · exact .of_eq rfl env
    · obtain ⟨calls, made, settings⟩ := announce_makes ⟨"Volume", .uint16 volume⟩ (by simp)
        transport.path.value _ env
      exact .of_silent made (settings_unwatched settings) rfl

/-! ### The departure of a client -/

omit [ProfileSession S] [MessageBus B] in
/-- Without the records of a client the watches for its departure are gone, and no others. -/
theorem watches_of_others {before after : Transport S} {client : String}
    (others : after.othersOf client = before.othersOf client)
    (unowned : after.owners.contains client = false) :
    after.owners.watches = before.owners.watches.filter fun watch => watch.client != client := by
  have kept (owners : List Owner) :
      (owners.filterMap Owner.kept?).filter (fun watch => watch.client != client) =
        (owners.filter fun owner => !owner.isClient client).filterMap Owner.kept? := by
    induction owners with
    | nil => rfl
    | cons owner rest ih =>
      unfold Owner.kept? Owner.isClient at ih ⊢
      cases watch : owner.watch with
      | none => by_cases same : owner.client.value = client <;> simp [watch, same, ih]
      | some id => by_cases same : owner.client.value = client <;> simp [watch, same, ih]
  have all : (after.owners.owners.filter fun owner => !owner.isClient client) =
      after.owners.owners := by
    refine List.filter_eq_self.mpr fun owner member => ?_
    simpa [Owner.isClient] using OwnerSet.contains_eq_false_iff.mp unowned owner member
  have records := congrArg (fun seen => seen.2.filterMap Owner.kept?) others
  rw [OwnerSet.watches, OwnerSet.watches, kept, ← all]
  exact records

/-- The host does not end the watch of a client that left, because it has fired. -/
theorem clientDisconnected_silent (transport : Transport S) (client : String)
    (env : Environment B A) :
    ∃ calls, env.Makes calls (transport.clientDisconnected client env).2.2 ∧
      watchEvents calls = [] := by
  unfold clientDisconnected
  cases found : transport.owners.get? client with
  | none =>
    simp only [OwnerSet.contains, found]
    exact ⟨[], env.makes_nil, rfl⟩
  | some owner =>
    obtain ⟨front, back, stands⟩ := OwnerSet.stands_of_get? found
    have place : (transport.owners.modify client fun owner => { owner with watch := none }).Stands
        client front { owner with watch := none } back := stands.modify_eq _ ▸ stands.changed rfl
    obtain ⟨calls, departure, made⟩ := @removeOwner_departure S B A _ _
      { transport with
        owners := transport.owners.modify client fun owner => { owner with watch := none } }
      client front back _ place env
    simp only [OwnerSet.contains, found, Option.isSome_some, if_true]
    exact ⟨calls, made, departure.watchEvents_eq⟩

end Transport

end BluetoothHost
