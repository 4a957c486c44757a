import BluetoothHost.Proofs.Gatt.Serving
import BluetoothHost.Proofs.Host.Remote

/-!
# Reads by peers

A client is told that its service is registered, and from then on the attributes of the service are
served with the values that the client publishes. What a client does with its own service may end
this, and nothing else. To publish an object once more does end it: the value is kept, and the
attribute cannot be read any longer.
-/

namespace BluetoothHost

open Transport (PlainSession PlainBus)
open Catalogue (CountingServer countingEnvironment Leads)

variable {S B A : Type}

namespace Host

/-- What an action is to them. -/
def Action.catalogueAction? : Action S B A → Option (Catalogue.Action B A)
  | .process event => event.catalogueAction?
  | .write uuid value => some (.writePublished uuid value)
  | .act action => some action

/-- What a list of actions is to them. -/
def history (actions : List (Action S B A)) : List (Catalogue.Action B A) :=
  actions.filterMap Action.catalogueAction?

/-- The history of actions is that of their parts. -/
theorem history_append (earlier later : List (Action S B A)) :
    history (earlier ++ later) = history earlier ++ history later := List.filterMap_append

/-- It begins with that of the first action. -/
theorem history_cons (action : Action S B A) (actions : List (Action S B A)) :
    history (action :: actions) = history [action] ++ history actions :=
  history_append [action] actions

/-- Plain actions are genuine and spare the services of clients. -/
theorem plain_of_mem_history {actions : List (Action S B A)}
    (plain : ∀ action ∈ actions, action.IsPlain) :
    ∀ action ∈ history actions, action.IsGenuine ∧ action.SparesServices := by
  intro known member
  obtain ⟨action, among, same⟩ := List.mem_filterMap.mp member
  have here := plain action among
  cases action with
  | process event => exact here.catalogueAction? same
  | write uuid value =>
    cases same
    exact ⟨trivial, trivial⟩
  | act action =>
    cases same
    exact here

section Events

variable [ProfileSession S] [MessageBus B] [AttributeServer A] {host : Host S}

/-- To the database and the services of clients an action is what it is said to be. -/
theorem perform_leads (host : Host S) (action : Action S B A) (env : Environment B A) :
    Leads host.catalogue (history [action]) (host.perform action env).1.catalogue := by
  cases action with
  | process event =>
    show Leads _ _ (host.process event env).1.catalogue
    rcases process_action event host env with ⟨none, same⟩ | ⟨action, between, known, performed⟩
    · have nothing : history [(.process event : Action S B A)] = [] := List.filterMap_cons_none none
      rw [nothing, same]
      exact .refl host.catalogue
    · have one : history [(.process event : Action S B A)] = [action] :=
        List.filterMap_cons_some known
      rw [one, performed]
      exact .step between (.refl _)
  | write uuid value => exact .step env (.refl _)
  | act action => exact .step env (.refl _)

/-- So is a list of actions. -/
theorem run_leads (host : Host S) (actions : List (Action S B A)) (env : Environment B A) :
    Leads host.catalogue (history actions) (host.run actions env).1.catalogue := by
  induction actions generalizing host env with
  | nil => exact .refl host.catalogue
  | cons action actions ih =>
    rw [history_cons]
    exact (perform_leads host action env).trans (ih _ _)

/-- What is known of the database and the services of clients after these actions. -/
structure Known (actions : List (Action S B A)) (host : Host S) : Prop where
  /-- The services of clients are there with the attributes of their objects. -/
  attached : ∃ ledger, host.catalogue.Attached ledger
  /-- An object is one of a kind. -/
  arranged : host.catalogue.publications.Arranged
  /-- It has the value that was published last. -/
  current : Catalogue.Current (history actions) host.catalogue.publications

omit [ProfileSession S] [MessageBus B] [AttributeServer A] in
/-- In the beginning everything is known. -/
theorem known_create (options : HostOptions) :
    Known ([] : List (Action S B A)) (create options) where
  attached := ⟨[], Catalogue.attached_fresh options.firstHandle options.announces⟩
  arranged := ⟨nofun, .nil⟩
  current := nofun

omit [ProfileSession S] in
/-- It is known after further actions, if these are plain. -/
theorem Known.leads {earlier later : List (Action S B A)} {after : Host S}
    (known : Known earlier host) (plain : ∀ action ∈ later, action.IsPlain)
    (leads : Leads host.catalogue (history later) after.catalogue) :
    Known (earlier ++ later) after where
  attached := by
    obtain ⟨ledger, attached⟩ := known.attached
    exact (leads.continues attached (plain_of_mem_history plain)).attached
  arranged := leads.arranged known.arranged
  current := by
    rw [history_append]
    exact leads.current known.arranged known.current

/-- A client was told that its service is registered. Then the service is there and all its objects
are linked to attributes. As long as the client does not give up the service or the object, a read
of the attribute is answered with the value that the client published last, whatever else happens,
unless the object has been published once more: then it fails. -/
theorem run_reads {options : HostOptions} {earlier : List (Action S B A)}
    (plain : ∀ action ∈ earlier, action.IsPlain) {env now : Environment B A}
    (ran : (create options).run earlier env = (host, now)) {client : ClientName}
    {root : ObjectPath} {token : ReplyToken} {built : Host S} {ended : Environment B A}
    (readied : host.process (.clientReady client root) now = (built, ended))
    (answered : now.Answers token .done ended) :
    ∃ service ∈ built.publications.services,
      service.isRegistration client.value root.value = true ∧
      (∀ object ∈ service.objects, object.linked.isSome = true) ∧
      ∀ object ∈ service.objects, ∀ handle, object.linked = some handle →
      ∀ later : List (Action S B A), (∀ action ∈ later, action.IsPlain) →
        (∀ action ∈ history later,
          ¬action.Retires client.value root.value object.path.value) →
        ∀ (next : Environment B A) (entry : Attribute), entry.handle = handle →
        ∀ reading : Environment B A,
          let handler := (built.run later next).1.publications.handler
          ((∀ action ∈ history later, ¬action.Publishes client.value object.path.value) →
            ∃ value, Catalogue.latest? client.value object.path.value
                (history (earlier ++ .process (.clientReady client root) :: later)) =
                some value ∧
              handler.read entry reading = (.ok value, reading)) ∧
          ((∃ action ∈ history later, action.Publishes client.value object.path.value) →
            handler.read entry reading = (.error .doesNotExist, reading)) := by
  have known := (known_create options).leads plain (run_leads (create options) earlier env)
  rw [ran, List.nil_append] at known
  have ready := perform_leads host (.process (.clientReady client root)) now
  have performed : host.perform (.process (.clientReady client root)) now = (built, ended) :=
    readied
  rw [performed] at ready
  have ordinary : (.process (.clientReady client root) : Action S B A).IsPlain := trivial
  have told := known.leads (List.forall_mem_singleton.mpr ordinary) ready
  have finished : host.publications.clientReady host.database client.value root.value now =
      ((host.publications.clientReady host.database client.value root.value now).1,
        built.publications, built.database, ended) := by
    obtain ⟨rfl, rfl⟩ := Prod.mk.inj readied
    rfl
  obtain ⟨_, attached⟩ := known.attached
  obtain ⟨service, member, registered, done, linked⟩ :=
    Publications.clientReady_answered attached.recorded.orderly finished answered
  refine ⟨service, member, registered, linked, ?_⟩
  intro object own handle link later further keeps next entry same reading
  obtain ⟨_, still⟩ := told.attached
  have offers : built.publications.Offers client.value root.value object.path.value handle :=
    ⟨service, member, registered, done, object, own, beq_self_eq_true _, link⟩
  rw [history_append, history_cons, ← List.append_assoc, ← history_append]
  exact (run_leads built later next).read still (plain_of_mem_history further) told.arranged
    told.current offers keeps same reading

/-- The level of a battery is read as it was published last, and not at all after its object was
published once more. -/
theorem run_reads_of_level :
    let client : ClientName := ⟨":1.7", by decide⟩
    let root : ObjectPath := ⟨"/app", by decide⟩
    let path : ObjectPath := ⟨"/app/level", by decide⟩
    let battery : PublishedObject :=
      { path := root, interface := .service, uuid := some (.uuid16 0x180F) }
    let level : PublishedObject :=
      { path := path, interface := .characteristic, uuid := some (.uuid16 0x2A19)
        flags := .named .read, value := ⟨[90], by decide⟩ }
    let lower : AttributeValue := ⟨[80], by decide⟩
    let earlier : List (Action PlainSession PlainBus CountingServer) :=
      [.process (.methodCall client ⟨1⟩ (.registerService root)),
        .process (.objectPublished client battery), .process (.objectPublished client level)]
    let begun := (create {}).run earlier countingEnvironment
    let built := begun.1.process (.clientReady client root) begun.2
    let changed := (built.1.run [.process (.valueChanged client path lower)] built.2).1
    let repeated := (built.1.run [.process (.objectPublished client level)] built.2).1
    ∀ (entry : Attribute), entry.handle = 3 →
      ∀ reading : Environment PlainBus CountingServer,
        changed.publications.handler.read entry reading = (.ok lower, reading) ∧
        repeated.publications.handler.read entry reading = (.error .doesNotExist, reading) := by
  intro client root path battery level lower earlier begun built changed repeated entry same reading
  have plain : ∀ action ∈ earlier, action.IsPlain := by
    simp [earlier, Action.IsPlain, Event.IsGenuine, battery, level]
  have calls : built.2.journal = begun.2.journal ++
      .reply ⟨1⟩ .done true :: (begun.2.callsUntil built.2).tail := by decide +kernel
  have silent : repliesTo ⟨1⟩ (begun.2.callsUntil built.2).tail = [] := by decide +kernel
  have answered : begun.2.Answers ⟨1⟩ .done built.2 := ⟨[], true, _, calls, rfl, silent⟩
  have objects : built.1.publications.services.map (fun service =>
      service.objects.map fun object => (object.path.value, object.linked)) =
      [[("/app", some 1), ("/app/level", some 3)]] := by
    decide +kernel
  obtain ⟨service, member, -, -, reads⟩ :=
    run_reads plain (Prod.eta begun).symm (Prod.eta built).symm answered
  clear_value built begun
  have known : service.objects.map (fun object => (object.path.value, object.linked)) =
      [("/app", some 1), ("/app/level", some 3)] := by
    have listed := List.mem_map_of_mem (f := fun service : PublishedService =>
      service.objects.map fun object => (object.path.value, object.linked)) member
    rwa [objects, List.mem_singleton] at listed
  obtain ⟨object, own, facts⟩ : ∃ object ∈ service.objects,
      (object.path.value, object.linked) = ("/app/level", some 3) := by
    refine List.mem_map.mp ?_
    rw [known]
    exact List.mem_cons_of_mem _ List.mem_cons_self
  obtain ⟨named, linked⟩ := Prod.mk.inj facts
  have one := reads object own 3 linked
  rw [named] at one
  constructor
  · obtain ⟨value, latest, answer⟩ := (one [.process (.valueChanged client path lower)]
      (by simp [Action.IsPlain, Event.IsGenuine]) (by
        simp [history, Action.catalogueAction?, Event.catalogueAction?, Catalogue.Action.Retires])
      built.2 entry same reading).1 (by
        simp [history, Action.catalogueAction?, Event.catalogueAction?,
          Catalogue.Action.Publishes])
    obtain rfl : lower = value := Option.some.inj latest
    exact answer
  · refine (one [.process (.objectPublished client level)]
      (by simp [Action.IsPlain, Event.IsGenuine, level]) (by
        simp [history, Action.catalogueAction?, Event.catalogueAction?, Catalogue.Action.Retires])
      built.2 entry same reading).2 ⟨_, List.mem_singleton_self _, rfl, rfl⟩

end Events

end Host

end BluetoothHost
