import BluetoothHost.Proofs.Gatt.Registrations
import Mathlib.Data.List.Basic

/-!
# A service that waits for its client

A client enrols a service under a path, with the registration that is still to be answered. What
else becomes known of the service, its objects and their values, leaves its enrolment alone. While
the service is enrolled no other one can be under the same path, so that an operation on that path
by that client is an operation on that service.
-/

namespace BluetoothHost

/-- Whether a service has this path or waits for an answer under this token. -/
def Enrolment.concerns (token : ReplyToken) (path : ObjectPath) (enrolment : Enrolment) : Bool :=
  enrolment.path == path || enrolment.registration == some token

namespace Publications

variable {B A : Type} {token other : ReplyToken} {owner : ClientName} {place : ObjectPath}
  {publications after : Publications} {client path : String}

/-- The enrolments of all services. -/
def enrolments (publications : Publications) : List Enrolment :=
  publications.services.map PublishedService.enrolment

/-- How many services wait to be registered under a token. -/
def awaiting (token : ReplyToken) (publications : Publications) : Nat :=
  publications.services.countP fun service => service.registration == some token

/-- One service waits for an answer under this token. It is that of this client under this path,
and no other is under the path. -/
def Awaits (token : ReplyToken) (owner : ClientName) (place : ObjectPath)
    (publications : Publications) : Prop :=
  publications.enrolments.filter (Enrolment.concerns token place) = [⟨owner, place, some token⟩]

/-- A token with which nothing is registered waits nowhere. -/
theorem awaiting_eq_zero (unregistered : publications.Unregistered token) :
    publications.awaiting token = 0 := by
  simpa [awaiting, List.countP_eq_zero, Unregistered] using unregistered

/-- A service that waits is counted once. -/
theorem Awaits.awaiting_eq_one (awaits : publications.Awaits token owner place) :
    publications.awaiting token = 1 := by
  have counted : publications.awaiting token = (publications.enrolments.filter
      (Enrolment.concerns token place)).countP fun enrolment =>
        enrolment.registration == some token := by
    rw [List.countP_filter, awaiting, enrolments, List.countP_map]
    refine List.countP_congr fun service _ => ?_
    simpa [PublishedService.enrolment, Enrolment.concerns] using Or.inr
  rw [counted, awaits]
  simp

/-- Whatever leaves the enrolments alone leaves the service waiting. -/
theorem Awaits.of_enrolments (awaits : publications.Awaits token owner place)
    (same : after.enrolments = publications.enrolments) : after.Awaits token owner place := by
  unfold Awaits
  rw [same]
  exact awaits

/-- A service stands among the others. It is the one that waits, and no other waits under the
token, or it may be replaced by what has neither the path nor the token. -/
theorem Awaits.split (awaits : publications.Awaits token owner place)
    {front back : List PublishedService} {service : PublishedService}
    (services_eq : publications.services = front ++ service :: back) :
    (service.enrolment = ⟨owner, place, some token⟩ ∧ Unregistered token ⟨front ++ back⟩) ∨
      (service.path ≠ place ∧ service.registration ≠ some token ∧
        ∀ replacement : List PublishedService,
          (∀ new ∈ replacement, new.path ≠ place ∧ new.registration ≠ some token) →
            Awaits token owner place ⟨front ++ (replacement ++ back)⟩) := by
  simp only [Awaits, enrolments, services_eq, List.map_append, List.map_cons, List.filter_append,
    List.filter_cons] at awaits ⊢
  by_cases concerned : service.enrolment.concerns token place = true
  · left
    rw [if_pos concerned, List.append_eq_singleton_iff] at awaits
    obtain ⟨before, single⟩ | ⟨-, impossible⟩ := awaits
    · obtain ⟨same, behind⟩ := List.cons.inj single
      refine ⟨same, fun other member registered => ?_⟩
      have found : other.enrolment.concerns token place = true := by
        simp [Enrolment.concerns, PublishedService.enrolment, registered]
      rw [List.filter_eq_nil_iff] at before behind
      rcases List.mem_append.mp member with first | last
      · exact before _ (List.mem_map_of_mem first) found
      · exact behind _ (List.mem_map_of_mem last) found
    · cases impossible
  · right
    have apart : service.path ≠ place ∧ service.registration ≠ some token := by
      simpa [Enrolment.concerns, PublishedService.enrolment] using concerned
    refine ⟨apart.1, apart.2, fun replacement others => ?_⟩
    have none : (replacement.map PublishedService.enrolment).filter
        (Enrolment.concerns token place) = [] := by
      rw [List.filter_eq_nil_iff]
      intro enrolment member
      obtain ⟨new, present, rfl⟩ := List.mem_map.mp member
      simpa [Enrolment.concerns, PublishedService.enrolment] using others new present
    rw [if_neg concerned] at awaits
    rw [none, List.nil_append]
    exact awaits

/-- The service that waits is found under its path. -/
theorem Awaits.mem (awaits : publications.Awaits token owner place) :
    ∃ service ∈ publications.services, service.enrolment = ⟨owner, place, some token⟩ := by
  have member : (⟨owner, place, some token⟩ : Enrolment) ∈ publications.enrolments.filter
      (Enrolment.concerns token place) := by
    rw [awaits]
    exact List.mem_singleton_self _
  simpa [enrolments] using (List.mem_filter.mp member).1

/-- From one moment to another the service goes on waiting and its registration is not answered, or
it is answered once and no service waits under the token any more. -/
def Proceeds (token : ReplyToken) (owner : ClientName) (place : ObjectPath) (after : Publications)
    (first last : Environment B A) : Prop :=
  after.Awaits token owner place ∧ first.Silent token last ∨
    after.Unregistered token ∧ first.AnswersOnce token last

/-- When the registration of a service is answered and the service is replaced by what keeps its
path and no registration, the service that waits was that one, or it goes on waiting. -/
theorem Awaits.answered (awaits : publications.Awaits token owner place)
    {front back : List PublishedService} {service : PublishedService}
    (services_eq : publications.services = front ++ service :: back)
    (registered : service.registration = some other) (replacement : List PublishedService)
    (cleared : ∀ new ∈ replacement, new.path = service.path ∧ new.registration = none)
    (first last : Environment B A) (own : other = token → first.AnswersOnce token last)
    (foreign : other ≠ token → first.Silent token last) :
    Proceeds token owner place ⟨front ++ (replacement ++ back)⟩ first last := by
  rcases awaits.split services_eq with ⟨same, unregistered⟩ | ⟨elsewhere, different, replaced⟩
  · have named : other = token :=
      Option.some.inj (registered.symm.trans (congrArg Enrolment.registration same))
    refine .inr ⟨fun member present => ?_, own named⟩
    have among : member ∈ replacement ∨ member ∈ front ++ back := by
      simp only [List.mem_append] at present ⊢
      tauto
    rcases among with new | before
    · simp [(cleared member new).2]
    · exact unregistered member before
  · rw [registered] at different
    refine .inl ⟨replaced replacement fun new present => ?_, foreign (by simpa using different)⟩
    simp [cleared new present, elsewhere]

/-! ### What happens to published services -/

/-- A registration under a new token is refused, or one service waits for it. -/
theorem register_cases (unregistered : publications.Unregistered token) (owner : ClientName)
    (place : ObjectPath) :
    (∃ cause, publications.register owner.value place.value token = (.error cause, publications)) ∨
      (publications.register owner.value place.value token).1 = .ok () ∧
        (publications.register owner.value place.value token).2.Awaits token owner place := by
  unfold Publications.register
  split
  · exact .inl ⟨_, rfl⟩
  · rename_i absent
    split
    · rename_i name root called named
      obtain rfl := Text.eq_of_value (Text.value_of_ofString? called)
      obtain rfl := Text.eq_of_value (Text.value_of_ofString? named)
      split
      · refine .inr ⟨rfl, ?_⟩
        have others : publications.enrolments.filter (Enrolment.concerns token root) = [] := by
          rw [List.filter_eq_nil_iff]
          intro enrolment member
          obtain ⟨service, present, rfl⟩ := List.mem_map.mp member
          have elsewhere : service.path ≠ root := by
            rintro rfl
            exact absent (List.find?_isSome.mpr ⟨service, present, beq_self_eq_true _⟩)
          simpa [Enrolment.concerns, PublishedService.enrolment, elsewhere] using
            unregistered service present
        have own : Enrolment.concerns token root ⟨name, root, some token⟩ = true := by
          simp [Enrolment.concerns]
        rw [Awaits, enrolments, List.map_append, List.filter_append]
        exact congrArg₂ (· ++ ·) others (List.filter_cons_of_pos own)
      · exact .inl ⟨_, rfl⟩
    · exact .inl ⟨_, rfl⟩

/-- No other service can be registered under the path. -/
theorem Awaits.register (awaits : publications.Awaits token owner place)
    (different : other ≠ token) :
    (publications.register client path other).2.Awaits token owner place := by
  unfold Publications.register
  split
  · exact awaits
  · rename_i absent
    split
    · rename_i name root _ named
      split
      · have apart : root ≠ place := by
          rintro rfl
          obtain ⟨service, member, same⟩ := awaits.mem
          have under : service.path.value = path := by
            rw [← Text.value_of_ofString? named]
            exact congrArg (Text.value ∘ Enrolment.path) same
          exact absent (List.find?_isSome.mpr ⟨service, member, beq_iff_eq.mpr under⟩)
        have foreign : Enrolment.concerns token place ⟨name, root, some other⟩ = false := by
          simp [Enrolment.concerns, apart, different]
        rw [Awaits, enrolments, List.map_append, List.filter_append, List.map_singleton,
          PublishedService.enrolment, List.filter_cons_of_neg (by simp [foreign]), List.filter_nil,
          List.append_nil]
        exact awaits
      · exact awaits
    · exact awaits

/-- Published objects leave the enrolments alone. -/
theorem publish_enrolments (publications : Publications) (client : String)
    (object : PublishedObject) :
    (publications.publish client object).2.enrolments = publications.enrolments :=
  publish_map (fun _ _ => rfl) publications client object

/-- Withdrawing an object leaves all registrations waiting. -/
theorem withdraw_enrolments (publications : Publications) (client path : String) :
    (publications.withdraw client path).2.enrolments = publications.enrolments :=
  withdraw_map (fun _ _ => rfl) publications client path

/-- A client gives up no service of another client, and none under another path. -/
theorem isRegistration_iff {service : PublishedService} :
    service.isRegistration client path = true ↔
      service.path.value = path ∧ service.owner.value = client := by
  simp [PublishedService.isRegistration, PublishedService.hasPath, PublishedService.isOwnedBy]

section Server

variable [AttributeServer A]

/-- So does a new value. -/
theorem valueChanged_enrolments (publications : Publications) (database : Database)
    (client path : String) (value : List UInt8) (env : Environment B A) :
    (publications.valueChanged database client path value env).2.1.enrolments =
      publications.enrolments :=
  valueChanged_map (fun _ _ => rfl) publications database client path value env

/-- When its client gives up the service that waits, nobody waits under the token any more. -/
theorem Awaits.unregister_own (awaits : publications.Awaits token owner place)
    (database : Database) (env : Environment B A) :
    (publications.unregister database owner.value place.value env).2.1.Unregistered token := by
  unfold unregister
  split
  · rename_i missing
    obtain ⟨service, member, same⟩ := awaits.mem
    have isOwn : service.isRegistration owner.value place.value = true := by
      rw [isRegistration_iff]
      exact ⟨congrArg (Text.value ∘ Enrolment.path) same,
        congrArg (Text.value ∘ Enrolment.owner) same⟩
    exact absurd isOwn (List.find?_eq_none.mp missing service member)
  · rename_i service found
    obtain ⟨front, back, services_eq, -, erased⟩ := split_of_find? found
    have named := isRegistration_iff.mp (List.find?_some found)
    rw [erased]
    rcases awaits.split services_eq with ⟨-, unregistered⟩ | ⟨elsewhere, -, -⟩
    · exact unregistered
    · exact absurd (Text.eq_of_value named.1) elsewhere

/-- The service goes on waiting when another client or another path is given up. -/
theorem Awaits.unregister_other (awaits : publications.Awaits token owner place)
    (foreign : ¬(client = owner.value ∧ path = place.value)) (database : Database)
    (env : Environment B A) :
    (publications.unregister database client path env).2.1.Awaits token owner place := by
  unfold unregister
  split
  · exact awaits
  · rename_i service found
    obtain ⟨front, back, services_eq, -, erased⟩ := split_of_find? found
    have named := isRegistration_iff.mp (List.find?_some found)
    rw [erased]
    rcases awaits.split services_eq with ⟨same, -⟩ | ⟨-, -, replaced⟩
    · have here := congrArg (Text.value ∘ Enrolment.path) same
      have own := congrArg (Text.value ∘ Enrolment.owner) same
      exact absurd ⟨named.2.symm.trans own, named.1.symm.trans here⟩ foreign
    · exact replaced [] (by simp)

/-- When its client leaves the bus, nobody waits under the token any more. -/
theorem Awaits.disconnect_own (awaits : publications.Awaits token owner place)
    (database : Database) (env : Environment B A) :
    (publications.clientDisconnected database owner.value env).2.1.Unregistered token := by
  intro service member registered
  rw [clientDisconnected_services, List.mem_filter] at member
  have concerned : service.enrolment ∈ publications.enrolments.filter
      (Enrolment.concerns token place) :=
    List.mem_filter.mpr ⟨List.mem_map_of_mem member.1, by
      simp [Enrolment.concerns, PublishedService.enrolment, registered]⟩
  rw [awaits, List.mem_singleton] at concerned
  have own : service.owner = owner := congrArg Enrolment.owner concerned
  simp [PublishedService.isOwnedBy, own] at member

/-- The service goes on waiting when another client leaves the bus. -/
theorem Awaits.disconnect_other (awaits : publications.Awaits token owner place)
    (foreign : client ≠ owner.value) (database : Database) (env : Environment B A) :
    (publications.clientDisconnected database client env).2.1.Awaits token owner place := by
  have kept : (publications.clientDisconnected database client env).2.1.enrolments =
      publications.enrolments.filter fun enrolment => !(enrolment.owner.value == client) := by
    rw [enrolments, clientDisconnected_services, enrolments, List.filter_map]
    rfl
  have stays : (!(owner.value == client)) = true := by simpa using foreign.symm
  rw [Awaits, kept, List.filter_comm, awaits]
  exact List.filter_cons_of_pos stays

variable [MessageBus B]

/-- When a client is ready, the service that waits is answered once, if it is that of the client
under this path; otherwise it goes on waiting. -/
theorem Awaits.clientReady (awaits : publications.Awaits token owner place) (database : Database)
    (env : Environment B A) :
    Proceeds token owner place (publications.clientReady database client path env).2.1 env
      (publications.clientReady database client path env).2.2.2 := by
  have readied := publications.clientReady_readied database client path env
  generalize publications.clientReady database client path env = result at readied ⊢
  cases readied with
  | ignored => exact .inl ⟨awaits, .refl env⟩
  | @dropped front back service made other begun cause found waits services_eq built =>
    have removed : env.Silent token (tearDown made begun env).2 := tearDown_silent ..
    exact awaits.answered services_eq waits [] (by simp) env _
      (fun own => own ▸ removed.answersOnce (Environment.sendReply_answersOnce _ _ _))
      (fun different => removed.trans (Environment.sendReply_silent _ different _))
  | @built front back service made other begun found waits services_eq built enrolled =>
    have cleared : made.registration = none := congrArg Enrolment.registration enrolled
    have there : made.path = service.path := congrArg Enrolment.path enrolled
    exact awaits.answered services_eq waits [made] (by simp [cleared, there]) env _
      (fun own => own ▸ (env.sendReply_answersOnce _ _).silent (begun.materialize_silent _))
      (fun different => (env.sendReply_silent different _).trans (begun.materialize_silent _))

end Server

end Publications

end BluetoothHost
