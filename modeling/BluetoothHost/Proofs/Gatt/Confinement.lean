import BluetoothHost.Proofs.Gatt.Indications
import BluetoothHost.Proofs.Gatt.Removal

/-!
# Removals are confined

A removal looks for its end by types alone, but whatever it takes away was created for the service
that is removed, since the attributes of a service begin with a declaration and stand together. All
others stay as they are, in their order, and so do the counter and the chain of another service. The
server is told once, and only of a service that has a range.
-/

namespace BluetoothHost

variable {B A : Type} {service : Handle} {ledger : List Creation}

namespace Database

variable {database before after : Database}

/-- The attributes that were created for other services. -/
def others (ledger : List Creation) (service : Handle) (database : Database) : List Attribute :=
  database.attributes.filter fun entry => (⟨service, entry.handle⟩ : Creation) ∉ ledger

/-- From one moment to another attributes of a service went, and nothing else happened to the
database. -/
structure Confined (ledger : List Creation) (service : Handle) (before after : Database) :
    Prop where
  /-- What went stood together, and it was created for the service and for no other one. -/
  gone : ∃ front run back, before.attributes = front ++ run ++ back ∧
    after.attributes = front ++ back ∧
    ∀ entry ∈ run, ∀ owner, ⟨owner, entry.handle⟩ ∈ ledger ↔ owner = service
  /-- The attributes of other services are all there as they were, in their order. -/
  others : after.others ledger service = before.others ledger service
  /-- The chain is dropped if it is that of the service, and stays if it is that of another. -/
  chain : after.chain =
    if before.chain.head?.map Node.handle = some service then [] else before.chain
  /-- The counter does not move. -/
  counter : after.nextHandle = before.nextHandle
  /-- Peers are told about changes as before. -/
  announces : after.announces = before.announces

section Stretch

variable {front run rest : List Attribute} {declaration : Attribute}

/-- A stretch that begins with the declaration of a service was created for that service alone. -/
theorem Recorded.created_iff (recorded : database.Recorded ledger)
    (stretch : Stretch database.attributes front declaration run rest)
    (own : ⟨declaration.handle, declaration.handle⟩ ∈ ledger) {entry : Attribute}
    (member : entry ∈ declaration :: run) (owner : Handle) :
    ⟨owner, entry.handle⟩ ∈ ledger ↔ owner = declaration.handle := by
  refine ⟨recorded.owner_eq stretch own member, ?_⟩
  rintro rfl
  have present : entry ∈ database.attributes := by
    rw [stretch.attributes_eq]
    exact List.mem_append_right front (List.mem_append_left rest member)
  obtain ⟨owner, created⟩ := recorded.known entry present
  rwa [recorded.owner_eq stretch own member created] at created

/-- To take it away concerns no other service. -/
theorem Recorded.confined (recorded : database.Recorded ledger)
    (stretch : Stretch database.attributes front declaration run rest)
    (own : ⟨declaration.handle, declaration.handle⟩ ∈ ledger) :
    Confined ledger declaration.handle database { database with
      attributes := front ++ rest
      chain := if database.chain.head?.any fun head => head.handle == declaration.handle then []
        else database.chain } where
  gone := by
    refine ⟨front, declaration :: run, rest, ?_, rfl, fun entry member owner =>
      recorded.created_iff stretch own member owner⟩
    rw [stretch.attributes_eq, List.append_assoc, List.cons_append]
  others := by
    have none : (declaration :: run).filter
        (fun entry => (⟨declaration.handle, entry.handle⟩ : Creation) ∉ ledger) = [] := by
      refine List.filter_eq_nil_iff.mpr fun entry member apart => ?_
      exact of_decide_eq_true apart ((recorded.created_iff stretch own member _).mpr rfl)
    have whole : database.attributes = front ++ ((declaration :: run) ++ rest) :=
      stretch.attributes_eq
    simp only [Database.others]
    rw [whole, List.filter_append, List.filter_append, List.filter_append, none, List.nil_append]
  chain := by
    cases database.chain with
    | nil => simp
    | cons head rest => simp
  counter := rfl
  announces := rfl

end Stretch

variable [AttributeServer A]

/-- To drop the range of a service is one call, if it has one, and after that peers are told. -/
theorem dropRange_makes (database : Database) (range : Option HandleRange) (env : Environment B A) :
    ∃ told, env.Makes (range.toList.map Call.removeRange ++ told) (database.dropRange range env) ∧
      ∀ call ∈ told, call.indication?.isSome := by
  cases range with
  | none => exact ⟨[], env.makes_nil, by simp⟩
  | some range =>
    refine ⟨_, (env.removeRange_makes range).append (database.announce_makes range _), ?_⟩
    unfold announcements
    split
    · intro call member
      obtain ⟨peer, -, rfl⟩ := List.mem_map.mp member
      rfl
    · simp

/-- Where the declaration of a service is there, the service is removed, and the removal is
confined to it. -/
theorem removeService_confined (recorded : database.Recorded ledger)
    (own : ⟨service, service⟩ ∈ ledger) (holds : database.Holds service) (env : Environment B A) :
    (database.removeService service env).1 = .ok () ∧
      Confined ledger service database (database.removeService service env).2.1 ∧
      ∃ declaration ∈ database.attributes, declaration.handle = service ∧
        ∃ told, env.Makes (declaration.range.toList.map Call.removeRange ++ told)
            (database.removeService service env).2.2 ∧
          ∀ call ∈ told, call.indication?.isSome := by
  have removed := (removeService_complete recorded own holds env).1
  refine ⟨removed, ?_⟩
  rcases database.removeService_eq service env with ⟨cause, refused⟩ |
    ⟨front, declaration, run, rest, stretch, rfl, gone⟩
  · rw [refused] at removed
    cases removed
  · rw [gone]
    have present : declaration ∈ database.attributes := by simp [stretch.attributes_eq]
    exact ⟨recorded.confined stretch own, declaration, present, rfl,
      database.dropRange_makes declaration.range env⟩

end Database

namespace Catalogue

variable [MessageBus B] [AttributeServer A] {first : Handle} {announces : Bool}
  {actions : List (Action B A)} {env later : Environment B A} {catalogue : Catalogue}

/-- Whatever happened before, a service that was begun and whose declaration is there can be
removed, and the removal is confined to it: only attributes that were created for it go, all others
stay as they are and in their order, the counter does not move, and the chain is dropped only if it
is that of the service. The only call besides indications is one that drops the range of the
service, and it is made exactly if the service has one. -/
theorem run_confined (ran : (fresh first announces).run actions env = (catalogue, later))
    (listed : (fresh first announces).ledger actions env = ledger)
    (begun : ⟨service, service⟩ ∈ ledger) (holds : catalogue.database.Holds service)
    (now : Environment B A) :
    (catalogue.database.removeService service now).1 = .ok () ∧
      Database.Confined ledger service catalogue.database
        (catalogue.database.removeService service now).2.1 ∧
      ∃ declaration ∈ catalogue.database.attributes, declaration.handle = service ∧
        ∃ told, now.Makes (declaration.range.toList.map Call.removeRange ++ told)
            (catalogue.database.removeService service now).2.2 ∧
          ∀ call ∈ told, call.indication?.isSome := by
  obtain ⟨recorded, -⟩ := run_fresh_recorded ran
  rw [listed] at recorded
  exact Database.removeService_confined recorded begun holds now

/-- A registered service has a characteristic that is disguised as a declaration, and another
service is under construction. When the first is removed its disguised attribute stays, and so does
all of the second. -/
theorem run_confined_of_disguised :
    let actions : List (Action Transport.PlainBus CountingServer) :=
      [.addService (.uuid16 0x180F), .addCharacteristic (.uuid16 0x2800) .read .both, .materialize,
        .addService (.uuid16 0x1815), .addCharacteristic (.uuid16 0x2A56) .read .both]
    let catalogue := ((fresh 1 true).run actions countingEnvironment).1
    let ledger := (fresh 1 true).ledger actions countingEnvironment
    let removed := catalogue.database.removeService 1 countingEnvironment
    removed.1 = .ok () ∧ removed.2.1.attributes.map Attribute.handle = [3, 4, 5, 6] ∧
      removed.2.1.chain = [⟨4, .service⟩, ⟨5, .declaration⟩, ⟨6, .value⟩] ∧
      removed.2.2.journal = [.removeRange ⟨1, 3⟩,
        .indicate CountingServer.peer.address (HandleRange.changedMessage ⟨1, 3⟩)] ∧
      Database.Confined ledger 1 catalogue.database removed.2.1 := by
  intro actions catalogue ledger removed
  have ran : (fresh 1 true).run actions countingEnvironment =
      (catalogue, ((fresh 1 true).run actions countingEnvironment).2) := (Prod.eta _).symm
  have begun : (⟨1, 1⟩ : Creation) ∈ ledger := by decide +kernel
  have holds : catalogue.database.Holds 1 := by decide +kernel
  obtain ⟨done, confined, -⟩ := run_confined ran rfl begun holds countingEnvironment
  exact ⟨done, by decide +kernel, by decide +kernel, by decide +kernel, confined⟩

end Catalogue

end BluetoothHost
