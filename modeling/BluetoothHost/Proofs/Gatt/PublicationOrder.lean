import BluetoothHost.Proofs.Gatt.Publishing
import Mathlib.Data.List.Sort

/-!
# The order of publication

The bus delivers the objects of a client one by one, in any order. Each goes to the first service
that it lies under, in which no other object has a say. There it stands in the order of the paths,
and it needs a place of its own unless an object with its path is there already. So objects with
different paths do not get in each other's way: whatever is published of them first, they come to
stand in the same places, or one of them is refused.
-/

namespace BluetoothHost

namespace PublishedService

variable {service middle made : PublishedService} {object first second : PublishedObject}

/-! ### One service -/

/-- An object has its path in common with one of the service. -/
theorem any_hasPath_iff : service.objects.any (PublishedObject.hasPath object.path.value) = true ↔
    object.path ∈ service.layout.paths := by
  rw [List.any_eq_true, layout, List.mem_map]
  refine exists_congr fun other => and_congr_right fun _ => ?_
  rw [PublishedObject.hasPath, beq_iff_eq]
  exact ⟨Text.eq_of_value, congrArg Text.value⟩

/-- An object is taken if one with its path is there, or else if there is room for one more. -/
theorem publish?_isSome_iff : (service.publish? object).isSome = true ↔
    object.path ∈ service.layout.paths ∨ service.objects.length < Limits.publishedObjects := by
  rw [← any_hasPath_iff, publish?]
  by_cases known : service.objects.any (PublishedObject.hasPath object.path.value) = true
  · simp [known]
  · by_cases room : service.objects.length < Limits.publishedObjects
    · simp [known, room]
    · simp [known, room]

/-- Only an object with a new path takes up room. -/
theorem length_publish? (published : service.publish? object = some made) :
    made.objects.length =
      service.objects.length + if object.path ∈ service.layout.paths then 0 else 1 := by
  have known := @any_hasPath_iff service object
  unfold publish? at published
  split at published
  · rename_i present
    obtain rfl := Option.some.inj published
    rw [if_pos (known.mp present), Nat.add_zero, length_updateFirst]
  · rename_i absent
    split at published
    · obtain rfl := Option.some.inj published
      rw [if_neg (mt known.mpr absent)]
      exact (place_perm object service.objects).length_eq
    · cases published

/-- The paths are those of before and that of the object. -/
theorem mem_paths_publish? (tidy : service.layout.Tidy)
    (published : service.publish? object = some made) {path : ObjectPath} :
    path ∈ made.layout.paths ↔ path = object.path ∨ path ∈ service.layout.paths := by
  have members := fun other => @mem_publish? service made object other tidy.nodup published
  simp only [layout, List.mem_map, members]
  constructor
  · rintro ⟨other, rfl | ⟨there, -⟩, rfl⟩
    · exact .inl rfl
    · exact .inr ⟨other, there, rfl⟩
  · rintro (rfl | ⟨other, there, rfl⟩)
    · exact ⟨object, .inl rfl, rfl⟩
    · by_cases same : other.path = object.path
      · exact ⟨object, .inl rfl, same.symm⟩
      · exact ⟨other, .inr ⟨there, same⟩, rfl⟩

/-- Objects that stand in the order of their paths are told by what is among them. -/
theorem objects_ext {other : PublishedService} (tidy : service.layout.Tidy)
    (likewise : other.layout.Tidy) (same : ∀ object, object ∈ service.objects ↔
      object ∈ other.objects) : service.objects = other.objects := by
  let Before (lower higher : PublishedObject) : Prop := lower.path.value < higher.path.value
  have irreflexive : Std.Irrefl Before := ⟨fun object => String.lt_irrefl object.path.value⟩
  have antisymmetric : Std.Antisymm Before :=
    ⟨fun lower higher before after => absurd (String.lt_trans before after) (String.lt_irrefl _)⟩
  have here : service.objects.Pairwise Before := by
    simpa only [layout, List.pairwise_map] using tidy.ascending
  have there : other.objects.Pairwise Before := by
    simpa only [layout, List.pairwise_map] using likewise.ascending
  exact here.eq_of_mem_iff there same

/-- Two objects with different paths may be published the other way round. -/
theorem publish?_comm (tidy : service.layout.Tidy)
    (lies : first.isUnder service.path.value = true)
    (also : second.isUnder service.path.value = true) (apart : first.path ≠ second.path)
    (taken : service.publish? first = some middle)
    (further : middle.publish? second = some made) :
    ∃ other, service.publish? second = some other ∧ other.publish? first = some made := by
  have room := length_publish? taken
  have paths {path : ObjectPath} := @mem_paths_publish? _ _ _ tidy taken path
  have firstFits := publish?_isSome_iff.mp (Option.isSome_of_eq_some taken)
  have secondFits := publish?_isSome_iff.mp (Option.isSome_of_eq_some further)
  rw [paths] at secondFits
  -- What the first has left is enough for the second, which therefore fits without the first too.
  have fits : second.path ∈ service.layout.paths ∨
      service.objects.length < Limits.publishedObjects := by
    rcases secondFits with (same | known) | few
    · exact absurd same.symm apart
    · exact .inl known
    · exact .inr (by omega)
  obtain ⟨other, placed⟩ := Option.isSome_iff_exists.mp (publish?_isSome_iff.mpr fits)
  have otherRoom := length_publish? placed
  have otherPaths {path : ObjectPath} := @mem_paths_publish? _ _ _ tidy placed path
  have refits : first.path ∈ other.layout.paths ∨
      other.objects.length < Limits.publishedObjects := by
    rw [otherPaths]
    by_cases known : first.path ∈ service.layout.paths
    · exact .inl (.inr known)
    · rw [if_neg known] at room
      by_cases present : second.path ∈ service.layout.paths
      · rw [if_pos present] at otherRoom
        have spare := firstFits.resolve_left known
        exact .inr (by omega)
      · rw [if_neg present] at otherRoom
        have spare := (secondFits.resolve_left (not_or.mpr ⟨apart.symm, present⟩))
        exact .inr (by omega)
  obtain ⟨last, done⟩ := Option.isSome_iff_exists.mp (publish?_isSome_iff.mpr refits)
  have tidyMiddle := (publish?_layout taken tidy lies).1
  have tidyOther := (publish?_layout placed tidy also).1
  have middleEq := publish?_eq taken
  have otherEq := publish?_eq placed
  have tidyMade := (publish?_layout further tidyMiddle (by rw [middleEq]; exact also)).1
  have tidyLast := (publish?_layout done tidyOther (by rw [otherEq]; exact lies)).1
  have objects : last.objects = made.objects := by
    refine objects_ext tidyLast tidyMade fun object => ?_
    rw [mem_publish? tidyOther.nodup done, mem_publish? tidy.nodup placed,
      mem_publish? tidyMiddle.nodup further, mem_publish? tidy.nodup taken]
    grind
  have same : last = made := by
    rw [publish?_eq done, publish?_eq further, otherEq, middleEq, objects]
  exact ⟨other, placed, same ▸ done⟩

/-- Whether a service is the client's and has the object below it. -/
def takes (client : String) (object : PublishedObject) (service : PublishedService) : Bool :=
  service.isOwnedBy client && object.isUnder service.path.value

/-- What was published under a service does not decide about it. -/
theorem takes_publish? (published : service.publish? first = some made) (client : String)
    (object : PublishedObject) : made.takes client object = service.takes client object := by
  rw [publish?_eq published]
  rfl

end PublishedService

namespace Publications

open PublishedService (takes takes_publish? publish?_comm)

variable {publications middle after : Publications} {client : String}
  {first second object : PublishedObject}

/-! ### All services of a client -/

/-- Services after an object was published under the first of them that takes it. -/
def publishAmong (client : String) (object : PublishedObject) :
    List PublishedService → Option (List PublishedService)
  | [] => none
  | service :: rest =>
    if service.takes client object then (service.publish? object).map fun made => made :: rest
    else (publishAmong client object rest).map fun others => service :: others

/-- The first service that takes an object is asked for a place, and no other. -/
theorem publishAmong_eq (client : String) (object : PublishedObject)
    (services : List PublishedService) :
    publishAmong client object services =
      (services.find? (takes client object)).bind fun service =>
        (service.publish? object).map fun made =>
          updateFirst (takes client object) (fun _ => made) services := by
  induction services with
  | nil => rfl
  | cons service rest ih =>
    unfold publishAmong
    by_cases here : service.takes client object = true
    · rw [if_pos here, List.find?_cons_of_pos here, Option.bind_some]
      simp only [updateFirst, here, if_true]
    · rw [if_neg here, List.find?_cons_of_neg here, ih, Option.map_bind]
      simp only [updateFirst, if_neg here, Option.map_map, Function.comp_def]

/-- Publishing looks for a service among all of them. -/
theorem publish_eq (publications : Publications) (client : String) (object : PublishedObject) :
    publications.publish client object =
      (publishAmong client object publications.services).elim (false, publications)
        fun services => (true, ⟨services⟩) := by
  rw [publishAmong_eq]
  unfold publish takes
  dsimp only
  split
  · rename_i absent
    rw [absent]
    rfl
  · rename_i service found
    rw [found, Option.bind_some]
    split
    · rename_i refused
      rw [refused]
      rfl
    · rename_i made published
      rw [published]
      rfl

/-- So two objects with different paths may be published the other way round. -/
theorem publishAmong_comm {services between last : List PublishedService}
    (tidy : ∀ service ∈ services, service.layout.Tidy) (apart : first.path ≠ second.path)
    (taken : publishAmong client first services = some between)
    (further : publishAmong client second between = some last) :
    ∃ other, publishAmong client second services = some other ∧
      publishAmong client first other = some last := by
  induction services generalizing between last with
  | nil => cases taken
  | cons service rest ih =>
    obtain ⟨own, others⟩ := List.forall_mem_cons.mp tidy
    unfold publishAmong at taken
    by_cases mine : service.takes client first = true
    · rw [if_pos mine] at taken
      obtain ⟨made, published, rfl⟩ := Option.map_eq_some_iff.mp taken
      have kept := takes_publish? published client second
      unfold publishAmong at further
      rw [kept] at further
      by_cases theirs : service.takes client second = true
      · -- One service takes both.
        rw [if_pos theirs] at further
        obtain ⟨final, again, rfl⟩ := Option.map_eq_some_iff.mp further
        obtain ⟨other, placed, done⟩ := publish?_comm own (Bool.and_eq_true_iff.mp mine).2
          (Bool.and_eq_true_iff.mp theirs).2 apart published again
        have still := (takes_publish? placed client first).trans mine
        refine ⟨other :: rest, ?_, ?_⟩
        · rw [publishAmong, if_pos theirs, placed, Option.map_some]
        · rw [publishAmong, if_pos still, done, Option.map_some]
      · rw [if_neg theirs] at further
        obtain ⟨final, elsewhere, rfl⟩ := Option.map_eq_some_iff.mp further
        refine ⟨service :: final, ?_, ?_⟩
        · rw [publishAmong, if_neg theirs, elsewhere, Option.map_some]
        · rw [publishAmong, if_pos mine, published, Option.map_some]
    · rw [if_neg mine] at taken
      obtain ⟨final, elsewhere, rfl⟩ := Option.map_eq_some_iff.mp taken
      unfold publishAmong at further
      by_cases theirs : service.takes client second = true
      · rw [if_pos theirs] at further
        obtain ⟨made, published, rfl⟩ := Option.map_eq_some_iff.mp further
        have still : ¬made.takes client first = true := by
          rwa [takes_publish? published client first]
        refine ⟨made :: rest, ?_, ?_⟩
        · rw [publishAmong, if_pos theirs, published, Option.map_some]
        · rw [publishAmong, if_neg still, elsewhere, Option.map_some]
      · rw [if_neg theirs] at further
        obtain ⟨ending, beyond, rfl⟩ := Option.map_eq_some_iff.mp further
        obtain ⟨other, before, behind⟩ := ih others elsewhere beyond
        refine ⟨service :: other, ?_, ?_⟩
        · rw [publishAmong, if_neg theirs, before, Option.map_some]
        · rw [publishAmong, if_neg mine, behind, Option.map_some]

/-- An object is taken when some service finds a place for it. -/
theorem publish_eq_true_iff : publications.publish client object = (true, after) ↔
    publishAmong client object publications.services = some after.services := by
  rw [publish_eq]
  cases publishAmong client object publications.services with
  | none => simp
  | some services =>
    constructor
    · intro same
      obtain rfl := congrArg Prod.snd same
      rfl
    · intro same
      rw [Option.some.inj same]
      rfl

/-! ### Lists of objects -/

/-- The services after a client published these objects one after the other, if all were taken. -/
def publishAll (publications : Publications) (client : String) :
    List PublishedObject → Option Publications
  | [] => some publications
  | object :: rest =>
    match publications.publish client object with
    | (true, after) => after.publishAll client rest
    | (false, _) => none

/-- The first was taken, and then the others. -/
theorem publishAll_cons {rest : List PublishedObject} :
    publications.publishAll client (object :: rest) = some after ↔
      ∃ next, publications.publish client object = (true, next) ∧
        next.publishAll client rest = some after := by
  rw [publishAll]
  split
  · rename_i next published
    constructor
    · intro others
      exact ⟨next, published, others⟩
    · rintro ⟨same, again, others⟩
      obtain rfl := congrArg Prod.snd (published.symm.trans again)
      exact others
  · rename_i refused
    constructor
    · intro none
      cases none
    · rintro ⟨next, published, -⟩
      cases congrArg Prod.fst (refused.symm.trans published)

namespace Arranged

/-- Objects with different paths that are all taken are all taken in any other order, and come to
stand in the same places. -/
theorem publishAll_perm {objects others : List PublishedObject}
    (arranged : publications.Arranged) (perm : objects.Perm others)
    (distinct : (objects.map PublishedObject.path).Nodup)
    (taken : publications.publishAll client objects = some after) :
    publications.publishAll client others = some after := by
  induction perm generalizing publications with
  | nil => exact taken
  | @cons object objects others perm ih =>
    obtain ⟨next, published, rest⟩ := publishAll_cons.mp taken
    have further : next.Arranged := by
      have kept := arranged.publish client object
      rwa [published] at kept
    exact publishAll_cons.mpr ⟨next, published, ih further (List.nodup_cons.mp distinct).2 rest⟩
  | swap second first rest =>
    obtain ⟨next, published, others⟩ := publishAll_cons.mp taken
    obtain ⟨last, again, others⟩ := publishAll_cons.mp others
    have apart : first.path ≠ second.path := by
      have absent := (List.nodup_cons.mp distinct).1
      exact fun same => absent (same ▸ List.mem_cons_self)
    have tidy : ∀ service ∈ publications.services, service.layout.Tidy :=
      fun service member => arranged.tidy _ (List.mem_map_of_mem member)
    obtain ⟨other, before, behind⟩ := publishAmong_comm tidy apart
      (publish_eq_true_iff.mp published) (publish_eq_true_iff.mp again)
    have middle : publications.publish client second = (true, ⟨other⟩) :=
      publish_eq_true_iff.mpr before
    have final : (⟨other⟩ : Publications).publish client first = (true, last) :=
      publish_eq_true_iff.mpr behind
    exact publishAll_cons.mpr ⟨⟨other⟩, middle, publishAll_cons.mpr ⟨last, final, others⟩⟩
  | trans former latter ihFormer ihLatter =>
    have still := (former.map PublishedObject.path).nodup_iff.mp distinct
    exact ihLatter arranged still (ihFormer arranged distinct taken)

end Arranged

end Publications

namespace Catalogue

variable {B A : Type} [MessageBus B] [AttributeServer A] {catalogue : Catalogue}

/-- Whatever happened before, it makes no difference in which order a client publishes objects with
different paths. If all are taken in one order, they are in any other, and then the services with
their objects, each in its place, are the same, so that the same is built of them. If one is refused
in some order, one is in every order. -/
theorem run_publishAll {first : Handle} {announces : Bool} {actions : List (Action B A)}
    {env later : Environment B A}
    (ran : (fresh first announces).run actions env = (catalogue, later)) (client : String)
    {objects others : List PublishedObject} (perm : objects.Perm others)
    (distinct : (objects.map PublishedObject.path).Nodup) :
    catalogue.publications.publishAll client objects =
      catalogue.publications.publishAll client others := by
  have arranged := run_fresh_arranged ran
  have likewise := (perm.map PublishedObject.path).nodup_iff.mp distinct
  apply Option.ext
  intro after
  constructor
  · exact arranged.publishAll_perm perm distinct
  · exact arranged.publishAll_perm perm.symm likewise

/-- A client has registered a service below another and published a characteristic once. The objects
of both services, that characteristic among them, may be published in either order. -/
theorem run_publishAll_of_nested :
    let object (path : String) (fits : path.utf8ByteSize ≤ Limits.objectPath)
      (interface : GattInterface) : PublishedObject := { path := ⟨path, fits⟩, interface }
    let level := object "/app/level" (by decide) .characteristic
    let actions : List (Action Transport.PlainBus CountingServer) :=
      [.register ":1.7" "/app/sub" ⟨1⟩, .register ":1.7" "/app" ⟨2⟩, .publish ":1.7" level]
    let catalogue := ((fresh 1 true).run actions countingEnvironment).1
    let objects := [object "/app" (by decide) .service, object "/app/sub" (by decide) .service,
      object "/app/sub/x" (by decide) .characteristic, level.withFlags ["read"]]
    let places (publications : Publications) : List (List String) :=
      publications.services.map fun service =>
        service.objects.map fun object => object.path.value
    catalogue.publications.publishAll ":1.7" objects =
        catalogue.publications.publishAll ":1.7" objects.reverse ∧
      (catalogue.publications.publishAll ":1.7" objects.reverse).map places =
        some [["/app/sub", "/app/sub/x"], ["/app", "/app/level"]] := by
  intro object level actions catalogue objects places
  have ran : (fresh 1 true).run actions countingEnvironment =
      (catalogue, ((fresh 1 true).run actions countingEnvironment).2) := (Prod.eta _).symm
  have placed : (catalogue.publications.publishAll ":1.7" objects).map places =
      some [["/app/sub", "/app/sub/x"], ["/app", "/app/level"]] := by decide +kernel
  have distinct : (objects.map PublishedObject.path).Nodup := by decide
  clear_value catalogue
  have same := run_publishAll ran ":1.7" objects.reverse_perm.symm distinct
  exact ⟨same, same ▸ placed⟩

end Catalogue

end BluetoothHost
