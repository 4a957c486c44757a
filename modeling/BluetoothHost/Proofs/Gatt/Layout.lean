import BluetoothHost.Proofs.Gatt.Links
import Mathlib.Data.List.Nodup

/-!
# Where published objects stand

Clients register services under paths, one path perhaps below another, and publish objects below
them. An object goes to the first service of its client that it lies under, among objects in the
order of their paths. So no object lies under an earlier service of its client than the one that it
belongs to, and an object is found by its client and path alone.
-/

namespace BluetoothHost

/-- A path is the root or continues it with a further segment. -/
def Under (root path : String) : Prop := path = root ∨ ∃ rest, path = root ++ "/" ++ rest

/-- Nothing under a root comes before it. -/
theorem Under.not_lt {root path : String} (under : Under root path) : ¬path < root := by
  have starts : root.toList <+: path.toList := by
    obtain rfl | ⟨rest, rfl⟩ := under
    · exact List.prefix_refl _
    · rw [String.append_assoc, String.toList_append]
      exact List.prefix_append _ _
  rw [String.lt_iff, List.not_lt]
  exact starts.le

/-- An object is under a root as far as its path is. -/
theorem PublishedObject.isUnder_iff {object : PublishedObject} {root : String} :
    object.isUnder root = true ↔ Under root object.path.value := by
  unfold isUnder Under
  rw [Bool.and_eq_true, List.isPrefixOf_iff_prefix]
  constructor
  · rintro ⟨⟨rest, split⟩, next⟩
    rw [← split, List.drop_left] at next
    cases rest with
    | nil =>
      rw [List.append_nil] at split
      exact .inl (String.toList_inj.mp split.symm)
    | cons letter rest =>
      obtain rfl : letter = '/' := beq_iff_eq.mp next
      refine .inr ⟨String.ofList rest, String.toList_inj.mp ?_⟩
      simp [← split]
  · rintro (same | ⟨rest, continued⟩)
    · rw [same, List.drop_length]
      exact ⟨List.prefix_refl _, rfl⟩
    · rw [continued, String.append_assoc, String.toList_append, List.drop_left]
      exact ⟨List.prefix_append _ _, by simp⟩

/-! ### Layouts -/

/-- Whose a service is, its path, and the paths of its objects in their order. -/
structure Layout where
  /-- The client. -/
  owner : ClientName
  /-- The path of the service. -/
  root : ObjectPath
  /-- The paths of the objects. -/
  paths : List ObjectPath

/-- The layout of a service. -/
def PublishedService.layout (service : PublishedService) : Layout :=
  ⟨service.owner, service.path, service.objects.map PublishedObject.path⟩

namespace Layout

variable {layout : Layout}

/-- The paths ascend, and all are under that of the service. -/
structure Tidy (layout : Layout) : Prop where
  /-- No two paths are the same, and they stand in their order. -/
  ascending : layout.paths.Pairwise fun lower higher => lower.value < higher.value
  /-- None is elsewhere. -/
  under : ∀ path ∈ layout.paths, Under layout.root.value path.value

/-- Fewer paths stay tidy. -/
theorem Tidy.sublist (tidy : layout.Tidy) {paths : List ObjectPath}
    (sublist : paths.Sublist layout.paths) : Tidy { layout with paths } :=
  ⟨tidy.ascending.sublist sublist, fun path member => tidy.under path (sublist.subset member)⟩

/-- The path of the service itself comes first, if it is among them. -/
theorem Tidy.head?_eq (tidy : layout.Tidy) (member : layout.root ∈ layout.paths) :
    layout.paths.head? = some layout.root := by
  obtain ⟨ascending, under⟩ := tidy
  cases paths_eq : layout.paths with
  | nil =>
    rw [paths_eq] at member
    cases member
  | cons head rest =>
    rw [paths_eq] at member ascending under
    rcases List.mem_cons.mp member with same | behind
    · rw [List.head?_cons, same]
    · have before := (List.pairwise_cons.mp ascending).1 _ behind
      exact absurd before (under head List.mem_cons_self).not_lt

/-- Ascending paths are all different. -/
theorem Tidy.nodup (tidy : layout.Tidy) : layout.paths.Nodup := by
  refine List.Pairwise.imp ?_ tidy.ascending
  rintro lower _ before rfl
  exact String.lt_irrefl _ before

end Layout

/-- Services in the order of their registration: each is tidy, and no object lies under an earlier
service of the same client. -/
structure Arranged (layouts : List Layout) : Prop where
  /-- Each is tidy. -/
  tidy : ∀ layout ∈ layouts, layout.Tidy
  /-- Each object went to the first service that could take it. -/
  first : layouts.Pairwise fun earlier later => earlier.owner = later.owner →
    ∀ path ∈ later.paths, ¬Under earlier.root.value path.value

namespace Arranged

variable {layouts front back : List Layout} {layout after : Layout}

/-- Fewer services stay arranged. -/
theorem sublist {fewer : List Layout} (arranged : Arranged layouts)
    (sublist : fewer.Sublist layouts) : Arranged fewer where
  tidy := fun layout member => arranged.tidy layout (sublist.subset member)
  first := arranged.first.sublist sublist

/-- A service that has no objects yet may come behind the others. -/
theorem register (arranged : Arranged layouts) (owner : ClientName) (root : ObjectPath) :
    Arranged (layouts ++ [⟨owner, root, []⟩]) where
  tidy := by
    refine List.forall_mem_append.mpr ⟨arranged.tidy, List.forall_mem_singleton.mpr ?_⟩
    exact ⟨.nil, fun _ member => nomatch member⟩
  first := by
    refine List.pairwise_append.mpr ⟨arranged.first, List.pairwise_singleton _ _, ?_⟩
    intro earlier _ later single _ path member
    rw [List.mem_singleton.mp single] at member
    cases member

/-- A service may have other objects, as long as those that are new to it could not go to an earlier
service of its client. -/
theorem replace (arranged : Arranged (front ++ layout :: back)) (owner : after.owner = layout.owner)
    (root : after.root = layout.root) (tidy : after.Tidy)
    (first : ∀ path ∈ after.paths, path ∈ layout.paths ∨ ∀ earlier ∈ front,
      earlier.owner = layout.owner → ¬Under earlier.root.value path.value) :
    Arranged (front ++ after :: back) where
  tidy := by
    obtain ⟨before, here⟩ := List.forall_mem_append.mp arranged.tidy
    obtain ⟨-, behind⟩ := List.forall_mem_cons.mp here
    exact List.forall_mem_append.mpr ⟨before, List.forall_mem_cons.mpr ⟨tidy, behind⟩⟩
  first := by
    obtain ⟨before, here, across⟩ := List.pairwise_append.mp arranged.first
    obtain ⟨behind, later⟩ := List.pairwise_cons.mp here
    refine List.pairwise_append.mpr ⟨before, List.pairwise_cons.mpr ⟨?_, later⟩, ?_⟩
    · intro other member same
      rw [owner] at same
      rw [root]
      exact behind other member same
    · intro earlier member
      obtain ⟨own, others⟩ := List.forall_mem_cons.mp (across earlier member)
      refine List.forall_mem_cons.mpr ⟨fun same path among => ?_, others⟩
      rw [owner] at same
      rcases first path among with known | new
      · exact own same path known
      · exact new earlier member same

/-- Two services of one client have no object path in common. -/
theorem disjoint (arranged : Arranged layouts) :
    layouts.Pairwise fun earlier later => earlier.owner = later.owner →
      earlier.paths.Disjoint later.paths := by
  refine arranged.first.imp_of_mem fun {earlier later} present _ first same path mine theirs => ?_
  exact first same path theirs ((arranged.tidy earlier present).under path mine)

end Arranged

/-! ### Placing objects -/

namespace PublishedService

variable {object : PublishedObject} {objects : List PublishedObject}

/-- An object with a new path goes between those with lower and those with higher paths. -/
theorem place_ascending
    (ascending : objects.Pairwise fun lower higher => lower.path.value < higher.path.value)
    (new : ∀ other ∈ objects, other.path ≠ object.path) :
    (place object objects).Pairwise fun lower higher => lower.path.value < higher.path.value := by
  induction objects with
  | nil => exact List.pairwise_singleton _ _
  | cons head rest ih =>
    obtain ⟨before, further⟩ := List.pairwise_cons.mp ascending
    obtain ⟨differs, others⟩ := List.forall_mem_cons.mp new
    unfold place
    split
    · rename_i lower
      refine List.pairwise_cons.mpr ⟨fun other member => ?_, ascending⟩
      rcases List.mem_cons.mp member with rfl | behind
      · exact lower
      · exact String.lt_trans lower (before other behind)
    · rename_i higher
      have above : head.path.value < object.path.value := by
        by_contra below
        have same := String.le_antisymm (String.not_lt.mp below) (String.not_lt.mp higher)
        exact differs (Text.eq_of_value same.symm)
      refine List.pairwise_cons.mpr ⟨fun other member => ?_, ih further others⟩
      rcases mem_place member with rfl | behind
      · exact above
      · exact before other behind

end PublishedService

end BluetoothHost
