import BluetoothHost.Gatt.Database.Build
import Mathlib.Data.List.Nodup

/-!
# The order of attributes

Attributes are kept in ascending order of their handles, for which two things are done: a new one
is placed in front of the first with a higher handle, and one is looked up by halving the list.
While handles come from a counter the first amounts to adding at the end, and the second finds
whatever is there.
-/

namespace BluetoothHost

/-- The handles ascend. -/
def Ascending (attributes : List Attribute) : Prop :=
  attributes.Pairwise fun lower higher => lower.handle < higher.handle

/-- No two attributes share a handle. -/
theorem Ascending.eq_of_handle {attributes : List Attribute} (ascending : Ascending attributes)
    {one other : Attribute} (first : one ∈ attributes) (second : other ∈ attributes)
    (same : one.handle = other.handle) : one = other := by
  have distinct : (attributes.map Attribute.handle).Nodup :=
    List.pairwise_map.mpr (ascending.imp UInt16.ne_of_lt)
  exact List.inj_on_of_nodup_map distinct first second same

namespace Database

variable {handle : Handle} {attributes : List Attribute} {entry : Attribute}

/-- What a search finds has the handle. -/
theorem getElem?_of_search {steps index : Nat}
    (found : search handle steps attributes = some index) :
    ∃ entry, attributes[index]? = some entry ∧ entry.handle = handle := by
  induction steps generalizing attributes index with
  | zero => cases found
  | succ steps ih =>
    unfold search at found
    dsimp only at found
    split at found
    · cases found
    · rename_i entry above split
      have here : attributes[attributes.length / 2]? = some entry := by
        rw [← List.head?_drop, split, List.head?_cons]
      split at found
      · rename_i same
        cases found
        exact ⟨entry, here, same⟩
      split at found
      · obtain ⟨lower, present, same⟩ := ih found
        obtain ⟨bound, -⟩ := List.getElem?_eq_some_iff.mp present
        rw [List.length_take] at bound
        rw [List.getElem?_take_of_lt (by omega)] at present
        exact ⟨lower, present, same⟩
      · obtain ⟨offset, further, rfl⟩ := Option.map_eq_some_iff.mp found
        obtain ⟨higher, present, same⟩ := ih further
        refine ⟨higher, ?_, same⟩
        have behind : attributes.drop (attributes.length / 2 + 1) = above := by
          rw [← List.drop_drop, split, List.drop_one, List.tail_cons]
        rw [← behind, List.getElem?_drop] at present
        exact present

/-- Among ascending handles a search finds every one, given a step for each attribute. -/
theorem search_isSome {steps : Nat} (ascending : Ascending attributes)
    (enough : attributes.length ≤ steps) (member : entry ∈ attributes) :
    (search entry.handle steps attributes).isSome := by
  induction steps generalizing attributes with
  | zero =>
    have empty : attributes = [] := List.eq_nil_of_length_eq_zero (by omega)
    rw [empty] at member
    cases member
  | succ steps ih =>
    have halves : attributes.take (attributes.length / 2) ++
      attributes.drop (attributes.length / 2) = attributes := List.take_append_drop _ _
    have sizes : (attributes.drop (attributes.length / 2)).length =
      attributes.length - attributes.length / 2 := List.length_drop
    unfold search
    dsimp only
    split
    · rename_i none
      rw [none, List.length_nil] at sizes
      have positive := List.length_pos_of_mem member
      omega
    · rename_i middle above split
      rw [split] at halves sizes
      rw [← halves] at ascending member
      obtain ⟨lower, upper, apart⟩ := List.pairwise_append.mp ascending
      obtain ⟨beyond, higher⟩ := List.pairwise_cons.mp upper
      rw [List.length_cons] at sizes
      split
      · rfl
      · rename_i different
        rcases List.mem_append.mp member with first | last
        · rw [if_pos (apart entry first middle (by simp))]
          exact ih lower (by rw [List.length_take]; omega) first
        · rcases List.mem_cons.mp last with rfl | rest
          · exact absurd rfl different
          · have greater := beyond entry rest
            rw [if_neg (UInt16.not_lt.mpr (UInt16.le_of_lt greater)), Option.isSome_map]
            exact ih higher (by omega) rest

/-- Where a handle is found, its attribute stands between those in front of the place and those
behind it. -/
theorem split_of_position? {database : Database} {index : Nat}
    (found : database.position? handle = some index) :
    ∃ entry above, database.attributes.drop index = entry :: above ∧ entry.handle = handle := by
  obtain ⟨entry, present, same⟩ := getElem?_of_search found
  obtain ⟨bound, here⟩ := List.getElem?_eq_some_iff.mp present
  exact ⟨entry, _, by rw [List.drop_eq_getElem_cons bound, here], same⟩

/-- Every attribute is found under its handle. -/
theorem position?_isSome {database : Database} (ascending : Ascending database.attributes)
    (member : entry ∈ database.attributes) : (database.position? entry.handle).isSome :=
  search_isSome ascending (Nat.le_refl _) member

/-- The place of an attribute is the number of those in front of it. -/
theorem position?_split {database : Database} (ascending : Ascending database.attributes)
    {front back : List Attribute} (attributes_eq : database.attributes = front ++ entry :: back) :
    database.position? entry.handle = some front.length := by
  have member : entry ∈ database.attributes := by simp [attributes_eq]
  obtain ⟨index, found⟩ := Option.isSome_iff_exists.mp (position?_isSome ascending member)
  obtain ⟨other, present, same⟩ := getElem?_of_search found
  have distinct : (database.attributes.map Attribute.handle).Nodup :=
    List.pairwise_map.mpr (ascending.imp UInt16.ne_of_lt)
  have bound : index < (database.attributes.map Attribute.handle).length := by
    rw [List.length_map]
    exact (List.getElem?_eq_some_iff.mp present).1
  have own : database.attributes[front.length]? = some entry := by simp [attributes_eq]
  have inner : index = front.length := by
    apply (List.getElem?_inj bound distinct).mp
    rw [List.getElem?_map, List.getElem?_map, present, own]
    exact congrArg some same
  rw [found, inner]

/-- Looking up a handle finds the attribute that has it. -/
theorem findHandle?_eq_some_iff {database : Database} (ascending : Ascending database.attributes) :
    database.findHandle? handle = some entry ↔
      entry ∈ database.attributes ∧ entry.handle = handle := by
  unfold findHandle?
  rw [Option.bind_eq_some_iff]
  constructor
  · rintro ⟨index, found, present⟩
    obtain ⟨other, here, same⟩ := getElem?_of_search found
    obtain rfl := Option.some.inj (present.symm.trans here)
    exact ⟨List.mem_of_getElem? present, same⟩
  · rintro ⟨member, rfl⟩
    obtain ⟨index, found⟩ := Option.isSome_iff_exists.mp (position?_isSome ascending member)
    obtain ⟨other, here, same⟩ := getElem?_of_search found
    obtain rfl := ascending.eq_of_handle (List.mem_of_getElem? here) member same
    exact ⟨index, found, here⟩

/-! ### Placing -/

/-- The attributes with one more in the place for its handle. -/
def placed (entry : Attribute) (attributes : List Attribute) : List Attribute :=
  attributes.insertIdx (placeFor attributes entry.handle) entry

/-- In front of an attribute with a higher handle is the place. -/
theorem placed_cons_of_lt {first : Attribute} (lower : entry.handle < first.handle)
    (rest : List Attribute) : placed entry (first :: rest) = entry :: first :: rest := by
  simp [placed, placeFor, List.findIdx_cons, lower]

/-- Any other attribute stays in front. -/
theorem placed_cons_of_not_lt {first : Attribute} (higher : ¬entry.handle < first.handle)
    (rest : List Attribute) : placed entry (first :: rest) = first :: placed entry rest := by
  simp [placed, placeFor, List.findIdx_cons, higher]

/-- A new attribute takes one place. -/
theorem length_placed (entry : Attribute) (attributes : List Attribute) :
    (placed entry attributes).length = attributes.length + 1 :=
  List.length_insertIdx_of_le_length List.findIdx_le_length entry

/-- An attribute whose handle is higher than all others is placed at the end. -/
theorem placed_eq_append (above : ∀ other ∈ attributes, other.handle < entry.handle) :
    placed entry attributes = attributes ++ [entry] := by
  have last : placeFor attributes entry.handle = attributes.length := by
    refine List.findIdx_eq_length.mpr fun other member => decide_eq_false ?_
    exact UInt16.not_lt.mpr (UInt16.le_of_lt (above other member))
  rw [placed, last, List.insertIdx_length_self]

/-- Where two attributes are placed, the second with a higher handle, the first stands in the place
that its handle had, whatever else is in it. -/
theorem exists_split_of_placed {handle : Handle} {second : Attribute}
    (higher : handle < second.handle) (attributes : List Attribute) :
    ∃ front back, front.length = placeFor attributes handle ∧
      ∀ first : Attribute, first.handle = handle →
        placed second (placed first attributes) = front ++ first :: back := by
  induction attributes with
  | nil =>
    refine ⟨[], [second], rfl, fun first same => placed_cons_of_not_lt ?_ []⟩
    exact UInt16.not_lt.mpr (UInt16.le_of_lt (same ▸ higher))
  | cons here rest ih =>
    by_cases lower : handle < here.handle
    · refine ⟨[], placed second (here :: rest), ?_, fun first same => ?_⟩
      · simp [placeFor, List.findIdx_cons, lower]
      · rw [placed_cons_of_lt (same ▸ lower), placed_cons_of_not_lt]
        · rfl
        · exact UInt16.not_lt.mpr (UInt16.le_of_lt (same ▸ higher))
    · obtain ⟨front, back, length, split⟩ := ih
      have behind : ¬second.handle < here.handle := fun above =>
        lower (UInt16.lt_trans higher above)
      refine ⟨here :: front, back, ?_, fun first same => ?_⟩
      · simpa [placeFor, List.findIdx_cons, lower] using length
      · rw [placed_cons_of_not_lt (same ▸ lower), placed_cons_of_not_lt behind, split first same,
          List.cons_append]

/-- What changes at the place of an attribute changes that attribute. -/
theorem modify_split {database : Database} {front back : List Attribute} {entry : Attribute}
    (attributes_eq : database.attributes = front ++ entry :: back)
    (change : Attribute → Attribute) :
    database.modify front.length change =
      { database with attributes := front ++ change entry :: back } := by
  have within : ∀ others : List Attribute,
      (others ++ entry :: back).modify others.length change = others ++ change entry :: back := by
    intro others
    induction others with
    | nil => rfl
    | cons other rest ih => exact congrArg (other :: ·) ih
  rw [modify, attributes_eq, within]

end Database

end BluetoothHost
