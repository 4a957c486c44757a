/-!
# Changing the first match

The host keeps its objects in lists, in the order in which they came. An operation on an object
changes the first entry that passes a test and leaves all others as they are.
-/

namespace BluetoothHost

variable {α : Type}

/-- The list with its first entry that passes the test changed. -/
def updateFirst (test : α → Bool) (change : α → α) : List α → List α
  | [] => []
  | entry :: rest =>
    if test entry then change entry :: rest else entry :: updateFirst test change rest

/-- No entry is lost or gained. -/
@[simp] theorem length_updateFirst (test : α → Bool) (change : α → α) (entries : List α) :
    (updateFirst test change entries).length = entries.length := by
  induction entries with
  | nil => rfl
  | cons entry rest ih => unfold updateFirst; split <;> simp [ih]

/-- Without a match nothing changes. -/
theorem updateFirst_eq_self (test : α → Bool) (change : α → α) (entries : List α)
    (unmatched : ∀ entry ∈ entries, test entry = false) :
    updateFirst test change entries = entries := by
  induction entries with
  | nil => rfl
  | cons entry rest ih =>
    have here := unmatched entry (by simp)
    simp [updateFirst, here, ih fun other member => unmatched other (by simp [member])]

/-- Every entry is one of before, or the changed form of one that passed the test. -/
theorem mem_updateFirst {test : α → Bool} {change : α → α} {entries : List α} {entry : α}
    (member : entry ∈ updateFirst test change entries) :
    entry ∈ entries ∨ ∃ old ∈ entries, test old = true ∧ entry = change old := by
  induction entries with
  | nil => cases member
  | cons first rest ih =>
    unfold updateFirst at member
    by_cases here : test first = true
    · rw [if_pos here] at member
      rcases List.mem_cons.mp member with same | further
      · exact .inr ⟨first, by simp, here, same⟩
      · exact .inl (by simp [further])
    · rw [if_neg here] at member
      rcases List.mem_cons.mp member with same | further
      · exact .inl (by simp [same])
      · rcases ih further with before | ⟨old, present, passed, same⟩
        · exact .inl (by simp [before])
        · exact .inr ⟨old, by simp [present], passed, same⟩

/-- No entry goes unless it passes the test; then its changed form is there. -/
theorem mem_updateFirst_of_mem {test : α → Bool} {change : α → α} {entries : List α} {entry : α}
    (member : entry ∈ entries) : entry ∈ updateFirst test change entries ∨
      test entry = true ∧ change entry ∈ updateFirst test change entries := by
  induction entries with
  | nil => cases member
  | cons first rest ih =>
    unfold updateFirst
    by_cases here : test first = true
    · rw [if_pos here]
      rcases List.mem_cons.mp member with rfl | further
      · exact .inr ⟨here, List.mem_cons_self⟩
      · exact .inl (List.mem_cons_of_mem _ further)
    · rw [if_neg here]
      rcases List.mem_cons.mp member with rfl | further
      · exact .inl List.mem_cons_self
      · exact (ih further).imp (List.mem_cons_of_mem first)
          (And.imp_right (List.mem_cons_of_mem first))

/-- What the change keeps of an entry is kept of all. -/
theorem map_updateFirst {β : Type} {observe : α → β} {test : α → Bool} {change : α → α}
    (kept : ∀ entry, observe (change entry) = observe entry) (entries : List α) :
    (updateFirst test change entries).map observe = entries.map observe := by
  induction entries with
  | nil => rfl
  | cons entry rest ih =>
    unfold updateFirst
    split
    · rw [List.map_cons, List.map_cons, kept]
    · rw [List.map_cons, List.map_cons, ih]

/-- Where the change only takes from what is collected of an entry, it only takes from all. -/
theorem flatMap_updateFirst_sublist {β : Type} {collect : α → List β} {test : α → Bool}
    {change : α → α} (fewer : ∀ entry, (collect (change entry)).Sublist (collect entry))
    (entries : List α) :
    ((updateFirst test change entries).flatMap collect).Sublist (entries.flatMap collect) := by
  induction entries with
  | nil => exact .slnil
  | cons entry rest ih =>
    unfold updateFirst
    split
    · exact (fewer entry).append_right _
    · exact ih.append_left _

/-- A list with a first match stands around it, and the change takes its place. -/
theorem split_of_find? {test : α → Bool} {entries : List α} {entry : α}
    (found : entries.find? test = some entry) :
    ∃ front back, entries = front ++ entry :: back ∧
      (∀ change : α → α, updateFirst test change entries = front ++ change entry :: back) ∧
      entries.eraseP test = front ++ back := by
  induction entries with
  | nil => cases found
  | cons first rest ih =>
    by_cases here : test first = true
    · rw [List.find?_cons_of_pos here, Option.some.injEq] at found
      subst found
      refine ⟨[], rest, rfl, fun change => ?_, by simp [here]⟩
      rw [updateFirst, if_pos here, List.nil_append]
    · rw [List.find?_cons_of_neg here] at found
      obtain ⟨front, back, entries_eq, updated, erased⟩ := ih found
      refine ⟨first :: front, back, by rw [entries_eq, List.cons_append], fun change => ?_, ?_⟩
      · rw [updateFirst, if_neg here, updated, List.cons_append]
      · rw [List.eraseP_cons_of_neg here, erased, List.cons_append]

/-- The match is looked for in the second list only if there is none in the first. -/
theorem updateFirst_append (test : α → Bool) (change : α → α) (earlier later : List α) :
    updateFirst test change (earlier ++ later) =
      if earlier.any test then updateFirst test change earlier ++ later
      else earlier ++ updateFirst test change later := by
  induction earlier with
  | nil => rfl
  | cons entry rest ih =>
    by_cases here : test entry = true
    · simp [updateFirst, here]
    · have passed : (entry :: rest).any test = rest.any test := by simp [here]
      rw [List.cons_append, updateFirst, if_neg here, updateFirst, if_neg here, ih, passed]
      split <;> rfl

/-- The first match, if there is one, changes in its place. -/
theorem updateFirst_cases (test : α → Bool) (change : α → α) (entries : List α) :
    updateFirst test change entries = entries ∨
      ∃ front entry back, entries = front ++ entry :: back ∧ entries.find? test = some entry ∧
        (∀ other ∈ front, test other = false) ∧
        updateFirst test change entries = front ++ change entry :: back := by
  cases found : entries.find? test with
  | none =>
    refine .inl (updateFirst_eq_self test change entries fun entry member => ?_)
    simpa using List.find?_eq_none.mp found entry member
  | some entry =>
    obtain ⟨here, front, back, rfl, passed⟩ := List.find?_eq_some_iff_append.mp found
    have skipped : ∀ other ∈ front, test other = false := by simpa using passed
    have earlier : front.any test = false := by simpa using skipped
    refine .inr ⟨front, entry, back, rfl, rfl, skipped, ?_⟩
    rw [updateFirst_append, earlier, if_neg Bool.false_ne_true, updateFirst, if_pos here]

/-- Entries that are left out before and after the change do not matter. -/
theorem filter_updateFirst {keep test : α → Bool} {change : α → α}
    (leftOut : ∀ entry, test entry = true → keep entry = false ∧ keep (change entry) = false)
    (entries : List α) :
    (updateFirst test change entries).filter keep = entries.filter keep := by
  rcases updateFirst_cases test change entries with same |
    ⟨front, entry, back, entries_eq, found, -, updated⟩
  · rw [same]
  · obtain ⟨before, after⟩ := leftOut entry (List.find?_some found)
    rw [updated, entries_eq]
    simp only [List.filter_append, List.filter_cons, before, after, Bool.false_eq_true, if_false]

/-- Entries hold lists, and the first whose list has a match changes as its list does. Then the
lists one after another change as one list would. -/
theorem flatMap_updateFirst {β : Type} {collect : α → List β} {test : β → Bool} {change : α → α}
    {inner : List β → List β} (nil : inner [] = [])
    (append : ∀ earlier later, inner (earlier ++ later) =
      if earlier.any test then inner earlier ++ later else earlier ++ inner later)
    (changed : ∀ entry, (collect entry).any test = true →
      collect (change entry) = inner (collect entry)) (entries : List α) :
    (updateFirst (fun entry => (collect entry).any test) change entries).flatMap collect =
      inner (entries.flatMap collect) := by
  induction entries with
  | nil => exact nil.symm
  | cons entry rest ih =>
    rw [List.flatMap_cons, append]
    unfold updateFirst
    split
    · rename_i here
      rw [List.flatMap_cons, changed entry here]
    · rw [List.flatMap_cons, ih]

section Unique

variable {test : α → Bool} {entries : List α}

/-- Behind the only match there is no other. -/
theorem unmatched_of_unique {entry : α} (here : test entry = true)
    (unique : ((entry :: entries).filter test).length ≤ 1) :
    ∀ other ∈ entries, test other = false := by
  rw [List.filter_cons_of_pos here, List.length_cons] at unique
  have none : entries.filter test = [] := List.eq_nil_of_length_eq_zero (by omega)
  intro other member
  simpa using List.filter_eq_nil_iff.mp none other member

/-- Where at most one entry matches, the change of the first is the change of all that match. -/
theorem updateFirst_eq_map (change : α → α) (unique : (entries.filter test).length ≤ 1) :
    updateFirst test change entries =
      entries.map fun entry => if test entry then change entry else entry := by
  induction entries with
  | nil => rfl
  | cons entry rest ih =>
    by_cases here : test entry = true
    · have unmatched := unmatched_of_unique here unique
      have others : rest.map (fun entry => if test entry then change entry else entry) =
          rest.map id := List.map_congr_left fun other member => by simp [unmatched other member]
      rw [updateFirst, if_pos here, List.map_cons, if_pos here, others, List.map_id]
    · rw [List.filter_cons_of_neg here] at unique
      rw [updateFirst, if_neg here, List.map_cons, if_neg here, ih unique]

/-- And to take the first away is to take all away that match. -/
theorem eraseP_eq_filter (unique : (entries.filter test).length ≤ 1) :
    entries.eraseP test = entries.filter fun entry => !test entry := by
  induction entries with
  | nil => rfl
  | cons entry rest ih =>
    by_cases here : test entry = true
    · have unmatched := unmatched_of_unique here unique
      have others : rest.filter (fun entry => !test entry) = rest :=
        List.filter_eq_self.mpr fun other member => by simp [unmatched other member]
      rw [List.eraseP_cons_of_pos here, List.filter_cons_of_neg (by simp [here]), others]
    · rw [List.filter_cons_of_neg here] at unique
      rw [List.eraseP_cons_of_neg here, List.filter_cons_of_pos (by simp [here]), ih unique]

end Unique

end BluetoothHost
