import Mathlib.Data.String.Basic

/-!
# Joined parts

Parts that are joined with a separator between neighbours: which letters the whole shows, how long
it is, and what a change of its letters does. As long as all letters are among the first 128, the
length of a text is its size in bytes.
-/

namespace BluetoothHost.Joined

/-- The whole shows its parts and the separator, and nothing else. -/
theorem mem_intercalate {separator letter : Char} {parts : List (List Char)}
    (member : letter ∈ [separator].intercalate parts) :
    letter = separator ∨ ∃ part ∈ parts, letter ∈ part := by
  induction parts with
  | nil =>
    rw [List.intercalate_nil] at member
    cases member
  | cons part rest ih =>
    cases rest with
    | nil =>
      rw [List.intercalate_singleton] at member
      exact .inr ⟨part, List.mem_cons_self, member⟩
    | cons next others =>
      rw [List.intercalate_cons_cons, List.append_assoc, List.mem_append, List.mem_append,
        List.mem_singleton] at member
      rcases member with inside | between | behind
      · exact .inr ⟨part, List.mem_cons_self, inside⟩
      · exact .inl between
      · exact (ih behind).imp id fun ⟨other, listed, inside⟩ =>
          ⟨other, List.mem_cons_of_mem _ listed, inside⟩

/-- Each of the parts is shown. -/
theorem subset_intercalate (separator : Char) {parts : List (List Char)} {part : List Char}
    (listed : part ∈ parts) : part ⊆ [separator].intercalate parts := by
  induction parts with
  | nil => cases listed
  | cons first rest ih =>
    cases rest with
    | nil =>
      obtain rfl := List.mem_singleton.mp listed
      rw [List.intercalate_singleton]
      exact List.Subset.refl part
    | cons next others =>
      rw [List.intercalate_cons_cons, List.append_assoc]
      rcases List.mem_cons.mp listed with rfl | later
      · exact List.subset_append_left _ _
      · refine List.Subset.trans (ih later) ?_
        exact List.subset_append_of_subset_right _ (List.subset_append_right _ _)

/-- Of parts that are equally long, each takes its own letters and a separator, but for the last. -/
theorem length_intercalate (separator : Char) {width : Nat} {parts : List (List Char)}
    (shown : parts ≠ []) (even : ∀ part ∈ parts, part.length = width) :
    ([separator].intercalate parts).length + 1 = parts.length * (width + 1) := by
  induction parts with
  | nil => exact absurd rfl shown
  | cons part rest ih =>
    obtain ⟨here, later⟩ := List.forall_mem_cons.mp even
    cases rest with
    | nil => simp [here]
    | cons next others =>
      have behind := ih (List.cons_ne_nil next others) later
      rw [List.intercalate_cons_cons, List.length_append, List.length_append, here,
        List.length_singleton, List.length_cons, Nat.add_one_mul, ← behind]
      omega

/-- A letter-wise change of the whole changes the separator and the parts. -/
theorem map_intercalate (change : Char → Char) (separator : Char) (parts : List (List Char)) :
    ([separator].intercalate parts).map change =
      [change separator].intercalate (parts.map (List.map change)) := by
  induction parts with
  | nil => rfl
  | cons part rest ih =>
    cases rest with
    | nil => simp
    | cons next others =>
      rw [List.intercalate_cons_cons, List.map_append, List.map_append, ih]
      simp

/-- Where all letters are among the first 128, each has one byte. -/
theorem utf8ByteSize_eq_length {text : String} (low : ∀ letter ∈ text.toList, letter.toNat < 128) :
    text.utf8ByteSize = text.toList.length := by
  have sized : ∀ row : List Char, (∀ letter ∈ row, letter.toNat < 128) →
      String.utf8Len row = row.length := by
    intro row low
    induction row with
    | nil => rfl
    | cons letter rest ih =>
      obtain ⟨here, later⟩ := List.forall_mem_cons.mp low
      have one : letter.utf8Size = 1 := by
        rw [Char.utf8Size_eq_one_iff, UInt32.le_iff_toNat_le]
        exact Nat.le_of_lt_succ here
      rw [String.utf8Len_cons, List.length_cons, ih later, one]
  rw [← sized text.toList low, String.utf8Len_toList]

end BluetoothHost.Joined
