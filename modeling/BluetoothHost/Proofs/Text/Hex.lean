import BluetoothHost.Text.Hex
import Mathlib.Data.List.Forall2
import Mathlib.Data.Nat.Digits.Lemmas

/-!
# What a row of digits denotes

A row of hexadecimal digits denotes a number to base 16, the highest digit first, whatever the case
of its letters. A reader accepts such rows and no others, and the number that it finds is the one
denoted. The digits that are written for a number are the one row of their width and in lower case
that denotes it.
-/

namespace BluetoothHost.Hex

/-- A digit of either case has this value. -/
def HasValue (digit : Char) (value : Nat) : Prop :=
  value < 16 ∧ digit.toLower = Nat.digitChar value

/-- A row of digits of either case, the highest first, denotes this number. -/
def Denotes (row : List Char) (number : Nat) : Prop :=
  ∃ values, List.Forall₂ HasValue row.reverse values ∧ Nat.ofDigits 16 values = number

/-! ### Single digits -/

/-- A letter beyond the first 128 has no other case. -/
theorem toLower_eq_self {letter : Char} (high : 128 ≤ letter.toNat) : letter.toLower = letter := by
  have notUpper : ¬(letter.val ≥ 'A'.val ∧ letter.val ≤ 'Z'.val) := by
    rintro ⟨-, below⟩
    have small : letter.val.toNat ≤ 90 := UInt32.le_iff_toNat_le.mp below
    have large : 128 ≤ letter.val.toNat := high
    omega
  exact dif_neg notUpper

/-- Digits are among the first 128 letters. -/
theorem HasValue.toNat_lt {digit : Char} {value : Nat} (valued : HasValue digit value) :
    digit.toNat < 128 := by
  obtain ⟨small, lower⟩ := valued
  by_contra high
  have written : ∀ value < 16, (Nat.digitChar value).toNat < 128 := by decide
  have bound := written value small
  rw [← lower, toLower_eq_self (Nat.le_of_not_lt high)] at bound
  exact high bound

/-- A digit is one of the first 128 characters. -/
theorem toNat_lt_of_digitValue? {digit : Char} {value : Nat}
    (found : digitValue? digit = some value) : digit.toNat < 128 := by
  have below : ∀ {letter : Char}, digit ≤ letter → letter.toNat < 128 → digit.toNat < 128 :=
    fun le small => Nat.lt_of_le_of_lt (UInt32.le_iff_toNat_le.mp le) small
  unfold digitValue? at found
  split at found
  · rename_i range
    exact below range.2 (by decide)
  split at found
  · rename_i range
    exact below range.2 (by decide)
  split at found
  · rename_i range
    exact below range.2 (by decide)
  · cases found

/-- The reader knows the values of all digits. -/
theorem digitValue?_eq_some_iff {digit : Char} {value : Nat} :
    digitValue? digit = some value ↔ HasValue digit value := by
  have known : ∀ code < 128, ∀ value ∈ digitValue? (Char.ofNat code),
      value < 16 ∧ (Char.ofNat code).toLower = Nat.digitChar value := by
    decide +kernel
  have complete : ∀ code < 128, ∀ value < 16, (Char.ofNat code).toLower = Nat.digitChar value →
      digitValue? (Char.ofNat code) = some value := by
    decide +kernel
  constructor
  · intro found
    have small := toNat_lt_of_digitValue? found
    have here := known digit.toNat small value
    rw [Char.ofNat_toNat] at here
    exact here found
  · intro valued
    have here := complete digit.toNat valued.toNat_lt value valued.1
    rw [Char.ofNat_toNat] at here
    exact here valued.2

/-- A digit of either case is raised as the one in lower case is. -/
theorem HasValue.toUpper_toLower {digit : Char} {value : Nat} (valued : HasValue digit value) :
    digit.toLower.toUpper = digit.toUpper := by
  have raised : ∀ code < 128, (Char.ofNat code).toLower.toUpper = (Char.ofNat code).toUpper := by
    decide +kernel
  have here := raised digit.toNat valued.toNat_lt
  rwa [Char.ofNat_toNat] at here

/-! ### Rows -/

/-- The empty row denotes zero. -/
theorem denotes_nil {number : Nat} : Denotes [] number ↔ number = 0 := by
  constructor
  · rintro ⟨values, valued, denoted⟩
    cases valued
    exact denoted.symm
  · rintro rfl
    exact ⟨[], .nil, rfl⟩

/-- With a further digit behind it, a number counts sixteen times. -/
theorem denotes_concat {row : List Char} {digit : Char} {number : Nat} :
    Denotes (row ++ [digit]) number ↔
      ∃ high value, Denotes row high ∧ HasValue digit value ∧ number = 16 * high + value := by
  have reversed : (row ++ [digit]).reverse = digit :: row.reverse := by
    rw [List.reverse_append, List.reverse_singleton, List.singleton_append]
  unfold Denotes
  rw [reversed]
  constructor
  · rintro ⟨values, valued, rfl⟩
    obtain ⟨value, others, here, further, rfl⟩ := List.forall₂_cons_left_iff.mp valued
    refine ⟨Nat.ofDigits 16 others, value, ⟨others, further, rfl⟩, here, ?_⟩
    rw [Nat.ofDigits_cons, Nat.add_comm]
  · rintro ⟨high, value, ⟨others, further, rfl⟩, here, rfl⟩
    refine ⟨value :: others, .cons here further, ?_⟩
    rw [Nat.ofDigits_cons, Nat.add_comm]

/-- A further digit is read behind those that were read before. -/
theorem extend?_concat (high : Nat) (row : List Char) (digit : Char) :
    extend? high (row ++ [digit]) =
      (extend? high row).bind fun number => (digitValue? digit).map (16 * number + ·) := by
  induction row generalizing high with
  | nil =>
    rw [List.nil_append, extend?, extend?, Option.bind_some]
    cases digitValue? digit <;> rfl
  | cons first rest ih =>
    rw [List.cons_append, extend?, extend?]
    cases digitValue? first with
    | none => rfl
    | some value => exact ih (16 * high + value)

/-- A row is read as the number that it denotes, and is refused if it denotes none. -/
theorem ofDigits?_eq_some_iff {row : List Char} {number : Nat} :
    ofDigits? row = some number ↔ Denotes row number := by
  induction row using List.reverseRecOn generalizing number with
  | nil =>
    rw [denotes_nil, ofDigits?, extend?, Option.some_inj]
    exact eq_comm
  | append_singleton row digit ih =>
    have read : ofDigits? (row ++ [digit]) =
        (ofDigits? row).bind fun number => (digitValue? digit).map (16 * number + ·) :=
      extend?_concat 0 row digit
    rw [read, denotes_concat, Option.bind_eq_some_iff]
    simp only [Option.map_eq_some_iff, ih, digitValue?_eq_some_iff]
    constructor
    · rintro ⟨high, denoted, value, valued, rfl⟩
      exact ⟨high, value, denoted, valued, rfl⟩
    · rintro ⟨high, value, denoted, valued, rfl⟩
      exact ⟨high, denoted, value, valued, rfl⟩

/-- A row denotes at most one number. -/
theorem Denotes.unique {row : List Char} {number other : Nat} (one : Denotes row number)
    (second : Denotes row other) : number = other := by
  have read := ofDigits?_eq_some_iff.mpr one
  rw [ofDigits?_eq_some_iff.mpr second] at read
  exact (Option.some.inj read).symm

/-- Every letter of the row is a digit. -/
theorem Denotes.hasValue {row : List Char} {number : Nat} (denoted : Denotes row number) :
    ∀ digit ∈ row, ∃ value, HasValue digit value := by
  induction row using List.reverseRecOn generalizing number with
  | nil => exact List.forall_mem_nil _
  | append_singleton row last ih =>
    obtain ⟨high, value, front, valued, -⟩ := denotes_concat.mp denoted
    intro digit member
    rcases List.mem_append.mp member with before | final
    · exact ih front digit before
    · obtain rfl := List.mem_singleton.mp final
      exact ⟨value, valued⟩

/-- A letter that no digit is, in either case. -/
def Foreign (letter : Char) : Prop :=
  ∀ value < 16, letter.toLower ≠ Nat.digitChar value

/-- A letter is compared with the sixteen digits. -/
instance (letter : Char) : Decidable (Foreign letter) :=
  inferInstanceAs (Decidable (∀ value < 16, letter.toLower ≠ Nat.digitChar value))

/-- A row that denotes a number shows no such letter. -/
theorem Denotes.notMem {row : List Char} {number : Nat} (denoted : Denotes row number)
    {letter : Char} (foreign : Foreign letter) : letter ∉ row := by
  intro member
  obtain ⟨value, small, lower⟩ := denoted.hasValue letter member
  exact foreign value small lower

/-- Those digits that are written for a number denote it, and every row that denotes it is they, in
some case. -/
theorem denotes_iff {row : List Char} {number : Nat} :
    Denotes row number ↔
      number < 16 ^ row.length ∧ row.map Char.toLower = digits row.length number := by
  induction row using List.reverseRecOn generalizing number with
  | nil =>
    rw [denotes_nil]
    simp [digits]
  | append_singleton row digit ih =>
    have split : (row ++ [digit]).map Char.toLower =
          digits (row ++ [digit]).length number ↔
        row.map Char.toLower = digits row.length (number / 16) ∧
          digit.toLower = Nat.digitChar (number % 16) := by
      rw [List.length_append, List.length_singleton, digits, List.map_append, List.map_singleton,
        List.append_singleton_inj]
    rw [denotes_concat, split, List.length_append, List.length_singleton, Nat.pow_succ]
    constructor
    · rintro ⟨high, value, denoted, ⟨small, lower⟩, rfl⟩
      obtain ⟨bound, written⟩ := ih.mp denoted
      have quotient : (16 * high + value) / 16 = high := by omega
      have remainder : (16 * high + value) % 16 = value := by omega
      rw [quotient, remainder]
      exact ⟨by omega, written, lower⟩
    · rintro ⟨bound, written, lower⟩
      have small : number % 16 < 16 := Nat.mod_lt _ (by decide)
      refine ⟨number / 16, number % 16, ih.mpr ⟨by omega, written⟩, ⟨small, lower⟩, ?_⟩
      exact (Nat.div_add_mod number 16).symm

/-- Only digits are written. -/
theorem exists_of_mem_digits {width number : Nat} {letter : Char}
    (member : letter ∈ digits width number) : ∃ value < 16, letter = Nat.digitChar value := by
  induction width generalizing number with
  | zero => cases member
  | succ width ih =>
    rw [digits, List.mem_append, List.mem_singleton] at member
    rcases member with before | rfl
    · exact ih before
    · exact ⟨number % 16, Nat.mod_lt _ (by decide), rfl⟩

/-- What changes none of the sixteen digits changes nothing that is written. -/
theorem map_digits {change : Char → Char}
    (same : ∀ value < 16, change (Nat.digitChar value) = Nat.digitChar value)
    (width number : Nat) : (digits width number).map change = digits width number := by
  have unchanged : ∀ letter ∈ digits width number, change letter = id letter := by
    intro letter member
    obtain ⟨value, small, rfl⟩ := exists_of_mem_digits member
    exact same value small
  rw [List.map_congr_left unchanged, List.map_id]

/-- They are written in lower case. -/
theorem map_toLower_digits (width number : Nat) :
    (digits width number).map Char.toLower = digits width number :=
  map_digits (by decide) width number

/-- They are got back in lower case from what is written in upper case. -/
theorem map_toLower_map_toUpper_digits (width number : Nat) :
    ((digits width number).map Char.toUpper).map Char.toLower = digits width number := by
  rw [List.map_map]
  exact map_digits (by decide) width number

/-- A number that the width can hold is denoted by its digits. -/
theorem denotes_digits {width number : Nat} (fits : number < 16 ^ width) :
    Denotes (digits width number) number := by
  rw [denotes_iff, length_digits]
  exact ⟨fits, map_toLower_digits width number⟩

end BluetoothHost.Hex
