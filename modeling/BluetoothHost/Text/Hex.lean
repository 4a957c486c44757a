/-!
# Hexadecimal digits

Numbers are written with a fixed count of lower-case digits, the highest first, and read from
digits of either case.
-/

namespace BluetoothHost.Hex

/-- The value of a hexadecimal digit of either case. -/
def digitValue? (digit : Char) : Option Nat :=
  if '0' ≤ digit ∧ digit ≤ '9' then some (digit.toNat - '0'.toNat)
  else if 'a' ≤ digit ∧ digit ≤ 'f' then some (digit.toNat - 'a'.toNat + 10)
  else if 'A' ≤ digit ∧ digit ≤ 'F' then some (digit.toNat - 'A'.toNat + 10)
  else none

/-- The number that follows `high` when `digits` are written behind it, or nothing if some
character is no digit. -/
def extend? (high : Nat) : List Char → Option Nat
  | [] => some high
  | digit :: digits =>
    match digitValue? digit with
    | some value => extend? (16 * high + value) digits
    | none => none

/-- The number denoted by a row of digits, or nothing if some character is no digit. The empty
row denotes zero. -/
def ofDigits? (digits : List Char) : Option Nat := extend? 0 digits

/-- The lowest `width` digits of a number, in lower case. -/
def digits : (width : Nat) → (number : Nat) → List Char
  | 0, _ => []
  | width + 1, number => digits width (number / 16) ++ [Nat.digitChar (number % 16)]

/-- A row of digits has the width asked for. -/
@[simp] theorem length_digits (width number : Nat) : (digits width number).length = width := by
  induction width generalizing number with
  | zero => rfl
  | succ width ih => simp [digits, ih]

end BluetoothHost.Hex
