import BluetoothHost.Error
import BluetoothHost.Text.Hex
import BluetoothHost.Uuid

/-!
# UUIDs in text

A short form is written as its four or eight digits, with or without a marker `0x`. The
canonical form shows the full number as 32 digits in groups of 8, 4, 4, 4 and 12.
-/

namespace BluetoothHost.Uuid

/-- The digits of a full number, with hyphens behind the 8th, 12th, 16th and 20th. -/
def hyphenate (digits : List Char) : List Char :=
  digits.take 8 ++ '-' :: (digits.drop 8).take 4 ++ '-' :: (digits.drop 12).take 4 ++
    '-' :: (digits.drop 16).take 4 ++ '-' :: digits.drop 20

/-- The text without a leading hexadecimal marker. -/
def withoutMarker : List Char → List Char
  | '0' :: 'x' :: rest => rest
  | '0' :: 'X' :: rest => rest
  | text => text

/-- The UUID written as exactly four or eight digits. -/
def ofShortText? (digits : List Char) : Option Uuid :=
  match digits.length, Hex.ofDigits? digits with
  | 4, some number => some (uuid16 (UInt16.ofNat number))
  | 8, some number => some (uuid32 (UInt32.ofNat number))
  | _, _ => none

/-- The UUID written in canonical form: 32 digits, with hyphens in their places and no others. -/
def ofCanonicalText? (text : List Char) : Option Uuid :=
  let digits := text.filter (· ≠ '-')
  if digits.length = 32 ∧ hyphenate digits = text then
    (Hex.ofDigits? digits).map fun number => uuid128 (BitVec.ofNat 128 number)
  else
    none

/-- Read a UUID in any of its text forms. -/
def parse (text : String) : Except Error Uuid :=
  match ofShortText? (withoutMarker text.toList) with
  | some uuid => .ok uuid
  | none =>
    match ofCanonicalText? text.toList with
    | some uuid => .ok uuid
    | none => .error .invalidArguments

/-- The canonical text of a UUID, in lower case. -/
def canonicalText (uuid : Uuid) : String :=
  String.ofList (hyphenate (Hex.digits 32 uuid.expand.toNat))

end BluetoothHost.Uuid
