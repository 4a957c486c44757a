import BluetoothHost.Bytes
import BluetoothHost.Bytes.LittleEndian
import BluetoothHost.Uuid

/-!
# UUIDs on the wire

A UUID is written in little-endian order with the width of its form, so a reader recovers the
form from the number of bytes alone.
-/

namespace BluetoothHost.Uuid

/-- The number of bytes of a form. -/
def width : Uuid → Nat
  | uuid16 _ => 2
  | uuid32 _ => 4
  | uuid128 _ => 16

/-- The bytes of a form. -/
def bytes : Uuid → List UInt8
  | uuid16 number => LittleEndian.encode 2 number.toNat
  | uuid32 number => LittleEndian.encode 4 number.toNat
  | uuid128 number => LittleEndian.encode 16 number.toNat

/-- The form that was written as these bytes; there is one for 2, 4 and 16 bytes only. -/
def ofBytes? (bytes : List UInt8) : Option Uuid :=
  let number := LittleEndian.decode bytes
  match bytes.length with
  | 2 => some (uuid16 (UInt16.ofNat number))
  | 4 => some (uuid32 (UInt32.ofNat number))
  | 16 => some (uuid128 (BitVec.ofNat 128 number))
  | _ => none

/-- Write a UUID behind the bytes already there, or fail if it does not fit. -/
def write {capacity : Nat} (uuid : Uuid) (out : Bytes capacity) :
    Except Error Unit × Bytes capacity :=
  out.extend uuid.bytes

/-- A form takes up as many bytes as its width says. -/
@[simp] theorem length_bytes (uuid : Uuid) : uuid.bytes.length = uuid.width := by
  cases uuid <;> simp [bytes, width]

end BluetoothHost.Uuid
