/-!
# Little-endian numbers

The attribute protocol writes a number as a fixed count of bytes, the lowest first.
-/

namespace BluetoothHost.LittleEndian

/-- The lowest `width` bytes of a number, the lowest first. -/
def encode : (width : Nat) → (number : Nat) → List UInt8
  | 0, _ => []
  | width + 1, number => UInt8.ofNat number :: encode width (number / 256)

/-- The number that the bytes denote. -/
def decode : List UInt8 → Nat
  | [] => 0
  | byte :: bytes => byte.toNat + 256 * decode bytes

/-- How many numbers can be written with a width. -/
def count : (width : Nat) → Nat
  | 0 => 1
  | width + 1 => 256 * count width

/-- A number is written with the width asked for. -/
@[simp] theorem length_encode (width number : Nat) : (encode width number).length = width := by
  induction width generalizing number with
  | zero => rfl
  | succ width ih => simp [encode, ih]

/-- Reading what was written gives the number, less what lies beyond the width. -/
theorem decode_encode (width number : Nat) :
    decode (encode width number) = number % count width := by
  induction width generalizing number with
  | zero => simp [encode, decode, count, Nat.mod_one]
  | succ width ih =>
    rw [encode, decode, ih, count, Nat.mod_mul]
    simp

/-- The bytes of a number are the only ones of their width that denote it. -/
theorem encode_decode (bytes : List UInt8) : encode bytes.length (decode bytes) = bytes := by
  induction bytes with
  | nil => rfl
  | cons byte bytes ih =>
    have small : byte.toNat < 256 := byte.toNat_lt
    have quotient : (byte.toNat + 256 * decode bytes) / 256 = decode bytes := by omega
    simp only [List.length_cons, encode, decode, quotient, ih, List.cons.injEq, and_true]
    apply UInt8.toNat_inj.mp
    rw [UInt8.toNat_ofNat']
    omega

end BluetoothHost.LittleEndian
