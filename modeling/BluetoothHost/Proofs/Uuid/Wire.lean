import BluetoothHost.Proofs.Gatt.Declaration
import Mathlib.Data.Nat.Digits.Defs

/-!
# UUIDs written and read as bytes

A UUID is written behind the bytes of a buffer as a whole or not at all, in the width of its form
and with the lowest byte first. Reading takes the form from the number of bytes, so it gives back
what was written, and the bytes that it accepts are those that some UUID is written as.
-/

namespace BluetoothHost

namespace LittleEndian

/-- The bytes are the digits of the number to base 256, the lowest first. -/
theorem decode_eq_ofDigits (bytes : List UInt8) :
    decode bytes = Nat.ofDigits 256 (bytes.map UInt8.toNat) := by
  induction bytes with
  | nil => rfl
  | cons byte rest ih => rw [decode, ih, List.map_cons, Nat.ofDigits_cons]

/-- No more numbers are denoted than the width can write. -/
theorem decode_lt_count (bytes : List UInt8) : decode bytes < count bytes.length := by
  induction bytes with
  | nil => exact Nat.one_pos
  | cons byte rest ih =>
    have small : byte.toNat < 256 := byte.toNat_lt
    rw [decode, List.length_cons, count]
    omega

end LittleEndian

namespace Uuid

variable {capacity : Nat}

/-- The number in a form, short forms not expanded. -/
def number : Uuid → Nat
  | uuid16 number => number.toNat
  | uuid32 number => number.toNat
  | uuid128 number => number.toNat

/-- A form is written with the lowest byte of its number first. -/
theorem ofDigits_bytes (uuid : Uuid) :
    Nat.ofDigits 256 (uuid.bytes.map UInt8.toNat) = uuid.number := by
  rw [← LittleEndian.decode_eq_ofDigits]
  cases uuid with
  | uuid16 number =>
    rw [bytes, LittleEndian.decode_encode]
    exact Nat.mod_eq_of_lt number.toNat_lt
  | uuid32 number =>
    rw [bytes, LittleEndian.decode_encode]
    exact Nat.mod_eq_of_lt number.toNat_lt
  | uuid128 number =>
    rw [bytes, LittleEndian.decode_encode]
    exact Nat.mod_eq_of_lt number.isLt

/-- What is read as a UUID is what that UUID is written as. -/
theorem bytes_of_ofBytes? {bytes : List UInt8} {uuid : Uuid} (read : ofBytes? bytes = some uuid) :
    uuid.bytes = bytes := by
  have bound := LittleEndian.decode_lt_count bytes
  have written := LittleEndian.encode_decode bytes
  unfold ofBytes? at read
  dsimp only at read
  split at read
  · rename_i length
    cases read
    rw [length] at bound written
    rw [Uuid.bytes, UInt16.toNat_ofNat_of_lt' bound, written]
  · rename_i length
    cases read
    rw [length] at bound written
    rw [Uuid.bytes, UInt32.toNat_ofNat_of_lt' bound, written]
  · rename_i length
    cases read
    rw [length] at bound written
    have same : LittleEndian.decode bytes % 2 ^ 128 = LittleEndian.decode bytes :=
      Nat.mod_eq_of_lt bound
    rw [Uuid.bytes, BitVec.toNat_ofNat, same, written]
  · cases read

/-- A UUID is read from two, four or sixteen bytes, whatever they are. -/
theorem ofBytes?_isSome_iff (bytes : List UInt8) :
    (ofBytes? bytes).isSome = true ↔ bytes.length ∈ [2, 4, 16] := by
  unfold ofBytes?
  dsimp only
  split <;> simp_all

/-- A UUID is written behind the bytes of a buffer if there is room for all of it. -/
structure WrittenBehind (uuid : Uuid) (out : Bytes capacity) : Prop where
  /-- Then exactly the bytes of its form come behind, the lowest first, and it is read back from
  them. -/
  fits : out.data.length + uuid.width ≤ capacity →
    ∃ more, (uuid.write out).1 = .ok () ∧ (uuid.write out).2.data = out.data ++ more ∧
      more.length = uuid.width ∧ Nat.ofDigits 256 (more.map UInt8.toNat) = uuid.number ∧
      ofBytes? more = some uuid
  /-- Otherwise it is refused, and the buffer is as it was. -/
  full : capacity < out.data.length + uuid.width → uuid.write out = (.error .noResources, out)

/-- Every UUID is written so behind whatever bytes. -/
theorem writtenBehind (uuid : Uuid) (out : Bytes capacity) : uuid.WrittenBehind out := by
  have length : (out.data ++ uuid.bytes).length = out.data.length + uuid.width := by
    rw [List.length_append, length_bytes]
  constructor
  · intro room
    have written : uuid.write out = (.ok (), ⟨out.data ++ uuid.bytes, length ▸ room⟩) :=
      Bytes.extend_of_le (length ▸ room)
    rw [written]
    exact ⟨uuid.bytes, rfl, rfl, uuid.length_bytes, uuid.ofDigits_bytes, ofBytes?_bytes uuid⟩
  · intro full
    exact Bytes.extend_of_lt (length ▸ full)

/-- What was read is written as the same bytes again. -/
theorem write_of_ofBytes? {bytes : List UInt8} {uuid : Uuid} (read : ofBytes? bytes = some uuid)
    (fits : bytes.length ≤ capacity) :
    uuid.write (Bytes.empty capacity) = (.ok (), ⟨bytes, fits⟩) := by
  rw [write, bytes_of_ofBytes? read]
  exact Bytes.extend_of_le fits

end Uuid

end BluetoothHost
