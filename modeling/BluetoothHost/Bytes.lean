import BluetoothHost.Error
import BluetoothHost.Limits

/-!
# Bounded bytes

Attribute values and codec configurations are byte strings of limited length. A `Bytes n`
carries the proof that it holds at most `n` bytes.
-/

namespace BluetoothHost

/-- A byte string of at most `capacity` bytes. -/
structure Bytes (capacity : Nat) where
  /-- The bytes in order. -/
  data : List UInt8
  /-- They fit. -/
  length_le : data.length ≤ capacity
deriving DecidableEq

namespace Bytes

variable {capacity : Nat}

/-- No bytes. -/
def empty (capacity : Nat) : Bytes capacity := ⟨[], Nat.zero_le capacity⟩

/-- The list as bounded bytes, where it fits. -/
def ofList? (capacity : Nat) (data : List UInt8) : Option (Bytes capacity) :=
  if fits : data.length ≤ capacity then some ⟨data, fits⟩ else none

/-- Put more bytes behind those that there are, all of them or none. -/
def extend (bytes : Bytes capacity) (more : List UInt8) : Except Error Unit × Bytes capacity :=
  if fits : (bytes.data ++ more).length ≤ capacity then (.ok (), ⟨bytes.data ++ more, fits⟩)
  else (.error .noResources, bytes)

/-- A list is refused exactly when it is too long. -/
theorem ofList?_eq_none_iff {data : List UInt8} :
    ofList? capacity data = none ↔ capacity < data.length := by
  unfold ofList?
  split <;> simp <;> omega

/-- An accepted list is kept as it is. -/
theorem data_of_ofList? {data : List UInt8} {bytes : Bytes capacity}
    (accepted : ofList? capacity data = some bytes) : bytes.data = data := by
  unfold ofList? at accepted
  split at accepted
  · cases accepted
    rfl
  · cases accepted

/-- Bytes that fit come behind the others. -/
theorem extend_of_le {bytes : Bytes capacity} {more : List UInt8}
    (fits : (bytes.data ++ more).length ≤ capacity) :
    bytes.extend more = (.ok (), ⟨bytes.data ++ more, fits⟩) :=
  dif_pos fits

/-- Bytes that do not fit are refused. -/
theorem extend_of_lt {bytes : Bytes capacity} {more : List UInt8}
    (full : capacity < (bytes.data ++ more).length) :
    bytes.extend more = (.error .noResources, bytes) :=
  dif_neg (Nat.not_le.mpr full)

end Bytes

/-- The raw configuration of a codec. -/
abbrev Configuration := Bytes Limits.configuration

/-- The value of an attribute. -/
abbrev AttributeValue := Bytes Limits.attributeValue

end BluetoothHost
