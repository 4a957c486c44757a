import BluetoothHost.Limits

/-!
# Bounded text

Names and paths on the bus are strings of limited size. A `Text n` carries the proof that its
UTF-8 form has at most `n` bytes, so a value of the type needs no further check.
-/

namespace BluetoothHost

/-- A string of at most `capacity` bytes in UTF-8. -/
structure Text (capacity : Nat) where
  /-- The characters. -/
  value : String
  /-- They fit. -/
  size_le : value.utf8ByteSize ≤ capacity
deriving DecidableEq

namespace Text

/-- The string as bounded text, where it fits. -/
def ofString? (capacity : Nat) (value : String) : Option (Text capacity) :=
  if fits : value.utf8ByteSize ≤ capacity then some ⟨value, fits⟩ else none

/-- A string is refused exactly when it is too long. -/
theorem ofString?_eq_none_iff {capacity : Nat} {value : String} :
    ofString? capacity value = none ↔ capacity < value.utf8ByteSize := by
  unfold ofString?
  split <;> simp <;> omega

/-- An accepted string is kept as it is. -/
theorem value_of_ofString? {capacity : Nat} {value : String} {text : Text capacity}
    (accepted : ofString? capacity value = some text) : text.value = value := by
  unfold ofString? at accepted
  split at accepted
  · cases accepted
    rfl
  · cases accepted

/-- Bounded text is determined by its characters. -/
theorem eq_of_value {capacity : Nat} {left right : Text capacity}
    (same : left.value = right.value) :
    left = right := by
  cases left
  cases right
  cases same
  rfl

end Text

/-- The unique bus name of a client. -/
abbrev ClientName := Text Limits.clientName

/-- The path of an object on the bus. -/
abbrev ObjectPath := Text Limits.objectPath

/-- The string in which a client says what access it wants. -/
abbrev AccessText := Text Limits.accessText

/-- The name of a property in a method call. -/
abbrev PropertyName := Text Limits.propertyName

end BluetoothHost
