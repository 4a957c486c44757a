/-!
# Attribute handles

Attributes are numbered by handles of 16 bits. A registered service covers a range of them.
-/

namespace BluetoothHost

/-- The number of an attribute. -/
abbrev Handle := UInt16

/-- The handles from `first` to `last`, both included. -/
structure HandleRange where
  /-- The first handle. -/
  first : Handle
  /-- The last handle. -/
  last : Handle
deriving DecidableEq

namespace HandleRange

/-- Whether a handle lies in the range. -/
def contains (range : HandleRange) (handle : Handle) : Bool :=
  range.first ≤ handle && handle ≤ range.last

end HandleRange

/-- The handle behind another one, as far as there is one. -/
def handleAfter (handle : Handle) : Handle := if handle = 0xFFFF then handle else handle + 1

end BluetoothHost
