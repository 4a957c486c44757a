import BluetoothHost.Limits

/-!
# Characteristic properties

The properties octet of a characteristic says what peers may do with its value. Clients name the
properties by flags, and what a peer may do over the air follows from the octet.
-/

namespace BluetoothHost

/-- The properties octet of a characteristic. -/
structure CharacteristicProperties where
  /-- The octet, one bit for each property. -/
  bits : UInt8
deriving DecidableEq

namespace CharacteristicProperties

/-- No property. -/
def none : CharacteristicProperties := ⟨0x00⟩

/-- The value may be broadcast. -/
def broadcast : CharacteristicProperties := ⟨0x01⟩

/-- The value may be read. -/
def read : CharacteristicProperties := ⟨0x02⟩

/-- The value may be written without a response. -/
def writeWithoutResponse : CharacteristicProperties := ⟨0x04⟩

/-- The value may be written. -/
def write : CharacteristicProperties := ⟨0x08⟩

/-- Changes of the value may be notified. -/
def notify : CharacteristicProperties := ⟨0x10⟩

/-- Changes of the value may be indicated. -/
def indicate : CharacteristicProperties := ⟨0x20⟩

/-- The value may be written with a signature. -/
def signedWrite : CharacteristicProperties := ⟨0x40⟩

/-- The properties in either octet. -/
instance : OrOp CharacteristicProperties := ⟨fun left right => ⟨left.bits ||| right.bits⟩⟩

/-- The properties of a characteristic whose client publishes no flags. -/
def unflagged : CharacteristicProperties := read ||| write ||| writeWithoutResponse

/-- Whether no property is set. -/
def isEmpty (properties : CharacteristicProperties) : Bool := properties.bits == 0

/-- Whether every property of `other` is set. -/
def contains (properties other : CharacteristicProperties) : Bool :=
  properties.bits &&& other.bits == other.bits

/-- Whether some property of `other` is set. -/
def intersects (properties other : CharacteristicProperties) : Bool :=
  properties.bits &&& other.bits != 0

/-- Whether changes of the value are sent to peers, for which each peer has a configuration
descriptor. -/
def pushesUpdates (properties : CharacteristicProperties) : Bool :=
  properties.intersects (notify ||| indicate)

/-- The property that a flag names. -/
def ofFlag? (flag : String) : Option CharacteristicProperties :=
  match flag with
  | "broadcast" => some broadcast
  | "read" => some read
  | "write-without-response" => some writeWithoutResponse
  | "write" => some write
  | "notify" => some notify
  | "indicate" => some indicate
  | "authenticated-signed-writes" => some signedWrite
  | _ => Option.none

/-- A flag that is known is not too long. -/
theorem utf8ByteSize_le_of_ofFlag? {flag : String} {property : CharacteristicProperties}
    (known : ofFlag? flag = some property) : flag.utf8ByteSize ≤ Limits.flag := by
  unfold ofFlag? at known
  split at known
  case h_8 => cases known
  all_goals decide

/-- The properties that all the flags name, if every one is known. -/
def union? : List String → Option CharacteristicProperties
  | [] => some none
  | flag :: flags =>
    match ofFlag? flag, union? flags with
    | some property, some properties => some (property ||| properties)
    | _, _ => Option.none

/-- The properties that a list of flags names; an empty list is as useless as an unknown flag. -/
def ofFlags? (flags : List String) : Option CharacteristicProperties :=
  (union? flags).filter fun properties => !properties.isEmpty

end CharacteristicProperties

/-- What peers may do with an attribute. -/
structure Permissions where
  /-- They may read it. -/
  read : Bool
  /-- They may write it. -/
  write : Bool
deriving DecidableEq

namespace Permissions

/-- Neither reading nor writing. -/
def none : Permissions := ⟨false, false⟩

/-- Reading and writing. -/
def both : Permissions := ⟨true, true⟩

/-- What the properties of a characteristic allow; either kind of write counts. -/
def ofProperties (properties : CharacteristicProperties) : Permissions where
  read := properties.contains .read
  write := properties.intersects (.write ||| .writeWithoutResponse)

end Permissions

end BluetoothHost
