import BluetoothHost.Error
import BluetoothHost.Text
import BluetoothHost.Text.Hex

/-!
# Device addresses

The six octets that name a remote device. An address is written as six pairs of upper-case
digits, joined by colons for people and by underscores within an object path, and read from
pairs of either case joined by colons.
-/

namespace BluetoothHost

/-- The address of a remote device. -/
structure Address where
  /-- The six octets in the order in which they are written. -/
  octets : Vector UInt8 6
deriving DecidableEq

namespace Address

/-- The address with these octets, if there are six. -/
def ofOctets? (octets : List UInt8) : Option Address :=
  if six : octets.toArray.size = 6 then some ⟨⟨octets.toArray, six⟩⟩ else none

/-- The two upper-case digits of an octet. -/
def pair (octet : UInt8) : List Char := (Hex.digits 2 octet.toNat).map Char.toUpper

/-- The pairs of an address with a separator between neighbours. -/
def join (separator : Char) (address : Address) : List Char :=
  List.intercalate [separator] (address.octets.toList.map pair)

/-- The text of an address. -/
def text (address : Address) : String := String.ofList (address.join ':')

/-- The last segment of the object path of a device. -/
def pathSegment (address : Address) : String := String.ofList ("dev_".toList ++ address.join '_')

/-- The object path of a device below its adapter, if it is not too long. -/
def devicePath (address : Address) (adapterPath : String) : Except Error ObjectPath :=
  match Text.ofString? Limits.objectPath (adapterPath ++ "/" ++ address.pathSegment) with
  | some path => .ok path
  | none => .error .invalidArguments

/-- The size of the text of an address in bytes: six pairs and the colons between them. -/
def textSize : Nat := 17

/-- The letters that may stand in the text of an address. -/
def isLetter (letter : Char) : Bool := (Hex.digitValue? letter).isSome || letter == ':'

/-- The digits of a number behind the plus sign that it may have. -/
def withoutSign : List Char → List Char
  | '+' :: digits => digits
  | digits => digits

/-- The octet written as digits, behind a plus sign or without one. There is some digit, and the
number is not too large. -/
def octet? (part : List Char) : Option UInt8 :=
  match withoutSign part with
  | [] => none
  | digit :: digits =>
    match Hex.ofDigits? (digit :: digits) with
    | some number => if number < 256 then some (UInt8.ofNat number) else none
    | none => none

/-- Write the octets of the parts over those that are there, the first at this place and the others
behind it. Each part has two bytes, is an octet and finds a place. -/
def fill (octets : Vector UInt8 6) (place : Nat) : (parts : List (List Char)) →
    Option (Vector UInt8 6)
  | [] => some octets
  | part :: parts =>
    if fits : place < 6 ∧ (String.ofList part).utf8ByteSize = 2 then
      match octet? part with
      | some octet => fill (octets.set place octet fits.1) (place + 1) parts
      | none => none
    else
      none

/-- Read an address over octets that are there: the size and the letters of its text are checked
first, and then the parts between the colons are written to their places. -/
def readOver (octets : Vector UInt8 6) (text : String) : Except Error Address :=
  if text.utf8ByteSize = textSize ∧ text.toList.all isLetter then
    match fill octets 0 (text.toList.splitOn ':') with
    | some octets => .ok ⟨octets⟩
    | none => .error .invalidArguments
  else
    .error .invalidArguments

/-- Read an address: six pairs of digits joined by colons. -/
def parse (text : String) : Except Error Address := readOver (Vector.replicate 6 0) text

end Address

end BluetoothHost
