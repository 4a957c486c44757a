/-!
# Locks and access strings

A lock says which directions of a transport a client holds. A client asks for a lock with an
access string: the letters name the directions, and a question mark makes the request weak, so
that it succeeds only where something already plays.
-/

namespace BluetoothHost

/-- The directions of a transport that are held or asked for. -/
structure Lock where
  /-- Data from the device. -/
  read : Bool
  /-- Data to the device. -/
  write : Bool
deriving DecidableEq

namespace Lock

/-- No direction. -/
def none : Lock := ⟨false, false⟩

/-- Data from the device only. -/
def reading : Lock := ⟨true, false⟩

/-- Data to the device only. -/
def writing : Lock := ⟨false, true⟩

/-- Both directions. -/
def both : Lock := ⟨true, true⟩

/-- The directions of either lock. -/
instance : OrOp Lock := ⟨fun left right => ⟨left.read || right.read, left.write || right.write⟩⟩

/-- The directions common to two locks. -/
instance : AndOp Lock := ⟨fun left right => ⟨left.read && right.read, left.write && right.write⟩⟩

/-- The directions that a lock leaves free. -/
instance : Complement Lock := ⟨fun lock => ⟨!lock.read, !lock.write⟩⟩

/-- Whether a lock has no direction. -/
def isEmpty (lock : Lock) : Bool := !lock.read && !lock.write

/-- Whether every direction of `other` is in `lock`. -/
def contains (lock other : Lock) : Bool :=
  (!other.read || lock.read) && (!other.write || lock.write)

/-- Whether the two locks share a direction. -/
def intersects (lock other : Lock) : Bool := lock.read && other.read || lock.write && other.write

/-- The lock as a number: one for reading, two for writing, added up. -/
def bits (lock : Lock) : UInt8 := (if lock.read then 1 else 0) + (if lock.write then 2 else 0)

/-- The lock as the letters of its directions. -/
def text : Lock → String
  | ⟨false, false⟩ => ""
  | ⟨true, false⟩ => "r"
  | ⟨false, true⟩ => "w"
  | ⟨true, true⟩ => "rw"

end Lock

/-- What an access string asks for. -/
structure Access where
  /-- The directions wanted. -/
  lock : Lock
  /-- Whether the request is meant only for a transport on which something plays. -/
  weak : Bool
deriving DecidableEq

namespace Access

/-- The request after one more character; characters without a meaning are passed over. -/
def note (access : Access) (letter : Char) : Access :=
  if letter = 'r' then { access with lock := access.lock ||| Lock.reading }
  else if letter = 'w' then { access with lock := access.lock ||| Lock.writing }
  else if letter = '?' then { access with weak := true }
  else access

/-- Read an access string; its letters may come in any order and more than once. -/
def parse (text : String) : Access := text.toList.foldl note ⟨Lock.none, false⟩

end Access

end BluetoothHost
