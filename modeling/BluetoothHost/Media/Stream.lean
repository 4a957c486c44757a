import BluetoothHost.Media.Access

/-!
# Streams

The stream of a transport is a descriptor with a packet size for each direction. A client is
told the packet sizes of the directions it holds and zero for the others.
-/

namespace BluetoothHost

/-- A stream that is ready to carry data. -/
structure Stream where
  /-- The file descriptor. -/
  descriptor : Int32
  /-- Packet size from the device. -/
  readMtu : UInt16
  /-- Packet size to the device. -/
  writeMtu : UInt16
deriving DecidableEq

namespace Stream

/-- The stream as a client with this lock is told of it. -/
def masked (stream : Stream) (lock : Lock) : Stream where
  descriptor := stream.descriptor
  readMtu := if lock.contains Lock.reading then stream.readMtu else 0
  writeMtu := if lock.contains Lock.writing then stream.writeMtu else 0

/-- The stream with one packet size for both directions. -/
def withMtu (stream : Stream) (mtu : UInt16) : Stream :=
  { stream with readMtu := mtu, writeMtu := mtu }

end Stream

end BluetoothHost
