import BluetoothHost.Bytes.LittleEndian
import BluetoothHost.Environment

/-!
# Service Changed indications

Peers that remember the database are told which handles a change touched. The indication goes to
every peer that is both trusted and connected, in the order in which the server reports them.
-/

namespace BluetoothHost

/-- The opcode of an indication. -/
def indicationOpcode : UInt8 := 0x1D

namespace HandleRange

/-- The indication that a range has changed: the opcode and both ends. -/
def changedMessage (range : HandleRange) : List UInt8 :=
  indicationOpcode ::
    LittleEndian.encode 2 range.first.toNat ++ LittleEndian.encode 2 range.last.toNat

end HandleRange

namespace Peer

/-- Whether a peer is told about changes. -/
def isInformed (peer : Peer) : Bool := peer.trusted && peer.connected

end Peer

namespace Environment

variable {B A : Type} [AttributeServer A]

/-- Tell the peers that a range has changed. The number says how many were told. -/
def sendServiceChanged (env : Environment B A) (range : HandleRange) : Nat × Environment B A :=
  let informed := (AttributeServer.peers env.server).filter Peer.isInformed
  (informed.length,
    informed.foldl (fun env peer => env.sendIndication peer.address range.changedMessage) env)

end Environment

end BluetoothHost
