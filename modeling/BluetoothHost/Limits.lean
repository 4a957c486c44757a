/-!
# Capacities and protocol values

Every collection of the host is bounded, so that a client cannot make it grow without limit.
Sizes of text count bytes of its UTF-8 form.
-/

namespace BluetoothHost.Limits

/-- Media transports alive at once. -/
def transports : Nat := 8

/-- Owners of one transport. -/
def owners : Nat := 4

/-- Bytes of a client's bus name. -/
def clientName : Nat := 32

/-- Bytes of an object path. -/
def objectPath : Nat := 96

/-- Bytes of an access string. -/
def accessText : Nat := 4

/-- Bytes of a property name. -/
def propertyName : Nat := 24

/-- Bytes of a codec configuration. -/
def configuration : Nat := 32

/-- Entries of a property list. -/
def properties : Nat := 12

/-- Attributes in the local database. -/
def attributes : Nat := 64

/-- Bytes of a stored attribute value. -/
def attributeValue : Nat := 64

/-- Nodes on the chain of the service under construction. -/
def chain : Nat := 32

/-- Peers reported by the attribute server. -/
def peers : Nat := 8

/-- Services published by bus clients. -/
def publishedServices : Nat := 4

/-- Objects published under one service. -/
def publishedObjects : Nat := 16

/-- Bytes of a characteristic flag. -/
def flag : Nat := 32

/-- Events waiting in the queue. -/
def eventQueue : Nat := 8

/-- Packet size of voice transports unless the host is told otherwise. -/
def defaultVoiceMtu : UInt16 := 48

/-- Highest absolute volume. -/
def volume : UInt16 := 127

/-- First attribute handle of a fresh database. -/
def firstHandle : UInt16 := 0x0001

/-- Highest attribute handle there is. -/
def lastHandle : UInt16 := 0xFFFF

end BluetoothHost.Limits
