import BluetoothHost.Bus.Reply
import BluetoothHost.FirstMatch
import BluetoothHost.Journal
import BluetoothHost.Text

/-!
# Owners of a transport

An owner is a client that holds a lock on a transport. It has at most one request in flight: the
acquire that waits for the stream to start, or the release that waits for it to stop. The owners
of a transport stand in the order in which they came; no client is among them twice.
-/

namespace BluetoothHost

/-- What a request in flight is waiting for. -/
inductive RequestKind
  /-- The stream is to start. -/
  | acquire
  /-- The stream is to stop. -/
  | release
deriving DecidableEq

/-- A method call whose answer depends on the profile session. -/
structure Request where
  /-- What it waits for. -/
  kind : RequestKind
  /-- The method call to be answered. -/
  token : ReplyToken
  /-- The request to the session, until the session reports it complete. -/
  id : Option RequestId
deriving DecidableEq

/-- A client that holds a lock. -/
structure Owner where
  /-- The client. -/
  client : ClientName
  /-- The directions that it holds. -/
  lock : Lock
  /-- Its request in flight. -/
  pending : Option Request := none
  /-- The watch for its departure. -/
  watch : Option WatchId := none
deriving DecidableEq

namespace Owner

/-- Whether the owner is this client. -/
def isClient (client : String) (owner : Owner) : Bool := owner.client.value == client

/-- The request that the session is working on for this owner. -/
def inFlight (owner : Owner) : Option RequestId := owner.pending.bind Request.id

end Owner

/-- The owners of one transport, in the order in which they came. -/
structure OwnerSet where
  /-- The owners. -/
  owners : List Owner
deriving DecidableEq

namespace OwnerSet

/-- Nobody. -/
def empty : OwnerSet := ⟨[]⟩

/-- The number of owners. -/
def size (set : OwnerSet) : Nat := set.owners.length

/-- Whether there is no owner. -/
def isEmpty (set : OwnerSet) : Bool := set.owners.isEmpty

/-- The record of a client. -/
def get? (set : OwnerSet) (client : String) : Option Owner :=
  set.owners.find? (Owner.isClient client)

/-- Whether a client is an owner. -/
def contains (set : OwnerSet) (client : String) : Bool := (set.get? client).isSome

/-- The owners with one more at the end. A client can be an owner once only, and the number of
owners is limited. -/
def insert (set : OwnerSet) (owner : Owner) : Except Error OwnerSet :=
  if set.contains owner.client.value then .error .alreadyExists
  else if set.size < Limits.owners then .ok ⟨set.owners ++ [owner]⟩
  else .error .noResources

/-- The owners without a client. -/
def erase (set : OwnerSet) (client : String) : OwnerSet :=
  ⟨set.owners.eraseP (Owner.isClient client)⟩

/-- Change the record of a client. -/
def modify (set : OwnerSet) (client : String) (change : Owner → Owner) : OwnerSet :=
  ⟨updateFirst (Owner.isClient client) change set.owners⟩

/-- Every direction that some owner holds. -/
def lock (set : OwnerSet) : Lock :=
  set.owners.foldl (fun lock owner => lock ||| owner.lock) Lock.none

/-- Whether the session is working on a request of some owner. -/
def hasInFlight (set : OwnerSet) : Bool := set.owners.any fun owner => owner.inFlight.isSome

/-- The owner that came first. -/
def firstClient (set : OwnerSet) : Option ClientName := set.owners.head?.map Owner.client

end OwnerSet

end BluetoothHost
