import BluetoothHost.Host

/-!
# The event queue

Events wait in a bounded queue and are applied in the order in which they were sent. A request to
stop is looked at only when the queue is empty, so every event sent before it is still applied.
-/

namespace BluetoothHost

/-- Events that wait to be applied, the oldest first. -/
structure EventQueue (S : Type) where
  /-- The events. -/
  events : List (Event S) := []

namespace EventQueue

variable {S : Type}

/-- The queue with one more event, if there is room for it. -/
def send? (queue : EventQueue S) (event : Event S) : Option (EventQueue S) :=
  if queue.events.length < Limits.eventQueue then some ⟨queue.events ++ [event]⟩ else none

/-- The queue after several events were sent; those for which there is no room are lost. -/
def sendAll (queue : EventQueue S) (events : List (Event S)) : EventQueue S :=
  events.foldl (fun queue event => (queue.send? event).getD queue) queue

end EventQueue

/-- A request to stop. -/
structure StopRequest (S : Type) where
  /-- The number of turns of the loop after which the request arrives. -/
  turns : Nat
  /-- The events that are sent at the moment at which the host sees the request. -/
  late : List (Event S) := []

namespace Host

variable {S B A : Type} [ProfileSession S] [MessageBus B] [AttributeServer A]

/-- Apply events one after another. -/
def processAll (host : Host S) : List (Event S) → Environment B A → Host S × Environment B A
  | [], env => (host, env)
  | event :: events, env =>
    let (host, env) := host.process event env
    host.processAll events env

/-- Take events one after another until there are none, counting them. -/
def drainEvents (host : Host S) :
    List (Event S) → Environment B A → Nat × EventQueue S × Host S × Environment B A
  | [], env => (0, ⟨[]⟩, host, env)
  | event :: events, env =>
    let (host, env) := host.process event env
    let (count, queue, host, env) := host.drainEvents events env
    (count + 1, queue, host, env)

/-- Apply the events of a queue until it is empty. The number says how many they were. -/
def drain (host : Host S) (queue : EventQueue S) (env : Environment B A) :
    Nat × EventQueue S × Host S × Environment B A :=
  host.drainEvents queue.events env

/-- Wait with an empty queue for a request to stop. What is sent together with the request is
still applied. -/
def awaitStop (host : Host S) (late : List (Event S)) :
    (turns : Nat) → Environment B A → EventQueue S × Host S × Environment B A
  | turns + 1, env => host.awaitStop late turns env
  | 0, env => (host.drain (EventQueue.sendAll {} late) env).2

/-- Turn the loop over the events of a queue: each turn takes the oldest event, and only when
there is none does it look for a request to stop. -/
def runEvents (host : Host S) (late : List (Event S)) :
    List (Event S) → (turns : Nat) → Environment B A → EventQueue S × Host S × Environment B A
  | event :: events, turns, env =>
    let (host, env) := host.process event env
    host.runEvents late events (turns - 1) env
  | [], turns, env => host.awaitStop late turns env

/-- Apply events until a request to stop is seen, then those that are left in the queue. -/
def runUntil (host : Host S) (queue : EventQueue S) (stop : StopRequest S)
    (env : Environment B A) : EventQueue S × Host S × Environment B A :=
  host.runEvents stop.late queue.events stop.turns env

end Host

end BluetoothHost
