import BluetoothHost.Host.Queue

/-!
# The loop applies what is queued

A turn of the loop takes the oldest event, and only if there is none does it look for a request to
stop; when the request is there, what has come into the queue meanwhile is taken out of it without
waiting. However the events are divided between the turns and that last drain, all of them are
applied one after another in the order of the queue, which is empty then.
-/

namespace BluetoothHost

variable {S B A : Type}

namespace EventQueue

/-- Events are queued in the order in which they are sent, as many as there is room for. -/
theorem events_sendAll (queue : EventQueue S) (events : List (Event S)) :
    (queue.sendAll events).events =
      queue.events ++ events.take (Limits.eventQueue - queue.events.length) := by
  induction events generalizing queue with
  | nil => rw [List.take_nil, List.append_nil, sendAll, List.foldl_nil]
  | cons event rest ih =>
    have sent : queue.sendAll (event :: rest) = ((queue.send? event).getD queue).sendAll rest := rfl
    rw [sent]
    by_cases room : queue.events.length < Limits.eventQueue
    · have taken : queue.send? event = some ⟨queue.events ++ [event]⟩ := by
        rw [send?, if_pos room]
      have left : Limits.eventQueue - queue.events.length =
          Limits.eventQueue - (queue.events.length + 1) + 1 := by
        omega
      rw [taken, Option.getD_some, ih, left, List.take_succ_cons, List.length_append,
        List.length_singleton, List.append_assoc, List.singleton_append]
    · have lost : queue.send? event = none := by rw [send?, if_neg room]
      have none : Limits.eventQueue - queue.events.length = 0 := by omega
      rw [lost, Option.getD_none, ih, none, List.take_zero, List.take_zero]

end EventQueue

/-- What a turn of the loop goes on with. -/
inductive Selected (S : Type)
  /-- The oldest event; these others are left. -/
  | event (event : Event S) (rest : EventQueue S)
  /-- The request to stop. -/
  | stop
  /-- Neither is there yet. -/
  | nothing

/-- The queue is asked first, and only if it is empty is the request looked at. -/
def select (queue : EventQueue S) (stop : StopRequest S) : Selected S :=
  match queue.events, stop.turns with
  | event :: events, _ => .event event ⟨events⟩
  | [], 0 => .stop
  | [], _ + 1 => .nothing

/-- The request as it is one turn later. -/
def StopRequest.turned (stop : StopRequest S) : StopRequest S :=
  { stop with turns := stop.turns - 1 }

namespace Host

variable [ProfileSession S] [MessageBus B] [AttributeServer A]

/-- Apply an event to a host among its neighbours. -/
def advance (state : Host S × Environment B A) (event : Event S) : Host S × Environment B A :=
  state.1.process event state.2

/-- To apply events one after another is to fold over them. -/
theorem processAll_eq_foldl (host : Host S) (events : List (Event S)) (env : Environment B A) :
    host.processAll events env = events.foldl advance (host, env) := by
  induction events generalizing host env with
  | nil => rfl
  | cons event rest ih => exact ih (host.process event env).1 (host.process event env).2

/-- Draining takes all events and counts them. -/
theorem drain_eq (host : Host S) (queue : EventQueue S) (env : Environment B A) :
    host.drain queue env = (queue.events.length, ⟨[]⟩, queue.events.foldl advance (host, env)) := by
  obtain ⟨events⟩ := queue
  unfold drain
  induction events generalizing host env with
  | nil => rfl
  | cons event rest ih =>
    have others := ih (host.process event env).1 (host.process event env).2
    have counted : host.drainEvents (event :: rest) env =
        (((host.process event env).1.drainEvents rest (host.process event env).2).1 + 1,
          ((host.process event env).1.drainEvents rest (host.process event env).2).2) := rfl
    rw [counted, others]
    rfl

/-- A turn applies the event that it selects. On a request to stop the loop ends with a drain, and
otherwise it goes on. -/
theorem runUntil_select (host : Host S) (queue : EventQueue S) (stop : StopRequest S)
    (env : Environment B A) :
    host.runUntil queue stop env =
      match select queue stop with
      | .event event rest =>
        (host.process event env).1.runUntil rest stop.turned (host.process event env).2
      | .stop => (host.drain (queue.sendAll stop.late) env).2
      | .nothing => host.runUntil queue stop.turned env := by
  obtain ⟨events⟩ := queue
  obtain ⟨turns, late⟩ := stop
  cases events with
  | nil => cases turns <;> rfl
  | cons event rest => rfl

/-- Whenever the request comes, the loop ends with an empty queue, and what was queued and what is
sent together with the request has been applied in order. -/
theorem runUntil_eq (host : Host S) (queue : EventQueue S) (stop : StopRequest S)
    (env : Environment B A) :
    host.runUntil queue stop env =
      (⟨[]⟩, (queue.events ++ stop.late.take Limits.eventQueue).foldl advance (host, env)) := by
  obtain ⟨events⟩ := queue
  obtain ⟨turns, late⟩ := stop
  -- The turns go first through the events and then through the wait for the request.
  induction events generalizing host turns env with
  | cons event rest ih =>
    rw [runUntil_select]
    exact ih (host.process event env).1 (host.process event env).2 (turns - 1)
  | nil =>
    induction turns with
    | succ turns waited =>
      rw [runUntil_select]
      exact waited
    | zero =>
      rw [runUntil_select]
      show (host.drain (EventQueue.sendAll ⟨[]⟩ late) env).2 = _
      rw [drain_eq, EventQueue.events_sendAll]
      rfl

/-- Whatever the queue holds when the loop starts and however many turns later the request to stop
comes, the loop leaves an empty queue and has applied the events one after another in the order of
the queue. So does a drain, which counts them, and so does a loop that applies any number of them
before the others are drained. Events that are sent together with the request are applied behind
those of before, as many as the queue has room for. -/
theorem runUntil_applies (host : Host S) (queue : EventQueue S) (env : Environment B A) :
    let applied := queue.events.foldl advance (host, env)
    (∀ turns, host.runUntil queue ⟨turns, []⟩ env = (⟨[]⟩, applied)) ∧
    host.drain queue env = (queue.events.length, ⟨[]⟩, applied) ∧
    (∀ count, let (halfway, between) := host.processAll (queue.events.take count) env
      halfway.drain ⟨queue.events.drop count⟩ between =
        (queue.events.length - count, ⟨[]⟩, applied)) ∧
    ∀ stop : StopRequest S, host.runUntil queue stop env =
      (⟨[]⟩, (stop.late.take Limits.eventQueue).foldl advance applied) := by
  intro applied
  refine ⟨fun turns => ?_, drain_eq host queue env, fun count => ?_, fun stop => ?_⟩
  · rw [runUntil_eq, List.take_nil, List.append_nil]
  · have divided : (queue.events.drop count).foldl advance
        ((queue.events.take count).foldl advance (host, env)) = applied := by
      rw [← List.foldl_append, List.take_append_drop]
    dsimp only
    rw [drain_eq, List.length_drop]
    show (_, _, (queue.events.drop count).foldl advance
      (host.processAll (queue.events.take count) env)) = _
    rw [processAll_eq_foldl, divided]
  · rw [runUntil_eq, List.foldl_append]

end Host

end BluetoothHost
