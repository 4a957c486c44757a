import BluetoothHost.Host
import BluetoothHost.Proofs.Gatt.Registrations
import BluetoothHost.Proofs.Media.Table

/-!
# What an event settles

A method call that waits is settled by at most one event, and events answer no method call that
does not wait, other than their own.
-/

namespace BluetoothHost

/-- The token of a method call. -/
def Event.token? {S : Type} : Event S → Option ReplyToken
  | .methodCall _ token _ => some token
  | _ => none

namespace Host

variable {S B A : Type} {token other : ReplyToken}

/-- What happens between two moments keeps the transports sound, brings no registration under this
token, and answers the method call at most once, where it no longer waits. -/
structure Settles (token : ReplyToken) (before after : Host S) (first second : Environment B A) :
    Prop where
  /-- The transports stay sound. -/
  sound : after.transports.Sound
  /-- No service waits to be registered under the token. -/
  unregistered : after.publications.Unregistered token
  /-- The calls account for the method call. -/
  account : ∃ calls, first.Makes calls second ∧
    Settlement (before.transports.waiting token) (after.transports.waiting token)
      (repliesTo token calls)

/-- What is known of a host of which at most one owner keeps this token and no service does. -/
structure Ready (token : ReplyToken) (host : Host S) : Prop where
  /-- The transports are sound. -/
  sound : host.transports.Sound
  /-- The method call waits at most once. -/
  once : host.transports.waiting token ≤ 1
  /-- No service waits to be registered under the token. -/
  unregistered : host.publications.Unregistered token

/-- A fresh host keeps no token. -/
theorem ready_create (options : HostOptions) : (create options : Host S).Ready token where
  sound := by simp [create, TransportTable.Sound]
  once := Nat.zero_le 1
  unregistered := by simp [create, Publications.Unregistered]

namespace Settles

variable {first second third : Host S} {before between after : Environment B A}

/-- A host stays ready. -/
theorem ready (settles : Settles token first second before after) (ready : first.Ready token) :
    second.Ready token := by
  obtain ⟨_, -, settlement⟩ := settles.account
  exact ⟨settles.sound, Nat.le_trans settlement.le ready.once, settles.unregistered⟩

/-- What settles a method call is followed by what settles it further. -/
theorem trans (earlier : Settles token first second before between)
    (later : Settles token second third between after) (ready : first.Ready token) :
    Settles token first third before after := by
  obtain ⟨made, makes, settlement⟩ := earlier.account
  obtain ⟨more, further, rest⟩ := later.account
  refine ⟨later.sound, later.unregistered, made ++ more, makes.append further, ?_⟩
  rw [repliesTo_append]
  exact settlement.trans rest ready.once

/-- What settles a method call may be followed by calls that do not answer it. -/
theorem silent (earlier : Settles token first second before between)
    (quiet : between.Silent token after) : Settles token first second before after := by
  obtain ⟨made, makes, settlement⟩ := earlier.account
  obtain ⟨more, further, none⟩ := quiet
  refine ⟨earlier.sound, earlier.unregistered, made ++ more, makes.append further, ?_⟩
  rw [repliesTo_append, none, List.append_nil]
  exact settlement

end Settles

variable {host : Host S}

/-- Where the transports stay and nothing is answered, the method call goes on waiting. -/
theorem settles_of_silent (ready : host.Ready token) {database : Database}
    {publications : Publications} (unregistered : publications.Unregistered token)
    {first second : Environment B A} (silent : first.Silent token second) :
    Settles token host { host with publications, database } first second := by
  obtain ⟨calls, made, none⟩ := silent
  refine ⟨ready.sound, unregistered, calls, made, ?_⟩
  rw [none]
  exact .kept _

/-- What settles a method call for the transports settles it for the host. -/
theorem settles_of_transports (ready : host.Ready token) {transports : TransportTable S}
    {first second : Environment B A}
    (settles : TransportTable.Settles token host.transports transports first second) :
    Settles token host { host with transports } first second :=
  ⟨settles.sound, ready.unregistered, settles.account⟩

/-- An operation on the transport of a path settles what it settles for the table. -/
theorem onTransport_settles {α : Type} (ready : host.Ready token) (path : ObjectPath)
    (operation : TransportId → TransportTable S → Environment B A →
      Except Error α × TransportTable S × Environment B A) (env : Environment B A)
    (each : ∀ id, TransportTable.Settles token host.transports
      (operation id host.transports env).2.1 env (operation id host.transports env).2.2) :
    Settles token host (host.onTransport path operation env).2.1 env
      (host.onTransport path operation env).2.2 := by
  unfold onTransport
  cases host.transports.findPath? path.value with
  | none => exact settles_of_transports ready (.refl ready.sound env)
  | some id => exact settles_of_transports ready (each id)

section Answer

variable [MessageBus B]

/-- Another method call is answered without this one. -/
theorem answer_silent (different : other ≠ token) (outcome : Except Error (Option Reply))
    (env : Environment B A) : env.Silent token (answer other outcome env) := by
  match outcome with
  | .ok none => exact .refl env
  | .ok (some reply) => exact env.sendReply_silent different reply
  | .error cause => exact env.sendReply_silent different (.error cause)

/-- A method call whose outcome is known is answered with one reply. -/
theorem answer_replies {outcome : Except Error (Option Reply)} (known : outcome ≠ .ok none)
    (env : Environment B A) :
    ∃ calls accepted, env.Makes calls (answer token outcome env) ∧
      repliesTo token calls = [accepted] := by
  match outcome with
  | .ok none => exact absurd rfl known
  | .ok (some reply) => exact ⟨_, _, env.sendReply_makes token reply, repliesTo_reply _ _ _ _⟩
  | .error cause =>
    exact ⟨_, _, env.sendReply_makes token (.error cause), repliesTo_reply _ _ _ _⟩

end Answer

section Events

variable [ProfileSession S] [MessageBus B] [AttributeServer A]

/-- A method call of these kinds is answered while it is processed. -/
inductive Immediate : MethodCall → Prop
  /-- Properties are read at once. -/
  | getProperties (transport : ObjectPath) : Immediate (.getProperties transport)
  /-- A property is set at once. -/
  | setProperty (transport : ObjectPath) (name : PropertyName) (value : PropertyValue) :
      Immediate (.setProperty transport name value)
  /-- A service is given up at once. -/
  | unregisterService (path : ObjectPath) : Immediate (.unregisterService path)

/-- What is done for an immediate call settles every method call that waits. -/
theorem immediate_settles (ready : host.Ready token) {call : MethodCall}
    (immediate : Immediate call) (client : String) (other : ReplyToken) (env : Environment B A) :
    Settles token host (host.call client other call env).2.1 env
      (host.call client other call env).2.2 := by
  have ⟨sound, once, unregistered⟩ := ready
  cases immediate with
  | getProperties transport =>
    exact onTransport_settles ready transport
      (fun id table env => (table.properties id, table, env)) env fun id => .refl sound env
  | setProperty transport name value =>
    exact onTransport_settles ready transport
      (fun id table => table.setProperty id client name.value value) env fun id =>
      TransportTable.act_reaction_settles sound once id (fun transport env _ =>
        transport.setProperty_reaction client name.value value env) env
  | unregisterService path =>
    exact settles_of_silent ready (Publications.unregister_unregistered unregistered _ env)
      (host.publications.unregister_silent host.database client path.value env)

/-- The outcome of an immediate call is known. -/
theorem immediate_outcome {call : MethodCall} (immediate : Immediate call) (host : Host S)
    (client : String) (env : Environment B A) : (host.call client token call env).1 ≠ .ok none := by
  have known : ∀ {α : Type} (outcome : Except Error α) (reply : α → Reply),
      (outcome.map fun result => some (reply result)) ≠ .ok none := by
    intro α outcome reply
    cases outcome <;> simp [Except.map]
  cases immediate with
  | getProperties transport => exact known _ Reply.properties
  | setProperty transport name value => exact known _ fun _ => Reply.done
  | unregisterService path => exact known _ fun _ => Reply.done

/-- What is called for under another token settles this method call. -/
theorem call_settles (ready : host.Ready token) (different : other ≠ token) (client : String)
    (call : MethodCall) (env : Environment B A) :
    Settles token host (host.call client other call env).2.1 env
      (host.call client other call env).2.2 := by
  have ⟨sound, once, unregistered⟩ := ready
  cases call with
  | acquire transport access =>
    exact onTransport_settles ready transport
      (fun id table => table.acquire id client other access.value) env fun id =>
      TransportTable.acquire_settles sound once id different client access.value env
  | release transport access =>
    exact onTransport_settles ready transport
      (fun id table => table.release id client other access.value) env fun id =>
      TransportTable.release_settles sound once id different client access.value env
  | registerService path =>
    exact settles_of_silent ready
      (Publications.register_unregistered unregistered different) (.refl env)
  | getProperties transport => exact immediate_settles ready (.getProperties _) client other env
  | setProperty transport name value =>
    exact immediate_settles ready (.setProperty _ _ _) client other env
  | unregisterService path =>
    exact immediate_settles ready (.unregisterService _) client other env

/-- Every event that is no method call under this token settles it. -/
theorem process_settles (ready : host.Ready token) (event : Event S)
    (foreign : event.token? ≠ some token) (env : Environment B A) :
    Settles token host (host.process event env).1 env (host.process event env).2 := by
  have ⟨sound, once, unregistered⟩ := ready
  cases event with
  | methodCall client other call =>
    have different : other ≠ token := fun same => foreign (congrArg some same)
    exact (call_settles ready different client.value call env).silent
      (answer_silent different _ _)
  | transportConfigured device devicePath uuid codec configuration session =>
    exact settles_of_transports ready (host.transports.create_settles sound _ session env)
  | transportClosed transport =>
    exact onTransport_settles ready transport _ env fun id =>
      host.transports.remove_settles sound once id env
  | resumeComplete transport client request result =>
    exact onTransport_settles ready transport _ env fun id =>
      TransportTable.act_reaction_settles sound once id (fun transport env kept =>
        Transport.resumeComplete_reaction kept client.value request result env) env
  | suspendComplete transport client request =>
    exact onTransport_settles ready transport _ env fun id =>
      TransportTable.act_reaction_settles sound once id (fun transport env _ =>
        transport.suspendComplete_reaction client.value request env) env
  | playbackChanged transport playing =>
    exact onTransport_settles ready transport _ env fun id =>
      TransportTable.act_reaction_settles sound once id (fun transport env _ =>
        transport.reportPlaying_reaction playing env) env
  | delayReported transport delay =>
    exact onTransport_settles ready transport _ env fun id =>
      TransportTable.act_reaction_settles sound once id (fun transport env _ =>
        transport.reportDelay_reaction delay env) env
  | volumeReported transport volume =>
    exact onTransport_settles ready transport _ env fun id =>
      TransportTable.act_reaction_settles sound once id (fun transport env _ =>
        transport.reportVolume_reaction volume env) env
  | clientDisconnected client =>
    have left := settles_of_transports ready
      (host.transports.clientDisconnected_settles sound once client.value env)
    have kept := @Publications.clientDisconnected_unregistered B A token _ client.value _
      unregistered host.database (host.transports.clientDisconnected client.value env).2.2
    have silent := @Publications.clientDisconnected_silent B A token _ host.publications
      host.database client.value (host.transports.clientDisconnected client.value env).2.2
    exact left.trans (settles_of_silent (left.ready ready) kept silent) ready
  | objectPublished client object =>
    exact settles_of_silent ready (Publications.publish_unregistered unregistered object)
      (.refl env)
  | objectWithdrawn client path =>
    exact settles_of_silent ready (Publications.withdraw_unregistered unregistered) (.refl env)
  | clientReady client path =>
    have ⟨silent, kept⟩ :=
      @Publications.clientReady_silent B A token host.publications client.value path.value _ _
        unregistered host.database env
    exact settles_of_silent ready kept silent
  | valueChanged client path value =>
    exact settles_of_silent ready (Publications.valueChanged_unregistered unregistered _ _ env)
      (host.publications.valueChanged_silent host.database client.value path.value value.data env)

end Events

end Host

end BluetoothHost
