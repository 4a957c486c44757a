import BluetoothHost.Gatt.Publication
import BluetoothHost.Host.Event
import BluetoothHost.Media.Table

/-!
# The host

The host owns the transports, the local database and the services that clients publish, and
applies one event at a time. Method calls that can be settled at once are answered at once; the
others are answered when the profile session or the client has reported. Failures of events that
nobody waits for change nothing and are not reported.
-/

namespace BluetoothHost

/-- What can be chosen when a host is made. -/
structure HostOptions where
  /-- The packet size of voice transports. -/
  voiceMtu : UInt16 := Limits.defaultVoiceMtu
  /-- The first attribute handle. -/
  firstHandle : Handle := Limits.firstHandle
  /-- Whether peers are told about changes of the database. -/
  announces : Bool := true
deriving DecidableEq

/-- The transports, the local database and the published services. -/
structure Host (S : Type) where
  /-- The transports. -/
  transports : TransportTable S
  /-- The local database. -/
  database : Database
  /-- The services that clients implement. -/
  publications : Publications
  /-- The options with which the host was made. -/
  options : HostOptions

namespace Host

variable {S B A : Type}

/-- A fresh host. -/
def create (options : HostOptions) : Host S where
  transports := { voiceMtu := options.voiceMtu }
  database := { nextHandle := options.firstHandle.toNat, announces := options.announces }
  publications := {}
  options := options

/-- Create a transport from within the process. -/
def createTransport (host : Host S) (config : TransportConfig) (session : S) :
    Except Error TransportId × Host S :=
  let (outcome, transports) := host.transports.create config session
  (outcome, { host with transports })

/-- Register the service that was built from within the process. -/
def materialize [AttributeServer A] (host : Host S) (env : Environment B A) :
    Except Error HandleRange × Host S × Environment B A :=
  let (outcome, database, env) := host.database.materialize env
  (outcome, { host with database }, env)

/-- A peer reads an attribute. -/
def readAttribute [MessageBus B] (host : Host S) (uuid : Uuid) (env : Environment B A) :
    Except Error AttributeValue × Environment B A :=
  host.database.read uuid host.publications.handler env

/-- A peer writes an attribute. -/
def writeAttribute [MessageBus B] (host : Host S) (uuid : Uuid) (value : List UInt8)
    (env : Environment B A) : Except Error Unit × Host S × Environment B A :=
  let (outcome, database, env) := host.database.write uuid value host.publications.handler env
  (outcome, { host with database }, env)

/-- Carry out an operation on the transport whose object has a path. -/
def onTransport {α : Type} (host : Host S) (path : ObjectPath)
    (operation : TransportId → TransportTable S → Environment B A →
      Except Error α × TransportTable S × Environment B A)
    (env : Environment B A) : Except Error α × Host S × Environment B A :=
  match host.transports.findPath? path.value with
  | none => (.error .doesNotExist, host, env)
  | some id =>
    let (outcome, transports, env) := operation id host.transports env
    (outcome, { host with transports }, env)

/-- The answer to a call that was settled at once; none for a call that is answered otherwise. -/
def immediate : Completion → Option Reply
  | .done => some .done
  | .pending => none

/-- Answer a call unless it is answered otherwise. A reply that the bus does not take is lost. -/
def answer [MessageBus B] (token : ReplyToken) (outcome : Except Error (Option Reply))
    (env : Environment B A) : Environment B A :=
  match outcome with
  | .ok none => env
  | .ok (some reply) => (env.sendReply token reply).2
  | .error cause => (env.sendReply token (.error cause)).2

section Events

variable [ProfileSession S] [MessageBus B] [AttributeServer A]

/-- Apply a method call. The outcome is the reply to be sent now, if there is one. -/
def call (host : Host S) (client : String) (token : ReplyToken) (call : MethodCall)
    (env : Environment B A) : Except Error (Option Reply) × Host S × Environment B A :=
  match call with
  | .acquire transport access =>
    let (outcome, host, env) := host.onTransport transport
      (fun id table => table.acquire id client token access.value) env
    (outcome.map immediate, host, env)
  | .release transport access =>
    let (outcome, host, env) := host.onTransport transport
      (fun id table => table.release id client token access.value) env
    (outcome.map immediate, host, env)
  | .getProperties transport =>
    let (outcome, host, env) := host.onTransport transport
      (fun id table env => (table.properties id, table, env)) env
    (outcome.map fun list => some (.properties list), host, env)
  | .setProperty transport name value =>
    let (outcome, host, env) := host.onTransport transport
      (fun id table => table.setProperty id client name.value value) env
    (outcome.map fun _ => some .done, host, env)
  | .registerService path =>
    let (outcome, publications) := host.publications.register client path.value token
    (outcome.map fun _ => none, { host with publications }, env)
  | .unregisterService path =>
    let (outcome, publications, database, env) :=
      host.publications.unregister host.database client path.value env
    (outcome.map fun _ => some .done, { host with publications, database }, env)

/-- Apply an event. -/
def process (host : Host S) (event : Event S) (env : Environment B A) : Host S × Environment B A :=
  match event with
  | .methodCall client token call =>
    let (outcome, host, env) := host.call client.value token call env
    (host, answer token outcome env)
  | .transportConfigured device devicePath uuid codec configuration session =>
    let config : TransportConfig :=
      { device, devicePath := devicePath.value, uuid, codec, configuration := configuration.data }
    ((host.createTransport config session).2, env)
  | .transportClosed transport =>
    (host.onTransport transport (fun id table => table.remove id) env).2
  | .resumeComplete transport client request result =>
    (host.onTransport transport
      (fun id table => table.resumeComplete id client.value request result) env).2
  | .suspendComplete transport client request =>
    (host.onTransport transport
      (fun id table => table.suspendComplete id client.value request) env).2
  | .playbackChanged transport playing =>
    (host.onTransport transport (fun id table => table.reportPlaying id playing) env).2
  | .delayReported transport delay =>
    (host.onTransport transport (fun id table => table.reportDelay id delay) env).2
  | .volumeReported transport volume =>
    (host.onTransport transport (fun id table => table.reportVolume id volume) env).2
  | .clientDisconnected client =>
    let (_, transports, env) := host.transports.clientDisconnected client.value env
    let (_, publications, database, env) :=
      host.publications.clientDisconnected host.database client.value env
    ({ host with transports, publications, database }, env)
  | .objectPublished client object =>
    ({ host with publications := (host.publications.publish client.value object).2 }, env)
  | .objectWithdrawn client path =>
    ({ host with publications := (host.publications.withdraw client.value path.value).2 }, env)
  | .clientReady client path =>
    let (_, publications, database, env) :=
      host.publications.clientReady host.database client.value path.value env
    ({ host with publications, database }, env)
  | .valueChanged client path value =>
    let (_, publications, database, env) :=
      host.publications.valueChanged host.database client.value path.value value.data env
    ({ host with publications, database }, env)

end Events

end Host

end BluetoothHost
