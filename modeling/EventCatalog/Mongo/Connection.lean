import EventCatalog.Mongo.Server
import EventCatalog.Retry
import EventCatalog.Settings.Database

/-!
# Connections

Connecting to a database at the start: the address is read, and a first question has to be answered.
Failed connections are tried again while the failure is transient.  Once the application serves,
nothing is tried again here: failures go back to the caller.
-/

namespace EventCatalog.Mongo

/-- The kinds of failures on the way to a database. -/
inductive DriverFaultKind where
  | invalidAddress
  /-- No server was found in time. -/
  | serverSelection
  | io
  /-- A command was answered with a fault. -/
  | command (f : Fault)
  | custom
  deriving DecidableEq, Repr

/-- A failure on the way to a database, in the words of the driver. -/
structure DriverFault where
  kind : DriverFaultKind
  text : String
  deriving DecidableEq, Repr

namespace DriverFault

/-- The failure behind a fault of a command. -/
def ofFault (w : Wording) (f : Fault) : DriverFault :=
  ⟨if f = .unreachable then .serverSelection else .command f, w.fault f⟩

/-- Whether the failure is one of a deployment that is still starting. -/
def isTransient (f : DriverFault) : Bool :=
  match f.kind with
  | .serverSelection => true
  | .io => true
  | _ => false

end DriverFault

/-- Why there is no connection. -/
inductive ConnectionError where
  | driver (f : DriverFault)
  /-- The first question was not answered. -/
  | connectionFailed (detail : String)
  | healthCheckFailed (detail : String)
  | misconfigured (detail : String)
  deriving DecidableEq, Repr

namespace ConnectionError

def message : ConnectionError → String
  | driver f => "MongoDB error: " ++ f.text
  | connectionFailed detail => "Connection failed: " ++ detail
  | healthCheckFailed detail => "Health check failed: " ++ detail
  | misconfigured detail => "Configuration error: " ++ detail

def isTransient : ConnectionError → Bool
  | driver f => f.isTransient
  | connectionFailed _ => true
  | healthCheckFailed _ => false
  | misconfigured _ => false

end ConnectionError

/-- What connecting asks a deployment for. -/
inductive DeploymentCall where
  /-- Reads an address and its options. -/
  | resolve (settings : DatabaseSettings)
  | ping (database : String)
  deriving DecidableEq, Repr

/-- Both can fail and have no other outcome. -/
def DeploymentCall.Answer (_ : DeploymentCall) : Type := Except DriverFault Unit

def connect (s : DatabaseSettings) :
    Dialogue DeploymentCall.Answer (Except ConnectionError Unit) :=
  .call (.resolve s) fun
    | .error f => .fail (.driver f)
    | .ok () => .call (.ping s.database) fun
      | .error f => .fail (.connectionFailed f.text)
      | .ok () => .done (.ok ())

/-- The policy of the settings: as many retries as they say. -/
def policyOf (s : DatabaseSettings) : RetryPolicy :=
  { RetryPolicy.standard with maxRetries := s.connectRetries }

/-- Connects in a monad in which `deployment` answers and `wait` waits, with as many attempts as the
policy allows. -/
def connectRetrying {m : Type → Type} [Monad m] (deployment : (c : DeploymentCall) → m c.Answer)
    (wait : Duration → m Unit) (s : DatabaseSettings) (policy : Option RetryPolicy) :
    m (Except DurationFault (Except ConnectionError Unit)) :=
  ((policy.getD (policyOf s)).retry ConnectionError.isTransient).interpret fun
    | .attempt => (connect s).interpret deployment
    | .wait d => wait d

/-- A deployment of one server; `resolve` reads the addresses. -/
def Server.deployment (resolve : DatabaseSettings → Except DriverFault Unit) :
    (c : DeploymentCall) → Exchange c.Answer
  | .resolve s => return resolve s
  | .ping _ => do
    let answered ← Mongo.ping
    return answered.mapError (.ofFault (← get).wording)

end EventCatalog.Mongo
