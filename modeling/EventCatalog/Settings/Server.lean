import EventCatalog.Settings.Variable

/-!
# Settings of the Server

Where the server listens, and how long requests and the shutdown may take.
-/

namespace EventCatalog

structure ServerSettings where
  host : String
  port : Nat
  /-- The seconds that a request may take, with all of its calls to the store. -/
  requestTimeout : Nat
  /-- The seconds that running requests have once the process is told to stop. -/
  shutdownTimeout : Nat
  deriving DecidableEq, Repr

namespace ServerSettings

/-- The settings of a server that nothing is said about. -/
def standard : ServerSettings := ⟨"0.0.0.0", 8080, 30, 30⟩

def address (s : ServerSettings) : String := s.host ++ ":" ++ toString s.port

def ofVariables (v : Variables) : Except SettingFault ServerSettings := do
  let port ← v.readOr (Setting.unsigned Text.max16) "PORT" standard.port
  let requestTimeout ← v.readOr (Setting.unsigned Text.max64) "REQUEST_TIMEOUT_SECS"
    standard.requestTimeout
  let shutdownTimeout ← v.readOr (Setting.unsigned Text.max64) "SHUTDOWN_TIMEOUT_SECS"
    standard.shutdownTimeout
  return ⟨v.textOr "HOST" standard.host, port, requestTimeout, shutdownTimeout⟩

end ServerSettings

end EventCatalog
