import EventCatalog.Settings.Variable
import EventCatalog.Text.Split

/-!
# Settings of the Database

How the database is reached.  The address may hold a password, so that what is logged is a redacted
form of it.
-/

namespace EventCatalog

structure DatabaseSettings where
  /-- Scheme, credentials, hosts and options. -/
  url : String
  database : String
  /-- The name under which the application shows up in the logs of the database. -/
  applicationName : Option String
  maxPoolSize : Nat
  minPoolSize : Nat
  /-- In seconds. -/
  connectTimeout : Nat
  /-- In seconds. -/
  serverSelectionTimeout : Nat
  /-- How often a failed connection is tried again at the start. -/
  connectRetries : Nat
  deriving DecidableEq, Repr

namespace DatabaseSettings

/-- The settings of a database that nothing is said about. -/
def standard : DatabaseSettings :=
  ⟨"mongodb://localhost:27017", "events", none, 100, 5, 10, 30, 3⟩

/-- The standard settings for an address. -/
def ofUrl (url : String) : DatabaseSettings := { standard with url }

/-- The settings with other bounds of the pool.  The lower bound never exceeds the upper one. -/
def withPoolSize (s : DatabaseSettings) (most least : Nat) : DatabaseSettings :=
  { s with maxPoolSize := most, minPoolSize := min least most }

/-- The parts of a text before and behind the first `://`. -/
def splitScheme? : List Char → Option (List Char × List Char)
  | ':' :: '/' :: '/' :: rest => some ([], rest)
  | c :: cs => (splitScheme? cs).map fun parts ↦ (c :: parts.1, parts.2)
  | [] => none

/-- The address with asterisks in place of what follows the user's name.  Credentials end at the
first at sign behind the scheme; an address without credentials is kept. -/
def redactedUrl (s : DatabaseSettings) : String :=
  match splitScheme? s.url.toList with
  | none => s.url
  | some (scheme, rest) =>
    match Text.splitFirst? '@' rest with
    | none => s.url
    | some (credentials, host) =>
      String.ofList (scheme ++ "://".toList ++ credentials.takeWhile (· ≠ ':') ++ ":***@".toList ++
        host)

/-- Reads the settings of a database.  An address has to be set, under one of two names.  The bounds
of the pool are compared before the values behind them are read. -/
def ofVariables (v : Variables) : Except SettingFault DatabaseSettings := do
  let some url := (v.get? "MONGODB_URL").or (v.get? "MONGO_URL")
    | throw (.missing "MONGODB_URL or MONGO_URL")
  let maxPoolSize ← v.readOr (Setting.unsigned Text.max32) "MONGODB_MAX_POOL_SIZE"
    standard.maxPoolSize
  let minPoolSize ← v.readOr (Setting.unsigned Text.max32) "MONGODB_MIN_POOL_SIZE"
    standard.minPoolSize
  if maxPoolSize < minPoolSize then
    throw (.invalid "MONGODB_MIN_POOL_SIZE" (.poolBounds minPoolSize maxPoolSize))
  let connectTimeout ← v.readOr (Setting.unsigned Text.max64) "MONGODB_CONNECT_TIMEOUT_SECS"
    standard.connectTimeout
  let serverSelectionTimeout ← v.readOr (Setting.unsigned Text.max64)
    "MONGODB_SERVER_SELECTION_TIMEOUT_SECS" standard.serverSelectionTimeout
  let connectRetries ← v.readOr (Setting.unsigned Text.max32) "MONGODB_CONNECT_RETRIES"
    standard.connectRetries
  return {
    url
    database := (v.get? "MONGODB_DATABASE").getD (v.textOr "MONGO_DATABASE" standard.database)
    applicationName := v.get? "MONGODB_APP_NAME"
    maxPoolSize
    minPoolSize
    connectTimeout
    serverSelectionTimeout
    connectRetries }

end DatabaseSettings

end EventCatalog
