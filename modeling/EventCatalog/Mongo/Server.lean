import EventCatalog.Mongo.Command
import EventCatalog.Settings.Database

/-!
# Scripted Database Servers

A server that answers commands from a list of replies, one after the other, and that keeps the
commands it was sent.  Beyond its list it answers every command with success and without rows.  A
server can be out of reach: then a command waits for it in vain and fails, and neither the list nor
the kept commands change.  Rows arrive in batches: they are read until there are enough of them or
the cursor is closed, and a batch that fails fails the whole reading.
-/

namespace EventCatalog.Mongo

structure Server where
  /-- The replies to the next commands. -/
  replies : List Reply
  /-- The commands that were sent. -/
  log : List Command
  /-- Whether commands get to the server. -/
  isReachable : Bool
  /-- The milliseconds for which commands have waited for the server in vain. -/
  waited : Nat
  /-- The texts of the driver that sends the commands. -/
  wording : Wording

namespace Server

/-- A server within reach that was sent nothing so far. -/
def ofReplies (replies : List Reply) : Server := ⟨replies, [], true, 0, .silent⟩

def outOfReach : Server := ⟨[], [], false, 0, .silent⟩

/-- The milliseconds after which a command gives up waiting for a server. -/
def patience : Nat := DatabaseSettings.standard.serverSelectionTimeout * 1000

end Server

/-- A computation that sends commands to a server. -/
abbrev Exchange (α : Type) := StateM Server α

def send (command : Command) : Exchange Reply := fun server ↦
  if server.isReachable then
    (server.replies.headD .empty,
      { server with replies := server.replies.tail, log := server.log ++ [command] })
  else (.failed .unreachable, { server with waited := server.waited + Server.patience })

/-- Sends a command that reads, and once again when the refusal says that this may help. -/
def sendRead (command : Command) : Exchange Reply := do
  let reply ← send command
  match reply with
  | .failed fault => if fault.isRetryable then send command else return reply
  | _ => return reply

/-- Reads batches onto `rows` from an open cursor until there are enough rows or it is closed.  Each
batch that leaves it open takes one of the `scripted` replies. -/
def readBatches (enough : List Document → Bool) :
    (scripted : Nat) → (rows : List Document) → (cursor : Int) →
      Exchange (Except Fault (List Document))
  | scripted, rows, cursor => do
    match (← send (.getMore cursor)).rows with
    | .error fault => return .error fault
    | .ok (more, none) => return .ok (rows ++ more)
    | .ok (more, some next) =>
      match scripted with
      | 0 => return .ok (rows ++ more)
      | scripted + 1 =>
        if enough (rows ++ more) then return .ok (rows ++ more)
        else readBatches enough scripted (rows ++ more) next

/-- The rows of a pipeline, as far as they are needed. -/
def aggregate (enough : List Document → Bool) (collection : String) (pipeline : List Document) :
    Exchange (Except Fault (List Document)) := do
  match (← sendRead (.aggregate collection pipeline)).rows with
  | .error fault => return .error fault
  | .ok (rows, none) => return .ok rows
  | .ok (rows, some cursor) =>
    if enough rows then return .ok rows
    else readBatches enough (← get).replies.length rows cursor

def allRows (collection : String) (pipeline : List Document) :
    Exchange (Except Fault (List Document)) :=
  aggregate (fun _ ↦ false) collection pipeline

def firstRow (collection : String) (pipeline : List Document) :
    Exchange (Except Fault (Option Document)) := do
  return (← aggregate (!·.isEmpty) collection pipeline).map List.head?

def ping : Exchange (Except Fault Unit) := do return (← send .ping).success

/-- Runs a computation and counts the milliseconds for which it waits in vain. -/
def timed (m : Exchange α) : Exchange (α × Nat) := do
  let before := (← get).waited
  let a ← m
  return (a, (← get).waited - before)

end EventCatalog.Mongo
