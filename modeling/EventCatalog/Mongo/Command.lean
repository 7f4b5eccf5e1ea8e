import EventCatalog.Bson.Basic

/-!
# Database Commands

The commands to the database and what comes back.  A command is carried out or refused, unless there
is no server that it could go to.  One that reads delivers a batch of rows, and the identifier of a
cursor when more of them follow.  A write can be carried out as a command and still be turned down
for the document that it writes.  The texts in which all this is reported are those of the driver
that sends the commands.
-/

namespace EventCatalog.Mongo

inductive Command where
  /-- Runs a pipeline over a collection. -/
  | aggregate (collection : String) (pipeline : List Document)
  | insert (collection : String) (documents : List Document)
  | createIndexes (collection : String) (indexes : List Document)
  /-- Asks for the next batch behind an open cursor. -/
  | getMore (cursor : Int)
  | ping

/-- What went wrong with a command. -/
inductive Fault where
  /-- The database refused the command. -/
  | refused (code : Int) (text : String)
  /-- The database turned the document down. -/
  | writeRefused (code : Int) (text : String)
  /-- The reply has not the shape that the command asks for. -/
  | unreadableReply
  /-- No server was found in time for the command. -/
  | unreachable
  deriving DecidableEq, Repr

namespace Fault

/-- The codes under which a database that is shutting down, changing its primary, short of time or
cut off from others refuses a command that another attempt may well carry out. -/
def retryableCodes : List Int :=
  [11600, 11602, 10107, 13435, 13436, 189, 91, 7, 6, 89, 9001, 134, 262]

/-- Whether a read is worth a second attempt. -/
def isRetryable : Fault → Bool
  | refused code _ => retryableCodes.contains code
  | _ => false

/-- The code of a write that breaks the uniqueness of an index. -/
def duplicateKeyCode : Int := 11000

/-- Whether a document was turned down because another one has the same key. -/
def isDuplicateKey : Fault → Bool
  | writeRefused code _ => code = duplicateKeyCode
  | _ => false

end Fault

/-- The texts of a driver. -/
structure Wording where
  fault : Fault → String
  /-- What is said of a row that is no event. -/
  row : Document → String

/-- A driver without texts. -/
def Wording.silent : Wording := ⟨fun _ ↦ "", fun _ ↦ ""⟩

inductive Reply where
  /-- A batch of rows, and the cursor behind which more of them follow. -/
  | batch (rows : List Document) (cursor : Option Int)
  | failed (fault : Fault)

namespace Reply

/-- Success without rows. -/
def empty : Reply := .batch [] none

instance : Inhabited Reply := ⟨empty⟩

/-- Whether the reply to a command without rows reports success.  Only a write has documents that
can be turned down. -/
def success : Reply → Except Fault Unit
  | batch _ _ => .ok ()
  | failed (.writeRefused _ _) => .ok ()
  | failed fault => .error fault

/-- The rows and the cursor of the reply to a command that reads.  A reply to a write is none. -/
def rows : Reply → Except Fault (List Document × Option Int)
  | batch rows cursor => .ok (rows, cursor)
  | failed (.writeRefused _ _) => .error .unreadableReply
  | failed fault => .error fault

/-- Whether the reply to a write reports success. -/
def written : Reply → Except Fault Unit
  | failed fault => .error fault
  | batch _ _ => .ok ()

end Reply

end EventCatalog.Mongo
