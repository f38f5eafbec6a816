import Mathlib.Data.List.Basic

/-!
# A server's log of writes and its session's transaction

What is durable is the list of the writes applied so far.  A session may have a
transaction open: its writes wait until a commit appends them, and are gone with
a rollback or with the session.  Without one a write is durable at once, and
starting one commits what is still open.
-/

/-- The durable writes, and those of the transaction the session has open. -/
structure TransactionLog (Write : Type*) where
  durable : List Write
  pending : Option (List Write)

namespace TransactionLog

/-- What a session asks of its server. -/
inductive Request (Write : Type*) where
  | start
  | write (write : Write)
  | commit
  | rollback

variable {Write : Type*}

/-- No transaction is open. -/
def closed (durable : List Write) : TransactionLog Write := ⟨durable, none⟩

/-- A transaction is open, with these writes. -/
def opened (durable writes : List Write) : TransactionLog Write := ⟨durable, some writes⟩

/-- Also what becomes of the log where the session ends. -/
def discard (log : TransactionLog Write) : TransactionLog Write := closed log.durable

/-- The server obeys a request. -/
def serve : Request Write → TransactionLog Write → TransactionLog Write
  | .start, log => opened (log.durable ++ log.pending.getD []) []
  | .write write, ⟨durable, none⟩ => closed (durable ++ [write])
  | .write write, ⟨durable, some writes⟩ => opened durable (writes ++ [write])
  | .commit, log => closed (log.durable ++ log.pending.getD [])
  | .rollback, log => log.discard

variable (durable writes : List Write) (write : Write) (request : Request Write)

@[simp]
theorem durable_closed : (closed durable).durable = durable := rfl

@[simp]
theorem durable_opened : (opened durable writes).durable = durable := rfl

@[simp]
theorem discard_closed : (closed durable).discard = closed durable := rfl

@[simp]
theorem discard_opened : (opened durable writes).discard = closed durable := rfl

@[simp]
theorem serve_start_closed : serve .start (closed durable) = opened durable [] := by
  simp [serve, closed, opened]

@[simp]
theorem serve_write_closed :
    serve (.write write) (closed durable) = closed (durable ++ [write]) := rfl

@[simp]
theorem serve_write_opened :
    serve (.write write) (opened durable writes) = opened durable (writes ++ [write]) := rfl

@[simp]
theorem serve_commit_closed : serve .commit (closed durable) = closed durable := by
  simp [serve, closed]

@[simp]
theorem serve_commit_opened :
    serve .commit (opened durable writes) = closed (durable ++ writes) := rfl

@[simp]
theorem serve_rollback (log : TransactionLog Write) : serve .rollback log = log.discard := rfl

end TransactionLog
