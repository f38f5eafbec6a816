import RealmServer.Lib.TransactionLog

/-!
# A connection's transactions

A connection sends the elements of a transaction between `START TRANSACTION` and
`COMMIT`.  Whatever it sends, it sends again by itself once a lost connection is
back, and only an error of another kind comes back to the transaction, which is
then rolled back.  A task repeats a transaction that met a deadlock.
-/

namespace RealmServer.Database

open TransactionLog

/-! ## The errors -/

def CR_CONN_HOST_ERROR : Nat := 2003
def CR_SERVER_GONE_ERROR : Nat := 2006
def CR_SERVER_LOST : Nat := 2013
def CR_INVALID_CONN_HANDLE : Nat := 2048
def CR_SERVER_LOST_EXTENDED : Nat := 2055
def ER_BAD_FIELD_ERROR : Nat := 1054
def ER_WRONG_VALUE_COUNT : Nat := 1058
def ER_DUP_ENTRY : Nat := 1062
def ER_PARSE_ERROR : Nat := 1064
def ER_NO_SUCH_TABLE : Nat := 1146
def ER_LOCK_DEADLOCK : Nat := 1213

/-- What `_HandleMySQLErrno` does, where the server can be reached again. -/
inductive Handling where
  | reconnected
  | skipped
  | aborted
  deriving DecidableEq

def handleMySQLErrno (errNo : Nat) : Handling :=
  if errNo = CR_SERVER_GONE_ERROR ∨ errNo = CR_SERVER_LOST ∨ errNo = CR_INVALID_CONN_HANDLE ∨
      errNo = CR_SERVER_LOST_EXTENDED ∨ errNo = CR_CONN_HOST_ERROR then .reconnected
  else if errNo = ER_LOCK_DEADLOCK then .skipped
  else if errNo = ER_WRONG_VALUE_COUNT ∨ errNo = ER_DUP_ENTRY then .skipped
  else if errNo = ER_BAD_FIELD_ERROR ∨ errNo = ER_NO_SUCH_TABLE then .aborted
  else if errNo = ER_PARSE_ERROR then .aborted
  else .skipped

/-- An error that says that the connection is lost. -/
structure LossErrno where
  code : Nat
  isLoss : handleMySQLErrno code = .reconnected

/-- An error that the caller gets to see. -/
structure OrdinaryErrno where
  code : Nat
  isError : code ≠ 0
  isOrdinary : handleMySQLErrno code = .skipped

/--
What the server does, attempt by attempt, with one thing it is sent: it obeys, or
it refuses, perhaps with the open transaction rolled back, or the connection gets
lost, with or without an effect, and there is a next attempt.
-/
inductive Attempts where
  | answered
  | refused (errno : OrdinaryErrno) (rolledBack : Bool)
  | lost (errno : LossErrno) (applied : Bool) (next : Attempts)

namespace Attempts

/-- The error that is left for the caller. -/
def refusal : Attempts → Option OrdinaryErrno
  | answered => none
  | refused errno _ => some errno
  | lost _ _ next => next.refusal

/-- How many attempts have an effect. -/
def effects : Attempts → Nat
  | answered => 1
  | refused _ _ => 0
  | lost _ applied next => applied.toNat + next.effects

end Attempts

/-! ## The connection -/

variable {Statement : Type*}

/-- `MySQLConnection::Execute`, for plain and for prepared statements. -/
def execute (request : Request Statement) :
    Attempts → TransactionLog Statement → Option OrdinaryErrno × TransactionLog Statement
  | .answered, log => (none, serve request log)
  | .refused errno rolledBack, log => (some errno, if rolledBack then log.discard else log)
  -- The handle is closed and a new one opened: what the session had open is gone.
  | .lost _ applied next, log =>
      execute request next (if applied then serve request log else log).discard

/-- The loop over `m_queries`, up to the first error. -/
def executeQueries : (Nat → Attempts) → List Statement → TransactionLog Statement →
    Option OrdinaryErrno × TransactionLog Statement
  | _, [], log => (none, log)
  | attempts, query :: queries, log =>
      match execute (.write query) (attempts 0) log with
      | (some errno, log) => (some errno, log)
      | (none, log) => executeQueries (fun position => attempts (position + 1)) queries log

/-- The attempts of one `ExecuteTransaction`. -/
structure Pattern where
  beginTransaction : Attempts
  query : Nat → Attempts
  /-- Of `COMMIT` or of `ROLLBACK`. -/
  finish : Attempts

def executeTransaction (pattern : Pattern) (queries : List Statement)
    (log : TransactionLog Statement) : Int × TransactionLog Statement :=
  if queries = [] then (-1, log)
  else
    let begun := (execute .start pattern.beginTransaction log).2
    match executeQueries pattern.query queries begun with
    | (some errorCode, log) => (errorCode.code, (execute .rollback pattern.finish log).2)
    | (none, log) => (0, (execute .commit pattern.finish log).2)

/-! ## The task -/

/-- The loop of `TransactionTask::Execute` over `loopBreaker`. -/
def retry : Nat → (Nat → Pattern) → List Statement → TransactionLog Statement →
    Bool × TransactionLog Statement
  | 0, _, _, log => (false, log)
  | rounds + 1, patterns, queries, log =>
      let (errorCode, log) := executeTransaction (patterns 0) queries log
      if errorCode = 0 then (true, log)
      else retry rounds (fun round => patterns (round + 1)) queries log

/-- `TransactionTask::Execute`, with the value of its promise. -/
def executeTask (patterns : Nat → Pattern) (queries : List Statement)
    (log : TransactionLog Statement) : Bool × TransactionLog Statement :=
  let (errorCode, log) := executeTransaction (patterns 0) queries log
  if errorCode = 0 then (true, log)
  else if errorCode = ER_LOCK_DEADLOCK then
    retry 5 (fun round => patterns (round + 1)) queries log
  else (false, log)

end RealmServer.Database
