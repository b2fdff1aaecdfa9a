import ContextSnap.Core.Result
import ContextSnap.Core.Types
import ContextSnap.Lib.Program
import ContextSnap.Storage.Schema

/-!
# The connection

What the repository asks of its surroundings (its mutex, SQLite, the clock, fresh ids), and one
connection that answers. Every call into SQLite is counted and may fail, as the environment has it.
A statement that violates a constraint changes nothing.
-/

namespace ContextSnap.Storage

open Sql

/-- An error code of SQLite and its message. -/
structure Failure where
  code : Int
  message : Bytes

inductive Script where
  | begin | beginImmediate | commit | rollback | pragma
  deriving DecidableEq, Repr

inductive Op where
  | lock
  | unlock
  /-- `sqlite3_prepare_v2` of a statement on these tables. -/
  | prepare (tables : List Table)
  | exec (script : Script)
  | dml (statement : Dml Table) (values : List SqlValue)
  /-- All steps of a SELECT, where the rows of the search index are those that match an expression,
  if one is given. -/
  | select (statement : Select Table) (values : List SqlValue) (expression : Option Bytes)
  | changes
  | now
  | generateUlid

abbrev Answer : Op → Type
  | .lock | .unlock => Unit
  | .prepare _ | .exec _ | .dml _ _ => Except Failure Unit
  | .select _ _ _ => Except Failure (List (List SqlValue))
  | .changes => Nat
  | .now => Timestamp
  | .generateUlid => Bytes

/-! ### The environment and the state of a connection -/

structure Environment where
  /-- What goes wrong in the `n`-th call into SQLite. -/
  fault : Nat → Option Failure := fun _ => none
  /-- The `n`-th reading of the clock. -/
  clock : Nat → Timestamp := fun _ => 0
  /-- The `n`-th generated id. -/
  ulid : Nat → Bytes := fun _ => []
  /-- The rows of the search index that a MATCH expression selects. -/
  fullText : Bytes → List Row → Except Failure (List Row) := fun _ rows => .ok rows

structure Connection where
  /-- The tables as statements see them. -/
  tables : Tables Table
  /-- The tables before the open transaction, if there is one. -/
  saved : Option (Tables Table) := none
  changes : Nat := 0
  locked : Bool := false
  calls : Nat := 0
  readings : Nat := 0
  ulids : Nat := 0

/-- The connection with one more call counted. -/
def Connection.counted (c : Connection) : Connection := { c with calls := c.calls + 1 }

def kConstraint : Int := 19

def Failure.ofViolation : Violation → Failure
  | .column => ⟨kConstraint, str "NOT NULL or CHECK constraint failed"⟩
  | .unique => ⟨kConstraint, str "UNIQUE constraint failed"⟩
  | .foreignKey => ⟨kConstraint, str "FOREIGN KEY constraint failed"⟩

def runScript (script : Script) (c : Connection) : Except Failure (Unit × Connection) :=
  match script, c.saved with
  | .begin, none | .beginImmediate, none => .ok ((), { c with saved := some c.tables })
  | .begin, some _ | .beginImmediate, some _ =>
      .error ⟨1, str "cannot start a transaction within a transaction"⟩
  | .commit, some _ => .ok ((), { c with saved := none })
  | .commit, none => .error ⟨1, str "cannot commit - no transaction is active"⟩
  | .rollback, some tables => .ok ((), { c with tables, saved := none })
  | .rollback, none => .error ⟨1, str "cannot rollback - no transaction is active"⟩
  | .pragma, _ => .ok ((), c)

def runStatement (statement : Dml Table) (values : List SqlValue) (c : Connection) :
    Except Failure (Unit × Connection) :=
  match runDml c.tables values statement with
  | .ok (tables, changes) => .ok ((), { c with tables, changes })
  | .error violation => .error (.ofViolation violation)

section Handler

variable (env : Environment)

/-- A call into SQLite that works on the connection. -/
def call {α : Type} (c : Connection) (work : Connection → Except Failure (α × Connection)) :
    Except Failure α × Connection :=
  match env.fault c.calls with
  | some failure => (.error failure, c.counted)
  | none =>
      match work c.counted with
      | .ok (value, c') => (.ok value, c')
      | .error failure => (.error failure, c.counted)

def runSelect (statement : Select Table) (values : List SqlValue) (expression : Option Bytes)
    (c : Connection) : Except Failure (List (List SqlValue) × Connection) :=
  match expression with
  | none => .ok (statement.rows c.tables values, c)
  | some expression =>
      match env.fullText expression (c.tables .snapshotSearch) with
      | .ok matching =>
          .ok (statement.rows (Function.update c.tables .snapshotSearch matching) values, c)
      | .error failure => .error failure

/-- The answer to an operation. A thread that locks the mutex it holds waits for ever. -/
def handler : (op : Op) → Connection → Option (Answer op × Connection)
  | .lock, c => if c.locked then none else some ((), { c with locked := true })
  | .unlock, c => some ((), { c with locked := false })
  | .prepare _, c => some (call env c fun c => .ok ((), c))
  | .exec script, c => some (call env c (runScript script))
  | .dml statement values, c => some (call env c (runStatement statement values))
  | .select statement values expression, c =>
      some (call env c (runSelect env statement values expression))
  | .changes, c => some (c.changes, c)
  | .now, c => some (env.clock c.readings, { c with readings := c.readings + 1 })
  | .generateUlid, c => some (env.ulid c.ulids, { c with ulids := c.ulids + 1 })

/-- The answer when nobody else has the mutex and whoever holds it may take it again. -/
def reentrantHandler : (op : Op) → Connection → Option (Answer op × Connection)
  | .lock, c | .unlock, c => some ((), c)
  | op, c => handler env op c

end Handler

/-! ### Programs that may return an error -/

abbrev Repo := ExceptT Error (Program Op Answer)

def ask (op : Op) : Repo (Answer op) := ExceptT.lift (Program.operation op)

/-- `sqlite_error`. -/
def sqliteError (what context : String) (failure : Failure) : Error :=
  Err.database (str what ++ str ": " ++ failure.message) (str context) failure.code

/-- The answer of a call into SQLite, or its error. -/
def orFail {α : Type} (what context : String) : Except Failure α → Repo α
  | .ok value => pure value
  | .error failure => throw (sqliteError what context failure)

def prepare (tables : List Table) : Repo Unit := do
  orFail "prepare failed" "storage.prepare" (← ask (.prepare tables))

/-- `Database::execute`. -/
def exec (script : Script) : Repo Unit := do
  orFail "exec failed" "storage.execute" (← ask (.exec script))

/-- `Statement::execute`, after the binds. -/
def execute (statement : Dml Table) (values : List SqlValue) : Repo Unit := do
  orFail "step failed" "storage.statement" (← ask (.dml statement values))

/-- `Statement::step` until there is no row left. -/
def rows (statement : Select Table) (values : List SqlValue) (expression : Option Bytes := none) :
    Repo (List (List SqlValue)) := do
  orFail "step failed" "storage.statement" (← ask (.select statement values expression))

/-- The result of a program as a value, for a caller that goes on after an error. -/
def attempt {α : Type} (program : Repo α) : Repo (Result α) := ExceptT.lift program.run

def lock : Program Op Answer Unit := Program.operation Op.lock

def unlock : Program Op Answer Unit := Program.operation Op.unlock

/-- A scope that holds the mutex. -/
def withLock {α : Type} (body : Repo α) : Repo α := ExceptT.mk do
  lock
  let result ← body.run
  unlock
  return result

/-- `Transaction::rollback`, which only logs a failure. -/
def rollback (active : Bool) : Repo Unit :=
  if active then discard (attempt (exec .rollback)) else pure ()

/-- `Transaction::commit`. -/
def commit (active : Bool) : Repo Unit :=
  if active then exec .commit
  else throw (Err.internal (str "commit on an inactive transaction") (str "storage.transaction"))

/-- The scope of a `Transaction`, whose last statement commits. Leaving it on an error rolls back,
unless BEGIN failed. -/
def withTransaction {α : Type} (body : Repo α) : Repo α := do
  let begun ← attempt (exec .beginImmediate)
  let active := begun.toBool
  match ← attempt body with
  | .ok value =>
      commit active
      return value
  | .error e =>
      rollback active
      throw e

end ContextSnap.Storage
