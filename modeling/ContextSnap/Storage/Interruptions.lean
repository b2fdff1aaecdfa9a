import ContextSnap.Storage.Migrations

/-!
# Interrupted migrations

Calls of `Database::migrate` in which every call into SQLite may fail, and every statement of a
script. A connection may be closed and opened again between them.
-/

namespace ContextSnap.Storage

section Handler

variable (env : Environment) (ran : Nat → Nat)

/-- `sqlite3_exec` of a script. If the `n`-th call goes wrong, `ran n` of its statements have been
run, and the next one fails. -/
def interruptedScript (script : List Definition) (s : Store) : Except Failure Unit × Store :=
  match env.fault s.connection.calls with
  | none => runDefinitions true script s.counted
  | some failure =>
      match runDefinitions true (script.dropLast.take (ran s.connection.calls)) s.counted with
      | (.ok (), s') => (.error failure, s')
      | refused => refused

def interruptedHandler : (op : StoreOp) → Store → Option (StoreAnswer op × Store)
  | .setup (.define script), s => some (interruptedScript env ran script s)
  | op, s => storeHandler true env op s

end Handler

/-- One `Database::migrate`, and whether the connection is closed behind it. -/
structure MigrateCall where
  /-- Its faults are counted from the start of the call. -/
  env : Environment
  ran : Nat → Nat := fun _ => 0
  closes : Bool := true

def Store.recounted (s : Store) : Store :=
  { s with connection := { s.connection with calls := 0, readings := 0 } }

/-- A connection that is closed takes its open transaction with it. -/
def Store.reopened (s : Store) : Store :=
  { connection := { tables := s.connection.saved.getD s.connection.tables }
    header := s.savedHeader.getD s.header }

def MigrateCall.run (call : MigrateCall) (s : Store) : Option (Result Unit × Store) :=
  (migrate.run.run (interruptedHandler call.env call.ran) s.recounted).map fun outcome =>
    (outcome.1, if call.closes then outcome.2.reopened else outcome.2)

/-- The store behind some calls. -/
def afterCalls : List MigrateCall → Store → Option Store
  | [], s => some s
  | call :: rest, s => (call.run s).bind fun outcome => afterCalls rest outcome.2

/-- What is in the file. -/
def Store.committedHeader (s : Store) : Header := s.savedHeader.getD s.header

/-- The catalog behind a migration. -/
def Migration.extend (catalog : Catalog) (migration : Migration) : Catalog :=
  (runDefinitions true migration.sql (emptyStore.define catalog)).2.header.catalog

/-- The catalog behind the first migrations, applied in order. -/
def catalogBehind (count : Nat) : Catalog := (migrations.take count).foldl Migration.extend []

end ContextSnap.Storage
