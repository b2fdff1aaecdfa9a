import ContextSnap.Core.SnapshotManager
import ContextSnap.Lib.Interleaving

/-!
# Workers

Every client is served by a thread of its own, and all threads share one repository with its one
connection. The threads take turns, at two levels of detail: for the edits of metadata a call on the
repository is one step, and for the statements on the connection every one of them is.
-/

namespace ContextSnap.Daemon

open SnapshotManager (Action Op Answer Surroundings)
open Storage (Connection Operation)

/-! ### Edits of metadata -/

/-- The requests `rename_snapshot`, `tag_snapshot` and `favorite_snapshot`. -/
inductive Edit where
  | rename (snapshotId name : Bytes)
  | setTags (snapshotId : Bytes) (tags : List Bytes)
  | setFavorite (snapshotId : Bytes) (favorite : Bool)

def Edit.program : Edit → Action Unit
  | .rename snapshotId name => SnapshotManager.rename snapshotId name
  | .setTags snapshotId tags => SnapshotManager.setTags snapshotId tags
  | .setFavorite snapshotId favorite => SnapshotManager.setFavorite snapshotId favorite

/-- A repository call runs to its end, and its mutex is no obstacle to itself. -/
def callHandler (env : Storage.Environment) :
    (op : Op) → Connection → Option (Answer op × Connection)
  | .repository operation, c => operation.call.run.run (Storage.reentrantHandler env) c
  | .direct op, c => Storage.reentrantHandler env op c
  | .hal _, _ | .getenv _, _ => none

/-- A thread that serves an edit. -/
abbrev EditThread := Program Op Answer (Result Unit)

/-- The threads of some clients, one edit each. -/
abbrev EditState (ι : Type) := Interleaving.State ι EditThread Connection (Σ op, Answer op)

def editTurn (env : Storage.Environment) (thread : EditThread) (c : Connection) :
    Option ((Σ op, Answer op) × EditThread × Connection) :=
  Interleaving.programTurn (callHandler env) thread c

def editStart {ι : Type} (requests : ι → Edit) (c : Connection) : EditState ι :=
  { shared := c, threads := fun i => (requests i).program.run }

/-! ### Statements on the connection -/

/-- The requests that read or write the database. -/
inductive Request where
  | capture (options : CaptureOptions)
  | delete (snapshotId : Bytes)
  | edit (request : Edit)
  | prune
  | restore (snapshotId : Bytes) (options : RestoreOptions)
  | health

def Request.program (manager : SnapshotManager) : Request → Action Unit
  | .capture options => discard (manager.captureAndStore options)
  | .delete snapshotId => SnapshotManager.remove snapshotId
  | .edit request => request.program
  | .prune => discard manager.prune
  | .restore snapshotId options => discard (manager.restore snapshotId options)
  | .health => discard SnapshotManager.databaseHealth

/-- Where a thread is in its request: outside the repository, or in a call on it with some of its
operations left. -/
inductive Worker where
  | outside (rest : Program Op Answer (Result Unit))
  | inside (operation : Operation)
      (rest : Program Storage.Op Storage.Answer (Result operation.Output))
      (next : Result operation.Output → Program Op Answer (Result Unit))

/-- What a turn does, with the connection before it where that is what it uses. -/
inductive Event where
  /-- Nothing that concerns the connection. -/
  | other
  | called (operation : Operation)
  /-- An operation of a repository call. -/
  | stepped (op : Storage.Op) (before : Connection)
  /-- An operation that goes around the repository. -/
  | direct (op : Storage.Op) (before : Connection)
  | returned (operation : Operation) (result : Result operation.Output)

abbrev WorkerState (ι σ : Type) := Interleaving.State ι Worker (σ × Connection) Event

section Turns

variable {σ : Type} (around : Surroundings σ)

def workerTurn : Worker → σ × Connection → Option (Event × Worker × (σ × Connection))
  | .outside (.done _), _ => none
  | .outside (.ask (.hal op) next), (s, c) =>
      (around.hal op s).map fun result => (.other, .outside (next result.1), (result.2, c))
  | .outside (.ask (.getenv name) next), state =>
      some (.other, .outside (next (around.environment name)), state)
  | .outside (.ask (.direct op) next), (s, c) =>
      (Storage.handler around.storage op c).map fun result =>
        (.direct op c, .outside (next result.1), (s, result.2))
  | .outside (.ask (.repository operation) next), state =>
      some (.called operation, .inside operation operation.call.run next, state)
  | .inside operation (.done result) next, state =>
      some (.returned operation result, .outside (next result), state)
  | .inside operation (.ask op rest) next, (s, c) =>
      (Storage.handler around.storage op c).map fun result =>
        (.stepped op c, .inside operation (rest result.1) next, (s, result.2))

end Turns

/-- The requests of some clients, and a connection with nothing going on. -/
def workerStart {ι σ : Type} (manager : SnapshotManager) (requests : ι → Request) (s : σ)
    (tables : Sql.Tables Storage.Table) : WorkerState ι σ :=
  { shared := (s, { tables }), threads := fun i => .outside ((requests i).program manager).run }

end ContextSnap.Daemon
