import ContextSnap.Core.SnapshotManager
import ContextSnap.Daemon.Requests
import ContextSnap.Ipc.Protocol

/-!
# Handlers

The handlers of the requests that write snapshots or take them away, with their replies and the
events that they publish.
-/

namespace ContextSnap.Daemon

open Json (Value)
open SnapshotManager (Action Answer Op Surroundings)
open Storage (Connection)

/-- The result of a request that succeeds, and what was published on the way. -/
structure Reply where
  result : Value
  published : List Ipc.Event

/-- The payload of an event that names a snapshot. -/
def snapshotPayload (snapshotId : Bytes) : Value :=
  .object [(str "snapshot_id", .string snapshotId)]

/-- The manager that `Daemon::start` makes, with a sanitizer of the defaults. -/
def startManager (platform : Hal.Platform) (config : Config) : SnapshotManager :=
  { platform, browserBridge := true, sanitizer := some {}, config }

section Handlers

variable (manager : SnapshotManager) (params : Value)

def captureSnapshot : Action Reply := do
  let snapshot ← manager.captureAndStore (captureOptionsFrom params manager.config)
  return {
    result := .object [(str "snapshot", Storage.toJson snapshot)]
    published := [{
      type := .snapshotCreated
      payload := .object
        [(str "snapshot_id", .string snapshot.metadata.id),
          (str "name", .string snapshot.metadata.name)] }] }

/-- One of the four handlers that change the snapshot that the request names, and publish the name
that it was given. -/
def changeSnapshot (change : Bytes → Action Unit) (type : Ipc.EventType) (result : Value) :
    Action Reply := do
  let id := stringParam params (str "snapshot_id")
  change id
  return { result, published := [{ type, payload := snapshotPayload id }] }

def deleteSnapshot : Action Reply :=
  changeSnapshot params SnapshotManager.remove .snapshotDeleted
    (.object [(str "deleted", .bool true)])

def renameSnapshot : Action Reply :=
  changeSnapshot params (SnapshotManager.rename · (stringParam params (str "name")))
    .snapshotUpdated (.object [(str "renamed", .bool true)])

def tagSnapshot : Action Reply :=
  changeSnapshot params (SnapshotManager.setTags · (stringList params (str "tags")))
    .snapshotUpdated (.object [(str "tagged", .bool true)])

def favoriteSnapshot : Action Reply :=
  changeSnapshot params
    (SnapshotManager.setFavorite · (boolParam params (str "favorite") true))
    .snapshotUpdated (.object [(str "favorite", .bool (boolParam params (str "favorite") true))])

def importSnapshot : Action Reply := do
  let snapshot ← SnapshotManager.importSnapshot (stringParam params (str "document"))
    (stringParam params (str "format") (str "json")) (stringParam params (str "rename_to"))
  return {
    result := snapshotPayload snapshot.metadata.id
    published := [{ type := .snapshotCreated, payload := snapshotPayload snapshot.metadata.id }] }

def pruneSnapshots : Action Reply := do
  let removed ← manager.prune
  return {
    result := .object [(str "removed", .int (Storage.uint32ToInt64 removed))]
    published := [] }

end Handlers

/-- The requests that change the snapshot that they name. -/
inductive ChangeRequest where
  | delete | rename | tag | favorite
  deriving DecidableEq, Repr

def ChangeRequest.handler (params : Value) : ChangeRequest → Action Reply
  | .delete => deleteSnapshot params
  | .rename => renameSnapshot params
  | .tag => tagSnapshot params
  | .favorite => favoriteSnapshot params

/-- The requests that change which snapshots there are. -/
inductive SnapshotRequest where
  | capture (params : Value)
  | importSnapshot (params : Value)
  | delete (params : Value)
  | prune

def SnapshotRequest.handler (manager : SnapshotManager) : SnapshotRequest → Action Reply
  | .capture params => captureSnapshot manager params
  | .importSnapshot params => Daemon.importSnapshot params
  | .delete params => deleteSnapshot params
  | .prune => pruneSnapshots manager

/-- The answers to a request when nobody else has the mutex of the repository and whoever holds it
may take it again. -/
def reentrantHandler {σ : Type} (around : Surroundings σ) :
    (op : Op) → σ × Connection → Option (Answer op × (σ × Connection))
  | .repository operation, (s, c) =>
      (operation.call.run.run (Storage.reentrantHandler around.storage) c).map fun result =>
        (result.1, (s, result.2))
  | .direct op, (s, c) =>
      (Storage.reentrantHandler around.storage op c).map fun result => (result.1, (s, result.2))
  | op, state => SnapshotManager.handler around op state

end ContextSnap.Daemon
