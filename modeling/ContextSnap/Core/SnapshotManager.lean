import ContextSnap.Core.Config
import ContextSnap.Core.Restore
import ContextSnap.Privacy.Sanitizer
import ContextSnap.Storage.SnapshotRepository

/-!
# The snapshot manager

Captures, edits, restores and retention as programs over the platform, the repository and the
process they run in. A repository operation is one call here. What the manager does on the
repository's connection without the repository is asked for directly.
-/

namespace ContextSnap

/-- `SnapshotManager`, without the platform's and the repository's own state. -/
structure SnapshotManager where
  platform : Hal.Platform := {}
  /-- Whether there is a `browser_bridge_`. -/
  browserBridge : Bool := true
  sanitizer : Option Privacy.Sanitizer := some {}
  config : Config := {}

namespace SnapshotManager

open Privacy (globMatch)
open Storage (Operation)

inductive Op where
  | hal (op : Hal.Op)
  | repository (operation : Operation)
  /-- The clock, a fresh id, or a statement that goes around the repository. -/
  | direct (op : Storage.Op)
  | getenv (name : Bytes)

abbrev Answer : Op → Type
  | .hal op => Hal.Answer op
  | .repository operation => Result operation.Output
  | .direct op => Storage.Answer op
  | .getenv _ => Option Bytes

abbrev Action := ExceptT Error (Program Op Answer)

/-! ### Calls -/

def platformCall {α : Type} (call : Hal.Call α) : Action α :=
  ExceptT.lift (Program.embed Op.hal call)

def repository (operation : Operation) : Action operation.Output :=
  ExceptT.mk (Program.operation (Op.repository operation))

def direct (op : Storage.Op) : Action (Storage.Answer op) :=
  ExceptT.lift (Program.operation (Op.direct op))

/-- Statements on the repository's connection that do not go through the repository. -/
def database {α : Type} (program : Storage.Repo α) : Action α :=
  ExceptT.mk (Program.embed Op.direct program.run)

def now : Action Timestamp := direct .now

def freshUlid : Action Bytes := direct .generateUlid

def getenv (name : Bytes) : Action (Option Bytes) :=
  ExceptT.lift (Program.operation (Op.getenv name))

/-- The result of an action, for a caller that goes on after an error. -/
def attempt {α : Type} (action : Action α) : Action (Result α) := ExceptT.lift action.run

/-- The answer of the platform, or its error. -/
def orThrow {α : Type} : Result α → Action α
  | .ok value => pure value
  | .error e => throw e

/-- The first of the variables that is set and not empty. -/
def firstSet : List Bytes → Action Bytes
  | [] => pure (str "unknown-host")
  | name :: names => do
      match ← getenv name with
      | some (c :: rest) => return c :: rest
      | _ => firstSet names

def hostName : Action Bytes :=
  firstSet [str "CONTEXTSNAP_HOST", str "COMPUTERNAME", str "HOSTNAME", str "HOST"]

section Manager

variable (manager : SnapshotManager)

/-! ### Capture -/

def isExcluded (window : WindowInfo) (options : CaptureOptions) : Bool :=
  (!options.includeMinimized && window.state = .minimized)
    || options.excludedAppIds.any fun pattern =>
      globMatch pattern window.process.appId || globMatch pattern window.process.executablePath

def windowId (window : WindowInfo) : Action Bytes :=
  if window.id = [] then freshUlid else pure window.id

/-- A window with an id and a restored frame. -/
def completeWindow (window : WindowInfo) : Action WindowInfo := do
  let id ← windowId window
  return { window with
    id
    restoredFrame := if window.restoredFrame.empty then window.frame else window.restoredFrame }

def captureWindows (options : CaptureOptions) : Action (List WindowInfo) := do
  let enumerated ← orThrow (← platformCall (Hal.enumerateWindows options))
  (enumerated.filter fun window => !isExcluded window options).mapM completeWindow

/-- The tabs of incognito windows are kept only on request. -/
def withoutIncognito (options : CaptureOptions) (captured : Browser.TabCapture) :
    Browser.TabCapture :=
  if options.includeIncognito then captured
  else
    { captured with
      windows := captured.windows.map fun window =>
        if window.incognito then { window with tabs := [] } else window }

/-- A capture that fails leaves the windows without tabs. -/
def attachBrowserTabs (windows : List WindowInfo) (options : CaptureOptions) :
    Action (List WindowInfo) :=
  if !manager.browserBridge || !windows.any (fun window => window.browser ≠ .none) then
    pure windows
  else do
    match ← platformCall (Hal.captureTabs options.browserTimeout true) with
    | .error _ => return windows
    | .ok captured =>
        return (Browser.attachTabsToWindows (withoutIncognito options captured) windows).2

def captureTabs (windows : List WindowInfo) (options : CaptureOptions) :
    Action (List WindowInfo) :=
  if options.includeTabs then manager.attachBrowserTabs windows options else pure windows

/-- The tabs whose URL matches none of the patterns. -/
def dropExcluded (options : CaptureOptions) (window : WindowInfo) : WindowInfo :=
  { window with
    tabs := window.tabs.filter fun tab =>
      !options.excludedUrlPatterns.any fun pattern => globMatch pattern tab.url }

def sanitize (snapshot : Snapshot) (options : CaptureOptions) : Snapshot :=
  match manager.sanitizer with
  | some sanitizer =>
      if options.sanitizeUrls then
        let sanitized := sanitizer.sanitizeSnapshot snapshot
        { sanitized with windows := sanitized.windows.map (dropExcluded options) }
      else snapshot
  | none => snapshot

/-- The cursor, or the default when the platform does not tell. -/
def captureCursor : Action CursorState :=
  if manager.platform.capabilities.cursorQuery then do
    return (← platformCall Hal.queryCursor).toOption.getD {}
  else
    pure {}

def captureWorkspace : Action (Option Bytes) :=
  if manager.platform.capabilities.virtualDesktops then do
    return (← platformCall Hal.currentWorkspace).toOption
  else
    pure none

/-- What a capture sees before its metadata is filled in. -/
def observe (options : CaptureOptions) : Action Snapshot := do
  let monitors ← orThrow (← platformCall Hal.enumerateDisplays)
  let windows ← captureWindows options
  let windows ← manager.captureTabs windows options
  let cursor ← manager.captureCursor
  let activeWorkspaceId ← manager.captureWorkspace
  return { monitors, windows, cursor, activeWorkspaceId }

/-- The options' name, tags and mark of an automatic capture are not used. -/
def captureMetadata : Action SnapshotMetadata := do
  let id ← freshUlid
  let createdAt ← now
  let hostName ← hostName
  return {
    id, createdAt, updatedAt := createdAt, platform := manager.platform.kind
    sessionType := manager.platform.sessionType, hostName, osVersion := manager.platform.osVersion
    appVersion := Storage.kVersion, schemaVersion := Storage.kSnapshotSchemaVersion }

def capture (options : CaptureOptions) : Action Snapshot := do
  let started ← platformCall Hal.steadyNow
  let observed ← manager.observe options
  let metadata ← manager.captureMetadata
  let snapshot := manager.sanitize { observed with metadata } options
  let captureDurationMs := Hal.elapsedMs started (← platformCall Hal.steadyNow)
  return { snapshot with metadata := { snapshot.metadata with captureDurationMs } }

def pruneQuery : Storage.PruneQuery :=
  { retentionDays := manager.config.storage.retentionDays
    maxSnapshots := manager.config.storage.maxSnapshots
    keepFavorites := true }

def prune : Action UInt32 := repository (.prune manager.pruneQuery)

/-- Retention runs after the insert, and what it returns is only logged. -/
def captureAndStore (options : CaptureOptions) : Action Snapshot := do
  let snapshot ← manager.capture options
  discard (repository (.insert snapshot))
  discard (attempt manager.prune)
  return snapshot

/-! ### The library -/

def get (snapshotId : Bytes) : Action Snapshot := do
  repository (.load (← repository (.resolveIdPrefix snapshotId)))

def latest : Action Snapshot := do
  match ← repository .latest with
  | some summary => repository (.load summary.id)
  | none =>
      throw (Err.notFound (str "no snapshots have been captured yet") (str "core.manager"))

def remove (snapshotId : Bytes) : Action Unit := do
  repository (.remove (← repository (.resolveIdPrefix snapshotId)))

/-- A snapshot under another id, if there is one with its own. -/
def withFreeId (imported : Snapshot) : Action Snapshot := do
  match ← attempt (repository (.load imported.metadata.id)) with
  | .ok _ => return Storage.withId imported (← freshUlid)
  | .error _ => return imported

/-- `rename_to` is empty when the snapshot keeps its name. The id for a document without one is made
in any case. -/
def importSnapshot (serialized format renameTo : Bytes) : Action Snapshot := do
  let format ← orThrow (Storage.formatFromString format)
  let snapshot ← orThrow (Storage.deserialize (← freshUlid) serialized format)
  let name := if renameTo = [] then snapshot.metadata.name else renameTo
  let imported ← withFreeId { snapshot with metadata := { snapshot.metadata with name } }
  let updatedAt ← now
  let imported := { imported with metadata := { imported.metadata with updatedAt } }
  discard (repository (.insert imported))
  return imported

/-- Metadata edits are read-modify-write. -/
def currentMetadata (snapshotId : Bytes) : Action SnapshotMetadata := do
  return (← get snapshotId).metadata

/-- One of the three edits: a change of the metadata as they are loaded. -/
def edit (snapshotId : Bytes) (change : SnapshotMetadata → SnapshotMetadata) : Action Unit := do
  let metadata ← currentMetadata snapshotId
  let updatedAt ← now
  repository (.updateMetadata { change metadata with updatedAt })

def rename (snapshotId name : Bytes) : Action Unit :=
  edit snapshotId fun metadata => { metadata with name }

def setFavorite (snapshotId : Bytes) (favorite : Bool) : Action Unit :=
  edit snapshotId fun metadata => { metadata with favorite }

def setTags (snapshotId : Bytes) (tags : List Bytes) : Action Unit :=
  edit snapshotId fun metadata => { metadata with tags }

/-! ### Restore -/

def insertRestoreEvents : Sql.Dml Storage.Table :=
  .insert .restoreEvents
    ["snapshot_id", "started_at", "duration_ms", "windows_restored", "windows_failed",
      "apps_launched", "tabs_restored", "dry_run", "warnings", "errors"]

def restoreEventValues (report : RestoreReport) (now : Timestamp) : List Sql.SqlValue :=
  [.text report.snapshotId, .integer (Storage.toUnixMillis now),
    Storage.bindUInt32 report.durationMs, Storage.bindUInt32 report.windowsRestored,
    Storage.bindUInt32 report.windowsFailed, Storage.bindUInt32 report.appsLaunched,
    Storage.bindUInt32 report.tabsRestored, .ofBool false,
    .text ((Storage.stringsToJson report.warnings).dump (-1)),
    .text ((Storage.stringsToJson report.errors).dump (-1))]

/-- The audit trail of a restore. A failure must not fail the restore. -/
def recordRestore (report : RestoreReport) : Action Unit :=
  database <| discard <| Storage.attempt do
    Storage.prepare [.restoreEvents]
    let now ← Storage.ask .now
    Storage.execute insertRestoreEvents (restoreEventValues report now)

def planRestore (snapshotId : Bytes) (options : RestoreOptions) : Action RestorePlan := do
  let saved ← get snapshotId
  platformCall (Restore.planRestore manager.platform saved options)

/-- The report of a dry run, which lists the steps among the warnings. -/
def dryRunReport (snapshot : Snapshot) (plan : RestorePlan) : RestoreReport :=
  { snapshotId := snapshot.metadata.id
    warnings := plan.warnings ++ plan.steps.map fun current =>
      (if current.skipped then str "skip: " else str "plan: ") ++ current.description }

def restore (snapshotId : Bytes) (options : RestoreOptions) : Action RestoreReport := do
  let snapshot ← get snapshotId
  let plan ← manager.planRestore snapshot.metadata.id options
  if options.dryRun then
    return dryRunReport snapshot plan
  let report ← orThrow
    (← platformCall (Restore.executePlan snapshot plan options manager.browserBridge))
  let report := { report with warnings := report.warnings ++ plan.warnings }
  recordRestore report
  return report

/-! ### Health -/

/-- `PRAGMA integrity_check`, which has nothing to complain about in the tables of this model. -/
def integrityCheck : Storage.Repo Bool := do
  Storage.prepare []
  match ← Storage.rows
      { columns := ["integrity_check"], source := fun _ => [fun _ => .text (str "ok")] } [] with
  | row :: _ => return Storage.columnText row 0 = str "ok"
  | [] => return false

/-- The part of `health` that looks at the database: whether it is intact, and how many snapshots it
holds. -/
def databaseHealth : Action (Bool × UInt32) := do
  let intact ← attempt (database integrityCheck)
  let count ← attempt (repository .count)
  return (intact.toOption.getD false, count.toOption.getD 0)

end Manager

/-! ### One process -/

/-- What a manager runs in, where every call on the repository runs to its end. -/
structure Surroundings (σ : Type) where
  hal : (op : Hal.Op) → σ → Option (Hal.Answer op × σ)
  storage : Storage.Environment := {}
  environment : Bytes → Option Bytes := fun _ => none

def handler {σ : Type} (around : Surroundings σ) :
    (op : Op) → σ × Storage.Connection → Option (Answer op × (σ × Storage.Connection))
  | .hal op, (s, c) => (around.hal op s).map fun result => (result.1, (result.2, c))
  | .repository operation, (s, c) =>
      (operation.call.run.run (Storage.handler around.storage) c).map fun result =>
        (result.1, (s, result.2))
  | .direct op, (s, c) =>
      (Storage.handler around.storage op c).map fun result => (result.1, (s, result.2))
  | .getenv name, state => some (around.environment name, state)

end SnapshotManager

end ContextSnap
