import ContextSnap.Lib.Sql

/-!
# The schema

The tables that the migrations leave behind, with the constraints of their columns and keys, the
view behind the list queries and the two triggers that keep the search index up to date.
-/

namespace ContextSnap.Storage

open Sql

inductive Table where
  | snapshots | monitors | windows | tabs | cursorStates | snapshotSearch | restoreEvents
  deriving DecidableEq, Repr

/-! ### Columns -/

/-- `TEXT NOT NULL`, with a default if there is one. -/
def textColumn (name : String) (default : Option String := some "") : Column :=
  { name, storage := .text, default := default.elim .null fun text => .text (str text) }

/-- `INTEGER NOT NULL`, with a default if there is one. -/
def integerColumn (name : String) (default : Option Int64 := some 0) : Column :=
  { name, storage := .integer, default := default.elim .null .integer }

/-- `REAL NOT NULL DEFAULT 1.0`. -/
def realColumn (name : String) : Column := { name, storage := .real, default := .real 1.0 }

/-- An INTEGER that CHECK restricts to 0 and 1. -/
def flagColumn (name : String) (default : Int64 := 0) : Column :=
  { name, storage := .integer, default := .integer default
    check := fun value => value = .integer 0 || value = .integer 1 }

/-- A text without constraints, as all columns of the FTS5 table are. -/
def nullableColumn (name : String) : Column := { name, storage := .text, nullable := true }

def snapshotColumns : List Column :=
  [textColumn "id" none, textColumn "name", textColumn "description",
    textColumn "tags" (some "[]"), integerColumn "created_at" none, integerColumn "updated_at" none,
    textColumn "platform" (some "unknown"), textColumn "session_type" (some "unknown"),
    textColumn "host_name", textColumn "os_version", textColumn "app_version",
    integerColumn "schema_version" (some 1), integerColumn "capture_duration_ms",
    flagColumn "favorite", flagColumn "automatic", textColumn "active_workspace_id"]

def monitorColumns : List Column :=
  [textColumn "snapshot_id" none, textColumn "monitor_id" none, textColumn "name",
    integerColumn "x" none, integerColumn "y" none, integerColumn "width" none,
    integerColumn "height" none, integerColumn "work_x" none, integerColumn "work_y" none,
    integerColumn "work_width" none, integerColumn "work_height" none,
    integerColumn "dpi" (some 96), realColumn "scale_factor", integerColumn "refresh_hz",
    textColumn "orientation" (some "landscape"), flagColumn "is_primary",
    nullableColumn "edid_hash"]

def windowStates : List SqlValue :=
  ["normal", "minimized", "maximized", "fullscreen", "hidden"].map fun text => .text (str text)

def stateColumn : Column :=
  { name := "state", storage := .text, default := .text (str "normal")
    check := fun value => windowStates.contains value }

def windowColumns : List Column :=
  [textColumn "snapshot_id" none, textColumn "window_id" none, integerColumn "native_handle",
    textColumn "title", textColumn "window_class", integerColumn "frame_x" none,
    integerColumn "frame_y" none, integerColumn "frame_width" none,
    integerColumn "frame_height" none, integerColumn "client_x", integerColumn "client_y",
    integerColumn "client_width", integerColumn "client_height", integerColumn "restored_x",
    integerColumn "restored_y", integerColumn "restored_width", integerColumn "restored_height",
    stateColumn, integerColumn "z_order", textColumn "monitor_id", textColumn "workspace_id",
    textColumn "workspace_name", realColumn "opacity", flagColumn "focused",
    flagColumn "always_on_top", flagColumn "minimizable" 1, flagColumn "resizable" 1,
    flagColumn "captured_geometry_reliable" 1, integerColumn "pid", textColumn "executable_path",
    textColumn "command_line" (some "[]"), textColumn "working_directory", textColumn "app_id",
    textColumn "user_name", flagColumn "single_instance", flagColumn "elevated",
    textColumn "browser" (some "none"), textColumn "browser_profile", textColumn "launch_hint"]

def tabColumns : List Column :=
  [textColumn "snapshot_id" none, textColumn "window_id" none, textColumn "tab_id" none,
    integerColumn "tab_index", textColumn "url", textColumn "title", textColumn "favicon_path",
    textColumn "group_id", textColumn "group_title", textColumn "cookie_store_id",
    integerColumn "opener_index" (some (-1)), integerColumn "scroll_y", flagColumn "pinned",
    flagColumn "active", flagColumn "audible", flagColumn "muted", flagColumn "discarded",
    flagColumn "incognito", flagColumn "sanitized", integerColumn "last_accessed_at",
    textColumn "discard_reason", integerColumn "restore_priority", textColumn "session_blob_ref"]

def cursorColumns : List Column :=
  [textColumn "snapshot_id" none, integerColumn "x", integerColumn "y", textColumn "monitor_id",
    textColumn "focused_window_id"]

def searchColumns : List Column :=
  ["snapshot_id", "name", "tags", "app_ids", "window_titles", "tab_titles", "tab_hosts"].map
    nullableColumn

/-- Without the `id` that SQLite numbers the rows with. -/
def restoreEventColumns : List Column :=
  [textColumn "snapshot_id" none, integerColumn "started_at" none, integerColumn "duration_ms",
    integerColumn "windows_restored", integerColumn "windows_failed",
    integerColumn "apps_launched", integerColumn "tabs_restored", flagColumn "dry_run",
    textColumn "warnings" (some "[]"), textColumn "errors" (some "[]")]

/-! ### Tables -/

/-- `REFERENCES snapshots(id) ON DELETE CASCADE`. -/
def snapshotKey : ForeignKey Table :=
  { columns := ["snapshot_id"], parent := .snapshots, parentColumns := ["id"] }

def windowKey : ForeignKey Table :=
  { columns := ["snapshot_id", "window_id"], parent := .windows
    parentColumns := ["snapshot_id", "window_id"] }

def schema : Schema Table
  | .snapshots => { columns := snapshotColumns, primaryKey := ["id"], foreignKeys := [] }
  | .monitors =>
      { columns := monitorColumns, primaryKey := ["snapshot_id", "monitor_id"]
        foreignKeys := [snapshotKey] }
  | .windows =>
      { columns := windowColumns, primaryKey := ["snapshot_id", "window_id"]
        foreignKeys := [snapshotKey] }
  | .tabs =>
      { columns := tabColumns, primaryKey := ["snapshot_id", "window_id", "tab_id"]
        foreignKeys := [snapshotKey, windowKey] }
  | .cursorStates =>
      { columns := cursorColumns, primaryKey := ["snapshot_id"], foreignKeys := [snapshotKey] }
  | .snapshotSearch => { columns := searchColumns, primaryKey := [], foreignKeys := [] }
  | .restoreEvents =>
      { columns := restoreEventColumns, primaryKey := [], foreignKeys := [snapshotKey] }

/-- The longest chain of foreign keys, from `tabs` over `windows` to `snapshots`. -/
def cascadeDepth : Nat := 2

/-! ### The view -/

def countWhere (rows : List Row) (snapshotId : SqlValue) : SqlValue :=
  .integer (Int64.ofNat ((rows.filter fun row => row "snapshot_id" = snapshotId).length))

/-- A row of `snapshot_summaries`. -/
def summaryRow (tables : Tables Table) (row : Row) : Row := fun name =>
  if name = "window_count" then countWhere (tables .windows) (row "id")
  else if name = "tab_count" then countWhere (tables .tabs) (row "id")
  else if name = "monitor_count" then countWhere (tables .monitors) (row "id")
  else row name

def snapshotSummaries (tables : Tables Table) : List Row :=
  (tables .snapshots).map (summaryRow tables)

/-! ### The triggers -/

/-- `trg_snapshots_metadata_update`, for one updated row. -/
def afterUpdate (tables : Tables Table) (new : Row) : Tables Table :=
  Function.update tables .snapshotSearch <|
    (tables .snapshotSearch).map fun row =>
      if row "snapshot_id" = new "id" then
        updatedRow ["name", "tags"] [new "name", new "tags"] row
      else
        row

/-- `trg_snapshots_delete_search`, for one deleted row. -/
def afterDelete (tables : Tables Table) (old : Row) : Tables Table :=
  Function.update tables .snapshotSearch <|
    (tables .snapshotSearch).filter fun row => row "snapshot_id" != old "id"

/-- A statement with its triggers, and the number of rows it changed itself. -/
def runDml (tables : Tables Table) (values : List SqlValue) :
    Dml Table → Except Violation (Tables Table × Nat)
  | .insert table columns => do
      let inserted ← insertRow schema tables table (insertedRow schema table columns values)
      return (inserted, 1)
  | .update table columns condition => do
      let matching := (tables table).filter (condition tables values)
      let updated ← updateRows schema tables table columns values (condition tables values)
      let new := matching.map (updatedRow columns values)
      let fires := table = .snapshots ∧ (columns.contains "name" ∨ columns.contains "tags")
      return (if fires then new.foldl afterUpdate updated else updated,
        matching.length)
  | .delete table condition =>
      let matching := (tables table).filter (condition tables values)
      let remaining := deleteRows schema cascadeDepth tables table (condition tables values)
      .ok (if table = .snapshots then matching.foldl afterDelete remaining else remaining,
        matching.length)

end ContextSnap.Storage
