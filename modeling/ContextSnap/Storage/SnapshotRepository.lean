import ContextSnap.Storage.Database
import ContextSnap.Storage.Serialization

/-!
# The snapshot repository

Every public operation as a program over the connection, statement by statement. The column lists
and the positions of the bound and of the read values are those of the statements in the source.
-/

namespace ContextSnap.Storage

open Sql

/-! ### Values of a row -/

section Binds

def bindInt32 (value : Int32) : SqlValue := .integer value.toInt64

def bindUInt32 (value : UInt32) : SqlValue := .integer (uint32ToInt64 value)

def bindUInt64 (value : UInt64) : SqlValue := .integer value.toInt64

/-- `value_or("")`. -/
def bindOrEmpty (value : Option Bytes) : SqlValue := .text (value.getD [])

def bindRect (rect : Rect) : List SqlValue :=
  [bindInt32 rect.x, bindInt32 rect.y, bindInt32 rect.width, bindInt32 rect.height]

end Binds

/-- NULL and the empty string are both no text. -/
def textOptional (value : SqlValue) : Option Bytes :=
  if value = .null ∨ value.toText = [] then none else some value.toText

section Columns

variable (row : List SqlValue) (index : Nat)

/-- The value of a column that the statement may not have. -/
def column : SqlValue := row.getD index .null

def columnInt : Int64 := (column row index).toInt64

def columnInt32 : Int32 := (columnInt row index).toInt32

def columnUInt32 : UInt32 := int64ToUInt32 (columnInt row index)

def columnUInt64 : UInt64 := (columnInt row index).toUInt64

def columnDouble : Float := (column row index).toDouble

def columnBool : Bool := columnInt32 row index != 0

def columnText : Bytes := (column row index).toText

def columnTextOptional : Option Bytes := textOptional (column row index)

/-- The four columns from `index` on. -/
def columnRect : Rect :=
  { x := columnInt32 row index, y := columnInt32 row (index + 1)
    width := columnInt32 row (index + 2), height := columnInt32 row (index + 3) }

end Columns

/-- `tags_to_json`, which the command line of a process goes through as well. -/
def tagsToJson (tags : List Bytes) : Bytes := (stringsToJson tags).dump (-1)

def tagsFromJson (text : Bytes) : List Bytes :=
  match Json.parse text with
  | .ok parsed => stringsFromJson (some parsed)
  | .error _ => []

/-- `join`, which puts no separator in front while the text is empty. -/
def join (values : List Bytes) (separator : UInt8) : Bytes :=
  values.foldl (fun out value => (if out = [] then out else out ++ [separator]) ++ value) []

/-! ### insert -/

def insertSnapshots : Dml Table :=
  .insert .snapshots
    ["id", "name", "description", "tags", "created_at", "updated_at", "platform", "session_type",
      "host_name", "os_version", "app_version", "schema_version", "capture_duration_ms", "favorite",
      "automatic", "active_workspace_id"]

def snapshotValues (snapshot : Snapshot) : List SqlValue :=
  let metadata := snapshot.metadata
  [.text metadata.id, .text metadata.name, .text metadata.description,
    .text (tagsToJson metadata.tags), .integer (toUnixMillis metadata.createdAt),
    .integer (toUnixMillis metadata.updatedAt), .text (str metadata.platform.toText),
    .text (str metadata.sessionType.toText), .text metadata.hostName, .text metadata.osVersion,
    .text metadata.appVersion, bindUInt32 metadata.schemaVersion,
    bindUInt32 metadata.captureDurationMs, .ofBool metadata.favorite, .ofBool metadata.automatic,
    bindOrEmpty snapshot.activeWorkspaceId]

def insertMonitorsStatement : Dml Table :=
  .insert .monitors
    ["snapshot_id", "monitor_id", "name", "x", "y", "width", "height", "work_x", "work_y",
      "work_width", "work_height", "dpi", "scale_factor", "refresh_hz", "orientation", "is_primary",
      "edid_hash"]

def monitorValues (snapshotId : Bytes) (monitor : MonitorInfo) : List SqlValue :=
  [.text snapshotId, .text monitor.id, .text monitor.name] ++ bindRect monitor.bounds
    ++ bindRect monitor.workArea
    ++ [bindUInt32 monitor.dpi, .ofDouble monitor.scaleFactor, bindUInt32 monitor.refreshHz,
      .text monitor.orientation, .ofBool monitor.primary, .ofOptional monitor.edidHash]

def insertMonitors (snapshot : Snapshot) : Repo Unit := do
  prepare [.monitors]
  snapshot.monitors.forM fun monitor =>
    execute insertMonitorsStatement (monitorValues snapshot.metadata.id monitor)

def insertTabsStatement : Dml Table :=
  .insert .tabs
    ["snapshot_id", "window_id", "tab_id", "tab_index", "url", "title", "favicon_path", "group_id",
      "group_title", "cookie_store_id", "opener_index", "scroll_y", "pinned", "active", "audible",
      "muted", "discarded", "incognito", "sanitized", "last_accessed_at", "restore_priority"]

/-- Active and pinned tabs load eagerly. -/
def restorePriority (tab : TabInfo) : Int32 := if tab.active then 100 else if tab.pinned then 50 else 0

def tabValues (snapshotId windowId : Bytes) (now : Timestamp) (tab : TabInfo) : List SqlValue :=
  [.text snapshotId, .text windowId, .text tab.id, bindInt32 tab.index, .text tab.url,
    .text tab.title, bindOrEmpty tab.faviconPath, bindOrEmpty tab.groupId,
    bindOrEmpty tab.groupTitle, bindOrEmpty tab.cookieStoreId, bindInt32 (tab.openerIndex.getD (-1)),
    bindInt32 tab.scrollY, .ofBool tab.pinned, .ofBool tab.active, .ofBool tab.audible,
    .ofBool tab.muted, .ofBool tab.discarded, .ofBool tab.incognito, .ofBool tab.sanitized,
    .integer (toUnixMillis now), bindInt32 (restorePriority tab)]

def insertTabs (snapshotId : Bytes) (window : WindowInfo) : Repo Unit :=
  if window.tabs.isEmpty then
    pure ()
  else do
    prepare [.tabs]
    window.tabs.forM fun tab => do
      let now ← ask .now
      execute insertTabsStatement (tabValues snapshotId window.id now tab)

def insertWindowsStatement : Dml Table :=
  .insert .windows
    ["snapshot_id", "window_id", "native_handle", "title", "window_class", "frame_x", "frame_y",
      "frame_width", "frame_height", "client_x", "client_y", "client_width", "client_height",
      "restored_x", "restored_y", "restored_width", "restored_height", "state", "z_order",
      "monitor_id", "workspace_id", "workspace_name", "opacity", "focused", "always_on_top",
      "minimizable", "resizable", "captured_geometry_reliable", "pid", "executable_path",
      "command_line", "working_directory", "app_id", "user_name", "single_instance", "elevated",
      "browser", "browser_profile"]

def windowValues (snapshotId : Bytes) (window : WindowInfo) : List SqlValue :=
  [.text snapshotId, .text window.id, bindUInt64 window.nativeHandle, .text window.title,
    .text window.windowClass]
    ++ bindRect window.frame ++ bindRect window.clientArea ++ bindRect window.restoredFrame
    ++ [.text (str window.state.toText), bindInt32 window.zOrder, .text window.monitorId,
      bindOrEmpty window.workspaceId, bindOrEmpty window.workspaceName, .ofDouble window.opacity,
      .ofBool window.focused, .ofBool window.alwaysOnTop, .ofBool window.minimizable,
      .ofBool window.resizable, .ofBool window.capturedGeometryReliable,
      bindUInt64 window.process.pid, .text window.process.executablePath,
      .text (tagsToJson window.process.commandLine), .text window.process.workingDirectory,
      .text window.process.appId, .text window.process.user, .ofBool window.process.singleInstance,
      .ofBool window.process.elevated, .text (str window.browser.toText),
      bindOrEmpty window.browserProfile]

def insertWindows (snapshot : Snapshot) : Repo Unit := do
  prepare [.windows]
  snapshot.windows.forM fun window => do
    execute insertWindowsStatement (windowValues snapshot.metadata.id window)
    insertTabs snapshot.metadata.id window

def insertCursorStatement : Dml Table :=
  .insert .cursorStates ["snapshot_id", "x", "y", "monitor_id", "focused_window_id"]

def cursorValues (snapshot : Snapshot) : List SqlValue :=
  [.text snapshot.metadata.id, bindInt32 snapshot.cursor.x, bindInt32 snapshot.cursor.y,
    .text snapshot.cursor.monitorId, bindOrEmpty snapshot.cursor.focusedWindowId]

def insertCursor (snapshot : Snapshot) : Repo Unit := do
  prepare [.cursorStates]
  execute insertCursorStatement (cursorValues snapshot)

/-- The text behind the first `://`, up to the next slash. -/
def hostOf : Bytes → Option Bytes
  | 58 :: 47 :: 47 :: rest => some (rest.takeWhile (· ≠ 47))
  | _ :: rest => hostOf rest
  | [] => none

/-- A `std::set` of strings in its order. -/
def sortedSet (values : List Bytes) : List Bytes := values.eraseDups.mergeSort (· ≤ ·)

def insertSearchStatement : Dml Table :=
  .insert .snapshotSearch
    ["snapshot_id", "name", "tags", "app_ids", "window_titles", "tab_titles", "tab_hosts"]

def searchValues (snapshot : Snapshot) : List SqlValue :=
  let tabs := snapshot.windows.flatMap (·.tabs)
  let appIds := sortedSet ((snapshot.windows.map (·.process.appId)).filter (· ≠ []))
  let windowTitles := (snapshot.windows.map (·.title)).filter (· ≠ [])
  let tabTitles := (tabs.map (·.title)).filter (· ≠ [])
  let tabHosts := sortedSet (tabs.filterMap (hostOf ·.url))
  [.text snapshot.metadata.id, .text snapshot.metadata.name, .text (join snapshot.metadata.tags 32),
    .text (join appIds 32), .text (join windowTitles 32), .text (join tabTitles 32),
    .text (join tabHosts 32)]

/-- A failure of the search index is only logged. -/
def indexForSearch (snapshot : Snapshot) : Repo Unit := do
  discard <| attempt do
    prepare [.snapshotSearch]
    execute insertSearchStatement (searchValues snapshot)

/-- The transaction of `insert`. -/
def insertAll (snapshot : Snapshot) : Repo Bytes := do
  prepare [.snapshots]
  execute insertSnapshots (snapshotValues snapshot)
  insertMonitors snapshot
  insertWindows snapshot
  insertCursor snapshot
  indexForSearch snapshot
  return snapshot.metadata.id

/-- The id of a snapshot, or a fresh one. -/
def assignId (original : Snapshot) : Repo Bytes :=
  if original.metadata.id = [] then ask .generateUlid else pure original.metadata.id

def withId (original : Snapshot) (id : Bytes) : Snapshot :=
  { original with metadata := { original.metadata with id } }

def insert (original : Snapshot) : Repo Bytes := do
  let id ← assignId original
  if isValidUlid id then
    withLock (withTransaction (insertAll (withId original id)))
  else
    throw (Err.invalid (str "snapshot id must be a ULID") (str "storage.repository"))

/-! ### load -/

/-- `WHERE <column> = ?`, with the first parameter. -/
def whereEqual (name : String) : Condition Table := fun _ values row => row name = param values 1

def selectSnapshot : Select Table :=
  { columns :=
      ["id", "name", "description", "tags", "created_at", "updated_at", "platform", "session_type",
        "host_name", "os_version", "app_version", "schema_version", "capture_duration_ms",
        "favorite", "automatic", "active_workspace_id"]
    source := (· .snapshots), condition := whereEqual "id" }

def snapshotFromRow (row : List SqlValue) : Snapshot :=
  { metadata :=
      { id := columnText row 0
        name := columnText row 1
        description := columnText row 2
        tags := tagsFromJson (columnText row 3)
        createdAt := fromUnixMillis (columnInt row 4)
        updatedAt := fromUnixMillis (columnInt row 5)
        platform := platformFromText (columnText row 6)
        sessionType := sessionFromText (columnText row 7)
        hostName := columnText row 8
        osVersion := columnText row 9
        appVersion := columnText row 10
        schemaVersion := columnUInt32 row 11
        captureDurationMs := columnUInt32 row 12
        favorite := columnBool row 13
        automatic := columnBool row 14 }
    activeWorkspaceId := if columnText row 15 = [] then none else some (columnText row 15) }

def selectMonitors : Select Table :=
  { columns :=
      ["monitor_id", "name", "x", "y", "width", "height", "work_x", "work_y", "work_width",
        "work_height", "dpi", "scale_factor", "refresh_hz", "orientation", "is_primary",
        "edid_hash"]
    source := (· .monitors), condition := whereEqual "snapshot_id"
    le := fun row other =>
      if row "is_primary" = other "is_primary" then (row "monitor_id").le (other "monitor_id")
      else (other "is_primary").le (row "is_primary") }

def monitorFromRow (row : List SqlValue) : MonitorInfo :=
  { id := columnText row 0
    name := columnText row 1
    bounds := columnRect row 2
    workArea := columnRect row 6
    dpi := columnUInt32 row 10
    scaleFactor := columnDouble row 11
    refreshHz := columnUInt32 row 12
    orientation := columnText row 13
    primary := columnBool row 14
    edidHash := columnTextOptional row 15 }

def loadMonitors (id : Bytes) : Repo (List MonitorInfo) := do
  prepare [.monitors]
  return (← rows selectMonitors [.text id]).map monitorFromRow

def selectWindows : Select Table :=
  { columns :=
      ["window_id", "native_handle", "title", "window_class", "frame_x", "frame_y", "frame_width",
        "frame_height", "client_x", "client_y", "client_width", "client_height", "restored_x",
        "restored_y", "restored_width", "restored_height", "state", "z_order", "monitor_id",
        "workspace_id", "workspace_name", "opacity", "focused", "always_on_top", "minimizable",
        "resizable", "captured_geometry_reliable", "pid", "executable_path", "command_line",
        "working_directory", "app_id", "user_name", "single_instance", "elevated", "browser",
        "browser_profile"]
    source := (· .windows), condition := whereEqual "snapshot_id"
    le := fun row other => (row "z_order").le (other "z_order") }

def windowFromRow (row : List SqlValue) : WindowInfo :=
  { id := columnText row 0
    nativeHandle := columnUInt64 row 1
    title := columnText row 2
    windowClass := columnText row 3
    frame := columnRect row 4
    clientArea := columnRect row 8
    restoredFrame := columnRect row 12
    state := windowStateFromString (columnText row 16)
    zOrder := columnInt32 row 17
    monitorId := columnText row 18
    workspaceId := columnTextOptional row 19
    workspaceName := columnTextOptional row 20
    opacity := columnDouble row 21
    focused := columnBool row 22
    alwaysOnTop := columnBool row 23
    minimizable := columnBool row 24
    resizable := columnBool row 25
    capturedGeometryReliable := columnBool row 26
    process :=
      { pid := columnUInt64 row 27
        executablePath := columnText row 28
        commandLine := tagsFromJson (columnText row 29)
        workingDirectory := columnText row 30
        appId := columnText row 31
        user := columnText row 32
        singleInstance := columnBool row 33
        elevated := columnBool row 34 }
    browser := browserKindFromString (columnText row 35)
    browserProfile := columnTextOptional row 36 }

def loadWindows (id : Bytes) : Repo (List WindowInfo) := do
  prepare [.windows]
  return (← rows selectWindows [.text id]).map windowFromRow

def selectTabs : Select Table :=
  { columns :=
      ["window_id", "tab_id", "tab_index", "url", "title", "favicon_path", "group_id",
        "group_title", "cookie_store_id", "opener_index", "scroll_y", "pinned", "active", "audible",
        "muted", "discarded", "incognito", "sanitized"]
    source := (· .tabs), condition := whereEqual "snapshot_id"
    le := fun row other =>
      if row "window_id" = other "window_id" then (row "tab_index").le (other "tab_index")
      else (row "window_id").le (other "window_id") }

def tabFromRow (row : List SqlValue) : TabInfo :=
  let opener := columnInt32 row 9
  { id := columnText row 1
    index := columnInt32 row 2
    url := columnText row 3
    title := columnText row 4
    faviconPath := columnTextOptional row 5
    groupId := columnTextOptional row 6
    groupTitle := columnTextOptional row 7
    cookieStoreId := columnTextOptional row 8
    openerIndex := if opener ≥ 0 then some opener else none
    scrollY := columnInt32 row 10
    pinned := columnBool row 11
    active := columnBool row 12
    audible := columnBool row 13
    muted := columnBool row 14
    discarded := columnBool row 15
    incognito := columnBool row 16
    sanitized := columnBool row 17 }

/-- The tab of a row goes to the first window with its id, and nowhere without one. -/
def addTab : List WindowInfo → List SqlValue → List WindowInfo
  | [], _ => []
  | window :: windows, row =>
      if window.id = columnText row 0 then
        { window with tabs := window.tabs ++ [tabFromRow row] } :: windows
      else
        window :: addTab windows row

def loadTabs (id : Bytes) (windows : List WindowInfo) : Repo (List WindowInfo) := do
  prepare [.tabs]
  return (← rows selectTabs [.text id]).foldl addTab windows

def selectCursor : Select Table :=
  { columns := ["x", "y", "monitor_id", "focused_window_id"]
    source := (· .cursorStates), condition := whereEqual "snapshot_id" }

def cursorFromRow (row : List SqlValue) : CursorState :=
  { x := columnInt32 row 0
    y := columnInt32 row 1
    monitorId := columnText row 2
    focusedWindowId := columnTextOptional row 3 }

/-- Cursor capture is optional. -/
def loadCursor (id : Bytes) : Repo CursorState := do
  prepare [.cursorStates]
  match ← rows selectCursor [.text id] with
  | row :: _ => return cursorFromRow row
  | [] => return {}

def noSnapshot (id : Bytes) : Error :=
  Err.notFound (str "no snapshot with id " ++ id) (str "storage.repository")

/-- The statements of `load`. -/
def loadAll (id : Bytes) : Repo Snapshot := do
  prepare [.snapshots]
  match ← rows selectSnapshot [.text id] with
  | [] => throw (noSnapshot id)
  | row :: _ =>
      let monitors ← loadMonitors id
      let windows ← loadWindows id
      let windows ← loadTabs id windows
      let cursor ← loadCursor id
      return { snapshotFromRow row with monitors, windows, cursor }

def load (id : Bytes) : Repo Snapshot := withLock (loadAll id)

/-! ### Metadata and ids -/

def metadataColumns : List String := ["name", "description", "tags", "favorite", "updated_at"]

def updateSnapshots : Dml Table :=
  .update .snapshots metadataColumns fun _ values row => row "id" = param values 6

/-- The end of `update_metadata`: the row is loaded again to be indexed with its new name and tags. -/
def refreshIndex (id : Bytes) : Repo Unit := do
  match ← attempt (load id) with
  | .ok refreshed => indexForSearch refreshed
  | .error _ => return

def metadataValues (metadata : SnapshotMetadata) (now : Timestamp) : List SqlValue :=
  [.text metadata.name, .text metadata.description, .text (tagsToJson metadata.tags),
    .ofBool metadata.favorite, .integer (toUnixMillis now), .text metadata.id]

def updateMetadata (metadata : SnapshotMetadata) : Repo Unit := withLock do
  prepare [.snapshots]
  let now ← ask .now
  execute updateSnapshots (metadataValues metadata now)
  if (← ask .changes) = 0 then
    throw (noSnapshot metadata.id)
  else
    refreshIndex metadata.id

def selectIdsLike : Select Table :=
  { columns := ["id"], source := (· .snapshots)
    condition := fun _ values row => like (param values 1).toText (row "id").toText
    le := fun row other => (other "created_at").le (row "created_at")
    limit := fun _ => some 2 }

def resolveIdPrefix (idStart : Bytes) : Repo Bytes := withLock do
  prepare [.snapshots]
  let upper := idStart.map toUpper
  match ← rows selectIdsLike [.text (upper ++ str "%")] with
  | [] =>
      throw (Err.notFound (str "no snapshot matches " ++ idStart) (str "storage.repository"))
  | [row] => return columnText row 0
  | _ =>
      throw (Err.invalid (str "id prefix is ambiguous: " ++ idStart) (str "storage.repository"))

/-! ### Lists -/

inductive ListOrder where
  | newestFirst | oldestFirst | nameAsc
  deriving DecidableEq, Repr

structure ListQuery where
  limit : UInt64 := 50
  offset : UInt64 := 0
  tag : Option Bytes := none
  favoriteOnly : Option Bool := none
  includeAutomatic : Option Bool := none
  createdAfter : Option Timestamp := none
  createdBefore : Option Timestamp := none
  order : ListOrder := .newestFirst

def summaryColumns : List String :=
  ["id", "name", "tags", "created_at", "favorite", "automatic", "window_count", "tab_count",
    "monitor_count"]

def summaryFromRow (row : List SqlValue) : SnapshotSummary :=
  { id := columnText row 0
    name := columnText row 1
    tags := tagsFromJson (columnText row 2)
    createdAt := fromUnixMillis (columnInt row 3)
    favorite := columnBool row 4
    automatic := columnBool row 5
    windowCount := columnUInt32 row 6
    tabCount := columnUInt32 row 7
    monitorCount := columnUInt32 row 8 }

/-- `LIMIT ?`, which a negative number lifts. -/
def limitParam (index : Nat) (values : List SqlValue) : Option Nat :=
  let limit := (param values index).toInt64
  if limit < 0 then none else some limit.toInt.toNat

/-- `OFFSET ?`. -/
def offsetParam (index : Nat) (values : List SqlValue) : Nat :=
  (param values index).toInt64.toInt.toNat

def byNewest (row other : Row) : Bool := (other "created_at").le (row "created_at")

def ListOrder.le (order : ListOrder) (row other : Row) : Bool :=
  match order with
  | .newestFirst => byNewest row other
  | .oldestFirst => (row "created_at").le (other "created_at")
  | .nameAsc => lower (row "name").toText ≤ lower (other "name").toText

/-- The statement that `list` puts together. Its parameters are numbered as they come. -/
def listSelect (query : ListQuery) : Select Table :=
  let afterAt := if query.tag.isSome then 2 else 1
  let beforeAt := if query.createdAfter.isSome then afterAt + 1 else afterAt
  let limitAt := if query.createdBefore.isSome then beforeAt + 1 else beforeAt
  { columns := summaryColumns, source := snapshotSummaries
    condition := fun _ values row =>
      (query.tag.isNone || like (param values 1).toText (row "tags").toText)
        && (!query.favoriteOnly.getD false || row "favorite" = .integer 1)
        && (query.includeAutomatic.getD true || row "automatic" = .integer 0)
        && (query.createdAfter.isNone || (param values afterAt).le (row "created_at"))
        && (query.createdBefore.isNone || (row "created_at").le (param values beforeAt))
    le := query.order.le
    limit := limitParam limitAt
    offset := offsetParam (limitAt + 1) }

def listValues (query : ListQuery) : List SqlValue :=
  (query.tag.toList.map fun tag => .text (str "%\"" ++ tag ++ str "\"%"))
    ++ (query.createdAfter.toList.map fun time => .integer (toUnixMillis time))
    ++ (query.createdBefore.toList.map fun time => .integer (toUnixMillis time))
    ++ [bindUInt64 (if query.limit = 0 then 50 else query.limit), bindUInt64 query.offset]

def list (query : ListQuery) : Repo (List SnapshotSummary) := withLock do
  prepare [.snapshots, .windows, .tabs, .monitors]
  return (← rows (listSelect query) (listValues query)).map summaryFromRow

/-- Takes no lock of its own. -/
def latest : Repo (Option SnapshotSummary) := do
  return (← list { limit := 1 }).head?

/-! ### remove and prune -/

def deleteSnapshot : Dml Table := .delete .snapshots (whereEqual "id")

def remove (id : Bytes) : Repo Unit := withLock do
  prepare [.snapshots]
  execute deleteSnapshot [.text id]
  if (← ask .changes) = 0 then
    throw (noSnapshot id)

structure PruneQuery where
  retentionDays : UInt32 := 0
  maxSnapshots : UInt32 := 0
  keepFavorites : Bool := true

/-- Rows that a prune may delete. -/
def prunable (query : PruneQuery) (row : Row) : Bool :=
  !query.keepFavorites || row "favorite" = .integer 0

def deleteExpired (query : PruneQuery) : Dml Table :=
  .delete .snapshots fun _ values row =>
    !(param values 1).le (row "created_at") && prunable query row

/-- The ids behind the newest `max_snapshots`. -/
def selectSurplus (query : PruneQuery) : Select Table :=
  { columns := ["id"], source := (· .snapshots), condition := fun _ _ row => prunable query row
    le := byNewest, offset := offsetParam 1 }

def deleteSurplus (query : PruneQuery) : Dml Table :=
  .delete .snapshots fun tables values row =>
    ((selectSurplus query).rows tables values).contains [row "id"]

/-- A DELETE and the number of rows that went. -/
def pruneWith (statement : Dml Table) (value : Int64) : Repo UInt32 := do
  prepare [.snapshots]
  execute statement [.integer value]
  return UInt32.ofNat (← ask .changes)

def pruneExpired (query : PruneQuery) : Repo UInt32 :=
  if query.retentionDays > 0 then do
    let now ← ask .now
    let cutoff := toUnixMillis now - uint32ToInt64 query.retentionDays * 24 * 60 * 60 * 1000
    pruneWith (deleteExpired query) cutoff
  else
    pure 0

def pruneSurplus (query : PruneQuery) : Repo UInt32 :=
  if query.maxSnapshots > 0 then
    pruneWith (deleteSurplus query) (uint32ToInt64 query.maxSnapshots)
  else
    pure 0

def prune (query : PruneQuery) : Repo UInt32 := withLock <| withTransaction do
  let expired ← pruneExpired query
  let surplus ← pruneSurplus query
  return expired + surplus

/-! ### Counts and searches -/

def count : Repo UInt32 := withLock do
  prepare [.snapshots]
  let found ← rows { columns := [], source := (· .snapshots) } []
  return UInt32.ofNat found.length

def selectMatching : Select Table :=
  { columns := summaryColumns, source := snapshotSummaries
    condition := fun tables _ row =>
      (tables .snapshotSearch).any fun indexed => indexed "snapshot_id" = row "id"
    le := byNewest, limit := limitParam 2 }

def selectNameLike : Select Table :=
  { columns := summaryColumns, source := snapshotSummaries
    condition := fun _ values row => like (param values 1).toText (row "name").toText
    le := byNewest, limit := limitParam 2 }

/-- Without a full-text index the names are searched. -/
def search (query : Bytes) (limit : UInt64) : Repo (List SnapshotSummary) := withLock do
  match ← attempt (prepare [.snapshots, .windows, .tabs, .monitors, .snapshotSearch]) with
  | .error _ =>
      prepare [.snapshots, .windows, .tabs, .monitors]
      let found ← rows selectNameLike [.text (str "%" ++ query ++ str "%"), bindUInt64 limit]
      return found.map summaryFromRow
  | .ok () =>
      let expression := str "\"" ++ query ++ str "\"*"
      let found ← rows selectMatching
        [.text expression, bindUInt64 (if limit = 0 then 25 else limit)] (some expression)
      return found.map summaryFromRow

/-- One more of `tag`, in the order of the first of each. -/
def countTag (counted : List (Bytes × UInt32)) (tag : Bytes) : List (Bytes × UInt32) :=
  if counted.any (·.1 = tag) then
    counted.map fun entry => if entry.1 = tag then (entry.1, entry.2 + 1) else entry
  else
    counted ++ [(tag, 1)]

def tags : Repo (List (Bytes × UInt32)) := withLock do
  prepare [.snapshots]
  let found ← rows { columns := ["tags"], source := (· .snapshots) } []
  let counted := (found.flatMap fun row => tagsFromJson (columnText row 0)).foldl countTag []
  return counted.mergeSort fun entry other => entry.2 ≥ other.2

def maintenance : Repo Unit := withLock do
  exec .pragma
  exec .pragma

/-! ### The public operations -/

inductive Operation where
  | insert (snapshot : Snapshot)
  | updateMetadata (metadata : SnapshotMetadata)
  | load (id : Bytes)
  | resolveIdPrefix (idStart : Bytes)
  | list (query : ListQuery)
  | latest
  | remove (id : Bytes)
  | prune (query : PruneQuery)
  | count
  | search (query : Bytes) (limit : UInt64)
  | tags
  | maintenance

/-- An operation without its result. -/
def Operation.program : Operation → Repo Unit
  | .insert snapshot => discard (Storage.insert snapshot)
  | .updateMetadata metadata => Storage.updateMetadata metadata
  | .load id => discard (Storage.load id)
  | .resolveIdPrefix idStart => discard (Storage.resolveIdPrefix idStart)
  | .list query => discard (Storage.list query)
  | .latest => discard Storage.latest
  | .remove id => Storage.remove id
  | .prune query => discard (Storage.prune query)
  | .count => discard Storage.count
  | .search query limit => discard (Storage.search query limit)
  | .tags => discard Storage.tags
  | .maintenance => Storage.maintenance

/-- What an operation returns. -/
abbrev Operation.Output : Operation → Type
  | .insert _ | .resolveIdPrefix _ => Bytes
  | .updateMetadata _ | .remove _ | .maintenance => Unit
  | .load _ => Snapshot
  | .list _ | .search _ _ => List SnapshotSummary
  | .latest => Option SnapshotSummary
  | .prune _ | .count => UInt32
  | .tags => List (Bytes × UInt32)

/-- An operation with its result. -/
def Operation.call : (operation : Operation) → Repo operation.Output
  | .insert snapshot => Storage.insert snapshot
  | .updateMetadata metadata => Storage.updateMetadata metadata
  | .load id => Storage.load id
  | .resolveIdPrefix idStart => Storage.resolveIdPrefix idStart
  | .list query => Storage.list query
  | .latest => Storage.latest
  | .remove id => Storage.remove id
  | .prune query => Storage.prune query
  | .count => Storage.count
  | .search query limit => Storage.search query limit
  | .tags => Storage.tags
  | .maintenance => Storage.maintenance

end ContextSnap.Storage
