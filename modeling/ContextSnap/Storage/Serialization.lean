import ContextSnap.Core.Json
import ContextSnap.Core.Ulid
import ContextSnap.Storage.Timestamp

/-!
# Snapshots as documents

The JSON of a snapshot and back, and the envelope of an exported document. The build is the default
one, without FlatBuffers.
-/

namespace ContextSnap.Storage

open Json

inductive Format where
  | json | jsonPretty | flatBuffers
  deriving DecidableEq, Repr

def formatFromString (text : Bytes) : Result Format :=
  if text = str "json" then .ok .json
  else if text = str "json-pretty" ∨ text = str "pretty" then .ok .jsonPretty
  else if text = str "flatbuffers" ∨ text = str "fb" ∨ text = str "binary" then .ok .flatBuffers
  else .error (Err.invalid (str "unknown format: " ++ text) (str "storage.format"))

def Format.toText : Format → String
  | .json => "json"
  | .jsonPretty => "json-pretty"
  | .flatBuffers => "flatbuffers"

/-! ### Fields -/

/-- `static_cast<std::int64_t>` of the unsigned fields, and back. -/
def uint32ToInt64 (value : UInt32) : Int64 := value.toUInt64.toInt64

def int64ToUInt32 (value : Int64) : UInt32 := value.toUInt64.toUInt32

@[simp]
theorem int64ToUInt32_uint32ToInt64 (value : UInt32) :
    int64ToUInt32 (uint32ToInt64 value) = value := by
  simp [int64ToUInt32, uint32ToInt64]

def rectToJson (rect : Rect) : Value :=
  .object
    [(str "x", .int rect.x.toInt64), (str "y", .int rect.y.toInt64),
      (str "width", .int rect.width.toInt64), (str "height", .int rect.height.toInt64)]

def rectFromJson (value : Option Value) : Rect :=
  match value with
  | some value =>
      if value.isObject then
        let read (key : String) : Int32 := ((value.find (str key)).elim 0 (·.asInt 0)).toInt32
        { x := read "x", y := read "y", width := read "width", height := read "height" }
      else
        {}
  | none => {}

def stringsToJson (values : List Bytes) : Value := .array (values.map .string)

def stringsFromJson (value : Option Value) : List Bytes :=
  match value with
  | some value => value.asArray.map (·.asString [])
  | none => []

/-- A member that is only there for a value that is. -/
def optionalMember (key : String) (value : Option Value) : Object :=
  match value with
  | some value => [(str key, value)]
  | none => []

/-- `put_optional`, as the members it appends. -/
def putOptional (key : String) (value : Option Bytes) : Object :=
  optionalMember key (value.map .string)

def optionalString (parent : Value) (key : String) : Option Bytes :=
  match parent.find (str key) with
  | some value =>
      if value.isNull || (value.asString []).isEmpty then none else some (value.asString [])
  | none => none

def readBool (parent : Value) (key : String) (fallback : Bool) : Bool :=
  (parent.find (str key)).elim fallback (·.asBool fallback)

def readInt (parent : Value) (key : String) (fallback : Int64) : Int64 :=
  (parent.find (str key)).elim fallback (·.asInt fallback)

def readString (parent : Value) (key : String) : Bytes :=
  (parent.find (str key)).elim [] (·.asString [])

def readInt32 (parent : Value) (key : String) : Int32 := (readInt parent key 0).toInt32

/-- A `double` field, whose default is also what `as_double` falls back to. -/
def readDouble (parent : Value) (key : String) (fallback : Float) : Float :=
  (parent.find (str key)).elim fallback (·.asDouble fallback)

def platformFromText (text : Bytes) : PlatformKind :=
  ([PlatformKind.windows, .macOS, .linux].find? fun kind => str kind.toText = text).getD .unknown

def sessionFromText (text : Bytes) : SessionType :=
  ([SessionType.win32, .quartz, .x11, .wayland].find? fun kind => str kind.toText = text).getD
    .unknown

/-! ### To JSON -/

def tabToJson (tab : TabInfo) : Value :=
  .object <|
    [(str "id", .string tab.id), (str "index", .int tab.index.toInt64),
      (str "url", .string tab.url), (str "title", .string tab.title)]
    ++ putOptional "favicon_path" tab.faviconPath
    ++ putOptional "group_id" tab.groupId
    ++ putOptional "group_title" tab.groupTitle
    ++ putOptional "cookie_store_id" tab.cookieStoreId
    ++ optionalMember "opener_index" (tab.openerIndex.map fun opener => .int opener.toInt64)
    ++ [(str "scroll_y", .int tab.scrollY.toInt64), (str "pinned", .bool tab.pinned),
      (str "active", .bool tab.active), (str "audible", .bool tab.audible),
      (str "muted", .bool tab.muted), (str "discarded", .bool tab.discarded),
      (str "incognito", .bool tab.incognito), (str "sanitized", .bool tab.sanitized)]

def monitorToJson (monitor : MonitorInfo) : Value :=
  .object <|
    [(str "id", .string monitor.id), (str "name", .string monitor.name),
      (str "bounds", rectToJson monitor.bounds), (str "work_area", rectToJson monitor.workArea),
      (str "dpi", .int (uint32ToInt64 monitor.dpi)),
      (str "scale_factor", .double monitor.scaleFactor),
      (str "refresh_hz", .int (uint32ToInt64 monitor.refreshHz)),
      (str "orientation", .string monitor.orientation), (str "primary", .bool monitor.primary)]
    ++ putOptional "edid_hash" monitor.edidHash

def processToJson (process : ProcessInfo) : Value :=
  .object
    [(str "pid", .int process.pid.toInt64),
      (str "executable_path", .string process.executablePath),
      (str "command_line", stringsToJson process.commandLine),
      (str "working_directory", .string process.workingDirectory),
      (str "app_id", .string process.appId), (str "user", .string process.user),
      (str "single_instance", .bool process.singleInstance),
      (str "elevated", .bool process.elevated)]

def windowToJson (window : WindowInfo) : Value :=
  .object <|
    [(str "id", .string window.id), (str "native_handle", .int window.nativeHandle.toInt64),
      (str "title", .string window.title), (str "window_class", .string window.windowClass),
      (str "frame", rectToJson window.frame), (str "client_area", rectToJson window.clientArea),
      (str "restored_frame", rectToJson window.restoredFrame),
      (str "state", .string (str window.state.toText)),
      (str "z_order", .int window.zOrder.toInt64), (str "monitor_id", .string window.monitorId)]
    ++ putOptional "workspace_id" window.workspaceId
    ++ putOptional "workspace_name" window.workspaceName
    ++ [(str "opacity", .double window.opacity), (str "focused", .bool window.focused),
      (str "always_on_top", .bool window.alwaysOnTop),
      (str "minimizable", .bool window.minimizable), (str "resizable", .bool window.resizable),
      (str "captured_geometry_reliable", .bool window.capturedGeometryReliable),
      (str "process", processToJson window.process),
      (str "browser", .string (str window.browser.toText))]
    ++ putOptional "browser_profile" window.browserProfile
    ++ [(str "tabs", .array (window.tabs.map tabToJson))]

def metadataToJson (metadata : SnapshotMetadata) : Value :=
  .object
    [(str "id", .string metadata.id), (str "name", .string metadata.name),
      (str "description", .string metadata.description),
      (str "tags", stringsToJson metadata.tags),
      (str "created_at", .string (formatTimestamp metadata.createdAt)),
      (str "updated_at", .string (formatTimestamp metadata.updatedAt)),
      (str "platform", .string (str metadata.platform.toText)),
      (str "session_type", .string (str metadata.sessionType.toText)),
      (str "host_name", .string metadata.hostName), (str "os_version", .string metadata.osVersion),
      (str "app_version", .string metadata.appVersion),
      (str "schema_version", .int (uint32ToInt64 metadata.schemaVersion)),
      (str "capture_duration_ms", .int (uint32ToInt64 metadata.captureDurationMs)),
      (str "favorite", .bool metadata.favorite), (str "automatic", .bool metadata.automatic)]

def cursorToJson (cursor : CursorState) : Value :=
  .object <|
    [(str "x", .int cursor.x.toInt64), (str "y", .int cursor.y.toInt64),
      (str "monitor_id", .string cursor.monitorId)]
    ++ putOptional "focused_window_id" cursor.focusedWindowId

def toJson (snapshot : Snapshot) : Value :=
  .object <|
    [(str "metadata", metadataToJson snapshot.metadata),
      (str "monitors", .array (snapshot.monitors.map monitorToJson)),
      (str "windows", .array (snapshot.windows.map windowToJson)),
      (str "cursor", cursorToJson snapshot.cursor)]
    ++ putOptional "active_workspace_id" snapshot.activeWorkspaceId

/-! ### From JSON -/

def tabFromJson (value : Value) : Result TabInfo :=
  if !value.isObject then
    .error (Err.invalid (str "tab must be an object") (str "storage.deserialize"))
  else
    .ok
      { id := readString value "id"
        index := readInt32 value "index"
        url := readString value "url"
        title := readString value "title"
        faviconPath := optionalString value "favicon_path"
        groupId := optionalString value "group_id"
        groupTitle := optionalString value "group_title"
        cookieStoreId := optionalString value "cookie_store_id"
        openerIndex := (value.find (str "opener_index")).bind fun opener =>
          if opener.isNull then none else some (opener.asInt (-1)).toInt32
        scrollY := readInt32 value "scroll_y"
        pinned := readBool value "pinned" false
        active := readBool value "active" false
        audible := readBool value "audible" false
        muted := readBool value "muted" false
        discarded := readBool value "discarded" false
        incognito := readBool value "incognito" false
        sanitized := readBool value "sanitized" false }

def monitorFromJson (value : Value) : MonitorInfo :=
  let bounds := rectFromJson (value.find (str "bounds"))
  let workArea := rectFromJson (value.find (str "work_area"))
  { id := readString value "id"
    name := readString value "name"
    bounds
    dpi := int64ToUInt32 (readInt value "dpi" 96)
    scaleFactor := readDouble value "scale_factor" 1.0
    refreshHz := int64ToUInt32 (readInt value "refresh_hz" 0)
    orientation := readString value "orientation"
    primary := readBool value "primary" false
    edidHash := optionalString value "edid_hash"
    workArea := if workArea.empty then bounds else workArea }

def processFromJson (process : Value) : ProcessInfo :=
  { pid := (readInt process "pid" 0).toUInt64
    executablePath := readString process "executable_path"
    commandLine := stringsFromJson (process.find (str "command_line"))
    workingDirectory := readString process "working_directory"
    appId := readString process "app_id"
    user := readString process "user"
    singleInstance := readBool process "single_instance" false
    elevated := readBool process "elevated" false }

/-- The items of a member that may be missing or may not be an array. -/
def itemsOf (value : Value) (key : String) : List Value :=
  (value.find (str key)).elim [] (·.asArray)

def windowFromJson (value : Value) : Result WindowInfo := do
  if !value.isObject then
    throw (Err.invalid (str "window must be an object") (str "storage.deserialize"))
  let tabs ← (itemsOf value "tabs").mapM tabFromJson
  let frame := rectFromJson (value.find (str "frame"))
  let restoredFrame := rectFromJson (value.find (str "restored_frame"))
  return {
    id := readString value "id"
    nativeHandle := (readInt value "native_handle" 0).toUInt64
    title := readString value "title"
    windowClass := readString value "window_class"
    frame
    clientArea := rectFromJson (value.find (str "client_area"))
    restoredFrame := if restoredFrame.empty then frame else restoredFrame
    state := windowStateFromString (readString value "state")
    zOrder := readInt32 value "z_order"
    monitorId := readString value "monitor_id"
    workspaceId := optionalString value "workspace_id"
    workspaceName := optionalString value "workspace_name"
    opacity := readDouble value "opacity" 1.0
    focused := readBool value "focused" false
    alwaysOnTop := readBool value "always_on_top" false
    minimizable := readBool value "minimizable" true
    resizable := readBool value "resizable" true
    capturedGeometryReliable := readBool value "captured_geometry_reliable" true
    process := ((value.find (str "process")).filter (·.isObject)).elim {} processFromJson
    browser := browserKindFromString (readString value "browser")
    browserProfile := optionalString value "browser_profile"
    tabs }

/-- A text that is no timestamp leaves the default. -/
def timestampOr (fallback : Timestamp) (text : Bytes) : Timestamp :=
  match parseTimestamp text with
  | .ok timestamp => timestamp
  | .error _ => fallback

def kSnapshotSchemaVersion : UInt32 := 1

/-- The metadata of a document, where `fresh` is what `generate_ulid` returns for one without an
id. -/
def metadataFromJson (fresh : Bytes) (metadata : Value) : Result SnapshotMetadata := do
  let id := readString metadata "id"
  if !id.isEmpty && !isValidUlid id then
    throw (Err.invalid (str "snapshot id is not a ULID") (str "storage.deserialize"))
  let schemaVersion := int64ToUInt32 (readInt metadata "schema_version" 1)
  if schemaVersion > kSnapshotSchemaVersion then
    throw (Err.unsupported (str "snapshot schema is newer than this build supports")
      (str "storage.deserialize"))
  return {
    id := if id.isEmpty then fresh else id
    name := readString metadata "name"
    description := readString metadata "description"
    tags := stringsFromJson (metadata.find (str "tags"))
    createdAt := timestampOr 0 (readString metadata "created_at")
    updatedAt := timestampOr 0 (readString metadata "updated_at")
    platform := platformFromText (readString metadata "platform")
    sessionType := sessionFromText (readString metadata "session_type")
    hostName := readString metadata "host_name"
    osVersion := readString metadata "os_version"
    appVersion := readString metadata "app_version"
    schemaVersion
    captureDurationMs := int64ToUInt32 (readInt metadata "capture_duration_ms" 0)
    favorite := readBool metadata "favorite" false
    automatic := readBool metadata "automatic" false }

def cursorFromJson (cursor : Value) : CursorState :=
  { x := readInt32 cursor "x"
    y := readInt32 cursor "y"
    monitorId := readString cursor "monitor_id"
    focusedWindowId := optionalString cursor "focused_window_id" }

def snapshotFromJson (fresh : Bytes) (value : Value) : Result Snapshot := do
  if !value.isObject then
    throw (Err.invalid (str "snapshot must be an object") (str "storage.deserialize"))
  match (value.find (str "metadata")).filter (·.isObject) with
  | none => throw (Err.invalid (str "snapshot is missing metadata") (str "storage.deserialize"))
  | some metadata =>
      let metadata ← metadataFromJson fresh metadata
      let windows ← (itemsOf value "windows").mapM windowFromJson
      return {
        metadata
        monitors := (itemsOf value "monitors").map monitorFromJson
        windows
        cursor := ((value.find (str "cursor")).filter (·.isObject)).elim {} cursorFromJson
        activeWorkspaceId := optionalString value "active_workspace_id" }

/-! ### Documents -/

def serialize (snapshot : Snapshot) (format : Format) : Result Bytes :=
  match format with
  | .json => .ok ((toJson snapshot).dump (-1))
  | .jsonPretty => .ok ((toJson snapshot).dump 2)
  | .flatBuffers =>
      .error (Err.unsupported (str "this build has no FlatBuffers support")
        (str "storage.serialize"))

def kProjectName : Bytes := str "contextsnap"

def kVersion : Bytes := str "0.1.0"

/-- The envelope of an export at the time `now`. -/
def envelope (now : Timestamp) (snapshotJson : Value) : Value :=
  .object
    [(str "format", .string (str "contextsnap.snapshot")),
      (str "version", .int (uint32ToInt64 kSnapshotSchemaVersion)),
      (str "exported_at", .string (formatTimestamp now)),
      (str "producer", .string (kProjectName ++ str " " ++ kVersion)),
      (str "snapshot", snapshotJson)]

def wrapDocument (now : Timestamp) (snapshotJson : Value) : Bytes :=
  (envelope now snapshotJson).dump 2

def unwrapDocument (text : Bytes) : Result Value := do
  let document ← parse text
  if ((document.find (str "format")).map (·.asString []))
      ≠ some (str "contextsnap.snapshot") then
    throw (Err.invalid (str "not a ContextSnap snapshot document") (str "storage.unwrap"))
  if (document.find (str "version")).any fun version =>
      version.asInt 1 > uint32ToInt64 kSnapshotSchemaVersion then
    throw (Err.unsupported (str "document version is newer than this build supports")
      (str "storage.unwrap"))
  match document.find (str "snapshot") with
  | none => throw (Err.invalid (str "document has no snapshot member") (str "storage.unwrap"))
  | some snapshot => return snapshot

def deserialize (fresh payload : Bytes) (format : Format) : Result Snapshot := do
  if format = .flatBuffers then
    throw (Err.unsupported (str "this build has no FlatBuffers support")
      (str "storage.deserialize"))
  let parsed ← parse payload
  if parsed.contains (str "snapshot") then
    snapshotFromJson fresh (← unwrapDocument payload)
  else
    snapshotFromJson fresh parsed

end ContextSnap.Storage
