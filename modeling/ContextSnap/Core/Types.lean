import ContextSnap.Lib.Bytes

/-!
# The snapshot domain model

The records of a context state with their defaults, and the texts that its enumerations are stored
under. Fixed-width fields keep their width. A `system_clock::time_point` is its count of
nanoseconds since the epoch.
-/

namespace ContextSnap

abbrev Timestamp := Int64

/-- A rectangle in virtual desktop coordinates. -/
structure Rect where
  x : Int32 := 0
  y : Int32 := 0
  width : Int32 := 0
  height : Int32 := 0
  deriving DecidableEq, Repr, Inhabited

def Rect.empty (rect : Rect) : Bool := rect.width ≤ 0 || rect.height ≤ 0

/-! ### Enumerations -/

inductive WindowState where
  | normal | minimized | maximized | fullscreen | hidden
  deriving DecidableEq, Repr, Inhabited

inductive PlatformKind where
  | unknown | windows | macOS | linux
  deriving DecidableEq, Repr, Inhabited

inductive SessionType where
  | unknown | win32 | quartz | x11 | wayland
  deriving DecidableEq, Repr, Inhabited

inductive BrowserKind where
  | none | chrome | chromium | edge | brave | vivaldi | opera | firefox | libreWolf | safari | other
  deriving DecidableEq, Repr, Inhabited

def WindowState.toText : WindowState → String
  | .normal => "normal"
  | .minimized => "minimized"
  | .maximized => "maximized"
  | .fullscreen => "fullscreen"
  | .hidden => "hidden"

def PlatformKind.toText : PlatformKind → String
  | .windows => "windows"
  | .macOS => "macos"
  | .linux => "linux"
  | .unknown => "unknown"

def SessionType.toText : SessionType → String
  | .win32 => "win32"
  | .quartz => "quartz"
  | .x11 => "x11"
  | .wayland => "wayland"
  | .unknown => "unknown"

def BrowserKind.toText : BrowserKind → String
  | .none => "none"
  | .chrome => "chrome"
  | .chromium => "chromium"
  | .edge => "edge"
  | .brave => "brave"
  | .vivaldi => "vivaldi"
  | .opera => "opera"
  | .firefox => "firefox"
  | .libreWolf => "librewolf"
  | .safari => "safari"
  | .other => "other"

def windowStateFromString (text : Bytes) : WindowState :=
  let value := lower text
  if value = str "minimized" ∨ value = str "iconic" then .minimized
  else if value = str "maximized" ∨ value = str "zoomed" then .maximized
  else if value = str "fullscreen" then .fullscreen
  else if value = str "hidden" then .hidden
  else .normal

def browserKindFromString (text : Bytes) : BrowserKind :=
  let value := lower text
  if value = [] ∨ value = str "none" then .none
  else if value = str "chrome" ∨ value = str "google chrome" then .chrome
  else if value = str "chromium" then .chromium
  else if value = str "edge" ∨ value = str "msedge" ∨ value = str "microsoft edge" then .edge
  else if value = str "brave" ∨ value = str "brave-browser" then .brave
  else if value = str "vivaldi" then .vivaldi
  else if value = str "opera" then .opera
  else if value = str "firefox" ∨ value = str "mozilla firefox" then .firefox
  else if value = str "librewolf" then .libreWolf
  else if value = str "safari" then .safari
  else .other

theorem windowStateFromString_toText (state : WindowState) :
    windowStateFromString (str state.toText) = state := by
  cases state <;> decide

theorem browserKindFromString_toText (kind : BrowserKind) :
    browserKindFromString (str kind.toText) = kind := by
  cases kind <;> decide

/-! ### Records -/

structure MonitorInfo where
  id : Bytes := []
  name : Bytes := []
  bounds : Rect := {}
  workArea : Rect := {}
  dpi : UInt32 := 96
  scaleFactor : Float := 1.0
  refreshHz : UInt32 := 0
  orientation : Bytes := str "landscape"
  primary : Bool := false
  edidHash : Option Bytes := none
  deriving DecidableEq, Inhabited

structure ProcessInfo where
  pid : UInt64 := 0
  executablePath : Bytes := []
  commandLine : List Bytes := []
  workingDirectory : Bytes := []
  appId : Bytes := []
  user : Bytes := []
  singleInstance : Bool := false
  elevated : Bool := false
  deriving DecidableEq, Inhabited

structure TabInfo where
  id : Bytes := []
  index : Int32 := 0
  url : Bytes := []
  title : Bytes := []
  faviconPath : Option Bytes := none
  groupId : Option Bytes := none
  groupTitle : Option Bytes := none
  cookieStoreId : Option Bytes := none
  openerIndex : Option Int32 := none
  scrollY : Int32 := 0
  pinned : Bool := false
  active : Bool := false
  audible : Bool := false
  muted : Bool := false
  discarded : Bool := false
  incognito : Bool := false
  sanitized : Bool := false
  deriving DecidableEq, Inhabited

structure WindowInfo where
  id : Bytes := []
  nativeHandle : UInt64 := 0
  title : Bytes := []
  windowClass : Bytes := []
  frame : Rect := {}
  clientArea : Rect := {}
  restoredFrame : Rect := {}
  state : WindowState := .normal
  zOrder : Int32 := 0
  monitorId : Bytes := []
  workspaceId : Option Bytes := none
  workspaceName : Option Bytes := none
  opacity : Float := 1.0
  focused : Bool := false
  alwaysOnTop : Bool := false
  minimizable : Bool := true
  resizable : Bool := true
  capturedGeometryReliable : Bool := true
  process : ProcessInfo := {}
  browser : BrowserKind := .none
  browserProfile : Option Bytes := none
  tabs : List TabInfo := []
  deriving DecidableEq, Inhabited

structure CursorState where
  x : Int32 := 0
  y : Int32 := 0
  monitorId : Bytes := []
  focusedWindowId : Option Bytes := none
  deriving DecidableEq, Inhabited

structure SnapshotMetadata where
  id : Bytes := []
  name : Bytes := []
  description : Bytes := []
  tags : List Bytes := []
  createdAt : Timestamp := 0
  updatedAt : Timestamp := 0
  platform : PlatformKind := .unknown
  sessionType : SessionType := .unknown
  hostName : Bytes := []
  osVersion : Bytes := []
  appVersion : Bytes := []
  schemaVersion : UInt32 := 1
  captureDurationMs : UInt32 := 0
  favorite : Bool := false
  automatic : Bool := false
  deriving DecidableEq, Inhabited

structure Snapshot where
  metadata : SnapshotMetadata := {}
  monitors : List MonitorInfo := []
  windows : List WindowInfo := []
  cursor : CursorState := {}
  activeWorkspaceId : Option Bytes := none
  deriving DecidableEq, Inhabited

/-- The row of a list view. -/
structure SnapshotSummary where
  id : Bytes := []
  name : Bytes := []
  tags : List Bytes := []
  createdAt : Timestamp := 0
  windowCount : UInt32 := 0
  tabCount : UInt32 := 0
  monitorCount : UInt32 := 0
  favorite : Bool := false
  automatic : Bool := false
  deriving DecidableEq, Inhabited

def Snapshot.tabCount (snapshot : Snapshot) : Nat :=
  (snapshot.windows.map (·.tabs.length)).sum

def Snapshot.findWindow (snapshot : Snapshot) (windowId : Bytes) : Option WindowInfo :=
  snapshot.windows.find? (·.id = windowId)

/-! ### Capture and restore -/

/-- `std::chrono::milliseconds`. -/
abbrev Milliseconds := Int64

structure CaptureOptions where
  includeTabs : Bool := true
  includeMinimized : Bool := true
  includeCursor : Bool := true
  includeIncognito : Bool := false
  includeAllWorkspaces : Bool := true
  sanitizeUrls : Bool := true
  browserTimeout : Milliseconds := 700
  excludedAppIds : List Bytes := []
  excludedUrlPatterns : List Bytes := []
  name : Bytes := []
  tags : List Bytes := []
  automatic : Bool := false
  deriving DecidableEq, Inhabited

/-- What the pattern of a selector is compared with. The underlying byte of a kind that a request
made up is kept as it is. -/
inductive SelectorKind where
  | all | app | window | tab | monitor | workspace
  | unnamed (value : UInt8)
  deriving DecidableEq, Repr, Inhabited

/-- `static_cast` to the underlying byte. -/
def SelectorKind.toByte : SelectorKind → UInt8
  | .all => 0
  | .app => 1
  | .window => 2
  | .tab => 3
  | .monitor => 4
  | .workspace => 5
  | .unnamed value => value

/-- `static_cast` from a byte. -/
def SelectorKind.ofByte (value : UInt8) : SelectorKind :=
  if value = 0 then .all
  else if value = 1 then .app
  else if value = 2 then .window
  else if value = 3 then .tab
  else if value = 4 then .monitor
  else if value = 5 then .workspace
  else .unnamed value

/-- A selector of a partial restore, such as `app:code`. -/
structure RestoreSelector where
  kind : SelectorKind := .all
  pattern : Bytes := []
  deriving DecidableEq, Inhabited

/-- No selectors stand for everything. -/
structure RestoreOptions where
  selectors : List RestoreSelector := []
  launchMissingApps : Bool := true
  restoreTabs : Bool := true
  lazyLoadTabs : Bool := true
  restoreCursor : Bool := true
  restoreFocus : Bool := true
  restoreZOrder : Bool := true
  restoreWorkspaces : Bool := true
  closeConflictingWindows : Bool := false
  dryRun : Bool := false
  appLaunchTimeout : Milliseconds := 8000
  windowSettleTimeout : Milliseconds := 2500
  maxParallelLaunches : UInt32 := 4
  deriving DecidableEq, Inhabited

inductive RestoreStepKind where
  | launchProcess | waitForWindow | moveWindow | setWindowState | setWorkspace | raiseWindow
  | restoreTabs | warpCursor | focusWindow
  deriving DecidableEq, Repr, Inhabited

structure RestoreStep where
  kind : RestoreStepKind := .moveWindow
  targetId : Bytes := []
  description : Bytes := []
  skipped : Bool := false
  skipReason : Bytes := []
  deriving DecidableEq, Inhabited

structure RestorePlan where
  snapshotId : Bytes := []
  steps : List RestoreStep := []
  warnings : List Bytes := []
  estimatedDurationMs : UInt32 := 0
  deriving DecidableEq, Inhabited

structure RestoreReport where
  snapshotId : Bytes := []
  windowsRestored : UInt32 := 0
  windowsFailed : UInt32 := 0
  appsLaunched : UInt32 := 0
  tabsRestored : UInt32 := 0
  durationMs : UInt32 := 0
  warnings : List Bytes := []
  errors : List Bytes := []
  deriving DecidableEq, Inhabited

end ContextSnap
