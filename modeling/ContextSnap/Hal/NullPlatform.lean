import ContextSnap.Core.Geometry
import ContextSnap.Hal.Platform
import Mathlib.Data.List.Lookmap

/-!
# The null platform

The headless backend. It keeps the desktop in memory, so that capture and restore run without a
display server, and does in place what it is asked to.
-/

namespace ContextSnap.Hal

structure Workspace where
  id : Bytes := []
  name : Bytes := []
  index : Int32 := 0
  active : Bool := false
  deriving DecidableEq, Inhabited

/-- The counter of the pids, which the source keeps apart as a static, starts below the first one. -/
structure NullPlatformState where
  monitors : List MonitorInfo := []
  windows : List WindowInfo := []
  cursor : CursorState := {}
  workspaces : List Workspace := []
  allowMutation : Bool := true
  nextPid : UInt64 := 90000
  deriving DecidableEq, Inhabited

namespace NullPlatformState

def mutationBlocked : Error :=
  Err.unsupported (str "the null platform is read-only in this configuration") (str "hal.null")

def noSuchWindow : Error := Err.notFound (str "no such window handle") (str "hal.null")

variable (s : NullPlatformState)

/-! ### Windows -/

def find (handle : UInt64) : Option WindowInfo :=
  s.windows.find? fun window => window.nativeHandle = handle

/-- The windows after a change of the one that `find` finds. -/
def changed (windows : List WindowInfo) (handle : UInt64) (change : WindowInfo → WindowInfo) :
    List WindowInfo :=
  windows.lookmap fun window =>
    if window.nativeHandle = handle then some (change window) else none

/-- What the mutating calls on a single window have in common. -/
def changeWindow (handle : UInt64) (change : WindowInfo → WindowInfo) :
    Status × NullPlatformState :=
  if s.allowMutation then
    match s.find handle with
    | none => (.error noSuchWindow, s)
    | some _ => (.ok (), { s with windows := changed s.windows handle change })
  else (.error mutationBlocked, s)

def enumerateWindows (options : CaptureOptions) : Result (List WindowInfo) :=
  .ok (s.windows.filter fun window => options.includeMinimized || window.state ≠ .minimized)

def get (handle : UInt64) : Result WindowInfo :=
  match s.find handle with
  | some window => .ok window
  | none => .error noSuchWindow

def setFrame (handle : UInt64) (frame : Rect) : Status × NullPlatformState :=
  s.changeWindow handle fun window => { window with frame, restoredFrame := frame }

def setState (handle : UInt64) (state : WindowState) : Status × NullPlatformState :=
  s.changeWindow handle fun window => { window with state }

def top : Int32 := s.windows.foldl (fun top window => max top window.zOrder) 0

def raise (handle : UInt64) : Status × NullPlatformState :=
  s.changeWindow handle fun window => { window with zOrder := s.top + 1 }

def withFocus (focused : Bool) (window : WindowInfo) : WindowInfo := { window with focused }

def focus (handle : UInt64) : Status × NullPlatformState :=
  if s.allowMutation then
    match s.find handle with
    | none => (.error noSuchWindow, s)
    | some target =>
        (.ok (), { s with
          windows := changed (s.windows.map (withFocus false)) handle (withFocus true)
          cursor := { s.cursor with focusedWindowId := some target.id } })
  else (.error mutationBlocked, s)

def setAlwaysOnTop (handle : UInt64) (onTop : Bool) : Status × NullPlatformState :=
  s.changeWindow handle fun window => { window with alwaysOnTop := onTop }

def close (handle : UInt64) : Status × NullPlatformState :=
  if s.allowMutation then
    if s.windows.any fun window => window.nativeHandle = handle then
      (.ok (), { s with windows := s.windows.filter fun window => window.nativeHandle ≠ handle })
    else (.error noSuchWindow, s)
  else (.error mutationBlocked, s)

/-- No window ever appears by itself, so the timeout does not matter. -/
def waitForWindow (pid : UInt64) (titleHint : Bytes) : Result WindowInfo :=
  match s.windows.find? fun window => (pid = 0 || window.process.pid = pid)
      && (titleHint = [] || (Matching.findText titleHint window.title).isSome) with
  | some window => .ok window
  | none =>
      .error { code := .timeout, message := str "no window appeared for the launched process"
               context := str "hal.null" }

/-! ### Displays, cursor and processes -/

def enumerateDisplays : Result (List MonitorInfo) := .ok s.monitors

def virtualBounds : Result Rect := .ok (Geometry.virtualBounds s.monitors)

def queryCursor : Result CursorState := .ok s.cursor

def warp (x y : Int32) : Status × NullPlatformState :=
  if s.allowMutation then (.ok (), { s with cursor := { s.cursor with x, y } })
  else (.error mutationBlocked, s)

def info (pid : UInt64) : Result ProcessInfo :=
  match s.windows.find? fun window => window.process.pid = pid with
  | some window => .ok window.process
  | none => .error (Err.notFound (str "no such pid") (str "hal.null"))

/-- Nothing is started, but every launch gets a pid of its own. -/
def launch (_process : ProcessInfo) : Result UInt64 × NullPlatformState :=
  if s.allowMutation then (.ok (s.nextPid + 1), { s with nextPid := s.nextPid + 1 })
  else (.error (Err.unsupported (str "the null platform cannot launch processes") (str "hal.null")), s)

def isRunning (pid : UInt64) : Bool := s.windows.any fun window => window.process.pid = pid

def findByAppId (appId : Bytes) : Result (List UInt64) :=
  .ok ((s.windows.filter fun window => window.process.appId = appId).map (·.process.pid))

/-! ### Workspaces -/

def enumerateWorkspaces : Result (List Workspace) := .ok s.workspaces

def currentWorkspace : Result Bytes :=
  match s.workspaces.find? (·.active) with
  | some workspace => .ok workspace.id
  | none => .error (Err.notFound (str "no active workspace") (str "hal.null"))

/-- An id that no workspace has leaves none of them active. -/
def activate (workspaceId : Bytes) : Status × NullPlatformState :=
  if s.allowMutation then
    let workspaces := s.workspaces.map fun workspace =>
      { workspace with active := workspace.id = workspaceId }
    (if workspaces.any (·.active) then .ok ()
      else .error (Err.notFound (str "no such workspace") (str "hal.null")),
      { s with workspaces })
  else (.error mutationBlocked, s)

def moveWindow (handle : UInt64) (workspaceId : Bytes) : Status × NullPlatformState :=
  s.changeWindow handle fun window => { window with workspaceId := some workspaceId }

/-! ### The platform -/

def capabilities : Capabilities :=
  { enumerateWindows := true
    windowGeometry := true
    setWindowGeometry := s.allowMutation
    setWindowState := s.allowMutation
    zOrder := s.allowMutation
    focusControl := s.allowMutation
    virtualDesktops := !s.workspaces.isEmpty
    moveBetweenDesktops := s.allowMutation
    cursorQuery := true
    cursorWarp := s.allowMutation
    processCommandLine := true
    processWorkingDirectory := true
    launchProcesses := s.allowMutation
    windowThumbnails := false
    limitations :=
      [str "headless backend: state is in-memory and never touches a real desktop"] }

def platform : Platform :=
  { kind := .unknown, sessionType := .unknown, osVersion := str "n/a"
    capabilities := s.capabilities }

/-! ### Runs -/

/-- The calls that may change something. -/
inductive Mutation where
  | setFrame (handle : UInt64) (frame : Rect)
  | setState (handle : UInt64) (state : WindowState)
  | raise (handle : UInt64)
  | focus (handle : UInt64)
  | setAlwaysOnTop (handle : UInt64) (onTop : Bool)
  | close (handle : UInt64)
  | warp (x y : Int32)
  | launch (process : ProcessInfo)
  | activate (workspaceId : Bytes)
  | moveWindow (handle : UInt64) (workspaceId : Bytes)

def perform : Mutation → Status × NullPlatformState
  | .setFrame handle frame => s.setFrame handle frame
  | .setState handle state => s.setState handle state
  | .raise handle => s.raise handle
  | .focus handle => s.focus handle
  | .setAlwaysOnTop handle onTop => s.setAlwaysOnTop handle onTop
  | .close handle => s.close handle
  | .warp x y => s.warp x y
  | .launch process => ((s.launch process).1.map fun _ => (), (s.launch process).2)
  | .activate workspaceId => s.activate workspaceId
  | .moveWindow handle workspaceId => s.moveWindow handle workspaceId

def run (calls : List Mutation) : NullPlatformState :=
  calls.foldl (fun s call => (s.perform call).2) s

end NullPlatformState

/-! ### What a platform starts from -/

/-- A single monitor, one workspace, no windows. -/
def defaultNullState : NullPlatformState :=
  { monitors :=
      [{ id := str "null-0", name := str "Headless Display"
         bounds := { x := 0, y := 0, width := 1920, height := 1080 }
         workArea := { x := 0, y := 0, width := 1920, height := 1040 }, primary := true }]
    workspaces := [{ id := str "ws-1", name := str "Workspace 1", index := 0, active := true }]
    cursor := { x := 960, y := 540, monitorId := str "null-0" } }

def sampleEditor (id : Bytes) : WindowInfo :=
  { id, nativeHandle := 1001, title := str "contextsnap - main.cpp", windowClass := str "Code"
    frame := { x := 40, y := 60, width := 1200, height := 900 }
    clientArea := { x := 40, y := 60, width := 1200, height := 900 }
    restoredFrame := { x := 40, y := 60, width := 1200, height := 900 }
    monitorId := str "null-0", workspaceId := some (str "ws-1"), zOrder := 1, focused := true
    process := {
      pid := 4242, executablePath := str "/usr/bin/code"
      commandLine := [str "/usr/bin/code", str "/home/dev/contextsnap"]
      workingDirectory := str "/home/dev/contextsnap", appId := str "code"
      singleInstance := true } }

def sampleBrowser (id : Bytes) : WindowInfo :=
  { id, nativeHandle := 1002, title := str "ContextSnap design - Figma"
    windowClass := str "Chromium"
    frame := { x := 1920, y := 0, width := 2560, height := 1440 }
    clientArea := { x := 1920, y := 0, width := 2560, height := 1440 }
    restoredFrame := { x := 1920, y := 0, width := 2560, height := 1440 }
    monitorId := str "null-1", workspaceId := some (str "ws-1"), zOrder := 2
    browser := .chromium, browserProfile := some (str "Default")
    process := {
      pid := 4243, executablePath := str "/usr/bin/chromium"
      commandLine := [str "/usr/bin/chromium"], appId := str "chromium" }
    tabs :=
      [{ id := str "tab-1", index := 0, url := str "https://www.figma.com/file/abc/ContextSnap"
         title := str "ContextSnap design - Figma", active := true },
       { id := str "tab-2", index := 1, url := str "https://wayland.freedesktop.org/docs/html/"
         title := str "Wayland Protocol Documentation" }] }

/-- Two monitors with mixed DPI, an editor and a browser. The ids of the windows are generated. -/
def sampleNullState (editorId browserId : Bytes) : NullPlatformState :=
  { defaultNullState with
    monitors := defaultNullState.monitors ++
      [{ id := str "null-1", name := str "Headless HiDPI"
         bounds := { x := 1920, y := 0, width := 2560, height := 1440 }
         workArea := { x := 1920, y := 0, width := 2560, height := 1440 }
         dpi := 192, scaleFactor := 2.0 }]
    windows := [sampleEditor editorId, sampleBrowser browserId]
    cursor := { defaultNullState.cursor with focusedWindowId := some editorId } }

/-- The null platform as the environment of the core. The browser bridge and the clock, which are
none of its business, answer for themselves. -/
def onNullPlatform {τ : Type} (others : (op : Op) → τ → Answer op × τ) :
    (op : Op) → NullPlatformState × τ → Answer op × NullPlatformState × τ
  | .enumerateWindows options, (s, t) => (s.enumerateWindows options, s, t)
  | .setFrame handle frame, (s, t) => ((s.setFrame handle frame).1, (s.setFrame handle frame).2, t)
  | .setState handle state, (s, t) => ((s.setState handle state).1, (s.setState handle state).2, t)
  | .raise handle, (s, t) => ((s.raise handle).1, (s.raise handle).2, t)
  | .focus handle, (s, t) => ((s.focus handle).1, (s.focus handle).2, t)
  | .waitForWindow pid titleHint _, (s, t) => (s.waitForWindow pid titleHint, s, t)
  | .enumerateDisplays, (s, t) => (s.enumerateDisplays, s, t)
  | .queryCursor, (s, t) => (s.queryCursor, s, t)
  | .warp x y, (s, t) => ((s.warp x y).1, (s.warp x y).2, t)
  | .launch process, (s, t) => ((s.launch process).1, (s.launch process).2, t)
  | .currentWorkspace, (s, t) => (s.currentWorkspace, s, t)
  | .moveWindow handle workspaceId, (s, t) =>
      ((s.moveWindow handle workspaceId).1, (s.moveWindow handle workspaceId).2, t)
  | .captureTabs timeout allowSessionFallback, (s, t) =>
      let (answer, t') := others (.captureTabs timeout allowSessionFallback) t
      (answer, s, t')
  | .restoreTabs windows lazyLoad, (s, t) =>
      let (answer, t') := others (.restoreTabs windows lazyLoad) t
      (answer, s, t')
  | .steadyNow, (s, t) =>
      let (answer, t') := others .steadyNow t
      (answer, s, t')

end ContextSnap.Hal
