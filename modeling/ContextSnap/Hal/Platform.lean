import ContextSnap.Browser.Bridge
import ContextSnap.Core.Result
import ContextSnap.Lib.Trace

/-!
# The hardware and operating system abstraction

What a backend says it can do, and the calls that the core makes on it and on the browser bridge.
The answers are the backend's own: nothing is assumed of them here.
-/

namespace ContextSnap.Hal

open Browser (BrowserWindow TabCapture)

structure Capabilities where
  enumerateWindows : Bool := false
  windowGeometry : Bool := false
  setWindowGeometry : Bool := false
  setWindowState : Bool := false
  zOrder : Bool := false
  focusControl : Bool := false
  virtualDesktops : Bool := false
  moveBetweenDesktops : Bool := false
  cursorQuery : Bool := false
  cursorWarp : Bool := false
  processCommandLine : Bool := false
  processWorkingDirectory : Bool := false
  launchProcesses : Bool := false
  windowThumbnails : Bool := false
  limitations : List Bytes := []
  deriving DecidableEq, Inhabited

/-- What a backend is, which does not change while it runs. -/
structure Platform where
  kind : PlatformKind := .unknown
  sessionType : SessionType := .unknown
  osVersion : Bytes := []
  capabilities : Capabilities := {}
  deriving DecidableEq, Inhabited

/-- The calls on the platform, on the browser bridge and on the steady clock. -/
inductive Op where
  | enumerateWindows (options : CaptureOptions)
  | setFrame (handle : UInt64) (frame : Rect)
  | setState (handle : UInt64) (state : WindowState)
  | raise (handle : UInt64)
  | focus (handle : UInt64)
  | waitForWindow (pid : UInt64) (titleHint : Bytes) (timeout : Milliseconds)
  | enumerateDisplays
  | queryCursor
  | warp (x y : Int32)
  | launch (process : ProcessInfo)
  | currentWorkspace
  | moveWindow (handle : UInt64) (workspaceId : Bytes)
  | captureTabs (timeout : Milliseconds) (allowSessionFallback : Bool)
  | restoreTabs (windows : List BrowserWindow) (lazyLoad : Bool)
  | steadyNow

def Answer : Op → Type
  | .enumerateWindows _ => Result (List WindowInfo)
  | .setFrame _ _ | .setState _ _ | .raise _ | .focus _ | .warp _ _ | .moveWindow _ _ => Status
  | .waitForWindow _ _ _ => Result WindowInfo
  | .enumerateDisplays => Result (List MonitorInfo)
  | .queryCursor => Result CursorState
  | .launch _ => Result UInt64
  | .currentWorkspace => Result Bytes
  | .captureTabs _ _ => Result TabCapture
  | .restoreTabs _ _ => Result UInt32
  | .steadyNow => Int64

abbrev Call := Program Op Answer

section Calls

variable (handle : UInt64)

def enumerateWindows (options : CaptureOptions) : Call (Result (List WindowInfo)) :=
  Program.operation (Op.enumerateWindows options)

def setFrame (frame : Rect) : Call Status := Program.operation (Op.setFrame handle frame)

def setState (state : WindowState) : Call Status := Program.operation (Op.setState handle state)

def raise : Call Status := Program.operation (Op.raise handle)

def focus : Call Status := Program.operation (Op.focus handle)

def waitForWindow (pid : UInt64) (titleHint : Bytes) (timeout : Milliseconds) :
    Call (Result WindowInfo) :=
  Program.operation (Op.waitForWindow pid titleHint timeout)

def enumerateDisplays : Call (Result (List MonitorInfo)) := Program.operation Op.enumerateDisplays

def queryCursor : Call (Result CursorState) := Program.operation Op.queryCursor

def warp (x y : Int32) : Call Status := Program.operation (Op.warp x y)

def launch (process : ProcessInfo) : Call (Result UInt64) := Program.operation (Op.launch process)

def currentWorkspace : Call (Result Bytes) := Program.operation Op.currentWorkspace

def moveWindow (workspaceId : Bytes) : Call Status :=
  Program.operation (Op.moveWindow handle workspaceId)

def captureTabs (timeout : Milliseconds) (allowSessionFallback : Bool) : Call (Result TabCapture) :=
  Program.operation (Op.captureTabs timeout allowSessionFallback)

def restoreTabs (windows : List BrowserWindow) (lazyLoad : Bool) : Call (Result UInt32) :=
  Program.operation (Op.restoreTabs windows lazyLoad)

/-- Nanoseconds of the steady clock. -/
def steadyNow : Call Int64 := Program.operation Op.steadyNow

end Calls

/-- `elapsed_ms`, of two readings of the steady clock. -/
def elapsedMs (started finished : Int64) : UInt32 :=
  ((finished - started) / 1000000).toUInt64.toUInt32

end ContextSnap.Hal
