import ContextSnap.Core.Matching
import ContextSnap.Hal.Platform
import ContextSnap.Privacy.Glob

/-!
# Restore planning and execution

A plan is built from a stored snapshot, the options and the windows on screen, and is executed step
by step against the platform. Planner and executor correlate saved with live windows independently
of each other, with the same matcher.
-/

namespace ContextSnap.Restore

open Hal (Capabilities Platform Call)
open Matching (normalizeAppId titleSimilarity geometryProximity)
open Privacy (globMatch)

/-! ### Correlation -/

/-- Same app: prefer the closest title, then the closest geometry. -/
def matchScore (saved candidate : WindowInfo) : Float :=
  0.7 * titleSimilarity saved.title candidate.title
    + 0.3 * geometryProximity saved.frame candidate.frame

def considerCandidate (saved : WindowInfo) (alreadyUsed : List UInt64)
    (best : Option WindowInfo × Float) (candidate : WindowInfo) : Option WindowInfo × Float :=
  if candidate.nativeHandle ∈ alreadyUsed then best
  else if normalizeAppId candidate.process.appId ≠ normalizeAppId saved.process.appId then best
  else if best.2 < matchScore saved candidate then (some candidate, matchScore saved candidate)
  else best

def bestLiveMatch (saved : WindowInfo) (live : List WindowInfo) (alreadyUsed : List UInt64) :
    Option WindowInfo :=
  let best := live.foldl (considerCandidate saved alreadyUsed) (none, 0.0)
  if best.2 ≥ 0.35 then best.1 else none

/-! ### Placement -/

def overlapWith (frame workArea : Rect) : Int64 :=
  let x := max frame.left workArea.left
  let y := max frame.top workArea.top
  let right := min frame.right workArea.right
  let bottom := min frame.bottom workArea.bottom
  (max 0 (right - x)).toInt64 * (max 0 (bottom - y)).toInt64

/-- The first monitor that no other one overlaps the frame more than. -/
def clampTarget (frame : Rect) (front : MonitorInfo) (monitors : List MonitorInfo) : MonitorInfo :=
  (monitors.foldl (fun (target, bestOverlap) monitor =>
    let overlap := overlapWith frame monitor.workArea
    if overlap > bestOverlap then (monitor, overlap) else (target, bestOverlap)) (front, -1)).1

def clampToMonitors (frame : Rect) (monitors : List MonitorInfo) : Rect :=
  match monitors with
  | [] => frame
  | front :: _ =>
      let workArea := (clampTarget frame front monitors).workArea
      let width := min frame.width workArea.width
      let height := min frame.height workArea.height
      { x := min (max frame.x workArea.left) (workArea.right - width)
        y := min (max frame.y workArea.top) (workArea.bottom - height)
        width, height }

/-! ### Selectors -/

def selectorAccepts (window : WindowInfo) (selector : RestoreSelector) : Bool :=
  match selector.kind with
  | .all => true
  | .app => globMatch selector.pattern (normalizeAppId window.process.appId)
  | .window => selector.pattern.isPrefixOf window.id
  | .tab => window.tabs.any fun tab =>
      globMatch selector.pattern tab.url || globMatch selector.pattern tab.title
  | .monitor => window.monitorId = selector.pattern
  | .workspace => window.workspaceId.getD [] = selector.pattern
  | .unnamed _ => false

def selectorMatches (window : WindowInfo) (selectors : List RestoreSelector) : Bool :=
  selectors.isEmpty || selectors.any (selectorAccepts window)

def parseSelector (text : Bytes) : Result RestoreSelector :=
  match text.findIdx? (· = 58) with
  | none =>
      if text = str "all" ∨ text = str "*" then .ok { kind := .all, pattern := str "*" }
      else .ok { kind := .app, pattern := text }
  | some colon =>
      let head := text.take colon
      let pattern := text.drop (colon + 1)
      if pattern = [] then .error (Err.invalid (str "selector has an empty pattern") (str "core.selector"))
      else if head = str "app" then .ok { kind := .app, pattern }
      else if head = str "window" then .ok { kind := .window, pattern }
      else if head = str "tab" then .ok { kind := .tab, pattern }
      else if head = str "monitor" then .ok { kind := .monitor, pattern }
      else if head = str "workspace" then .ok { kind := .workspace, pattern }
      else .error (Err.invalid (str "unknown selector prefix: " ++ head) (str "core.selector"))

/-! ### Planning -/

def step (kind : RestoreStepKind) (targetId description : Bytes) (skipped : Bool := false)
    (skipReason : Bytes := []) : RestoreStep :=
  { kind, targetId, description, skipped, skipReason }

section Planner

variable (capabilities : Capabilities) (options : RestoreOptions)

/-- The steps that put a window that is, or is about to be, on screen into its saved place. -/
def placeSteps (window : WindowInfo) : List RestoreStep :=
  let canMove := capabilities.setWindowGeometry
  [step .moveWindow window.id
      (str "place \"" ++ window.title ++ str "\" at " ++ decimalInt window.restoredFrame.x.toInt
        ++ str "," ++ decimalInt window.restoredFrame.y.toInt)
      (!canMove) (if canMove then [] else str "compositor does not allow window placement")]
    ++ (if window.state ≠ .normal then
        [step .setWindowState window.id (str "set state " ++ str window.state.toText)
          (!capabilities.setWindowState)]
      else [])
    ++ (if options.restoreWorkspaces ∧ window.workspaceId.isSome then
        [step .setWorkspace window.id (str "move to workspace " ++ window.workspaceId.getD [])
          (!capabilities.moveBetweenDesktops)]
      else [])
    ++ (if options.restoreTabs ∧ window.tabs ≠ [] then
        [step .restoreTabs window.id
          (str "restore " ++ decimal window.tabs.length ++ str " tabs in "
            ++ str window.browser.toText)]
      else [])

def launchSteps (window : WindowInfo) : List RestoreStep :=
  let canLaunch := capabilities.launchProcesses
  [step .launchProcess window.id (str "launch " ++ window.process.appId) (!canLaunch)
      (if canLaunch then [] else str "platform cannot launch processes"),
    step .waitForWindow window.id (str "wait for a window from " ++ window.process.appId)
      (!canLaunch)]

def skipSteps (window : WindowInfo) : List RestoreStep :=
  [step .moveWindow window.id (str "skip " ++ window.title) true
    (str "app is not running and launching is disabled")]

/-- The steps for a selected window, which has a match on screen or has none. -/
def windowSteps (window : WindowInfo) (matched : Bool) : List RestoreStep :=
  if matched then placeSteps capabilities options window
  else if options.launchMissingApps then
    launchSteps capabilities window ++ placeSteps capabilities options window
  else skipSteps window

def windowEstimate (window : WindowInfo) (matched : Bool) : UInt32 :=
  let place := 20
    + (if options.restoreTabs ∧ window.tabs ≠ [] then UInt32.ofNat window.tabs.length * 12 else 0)
  if matched then place
  else if options.launchMissingApps then (if capabilities.launchProcesses then 900 else 0) + place
  else 0

structure Planner where
  used : List UInt64 := []
  steps : List RestoreStep := []
  estimate : UInt32 := 0

/-- One round of the loop over the saved windows. -/
def planWindow (live : List WindowInfo) (planner : Planner) (window : WindowInfo) : Planner :=
  if selectorMatches window options.selectors then
    let found := bestLiveMatch window live planner.used
    { used := planner.used ++ (found.map (·.nativeHandle)).toList
      steps := planner.steps ++ windowSteps capabilities options window found.isSome
      estimate := planner.estimate + windowEstimate capabilities options window found.isSome }
  else planner

def planWindows (windows live : List WindowInfo) : Planner :=
  windows.foldl (planWindow capabilities options live) {}

/-- `std::sort` leaves the order of windows of one `z_order` open, here they stay as they are. -/
def raiseSteps (windows : List WindowInfo) : List RestoreStep :=
  let ordered := (windows.filter (selectorMatches · options.selectors)).insertionSort
    fun a b => a.zOrder ≤ b.zOrder
  ordered.map fun window =>
    step .raiseWindow window.id (str "raise \"" ++ window.title ++ str "\"") (!capabilities.zOrder)

def cursorSteps (cursor : CursorState) : List RestoreStep :=
  [step .warpCursor (str "cursor")
    (str "warp cursor to " ++ decimalInt cursor.x.toInt ++ str "," ++ decimalInt cursor.y.toInt)
    (!capabilities.cursorWarp)]

def focusSteps (cursor : CursorState) : List RestoreStep :=
  match cursor.focusedWindowId with
  | some focused =>
      [step .focusWindow focused (str "focus the previously active window")
        (!capabilities.focusControl)]
  | none => []

/-- The sections of the plan behind the windows. -/
def closingSteps (saved : Snapshot) : List RestoreStep :=
  (if options.restoreZOrder then raiseSteps capabilities options saved.windows else [])
    ++ (if options.restoreCursor then cursorSteps capabilities saved.cursor else [])
    ++ (if options.restoreFocus then focusSteps capabilities saved.cursor else [])

end Planner

def planWarnings (platform : Platform) (saved : Snapshot) (displays : Result (List MonitorInfo))
    (live : Result (List WindowInfo)) : List Bytes :=
  (match displays with
    | .ok monitors =>
        if monitors.length ≠ saved.monitors.length then
          [str "display layout changed (" ++ decimal saved.monitors.length ++ str " saved vs "
            ++ decimal monitors.length
            ++ str " now); windows will be clamped to visible work areas"]
        else []
    | .error _ => [])
    ++ (if saved.metadata.platform ≠ platform.kind then
        [str "snapshot was captured on a different platform; app paths may not resolve"]
      else [])
    ++ (match live with
      | .ok _ => []
      | .error e => [str "cannot enumerate live windows: " ++ e.render])

/-- The plan for what the platform showed. -/
def planFor (platform : Platform) (saved : Snapshot) (options : RestoreOptions)
    (displays : Result (List MonitorInfo)) (live : Result (List WindowInfo)) : RestorePlan :=
  let planner := planWindows platform.capabilities options saved.windows (live.toOption.getD [])
  { snapshotId := saved.metadata.id
    steps := planner.steps ++ closingSteps platform.capabilities options saved
    warnings := planWarnings platform saved displays live
    estimatedDurationMs := planner.estimate }

def probe : CaptureOptions := { includeTabs := false }

/-- `plan_restore`, once the snapshot is loaded. -/
def planRestore (platform : Platform) (saved : Snapshot) (options : RestoreOptions) :
    Call RestorePlan := do
  let displays ← Hal.enumerateDisplays
  let live ← Hal.enumerateWindows probe
  return planFor platform saved options displays live

/-! ### Execution -/

/-- Which native window each saved window is driven through, under the window's id. The pid of a
launched app is kept in the same map, under the id with `:pid` behind it. -/
abbrev Handles := Bytes → Option UInt64

def Handles.set (handles : Handles) (key : Bytes) (value : UInt64) : Handles :=
  Function.update handles key (some value)

def pidKey (targetId : Bytes) : Bytes := targetId ++ str ":pid"

def prematchWindow (live : List WindowInfo) (state : Handles × List UInt64) (window : WindowInfo) :
    Handles × List UInt64 :=
  match bestLiveMatch window live state.2 with
  | some found => (state.1.set window.id found.nativeHandle, state.2 ++ [found.nativeHandle])
  | none => state

def prematch (windows live : List WindowInfo) : Handles :=
  (windows.foldl (prematchWindow live) (fun _ => none, [])).1

/-- What the executor changes from step to step. -/
structure Execution where
  handles : Handles
  report : RestoreReport

section Executor

def Execution.warn (state : Execution) (warning : Bytes) : Execution :=
  { state with report := { state.report with warnings := state.report.warnings ++ [warning] } }

/-- A window that counts as failed, with the reason. -/
def Execution.fail (state : Execution) (error : Bytes) : Execution :=
  { state with report := { state.report with
      windowsFailed := state.report.windowsFailed + 1
      errors := state.report.errors ++ [error] } }

/-- A step that only warns when the call fails. -/
def Execution.settle (state : Execution) (what : Bytes) : Status → Execution
  | .ok () => state
  | .error e => state.warn (what ++ str " failed: " ++ e.render)

def skipWarning (current : RestoreStep) : Bytes :=
  str "skipped: " ++ current.description
    ++ (if current.skipReason = [] then [] else str " (" ++ current.skipReason ++ str ")")

def tabRequest (saved : WindowInfo) : Browser.BrowserWindow :=
  { browser := saved.browser
    profile := saved.browserProfile.getD []
    frame := saved.restoredFrame
    state := str saved.state.toText
    tabs := saved.tabs }

/-- What the executor works with: `bridge` says whether there is a browser bridge. -/
structure Context where
  snapshot : Snapshot
  monitors : List MonitorInfo
  options : RestoreOptions
  bridge : Bool

variable (context : Context) (state : Execution) (target : Bytes)

def executeLaunch (saved : WindowInfo) : Call Execution := do
  match ← Hal.launch saved.process with
  | .error e =>
      return state.fail (str "launch failed for " ++ saved.process.appId ++ str ": " ++ e.render)
  | .ok pid =>
      return {
        handles := state.handles.set (pidKey target) pid
        report := { state.report with appsLaunched := state.report.appsLaunched + 1 } }

def executeWait (saved : WindowInfo) : Call Execution := do
  let pid := (state.handles (pidKey target)).getD 0
  match ← Hal.waitForWindow pid saved.title context.options.windowSettleTimeout with
  | .error _ => return state.fail (str "no window appeared for " ++ saved.process.appId)
  | .ok appeared => return { state with handles := state.handles.set target appeared.nativeHandle }

def executeMove (saved : WindowInfo) (handle : UInt64) : Call Execution := do
  match ← Hal.setFrame handle (clampToMonitors saved.restoredFrame context.monitors) with
  | .ok () =>
      return { state with report := { state.report with
        windowsRestored := state.report.windowsRestored + 1 } }
  | .error e => return state.fail (str "placement failed: " ++ e.render)

def executeTabs (saved : WindowInfo) : Call Execution := do
  match ← Hal.restoreTabs [tabRequest saved] context.options.lazyLoadTabs with
  | .error e => return state.warn (str "tab restore failed: " ++ e.render)
  | .ok restored =>
      return { state with report := { state.report with
        tabsRestored := state.report.tabsRestored + restored } }

def executeStep (current : RestoreStep) : Call Execution :=
  if current.skipped then return state.warn (skipWarning current)
  else
    let saved := context.snapshot.findWindow current.targetId
    let handle := state.handles current.targetId
    match current.kind with
    | .launchProcess =>
        match saved with
        | some window => executeLaunch state current.targetId window
        | none => return state
    | .waitForWindow =>
        match saved with
        | some window => executeWait context state current.targetId window
        | none => return state
    | .moveWindow =>
        match saved, handle with
        | some window, some native => executeMove context state window native
        | _, _ => return state.warn (str "no live window for " ++ current.description)
    | .setWindowState =>
        match saved, handle with
        | some window, some native =>
            return state.settle (str "state change") (← Hal.setState native window.state)
        | _, _ => return state
    | .setWorkspace =>
        match saved.bind (·.workspaceId), handle with
        | some workspace, some native =>
            return state.settle (str "workspace move") (← Hal.moveWindow native workspace)
        | _, _ => return state
    | .raiseWindow =>
        match handle with
        | some native => return state.settle (str "raise") (← Hal.raise native)
        | none => return state
    | .restoreTabs =>
        match saved with
        | some window => if context.bridge then executeTabs context state window else return state
        | none => return state
    | .warpCursor =>
        return state.settle (str "cursor warp")
          (← Hal.warp context.snapshot.cursor.x context.snapshot.cursor.y)
    | .focusWindow =>
        match handle with
        | some native => return state.settle (str "focus") (← Hal.focus native)
        | none => return state

def executeSteps (steps : List RestoreStep) : Call Execution :=
  steps.foldlM (executeStep context) state

end Executor

/-- The executor before its first step. -/
def initialExecution (snapshot : Snapshot) (live : Result (List WindowInfo)) : Execution :=
  { handles := prematch snapshot.windows (live.toOption.getD [])
    report := { snapshotId := snapshot.metadata.id } }

/-- `execute_plan`. The progress callback, which only reports, is left out. -/
def executePlan (snapshot : Snapshot) (plan : RestorePlan) (options : RestoreOptions)
    (bridge : Bool) : Call (Result RestoreReport) := do
  let started ← Hal.steadyNow
  let displays ← Hal.enumerateDisplays
  let live ← Hal.enumerateWindows probe
  let monitors := displays.toOption.getD snapshot.monitors
  let last ← executeSteps { snapshot, monitors, options, bridge } (initialExecution snapshot live)
    plan.steps
  return .ok { last.report with durationMs := Hal.elapsedMs started (← Hal.steadyNow) }

end ContextSnap.Restore
