import ContextSnap.Core.Matching

/-!
# The browser bridge

The windows that the bridge to the browser extensions exchanges with the rest of the program, and
how their tabs come to the windows of a capture.
-/

namespace ContextSnap.Browser

structure BrowserWindow where
  extensionWindowId : Bytes := []
  browser : BrowserKind := .none
  profile : Bytes := []
  frame : Rect := {}
  focused : Bool := false
  incognito : Bool := false
  state : Bytes := []
  tabs : List TabInfo := []
  deriving DecidableEq, Inhabited

inductive Source where
  | extension | sessionFile | none
  deriving DecidableEq, Repr, Inhabited

structure TabCapture where
  windows : List BrowserWindow := []
  source : Source := .none
  warnings : List Bytes := []
  durationMs : UInt32 := 0
  deriving DecidableEq, Inhabited

/-! ### Attaching tabs -/

section Attach

variable (windows : List BrowserWindow)

def attachScore (window : WindowInfo) (captured : BrowserWindow) : Float :=
  0.75 * Matching.geometryProximity window.frame captured.frame
    + 0.25 * (if captured.focused && window.focused then 1.0 else 0.0)

/-- The first window of the browser that no other one fits better, if it fits well. -/
def bestByGeometry (consumed : List Nat) (window : WindowInfo) : Option (BrowserWindow × Nat) :=
  if window.browser = .none then none
  else
    (windows.zipIdx.foldl (fun (best : Float × Option (BrowserWindow × Nat)) entry =>
      if entry.2 ∈ consumed ∨ entry.1.browser ≠ window.browser then best
      else if attachScore window entry.1 > best.1 then (attachScore window entry.1, some entry)
      else best) (0.55, none)).2

/-- The first window of the browser that is left, for a window without tabs. -/
def nextByOrder (consumed : List Nat) (window : WindowInfo) : Option (BrowserWindow × Nat) :=
  if window.browser = .none ∨ window.tabs ≠ [] then none
  else windows.zipIdx.find? fun entry => entry.2 ∉ consumed ∧ entry.1.browser = window.browser

def withTabs (window : WindowInfo) (captured : BrowserWindow) : WindowInfo :=
  { window with
    tabs := captured.tabs
    browserProfile :=
      if captured.profile = [] then window.browserProfile else some captured.profile }

/-- One pass over the windows, with the indices that are consumed already. -/
def attachPass (choose : List Nat → WindowInfo → Option (BrowserWindow × Nat)) :
    List Nat → List WindowInfo → List Nat × List WindowInfo
  | consumed, [] => (consumed, [])
  | consumed, window :: rest =>
      match choose consumed window with
      | some (captured, index) =>
          let (consumed, rest) := attachPass choose (index :: consumed) rest
          (consumed, withTabs window captured :: rest)
      | none =>
          let (consumed, rest) := attachPass choose consumed rest
          (consumed, window :: rest)

end Attach

/-- The number of windows that got tabs, and all windows. -/
def attachTabsToWindows (capture : TabCapture) (windows : List WindowInfo) :
    Nat × List WindowInfo :=
  let (consumed, windows) := attachPass (bestByGeometry capture.windows) [] windows
  let (consumed, windows) := attachPass (nextByOrder capture.windows) consumed windows
  (consumed.length, windows)

end ContextSnap.Browser
