import ContextSnap.Core.Matching
import Mathlib.Data.Rat.Floor

/-!
# Geometry normalization

Which monitor a frame belongs to, and where it goes when the layout at restore time is another one
than at capture time. Fractions of a work area, scale factors and distances are exact rationals here,
where the source has doubles. Coordinates keep their width.
-/

namespace ContextSnap.Geometry

def kRelativeSlack : ℚ := 1 / 2

def centreX (r : Rect) : ℚ := r.x.toInt + r.width.toInt / 2

def centreY (r : Rect) : ℚ := r.y.toInt + r.height.toInt / 2

/-- The square of `centre_distance`. Distances compare as their squares do. -/
def centreDistanceSq (a b : Rect) : ℚ :=
  (centreX a - centreX b) ^ 2 + (centreY a - centreY b) ^ 2

def usableArea (monitor : MonitorInfo) : Rect :=
  if monitor.workArea.empty then monitor.bounds else monitor.workArea

/-- `std::clamp`. -/
def clamp {α : Type} [LT α] [DecidableLT α] (value low high : α) : α :=
  if value < low then low else if high < value then high else value

/-- `std::lround`, which rounds halves away from zero. -/
def lround (q : ℚ) : ℤ := if 0 ≤ q then ⌊q + 1 / 2⌋ else ⌈q - 1 / 2⌉

/-- `lround` and the cast of its result. -/
def roundToInt32 (q : ℚ) : Int32 := Int32.ofInt (lround q)

/-! ### Monitors -/

def unionOf (a b : Rect) : Rect :=
  if a.empty then b
  else if b.empty then a
  else
    let left := min a.left b.left
    let top := min a.top b.top
    let right := max a.right b.right
    let bottom := max a.bottom b.bottom
    { x := left, y := top, width := right - left, height := bottom - top }

def virtualBounds (monitors : List MonitorInfo) : Rect :=
  monitors.foldl (fun bounds monitor => unionOf bounds monitor.bounds) {}

/-- What the loop of `owning_monitor` keeps. No distance yet is `numeric_limits<double>::max()`, which
is greater than any. -/
structure Owner where
  best : Option MonitorInfo := none
  bestArea : Int64 := 0
  bestDistanceSq : Option ℚ := none

def Owner.consider (frame : Rect) (owner : Owner) (monitor : MonitorInfo) : Owner :=
  let area := intersectionArea frame monitor.bounds
  let distance := centreDistanceSq frame monitor.bounds
  if area > owner.bestArea then
    { best := some monitor, bestArea := area, bestDistanceSq := some distance }
  -- Fully off-screen window: fall back to the nearest monitor centre.
  else if owner.bestArea = 0 ∧ owner.bestDistanceSq.all (distance < ·) then
    { owner with best := some monitor, bestDistanceSq := some distance }
  else owner

def owningMonitor (frame : Rect) (monitors : List MonitorInfo) : Option MonitorInfo :=
  (monitors.foldl (Owner.consider frame) {}).best

def primaryMonitor (monitors : List MonitorInfo) : Option MonitorInfo :=
  (monitors.find? (·.primary)).or monitors.head?

def sameResolution (source monitor : MonitorInfo) : Bool :=
  monitor.bounds.width = source.bounds.width ∧ monitor.bounds.height = source.bounds.height

/-- `std::max_element` by the area of the bounds. -/
def largestMonitor : List MonitorInfo → Option MonitorInfo
  | [] => none
  | first :: rest => some (rest.foldl (fun largest monitor =>
      if largest.bounds.area < monitor.bounds.area then monitor else largest) first)

/-- The same id, then the same EDID hash, then the same resolution and role, then the same
resolution, then the primary monitor. -/
def bestMatch (source : MonitorInfo) (target : List MonitorInfo) : Option MonitorInfo :=
  (target.find? (·.id = source.id)).or <|
  (if source.edidHash.isSome then target.find? (·.edidHash = source.edidHash) else none).or <|
  (target.find? fun monitor => sameResolution source monitor ∧ monitor.primary = source.primary).or <|
  (target.find? (sameResolution source)).or <|
  (primaryMonitor target).or <|
  largestMonitor target

/-! ### Frames -/

/-- Geometry expressed as fractions of a monitor work area. -/
structure RelativeRect where
  x : ℚ := 0
  y : ℚ := 0
  width : ℚ := 0
  height : ℚ := 0

def toRelative (frame : Rect) (monitor : MonitorInfo) : RelativeRect :=
  let area := usableArea monitor
  if area.empty then { x := 0, y := 0, width := 1, height := 1 }
  else
    let w : ℚ := area.width.toInt
    let h : ℚ := area.height.toInt
    { x := clamp ((frame.x - area.x).toInt / w) (-kRelativeSlack) (1 + kRelativeSlack)
      y := clamp ((frame.y - area.y).toInt / h) (-kRelativeSlack) (1 + kRelativeSlack)
      width := clamp (frame.width.toInt / w) (1 / 100) (1 + kRelativeSlack)
      height := clamp (frame.height.toInt / h) (1 / 100) (1 + kRelativeSlack) }

def fromRelative (relative : RelativeRect) (monitor : MonitorInfo) : Rect :=
  let area := usableArea monitor
  let w : ℚ := area.width.toInt
  let h : ℚ := area.height.toInt
  { x := area.x + roundToInt32 (relative.x * w)
    y := area.y + roundToInt32 (relative.y * h)
    width := max 1 (roundToInt32 (relative.width * w))
    height := max 1 (roundToInt32 (relative.height * h)) }

def clampInto (frame workArea : Rect) : Rect :=
  if workArea.empty then frame
  else
    let width := max (min frame.width workArea.width) 1
    let height := max (min frame.height workArea.height) 1
    { x := clamp frame.x workArea.left (workArea.right - width)
      y := clamp frame.y workArea.top (workArea.bottom - height)
      width, height }

def scaleForDpi (frame : Rect) (fromDpi toDpi : UInt32) : Rect :=
  if fromDpi = 0 ∨ toDpi = 0 ∨ fromDpi = toDpi then frame
  else
    let factor : ℚ := toDpi.toNat / fromDpi.toNat
    { x := roundToInt32 (frame.x.toInt * factor)
      y := roundToInt32 (frame.y.toInt * factor)
      width := max 1 (roundToInt32 (frame.width.toInt * factor))
      height := max 1 (roundToInt32 (frame.height.toInt * factor)) }

/-! ### Remapping -/

structure RemapResult where
  frame : Rect
  monitorId : Bytes
  monitorChanged : Bool := false
  clamped : Bool := false
  rescaled : Bool := false
  deriving DecidableEq

/-- The captured monitor of a frame, by its id or else by the place of the frame. -/
def sourceMonitor (frame : Rect) (capturedMonitorId : Bytes) (capturedMonitors : List MonitorInfo) :
    Option MonitorInfo :=
  (capturedMonitors.find? (·.id = capturedMonitorId)).or (owningMonitor frame capturedMonitors)

/-- Identical display: keep pixel-exact placement. -/
def sameDisplay (source target : MonitorInfo) : Bool :=
  target.id = source.id ∧ source.bounds.width = target.bounds.width
    ∧ source.bounds.height = target.bounds.height ∧ source.workArea = target.workArea
    ∧ source.dpi = target.dpi

def needsRescale (source target : MonitorInfo) : Bool :=
  source.dpi ≠ target.dpi ∧ source.bounds.width = target.bounds.width
    ∧ source.bounds.height = target.bounds.height

/-- The frame on another display, before it is clamped. -/
def remapped (frame : Rect) (source target : MonitorInfo) : Rect :=
  if needsRescale source target then scaleForDpi frame source.dpi target.dpi
  else fromRelative (toRelative frame source) target

def remapFrame (frame : Rect) (capturedMonitorId : Bytes)
    (capturedMonitors currentMonitors : List MonitorInfo) : RemapResult :=
  let unchanged : RemapResult := { frame, monitorId := capturedMonitorId }
  if currentMonitors.isEmpty then unchanged
  else match sourceMonitor frame capturedMonitorId capturedMonitors with
  | none =>
      -- No captured layout at all: clamp into the primary monitor.
      match primaryMonitor currentMonitors with
      | none => unchanged
      | some primary =>
          let clampedFrame := clampInto frame (usableArea primary)
          { frame := clampedFrame, monitorId := primary.id, monitorChanged := true
            clamped := clampedFrame ≠ frame }
  | some source =>
      match bestMatch source currentMonitors with
      | none => unchanged
      | some target =>
          if sameDisplay source target then { unchanged with monitorId := target.id }
          else
            let before := remapped frame source target
            let clampedFrame := clampInto before (usableArea target)
            { frame := clampedFrame, monitorId := target.id
              monitorChanged := target.id ≠ source.id, clamped := clampedFrame ≠ before
              rescaled := needsRescale source target }

/-! ### Layouts -/

/-- The place and the density of a monitor. -/
def matchesGeometry (monitor found : MonitorInfo) : Bool :=
  found.bounds = monitor.bounds ∧ found.workArea = monitor.workArea ∧ found.dpi = monitor.dpi

def layoutsEquivalent (a b : List MonitorInfo) : Bool :=
  a.length = b.length ∧ a.all fun monitor => (bestMatch monitor b).any (matchesGeometry monitor)

end ContextSnap.Geometry
