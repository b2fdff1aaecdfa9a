import ContextSnap.Core.Restore
import ContextSnap.Lib.Int32Ops

/-!
# The arithmetic of rectangles

The operations on `int32_t` that the functions on rectangles perform, with the values that they
perform them on. Areas are `int64_t`, and distances are doubles.
-/

namespace ContextSnap

/-- `right()` and `bottom()`. -/
def Rect.edgeOps (r : Rect) : List Int32Op := [.add r.x r.width, .add r.y r.height]

def intersectionOps (a b : Rect) : List Int32Op :=
  let left := max a.left b.left
  let top := max a.top b.top
  let right := min a.right b.right
  let bottom := min a.bottom b.bottom
  a.edgeOps ++ b.edgeOps ++
    if right ≤ left ∨ bottom ≤ top then [] else [.sub right left, .sub bottom top]

namespace Matching

def unionArea (a b : Rect) : Float :=
  ofInt64 (a.area + b.area) - ofInt64 (intersectionArea a b)

def proximityOps (a b : Rect) : List Int32Op :=
  if a.empty || b.empty then []
  else intersectionOps a b ++
    if unionArea a b ≤ 0.0 then []
    else [.mul a.width a.width, .mul a.height a.height,
      .add (a.width * a.width) (a.height * a.height)]

end Matching

namespace Restore

def overlapOps (frame workArea : Rect) : List Int32Op :=
  let x := max frame.left workArea.left
  let y := max frame.top workArea.top
  let right := min frame.right workArea.right
  let bottom := min frame.bottom workArea.bottom
  frame.edgeOps ++ workArea.edgeOps ++ [.sub right x, .sub bottom y]

def placementOps (frame : Rect) (monitors : List MonitorInfo) : List Int32Op :=
  match monitors with
  | [] => []
  | front :: _ =>
      let workArea := (clampTarget frame front monitors).workArea
      let width := min frame.width workArea.width
      let height := min frame.height workArea.height
      (monitors.flatMap fun monitor => overlapOps frame monitor.workArea) ++ workArea.edgeOps
        ++ [.sub workArea.right width, .sub workArea.bottom height]

end Restore

end ContextSnap
