import ContextSnap.Lib.Greedy
import ContextSnap.Proof.PlacedFrames
import Mathlib.Data.Prod.Lex

/-!
# The monitor that owns a frame

`owning_monitor` looks at the distance only while no monitor has been overlapped at all. The monitor
it picks has the largest overlap, but among several with that overlap it is the first.
-/

namespace ContextSnap.Geometry

open Greedy (IsFirstBest)

section Intersection

variable {a b : Rect}

theorem toInt_area (r : Rect) : r.area.toInt = r.across.size * r.down.size :=
  toInt_mul_toInt64 r.width r.height

theorem toInt_edge_sub {last first : Int32} {s t : Span ℤ} (hlast : last.toInt = min s.stop t.stop)
    (hfirst : first.toInt = max s.start t.start) (hsize : s.size < 2 ^ 31) (hlt : first < last) :
    (last - first).toInt = s.overlap t := by
  have hlt := Int32.lt_iff_toInt_lt.mp hlt
  have hrange := (Rect.sub_inRange_iff hlast hfirst hsize).mpr (by omega)
  rw [Span.overlap, ← hlast, ← hfirst, max_eq_right (by omega)]
  exact Int32Op.toInt_value hrange

/-- Without an overflow, the area of the intersection is the area that is shared. -/
theorem toInt_intersectionArea (ha : a.EdgesFit) (hb : b.EdgesFit) :
    (intersectionArea a b).toInt = a.sharedArea b := by
  have hright := ha.toInt_min_right hb
  have hbottom := ha.toInt_min_bottom hb
  have hleft := Rect.toInt_max_left a b
  have htop := Rect.toInt_max_top a b
  rw [intersectionArea, intersection, toInt_area, Rect.sharedArea]
  by_cases hnone : min a.right b.right ≤ max a.left b.left ∨ min a.bottom b.bottom ≤ max a.top b.top
  · rw [if_pos hnone]
    have hzero : a.across.overlap b.across * a.down.overlap b.down = 0 := by
      rcases hnone with hacross | hdown
      · rw [Int32.le_iff_toInt_le, hright, hleft] at hacross
        rw [Span.overlap_of_stop_le hacross, zero_mul]
      · rw [Int32.le_iff_toInt_le, hbottom, htop] at hdown
        rw [Span.overlap_of_stop_le hdown, mul_zero]
    exact hzero.symm
  · rw [if_neg hnone]
    rw [not_or, Int32.not_le, Int32.not_le] at hnone
    have hacross := toInt_edge_sub hright hleft a.width.toInt_lt hnone.1
    have hdown := toInt_edge_sub hbottom htop a.height.toInt_lt hnone.2
    exact congrArg₂ (· * ·) hacross hdown

end Intersection

/-! ### The rank of a monitor -/

variable (frame : Rect)

/-- The distance counts for monitors that the frame does not overlap. -/
def rank (monitor : MonitorInfo) : ℤ ×ₗ ℚ :=
  toLex (frame.sharedArea monitor.bounds,
    if frame.sharedArea monitor.bounds = 0 then -centreDistanceSq frame monitor.bounds else 0)

/-- What the loop keeps of the best monitor so far. -/
structure Keeps (owner : Owner) (monitor : MonitorInfo) : Prop where
  best : owner.best = some monitor
  bestArea : owner.bestArea.toInt = frame.sharedArea monitor.bounds
  bestDistanceSq : frame.sharedArea monitor.bounds = 0 →
    owner.bestDistanceSq = some (centreDistanceSq frame monitor.bounds)

section Rank

variable {frame} {owner : Owner} {monitor other : MonitorInfo}

theorem rank_lt_iff : rank frame monitor < rank frame other
    ↔ frame.sharedArea monitor.bounds < frame.sharedArea other.bounds
      ∨ frame.sharedArea monitor.bounds = 0 ∧ frame.sharedArea other.bounds = 0
        ∧ centreDistanceSq frame other.bounds < centreDistanceSq frame monitor.bounds := by
  rw [rank, rank, Prod.Lex.toLex_lt_toLex]
  refine or_congr_right ?_
  simp only
  by_cases hmonitor : frame.sharedArea monitor.bounds = 0
  · by_cases hother : frame.sharedArea other.bounds = 0
    · simp [hmonitor, hother]
    · simp [hmonitor, hother, Ne.symm hother]
  · by_cases hother : frame.sharedArea other.bounds = 0
    · simp [hmonitor, hother]
    · simp [hmonitor, hother]

theorem Keeps.of_lt (h : Keeps frame owner monitor) (hframe : frame.EdgesFit)
    (hother : other.bounds.EdgesFit) (hlt : rank frame monitor < rank frame other) :
    Keeps frame (owner.consider frame other) other := by
  have harea := toInt_intersectionArea hframe hother
  rw [Owner.consider]
  rcases rank_lt_iff.mp hlt with hlarger | ⟨hmonitor, hnone, hnearer⟩
  · rw [← h.bestArea, ← harea, ← Int64.lt_iff_toInt_lt] at hlarger
    rw [if_pos hlarger]
    exact ⟨rfl, harea, fun _ => rfl⟩
  · have hbest : owner.bestArea = 0 := Int64.toInt_inj.mp (h.bestArea.trans hmonitor)
    have hsame : ¬intersectionArea frame other.bounds > owner.bestArea := by
      rw [gt_iff_lt, Int64.lt_iff_toInt_lt, h.bestArea, harea, hmonitor, hnone]
      exact lt_irrefl 0
    rw [if_neg hsame, if_pos ⟨hbest, by simp [h.bestDistanceSq hmonitor, hnearer]⟩]
    exact ⟨rfl, h.bestArea.trans (hmonitor.trans hnone.symm), fun _ => rfl⟩

theorem Keeps.of_le (h : Keeps frame owner monitor) (hframe : frame.EdgesFit)
    (hother : other.bounds.EdgesFit) (hle : rank frame other ≤ rank frame monitor) :
    Keeps frame (owner.consider frame other) monitor := by
  have harea := toInt_intersectionArea hframe hother
  rw [← not_lt, rank_lt_iff, not_or, not_lt] at hle
  obtain ⟨hsmaller, hfarther⟩ := hle
  have hlarger : ¬intersectionArea frame other.bounds > owner.bestArea := by
    rw [gt_iff_lt, Int64.lt_iff_toInt_lt, h.bestArea, harea]
    exact not_lt.mpr hsmaller
  have hnearer : ¬(owner.bestArea = 0
      ∧ owner.bestDistanceSq.all (centreDistanceSq frame other.bounds < ·) = true) := by
    rintro ⟨hbest, hdistance⟩
    have hmonitor : frame.sharedArea monitor.bounds = 0 := by
      rw [← h.bestArea, hbest]
      rfl
    have hnone := le_antisymm (hmonitor ▸ hsmaller) (Rect.sharedArea_nonneg frame other.bounds)
    rw [h.bestDistanceSq hmonitor, Option.all_some, decide_eq_true_eq] at hdistance
    exact hfarther ⟨hmonitor, hnone, hdistance⟩
  rw [Owner.consider, if_neg hlarger, if_neg hnearer]
  exact h

/-- The first monitor is the best one so far. -/
theorem Keeps.first (hframe : frame.EdgesFit) (hmonitor : monitor.bounds.EdgesFit) :
    Keeps frame (Owner.consider frame {} monitor) monitor := by
  have harea := toInt_intersectionArea hframe hmonitor
  rw [Owner.consider]
  by_cases hlarger : intersectionArea frame monitor.bounds > 0
  · rw [if_pos hlarger]
    exact ⟨rfl, harea, fun _ => rfl⟩
  · rw [if_neg hlarger, if_pos ⟨rfl, rfl⟩]
    rw [gt_iff_lt, Int64.lt_iff_toInt_lt, harea, not_lt, Int64.toInt_zero] at hlarger
    have hnone := le_antisymm hlarger (Rect.sharedArea_nonneg _ _)
    exact ⟨rfl, Int64.toInt_zero.trans hnone.symm, fun _ => rfl⟩

/-- The loop picks the first monitor of the best rank. -/
theorem owningMonitor_isFirstBest {first : MonitorInfo} {rest : List MonitorInfo}
    (hframe : frame.EdgesFit) (hfit : ∀ monitor ∈ first :: rest, monitor.bounds.EdgesFit) :
    ∃ best, owningMonitor frame (first :: rest) = some best
      ∧ IsFirstBest (rank frame) (first :: rest) best := by
  obtain ⟨hfirst, hrest⟩ := List.forall_mem_cons.mp hfit
  have hrun := (IsFirstBest.singleton (rank frame) first).foldl (Keeps frame)
    (fun _ _ other hother hkept => hkept.of_lt hframe (hrest other hother))
    (fun _ _ other hother hkept => hkept.of_le hframe (hrest other hother))
    (Keeps.first hframe hfirst)
  obtain ⟨best, hbest, hkept⟩ := hrun
  rw [owningMonitor, List.foldl_cons]
  exact ⟨best, hkept.best, hbest⟩

end Rank

/-! ### Area, then distance -/

section Nearest

variable (monitors : List MonitorInfo)

/-- The largest overlap decides, and among monitors with the same overlap the distance. -/
structure PicksNearest : Prop where
  none_iff : owningMonitor frame monitors = none ↔ monitors = []
  largest : ∀ best, owningMonitor frame monitors = some best → best ∈ monitors
    ∧ ∀ monitor ∈ monitors, frame.sharedArea monitor.bounds ≤ frame.sharedArea best.bounds
  nearest : ∀ best, owningMonitor frame monitors = some best → ∀ monitor ∈ monitors,
    frame.sharedArea monitor.bounds = frame.sharedArea best.bounds →
    centreDistanceSq frame best.bounds ≤ centreDistanceSq frame monitor.bounds

/-- Of the monitors that the frame overlaps most, none is nearer than the first. -/
def FirstNearest : Prop :=
  ∀ first, IsFirstBest (fun monitor => frame.sharedArea monitor.bounds) monitors first →
    frame.sharedArea first.bounds ≠ 0 → ∀ monitor ∈ monitors,
    frame.sharedArea monitor.bounds = frame.sharedArea first.bounds →
    centreDistanceSq frame first.bounds ≤ centreDistanceSq frame monitor.bounds

variable {frame monitors}

/-- Among monitors that are overlapped, the rank is the overlap. -/
theorem isFirstBest_sharedArea {best : MonitorInfo} (h : IsFirstBest (rank frame) monitors best)
    (hpos : frame.sharedArea best.bounds ≠ 0) :
    IsFirstBest (fun monitor => frame.sharedArea monitor.bounds) monitors best := by
  obtain ⟨front, back, hsplit, hfront, hback⟩ := h
  refine ⟨front, back, hsplit, fun monitor hmonitor => ?_, fun monitor hmonitor => ?_⟩
  · rcases rank_lt_iff.mp (hfront monitor hmonitor) with hlt | ⟨-, hnone, -⟩
    · exact hlt
    · exact absurd hnone hpos
  · have hle := hback monitor hmonitor
    rw [← not_lt, rank_lt_iff, not_or, not_lt] at hle
    exact hle.1

end Nearest

/-! ### A frame that lies half on either of two monitors -/

def leftMonitor : MonitorInfo := { id := str "dp-1", bounds := { width := 1920, height := 1080 } }

def rightMonitor : MonitorInfo :=
  { id := str "dp-2", bounds := { x := 1920, width := 1280, height := 1080 } }

def halfwayFrame : Rect := { x := 1520, y := 200, width := 800, height := 600 }

end ContextSnap.Geometry
