import ContextSnap.Core.GeometryOps
import ContextSnap.Lib.Greedy
import ContextSnap.Proof.ClampedFrames

/-!
# Where restored frames are placed

`clamp_to_monitors` looks at the work areas only, where `clamp_into` is given the bounds of a
monitor without one, and it leaves a frame empty that is so already. Everywhere else both clamp
alike.
-/

namespace ContextSnap

namespace Rect

theorem sharedArea_nonneg (a b : Rect) : 0 ≤ a.sharedArea b :=
  mul_nonneg (Span.overlap_nonneg _ _) (Span.overlap_nonneg _ _)

theorem sharedArea_of_empty {a b : Rect} (h : b.empty = true) : a.sharedArea b = 0 := by
  have hsize := mt empty_eq_false_iff.mpr (Bool.not_eq_false _ ▸ h)
  rw [not_and_or, not_le, not_le] at hsize
  rw [sharedArea]
  rcases hsize with hwidth | hheight
  · rw [Span.overlap_of_size_nonpos (Int.lt_add_one_iff.mp hwidth), zero_mul]
  · rw [Span.overlap_of_size_nonpos (Int.lt_add_one_iff.mp hheight), mul_zero]

end Rect

namespace Restore

open Greedy (IsFirstBest)
open ContextSnap.Geometry (usableArea clampInto)

/-! ### The target -/

section Overlap

variable {frame workArea : Rect}

theorem toInt_max_zero_sub {a b : Int32} (h : (Int32Op.sub a b).InRange) :
    (max 0 (a - b)).toInt = max 0 (a.toInt - b.toInt) := by
  rw [toInt_max]
  exact congrArg (max 0) (Int32Op.toInt_value h)

/-- Without an overflow, the overlap is the area that is shared. -/
theorem toInt_overlapWith (h : ∀ op ∈ overlapOps frame workArea, op.InRange) :
    (overlapWith frame workArea).toInt = frame.sharedArea workArea := by
  simp only [overlapOps, Rect.edgeOps, List.cons_append, List.nil_append, List.forall_mem_cons] at h
  obtain ⟨hright, hbottom, hareaRight, hareaBottom, hacross, hdown, -⟩ := h
  have hframe : frame.EdgesFit := ⟨hright, hbottom⟩
  have harea : workArea.EdgesFit := ⟨hareaRight, hareaBottom⟩
  have hwidth : (max 0 (min frame.right workArea.right - max frame.left workArea.left)).toInt
      = frame.across.overlap workArea.across := by
    rw [toInt_max_zero_sub hacross, hframe.toInt_min_right harea, Rect.toInt_max_left]
    rfl
  have hheight : (max 0 (min frame.bottom workArea.bottom - max frame.top workArea.top)).toInt
      = frame.down.overlap workArea.down := by
    rw [toInt_max_zero_sub hdown, hframe.toInt_min_bottom harea, Rect.toInt_max_top]
    rfl
  rw [overlapWith, toInt_mul_toInt64, hwidth, hheight, Rect.sharedArea]

/-- One monitor against the target so far. -/
def considerTarget (frame : Rect) (kept : MonitorInfo × Int64) (monitor : MonitorInfo) :
    MonitorInfo × Int64 :=
  if overlapWith frame monitor.workArea > kept.2 then (monitor, overlapWith frame monitor.workArea)
  else kept

theorem clampTarget_eq (frame : Rect) (front : MonitorInfo) (monitors : List MonitorInfo) :
    clampTarget frame front monitors
      = (monitors.foldl (considerTarget frame) (front, -1)).1 := rfl

/-- The target so far and its overlap are those of the monitor. -/
def KeepsTarget (frame : Rect) (kept : MonitorInfo × Int64) (monitor : MonitorInfo) : Prop :=
  kept.1 = monitor ∧ kept.2.toInt = frame.sharedArea monitor.workArea

variable {kept : MonitorInfo × Int64} {front monitor other : MonitorInfo} {rest : List MonitorInfo}

theorem KeepsTarget.of_lt (h : KeepsTarget frame kept monitor)
    (hother : ∀ op ∈ overlapOps frame other.workArea, op.InRange)
    (hlt : frame.sharedArea monitor.workArea < frame.sharedArea other.workArea) :
    KeepsTarget frame (considerTarget frame kept other) other := by
  have hoverlap := toInt_overlapWith hother
  rw [← h.2, ← hoverlap, ← Int64.lt_iff_toInt_lt] at hlt
  rw [considerTarget, if_pos hlt]
  exact ⟨rfl, hoverlap⟩

theorem KeepsTarget.of_le (h : KeepsTarget frame kept monitor)
    (hother : ∀ op ∈ overlapOps frame other.workArea, op.InRange)
    (hle : frame.sharedArea other.workArea ≤ frame.sharedArea monitor.workArea) :
    KeepsTarget frame (considerTarget frame kept other) monitor := by
  rw [← h.2, ← toInt_overlapWith hother, ← not_lt, ← Int64.lt_iff_toInt_lt] at hle
  rw [considerTarget, if_neg hle]
  exact h

/-- The target is the first monitor whose work area the frame overlaps most. -/
theorem clampTarget_isFirstBest
    (h : ∀ monitor ∈ front :: rest, ∀ op ∈ overlapOps frame monitor.workArea, op.InRange) :
    IsFirstBest (fun monitor => frame.sharedArea monitor.workArea) (front :: rest)
      (clampTarget frame front (front :: rest)) := by
  obtain ⟨hfront, hrest⟩ := List.forall_mem_cons.mp h
  have hoverlap := toInt_overlapWith hfront
  have hfirst : overlapWith frame front.workArea > -1 := by
    rw [gt_iff_lt, Int64.lt_iff_toInt_lt, hoverlap]
    exact lt_of_lt_of_le (by decide) (Rect.sharedArea_nonneg _ _)
  rw [clampTarget_eq, List.foldl_cons, considerTarget, if_pos hfirst]
  have hstart : KeepsTarget frame (front, overlapWith frame front.workArea) front :=
    ⟨rfl, hoverlap⟩
  have hrun := (IsFirstBest.singleton
      (fun monitor : MonitorInfo => frame.sharedArea monitor.workArea) front).foldl
    (KeepsTarget frame) (fun _ _ other hother hkept => hkept.of_lt (hrest other hother))
    (fun _ _ other hother hkept => hkept.of_le (hrest other hother)) hstart
  obtain ⟨target, hbest, htarget⟩ := hrun
  rw [htarget.1]
  exact hbest

end Overlap

/-! ### The place -/

/-- The clamp of `clamp_to_monitors` once the target is known. -/
def placeIn (frame workArea : Rect) : Rect :=
  let width := min frame.width workArea.width
  let height := min frame.height workArea.height
  { x := min (max frame.x workArea.left) (workArea.right - width)
    y := min (max frame.y workArea.top) (workArea.bottom - height)
    width, height }

theorem clampToMonitors_cons (frame : Rect) (front : MonitorInfo) (rest : List MonitorInfo) :
    clampToMonitors frame (front :: rest)
      = placeIn frame (clampTarget frame front (front :: rest)).workArea := rfl

section Place

variable {frame workArea : Rect}

theorem placeIn_empty_eq_false_iff :
    (placeIn frame workArea).empty = false ↔ frame.empty = false ∧ workArea.empty = false := by
  have hwidth : (placeIn frame workArea).across.size
      = min frame.across.size workArea.across.size := toInt_min _ _
  have hheight : (placeIn frame workArea).down.size
      = min frame.down.size workArea.down.size := toInt_min _ _
  rw [Rect.empty_eq_false_iff, Rect.empty_eq_false_iff, Rect.empty_eq_false_iff, hwidth, hheight,
    le_min_iff, le_min_iff, and_and_and_comm]

/-- One direction of the clamp, from the `start` of the area to its `stop`. -/
theorem fit_place {position size start room stop : Int32} (hsize : 1 ≤ size.toInt)
    (hroom : 1 ≤ room.toInt) (hstop : stop.toInt = start.toInt + room.toInt) :
    Span.fit 1 ⟨position.toInt, size.toInt⟩ (⟨start.toInt, room.toInt⟩ : Span ℤ)
      = ⟨(min (max position start) (stop - min size room)).toInt, (min size room).toInt⟩ := by
  have hmin := toInt_min size room
  have hlow := start.le_toInt
  have hhigh := stop.toInt_lt
  have hsub : (stop - min size room).toInt = stop.toInt - (min size room).toInt := by
    apply @Int32Op.toInt_value (.sub _ _)
    simp only [Int32Op.InRange, Int32Op.exact]
    omega
  rw [toInt_min, toInt_max, hsub, hmin, hstop, Span.fit, Span.stop]
  simp only [Span.mk.injEq]
  omega

/-- Neither of them empty, the two clamps agree. -/
theorem placeIn_eq_clampInto (hframe : frame.empty = false) (harea : workArea.empty = false)
    (hfit : workArea.EdgesFit) : placeIn frame workArea = clampInto frame workArea := by
  obtain ⟨hwidth, hheight⟩ := Rect.empty_eq_false_iff.mp hframe
  obtain ⟨hacross, hdown⟩ := Rect.empty_eq_false_iff.mp harea
  apply Rect.eq_of_spans
  · rw [Geometry.across_clampInto harea hfit]
    exact (fit_place hwidth hacross hfit.right).symm
  · rw [Geometry.down_clampInto harea hfit]
    exact (fit_place hheight hdown hfit.bottom).symm

end Place

/-! ### Agreement -/

/-- The frame comes to lie in the same place in both areas. -/
def SamePlace (frame a b : Rect) : Prop :=
  Span.fit 1 frame.across a.across = Span.fit 1 frame.across b.across
    ∧ Span.fit 1 frame.down a.down = Span.fit 1 frame.down b.down

section Agreement

variable (frame : Rect) (monitors : List MonitorInfo)

structure ClampsAlike : Prop where
  alike : ∃ monitor, IsFirstBest (fun monitor => frame.sharedArea (usableArea monitor)) monitors
      monitor ∧ clampToMonitors frame monitors = clampInto frame (usableArea monitor)
  visible : (clampToMonitors frame monitors).empty = false
    ∧ ∃ monitor ∈ monitors, (clampToMonitors frame monitors).Inside (usableArea monitor)

/-- The frame is not empty, and neither is the work area that it overlaps most, which places it
where the usable area does that it overlaps most. -/
def TargetUsable : Prop :=
  frame.empty = false ∧ ∃ target monitor,
    IsFirstBest (fun monitor => frame.sharedArea monitor.workArea) monitors target
      ∧ IsFirstBest (fun monitor => frame.sharedArea (usableArea monitor)) monitors monitor
      ∧ target.workArea.empty = false ∧ SamePlace frame target.workArea (usableArea monitor)

variable {frame monitors}

theorem usableArea_of_workArea {monitor : MonitorInfo} (h : monitor.workArea.empty = false) :
    usableArea monitor = monitor.workArea := if_neg (by simp [h])

/-- An empty usable area is only overlapped most if every area is overlapped as little. -/
theorem usableArea_best_nonempty {target monitor : MonitorInfo}
    (htarget : IsFirstBest (fun monitor => frame.sharedArea monitor.workArea) monitors target)
    (hmonitor : IsFirstBest (fun monitor => frame.sharedArea (usableArea monitor)) monitors monitor)
    (hwork : target.workArea.empty = false) : (usableArea monitor).empty = false := by
  by_contra hempty
  rw [Bool.not_eq_false] at hempty
  have hnone : ∀ other ∈ monitors, frame.sharedArea (usableArea other) = 0 := by
    intro other hother
    have hle := hmonitor.le_best hother
    simp only [Rect.sharedArea_of_empty hempty] at hle
    exact le_antisymm hle (Rect.sharedArea_nonneg _ _)
  have hsame : ∀ other ∈ monitors,
      frame.sharedArea other.workArea = frame.sharedArea (usableArea other) := by
    intro other hother
    rw [hnone other hother]
    cases hother' : other.workArea.empty with
    | true => exact Rect.sharedArea_of_empty hother'
    | false => exact usableArea_of_workArea hother' ▸ hnone other hother
  have heq := (htarget.congr hsame).eq hmonitor
  rw [← heq, usableArea_of_workArea hwork, hwork] at hempty
  exact Bool.false_ne_true hempty

/-- **The two clamps** agree exactly if the target is usable. -/
theorem clampToMonitors_clampsAlike_iff (hmonitors : monitors ≠ [])
    (hops : ∀ op ∈ placementOps frame monitors, op.InRange)
    (hfit : ∀ monitor ∈ monitors, (usableArea monitor).EdgesFit) :
    ClampsAlike frame monitors ↔ TargetUsable frame monitors := by
  obtain ⟨front, rest, rfl⟩ := List.exists_cons_of_ne_nil hmonitors
  have htarget : IsFirstBest (fun monitor => frame.sharedArea monitor.workArea) (front :: rest)
      (clampTarget frame front (front :: rest)) := by
    refine clampTarget_isFirstBest fun monitor hmonitor op hop => hops op ?_
    exact List.mem_append_left _ (List.mem_append_left _ (List.mem_flatMap.mpr ⟨_, hmonitor, hop⟩))
  have hplaced := clampToMonitors_cons frame front rest
  generalize clampTarget frame front (front :: rest) = target at htarget hplaced
  have heq : frame.empty = false → target.workArea.empty = false →
      clampToMonitors frame (front :: rest) = clampInto frame target.workArea := by
    intro hframe hwork
    have hedges := usableArea_of_workArea hwork ▸ hfit target htarget.mem
    rw [hplaced, placeIn_eq_clampInto hframe hwork hedges]
  constructor
  · rintro ⟨⟨monitor, hmonitor, halike⟩, hnonempty, -⟩
    rw [hplaced, placeIn_empty_eq_false_iff] at hnonempty
    obtain ⟨hframe, hwork⟩ := hnonempty
    have husable := usableArea_best_nonempty htarget hmonitor hwork
    have hedges := usableArea_of_workArea hwork ▸ hfit target htarget.mem
    rw [heq hframe hwork] at halike
    refine ⟨hframe, target, monitor, htarget, hmonitor, hwork, ?_, ?_⟩
    · rw [← Geometry.across_clampInto hwork hedges, halike,
        Geometry.across_clampInto husable (hfit monitor hmonitor.mem)]
    · rw [← Geometry.down_clampInto hwork hedges, halike,
        Geometry.down_clampInto husable (hfit monitor hmonitor.mem)]
  · rintro ⟨hframe, target', monitor, htarget', hmonitor, hwork, hsame⟩
    obtain rfl := htarget'.eq htarget
    have husable := usableArea_best_nonempty htarget hmonitor hwork
    have hedges := usableArea_of_workArea hwork ▸ hfit target' htarget.mem
    refine ⟨⟨monitor, hmonitor, ?_⟩, ?_⟩
    · rw [heq hframe hwork]
      apply Rect.eq_of_spans
      · rw [Geometry.across_clampInto hwork hedges, hsame.1,
          Geometry.across_clampInto husable (hfit monitor hmonitor.mem)]
      · rw [Geometry.down_clampInto hwork hedges, hsame.2,
          Geometry.down_clampInto husable (hfit monitor hmonitor.mem)]
    · obtain ⟨hnonempty, hinside⟩ := @Geometry.clampInto_inside frame _ hwork hedges
      rw [heq hframe hwork]
      refine ⟨hnonempty, target', htarget.mem, ?_⟩
      rwa [usableArea_of_workArea hwork]

/-- Frames and work areas are not empty as a rule. -/
theorem targetUsable_of_nonempty (hmonitors : monitors ≠ []) (hframe : frame.empty = false)
    (hwork : ∀ monitor ∈ monitors, monitor.workArea.empty = false) :
    TargetUsable frame monitors := by
  obtain ⟨target, htarget⟩ := Greedy.exists_isFirstBest
    (fun monitor : MonitorInfo => frame.sharedArea monitor.workArea) hmonitors
  have hsame : ∀ monitor ∈ monitors,
      frame.sharedArea monitor.workArea = frame.sharedArea (usableArea monitor) :=
    fun monitor hmonitor => by rw [usableArea_of_workArea (hwork monitor hmonitor)]
  refine ⟨hframe, target, target, htarget, htarget.congr hsame, hwork target htarget.mem, ?_⟩
  rw [usableArea_of_workArea (hwork target htarget.mem)]
  exact ⟨rfl, rfl⟩

end Agreement

/-! ### A frame that is on screen -/

section OnScreen

variable {frame : Rect} {monitors : List MonitorInfo}

/-- A frame shares the whole of itself with the areas that it lies in, and less with all others. -/
theorem le_sharedArea_iff (hframe : frame.empty = false) (area : Rect) :
    frame.across.size * frame.down.size ≤ frame.sharedArea area ↔ frame.Inside area := by
  obtain ⟨hwidth, hheight⟩ := Rect.empty_eq_false_iff.mp hframe
  rw [Rect.Inside, ← Span.overlap_eq_size_iff (Int.lt_of_lt_of_le Int.one_pos hwidth),
    ← Span.overlap_eq_size_iff (Int.lt_of_lt_of_le Int.one_pos hheight), Rect.sharedArea]
  have hacross : frame.across.overlap area.across ≤ frame.across.size :=
    Span.overlap_le_size (by omega)
  have hdown : frame.down.overlap area.down ≤ frame.down.size := Span.overlap_le_size (by omega)
  have hacross' := Span.overlap_nonneg frame.across area.across
  have hdown' := Span.overlap_nonneg frame.down area.down
  constructor
  · intro hle
    constructor <;> nlinarith
  · rintro ⟨hacross, hdown⟩
    rw [hacross, hdown]

/-- A frame in the work area of a monitor, where no `int32` overflows. -/
structure OnScreen (frame : Rect) (monitors : List MonitorInfo) : Prop where
  nonempty : frame.empty = false
  inside : ∃ monitor ∈ monitors, frame.Inside monitor.workArea
  inRange : ∀ op ∈ placementOps frame monitors, op.InRange
  fit : ∀ monitor ∈ monitors, monitor.workArea.EdgesFit

/-- **A frame that is on screen stays where it is.** -/
theorem clampToMonitors_of_onScreen (h : OnScreen frame monitors) :
    clampToMonitors frame monitors = frame := by
  obtain ⟨monitor, hmonitor, hinside⟩ := h.inside
  obtain ⟨front, rest, rfl⟩ := List.exists_cons_of_ne_nil (List.ne_nil_of_mem hmonitor)
  have htarget := clampTarget_isFirstBest fun monitor hmonitor op hop => h.inRange op
    (List.mem_append_left _ (List.mem_append_left _ (List.mem_flatMap.mpr ⟨monitor, hmonitor, hop⟩)))
  have hbest := htarget.le_best hmonitor
  rw [clampToMonitors_cons]
  generalize clampTarget frame front (front :: rest) = target at htarget hbest
  -- The target shares no less of the frame than the monitor that has all of it.
  have hall : frame.Inside target.workArea :=
    (le_sharedArea_iff h.nonempty _).mp (((le_sharedArea_iff h.nonempty _).mpr hinside).trans hbest)
  have hfit := h.fit target htarget.mem
  obtain ⟨hwidth, hheight⟩ := Rect.empty_eq_false_iff.mp h.nonempty
  have hnonempty : target.workArea.empty = false := Rect.empty_eq_false_iff.mpr
    ⟨hwidth.trans hall.1.size_le, hheight.trans hall.2.size_le⟩
  rw [placeIn_eq_clampInto h.nonempty hnonempty hfit]
  exact Geometry.clampInto_of_inside hfit h.nonempty hall

end OnScreen

/-! ### A monitor without a work area -/

/-- A monitor of which only the bounds are known. -/
def bareMonitor : MonitorInfo :=
  { id := str "hdmi-1", bounds := { width := 1920, height := 1080 } }

def panelMonitor : MonitorInfo := { bareMonitor with workArea := { width := 1920, height := 1040 } }

def noteFrame : Rect := { x := 1600, y := 900, width := 800, height := 600 }

theorem clampToMonitors_clampsAlike_iff_panel :
    ClampsAlike noteFrame [panelMonitor] ↔ TargetUsable noteFrame [panelMonitor] :=
  clampToMonitors_clampsAlike_iff (by decide) (by decide) (by decide)

/-- Without a work area, nothing is left of the frame. -/
theorem not_clampToMonitors_clampsAlike :
    ¬∀ (frame : Rect) (monitors : List MonitorInfo), monitors ≠ [] → frame.empty = false →
      (∀ monitor ∈ monitors, monitor.bounds.empty = false) →
      (∀ op ∈ placementOps frame monitors, op.InRange) →
      (∀ monitor ∈ monitors, monitor.bounds.EdgesFit ∧ monitor.workArea.EdgesFit) →
      ClampsAlike frame monitors := by
  intro h
  have halike := h noteFrame [bareMonitor] (by decide) (by decide) (by decide) (by decide)
    (by decide)
  have hempty : (clampToMonitors noteFrame [bareMonitor]).empty = true := by decide
  exact absurd (hempty.symm.trans halike.visible.1) (by decide)

end Restore

end ContextSnap
