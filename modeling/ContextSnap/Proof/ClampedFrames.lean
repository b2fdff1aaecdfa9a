import ContextSnap.Core.Geometry
import ContextSnap.Lib.Int32Ops
import ContextSnap.Lib.Spans

/-!
# Clamped frames

A rectangle is a span in either direction. As long as the edges of the area are machine integers,
`clamp_into` fits the spans of a frame into those of the area.
-/

namespace ContextSnap

namespace Rect

def across (r : Rect) : Span ℤ := ⟨r.x.toInt, r.width.toInt⟩

def down (r : Rect) : Span ℤ := ⟨r.y.toInt, r.height.toInt⟩

def Inside (r area : Rect) : Prop := r.across.Within area.across ∧ r.down.Within area.down

/-- The area that two rectangles share. -/
def sharedArea (a b : Rect) : ℤ := a.across.overlap b.across * a.down.overlap b.down

/-- The right and the bottom edge are no overflow. -/
def EdgesFit (r : Rect) : Prop :=
  (Int32Op.add r.x r.width).InRange ∧ (Int32Op.add r.y r.height).InRange

instance (r area : Rect) : Decidable (r.Inside area) :=
  inferInstanceAs (Decidable ((_ ≤ _ ∧ _ ≤ _) ∧ _ ≤ _ ∧ _ ≤ _))

instance (r : Rect) : Decidable r.EdgesFit := inferInstanceAs (Decidable (_ ∧ _))

theorem eq_of_spans {a b : Rect} (hacross : a.across = b.across) (hdown : a.down = b.down) :
    a = b := by
  obtain ⟨hx, hwidth⟩ := Span.mk.inj hacross
  obtain ⟨hy, hheight⟩ := Span.mk.inj hdown
  obtain ⟨x, y, width, height⟩ := a
  rw [Int32.toInt_inj] at hx hwidth hy hheight
  simp_all

theorem empty_eq_false_iff {r : Rect} :
    r.empty = false ↔ 1 ≤ r.across.size ∧ 1 ≤ r.down.size := by
  have hpos : ∀ i : Int32, ¬i ≤ 0 ↔ 1 ≤ i.toInt := by
    intro i
    rw [Int32.le_iff_toInt_le]
    exact not_le
  simp [empty, across, down, ← hpos]

theorem EdgesFit.right {r : Rect} (h : r.EdgesFit) : r.right.toInt = r.across.stop :=
  Int32Op.toInt_value h.1

theorem EdgesFit.bottom {r : Rect} (h : r.EdgesFit) : r.bottom.toInt = r.down.stop :=
  Int32Op.toInt_value h.2

/-! The edges between which two rectangles overlap. -/

section Edges

variable {a b : Rect}

theorem EdgesFit.toInt_min_right (ha : a.EdgesFit) (hb : b.EdgesFit) :
    (min a.right b.right).toInt = min a.across.stop b.across.stop := by
  rw [toInt_min, ha.right, hb.right]

theorem EdgesFit.toInt_min_bottom (ha : a.EdgesFit) (hb : b.EdgesFit) :
    (min a.bottom b.bottom).toInt = min a.down.stop b.down.stop := by
  rw [toInt_min, ha.bottom, hb.bottom]

theorem toInt_max_left (a b : Rect) :
    (max a.left b.left).toInt = max a.across.start b.across.start := toInt_max _ _

theorem toInt_max_top (a b : Rect) :
    (max a.top b.top).toInt = max a.down.start b.down.start := toInt_max _ _

/-- Their difference is no larger than a side, so it can only be too small. -/
theorem sub_inRange_iff {last first : Int32} {s t : Span ℤ}
    (hlast : last.toInt = min s.stop t.stop) (hfirst : first.toInt = max s.start t.start)
    (hsize : s.size < 2 ^ 31) :
    (Int32Op.sub last first).InRange ↔ -2 ^ 31 ≤ min s.stop t.stop - max s.start t.start := by
  have hroom : min s.stop t.stop - max s.start t.start ≤ s.size := by
    have hstop : min s.stop t.stop ≤ s.start + s.size := min_le_left _ _
    have hstart : s.start ≤ max s.start t.start := le_max_left _ _
    omega
  rw [Int32Op.InRange, Int32Op.exact, hlast, hfirst]
  exact and_iff_left (hroom.trans_lt hsize)

end Edges

end Rect

namespace Geometry

section Clamp

/-- The clamp of one coordinate. -/
theorem toInt_clamp {value low high : Int32} (h : low.toInt ≤ high.toInt) :
    (clamp value low high).toInt = max low.toInt (min value.toInt high.toInt) := by
  rw [clamp]
  split_ifs with hlow hhigh
  · have hlt := Int32.lt_iff_toInt_lt.mp hlow
    omega
  · have hlt := Int32.lt_iff_toInt_lt.mp hhigh
    omega
  · have hle := mt Int32.lt_iff_toInt_lt.mpr hlow
    have hle' := mt Int32.lt_iff_toInt_lt.mpr hhigh
    omega

/-- One direction of `clamp_into`, from the `start` of the area to its `stop`. -/
theorem fit_clamp {position size start room stop : Int32} (hroom : 1 ≤ room.toInt)
    (hstop : stop.toInt = start.toInt + room.toInt) :
    Span.fit 1 ⟨position.toInt, size.toInt⟩ (⟨start.toInt, room.toInt⟩ : Span ℤ)
      = ⟨(clamp position start (stop - max (min size room) 1)).toInt,
          (max (min size room) 1).toInt⟩ := by
  have hsize : (max (min size room) 1).toInt = max 1 (min size.toInt room.toInt) := by
    rw [toInt_max, toInt_min, max_comm]
    rfl
  have hlow := start.le_toInt
  have hhigh := stop.toInt_lt
  have hsub : (stop - max (min size room) 1).toInt
      = stop.toInt - (max (min size room) 1).toInt := by
    apply @Int32Op.toInt_value (.sub _ _)
    simp only [Int32Op.InRange, Int32Op.exact]
    omega
  rw [toInt_clamp (by omega), hsub, hsize, hstop]
  rfl

variable {frame area : Rect}

theorem across_clampInto (harea : area.empty = false) (hfit : area.EdgesFit) :
    (clampInto frame area).across = Span.fit 1 frame.across area.across := by
  have hroom := (Rect.empty_eq_false_iff.mp harea).1
  rw [clampInto, if_neg (by simp [harea])]
  exact (fit_clamp hroom hfit.right).symm

theorem down_clampInto (harea : area.empty = false) (hfit : area.EdgesFit) :
    (clampInto frame area).down = Span.fit 1 frame.down area.down := by
  have hroom := (Rect.empty_eq_false_iff.mp harea).2
  rw [clampInto, if_neg (by simp [harea])]
  exact (fit_clamp hroom hfit.bottom).symm

/-- **A clamped frame** is one inside the area. -/
theorem clampInto_inside (harea : area.empty = false) (hfit : area.EdgesFit) :
    (clampInto frame area).empty = false ∧ (clampInto frame area).Inside area := by
  obtain ⟨hwidth, hheight⟩ := Rect.empty_eq_false_iff.mp harea
  rw [Rect.empty_eq_false_iff, Rect.Inside, across_clampInto harea hfit,
    down_clampInto harea hfit]
  exact ⟨⟨Span.least_le_size_fit _ _ _, Span.least_le_size_fit _ _ _⟩, Span.fit_within hwidth,
    Span.fit_within hheight⟩

theorem clampInto_of_inside (hfit : area.EdgesFit) (hframe : frame.empty = false)
    (hinside : frame.Inside area) : clampInto frame area = frame := by
  obtain ⟨hwidth, hheight⟩ := Rect.empty_eq_false_iff.mp hframe
  have harea : area.empty = false := Rect.empty_eq_false_iff.mpr
    ⟨hwidth.trans hinside.1.size_le, hheight.trans hinside.2.size_le⟩
  apply Rect.eq_of_spans
  · rw [across_clampInto harea hfit, Span.fit_of_within hinside.1 hwidth]
  · rw [down_clampInto harea hfit, Span.fit_of_within hinside.2 hheight]

theorem clampInto_clampInto (harea : area.empty = false) (hfit : area.EdgesFit) :
    clampInto (clampInto frame area) area = clampInto frame area :=
  have hinside := clampInto_inside harea hfit
  clampInto_of_inside hfit hinside.1 hinside.2

/-- **What `clamp_into` promises**: a frame inside the work area, cut only where there is no room,
moved as little as its size allows, and left alone where there is nothing to do. -/
theorem clampInto_contract (frame area : Rect) (harea : area.empty = false)
    (hfit : area.EdgesFit) :
    let out := clampInto frame area
    (out.empty = false ∧ out.Inside area)
      ∧ (out.width.toInt = max 1 (min frame.width.toInt area.width.toInt)
        ∧ out.height.toInt = max 1 (min frame.height.toInt area.height.toInt))
      ∧ (frame.empty = false → frame.Inside area → out = frame)
      ∧ (∀ x : ℤ, (⟨x, out.width.toInt⟩ : Span ℤ).Within area.across →
          |out.x.toInt - frame.x.toInt| ≤ |x - frame.x.toInt|)
      ∧ (∀ y : ℤ, (⟨y, out.height.toInt⟩ : Span ℤ).Within area.down →
          |out.y.toInt - frame.y.toInt| ≤ |y - frame.y.toInt|)
      ∧ clampInto out area = out := by
  intro out
  obtain ⟨hx, hwidth⟩ := Span.mk.inj (@across_clampInto frame area harea hfit)
  obtain ⟨hy, hheight⟩ := Span.mk.inj (@down_clampInto frame area harea hfit)
  refine ⟨clampInto_inside harea hfit, ⟨hwidth, hheight⟩, clampInto_of_inside hfit, ?_, ?_,
    clampInto_clampInto harea hfit⟩
  · intro x hplace
    rw [hwidth] at hplace
    rw [hx]
    exact Span.abs_start_fit_sub_le hplace
  · intro y hplace
    rw [hheight] at hplace
    rw [hy]
    exact Span.abs_start_fit_sub_le hplace

/-- A frame without height, partly left of a monitor that is left of the primary one. -/
theorem clampInto_contract_leftMonitor :
    let area : Rect := { x := -1920, y := 0, width := 1920, height := 1040 }
    let out := clampInto { x := -2000, y := 1100, width := 800, height := 0 } area
    (out.x.toInt = -1920 ∧ out.y.toInt = 1039) ∧ out.Inside area := by
  have hcontract := clampInto_contract { x := -2000, y := 1100, width := 800, height := 0 }
    { x := -1920, y := 0, width := 1920, height := 1040 } (by decide) (by decide)
  exact ⟨⟨by decide, by decide⟩, hcontract.1.2⟩

end Clamp

end Geometry

end ContextSnap
