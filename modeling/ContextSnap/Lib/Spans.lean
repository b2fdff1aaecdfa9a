import Mathlib.Tactic

/-!
# Spans

A span starts somewhere and has a size. How much of it two spans share, and where a span comes to lie
when it is moved into another one and cut if it is too long.
-/

namespace ContextSnap

structure Span (α : Type) where
  start : α
  size : α
  deriving DecidableEq

namespace Span

variable {α : Type} [CommRing α] [LinearOrder α] [IsStrictOrderedRing α]

def stop (s : Span α) : α := s.start + s.size

def Within (s t : Span α) : Prop := t.start ≤ s.start ∧ s.stop ≤ t.stop

def overlap (s t : Span α) : α := max 0 (min s.stop t.stop - max s.start t.start)

/-- `s` in `t`, with a size of at least `least`. -/
def fit (least : α) (s t : Span α) : Span α :=
  let size := max least (min s.size t.size)
  { start := max t.start (min s.start (t.stop - size)), size }

variable {s t : Span α} {least : α}

theorem Within.size_le (h : s.Within t) : s.size ≤ t.size := by
  obtain ⟨hstart, hstop⟩ := h
  simp only [stop] at hstop
  linarith

omit [IsStrictOrderedRing α] in
theorem overlap_nonneg (s t : Span α) : 0 ≤ s.overlap t := le_max_left _ _

theorem overlap_of_stop_le (h : min s.stop t.stop ≤ max s.start t.start) : s.overlap t = 0 :=
  max_eq_left (sub_nonpos.mpr h)

theorem overlap_of_size_nonpos (h : t.size ≤ 0) : s.overlap t = 0 := by
  apply overlap_of_stop_le
  have hstop : min s.stop t.stop ≤ t.start + t.size := min_le_right _ _
  have hstart : t.start ≤ max s.start t.start := le_max_right _ _
  linarith

/-- A span shares at most the whole of itself, and that with the spans that it lies in. -/
theorem overlap_le_size (h : 0 ≤ s.size) : s.overlap t ≤ s.size := by
  apply max_le h
  have hstop : min s.stop t.stop ≤ s.start + s.size := min_le_left _ _
  have hstart : s.start ≤ max s.start t.start := le_max_left _ _
  linarith

theorem overlap_eq_size_iff (h : 0 < s.size) : s.overlap t = s.size ↔ s.Within t := by
  constructor
  · intro heq
    have hlong : s.size ≤ min s.stop t.stop - max s.start t.start :=
      (le_max_iff.mp heq.ge).resolve_left (not_le.mpr h)
    have hstop : min s.stop t.stop ≤ s.start + s.size := min_le_left _ _
    constructor
    · have hstart : t.start ≤ max s.start t.start := le_max_right _ _
      linarith
    · have hstart : s.start ≤ max s.start t.start := le_max_left _ _
      have hmin : min s.stop t.stop ≤ t.stop := min_le_right _ _
      rw [show s.stop = s.start + s.size from rfl] at hmin hlong ⊢
      linarith
  · rintro ⟨hstart, hstop⟩
    rw [overlap, min_eq_left hstop, max_eq_left hstart, stop, add_sub_cancel_left,
      max_eq_right h.le]

omit [IsStrictOrderedRing α] in
theorem least_le_size_fit (least : α) (s t : Span α) : least ≤ (fit least s t).size :=
  le_max_left _ _

omit [IsStrictOrderedRing α] in
theorem size_fit_le (h : least ≤ t.size) : (fit least s t).size ≤ t.size :=
  max_le h (min_le_right _ _)

/-- **What is fitted into a span** lies in it, if there is room for the least size. -/
theorem fit_within (h : least ≤ t.size) : (fit least s t).Within t := by
  have hsize : (fit least s t).size ≤ t.size := size_fit_le h
  refine ⟨le_max_left _ _, ?_⟩
  have hroom : t.start ≤ t.stop - (fit least s t).size := by
    simp only [stop]
    linarith
  have hstart : (fit least s t).start ≤ t.stop - (fit least s t).size :=
    max_le hroom (min_le_right _ _)
  simp only [stop] at hstart ⊢
  linarith

/-- What lies in the span already stays where it is. -/
theorem fit_of_within (h : s.Within t) (hleast : least ≤ s.size) : fit least s t = s := by
  have hsize : max least (min s.size t.size) = s.size := by
    rw [min_eq_left h.size_le, max_eq_right hleast]
  have hstop : s.start ≤ t.stop - s.size := by
    have := h.2
    simp only [stop] at this ⊢
    linarith
  simp only [fit, hsize, min_eq_left hstop, max_eq_right h.1]

theorem fit_fit (h : least ≤ t.size) : fit least (fit least s t) t = fit least s t :=
  fit_of_within (fit_within h) (least_le_size_fit least s t)

/-- No place at which the fitted size lies in the span is nearer to where it was. -/
theorem abs_start_fit_sub_le {place : α}
    (h : (⟨place, (fit least s t).size⟩ : Span α).Within t) :
    |(fit least s t).start - s.start| ≤ |place - s.start| := by
  obtain ⟨hfirst, hlast⟩ := h
  have hlast' : place ≤ t.stop - (fit least s t).size := le_sub_iff_add_le.mpr hlast
  have hstart : (fit least s t).start
      = max t.start (min s.start (t.stop - (fit least s t).size)) := rfl
  rw [hstart]
  generalize t.stop - (fit least s t).size = last at hlast'
  rcases le_total s.start t.start with hbefore | hafter
  · calc |max t.start (min s.start last) - s.start|
        = t.start - s.start := by
          rw [max_eq_left ((min_le_left _ _).trans hbefore), abs_of_nonneg (sub_nonneg.mpr hbefore)]
      _ ≤ place - s.start := sub_le_sub_right hfirst _
      _ ≤ |place - s.start| := le_abs_self _
  rcases le_total s.start last with hroom | hbeyond
  · calc |max t.start (min s.start last) - s.start|
        = 0 := by rw [min_eq_left hroom, max_eq_right hafter, sub_self, abs_zero]
      _ ≤ |place - s.start| := abs_nonneg _
  · calc |max t.start (min s.start last) - s.start|
        = s.start - last := by
          rw [min_eq_right hbeyond, max_eq_right (hfirst.trans hlast'), abs_sub_comm,
            abs_of_nonneg (sub_nonneg.mpr hbeyond)]
      _ ≤ s.start - place := sub_le_sub_left hlast' _
      _ ≤ |place - s.start| := abs_sub_comm place s.start ▸ le_abs_self _

end Span

end ContextSnap
