import ContextSnap.Proof.ClampedFrames

/-!
# Where remapped frames land

Every path of `remap_frame` but one ends in `clamp_into`. On an identical display the frame is kept as
it was captured, so it is only visible there if it was visible before.
-/

namespace ContextSnap.Geometry

section Choices

variable {source found : MonitorInfo} {target : List MonitorInfo}

theorem mem_of_or {α : Type} {first second : Option α} {l : List α} {a : α}
    (h : first.or second = some a) (hfirst : first = some a → a ∈ l)
    (hsecond : second = some a → a ∈ l) : a ∈ l := by
  rcases Option.or_eq_some_iff.mp h with hfound | ⟨-, hfound⟩
  · exact hfirst hfound
  · exact hsecond hfound

theorem primaryMonitor_mem (h : primaryMonitor target = some found) : found ∈ target :=
  mem_of_or h List.mem_of_find?_eq_some List.mem_of_head?

theorem primaryMonitor_ne_none (h : target ≠ []) : primaryMonitor target ≠ none := by
  cases target with
  | nil => exact absurd rfl h
  | cons first rest => simp [primaryMonitor]

theorem bestMatch_mem (h : bestMatch source target = some found) : found ∈ target := by
  refine mem_of_or h List.mem_of_find?_eq_some fun h => ?_
  refine mem_of_or h (fun h => ?_) fun h => ?_
  · split at h
    · exact List.mem_of_find?_eq_some h
    · cases h
  refine mem_of_or h List.mem_of_find?_eq_some fun h => ?_
  refine mem_of_or h List.mem_of_find?_eq_some fun h => ?_
  rcases Option.or_eq_some_iff.mp h with hprimary | ⟨hnone, hlargest⟩
  · exact primaryMonitor_mem hprimary
  · -- Without a primary monitor there is none at all.
    cases target with
    | nil => cases hlargest
    | cons first rest => exact absurd hnone (primaryMonitor_ne_none (List.cons_ne_nil _ _))

theorem bestMatch_ne_none (source : MonitorInfo) (h : target ≠ []) :
    bestMatch source target ≠ none := by
  have hprimary := primaryMonitor_ne_none h
  simp [bestMatch, Option.or_eq_none_iff, hprimary]

theorem usableArea_nonempty {monitor : MonitorInfo} (h : monitor.bounds.empty = false) :
    (usableArea monitor).empty = false := by
  rw [usableArea]
  split
  · exact h
  · exact Bool.not_eq_true _ ▸ ‹_›

end Choices

variable (frame : Rect) (capturedMonitorId : Bytes)
  (capturedMonitors currentMonitors : List MonitorInfo)

/-- The frame as it is before `clamp_into`, where that is called. -/
def unclamped : Rect :=
  match sourceMonitor frame capturedMonitorId capturedMonitors with
  | none => frame
  | some source =>
      match bestMatch source currentMonitors with
      | none => frame
      | some target => if sameDisplay source target then frame else remapped frame source target

/-- The frame lies in the usable area of the monitor that is named with it. -/
def OnMonitor (frame : Rect) (monitorId : Bytes) (monitors : List MonitorInfo) : Prop :=
  frame.empty = false
    ∧ ∃ monitor ∈ monitors, monitor.id = monitorId ∧ frame.Inside (usableArea monitor)

structure LandsOnScreen : Prop where
  visible : OnMonitor (remapFrame frame capturedMonitorId capturedMonitors currentMonitors).frame
    (remapFrame frame capturedMonitorId capturedMonitors currentMonitors).monitorId currentMonitors
  clamped_iff : (remapFrame frame capturedMonitorId capturedMonitors currentMonitors).clamped = true
    ↔ (remapFrame frame capturedMonitorId capturedMonitors currentMonitors).frame
      ≠ unclamped frame capturedMonitorId capturedMonitors currentMonitors

/-- A frame that is kept on an identical display is visible on it. -/
def KeptVisible : Prop :=
  ∀ source target, sourceMonitor frame capturedMonitorId capturedMonitors = some source →
    bestMatch source currentMonitors = some target → sameDisplay source target = true →
    OnMonitor frame target.id currentMonitors

variable {frame capturedMonitorId capturedMonitors currentMonitors}

theorem onMonitor_clampInto {monitor : MonitorInfo} (hmem : monitor ∈ currentMonitors)
    (hbounds : ∀ monitor ∈ currentMonitors, monitor.bounds.empty = false)
    (hfit : ∀ monitor ∈ currentMonitors, (usableArea monitor).EdgesFit) (before : Rect) :
    OnMonitor (clampInto before (usableArea monitor)) monitor.id currentMonitors := by
  obtain ⟨hnonempty, hinside⟩ := @clampInto_inside before _
    (usableArea_nonempty (hbounds monitor hmem)) (hfit monitor hmem)
  exact ⟨hnonempty, monitor, hmem, rfl, hinside⟩

/-- **Remapped frames** land on the screen exactly if those do that are kept where they were. -/
theorem remapFrame_landsOnScreen_iff (frame : Rect) (capturedMonitorId : Bytes)
    (capturedMonitors : List MonitorInfo) (hcurrent : currentMonitors ≠ [])
    (hbounds : ∀ monitor ∈ currentMonitors, monitor.bounds.empty = false)
    (hfit : ∀ monitor ∈ currentMonitors, (usableArea monitor).EdgesFit) :
    LandsOnScreen frame capturedMonitorId capturedMonitors currentMonitors
      ↔ KeptVisible frame capturedMonitorId capturedMonitors currentMonitors := by
  have hsome : currentMonitors.isEmpty = false := by simpa using hcurrent
  cases hsource : sourceMonitor frame capturedMonitorId capturedMonitors with
  | none =>
      obtain ⟨primary, hprimary⟩ := Option.ne_none_iff_exists'.mp (primaryMonitor_ne_none hcurrent)
      have hresult : remapFrame frame capturedMonitorId capturedMonitors currentMonitors
          = { frame := clampInto frame (usableArea primary), monitorId := primary.id
              monitorChanged := true
              clamped := clampInto frame (usableArea primary) ≠ frame } := by
        simp [remapFrame, hsome, hsource, hprimary]
      have hbefore : unclamped frame capturedMonitorId capturedMonitors currentMonitors = frame := by
        simp [unclamped, hsource]
      refine iff_of_true ⟨?_, ?_⟩ fun source target hnone => by simp [hsource] at hnone
      · rw [hresult]
        exact onMonitor_clampInto (primaryMonitor_mem hprimary) hbounds hfit frame
      · rw [hresult, hbefore]
        exact decide_eq_true_iff
  | some source =>
      obtain ⟨target, htarget⟩ :=
        Option.ne_none_iff_exists'.mp (bestMatch_ne_none source hcurrent)
      by_cases hsame : sameDisplay source target = true
      · have hresult : remapFrame frame capturedMonitorId capturedMonitors currentMonitors
            = { frame, monitorId := target.id } := by
          simp [remapFrame, hsome, hsource, htarget, hsame]
        have hbefore : unclamped frame capturedMonitorId capturedMonitors currentMonitors
            = frame := by
          simp [unclamped, hsource, htarget, hsame]
        constructor
        · intro h source' target' hsource' htarget' _
          cases hsource.symm.trans hsource'
          cases htarget.symm.trans htarget'
          simpa only [hresult] using h.visible
        · intro h
          refine ⟨?_, ?_⟩
          · rw [hresult]
            exact h source target hsource htarget hsame
          · rw [hresult, hbefore]
            exact iff_of_false Bool.false_ne_true fun hne => hne rfl
      · have hresult : remapFrame frame capturedMonitorId capturedMonitors currentMonitors
            = { frame := clampInto (remapped frame source target) (usableArea target)
                monitorId := target.id, monitorChanged := target.id ≠ source.id
                clamped := clampInto (remapped frame source target) (usableArea target)
                  ≠ remapped frame source target
                rescaled := needsRescale source target } := by
          simp [remapFrame, hsome, hsource, htarget, hsame]
        have hbefore : unclamped frame capturedMonitorId capturedMonitors currentMonitors
            = remapped frame source target := by
          simp [unclamped, hsource, htarget, hsame]
        refine iff_of_true ⟨?_, ?_⟩ ?_
        · rw [hresult]
          exact onMonitor_clampInto (bestMatch_mem htarget) hbounds hfit _
        · rw [hresult, hbefore]
          exact decide_eq_true_iff
        · intro source' target' hsource' htarget' hsame'
          cases hsource.symm.trans hsource'
          cases htarget.symm.trans htarget'
          exact absurd hsame' hsame

/-- A display of 1920 by 1080 with a panel at its bottom. -/
def deskMonitor : MonitorInfo :=
  { id := str "dp-1", bounds := { width := 1920, height := 1080 }
    workArea := { width := 1920, height := 1040 }, primary := true }

/-- A frame far to the right of it. -/
def farFrame : Rect := { x := 5000, y := 100, width := 800, height := 600 }

/-- Another monitor takes the frame over. -/
theorem remapFrame_landsOnScreen_iff_desk :
    LandsOnScreen farFrame (str "dp-2") [] [deskMonitor]
      ↔ KeptVisible farFrame (str "dp-2") [] [deskMonitor] :=
  remapFrame_landsOnScreen_iff farFrame (str "dp-2") [] (by decide) (by decide) (by decide)

/-- On the same display the frame stays off the screen. -/
theorem not_remapFrame_landsOnScreen :
    ¬∀ (frame : Rect) (capturedMonitorId : Bytes)
      (capturedMonitors currentMonitors : List MonitorInfo), currentMonitors ≠ [] →
      (∀ monitor ∈ currentMonitors, monitor.bounds.empty = false) → frame.EdgesFit →
      (∀ monitor ∈ capturedMonitors ++ currentMonitors,
        monitor.bounds.EdgesFit ∧ monitor.workArea.EdgesFit) →
      LandsOnScreen frame capturedMonitorId capturedMonitors currentMonitors := by
  intro h
  have hlands := h farFrame (str "dp-1") [deskMonitor] [deskMonitor] (by decide) (by decide)
    (by decide) (by decide)
  obtain ⟨-, monitor, hmonitor, -, hinside⟩ := hlands.visible
  rw [List.mem_singleton.mp hmonitor] at hinside
  revert hinside
  decide

end ContextSnap.Geometry
