import ContextSnap.Proof.PlacedFrames
import ContextSnap.Proof.RestoreExecution

/-!
# Overflows during a restore

The rectangles of a snapshot and of the platform go into two functions: a saved frame is compared
with those of live windows, and it is clamped to the work areas. Nothing checks them before. What is
said here is which rectangles stay in range, and that a restore does so if all its calls do.
-/

namespace ContextSnap

/-- Far enough from both ends of the range, and not larger than screens are. -/
structure Rect.Small (r : Rect) : Prop where
  x : -2 ^ 30 ≤ r.x.toInt ∧ r.x.toInt ≤ 2 ^ 30
  y : -2 ^ 30 ≤ r.y.toInt ∧ r.y.toInt ≤ 2 ^ 30
  width : 0 ≤ r.width.toInt ∧ r.width.toInt < 2 ^ 15
  height : 0 ≤ r.height.toInt ∧ r.height.toInt < 2 ^ 15

theorem edgeOps_inRange_iff {r : Rect} : (∀ op ∈ r.edgeOps, op.InRange) ↔ r.EdgesFit := by
  simp [Rect.edgeOps, Rect.EdgesFit]

section Intersection

variable {a b : Rect}

/-- With its edges in range, an intersection is. -/
theorem intersectionOps_inRange_iff :
    (∀ op ∈ intersectionOps a b, op.InRange) ↔ a.EdgesFit ∧ b.EdgesFit := by
  rw [intersectionOps, List.forall_mem_append, List.forall_mem_append, edgeOps_inRange_iff,
    edgeOps_inRange_iff, and_iff_left_iff_imp]
  rintro ⟨ha, hb⟩
  by_cases hnone : min a.right b.right ≤ max a.left b.left ∨ min a.bottom b.bottom ≤ max a.top b.top
  · rw [if_pos hnone]
    exact fun op hop => absurd hop List.not_mem_nil
  · have hright := ha.toInt_min_right hb
    have hbottom := ha.toInt_min_bottom hb
    rw [if_neg hnone]
    rw [not_or, Int32.not_le, Int32.not_le, Int32.lt_iff_toInt_lt, Int32.lt_iff_toInt_lt, hright,
      hbottom, Rect.toInt_max_left, Rect.toInt_max_top] at hnone
    have hacross := (Rect.sub_inRange_iff hright (Rect.toInt_max_left a b) a.width.toInt_lt).mpr
      (by omega)
    have hdown := (Rect.sub_inRange_iff hbottom (Rect.toInt_max_top a b) a.height.toInt_lt).mpr
      (by omega)
    exact List.forall_mem_cons.mpr ⟨hacross, List.forall_mem_singleton.mpr hdown⟩

/-- The squares under the diagonal. -/
theorem squares_inRange_iff {width height : Int32} :
    (∀ op ∈ [Int32Op.mul width width, .mul height height,
        .add (width * width) (height * height)], op.InRange)
      ↔ width.toInt ^ 2 + height.toInt ^ 2 < 2 ^ 31 := by
  have hwidth := sq_nonneg width.toInt
  have hheight := sq_nonneg height.toInt
  simp only [List.forall_mem_cons, List.not_mem_nil, false_imp_iff, implies_true, and_true]
  constructor
  · rintro ⟨hw, hh, hsum⟩
    have hexact := hsum.2
    have hw' : (width * width).toInt = width.toInt * width.toInt := Int32Op.toInt_value hw
    have hh' : (height * height).toInt = height.toInt * height.toInt := Int32Op.toInt_value hh
    rwa [Int32Op.exact, hw', hh', ← sq, ← sq] at hexact
  · intro hsum
    have hw : (Int32Op.mul width width).InRange := by
      rw [Int32Op.InRange, Int32Op.exact, ← sq]
      omega
    have hh : (Int32Op.mul height height).InRange := by
      rw [Int32Op.InRange, Int32Op.exact, ← sq]
      omega
    have hw' : (width * width).toInt = width.toInt * width.toInt := Int32Op.toInt_value hw
    have hh' : (height * height).toInt = height.toInt * height.toInt := Int32Op.toInt_value hh
    refine ⟨hw, hh, ?_⟩
    rw [Int32Op.InRange, Int32Op.exact, hw', hh', ← sq, ← sq]
    omega

end Intersection

namespace Restore

open Greedy (IsFirstBest)

/-! ### Calls -/

/-- A call with rectangles that nothing has checked. -/
inductive GeometryCall where
  | proximity (a b : Rect)
  | placement (frame : Rect) (monitors : List MonitorInfo)

def GeometryCall.ops : GeometryCall → List Int32Op
  | .proximity a b => Matching.proximityOps a b
  | .placement frame monitors => placementOps frame monitors

/-- Two frames that are not empty have their edges in range, and the first one has a diagonal whose
square is. -/
def ProximityFits (a b : Rect) : Prop :=
  a.empty = false → b.empty = false → (a.EdgesFit ∧ b.EdgesFit)
    ∧ (¬Matching.unionArea a b ≤ 0.0 → a.width.toInt ^ 2 + a.height.toInt ^ 2 < 2 ^ 31)

/-- The frame and the work area have their edges in range, and are not too far apart. -/
def OverlapFits (frame workArea : Rect) : Prop :=
  (frame.EdgesFit ∧ workArea.EdgesFit)
    ∧ -2 ^ 31 ≤ min frame.across.stop workArea.across.stop
        - max frame.across.start workArea.across.start
    ∧ -2 ^ 31 ≤ min frame.down.stop workArea.down.stop
        - max frame.down.start workArea.down.start

/-- Nothing of a negative size is taken from the edges of the area. -/
def PlaceFits (frame workArea : Rect) : Prop :=
  workArea.across.stop - min frame.across.size workArea.across.size < 2 ^ 31
    ∧ workArea.down.stop - min frame.down.size workArea.down.size < 2 ^ 31

def PlacementFits (frame : Rect) (monitors : List MonitorInfo) : Prop :=
  (∀ monitor ∈ monitors, OverlapFits frame monitor.workArea)
    ∧ ∀ target, IsFirstBest (fun monitor => frame.sharedArea monitor.workArea) monitors target →
      PlaceFits frame target.workArea

def GeometryCall.Fits : GeometryCall → Prop
  | .proximity a b => ProximityFits a b
  | .placement frame monitors => PlacementFits frame monitors

section Fits

variable {a b frame workArea : Rect} {monitors : List MonitorInfo}

theorem proximityOps_inRange_iff :
    (∀ op ∈ Matching.proximityOps a b, op.InRange) ↔ ProximityFits a b := by
  rw [Matching.proximityOps, ProximityFits]
  cases ha : a.empty with
  | true => simp
  | false =>
      cases hb : b.empty with
      | true => simp
      | false =>
          rw [if_neg (by simp), List.forall_mem_append, intersectionOps_inRange_iff]
          simp only [true_imp_iff]
          refine and_congr_right fun _ => ?_
          by_cases hunion : Matching.unionArea a b ≤ 0.0
          · simp [hunion]
          · rw [if_neg hunion, squares_inRange_iff]
            simp only [hunion, not_false_eq_true, true_imp_iff]

theorem overlapOps_inRange_iff :
    (∀ op ∈ overlapOps frame workArea, op.InRange) ↔ OverlapFits frame workArea := by
  rw [overlapOps, List.forall_mem_append, List.forall_mem_append, edgeOps_inRange_iff,
    edgeOps_inRange_iff, OverlapFits]
  refine and_congr_right fun h => ?_
  obtain ⟨hframe, harea⟩ := h
  rw [List.forall_mem_cons, List.forall_mem_singleton,
    Rect.sub_inRange_iff (hframe.toInt_min_right harea) (Rect.toInt_max_left _ _)
      frame.width.toInt_lt,
    Rect.sub_inRange_iff (hframe.toInt_min_bottom harea) (Rect.toInt_max_top _ _)
      frame.height.toInt_lt]

/-- One direction of `PlaceFits`. -/
theorem sub_min_inRange_iff {stop size room : Int32} {s t : Span ℤ} (hstop : stop.toInt = t.stop)
    (hsize : size.toInt = s.size) (hroom : room.toInt = t.size) (hstart : -2 ^ 31 ≤ t.start) :
    (Int32Op.sub stop (min size room)).InRange ↔ t.stop - min s.size t.size < 2 ^ 31 := by
  have hlow : -2 ^ 31 ≤ t.stop - min s.size t.size := by
    have hmin : min s.size t.size ≤ t.size := min_le_right _ _
    rw [Span.stop]
    omega
  rw [Int32Op.InRange, Int32Op.exact, toInt_min, hstop, hsize, hroom]
  exact and_iff_right hlow

theorem placeOps_inRange_iff (h : workArea.EdgesFit) :
    (∀ op ∈ [Int32Op.sub workArea.right (min frame.width workArea.width),
        .sub workArea.bottom (min frame.height workArea.height)], op.InRange)
      ↔ PlaceFits frame workArea := by
  rw [List.forall_mem_cons, List.forall_mem_singleton, PlaceFits]
  exact and_congr (sub_min_inRange_iff (s := frame.across) h.right rfl rfl workArea.x.le_toInt)
    (sub_min_inRange_iff (s := frame.down) h.bottom rfl rfl workArea.y.le_toInt)

theorem placementOps_inRange_iff :
    (∀ op ∈ placementOps frame monitors, op.InRange) ↔ PlacementFits frame monitors := by
  cases monitors with
  | nil => simp [placementOps, PlacementFits, IsFirstBest]
  | cons front rest =>
      rw [placementOps, List.forall_mem_append, List.forall_mem_append, PlacementFits, and_assoc]
      have hoverlaps : (∀ op ∈ (front :: rest).flatMap fun monitor =>
            overlapOps frame monitor.workArea, op.InRange)
          ↔ ∀ monitor ∈ front :: rest, OverlapFits frame monitor.workArea := by
        simp only [List.forall_mem_flatMap, overlapOps_inRange_iff]
      rw [hoverlaps]
      refine and_congr_right fun hfits => ?_
      have htarget := clampTarget_isFirstBest fun monitor hmonitor =>
        overlapOps_inRange_iff.mpr (hfits monitor hmonitor)
      have hedges := (hfits _ htarget.mem).1.2
      rw [edgeOps_inRange_iff, and_iff_right hedges, placeOps_inRange_iff hedges]
      constructor
      · intro h target hother
        rwa [hother.eq htarget]
      · exact fun h => h _ htarget

theorem GeometryCall.ops_inRange_iff (call : GeometryCall) :
    (∀ op ∈ call.ops, op.InRange) ↔ call.Fits := by
  cases call with
  | proximity a b => exact proximityOps_inRange_iff
  | placement frame monitors => exact placementOps_inRange_iff

end Fits

/-! ### Small rectangles -/

def GeometryCall.rects : GeometryCall → List Rect
  | .proximity a b => [a, b]
  | .placement frame monitors => frame :: monitors.map (·.workArea)

section Small

variable {a b frame workArea : Rect} {monitors : List MonitorInfo}

theorem edgesFit_of_small {r : Rect} (h : r.Small) : r.EdgesFit := by
  obtain ⟨hx, hy, hwidth, hheight⟩ := h
  constructor <;> simp only [Int32Op.InRange, Int32Op.exact] <;> omega

theorem proximityFits_of_small (ha : a.Small) (hb : b.Small) : ProximityFits a b := by
  refine fun _ _ => ⟨⟨edgesFit_of_small ha, edgesFit_of_small hb⟩, fun _ => ?_⟩
  have hwidth : a.width.toInt ^ 2 < (2 ^ 15) ^ 2 :=
    pow_lt_pow_left₀ ha.width.2 ha.width.1 two_ne_zero
  have hheight : a.height.toInt ^ 2 < (2 ^ 15) ^ 2 :=
    pow_lt_pow_left₀ ha.height.2 ha.height.1 two_ne_zero
  omega

/-- One direction of two small rectangles. -/
theorem spans_of_small {s t : Span ℤ} (hs : -2 ^ 30 ≤ s.start ∧ s.start ≤ 2 ^ 30)
    (ht : -2 ^ 30 ≤ t.start ∧ t.start ≤ 2 ^ 30) (hs' : 0 ≤ s.size ∧ s.size < 2 ^ 15)
    (ht' : 0 ≤ t.size ∧ t.size < 2 ^ 15) :
    -2 ^ 31 ≤ min s.stop t.stop - max s.start t.start ∧ t.stop - min s.size t.size < 2 ^ 31 := by
  simp only [Span.stop]
  omega

theorem placementFits_of_small (hframe : frame.Small)
    (hmonitors : ∀ monitor ∈ monitors, monitor.workArea.Small) : PlacementFits frame monitors := by
  have hspans : ∀ monitor ∈ monitors, _ ∧ _ := fun monitor hmonitor =>
    have hsmall := hmonitors monitor hmonitor
    And.intro (spans_of_small (s := frame.across) (t := monitor.workArea.across) hframe.x hsmall.x
        hframe.width hsmall.width)
      (spans_of_small (s := frame.down) (t := monitor.workArea.down) hframe.y hsmall.y
        hframe.height hsmall.height)
  constructor
  · intro monitor hmonitor
    obtain ⟨hacross, hdown⟩ := hspans monitor hmonitor
    exact ⟨⟨edgesFit_of_small hframe, edgesFit_of_small (hmonitors monitor hmonitor)⟩,
      hacross.1, hdown.1⟩
  · intro target htarget
    obtain ⟨hacross, hdown⟩ := hspans target htarget.mem
    exact ⟨hacross.2, hdown.2⟩

theorem GeometryCall.fits_of_small {call : GeometryCall} (h : ∀ r ∈ call.rects, r.Small) :
    call.Fits := by
  cases call with
  | proximity a b => exact proximityFits_of_small (h a (by simp [rects])) (h b (by simp [rects]))
  | placement frame monitors =>
      exact placementFits_of_small (h frame (by simp [rects])) fun monitor hmonitor =>
        h _ (List.mem_cons_of_mem _ (List.mem_map_of_mem hmonitor))

end Small

/-! ### The calls of a restore -/

section Comparisons

variable (saved : WindowInfo) (live : List WindowInfo) (alreadyUsed : List UInt64)

/-- The live windows that are compared with a saved one. -/
def compared : List WindowInfo :=
  live.filter fun candidate => candidate.nativeHandle ∉ alreadyUsed
    ∧ Matching.normalizeAppId candidate.process.appId
      = Matching.normalizeAppId saved.process.appId

def comparisons : List GeometryCall :=
  (compared saved live alreadyUsed).map fun candidate => .proximity saved.frame candidate.frame

/-- No other window is scored. -/
theorem foldl_compared (best : Option WindowInfo × Float) :
    live.foldl (considerCandidate saved alreadyUsed) best
      = (compared saved live alreadyUsed).foldl (fun best candidate =>
          if best.2 < matchScore saved candidate then (some candidate, matchScore saved candidate)
          else best) best := by
  rw [compared, List.foldl_filter]
  congr
  funext best candidate
  rw [considerCandidate]
  by_cases hused : candidate.nativeHandle ∈ alreadyUsed
  · simp [hused]
  · by_cases happ : Matching.normalizeAppId candidate.process.appId
        = Matching.normalizeAppId saved.process.appId
    · simp [hused, happ]
    · simp [hused, happ]

end Comparisons

/-- The comparisons of the planner. -/
def planCalls (capabilities : Hal.Capabilities) (options : RestoreOptions)
    (live : List WindowInfo) : Planner → List WindowInfo → List GeometryCall
  | _, [] => []
  | planner, window :: rest =>
      (if selectorMatches window options.selectors then comparisons window live planner.used
        else [])
        ++ planCalls capabilities options live
          (planWindow capabilities options live planner window) rest

/-- The comparisons of the executor before its first step. -/
def prematchCalls (live : List WindowInfo) :
    Handles × List UInt64 → List WindowInfo → List GeometryCall
  | _, [] => []
  | state, window :: rest =>
      comparisons window live state.2 ++ prematchCalls live (prematchWindow live state window) rest

/-- What a step of the executor clamps. -/
def moveCalls (context : Context) (state : Execution) (current : RestoreStep) :
    List GeometryCall :=
  if current.skipped = true ∨ current.kind ≠ .moveWindow then []
  else
    match context.snapshot.findWindow current.targetId, state.handles current.targetId with
    | some saved, some _ => [.placement saved.restoredFrame context.monitors]
    | _, _ => []

/-- The frame that a call to the platform carries. -/
def frameOf : Hal.Op → Option Rect
  | .setFrame _ frame => some frame
  | _ => none

def GeometryCall.placed : GeometryCall → Option Rect
  | .proximity _ _ => none
  | .placement frame monitors => some (clampToMonitors frame monitors)

section Run

variable {σ : Type} (handler : (op : Hal.Op) → σ → Hal.Answer op × σ)

theorem trace_of_ask {op : Hal.Op} {next : Hal.Answer op → Hal.Call Execution}
    (h : ∀ answer, ∃ after, next answer = .done after) (s : σ) :
    ((Program.ask op next).trace handler s).1 = [⟨op, (handler op s).1⟩] := by
  obtain ⟨after, hafter⟩ := h (handler op s).1
  rw [Program.trace_ask, hafter]
  rfl

/-- The frames that a step passes to the platform are the ones it clamps. -/
theorem executeStep_frames (context : Context) (state : Execution) (current : RestoreStep) (s : σ) :
    ((executeStep context state current).trace handler s).1.filterMap
        (fun event => frameOf event.op)
      = (moveCalls context state current).filterMap GeometryCall.placed := by
  by_cases hother : current.skipped = true ∨ current.kind ≠ .moveWindow
  · rw [moveCalls, if_pos hother, List.filterMap_nil, List.filterMap_eq_nil_iff]
    intro event hevent
    obtain ⟨hactive, hkind⟩ := (executeStep_effect handler context state current s).carries hevent
    cases hframe : frameOf event.op with
    | none => rfl
    | some frame =>
        have hmove : stepOf event.op = some .moveWindow := by
          revert hframe
          cases event.op <;> simp [frameOf, stepOf]
        rcases hother with hskip | hne
        · rw [hskip] at hactive
          cases hactive
        · exact absurd (Option.some.inj (hkind.symm.trans hmove)) hne
  · obtain ⟨hskip, hkind⟩ := not_or.mp hother
    rw [not_not] at hkind
    rw [moveCalls, if_neg hother, executeStep, if_neg hskip]
    simp only [hkind]
    cases context.snapshot.findWindow current.targetId with
    | none => rfl
    | some saved =>
        cases state.handles current.targetId with
        | none => rfl
        | some handle =>
            refine congrArg (List.filterMap _) (trace_of_ask handler ?_ s)
            rintro (e | _)
            · exact ⟨_, rfl⟩
            · exact ⟨_, rfl⟩

variable (platform : Hal.Platform) (saved : Snapshot) (options : RestoreOptions) (bridge : Bool)
  (s : σ)

/-- The live windows that the planner finds. -/
def planningWindows : Result (List WindowInfo) :=
  (handler (.enumerateWindows probe) (handler .enumerateDisplays s).2).1

/-- The plan, and the environment behind it. -/
def planned : RestorePlan × σ := ((planRestore platform saved options).trace handler s).2

/-- All calls of planning a restore and executing the plan. -/
def restoreCalls : List GeometryCall :=
  let plan := planned handler platform saved options s
  planCalls platform.capabilities options ((planningWindows handler s).toOption.getD []) {}
      saved.windows
    ++ prematchCalls ((shownWindows handler plan.2).toOption.getD []) (fun _ => none, [])
      saved.windows
    ++ (planRounds handler plan.2 saved plan.1 options bridge).flatMap fun round =>
      moveCalls (executorContext handler plan.2 saved options bridge) round.before round.item

theorem planRestore_trace :
    (planRestore platform saved options).trace handler s
      = let displays := handler .enumerateDisplays s
        ([⟨.enumerateDisplays, displays.1⟩,
            ⟨.enumerateWindows probe, planningWindows handler s⟩],
          planFor platform saved options displays.1 (planningWindows handler s),
          (handler (.enumerateWindows probe) displays.2).2) := rfl

/-- **No overflow** in a restore exactly if the rectangles of every call fit. -/
theorem restoreCalls_inRange_iff :
    (∀ call ∈ restoreCalls handler platform saved options bridge s, ∀ op ∈ call.ops, op.InRange)
      ↔ ∀ call ∈ restoreCalls handler platform saved options bridge s, call.Fits :=
  forall₂_congr fun call _ => call.ops_inRange_iff

/-! Where the rectangles come from. -/

theorem rects_comparisons {window : WindowInfo} {live : List WindowInfo} {used : List UInt64}
    {call : GeometryCall} (h : call ∈ comparisons window live used) {r : Rect}
    (hr : r ∈ call.rects) :
    r = window.frame ∨ ∃ candidate ∈ live, r = candidate.frame := by
  obtain ⟨candidate, hcandidate, rfl⟩ := List.mem_map.mp h
  rcases List.mem_pair.mp hr with rfl | rfl
  · exact .inl rfl
  · exact .inr ⟨candidate, List.mem_of_mem_filter hcandidate, rfl⟩

theorem rects_planCalls {capabilities : Hal.Capabilities} {options : RestoreOptions}
    {live windows : List WindowInfo} {planner : Planner} {call : GeometryCall}
    (h : call ∈ planCalls capabilities options live planner windows) {r : Rect}
    (hr : r ∈ call.rects) :
    (∃ window ∈ windows, r = window.frame) ∨ ∃ candidate ∈ live, r = candidate.frame := by
  induction windows generalizing planner with
  | nil => exact absurd h List.not_mem_nil
  | cons window rest ih =>
      rcases List.mem_append.mp h with hfirst | hrest
      · have hmem : call ∈ comparisons window live planner.used := by
          split at hfirst
          · exact hfirst
          · exact absurd hfirst List.not_mem_nil
        exact (rects_comparisons hmem hr).imp_left fun heq => ⟨window, List.mem_cons_self .., heq⟩
      · refine (ih hrest).imp_left fun ⟨other, hother, heq⟩ => ?_
        exact ⟨other, List.mem_cons_of_mem _ hother, heq⟩

theorem rects_prematchCalls {live windows : List WindowInfo} {state : Handles × List UInt64}
    {call : GeometryCall} (h : call ∈ prematchCalls live state windows) {r : Rect}
    (hr : r ∈ call.rects) :
    (∃ window ∈ windows, r = window.frame) ∨ ∃ candidate ∈ live, r = candidate.frame := by
  induction windows generalizing state with
  | nil => exact absurd h List.not_mem_nil
  | cons window rest ih =>
      rcases List.mem_append.mp h with hfirst | hrest
      · exact (rects_comparisons hfirst hr).imp_left fun heq => ⟨window, List.mem_cons_self .., heq⟩
      · refine (ih hrest).imp_left fun ⟨other, hother, heq⟩ => ?_
        exact ⟨other, List.mem_cons_of_mem _ hother, heq⟩

theorem rects_moveCalls {context : Context} {state : Execution} {current : RestoreStep}
    {call : GeometryCall} (h : call ∈ moveCalls context state current) {r : Rect}
    (hr : r ∈ call.rects) :
    (∃ window ∈ context.snapshot.windows, r = window.restoredFrame)
      ∨ ∃ monitor ∈ context.monitors, r = monitor.workArea := by
  rw [moveCalls] at h
  split at h
  · exact absurd h List.not_mem_nil
  · split at h
    case _ saved handle hsaved hhandle =>
      rw [List.mem_singleton.mp h] at hr
      rcases List.mem_cons.mp hr with rfl | hr
      · exact .inl ⟨saved, List.mem_of_find?_eq_some hsaved, rfl⟩
      · obtain ⟨monitor, hmonitor, rfl⟩ := List.mem_map.mp hr
        exact .inr ⟨monitor, hmonitor, rfl⟩
    case _ => exact absurd h List.not_mem_nil

variable {handler platform saved options bridge s} in
/-- Small rectangles all around are enough. -/
theorem restoreCalls_inRange_of_small
    (hsaved : ∀ window ∈ saved.windows, window.frame.Small ∧ window.restoredFrame.Small)
    (hplanning : ∀ window ∈ (planningWindows handler s).toOption.getD [], window.frame.Small)
    (hshown : ∀ window ∈ (shownWindows handler
      (planned handler platform saved options s).2).toOption.getD [], window.frame.Small)
    (hmonitors : ∀ monitor ∈ (executorContext handler (planned handler platform saved options s).2
      saved options bridge).monitors, monitor.workArea.Small) :
    ∀ call ∈ restoreCalls handler platform saved options bridge s,
      ∀ op ∈ call.ops, op.InRange := by
  intro call hcall
  refine call.ops_inRange_iff.mpr (GeometryCall.fits_of_small fun r hr => ?_)
  rcases List.mem_append.mp hcall with hcall | hmove
  · rcases List.mem_append.mp hcall with hplan | hprematch
    · rcases rects_planCalls hplan hr with ⟨window, hwindow, rfl⟩ | ⟨window, hwindow, rfl⟩
      · exact (hsaved window hwindow).1
      · exact hplanning window hwindow
    · rcases rects_prematchCalls hprematch hr with ⟨window, hwindow, rfl⟩ | ⟨window, hwindow, rfl⟩
      · exact (hsaved window hwindow).1
      · exact hshown window hwindow
  · obtain ⟨round, -, hround⟩ := List.mem_flatMap.mp hmove
    rcases rects_moveCalls hround hr with ⟨window, hwindow, rfl⟩ | ⟨monitor, hmonitor, rfl⟩
    · exact (hsaved window hwindow).2
    · exact hmonitors monitor hmonitor

end Run

/-! ### A window at the edge of the range -/

def edgeWindow : WindowInfo := { frame := { x := 2147483647, width := 1, height := 1 } }

/-- The right edge of the frame is one too far. -/
theorem not_restoreCalls_inRange :
    ¬∀ (platform : Hal.Platform) (saved : Snapshot) (options : RestoreOptions) (bridge : Bool)
      (handler : (op : Hal.Op) → Unit → Hal.Answer op × Unit),
      ∀ call ∈ restoreCalls handler platform saved options bridge (),
        ∀ op ∈ call.ops, op.InRange := by
  intro h
  have hcall : GeometryCall.proximity edgeWindow.frame edgeWindow.frame
      ∈ comparisons edgeWindow [edgeWindow] [] := List.mem_singleton.mpr rfl
  have hops := h {} { windows := [edgeWindow] } {} false (obliging (.ok [edgeWindow])) _
    (List.mem_append_left _ (List.mem_append_left _ (List.mem_append_left _ hcall)))
  have hfits := (proximityOps_inRange_iff.mp hops (by decide) (by decide)).1
  revert hfits
  decide

end Restore

end ContextSnap
