import ContextSnap.Proof.HeadlessSteps
import ContextSnap.Proof.RestoreHandles
import ContextSnap.Proof.RestoreStacking

/-!
# Restoring on the null platform

Plan and executor are run against a desktop in memory, and what they make of it is computed: the
windows that are driven end where the snapshot has them, nothing else moves, and the report counts
what was done.
-/

namespace ContextSnap.Restore

open Hal (Capabilities NullPlatformState onNullPlatform)
open Hal.NullPlatformState

/-! ### What the planner decides, window by window -/

section Decided

variable (options : RestoreOptions) (live : List WindowInfo)

/-- The selected windows, with whether the planner found a live one. -/
def decided : List WindowInfo → List UInt64 → List (WindowInfo × Bool)
  | [], _ => []
  | window :: windows, used =>
      if selectorMatches window options.selectors then
        let found := bestLiveMatch window live used
        (window, found.isSome) :: decided windows (used ++ (found.map (·.nativeHandle)).toList)
      else decided windows used

theorem foldl_planWindow_decided (capabilities : Capabilities) (windows : List WindowInfo)
    (planner : Planner) :
    (windows.foldl (planWindow capabilities options live) planner).steps
      = planner.steps ++ (decided options live windows planner.used).flatMap
          fun item => windowSteps capabilities options item.1 item.2 := by
  induction windows generalizing planner with
  | nil => exact (List.append_nil _).symm
  | cons window windows ih =>
      rw [List.foldl_cons, ih, planWindow, decided]
      by_cases h : selectorMatches window options.selectors = true
      · rw [if_pos h, if_pos h, List.flatMap_cons, List.append_assoc]
      · rw [if_neg h, if_neg h]

theorem map_decided (windows : List WindowInfo) (used : List UInt64) :
    (decided options live windows used).map (·.1)
      = windows.filter (selectorMatches · options.selectors) := by
  induction windows generalizing used with
  | nil => rfl
  | cons window windows ih =>
      rw [decided]
      by_cases h : selectorMatches window options.selectors = true
      · rw [if_pos h, List.map_cons, ih, List.filter_cons, if_pos h]
      · rw [if_neg h, ih, List.filter_cons, if_neg h]

theorem decided_sublist (windows : List WindowInfo) (used : List UInt64) :
    ((decided options live windows used).map (·.1)).Sublist windows := by
  rw [map_decided]
  exact List.filter_sublist

theorem mem_decided_used {item : WindowInfo × Bool} {windows : List WindowInfo}
    {used : List UInt64} :
    item ∈ decided options live windows used
      ↔ ∃ before behind, windows = before ++ item.1 :: behind
        ∧ selectorMatches item.1 options.selectors = true
        ∧ item.2 = (bestLiveMatch item.1 live (taken live
            (before.filter (selectorMatches · options.selectors)) used)).isSome := by
  induction windows generalizing used with
  | nil => simp [decided]
  | cons window windows ih =>
      rw [decided]
      by_cases h : selectorMatches window options.selectors = true
      · rw [if_pos h]
        constructor
        · intro hmem
          rcases List.mem_cons.mp hmem with rfl | hmem
          · exact ⟨[], windows, rfl, h, rfl⟩
          · obtain ⟨before, behind, rfl, hsel, hitem⟩ := ih.mp hmem
            refine ⟨window :: before, behind, rfl, hsel, ?_⟩
            rw [List.filter_cons, if_pos h]
            exact hitem
        · rintro ⟨before, behind, hsplit, hsel, hitem⟩
          rcases List.cons_eq_append_iff.mp hsplit with ⟨rfl, hhead⟩ | ⟨before, rfl, rfl⟩
          · obtain ⟨rfl, rfl⟩ := List.cons_eq_cons.mp hhead
            exact List.mem_cons.mpr (.inl (Prod.ext rfl hitem))
          · rw [List.filter_cons, if_pos h] at hitem
            exact List.mem_cons_of_mem _ (ih.mpr ⟨before, behind, rfl, hsel, hitem⟩)
      · rw [if_neg h]
        refine ih.trans ⟨?_, ?_⟩
        · rintro ⟨before, behind, rfl, hsel, hitem⟩
          refine ⟨window :: before, behind, rfl, hsel, ?_⟩
          rw [List.filter_cons, if_neg h]
          exact hitem
        · rintro ⟨before, behind, hsplit, hsel, hitem⟩
          rcases List.cons_eq_append_iff.mp hsplit with ⟨rfl, hhead⟩ | ⟨before, rfl, rfl⟩
          · obtain ⟨rfl, rfl⟩ := List.cons_eq_cons.mp hhead
            exact absurd hsel h
          · rw [List.filter_cons, if_neg h] at hitem
            exact ⟨before, behind, rfl, hsel, hitem⟩

variable {options live} in
/-- The decisions are those of the planner. -/
theorem mem_decided {platform : Hal.Platform} {saved : Snapshot} {item : WindowInfo × Bool} :
    item ∈ decided options live saved.windows []
      ↔ ∃ front found, Planned platform saved options live front item.1 found
        ∧ item.2 = found.isSome := by
  rw [mem_decided_used]
  constructor
  · rintro ⟨front, back, hsplit, hsel, hitem⟩
    refine ⟨front, _, ⟨⟨back, hsplit⟩, hsel, ?_⟩, hitem⟩
    rw [planWindows, planWindows_used]
  · rintro ⟨front, found, ⟨⟨back, hsplit⟩, hsel, hchoice⟩, hitem⟩
    rw [planWindows, planWindows_used] at hchoice
    exact ⟨front, back, hsplit, hsel, hchoice ▸ hitem⟩

end Decided

section Steps

variable {τ : Type} {others : (op : Hal.Op) → τ → Hal.Answer op × τ} {context : Context}
  {handles : Handles} {s : NullPlatformState}

/-! ### The loop over the windows -/

section Windows

variable (context handles) in
/-- The native window that the steps for a saved one drive. -/
def target (item : WindowInfo × Bool) : Option (WindowInfo × UInt64) :=
  if item.2 ∨ context.options.launchMissingApps then (handles item.1.id).map (item.1, ·) else none

variable (context) in
def launchesFor (item : WindowInfo × Bool) : Bool :=
  !item.2 && context.options.launchMissingApps

variable (context handles) in
def driven (items : List (WindowInfo × Bool)) : List (WindowInfo × UInt64) :=
  items.filterMap (target context handles)

variable (context) in
/-- What becomes of a native window, which is driven for at most one saved one. -/
def arranged (pairs : List (WindowInfo × UInt64)) (native : WindowInfo) : WindowInfo :=
  match pairs.find? fun pair => pair.2 = native.nativeHandle with
  | some pair => settled context pair.1 native
  | none => native

variable (context handles) in
def afterWindows (items : List (WindowInfo × Bool)) (s : NullPlatformState) : NullPlatformState :=
  { s with
    windows := s.windows.map (arranged context (driven context handles items))
    nextPid := s.nextPid + .ofNat (items.countP (launchesFor context)) }

variable (context handles) in
/-- The desktop behind the steps for one window. -/
def afterWindow (item : WindowInfo × Bool) (s : NullPlatformState) : NullPlatformState :=
  let launched := { s with nextPid := s.nextPid + if launchesFor context item then 1 else 0 }
  match target context handles item with
  | some pair => launched.changing pair.2 (settled context pair.1)
  | none => launched

theorem identity_arranged (pairs : List (WindowInfo × UInt64)) (native : WindowInfo) :
    identity (arranged context pairs native) = identity native := by
  unfold arranged
  split <;> rfl

theorem identity_afterWindows (items : List (WindowInfo × Bool)) :
    (afterWindows context handles items s).windows.map identity = s.windows.map identity := by
  rw [afterWindows, List.map_map]
  exact List.map_congr_left fun native _ => identity_arranged ..

/-- One more window that is driven. -/
theorem changing_arranged {pairs : List (WindowInfo × UInt64)} {pair : WindowInfo × UInt64}
    (hhandles : (s.windows.map (·.nativeHandle)).Nodup) (hfresh : pair.2 ∉ pairs.map (·.2)) :
    changed (s.windows.map (arranged context pairs)) pair.2 (settled context pair.1)
      = s.windows.map (arranged context (pairs ++ [pair])) := by
  have hnative : ∀ native, (arranged context pairs native).nativeHandle = native.nativeHandle :=
    fun native => nativeHandle_of_identity (identity_arranged pairs native)
  rw [changed_eq_map (by rwa [List.map_map, Function.comp_def, funext hnative]), List.map_map]
  congr 1
  funext native
  rw [Function.comp_apply, hnative, arranged, arranged, List.find?_append]
  by_cases h : native.nativeHandle = pair.2
  · have hnone : pairs.find? (fun other => other.2 = native.nativeHandle) = none := by
      rw [List.find?_eq_none]
      intro other hother heq
      exact hfresh (List.mem_map.mpr ⟨other, hother, (of_decide_eq_true heq).trans h⟩)
    rw [if_pos h, hnone, Option.none_or, List.find?_singleton, if_pos (decide_eq_true h.symm)]
  · have hlast : [pair].find? (fun other => other.2 = native.nativeHandle) = none := by
      rw [List.find?_singleton, if_neg]
      exact fun heq => h (of_decide_eq_true heq).symm
    rw [if_neg h, hlast, Option.or_none]

theorem driven_append (items : List (WindowInfo × Bool)) (item : WindowInfo × Bool) :
    driven context handles (items ++ [item])
      = driven context handles items ++ (target context handles item).toList := by
  rw [driven, driven, List.filterMap_append, List.filterMap_cons, List.filterMap_nil]
  cases target context handles item <;> rfl

theorem afterWindow_afterWindows {items : List (WindowInfo × Bool)} {item : WindowInfo × Bool}
    (hhandles : (s.windows.map (·.nativeHandle)).Nodup)
    (hfresh : ((driven context handles (items ++ [item])).map (·.2)).Nodup) :
    afterWindow context handles item (afterWindows context handles items s)
      = afterWindows context handles (items ++ [item]) s := by
  have hpid : s.nextPid + .ofNat (items.countP (launchesFor context))
        + (if launchesFor context item then 1 else 0)
      = s.nextPid + .ofNat ((items ++ [item]).countP (launchesFor context)) := by
    rw [List.countP_append, List.countP_singleton, UInt64.ofNat_add, UInt64.add_assoc]
    split <;> rfl
  rw [driven_append] at hfresh
  unfold afterWindow
  rw [afterWindows, afterWindows, driven_append]
  dsimp only
  rw [hpid]
  cases htarget : target context handles item with
  | none => rw [Option.toList_none, List.append_nil]
  | some pair =>
      rw [htarget, Option.toList_some, List.map_append, List.nodup_append] at hfresh
      have hpair : pair.2 ∉ (driven context handles items).map (·.2) :=
        fun hmem => hfresh.2.2 _ hmem _ (List.mem_map_of_mem (List.mem_singleton_self pair)) rfl
      rw [Option.toList_some, ← changing_arranged hhandles hpair]
      rfl

/-- What the steps for one window count. -/
def countOf (context : Context) (handles : Handles) (items : List (WindowInfo × Bool)) :
    ℕ × ℕ × ℕ :=
  ((driven context handles items).length, items.countP (launchesFor context),
    items.countP (launchesFor context))

variable {desktop : NullPlatformState}

/-- The steps that place a window, whether it has a native one or not. -/
theorem does_placing {window : WindowInfo} (hdesktop : desktop.allowMutation = true)
    (hnamed : Named context window) (hmutable : s.allowMutation = true)
    (hmem : ∀ handle ∈ handles window.id, handle ∈ s.windows.map (·.nativeHandle)) :
    Does others context handles (placeSteps desktop.capabilities context.options window) s
      (((handles window.id).map (window, ·)).toList.length, 0, 0)
      (match (handles window.id).map (window, ·) with
        | some pair => s.changing pair.2 (settled context pair.1)
        | none => s) := by
  cases hhandle : handles window.id with
  | none => exact does_placeNothing hdesktop hnamed hhandle
  | some handle => exact does_place hdesktop hnamed hhandle hmutable (hmem handle hhandle)

theorem does_window {item : WindowInfo × Bool} (hdesktop : desktop.allowMutation = true)
    (hnamed : Named context item.1) (hmutable : s.allowMutation = true)
    (hmem : ∀ pair ∈ target context handles item, pair.2 ∈ s.windows.map (·.nativeHandle))
    (hpid : s.nextPid + 1 ≠ 0) (hfree : ∀ native ∈ s.windows, native.process.pid ≠ s.nextPid + 1) :
    Does others context handles
      (windowSteps desktop.capabilities context.options item.1 item.2) s
      (countOf context handles [item]) (afterWindow context handles item s) := by
  obtain ⟨window, matched⟩ := item
  have hdriven : driven context handles [(window, matched)]
      = (target context handles (window, matched)).toList := driven_append [] _
  have hplaced : target context handles (window, matched) = (handles window.id).map (window, ·) →
      ∀ handle ∈ handles window.id, handle ∈ s.windows.map (·.nativeHandle) := by
    intro htarget handle hhandle
    exact hmem (window, handle) (htarget.trans (congrArg (Option.map _) hhandle))
  rw [countOf, hdriven, List.countP_singleton, windowSteps, afterWindow]
  cases matched with
  | true =>
      have htarget : target context handles (window, true) = (handles window.id).map (window, ·) :=
        if_pos (.inl rfl)
      have hlaunches : launchesFor context (window, true) = false := rfl
      simp only [htarget, hlaunches, Bool.false_eq_true, if_false, if_true, UInt64.add_zero]
      exact does_placing hdesktop hnamed hmutable (hplaced htarget)
  | false =>
      by_cases hlaunch : context.options.launchMissingApps = true
      · have htarget : target context handles (window, false) = (handles window.id).map (window, ·) :=
          if_pos (.inr hlaunch)
        have hlaunches : launchesFor context (window, false) = true := hlaunch
        have hcount : ∀ length : ℕ, ((length, 1, 1) : ℕ × ℕ × ℕ) = (0, 1, 1) + (length, 0, 0) :=
          fun length => by rw [Prod.mk_add_mk, Prod.mk_add_mk, Nat.zero_add]
        simp only [htarget, hlaunches, hlaunch, Bool.false_eq_true, if_false, if_true]
        rw [hcount]
        exact (does_launch hdesktop hnamed hmutable hpid hfree).append
          (does_placing hdesktop hnamed hmutable (hplaced htarget))
      · have htarget : target context handles (window, false) = none := if_neg (by simp [hlaunch])
        have hlaunches : launchesFor context (window, false) = false := by simp [launchesFor, hlaunch]
        simp only [htarget, hlaunches, hlaunch, Bool.false_eq_true, if_false, UInt64.add_zero]
        exact does_skipped rfl

theorem countOf_append (items : List (WindowInfo × Bool)) (item : WindowInfo × Bool) :
    countOf context handles items + countOf context handles [item]
      = countOf context handles (items ++ [item]) := by
  simp only [countOf, driven, List.filterMap_append, List.length_append, List.countP_append,
    Prod.mk_add_mk]

theorem toNat_nextPid {items : List (WindowInfo × Bool)}
    (hroom : s.nextPid.toNat + items.length + 1 < 2 ^ 64) :
    (s.nextPid + .ofNat (items.countP (launchesFor context)) + 1).toNat
      = s.nextPid.toNat + items.countP (launchesFor context) + 1 := by
  have hcount := List.countP_le_length (l := items) (p := launchesFor context)
  rw [UInt64.toNat_add, UInt64.toNat_add, UInt64.toNat_ofNat', UInt64.toNat_one]
  omega

/-- **All windows.** -/
theorem does_windows {items : List (WindowInfo × Bool)} (hdesktop : desktop.allowMutation = true)
    (hnamed : ∀ item ∈ items, Named context item.1) (hmutable : s.allowMutation = true)
    (hhandles : (s.windows.map (·.nativeHandle)).Nodup)
    (hfresh : ((driven context handles items).map (·.2)).Nodup)
    (hmem : ∀ pair ∈ driven context handles items, pair.2 ∈ s.windows.map (·.nativeHandle))
    (hpids : ∀ native ∈ s.windows, native.process.pid ≤ s.nextPid)
    (hroom : s.nextPid.toNat + items.length < 2 ^ 64) :
    Does others context handles
      (items.flatMap fun item => windowSteps desktop.capabilities context.options item.1 item.2) s
      (countOf context handles items) (afterWindows context handles items s) := by
  induction items using List.reverseRecOn with
  | nil =>
      have hsame : afterWindows context handles [] s = s := by
        have harranged : arranged context [] = id := rfl
        rw [afterWindows, driven, List.filterMap_nil, harranged, List.map_id, List.countP_nil]
        exact congrArg (fun pid => { s with nextPid := pid }) (UInt64.add_zero _)
      rw [hsame]
      exact does_nil
  | append_singleton items item ih =>
      rw [List.length_append, List.length_singleton] at hroom
      have hfront := hfresh
      rw [driven_append, List.map_append] at hfront
      have hitems := ih (fun i hi => hnamed i (List.mem_append_left _ hi)) (List.nodup_append.mp hfront).1
        (fun pair hpair => hmem pair (by rw [driven_append]; exact List.mem_append_left _ hpair))
        (by omega)
      have hnext : ((afterWindows context handles items s).nextPid + 1).toNat
          = s.nextPid.toNat + items.countP (launchesFor context) + 1 := toNat_nextPid hroom
      rw [List.flatMap_append, List.flatMap_singleton, ← countOf_append,
        ← afterWindow_afterWindows hhandles hfresh]
      refine hitems.append (does_window hdesktop (hnamed item (by simp)) hmutable ?_ ?_ ?_)
      · intro pair hpair
        rw [map_handle_eq (identity_afterWindows items)]
        refine hmem pair ?_
        rw [driven_append]
        exact List.mem_append_right _ (Option.mem_toList.mpr hpair)
      · intro hzero
        have hzero' := congrArg UInt64.toNat hzero
        rw [hnext] at hzero'
        exact absurd hzero' (Nat.succ_ne_zero _)
      · intro native hnative heq
        obtain ⟨old, hold, rfl⟩ := List.mem_map.mp hnative
        have hpid : (arranged context (driven context handles items) old).process = old.process :=
          congrArg (fun window => window.process) (identity_arranged ..)
        have hle := UInt64.le_iff_toNat_le.mp (hpids old hold)
        have heq' := congrArg UInt64.toNat heq
        rw [hpid, hnext] at heq'
        omega

end Windows

/-! ### The closing steps -/

section Closing

variable {desktop : NullPlatformState}

def lift (s : NullPlatformState) (native : WindowInfo) : WindowInfo :=
  { native with zOrder := s.top + 1 }

def raiseAll (s : NullPlatformState) (raised : List UInt64) : NullPlatformState :=
  raised.foldl (fun s handle => s.changing handle (lift s)) s

variable (context handles) in
/-- The native windows that the closing steps raise, in their order. -/
def raisedHandles : List UInt64 :=
  (raiseOrder context.options context.snapshot.windows).filterMap fun window => handles window.id

theorem handles_raiseAll (raised : List UInt64) :
    (raiseAll s raised).windows.map (·.nativeHandle) = s.windows.map (·.nativeHandle) := by
  induction raised generalizing s with
  | nil => rfl
  | cons handle raised ih =>
      have hlift : ∀ native, (lift s native).nativeHandle = native.nativeHandle := fun _ => rfl
      rw [raiseAll, List.foldl_cons, ← raiseAll, ih, handles_changing hlift]

theorem does_raise {window : WindowInfo} {description : Bytes} (hnamed : Named context window)
    (hmutable : s.allowMutation = true)
    (hmem : ∀ handle ∈ handles window.id, handle ∈ s.windows.map (·.nativeHandle)) :
    Does others context handles [step .raiseWindow window.id description] s 0
      (raiseAll s (handles window.id).toList) := by
  cases hhandle : handles window.id with
  | none =>
      apply does_idle
      intro state hfiled
      refine ⟨state, ?_, rfl, counts_zero rfl rfl rfl⟩
      unfold executeStep
      simp only [step, (hfiled _ hnamed.key).trans hhandle]
      rfl
  | some handle =>
      refine does_change (.raise handle) (fun _ => rfl) ?_ hmutable (hmem handle hhandle)
      intro state hfiled
      refine ⟨str "raise", id, ?_⟩
      unfold executeStep
      simp only [step, (hfiled _ hnamed.key).trans hhandle]
      rfl

theorem raiseAll_append (front back : List UInt64) :
    raiseAll s (front ++ back) = raiseAll (raiseAll s front) back := List.foldl_append

theorem allowMutation_raiseAll (raised : List UInt64) :
    (raiseAll s raised).allowMutation = s.allowMutation := by
  induction raised generalizing s with
  | nil => rfl
  | cons handle raised ih => exact ih

theorem does_raises {windows : List WindowInfo} (hdesktop : desktop.allowMutation = true)
    (hnamed : ∀ window ∈ windows, Named context window) (hmutable : s.allowMutation = true)
    (hmem : ∀ window ∈ windows, ∀ handle ∈ handles window.id,
      handle ∈ s.windows.map (·.nativeHandle)) :
    Does others context handles (windows.map (raiseStep desktop.capabilities)) s 0
      (raiseAll s (windows.filterMap fun window => handles window.id)) := by
  induction windows generalizing s with
  | nil => exact does_nil
  | cons window windows ih =>
      have hraise : raiseStep desktop.capabilities window
          = step .raiseWindow window.id (str "raise \"" ++ window.title ++ str "\"") := by
        simp only [raiseStep, NullPlatformState.capabilities, hdesktop]
        rfl
      have horder : (window :: windows).filterMap (fun window => handles window.id)
          = (handles window.id).toList ++ windows.filterMap fun window => handles window.id := by
        rw [List.filterMap_cons]
        cases handles window.id <;> rfl
      rw [List.map_cons, hraise, horder, raiseAll_append]
      refine Does.append (does_raise (hnamed window (List.mem_cons_self ..)) hmutable
        (hmem window (List.mem_cons_self ..))) (ih ?_ ?_ ?_)
      · exact fun other hother => hnamed other (List.mem_cons_of_mem _ hother)
      · rwa [allowMutation_raiseAll]
      · rw [handles_raiseAll]
        exact fun other hother => hmem other (List.mem_cons_of_mem _ hother)

theorem does_cursor (hdesktop : desktop.allowMutation = true) :
    Does others context handles (cursorSteps desktop.capabilities context.snapshot.cursor) s 0
      (s.warp context.snapshot.cursor.x context.snapshot.cursor.y).2 := by
  unfold cursorSteps
  simp only [NullPlatformState.capabilities, hdesktop]
  refine does_ask (.warp context.snapshot.cursor.x context.snapshot.cursor.y) (fun _ => True)
    (fun _ => ⟨trivial, rfl⟩) fun state _ => ⟨_, rfl, fun answer _ => ?_⟩
  refine ⟨state.settle (str "cursor warp") answer, rfl, settle_handles .., ?_⟩
  cases (answer : Status) <;> exact counts_zero rfl rfl rfl

variable (context handles) in
def focusing (s : NullPlatformState) : NullPlatformState :=
  match context.snapshot.cursor.focusedWindowId.bind handles with
  | some handle => (s.focus handle).2
  | none => s

theorem does_focus (hdesktop : desktop.allowMutation = true)
    (hkey : ∀ id ∈ context.snapshot.cursor.focusedWindowId,
      ∀ window ∈ context.snapshot.windows, pidKey window.id ≠ id) :
    Does others context handles (focusSteps desktop.capabilities context.snapshot.cursor) s 0
      (focusing context handles s) := by
  unfold focusSteps focusing
  cases hfocused : context.snapshot.cursor.focusedWindowId with
  | none => exact does_nil
  | some id =>
      simp only [NullPlatformState.capabilities, hdesktop, Option.bind_some]
      cases hhandle : handles id with
      | none =>
          apply does_idle
          intro state hfiled
          refine ⟨state, ?_, rfl, counts_zero rfl rfl rfl⟩
          unfold executeStep
          simp only [step, (hfiled _ (hkey id hfocused)).trans hhandle]
          rfl
      | some handle =>
          refine does_ask (.focus handle) (fun _ => True) (fun _ => ⟨trivial, rfl⟩)
            fun state hfiled => ?_
          have hstep : executeStep context state
              (step .focusWindow id (str "focus the previously active window"))
              = .ask (.focus handle) fun answer => .done (state.settle (str "focus") answer) := by
            unfold executeStep
            simp only [step, (hfiled _ (hkey id hfocused)).trans hhandle]
            rfl
          refine ⟨_, hstep, fun answer _ => ⟨_, rfl, settle_handles .., ?_⟩⟩
          cases (answer : Status) <;> exact counts_zero rfl rfl rfl

variable (context handles) in
/-- The desktop behind the closing steps. -/
def afterClosing (s : NullPlatformState) : NullPlatformState :=
  let stacked := if context.options.restoreZOrder then raiseAll s (raisedHandles context handles)
    else s
  let pointed := if context.options.restoreCursor then
      (stacked.warp context.snapshot.cursor.x context.snapshot.cursor.y).2
    else stacked
  if context.options.restoreFocus then focusing context handles pointed else pointed

theorem does_closing (hdesktop : desktop.allowMutation = true)
    (hnamed : ∀ window ∈ context.snapshot.windows, Named context window)
    (hmutable : s.allowMutation = true)
    (hmem : ∀ window ∈ context.snapshot.windows, ∀ handle ∈ handles window.id,
      handle ∈ s.windows.map (·.nativeHandle))
    (hkey : ∀ id ∈ context.snapshot.cursor.focusedWindowId,
      ∀ window ∈ context.snapshot.windows, pidKey window.id ≠ id) :
    Does others context handles
      (closingSteps desktop.capabilities context.options context.snapshot) s 0
      (afterClosing context handles s) := by
  have hraises : Does others context handles
      (raiseSteps desktop.capabilities context.options context.snapshot.windows) s 0
      (raiseAll s (raisedHandles context handles)) :=
    does_raises hdesktop (fun window hwindow => hnamed window (mem_raiseOrder.mp hwindow).1) hmutable
      fun window hwindow => hmem window (mem_raiseOrder.mp hwindow).1
  exact ((does_when hraises).append (does_when (does_cursor hdesktop))).append
    (does_when (does_focus hdesktop hkey))

end Closing

end Steps

/-! ### The whole run -/

section Restore

variable {τ : Type} (others : (op : Hal.Op) → τ → Hal.Answer op × τ)

/-- A snapshot and a desktop that it can be restored on: the ids of the windows are their own and no
keys of pids, the handles are the windows' own, and the launches have pids of their own. -/
structure Restorable (saved : Snapshot) (s : NullPlatformState) : Prop where
  ids : (saved.windows.map (·.id)).Nodup
  keys : ∀ window ∈ saved.windows, (∀ other ∈ saved.windows, pidKey window.id ≠ other.id)
    ∧ saved.cursor.focusedWindowId ≠ some (pidKey window.id)
  handles : (s.windows.map (·.nativeHandle)).Nodup
  mutable : s.allowMutation = true
  pids : ∀ native ∈ s.windows, native.process.pid ≤ s.nextPid
  room : s.nextPid.toNat + saved.windows.length < 2 ^ 64

variable (s : NullPlatformState) (saved : Snapshot) (options : RestoreOptions) (bridge : Bool)

/-- Planning a restore and executing the plan. -/
def restoring : Hal.Call (Result RestoreReport) :=
  planRestore s.platform saved options >>= fun plan => executePlan saved plan options bridge

def restoringContext : Context := { snapshot := saved, monitors := s.monitors, options, bridge }

def restoringItems : List (WindowInfo × Bool) := decided options s.windows saved.windows []

theorem enumerateWindows_probe : s.enumerateWindows probe = .ok s.windows := by
  rw [NullPlatformState.enumerateWindows, List.filter_eq_self.mpr]
  exact fun _ _ => rfl

variable {s saved}

theorem mem_of_bestLiveMatch {window found : WindowInfo} {live : List WindowInfo}
    {used : List UInt64} (h : bestLiveMatch window live used = some found) : found ∈ live := by
  rw [bestLiveMatch_eq] at h
  exact List.mem_of_mem_filter (List.mem_of_mem_filter (Greedy.mem_of_choose h))

/-- The pre-match gives away live windows only. -/
theorem prematch_mem {windows live : List WindowInfo} {key : Bytes} {handle : UInt64}
    (h : prematch windows live key = some handle) : handle ∈ live.map (·.nativeHandle) := by
  have hfold : ∀ (windows : List WindowInfo) (state : Handles × List UInt64),
      (∀ key handle, state.1 key = some handle → handle ∈ live.map (·.nativeHandle)) →
      ∀ key handle, (windows.foldl (prematchWindow live) state).1 key = some handle →
        handle ∈ live.map (·.nativeHandle) := by
    intro windows
    induction windows with
    | nil => exact fun _ h => h
    | cons window windows ih =>
        intro state hstate
        apply ih
        intro key handle hkey
        unfold prematchWindow at hkey
        split at hkey
        · rename_i found hfound
          dsimp only at hkey
          by_cases hwindow : key = window.id
          · rw [hwindow, set_self] at hkey
            exact Option.some.inj hkey ▸ List.mem_map_of_mem (mem_of_bestLiveMatch hfound)
          · rw [set_of_ne _ hwindow] at hkey
            exact hstate key handle hkey
        · exact hstate key handle hkey
  exact hfold windows _ (fun _ _ h => absurd h (by simp)) key handle h

theorem Restorable.named (h : Restorable saved s) {window : WindowInfo}
    (hmem : window ∈ saved.windows) : Named (restoringContext s saved options bridge) window :=
  ⟨hmem, findWindow_of_mem h.ids hmem, fun other hother => (h.keys other hother).1 window hmem⟩

theorem driven_mem {item : WindowInfo × Bool} {pair : WindowInfo × UInt64} {context : Context}
    {handles : Handles} (h : target context handles item = some pair) :
    pair.1 = item.1 ∧ handles item.1.id = some pair.2 := by
  unfold target at h
  split_ifs at h
  obtain ⟨handle, hhandle, rfl⟩ := Option.map_eq_some_iff.mp h
  exact ⟨rfl, hhandle⟩

/-- No native window is driven for two saved ones. -/
theorem driven_nodup (h : Restorable saved s) :
    ((driven (restoringContext s saved options bridge) (prematch saved.windows s.windows)
      (restoringItems s saved options)).map (·.2)).Nodup := by
  have hsub := decided_sublist options s.windows saved.windows []
  have hids : ((restoringItems s saved options).map fun item => item.1.id).Nodup := by
    have hids := h.ids.sublist (hsub.map (·.id))
    rwa [List.map_map] at hids
  rw [List.Nodup, List.pairwise_map, driven, List.pairwise_filterMap]
  refine (List.pairwise_map.mp hids).imp_of_mem ?_
  intro a b ha hb hne pair hpair pair' hpair' heq
  have hpair := (driven_mem hpair).2
  rw [heq] at hpair
  exact prematch_apart saved s.windows a.1 (hsub.subset (List.mem_map_of_mem ha)) b.1
    (hsub.subset (List.mem_map_of_mem hb)) hne _ hpair (driven_mem hpair').2

/-- The whole plan. -/
theorem does_plan (h : Restorable saved s) :
    let context := restoringContext s saved options bridge
    let handles := prematch saved.windows s.windows
    let items := restoringItems s saved options
    Does others context handles
      (planFor s.platform saved options (.ok s.monitors) (.ok s.windows)).steps s
      (countOf context handles items)
      (afterClosing context handles (afterWindows context handles items s)) := by
  intro context handles items
  have hsteps : (planFor s.platform saved options (.ok s.monitors) (.ok s.windows)).steps
      = (items.flatMap fun item => windowSteps s.capabilities context.options item.1 item.2)
        ++ closingSteps s.capabilities context.options context.snapshot := by
    have hplanner := foldl_planWindow_decided options s.windows s.capabilities saved.windows {}
    exact congrArg (· ++ closingSteps s.capabilities options saved) (hplanner.trans (List.nil_append _))
  have hsub := decided_sublist options s.windows saved.windows []
  have hmem : ∀ key handle, handles key = some handle → handle ∈ s.windows.map (·.nativeHandle) :=
    fun key handle => prematch_mem
  have hwindows : Does others context handles
      (items.flatMap fun item => windowSteps s.capabilities context.options item.1 item.2) s
      (countOf context handles items) (afterWindows context handles items s) := by
    apply does_windows h.mutable _ h.mutable h.handles (driven_nodup options bridge h)
    · intro pair hpair
      obtain ⟨item, -, htarget⟩ := List.mem_filterMap.mp hpair
      exact hmem _ _ (driven_mem htarget).2
    · exact h.pids
    · have hlength := hsub.length_le
      rw [List.length_map] at hlength
      exact Nat.lt_of_le_of_lt (Nat.add_le_add_left hlength _) h.room
    · exact fun item hitem => h.named options bridge (hsub.subset (List.mem_map_of_mem hitem))
  have hclosing : Does others context handles
      (closingSteps s.capabilities context.options context.snapshot)
      (afterWindows context handles items s) 0
      (afterClosing context handles (afterWindows context handles items s)) := by
    have hmutable : (afterWindows context handles items s).allowMutation = true := h.mutable
    apply does_closing h.mutable (fun window hwindow => h.named options bridge hwindow) hmutable
    · intro window _ handle hhandle
      rw [map_handle_eq (identity_afterWindows items)]
      exact hmem _ _ hhandle
    · rintro id hid window hwindow rfl
      exact (h.keys window hwindow).2 hid
  rw [hsteps]
  exact hwindows.append hclosing

/-- **The whole run.** -/
theorem restoring_outcome (h : Restorable saved s) (t : τ) :
    let context := restoringContext s saved options bridge
    let handles := prematch saved.windows s.windows
    let items := restoringItems s saved options
    let last := ((restoring s saved options bridge).trace (onNullPlatform others) (s, t)).2
    last.2.1 = afterClosing context handles (afterWindows context handles items s)
      ∧ ∃ report, last.1 = .ok report
        ∧ Counts { snapshotId := saved.metadata.id } report (countOf context handles items) := by
  intro context handles items last
  obtain ⟨-, hcount, hdesktop⟩ := does_plan others options bridge h
    (initialExecution saved (.ok s.windows)) (others .steadyNow t).2 fun _ _ => rfl
  have htrace := executePlan_trace (onNullPlatform others) (s, t) saved
    (planFor s.platform saved options (.ok s.monitors) (.ok s.windows)) options bridge
  have hplan : ((planRestore s.platform saved options).trace (onNullPlatform others) (s, t)).2
      = (planFor s.platform saved options (.ok s.monitors) (s.enumerateWindows probe), s, t) := rfl
  rw [enumerateWindows_probe] at hplan
  have hlast : last = ((executePlan saved
      (planFor s.platform saved options (.ok s.monitors) (.ok s.windows)) options bridge).trace
        (onNullPlatform others) (s, t)).2 := by
    simp only [last, restoring]
    rw [Program.trace_bind, hplan]
  have houtcome : planOutcome (onNullPlatform others) (s, t) saved
      (planFor s.platform saved options (.ok s.monitors) (.ok s.windows)) options bridge
      = Program.outcome (onNullPlatform others) (executeStep context)
          (planFor s.platform saved options (.ok s.monitors) (.ok s.windows)).steps
          (initialExecution saved (.ok s.windows)) (s, (others .steadyNow t).2) := by
    have hshown : shownWindows (onNullPlatform others) (s, t) = s.enumerateWindows probe := rfl
    rw [planOutcome, hshown, enumerateWindows_probe]
    rfl
  rw [← houtcome] at hcount hdesktop
  rw [hlast, htrace]
  exact ⟨hdesktop, _, rfl, hcount.restored, hcount.failed, hcount.launched⟩

/-! ### What is left of the desktop -/

/-- A window apart from its place in the stack and the focus. -/
def unstacked (window : WindowInfo) : WindowInfo := { window with zOrder := 0, focused := false }

theorem unstacked_raiseAll (raised : List UInt64) :
    (raiseAll s raised).windows.map unstacked = s.windows.map unstacked := by
  induction raised generalizing s with
  | nil => rfl
  | cons handle raised ih =>
      have hlift : ∀ native, unstacked (lift s native) = unstacked native := fun _ => rfl
      rw [raiseAll, List.foldl_cons, ← raiseAll, ih]
      exact map_changed unstacked hlift

theorem unstacked_focus (handle : UInt64) :
    (s.focus handle).2.windows.map unstacked = s.windows.map unstacked := by
  have hfocus : ∀ window, unstacked (withFocus true window) = unstacked window := fun _ => rfl
  unfold focus
  split
  · split
    · rfl
    · dsimp only
      rw [map_changed unstacked hfocus, List.map_map]
      rfl
  · rfl

/-- What raising, warping and focusing leave alone, the closing steps leave alone. -/
theorem read_afterClosing {α : Type} (read : NullPlatformState → α)
    (hraise : ∀ s raised, read (raiseAll s raised) = read s)
    (hwarp : ∀ (s : NullPlatformState) x y, read (s.warp x y).2 = read s)
    (hfocus : ∀ (s : NullPlatformState) handle, read (s.focus handle).2 = read s)
    (context : Context) (handles : Handles) (s : NullPlatformState) :
    read (afterClosing context handles s) = read s := by
  have hfocusing : ∀ s, read (focusing context handles s) = read s := by
    intro s
    unfold focusing
    split
    · exact hfocus ..
    · rfl
  unfold afterClosing
  simp only [apply_ite read, hfocusing, hwarp, hraise, ite_self]

theorem warp_windows (s : NullPlatformState) (x y : Int32) : (s.warp x y).2.windows = s.windows := by
  unfold warp
  split <;> rfl

theorem unstacked_afterClosing (context : Context) (handles : Handles) (s : NullPlatformState) :
    (afterClosing context handles s).windows.map unstacked = s.windows.map unstacked :=
  read_afterClosing (fun s => s.windows.map unstacked) (fun _ => unstacked_raiseAll)
    (fun s x y => congrArg (List.map unstacked) (warp_windows s x y)) (fun _ => unstacked_focus)
    context handles s

variable (s saved) in
/-- The executor drives a native window for a saved one, since the planner found one or launches the
app. -/
def Drives (window : WindowInfo) (handle : UInt64) : Prop :=
  (∃ front found, Planned s.platform saved options s.windows front window found
      ∧ (found.isSome = true ∨ options.launchMissingApps = true))
    ∧ prematch saved.windows s.windows window.id = some handle

theorem mem_driven {window : WindowInfo} {handle : UInt64} :
    (window, handle) ∈ driven (restoringContext s saved options bridge)
        (prematch saved.windows s.windows) (restoringItems s saved options)
      ↔ Drives s saved options window handle := by
  rw [driven, List.mem_filterMap]
  constructor
  · rintro ⟨⟨other, matched⟩, hitem, htarget⟩
    obtain ⟨front, found, hplanned, hfound⟩ := mem_decided.mp hitem
    have hdriven := driven_mem htarget
    obtain rfl : window = other := hdriven.1
    refine ⟨⟨front, found, hplanned, ?_⟩, hdriven.2⟩
    unfold target at htarget
    split_ifs at htarget with hcondition
    exact hfound ▸ hcondition
  · rintro ⟨⟨front, found, hplanned, hcondition⟩, hhandle⟩
    refine ⟨(window, found.isSome), mem_decided.mpr ⟨front, found, hplanned, rfl⟩, ?_⟩
    exact (if_pos hcondition).trans (congrArg (Option.map _) hhandle)

theorem arranged_of_driven {context : Context} {pairs : List (WindowInfo × UInt64)}
    {window native : WindowInfo} (hnodup : (pairs.map (·.2)).Nodup)
    (hmem : (window, native.nativeHandle) ∈ pairs) :
    arranged context pairs native = settled context window native := by
  unfold arranged
  split
  · rename_i pair hfind
    have hhandle : pair.2 = native.nativeHandle := by simpa using List.find?_some hfind
    rw [List.inj_on_of_nodup_map hnodup (List.mem_of_find?_eq_some hfind) hmem hhandle]
  · rename_i hnone
    exact absurd (decide_eq_true rfl) (List.find?_eq_none.mp hnone _ hmem)

theorem arranged_of_not_driven {context : Context} {pairs : List (WindowInfo × UInt64)}
    {native : WindowInfo} (h : ∀ window, (window, native.nativeHandle) ∉ pairs) :
    arranged context pairs native = native := by
  unfold arranged
  split
  · rename_i pair hfind
    have hhandle : pair.2 = native.nativeHandle := by simpa using List.find?_some hfind
    exact absurd (hhandle ▸ List.mem_of_find?_eq_some hfind) (h pair.1)
  · rfl

/-- Apart from the stack and the focus, the windows at the end are those that were arranged. -/
theorem unstacked_last (h : Restorable saved s) (t : τ) :
    let last := ((restoring s saved options bridge).trace (onNullPlatform others) (s, t)).2.2.1
    last.windows.map unstacked = s.windows.map fun native =>
      unstacked (arranged (restoringContext s saved options bridge)
        (driven (restoringContext s saved options bridge) (prematch saved.windows s.windows)
          (restoringItems s saved options)) native) := by
  intro last
  obtain ⟨hlast, -⟩ := restoring_outcome others options bridge h t
  simp only [last]
  rw [hlast, unstacked_afterClosing, afterWindows, List.map_map]
  rfl

theorem handles_last (h : Restorable saved s) (t : τ) :
    let last := ((restoring s saved options bridge).trace (onNullPlatform others) (s, t)).2.2.1
    last.windows.map (·.nativeHandle) = s.windows.map (·.nativeHandle) := by
  intro last
  have hread := congrArg (List.map fun window : WindowInfo => window.nativeHandle)
    (unstacked_last others options bridge h t)
  rw [List.map_map, List.map_map] at hread
  refine hread.trans (List.map_congr_left fun native _ => ?_)
  exact nativeHandle_of_identity (identity_arranged _ native)

/-- One window, before the restore and after it. -/
theorem arranged_last (h : Restorable saved s) (t : τ) {native now : WindowInfo}
    (hnative : native ∈ s.windows)
    (hnow : now ∈ ((restoring s saved options bridge).trace (onNullPlatform others)
      (s, t)).2.2.1.windows) (heq : now.nativeHandle = native.nativeHandle) :
    unstacked now = unstacked (arranged (restoringContext s saved options bridge)
      (driven (restoringContext s saved options bridge) (prematch saved.windows s.windows)
        (restoringItems s saved options)) native) := by
  have hmem := List.mem_map_of_mem (f := unstacked) hnow
  rw [unstacked_last others options bridge h t] at hmem
  obtain ⟨native', hnative', hnow'⟩ := List.mem_map.mp hmem
  have hsame : native'.nativeHandle = native.nativeHandle :=
    calc
      native'.nativeHandle = (arranged _ _ native').nativeHandle :=
        (nativeHandle_of_identity (identity_arranged _ native')).symm
      _ = now.nativeHandle := congrArg (fun window => window.nativeHandle) hnow'
      _ = native.nativeHandle := heq
  obtain rfl := List.inj_on_of_nodup_map h.handles hnative' hnative hsame
  exact hnow'.symm

/-- The sample desktop, with its windows where they are not now. -/
def sampleSaved : Snapshot :=
  { windows :=
      [{ Hal.sampleEditor (str "w1") with
          restoredFrame := { x := 5, y := 7, width := 640, height := 480 } },
        { Hal.sampleBrowser (str "w2") with state := .maximized, workspaceId := some (str "ws-2") }]
    cursor := { x := 3, y := 4, focusedWindowId := some (str "w2") } }

theorem restorable_sample :
    Restorable sampleSaved (Hal.sampleNullState (str "editor") (str "browser")) where
  ids := by decide
  keys := by decide
  handles := by decide
  mutable := rfl
  pids := by decide
  room := by decide

/-- Without selectors, planner and executor find the same windows. -/
theorem decided_prematch (hids : (saved.windows.map (·.id)).Nodup) (hall : options.selectors = [])
    {item : WindowInfo × Bool} (hitem : item ∈ restoringItems s saved options) :
    item.2 = (prematch saved.windows s.windows item.1.id).isSome := by
  obtain ⟨before, behind, hsplit, -, hmatched⟩ := (mem_decided_used ..).mp hitem
  have hbefore : before.filter (selectorMatches · options.selectors) = before := by
    rw [List.filter_eq_self]
    intro window _
    rw [hall]
    rfl
  rw [hbefore] at hmatched
  rw [hmatched, prematch_split hids hsplit, Option.isSome_map]

theorem isSome_target {context : Context} {handles : Handles} (item : WindowInfo × Bool) :
    (target context handles item).isSome
      = ((item.2 || context.options.launchMissingApps) && (handles item.1.id).isSome) := by
  unfold target
  by_cases h : item.2 = true ∨ context.options.launchMissingApps = true
  · rw [if_pos h, Option.isSome_map, (Bool.or_eq_true _ _).mpr h, Bool.true_and]
  · rw [if_neg h, Bool.eq_false_iff.mpr (mt (Bool.or_eq_true _ _).mp h), Bool.false_and,
      Option.isSome_none]

/-- The calls that only ask. -/
def Asks : Hal.Op → Prop
  | .enumerateWindows _ | .enumerateDisplays | .queryCursor | .currentWorkspace | .captureTabs _ _
  | .restoreTabs _ _ | .steadyNow => True
  | _ => False

/-- **Where nothing may change, nothing is tried.** On a read-only desktop a restore leaves out
everything that would be refused, and the desktop is as before. -/
theorem restoring_readOnly (hreadOnly : s.allowMutation = false) (t : τ) :
    let run := (restoring s saved options bridge).trace (onNullPlatform others) (s, t)
    (∀ event ∈ run.1, Asks event.op) ∧ run.2.2.1 = s := by
  have hasks : (restoring s saved options bridge).All Asks := by
    refine (planRestore_executePlan_permitted s.platform saved options bridge).mono ?_
    intro op hop
    cases op <;> first
      | trivial
      | exact absurd (hreadOnly.symm.trans (hop : s.allowMutation = true)) Bool.false_ne_true
  refine ⟨hasks.of_mem_trace _ _, ?_⟩
  refine hasks.trace_invariant (I := fun state : NullPlatformState × τ => state.1 = s) _ ?_ rfl
  intro op state hop hstate
  cases op <;> first | exact hstate | exact hop.elim

theorem restoring_readOnly_sample :
    let s := { Hal.sampleNullState (str "editor") (str "browser") with allowMutation := false }
    let run := (restoring s sampleSaved {} false).trace (onNullPlatform (obliging (.ok []))) (s, ())
    (∀ event ∈ run.1, Asks event.op) ∧ run.2.2.1 = s :=
  restoring_readOnly _ _ _ rfl ()

end Restore

end ContextSnap.Restore
