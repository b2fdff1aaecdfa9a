import ContextSnap.Proof.RestoreSelection

/-!
# Agreement of plan and execution

The planner gives live windows away to the selected windows of a snapshot, the executor to all of
them. What the planner found for a window the executor finds as well, unless a window that is listed
before it has taken it.
-/

namespace ContextSnap.Restore

open Hal (Platform)

/-! ### The pre-match -/

theorem foldl_prematchWindow_of_ne {live windows : List WindowInfo} {key : Bytes}
    (h : ∀ window ∈ windows, window.id ≠ key) (state : Handles × List UInt64) :
    (windows.foldl (prematchWindow live) state).1 key = state.1 key := by
  induction windows generalizing state with
  | nil => rfl
  | cons window windows ih =>
      rw [List.foldl_cons, ih fun w hw => h w (List.mem_cons_of_mem _ hw)]
      unfold prematchWindow
      split
      · exact set_of_ne _ (h window (by simp)).symm
      · rfl

section Distinct

variable {windows front front' back back' : List WindowInfo} {window window' : WindowInfo}

/-- Windows with distinct ids are listed once. -/
theorem split_unique (hids : (windows.map (·.id)).Nodup)
    (hsplit : windows = front ++ window :: back) (hsplit' : windows = front' ++ window' :: back')
    (hid : window.id = window'.id) : front = front' ∧ window = window' ∧ back = back' := by
  have hmem : window ∈ windows := by simp [hsplit]
  have hmem' : window' ∈ windows := by simp [hsplit']
  have heq : window = window' := List.inj_on_of_nodup_map hids hmem hmem' hid
  have hnodup : (front ++ window :: back).Nodup := hsplit ▸ List.Nodup.of_map _ hids
  obtain ⟨-, hcons, hdisjoint⟩ := List.nodup_append.mp hnodup
  have hfront : window' ∉ front := fun h => hdisjoint _ h _ (by simp [heq]) rfl
  have hback : window' ∉ back := heq ▸ (List.nodup_cons.mp hcons).1
  exact (List.append_cons_inj_of_notMem hfront hback).mp (hsplit.symm.trans hsplit')

theorem id_ne_of_split (hids : (windows.map (·.id)).Nodup)
    (hsplit : windows = front ++ window :: back) :
    (∀ w ∈ front, w.id ≠ window.id) ∧ ∀ w ∈ back, w.id ≠ window.id := by
  rw [hsplit, List.map_append, List.map_cons] at hids
  obtain ⟨-, hcons, hdisjoint⟩ := List.nodup_append.mp hids
  refine ⟨fun w hw => hdisjoint _ (List.mem_map_of_mem hw) _ (by simp), ?_⟩
  intro w hw heq
  exact (List.nodup_cons.mp hcons).1 (heq ▸ List.mem_map_of_mem hw)

/-- A window with its own id is found under it. -/
theorem findWindow_of_mem {saved : Snapshot} (hids : (saved.windows.map (·.id)).Nodup)
    (hmem : window ∈ saved.windows) : saved.findWindow window.id = some window := by
  obtain ⟨front, back, hsplit⟩ := List.append_of_mem hmem
  obtain ⟨hfront, -⟩ := id_ne_of_split hids hsplit
  rw [Snapshot.findWindow, hsplit]
  apply List.find?_eq_some_iff_append.mpr
  exact ⟨by simp, front, back, rfl, fun w hw => by simp [hfront w hw]⟩

/-- What the executor finds for a window, behind those that are listed before it. -/
theorem prematch_split (hids : (windows.map (·.id)).Nodup)
    (hsplit : windows = front ++ window :: back) (live : List WindowInfo) :
    prematch windows live window.id
      = (bestLiveMatch window live (taken live front [])).map (·.nativeHandle) := by
  obtain ⟨hfront, hback⟩ := id_ne_of_split hids hsplit
  have hused := prematch_used live front ((fun _ => none : Handles), [])
  rw [prematch, hsplit, List.foldl_append, List.foldl_cons, foldl_prematchWindow_of_ne hback,
    prematchWindow, hused]
  cases bestLiveMatch window live (taken live front []) with
  | none => exact foldl_prematchWindow_of_ne hfront _
  | some found => exact set_self ..

end Distinct

/-! ### What the planner decides -/

section Planned

variable (platform : Platform) (saved : Snapshot) (options : RestoreOptions)
  (live : List WindowInfo)

/-- A selected window of the snapshot, the windows listed before it, and what the planner finds for
it among the live windows. -/
structure Planned (front : List WindowInfo) (window : WindowInfo) (found : Option WindowInfo) :
    Prop where
  listed : ∃ back, saved.windows = front ++ window :: back
  selected : selectorMatches window options.selectors = true
  choice : bestLiveMatch window live
    (planWindows platform.capabilities options front live).used = found

/-- A window that the plan launches. -/
def Launched (front : List WindowInfo) (window : WindowInfo) : Prop :=
  Planned platform saved options live front window none ∧ options.launchMissingApps = true
    ∧ platform.capabilities.launchProcesses = true

/-- The steps that drive a native window, apart from the focus. -/
def moves : RestoreStepKind → Bool
  | .moveWindow | .setWindowState | .setWorkspace | .raiseWindow => true
  | _ => false

/-- Some step that puts the window into its place is not skipped. -/
def placed (window : WindowInfo) : Bool :=
  platform.capabilities.setWindowGeometry
    || (window.state ≠ .normal && platform.capabilities.setWindowState)
    || (options.restoreWorkspaces && window.workspaceId.isSome
      && platform.capabilities.moveBetweenDesktops)

/-- The steps that raise windows are there and are not skipped. -/
def restacks : Bool := options.restoreZOrder && platform.capabilities.zOrder

/-- No native window that the planner found for a saved one is taken by the windows listed before
it, and no pid is filed under its id before the last step that drives it. -/
def Undisturbed : Prop :=
  ∀ front window found, Planned platform saved options live front window (some found) →
    (placed platform options window || restacks platform options) = true →
    found.nativeHandle ∉ taken live front []
      ∧ ∀ before other, Launched platform saved options live before other →
        pidKey other.id = window.id → restacks platform options = false ∧ other ∉ front

variable {platform saved options live} {front back : List WindowInfo} {window found : WindowInfo}

/-- **Planner and executor.** They agree on a window unless an earlier one took its live window. -/
theorem prematch_planned_iff (hids : (saved.windows.map (·.id)).Nodup)
    (hplanned : Planned platform saved options live front window (some found)) :
    prematch saved.windows live window.id = some found.nativeHandle
      ↔ found.nativeHandle ∉ taken live front [] := by
  obtain ⟨⟨back, hsplit⟩, -, hchoice⟩ := hplanned
  have hused := planWindows_used platform.capabilities options live front {}
  rw [← planWindows] at hused
  rw [hused] at hchoice
  rw [prematch_split hids hsplit]
  constructor
  · intro h
    obtain ⟨other, hother, hhandle⟩ := Option.map_eq_some_iff.mp h
    exact hhandle ▸ (stable_bestLiveMatch live).fresh hother
  · intro h
    have hagree := ((stable_bestLiveMatch live).pick_filter_iff
      (fun w => selectorMatches w options.selectors) hchoice).mpr h
    change bestLiveMatch window live (taken live front []) = some found at hagree
    rw [hagree]
    rfl

/-- The steps of a plan's windows, each with the planner's choice for its window. -/
theorem mem_planWindows {windows : List WindowInfo} {current : RestoreStep} :
    current ∈ (planWindows platform.capabilities options windows live).steps
      ↔ ∃ front window back, windows = front ++ window :: back
        ∧ selectorMatches window options.selectors = true
        ∧ current ∈ windowSteps platform.capabilities options window (bestLiveMatch window live
            (planWindows platform.capabilities options front live).used).isSome := by
  constructor
  · induction windows using List.reverseRecOn with
    | nil => simp [planWindows]
    | append_singleton windows last ih =>
        intro h
        rw [planWindows_append, List.foldl_cons, List.foldl_nil, planWindow] at h
        by_cases hselected : selectorMatches last options.selectors = true
        · rw [if_pos hselected] at h
          rcases List.mem_append.mp h with h | h
          · obtain ⟨front, window, back, hsplit, hrest⟩ := ih h
            exact ⟨front, window, back ++ [last], by simp [hsplit], hrest⟩
          · exact ⟨windows, last, [], rfl, hselected, h⟩
        · rw [if_neg hselected] at h
          obtain ⟨front, window, back, hsplit, hrest⟩ := ih h
          exact ⟨front, window, back ++ [last], by simp [hsplit], hrest⟩
  · rintro ⟨front, window, back, rfl, hselected, hcurrent⟩
    obtain ⟨rest, hsteps, -⟩ := @planWindows_split platform.capabilities options live front back
      window hselected
    rw [hsteps]
    exact List.mem_append_left _ (List.mem_append_right _ hcurrent)

theorem windowSteps_launches {matched : Bool} {current : RestoreStep}
    (h : current ∈ windowSteps platform.capabilities options window matched)
    (hlaunches : launches current.kind = true) : matched = false
      ∧ options.launchMissingApps = true
      ∧ current ∈ launchSteps platform.capabilities window := by
  unfold windowSteps at h
  split_ifs at h with hmatched hlaunch
  · simp [(placeSteps_targets h).2.2.1] at hlaunches
  · rcases List.mem_append.mp h with h | h
    · exact ⟨by simpa using hmatched, hlaunch, h⟩
    · simp [(placeSteps_targets h).2.2.1] at hlaunches
  · rw [List.mem_singleton.mp h] at hlaunches
    simp [step, launches] at hlaunches

/-- Launches and waits that are not skipped are those of the launched windows. -/
theorem launched_of_mem {displays : Result (List MonitorInfo)} {current : RestoreStep}
    (h : current ∈ (planFor platform saved options displays (.ok live)).steps)
    (hlaunches : launches current.kind = true) (hactive : current.skipped = false) :
    ∃ front window, Launched platform saved options live front window
      ∧ current.targetId = window.id := by
  rcases List.mem_append.mp h with h | h
  · obtain ⟨front, window, back, hsplit, hselected, hstep⟩ := mem_planWindows.mp h
    obtain ⟨htarget, hgated, -⟩ := windowSteps_targets hstep
    obtain ⟨hunmatched, hlaunch, -⟩ := windowSteps_launches hstep hlaunches
    have hcan := hgated hactive
    refine ⟨front, window, ⟨⟨⟨back, hsplit⟩, hselected, ?_⟩, hlaunch, ?_⟩, htarget⟩
    · exact Option.not_isSome_iff_eq_none.mp (Bool.eq_false_iff.mp hunmatched)
    · cases hkind : current.kind <;> simp_all [launches, allows]
  · simp [(closingSteps_closes h).2.1] at hlaunches

/-- What a place step that is not skipped says about its window. -/
theorem placed_of_mem {current : RestoreStep}
    (h : current ∈ placeSteps platform.capabilities options window)
    (hmoves : moves current.kind = true) (hactive : current.skipped = false) :
    placed platform options window = true
      ∧ (current.kind = .setWorkspace → window.workspaceId.isSome = true) := by
  simp only [placeSteps, List.mem_append, List.mem_singleton, List.mem_ite_nil_right] at h
  rcases h with ((rfl | ⟨hstate, rfl⟩) | ⟨hworkspace, rfl⟩) | ⟨-, rfl⟩
  · simp_all [step, placed]
  · simp_all [step, placed]
  · simp_all [step, placed]
  · simp [step, moves] at hmoves

/-- A window that is placed has a step that says so. -/
theorem exists_placeStep (h : placed platform options window = true) :
    ∃ current ∈ placeSteps platform.capabilities options window, moves current.kind = true
      ∧ current.skipped = false ∧ current.targetId = window.id := by
  simp only [placed, Bool.or_eq_true, Bool.and_eq_true, decide_eq_true_eq] at h
  rcases h with (hmove | ⟨hstate, hcan⟩) | ⟨⟨hrestore, hworkspace⟩, hcan⟩
  · exact ⟨_, List.mem_append_left _ (List.mem_append_left _ (List.mem_append_left _
      (List.mem_singleton.mpr rfl))), rfl, by simp [step, hmove], rfl⟩
  · refine ⟨step .setWindowState window.id (str "set state " ++ str window.state.toText)
      (!platform.capabilities.setWindowState), ?_, rfl, by simp [step, hcan], rfl⟩
    simp [placeSteps, hstate]
  · refine ⟨step .setWorkspace window.id
      (str "move to workspace " ++ window.workspaceId.getD [])
      (!platform.capabilities.moveBetweenDesktops), ?_, rfl, by simp [step, hcan], rfl⟩
    simp [placeSteps, hrestore, hworkspace]

end Planned

/-! ### Runs -/

section Runs

variable {σ : Type} (handler : (op : Hal.Op) → σ → Hal.Answer op × σ)

/-- A step that moves a window with a handle drives the handle once. -/
theorem executeStep_drives {context : Context} {state : Execution} {current : RestoreStep}
    {listed : WindowInfo} {handle : UInt64} (hactive : current.skipped = false)
    (hmoves : moves current.kind = true)
    (hlisted : context.snapshot.findWindow current.targetId = some listed)
    (hworkspace : current.kind = .setWorkspace → listed.workspaceId.isSome = true)
    (hhandle : state.handles current.targetId = some handle) (s : σ) :
    ((executeStep context state current).trace handler s).1.filterMap (drives ·.op)
      = [handle] := by
  have hdriven : ∀ {op next}, executeStep context state current = .ask op next →
      (∀ answer, ∃ after, next answer = .done after) → drives op = some handle →
      ((executeStep context state current).trace handler s).1.filterMap (drives ·.op)
        = [handle] := by
    intro op next hstep hnext hop
    rw [hstep, Program.trace_ask_once handler hnext]
    simp [hop]
  cases hkind : current.kind with
  | moveWindow =>
      have hstep : executeStep context state current = executeMove context state listed handle := by
        simp [executeStep, hactive, hkind, hlisted, hhandle]
      refine hdriven (hstep.trans rfl) ?_ rfl
      rintro (e | _) <;> exact ⟨_, rfl⟩
  | setWindowState =>
      exact hdriven (by simp [executeStep, hactive, hkind, hlisted, hhandle]; rfl)
        (fun answer => ⟨_, rfl⟩) rfl
  | setWorkspace =>
      obtain ⟨workspace, hnamed⟩ := Option.isSome_iff_exists.mp (hworkspace hkind)
      exact hdriven (by simp [executeStep, hactive, hkind, hlisted, hhandle, hnamed]; rfl)
        (fun answer => ⟨_, rfl⟩) rfl
  | raiseWindow =>
      exact hdriven (by simp [executeStep, hactive, hkind, hhandle]; rfl)
        (fun answer => ⟨_, rfl⟩) rfl
  | launchProcess | waitForWindow | restoreTabs | warpCursor | focusWindow =>
      simp [hkind, moves] at hmoves

variable (s : σ) (platform : Platform) (saved : Snapshot) (options : RestoreOptions)
  (bridge : Bool) (displays : Result (List MonitorInfo)) (live : List WindowInfo)

/-- What the planner found for a window, every step that moves the window drives, and nothing
else. -/
def DrivesPlanned : Prop :=
  ∀ front window found, Planned platform saved options live front window (some found) →
    ∀ round ∈ planRounds handler s saved (planFor platform saved options displays (.ok live))
        options bridge,
      round.item.targetId = window.id → moves round.item.kind = true →
      round.item.skipped = false →
      round.events.filterMap (drives ·.op) = [found.nativeHandle]

variable {handler s platform saved options bridge displays live}

/-- A step that moves a window the planner found is one of its place steps or raises it. -/
theorem moving_step (hids : (saved.windows.map (·.id)).Nodup) {front back : List WindowInfo}
    {window found : WindowInfo} (hsplit : saved.windows = front ++ window :: back)
    (hplanned : Planned platform saved options live front window (some found))
    {current : RestoreStep}
    (hcurrent : current ∈ (planFor platform saved options displays (.ok live)).steps)
    (htarget : current.targetId = window.id) (hmoves : moves current.kind = true)
    (hactive : current.skipped = false) :
    current ∈ placeSteps platform.capabilities options window
      ∨ current.kind = .raiseWindow ∧ restacks platform options = true := by
  rcases List.mem_append.mp hcurrent with h | h
  · obtain ⟨front', other, back', hsplit', -, hstep⟩ := mem_planWindows.mp h
    have hid := (windowSteps_targets hstep).1
    obtain ⟨rfl, rfl, -⟩ := split_unique hids hsplit hsplit' (htarget.symm.trans hid)
    change current ∈ windowSteps _ _ _ (bestLiveMatch window live
      (planWindows platform.capabilities options front live).used).isSome at hstep
    rw [hplanned.choice] at hstep
    exact .inl hstep
  · simp only [closingSteps, List.mem_append, List.mem_ite_nil_right] at h
    rcases h with (⟨hraise, h⟩ | ⟨-, h⟩) | ⟨-, h⟩
    · obtain ⟨other, -, rfl⟩ := List.mem_map.mp h
      simp only [step, Bool.not_eq_false'] at hactive
      exact .inr ⟨rfl, by simp [restacks, hraise, hactive]⟩
    · rw [List.mem_singleton.mp h] at hmoves
      simp [step, moves] at hmoves
    · rw [(mem_focusSteps h).2.1] at hmoves
      simp [moves] at hmoves

/-- What is launched before a place step of a window is listed before the window. -/
theorem launched_before (hids : (saved.windows.map (·.id)).Nodup) {front back : List WindowInfo}
    {window found : WindowInfo} (hsplit : saved.windows = front ++ window :: back)
    (hplanned : Planned platform saved options live front window (some found))
    {before after : List RestoreStep} {current : RestoreStep}
    (hsteps : (planFor platform saved options displays (.ok live)).steps
      = before ++ current :: after) (htarget : current.targetId = window.id)
    (hcurrent : closes current.kind = false) {launch : RestoreStep} (hlaunch : launch ∈ before)
    (hkind : launches launch.kind = true) :
    ∃ other ∈ front, launch.targetId = other.id := by
  obtain ⟨-, hback⟩ := id_ne_of_split hids hsplit
  obtain ⟨rest, hwindows, hrest⟩ := @planWindows_split platform.capabilities options live front back
    window hplanned.selected
  rw [← hsplit, hplanned.choice] at hwindows
  have hplan : (planFor platform saved options displays (.ok live)).steps
      = ((planWindows platform.capabilities options front live).steps
          ++ placeSteps platform.capabilities options window)
        ++ (rest ++ closingSteps platform.capabilities options saved) := by
    change (planWindows platform.capabilities options saved.windows live).steps ++ _ = _
    rw [hwindows, List.append_assoc]
    rfl
  rw [hplan] at hsteps
  rcases List.append_eq_append_iff.mp hsteps with ⟨more, hbefore, hmore⟩ | ⟨more, hbefore, -⟩
  · have hmem : current ∈ rest ++ closingSteps platform.capabilities options saved := by
      simp [hmore]
    rcases List.mem_append.mp hmem with h | h
    · obtain ⟨other, hother, -, matched, hstep⟩ := hrest current h
      exact absurd ((windowSteps_targets hstep).1.symm.trans htarget) (hback other hother)
    · simp [(closingSteps_closes h).1] at hcurrent
  · have hmem : launch ∈ (planWindows platform.capabilities options front live).steps
        ++ placeSteps platform.capabilities options window := by
      rw [hbefore]
      exact List.mem_append_left _ hlaunch
    rcases List.mem_append.mp hmem with h | h
    · obtain ⟨front', other, back', hfront, -, hstep⟩ := mem_planWindows.mp h
      exact ⟨other, by simp [hfront], (windowSteps_targets hstep).1⟩
    · simp [(placeSteps_targets h).2.2.1] at hkind

theorem drivesPlanned_of_undisturbed (hids : (saved.windows.map (·.id)).Nodup)
    (hlive : shownWindows handler s = .ok live)
    (h : Undisturbed platform saved options live) :
    DrivesPlanned handler s platform saved options bridge displays live := by
  intro front window found hplanned round hround htarget hmoves hactive
  obtain ⟨back, hsplit⟩ := hplanned.listed
  have hmem : window ∈ saved.windows := by simp [hsplit]
  obtain ⟨before, after, hsteps, hentry⟩ := Program.mem_journal_split hround
  have hcurrent : round.item ∈ (planFor platform saved options displays (.ok live)).steps := by
    simp [hsteps]
  have hmoving := moving_step hids hsplit hplanned hcurrent htarget hmoves hactive
  have hdriven : (placed platform options window || restacks platform options) = true := by
    rcases hmoving with hplace | ⟨-, hraised⟩
    · simp [(placed_of_mem hplace hmoves hactive).1]
    · simp [hraised]
  obtain ⟨hfree, hpid⟩ := h front window found hplanned hdriven
  -- Nothing before this step files anything under the id of the window.
  set context := executorContext handler s saved options bridge
  have hhandle : (Program.outcome handler (executeStep context) before
      (initialExecution saved (shownWindows handler s)) (beforeSteps handler s)).1.handles window.id
      = some found.nativeHandle := by
    refine (Program.journal_invariant (I := fun state : Execution =>
      state.handles window.id = some found.nativeHandle) ?_ _ ?_).2
    · intro current hbefore state s' hstate
      have hlisted : current ∈ (planFor platform saved options displays (.ok live)).steps := by
        rw [hsteps]
        exact List.mem_append_left _ hbefore
      rw [← hstate]
      apply (executeStep_effect handler context state current s').handles_eq
      · intro hkind hunskipped heq
        obtain ⟨front', other, hlaunched, hother⟩ := launched_of_mem hlisted
          (by simp [hkind, launches]) hunskipped
        obtain ⟨hraised, hnot⟩ := hpid front' other hlaunched (hother ▸ heq)
        rcases hmoving with hplace | ⟨-, hraise⟩
        · obtain ⟨other', hfront, hid⟩ := launched_before hids hsplit hplanned hsteps htarget
            (placeSteps_targets hplace).2.2.2 hbefore (by simp [hkind, launches])
          obtain ⟨⟨back', hsplit'⟩, -, -⟩ := hlaunched.1
          have hsame : other = other' := List.inj_on_of_nodup_map hids (by simp [hsplit'])
            (by simp [hsplit, hfront]) (hother.symm.trans hid)
          exact hnot (hsame ▸ hfront)
        · simp [hraise] at hraised
      · intro hkind hunskipped heq
        obtain ⟨front', other, hlaunched, hother⟩ := launched_of_mem hlisted
          (by simp [hkind, launches]) hunskipped
        obtain ⟨⟨back', hsplit'⟩, -, hnone⟩ := hlaunched.1
        obtain ⟨rfl, rfl, -⟩ := split_unique hids hsplit hsplit' (heq.symm.trans hother)
        simp [hplanned.choice] at hnone
    · rw [hlive]
      exact (prematch_planned_iff hids hplanned).mpr hfree
  have hlisted : context.snapshot.findWindow round.item.targetId = some window :=
    htarget ▸ findWindow_of_mem hids hmem
  rw [hentry]
  refine executeStep_drives handler hactive hmoves hlisted ?_ (htarget ▸ hhandle) _
  intro hkind
  rcases hmoving with hplace | ⟨hraise, -⟩
  · exact (placed_of_mem hplace hmoves hactive).2 hkind
  · simp [hraise] at hkind

end Runs

/-! ### Disturbed runs -/

section Disturbed

/-- A platform that shows `live`, answers every launch with `launched`, and on which no window ever
appears. -/
def answering (live : List WindowInfo) (launched : Result UInt64) :
    (op : Hal.Op) → Unit → Hal.Answer op × Unit
  | .launch _, s => (launched, s)
  | op, s => obliging (.ok live) op s

variable {platform : Platform} {saved : Snapshot} {options : RestoreOptions} {bridge : Bool}
  {displays : Result (List MonitorInfo)} {live : List WindowInfo}

/-- On such a platform only launches file something. -/
theorem Effect.handles_answering {launched : Result UInt64} {context : Context}
    {state after : Execution} {current : RestoreStep} {events : List Event}
    (h : Effect context state current events after)
    (hanswer : ∀ event ∈ events, event.answer = (answering live launched event.op ()).1) :
    after.handles = state.handles ∨ ∃ pid, launched = .ok pid
      ∧ after.handles = state.handles.set (pidKey current.targetId) pid := by
  cases h with
  | idle after hhandles hcounts => exact .inl hhandles
  | launched saved pid hcarries hsaved =>
      exact .inr ⟨pid, (hanswer _ (List.mem_singleton.mpr rfl)).symm, rfl⟩
  | launchFailed saved e error hcarries hsaved => exact .inl rfl
  | appeared saved found pid timeout hcarries hsaved =>
      exact absurd (hanswer _ (List.mem_singleton.mpr rfl)) (by simp [answering, obliging])
  | noWindow saved e error pid timeout hcarries hsaved => exact .inl rfl
  | placed handle frame hcarries hhandle => exact .inl rfl
  | notPlaced handle frame e error hcarries hhandle => exact .inl rfl
  | called op answer after hcarries hplaces hdrives hhandles hcounts => exact .inl hhandles

theorem answering_handles (launched : Result UInt64) (context : Context) (state : Execution)
    (current : RestoreStep) (s : Unit) :
    let after := ((executeStep context state current).trace (answering live launched) s).2.1
    after.handles = state.handles ∨ ∃ pid, launched = .ok pid
      ∧ after.handles = state.handles.set (pidKey current.targetId) pid := by
  have hanswer : ∀ event ∈ ((executeStep context state current).trace
      (answering live launched) s).1, event.answer = (answering live launched event.op ()).1 := by
    intro event hevent
    obtain ⟨s', hanswer⟩ := Program.answer_of_mem_trace _ hevent
    exact hanswer
  exact (executeStep_effect _ context state current s).handles_answering hanswer

/-- A moving step behind which nothing else is filed under its id says what is filed there. -/
theorem drivesPlanned_handle {launched : Result UInt64} {front : List WindowInfo}
    {window found : WindowInfo}
    (h : DrivesPlanned (answering live launched) () platform saved options bridge displays live)
    (hplanned : Planned platform saved options live front window (some found))
    {before after : List RestoreStep} {current : RestoreStep}
    (hsteps : (planFor platform saved options displays (.ok live)).steps
      = before ++ current :: after) (htarget : current.targetId = window.id)
    (hmoves : moves current.kind = true) (hactive : current.skipped = false) :
    (Program.outcome (answering live launched)
      (executeStep (executorContext (answering live launched) () saved options bridge)) before
      (initialExecution saved (.ok live)) ()).1.handles window.id = some found.nativeHandle := by
  set context := executorContext (answering live launched) () saved options bridge
  set state := (Program.outcome (answering live launched) (executeStep context) before
    (initialExecution saved (.ok live)) ()).1
  have hround : Program.entry (answering live launched) (executeStep context) state current ()
      ∈ planRounds (answering live launched) () saved
        (planFor platform saved options displays (.ok live)) options bridge := by
    rw [planRounds, hsteps]
    exact Program.entry_mem_journal _ _ before after current (initialExecution saved (.ok live)) ()
  have hdrives := h front window found hplanned _ hround htarget hmoves hactive
  have hmem : found.nativeHandle ∈ (Program.entry (answering live launched) (executeStep context)
      state current ()).events.filterMap (drives ·.op) := by
    rw [hdrives]
    exact List.mem_singleton.mpr rfl
  obtain ⟨event, hevent, hdriven⟩ := List.mem_filterMap.mp hmem
  rw [← htarget]
  exact (executeStep_effect _ context state current ()).drives_eq hevent hdriven

/-- Where windows are moved, a step of the plan does it. -/
theorem exists_moving_step {front : List WindowInfo} {window found : WindowInfo}
    (hplanned : Planned platform saved options live front window (some found))
    (hdriven : (placed platform options window || restacks platform options) = true) :
    ∃ current ∈ (planFor platform saved options displays (.ok live)).steps,
      current.targetId = window.id ∧ moves current.kind = true ∧ current.skipped = false := by
  obtain ⟨⟨back, hsplit⟩, hselected, hchoice⟩ := hplanned
  rcases Bool.or_eq_true_iff.mp hdriven with hplaced | hraised
  · obtain ⟨current, hcurrent, hmoves, hactive, htarget⟩ := exists_placeStep hplaced
    refine ⟨current, List.mem_append_left _ (mem_planWindows.mpr
      ⟨front, window, back, hsplit, hselected, ?_⟩), htarget, hmoves, hactive⟩
    change current ∈ windowSteps _ _ _ (bestLiveMatch window live
      (planWindows platform.capabilities options front live).used).isSome
    rw [hchoice]
    exact hcurrent
  · simp only [restacks, Bool.and_eq_true] at hraised
    refine ⟨_, List.mem_append_right _ (List.mem_append_left _ (List.mem_append_left _ ?_)), rfl,
      rfl, (by simp [step, hraised.2] :
        (step .raiseWindow window.id (str "raise \"" ++ window.title ++ str "\"")
          (!platform.capabilities.zOrder)).skipped = false)⟩
    rw [if_pos hraised.1]
    refine List.mem_map.mpr ⟨window, (List.mem_insertionSort _).mpr ?_, rfl⟩
    exact List.mem_filter.mpr ⟨by simp [hsplit], hselected⟩

/-- The launch of a window precedes every raise, and the place steps of the windows behind it. -/
theorem launch_before_moving (hids : (saved.windows.map (·.id)).Nodup)
    {front before : List WindowInfo} {window other found : WindowInfo}
    (hplanned : Planned platform saved options live front window (some found))
    (hlaunched : Launched platform saved options live before other)
    (hdriven : (placed platform options window || restacks platform options) = true)
    (hlate : restacks platform options = true ∨ other ∈ front) :
    ∃ steps current after, (planFor platform saved options displays (.ok live)).steps
        = steps ++ current :: after
      ∧ current.targetId = window.id ∧ moves current.kind = true ∧ current.skipped = false
      ∧ ∃ launch ∈ steps, launch.kind = .launchProcess ∧ launch.skipped = false
        ∧ launch.targetId = other.id := by
  obtain ⟨⟨⟨back', hsplit'⟩, hselected', hchoice'⟩, hlaunch, hcan⟩ := hlaunched
  obtain ⟨⟨back, hsplit⟩, hselected, hchoice⟩ := hplanned
  have hmem : ∀ windows rest, windows = before ++ other :: rest →
      ∃ launch ∈ (planWindows platform.capabilities options windows live).steps,
        launch.kind = .launchProcess ∧ launch.skipped = false ∧ launch.targetId = other.id := by
    intro windows rest hwindows
    refine ⟨step .launchProcess other.id (str "launch " ++ other.process.appId), ?_, rfl, rfl, rfl⟩
    refine mem_planWindows.mpr ⟨before, other, rest, hwindows, hselected', ?_⟩
    rw [hchoice', Option.isSome_none, windowSteps, if_neg (by simp), if_pos hlaunch]
    simp [launchSteps, hcan]
  by_cases hraised : restacks platform options = true
  · obtain ⟨launch, hlisted, hrest⟩ := hmem saved.windows back' hsplit'
    simp only [restacks, Bool.and_eq_true] at hraised
    set current := step .raiseWindow window.id (str "raise \"" ++ window.title ++ str "\"")
      (!platform.capabilities.zOrder) with hcurrent
    have hactive : current.skipped = false := by simp [hcurrent, step, hraised.2]
    have hraise : current ∈ closingSteps platform.capabilities options saved := by
      refine List.mem_append_left _ (List.mem_append_left _ ?_)
      rw [if_pos hraised.1]
      refine List.mem_map.mpr ⟨window, (List.mem_insertionSort _).mpr ?_, rfl⟩
      exact List.mem_filter.mpr ⟨by simp [hsplit], hselected⟩
    obtain ⟨steps, after, hclosing⟩ := List.append_of_mem hraise
    refine ⟨(planWindows platform.capabilities options saved.windows live).steps ++ steps, current,
      after, ?_, rfl, rfl, hactive, launch, List.mem_append_left _ hlisted, hrest⟩
    rw [List.append_assoc, ← hclosing]
    rfl
  · obtain ⟨f, g, hfront⟩ := List.append_of_mem (hlate.resolve_left hraised)
    have hbefore : before = f := by
      refine (split_unique hids hsplit' (?_ : _ = f ++ other :: (g ++ window :: back)) rfl).1
      rw [hsplit, hfront, List.append_assoc, List.cons_append]
    obtain ⟨launch, hlisted, hrest⟩ := hmem front g (hbefore ▸ hfront)
    obtain ⟨current, hcurrent, hmoves, hactive, htarget⟩ :=
      exists_placeStep ((Bool.or_eq_true_iff.mp hdriven).resolve_right hraised)
    obtain ⟨x, y, hplace⟩ := List.append_of_mem hcurrent
    obtain ⟨rest, hwindows, -⟩ := @planWindows_split platform.capabilities options live front back
      window hselected
    rw [← hsplit, hchoice] at hwindows
    refine ⟨(planWindows platform.capabilities options front live).steps ++ x, current,
      y ++ rest ++ closingSteps platform.capabilities options saved, ?_, htarget, hmoves, hactive,
      launch, List.mem_append_left _ hlisted, hrest⟩
    change (planWindows platform.capabilities options saved.windows live).steps ++ _ = _
    rw [hwindows]
    change _ ++ placeSteps platform.capabilities options window ++ rest ++ _ = _
    rw [hplace]
    simp

/-- **What agreement takes.** -/
theorem undisturbed_of_drivesPlanned (hids : (saved.windows.map (·.id)).Nodup)
    (h : ∀ launched, DrivesPlanned (answering live launched) () platform saved options bridge
      displays live) :
    Undisturbed platform saved options live := by
  intro front window found hplanned hdriven
  refine ⟨?_, ?_⟩
  · -- Where no launch succeeds, the pre-match stays as it is.
    obtain ⟨current, hcurrent, htarget, hmoves, hactive⟩ :=
      @exists_moving_step _ _ _ displays _ _ _ _ hplanned hdriven
    obtain ⟨before, after, hsteps⟩ := List.append_of_mem hcurrent
    have hhandle := drivesPlanned_handle (h (.error {})) hplanned hsteps htarget hmoves hactive
    rw [(Program.journal_invariant (I := fun state : Execution =>
      state.handles = prematch saved.windows live) ?_ () rfl).2] at hhandle
    · exact (prematch_planned_iff hids hplanned).mp hhandle
    · intro item _ state s hstate
      rcases answering_handles (.error {}) _ state item s with hkeep | ⟨pid, hpid, -⟩
      · exact hkeep.trans hstate
      · simp at hpid
  · intro before other hlaunched hkey
    by_contra hnot
    have hlate : restacks platform options = true ∨ other ∈ front := by
      by_contra hneither
      simp only [not_or, Bool.not_eq_true] at hneither
      exact hnot hneither
    obtain ⟨steps, current, after, hsteps, htarget, hmoves, hactive, launch, hlisted, hkind,
      hunskipped, hother⟩ :=
      @launch_before_moving _ _ _ displays _ hids _ _ _ _ _ hplanned hlaunched hdriven hlate
    -- A pid that is no handle of the window stays under its id from the launch on.
    set pid := found.nativeHandle + 1 with hpid
    have hhandle := drivesPlanned_handle (h (.ok pid)) hplanned hsteps htarget hmoves hactive
    have hlaunch : ∀ process s, (answering live (.ok pid) (.launch process) s).1
        = (.ok pid : Result UInt64) := fun _ _ => rfl
    set context := executorContext (answering live (.ok pid)) () saved options bridge
    have hkeeps : ∀ item ∈ steps, ∀ state s, state.handles window.id = some pid →
        ((executeStep context state item).trace (answering live (.ok pid)) s).2.1.handles window.id
          = some pid := by
      intro item _ state s hstate
      rcases answering_handles (.ok pid) context state item s with hkeep | ⟨n, hn, hset⟩
      · rw [hkeep]
        exact hstate
      · rw [hset, ← Except.ok.inj hn]
        by_cases hitem : window.id = pidKey item.targetId
        · rw [hitem, set_self]
        · rw [set_of_ne _ hitem]
          exact hstate
    have hbrings : ∀ state s,
        ((executeStep context state launch).trace (answering live (.ok pid)) s).2.1.handles
          window.id = some pid := by
      intro state s
      obtain ⟨⟨back, hsplit⟩, -, -⟩ := hlaunched.1
      have hfound : saved.findWindow other.id ≠ none := findWindow_ne_none (by simp [hsplit])
      rw [← hkey, ← hother]
      exact launch_files_pid hlaunch context hkind hunskipped (hother ▸ hfound) state s
    have hfiled := Program.outcome_of_mem (I := fun state : Execution =>
      state.handles window.id = some pid) hkeeps hlisted hbrings (initialExecution saved (.ok live)) ()
    have hsame := Option.some.inj (hfiled.symm.trans hhandle)
    simp [hpid] at hsame

/-- **Plan and execution agree.** Whatever the platform answers, every step that moves a window
drives what the planner found for the window, if and only if the windows listed before it leave that
one to it and no pid is filed under its id. -/
theorem drivesPlanned_iff (platform : Platform) (saved : Snapshot) (options : RestoreOptions)
    (bridge : Bool) (displays : Result (List MonitorInfo)) (live : List WindowInfo)
    (hids : (saved.windows.map (·.id)).Nodup) :
    (∀ (σ : Type) (handler : (op : Hal.Op) → σ → Hal.Answer op × σ) (s : σ),
      shownWindows handler s = .ok live →
      DrivesPlanned handler s platform saved options bridge displays live)
      ↔ Undisturbed platform saved options live := by
  constructor
  · intro h
    exact undisturbed_of_drivesPlanned hids fun launched =>
      h Unit (answering live launched) () rfl
  · intro h σ handler s hlive
    exact drivesPlanned_of_undisturbed hids hlive h

end Disturbed

/-! ### A window that takes another one's -/

/-- Two windows of the editor, of which the second one is to be restored. -/
def twoProjects : Snapshot :=
  { windows := [editorWindow, { editorWindow with id := str "w2" }] }

def secondProject : RestoreOptions := { selectors := [{ kind := .window, pattern := str "w2" }] }

def placingPlatform : Platform := { capabilities := { setWindowGeometry := true } }

def liveProject : List WindowInfo := [{ editorWindow with id := str "live", nativeHandle := 7 }]

theorem drivesPlanned_iff_liveProject :
    (twoProjects.windows.map (·.id)).Nodup
      ∧ ((∀ (σ : Type) (handler : (op : Hal.Op) → σ → Hal.Answer op × σ) (s : σ),
          shownWindows handler s = .ok liveProject →
          DrivesPlanned handler s placingPlatform twoProjects secondProject true (.error {})
            liveProject)
        ↔ Undisturbed placingPlatform twoProjects secondProject liveProject) :=
  ⟨by decide, drivesPlanned_iff placingPlatform twoProjects secondProject true (.error {})
    liveProject (by decide)⟩

set_option maxRecDepth 10000 in
/-- The planner gives the window on screen to the second one, the executor to the first. -/
theorem not_drivesPlanned_secondProject :
    (twoProjects.windows.map (·.id)).Nodup ∧ (liveProject.map (·.nativeHandle)).Nodup
      ∧ ¬ ∀ (σ : Type) (handler : (op : Hal.Op) → σ → Hal.Answer op × σ) (s : σ),
        shownWindows handler s = .ok liveProject →
        DrivesPlanned handler s placingPlatform twoProjects secondProject true (.error {})
          liveProject := by
  have hids : (twoProjects.windows.map (·.id)).Nodup := by decide
  refine ⟨hids, by decide, fun h => ?_⟩
  have hplanned : Planned placingPlatform twoProjects secondProject liveProject [editorWindow]
      { editorWindow with id := str "w2" }
      (some { editorWindow with id := str "live", nativeHandle := 7 }) :=
    ⟨⟨[], rfl⟩, by decide, by decide⟩
  have hundisturbed := undisturbed_of_drivesPlanned hids fun launched =>
    h Unit (answering liveProject launched) () rfl
  have htaken : (7 : UInt64) ∈ taken liveProject [editorWindow] [] := by decide
  exact (hundisturbed _ _ _ hplanned (by decide)).1 htaken

end ContextSnap.Restore
