import ContextSnap.Proof.RestoreExecution

/-!
# Selective restore

Launching, waiting, placing, raising and the tabs of a plan are all for selected windows. The focus
is not filtered: the executor drives the window that had the focus whenever it has a handle for it.
-/

namespace ContextSnap.Restore

open Hal (Platform)

/-- Calls that change something on screen. -/
def mutates : Hal.Op → Bool
  | .launch _ | .setFrame _ _ | .setState _ _ | .moveWindow _ _ | .raise _ | .focus _
  | .restoreTabs _ _ => true
  | _ => false

/-- The id of a window that the selectors accept. -/
def Selected (saved : Snapshot) (selectors : List RestoreSelector) (id : Bytes) : Prop :=
  ∃ window ∈ saved.windows, window.id = id ∧ selectorMatches window selectors = true

instance (saved : Snapshot) (selectors : List RestoreSelector) (id : Bytes) :
    Decidable (Selected saved selectors id) :=
  inferInstanceAs (Decidable (∃ window ∈ saved.windows, window.id = id
    ∧ selectorMatches window selectors = true))

/-- Every mutating call is made by a step for a selected window. -/
def TouchesSelected (saved : Snapshot) (selectors : List RestoreSelector)
    (rounds : List Round) : Prop :=
  ∀ round ∈ rounds, ∀ event ∈ round.events, mutates event.op = true →
    Selected saved selectors round.item.targetId

/-- The focus, if it is to be restored, goes to a selected window, or the executor has no handle for
it: it finds no live window for it, nor does the pid of a launched app end up under its id. -/
def FocusSelected (platform : Platform) (saved : Snapshot) (options : RestoreOptions)
    (plan : RestorePlan) (live : List WindowInfo) : Prop :=
  ∀ focused, options.restoreFocus = true → platform.capabilities.focusControl = true →
    saved.cursor.focusedWindowId = some focused →
    Selected saved options.selectors focused
      ∨ prematch saved.windows live focused = none
        ∧ ∀ current ∈ plan.steps, current.kind = .launchProcess → current.skipped = false →
          pidKey current.targetId ≠ focused

section

variable {platform : Platform} {saved : Snapshot} {options : RestoreOptions} {bridge : Bool}
  {displays : Result (List MonitorInfo)} {planned : Result (List WindowInfo)}

/-- Only the focus step may be for a window that is not selected. -/
theorem selected_or_focus {current : RestoreStep}
    (h : current ∈ (planFor platform saved options displays planned).steps)
    {op : Hal.Op} (hcarries : Carries current op) (hmutates : mutates op = true) :
    Selected saved options.selectors current.targetId
      ∨ options.restoreFocus = true ∧ current ∈ focusSteps platform.capabilities saved.cursor := by
  cases mem_planFor_steps h with
  | window window matched current hmem hselected hstep =>
      exact .inl ⟨window, hmem, (windowSteps_targets hstep).1.symm, hselected⟩
  | raise window hmem hselected => exact .inl ⟨window, hmem, rfl, hselected⟩
  | warp current hstep =>
      have hkind : current.kind = .warpCursor := by rw [List.mem_singleton.mp hstep]; rfl
      have hop := hcarries.2
      rw [hkind] at hop
      cases op <;> simp [stepOf, mutates] at hop hmutates
  | focus current hfocus hstep => exact .inr ⟨hfocus, hstep⟩

theorem mem_focusSteps {capabilities : Hal.Capabilities} {cursor : CursorState}
    {current : RestoreStep} (h : current ∈ focusSteps capabilities cursor) :
    cursor.focusedWindowId = some current.targetId ∧ current.kind = .focusWindow
      ∧ current.skipped = !capabilities.focusControl := by
  unfold focusSteps at h
  split at h
  · rename_i focused hfocused
    rw [List.mem_singleton.mp h]
    exact ⟨hfocused, rfl, rfl⟩
  · simp at h

theorem wait_selected {current : RestoreStep}
    (h : current ∈ (planFor platform saved options displays planned).steps)
    (hkind : current.kind = .waitForWindow) :
    Selected saved options.selectors current.targetId := by
  cases mem_planFor_steps h with
  | window window matched current hmem hselected hstep =>
      exact ⟨window, hmem, (windowSteps_targets hstep).1.symm, hselected⟩
  | raise window hmem hselected => simp [step] at hkind
  | warp current hstep =>
      rw [List.mem_singleton.mp hstep] at hkind
      simp [step] at hkind
  | focus current hfocus hstep =>
      rw [(mem_focusSteps hstep).2.1] at hkind
      simp at hkind

/-- Without a handle for it, an unselected window is never focused. -/
theorem touchesSelected_of_focusSelected {σ : Type}
    {handler : (op : Hal.Op) → σ → Hal.Answer op × σ} {s : σ}
    (hfocus : FocusSelected platform saved options
      (planFor platform saved options displays planned)
      ((shownWindows handler s).toOption.getD [])) :
    TouchesSelected saved options.selectors
      (planRounds handler s saved (planFor platform saved options displays planned) options
        bridge) := by
  intro round hround event hevent hmutates
  obtain ⟨hitem, heffect⟩ := mem_planRounds hround
  have hcarries := heffect.carries hevent
  rcases selected_or_focus hitem hcarries hmutates with hselected | ⟨hrestore, hstep⟩
  · exact hselected
  · obtain ⟨hfocused, hkind, hskipped⟩ := mem_focusSteps hstep
    have hcontrol : platform.capabilities.focusControl = true := by
      have hactive := hcarries.1
      rw [hskipped] at hactive
      simpa using hactive
    rcases hfocus _ hrestore hcontrol hfocused with hselected | ⟨hunmatched, hpid⟩
    · exact hselected
    · by_contra hnot
      -- The id of the focused window stays without a handle in every round.
      have hrounds := planRounds_invariant (I := fun state : Execution =>
        state.handles round.item.targetId = none) handler s saved options bridge hunmatched
        fun current hcurrent state events after hnone hstep => by
          rw [hstep.handles_eq (hpid current hcurrent)]
          · exact hnone
          · intro hwait _ htarget
            exact hnot (htarget ▸ wait_selected hcurrent hwait)
      have hop := hcarries.2
      rw [hkind] at hop
      obtain ⟨handle, hdrives⟩ : ∃ handle, drives event.op = some handle := by
        cases hcase : event.op <;> simp [stepOf, drives, hcase] at hop ⊢
      have hnone := (hrounds.1 round hround).1
      rw [heffect.drives_eq hevent hdrives] at hnone
      exact absurd hnone (Option.some_ne_none handle)

theorem findWindow_ne_none {window : WindowInfo} (h : window ∈ saved.windows) :
    saved.findWindow window.id ≠ none := by
  intro hnone
  have := List.find?_eq_none.mp hnone window h
  simp at this

/-- A launch step is one of a window of the snapshot. -/
theorem launch_found {current : RestoreStep}
    (h : current ∈ (planFor platform saved options displays planned).steps)
    (hkind : current.kind = .launchProcess) : saved.findWindow current.targetId ≠ none := by
  cases mem_planFor_steps h with
  | window window matched current hmem hselected hstep =>
      rw [(windowSteps_targets hstep).1]
      exact findWindow_ne_none hmem
  | raise window hmem hselected => simp [step] at hkind
  | warp current hstep =>
      rw [List.mem_singleton.mp hstep] at hkind
      simp [step] at hkind
  | focus current hfocus hstep =>
      rw [(mem_focusSteps hstep).2.1] at hkind
      simp at hkind

variable (platform displays planned) in
/-- The focus step is the last one. -/
theorem planFor_steps_focus {focused : Bytes} (hrestore : options.restoreFocus = true)
    (hfocused : saved.cursor.focusedWindowId = some focused) :
    ∃ front, (planFor platform saved options displays planned).steps
      = front ++ [step .focusWindow focused (str "focus the previously active window")
          (!platform.capabilities.focusControl)] := by
  refine ⟨(planWindows platform.capabilities options saved.windows (planned.toOption.getD [])).steps
    ++ ((if options.restoreZOrder then raiseSteps platform.capabilities options saved.windows else [])
      ++ (if options.restoreCursor then cursorSteps platform.capabilities saved.cursor else [])), ?_⟩
  simp [planFor, closingSteps, focusSteps, hrestore, hfocused, List.append_assoc]

/-- A launch that succeeds files its pid. -/
theorem launch_files_pid {σ : Type} {handler : (op : Hal.Op) → σ → Hal.Answer op × σ}
    {pid : UInt64}
    (hpid : ∀ process s, (handler (.launch process) s).1 = (.ok pid : Result UInt64))
    (context : Context) {current : RestoreStep} (hkind : current.kind = .launchProcess)
    (hactive : current.skipped = false)
    (hfound : context.snapshot.findWindow current.targetId ≠ none) (state : Execution) (s : σ) :
    ((executeStep context state current).trace handler s).2.1.handles
      (pidKey current.targetId) = some pid := by
  obtain ⟨window, hwindow⟩ := Option.ne_none_iff_exists'.mp hfound
  have hstep : executeStep context state current
      = executeLaunch state current.targetId window := by
    simp [executeStep, hactive, hkind, hwindow]
  rw [hstep]
  refine Program.trace_ask_value handler (P := fun (answer : Hal.Answer (.launch window.process))
    (after : Execution) => answer = (.ok pid : Result UInt64) →
      after.handles (pidKey current.targetId) = some pid) ?_ s (hpid window.process s)
  rintro (e | launched)
  · exact ⟨_, rfl, fun h => by simp at h⟩
  · exact ⟨_, rfl, fun h => by rw [← Except.ok.inj h]; exact set_self ..⟩

theorem focus_drives {σ : Type} (handler : (op : Hal.Op) → σ → Hal.Answer op × σ)
    (context : Context) (current : RestoreStep) (hkind : current.kind = .focusWindow)
    (hactive : current.skipped = false) {state : Execution} {handle : UInt64}
    (hhandle : state.handles current.targetId = some handle) (s : σ) :
    ((executeStep context state current).trace handler s).1
      = [⟨.focus handle, (handler (.focus handle) s).1⟩] := by
  have hstep : executeStep context state current
      = (do return state.settle (str "focus") (← Hal.focus handle)) := by
    simp [executeStep, hactive, hkind, hhandle]
  rw [hstep]
  rfl

/-- Where nothing unselected is touched, the focus is on a selected window or without a handle. -/
theorem focusSelected_of_touchesSelected {live : List WindowInfo}
    (h : TouchesSelected saved options.selectors
      (planRounds (obliging (.ok live)) () saved (planFor platform saved options displays planned)
        options bridge)) :
    FocusSelected platform saved options (planFor platform saved options displays planned) live := by
  intro focused hrestore hcontrol hfocused
  obtain ⟨front, hsteps⟩ := planFor_steps_focus platform displays planned hrestore hfocused
  set context := executorContext (obliging (.ok live)) () saved options bridge
  by_cases hbound : (Program.outcome (obliging (.ok live)) (executeStep context) front
    (initialExecution saved (.ok live)) ()).1.handles focused = none
  · refine .inr ⟨?_, ?_⟩
    · by_contra hmatched
      refine absurd hbound (Program.journal_invariant (I := fun state : Execution =>
        state.handles focused ≠ none) ?_ () hmatched).2
      intro current _ state s' hstate
      exact (executeStep_effect _ context state current s').handles_ne_none hstate
    · intro current hcurrent hkind hactive hpid
      have hfront : current ∈ front := by
        rw [hsteps] at hcurrent
        rcases List.mem_append.mp hcurrent with hmem | hmem
        · exact hmem
        · rw [List.mem_singleton.mp hmem] at hkind
          simp [step] at hkind
      refine absurd hbound (Program.outcome_of_mem (I := fun state : Execution =>
        state.handles focused ≠ none) ?_ hfront ?_ _ ())
      · intro item _ state s' hstate
        exact (executeStep_effect _ context state item s').handles_ne_none hstate
      · intro state s'
        rw [← hpid]
        have hpid : ∀ process s, (obliging (.ok live) (.launch process) s).1
            = (.ok 1 : Result UInt64) := fun _ _ => rfl
        have hfiled := launch_files_pid hpid context hkind hactive (launch_found hcurrent hkind)
          state s'
        exact ne_of_eq_of_ne hfiled (Option.some_ne_none _)
  · obtain ⟨handle, hhandle⟩ := Option.ne_none_iff_exists'.mp hbound
    refine .inl (h (Program.entry (obliging (.ok live)) (executeStep context)
      (Program.outcome (obliging (.ok live)) (executeStep context) front
        (initialExecution saved (.ok live)) ()).1
      (step .focusWindow focused (str "focus the previously active window")
        (!platform.capabilities.focusControl)) ()) ?_ ⟨.focus handle, (.ok () : Status)⟩ ?_ rfl)
    · rw [planRounds, hsteps, Program.journal_append]
      exact List.mem_append_right _ (List.mem_singleton.mpr rfl)
    · have hevents := focus_drives (obliging (.ok live)) context
        (step .focusWindow focused (str "focus the previously active window")
          (!platform.capabilities.focusControl)) rfl (by simp [step, hcontrol]) hhandle ()
      change _ ∈ ((executeStep context _ _).trace (obliging (.ok live)) ()).1
      rw [hevents]
      exact List.mem_singleton.mpr rfl

/-- **Selective restore.** Whatever the platform answers, executing a plan touches only selected
windows, if and only if the focus is on one of them or on a window that the executor has no handle
for. -/
theorem touchesSelected_iff (platform : Platform) (saved : Snapshot) (options : RestoreOptions)
    (bridge : Bool) (displays : Result (List MonitorInfo)) (planned : Result (List WindowInfo))
    (live : List WindowInfo) :
    (∀ (σ : Type) (handler : (op : Hal.Op) → σ → Hal.Answer op × σ) (s : σ),
      (shownWindows handler s).toOption.getD [] = live →
      TouchesSelected saved options.selectors
        (planRounds handler s saved (planFor platform saved options displays planned) options
          bridge))
      ↔ FocusSelected platform saved options (planFor platform saved options displays planned)
        live := by
  constructor
  · intro h
    exact focusSelected_of_touchesSelected (h Unit (obliging (.ok live)) () rfl)
  · intro h σ handler s hlive
    exact touchesSelected_of_focusSelected (hlive ▸ h)

end

/-! ### A focus that is not selected -/

def editorWindow : WindowInfo :=
  { id := str "w1", title := str "main.cpp", process := { appId := str "code" } }

def mailWindow : WindowInfo :=
  { id := str "w2", title := str "Inbox", process := { appId := str "thunderbird" } }

/-- An editor and a mail window, which had the focus. -/
def editorAndMail : Snapshot :=
  { windows := [editorWindow, mailWindow], cursor := { focusedWindowId := some (str "w2") } }

def editorOnly : RestoreOptions := { selectors := [{ kind := .app, pattern := str "code" }] }

def focusingPlatform : Platform := { capabilities := { focusControl := true } }

def launchingPlatform : Platform := { capabilities := { launchProcesses := true } }

/-- The mail window on screen. -/
def liveMail : List WindowInfo := [{ mailWindow with id := str "live", nativeHandle := 7 }]

set_option maxRecDepth 10000 in
/-- A restore of the editor alone takes the focus to the mail window. -/
theorem not_touchesSelected_editorOnly :
    editorOnly.selectors ≠ [] ∧ ¬ TouchesSelected editorAndMail editorOnly.selectors
      (planRounds (obliging (.ok liveMail)) () editorAndMail
        (planFor focusingPlatform editorAndMail editorOnly (.error {}) (.ok liveMail)) editorOnly
        true) := by
  refine ⟨by decide, fun h => ?_⟩
  rcases focusSelected_of_touchesSelected h (str "w2") rfl rfl rfl with hselected | ⟨hnone, -⟩
  · exact absurd hselected (by decide)
  · exact absurd hnone (by decide)

end ContextSnap.Restore
