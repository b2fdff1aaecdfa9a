import ContextSnap.Proof.RestoreMatching

/-!
# What a plan holds

Every step of a plan belongs to a selected window, to the cursor or to the focus, and is marked as
skipped when the platform cannot do it. The executor asks for nothing but what its step is about, so
a plan never makes it use a capability that the platform does not have.
-/

namespace ContextSnap.Restore

open Hal (Capabilities Platform Call)

variable {capabilities : Capabilities} {options : RestoreOptions} {live : List WindowInfo}

/-! ### The steps of one window -/

/-- The capability that a kind of step needs. -/
def allows (capabilities : Capabilities) : RestoreStepKind → Bool
  | .launchProcess | .waitForWindow => capabilities.launchProcesses
  | .moveWindow => capabilities.setWindowGeometry
  | .setWindowState => capabilities.setWindowState
  | .setWorkspace => capabilities.moveBetweenDesktops
  | .raiseWindow => capabilities.zOrder
  | .restoreTabs => true
  | .warpCursor => capabilities.cursorWarp
  | .focusWindow => capabilities.focusControl

/-- A step that the platform cannot do is skipped. -/
def Gated (capabilities : Capabilities) (current : RestoreStep) : Prop :=
  current.skipped = false → allows capabilities current.kind = true

def launches : RestoreStepKind → Bool
  | .launchProcess | .waitForWindow => true
  | _ => false

/-- The kinds of the sections behind the windows. -/
def closes : RestoreStepKind → Bool
  | .raiseWindow | .warpCursor | .focusWindow => true
  | _ => false

theorem placeSteps_targets {window : WindowInfo} {current : RestoreStep}
    (h : current ∈ placeSteps capabilities options window) :
    current.targetId = window.id ∧ Gated capabilities current
      ∧ launches current.kind = false ∧ closes current.kind = false := by
  simp only [placeSteps, List.mem_append, List.mem_singleton, List.mem_ite_nil_right] at h
  rcases h with ((rfl | ⟨-, rfl⟩) | ⟨-, rfl⟩) | ⟨-, rfl⟩ <;>
    simp [step, Gated, allows, launches, closes]

theorem launchSteps_targets {window : WindowInfo} {current : RestoreStep}
    (h : current ∈ launchSteps capabilities window) :
    current.targetId = window.id ∧ Gated capabilities current
      ∧ launches current.kind = true ∧ closes current.kind = false := by
  simp only [launchSteps, List.mem_cons, List.not_mem_nil, or_false] at h
  rcases h with rfl | rfl <;> simp [step, Gated, allows, launches, closes]

theorem windowSteps_targets {window : WindowInfo} {matched : Bool} {current : RestoreStep}
    (h : current ∈ windowSteps capabilities options window matched) :
    current.targetId = window.id ∧ Gated capabilities current ∧ closes current.kind = false := by
  unfold windowSteps at h
  split_ifs at h
  · obtain ⟨htarget, hgated, -, hcloses⟩ := placeSteps_targets h
    exact ⟨htarget, hgated, hcloses⟩
  · rcases List.mem_append.mp h with h | h
    · obtain ⟨htarget, hgated, -, hcloses⟩ := launchSteps_targets h
      exact ⟨htarget, hgated, hcloses⟩
    · obtain ⟨htarget, hgated, -, hcloses⟩ := placeSteps_targets h
      exact ⟨htarget, hgated, hcloses⟩
  · obtain rfl := List.mem_singleton.mp h
    simp [step, Gated, closes]

/-! ### The steps of a plan -/

theorem planWindows_append (front back : List WindowInfo) :
    planWindows capabilities options (front ++ back) live
      = back.foldl (planWindow capabilities options live)
          (planWindows capabilities options front live) := by
  rw [planWindows, planWindows, List.foldl_append]

variable (capabilities options live) in
/-- The loop over the windows only adds steps, each of a selected window. -/
theorem foldl_planWindow_steps (windows : List WindowInfo) (planner : Planner) :
    ∃ added, (windows.foldl (planWindow capabilities options live) planner).steps
        = planner.steps ++ added
      ∧ ∀ current ∈ added, ∃ window ∈ windows, selectorMatches window options.selectors = true
        ∧ ∃ matched, current ∈ windowSteps capabilities options window matched := by
  induction windows generalizing planner with
  | nil => exact ⟨[], by simp, by simp⟩
  | cons window windows ih =>
      obtain ⟨added, hsteps, hadded⟩ := ih (planWindow capabilities options live planner window)
      rw [List.foldl_cons, hsteps, planWindow]
      by_cases h : selectorMatches window options.selectors = true
      · rw [if_pos h]
        refine ⟨windowSteps capabilities options window
          (bestLiveMatch window live planner.used).isSome ++ added, by simp, ?_⟩
        intro current hcurrent
        rcases List.mem_append.mp hcurrent with hcurrent | hcurrent
        · exact ⟨window, by simp, h, _, hcurrent⟩
        · obtain ⟨w, hw, hrest⟩ := hadded current hcurrent
          exact ⟨w, List.mem_cons_of_mem _ hw, hrest⟩
      · rw [if_neg h]
        refine ⟨added, rfl, ?_⟩
        intro current hcurrent
        obtain ⟨w, hw, hrest⟩ := hadded current hcurrent
        exact ⟨w, List.mem_cons_of_mem _ hw, hrest⟩

/-- The steps of a plan around those of one of its windows. -/
theorem planWindows_split {front back : List WindowInfo} {window : WindowInfo}
    (h : selectorMatches window options.selectors = true) :
    ∃ rest, (planWindows capabilities options (front ++ window :: back) live).steps
        = (planWindows capabilities options front live).steps
          ++ windowSteps capabilities options window
              (bestLiveMatch window live (planWindows capabilities options front live).used).isSome
          ++ rest
      ∧ ∀ current ∈ rest, ∃ w ∈ back, selectorMatches w options.selectors = true
        ∧ ∃ matched, current ∈ windowSteps capabilities options w matched := by
  obtain ⟨rest, hsteps, hrest⟩ := foldl_planWindow_steps capabilities options live back
    (planWindow capabilities options live (planWindows capabilities options front live) window)
  refine ⟨rest, ?_, hrest⟩
  rw [planWindows_append, List.foldl_cons, hsteps, planWindow, if_pos h]

/-- A step of a plan is one of a selected window's own, raises a selected window, or is about the
cursor or the focus. -/
inductive PlanStep (capabilities : Capabilities) (options : RestoreOptions) (saved : Snapshot) :
    RestoreStep → Prop where
  | window (window : WindowInfo) (matched : Bool) (current : RestoreStep)
      (hmem : window ∈ saved.windows) (hselected : selectorMatches window options.selectors = true)
      (hstep : current ∈ windowSteps capabilities options window matched) :
      PlanStep capabilities options saved current
  | raise (window : WindowInfo) (hmem : window ∈ saved.windows)
      (hselected : selectorMatches window options.selectors = true) :
      PlanStep capabilities options saved (step .raiseWindow window.id
        (str "raise \"" ++ window.title ++ str "\"") (!capabilities.zOrder))
  | warp (current : RestoreStep) (hstep : current ∈ cursorSteps capabilities saved.cursor) :
      PlanStep capabilities options saved current
  | focus (current : RestoreStep) (hfocus : options.restoreFocus = true)
      (hstep : current ∈ focusSteps capabilities saved.cursor) :
      PlanStep capabilities options saved current

theorem mem_closingSteps {saved : Snapshot} {current : RestoreStep}
    (h : current ∈ closingSteps capabilities options saved) :
    PlanStep capabilities options saved current := by
  simp only [closingSteps, List.mem_append, List.mem_ite_nil_right] at h
  rcases h with (⟨-, h⟩ | ⟨-, h⟩) | ⟨hfocus, h⟩
  · obtain ⟨window, hwindow, rfl⟩ := List.mem_map.mp h
    obtain ⟨hmem, hselected⟩ := List.mem_filter.mp ((List.mem_insertionSort _).mp hwindow)
    exact .raise window hmem hselected
  · exact .warp current h
  · exact .focus current hfocus h

/-- The sections behind the windows neither launch nor place. -/
theorem closingSteps_closes {saved : Snapshot} {current : RestoreStep}
    (h : current ∈ closingSteps capabilities options saved) :
    closes current.kind = true ∧ launches current.kind = false ∧ current.kind ≠ .moveWindow := by
  have hcloses : closes current.kind = true := by
    simp only [closingSteps, List.mem_append, List.mem_ite_nil_right] at h
    rcases h with (⟨-, h⟩ | ⟨-, h⟩) | ⟨-, h⟩
    · obtain ⟨window, -, rfl⟩ := List.mem_map.mp h
      rfl
    · obtain rfl := List.mem_singleton.mp h
      rfl
    · unfold focusSteps at h
      split at h
      · obtain rfl := List.mem_singleton.mp h
        rfl
      · simp at h
  refine ⟨hcloses, ?_, ?_⟩
  · cases hkind : current.kind <;> simp [hkind, closes, launches] at hcloses ⊢
  · intro hkind
    simp [hkind, closes] at hcloses

theorem mem_planFor_steps {platform : Platform} {saved : Snapshot}
    {displays : Result (List MonitorInfo)} {live : Result (List WindowInfo)}
    {current : RestoreStep} (h : current ∈ (planFor platform saved options displays live).steps) :
    PlanStep platform.capabilities options saved current := by
  rcases List.mem_append.mp h with h | h
  · obtain ⟨added, hsteps, hadded⟩ := foldl_planWindow_steps platform.capabilities options
      (live.toOption.getD []) saved.windows {}
    rw [planWindows, hsteps, List.nil_append] at h
    obtain ⟨window, hmem, hselected, matched, hstep⟩ := hadded current h
    exact .window window matched current hmem hselected hstep
  · exact mem_closingSteps h

theorem PlanStep.gated {saved : Snapshot} {current : RestoreStep}
    (h : PlanStep capabilities options saved current) : Gated capabilities current := by
  cases h with
  | window window matched current hmem hselected hstep => exact (windowSteps_targets hstep).2.1
  | raise window hmem hselected => simp [step, Gated, allows]
  | warp current hstep =>
      obtain rfl := List.mem_singleton.mp hstep
      simp [step, Gated, allows]
  | focus current hfocus hstep =>
      unfold focusSteps at hstep
      split at hstep
      · obtain rfl := List.mem_singleton.mp hstep
        simp [step, Gated, allows]
      · simp at hstep

end ContextSnap.Restore
