import ContextSnap.Proof.RestoreMatching

/-!
# Narrower selectors

The planner gives live windows away one saved window after another. Fewer selected windows take
fewer live ones, so what is left for a window is never less, and a window that is launched by the
narrow plan is also launched by the wide one.
-/

namespace ContextSnap.Restore

open FloatOrder Greedy
open Hal (Capabilities Platform)
open Matching (normalizeAppId)

/-! ### The planner with any matcher -/

section Scored

variable {L : Type} [LT L] [LE L] [DecidableLT L] [DecidableLE L]
  (score : WindowInfo → WindowInfo → L) (start threshold : L)

def considerScored (saved : WindowInfo) (alreadyUsed : List UInt64) (best : Option WindowInfo × L)
    (candidate : WindowInfo) : Option WindowInfo × L :=
  if candidate.nativeHandle ∈ alreadyUsed then best
  else if normalizeAppId candidate.process.appId ≠ normalizeAppId saved.process.appId then best
  else if best.2 < score saved candidate then (some candidate, score saved candidate)
  else best

/-- `best_live_match` with any score in place of the one that is computed from the windows. -/
def bestScored (live : List WindowInfo) (saved : WindowInfo) (alreadyUsed : List UInt64) :
    Option WindowInfo :=
  let best := live.foldl (considerScored score saved alreadyUsed) (none, start)
  if best.2 ≥ threshold then best.1 else none

end Scored

theorem bestScored_matchScore (saved : WindowInfo) (live : List WindowInfo) (used : List UInt64) :
    bestScored matchScore 0.0 0.35 live saved used = bestLiveMatch saved live used := rfl

section LinearScore

variable {L : Type} [LinearOrder L] (score : WindowInfo → WindowInfo → L) (start threshold : L)

theorem foldl_considerScored (saved : WindowInfo) (used : List UInt64) (live : List WindowInfo)
    (best : Option WindowInfo × L) :
    live.foldl (considerScored score saved used) best
      = ((live.filter (sameApp saved)).filter fun c => decide (c.nativeHandle ∉ used)).foldl
          (challenge (score saved)) best := by
  rw [List.foldl_filter, List.foldl_filter]
  congr 1
  funext best c
  by_cases hused : c.nativeHandle ∈ used
  · simp [considerScored, hused]
  · by_cases happ : normalizeAppId c.process.appId = normalizeAppId saved.process.appId
    · simp [considerScored, sameApp, challenge, hused, happ]
    · simp [considerScored, sameApp, hused, happ]

theorem stable_bestScored (live : List WindowInfo) :
    Stable (·.nativeHandle) (bestScored score start threshold live) := by
  have heq : bestScored score start threshold live = fun saved used =>
      choose (score saved) start threshold
        ((live.filter (sameApp saved)).filter fun c => decide (c.nativeHandle ∉ used)) := by
    funext saved used
    rw [bestScored, foldl_considerScored]
    rfl
  rw [heq]
  exact stable_choose (·.nativeHandle) score start threshold sameApp live

end LinearScore

section Picked

variable (pick : List WindowInfo → WindowInfo → List UInt64 → Option WindowInfo)
  (capabilities : Capabilities) (options : RestoreOptions) (live : List WindowInfo)

/-- `planWindow` with any matcher. -/
def planWindowBy (planner : Planner) (window : WindowInfo) : Planner :=
  if selectorMatches window options.selectors then
    let found := pick live window planner.used
    { used := planner.used ++ (found.map (·.nativeHandle)).toList
      steps := planner.steps ++ windowSteps capabilities options window found.isSome
      estimate := planner.estimate + windowEstimate capabilities options window found.isSome }
  else planner

/-- `plan_restore` with any matcher, for what the platform showed. -/
def planBy (platform : Platform) (saved : Snapshot) (options : RestoreOptions)
    (displays : Result (List MonitorInfo)) (live : Result (List WindowInfo)) : RestorePlan :=
  let planner := saved.windows.foldl
    (planWindowBy pick platform.capabilities options (live.toOption.getD [])) {}
  { snapshotId := saved.metadata.id
    steps := planner.steps ++ closingSteps platform.capabilities options saved
    warnings := planWarnings platform saved displays live
    estimatedDurationMs := planner.estimate }

theorem planBy_bestLiveMatch (platform : Platform) (saved : Snapshot) (options : RestoreOptions)
    (displays : Result (List MonitorInfo)) (live : Result (List WindowInfo)) :
    planBy (fun live saved used => bestLiveMatch saved live used) platform saved options displays
        live
      = planFor platform saved options displays live := rfl

end Picked

/-! ### Two planners side by side -/

/-- The targets of the steps that launch an app. -/
def launched (steps : List RestoreStep) : List Bytes :=
  (steps.filter fun current => current.kind = .launchProcess).map (·.targetId)

theorem launched_append (steps more : List RestoreStep) :
    launched (steps ++ more) = launched steps ++ launched more := by
  rw [launched, List.filter_append, List.map_append, launched, launched]

/-- The steps launch nothing else than the others, and are no more of them. -/
structure NoMore (steps others : List RestoreStep) : Prop where
  launched : launched steps ⊆ launched others
  length : steps.length ≤ others.length

theorem NoMore.refl (steps : List RestoreStep) : NoMore steps steps :=
  ⟨List.Subset.refl _, le_refl _⟩

theorem NoMore.append {steps others more moreOthers : List RestoreStep} (h : NoMore steps others)
    (hmore : NoMore more moreOthers) : NoMore (steps ++ more) (others ++ moreOthers) where
  launched := by
    rw [launched_append, launched_append]
    exact List.append_subset.mpr ⟨List.subset_append_of_subset_left _ h.launched,
      List.subset_append_of_subset_right _ hmore.launched⟩
  length := by
    rw [List.length_append, List.length_append]
    exact Nat.add_le_add h.length hmore.length

theorem noMore_nil (steps : List RestoreStep) : NoMore [] steps :=
  ⟨List.nil_subset _, Nat.zero_le _⟩

section Narrow

variable {pick : List WindowInfo → WindowInfo → List UInt64 → Option WindowInfo}
  {capabilities : Capabilities} {live windows : List WindowInfo} {narrow wide : RestoreOptions}
  {planner other : Planner}

/-- A window with a match has some of the steps of one that is to be launched. -/
theorem noMore_windowSteps {options : RestoreOptions} (hlaunch : options.launchMissingApps = true)
    (window : WindowInfo) {matched other : Bool} (h : other = true → matched = true) :
    NoMore (windowSteps capabilities options window matched)
      (windowSteps capabilities options window other) := by
  cases other with
  | true =>
      rw [h rfl]
      exact NoMore.refl _
  | false =>
      cases matched with
      | false => exact NoMore.refl _
      | true =>
          have hother : windowSteps capabilities options window false
              = launchSteps capabilities window ++ placeSteps capabilities options window := by
            simp [windowSteps, hlaunch]
          have hmatched : windowSteps capabilities options window true
              = [] ++ placeSteps capabilities options window := rfl
          rw [hother, hmatched]
          exact (noMore_nil _).append (NoMore.refl _)

/-- One planner has given away less than the other, and its steps are no more. -/
structure Behind (planner other : Planner) : Prop where
  used : planner.used ⊆ other.used
  steps : NoMore planner.steps other.steps

/-- The options are the same but for the selectors, and the narrow ones accept fewer windows. -/
structure Narrows (windows : List WindowInfo) (narrow wide : RestoreOptions) : Prop where
  options : narrow = { wide with selectors := narrow.selectors }
  selected : ∀ window ∈ windows, selectorMatches window narrow.selectors = true →
    selectorMatches window wide.selectors = true

theorem windowSteps_narrow (h : narrow = { wide with selectors := narrow.selectors })
    (window : WindowInfo) (matched : Bool) :
    windowSteps capabilities narrow window matched
      = windowSteps capabilities wide window matched := by
  rw [h]
  rfl

/-- One round of both loops. -/
theorem Behind.planWindowBy (hstable : Stable (·.nativeHandle) (pick live)) {window : WindowInfo}
    (hbehind : Behind planner other) (hoptions : narrow = { wide with selectors := narrow.selectors })
    (hlaunch : wide.launchMissingApps = true)
    (hselected : selectorMatches window narrow.selectors = true →
      selectorMatches window wide.selectors = true) :
    Behind (planWindowBy pick capabilities narrow live planner window)
      (planWindowBy pick capabilities wide live other window) := by
  by_cases hnarrow : selectorMatches window narrow.selectors = true
  · rw [Restore.planWindowBy, if_pos hnarrow, Restore.planWindowBy, if_pos (hselected hnarrow)]
    dsimp only
    rw [windowSteps_narrow hoptions]
    have hsub := hbehind.used
    constructor
    · -- what the narrow planner takes is still free for the wide one, or taken before
      intro handle hhandle
      rcases List.mem_append.mp hhandle with hhandle | hhandle
      · exact List.mem_append_left _ (hsub hhandle)
      · obtain ⟨found, hfound, hkey⟩ : ∃ found, pick live window planner.used = some found
            ∧ found.nativeHandle = handle := by simpa using hhandle
        by_cases hused : found.nativeHandle ∈ other.used
        · exact List.mem_append_left _ (hkey ▸ hused)
        · rw [hstable.stays hfound hsub hused]
          exact List.mem_append_right _ (by simp [hkey])
    · apply hbehind.steps.append
      apply noMore_windowSteps hlaunch
      intro hother
      by_contra hnone
      have hfree := hstable.none_of_none (by simpa using hnone) hsub
      rw [hfree] at hother
      cases hother
  · rw [Restore.planWindowBy, if_neg hnarrow, Restore.planWindowBy]
    by_cases hwide : selectorMatches window wide.selectors = true
    · rw [if_pos hwide]
      constructor
      · exact List.Subset.trans hbehind.used (List.subset_append_left _ _)
      · rw [← List.append_nil planner.steps]
        exact hbehind.steps.append (noMore_nil _)
    · rw [if_neg hwide]
      exact hbehind

variable (capabilities) in
theorem behind_foldl (hstable : Stable (·.nativeHandle) (pick live)) (hbehind : Behind planner other)
    (hnarrows : Narrows windows narrow wide) (hlaunch : wide.launchMissingApps = true) :
    Behind (windows.foldl (planWindowBy pick capabilities narrow live) planner)
      (windows.foldl (planWindowBy pick capabilities wide live) other) := by
  induction windows generalizing planner other with
  | nil => exact hbehind
  | cons window windows ih =>
      apply ih
      · exact hbehind.planWindowBy hstable hnarrows.options hlaunch
          (hnarrows.selected window List.mem_cons_self)
      · exact ⟨hnarrows.options, fun w hw => hnarrows.selected w (List.mem_cons_of_mem _ hw)⟩

theorem launched_raiseSteps (options : RestoreOptions) (windows : List WindowInfo) :
    launched (raiseSteps capabilities options windows) = [] := by
  rw [launched, List.map_eq_nil_iff, List.filter_eq_nil_iff]
  intro current hcurrent
  obtain ⟨window, -, rfl⟩ := List.mem_map.mp hcurrent
  simp [step]

theorem length_raiseSteps (options : RestoreOptions) (windows : List WindowInfo) :
    (raiseSteps capabilities options windows).length
      = windows.countP (selectorMatches · options.selectors) := by
  rw [raiseSteps, List.length_map, List.length_insertionSort, List.countP_eq_length_filter]

/-- The steps behind the windows: fewer windows are raised. -/
theorem noMore_closingSteps (saved : Snapshot) (hnarrows : Narrows saved.windows narrow wide) :
    NoMore (closingSteps capabilities narrow saved) (closingSteps capabilities wide saved) := by
  have hraise : NoMore (raiseSteps capabilities narrow saved.windows)
      (raiseSteps capabilities wide saved.windows) := by
    constructor
    · rw [launched_raiseSteps]
      exact List.nil_subset _
    · rw [length_raiseSteps, length_raiseSteps]
      exact List.countP_mono_left hnarrows.selected
  have hz : narrow.restoreZOrder = wide.restoreZOrder := by rw [hnarrows.options]
  have hcursor : narrow.restoreCursor = wide.restoreCursor := by rw [hnarrows.options]
  have hfocus : narrow.restoreFocus = wide.restoreFocus := by rw [hnarrows.options]
  rw [closingSteps, closingSteps, hz, hcursor, hfocus]
  refine (NoMore.append ?_ (NoMore.refl _)).append (NoMore.refl _)
  by_cases h : wide.restoreZOrder = true
  · rw [if_pos h, if_pos h]
    exact hraise
  · rw [if_neg h, if_neg h]
    exact NoMore.refl _

theorem noMore_planBy (platform : Platform) (saved : Snapshot) (displays : Result (List MonitorInfo))
    (shown : Result (List WindowInfo))
    (hstable : Stable (·.nativeHandle) (pick (shown.toOption.getD [])))
    (hnarrows : Narrows saved.windows narrow wide) (hlaunch : wide.launchMissingApps = true) :
    NoMore (planBy pick platform saved narrow displays shown).steps
      (planBy pick platform saved wide displays shown).steps := by
  have hstart : Behind {} {} := ⟨List.Subset.refl _, NoMore.refl _⟩
  have hbehind := behind_foldl platform.capabilities hstable hstart hnarrows hlaunch
  exact hbehind.steps.append (noMore_closingSteps saved hnarrows)

/-- **Narrowing never launches more.** For every score with values in a linear order, and for the
doubles that the engine computes: a plan for fewer windows launches nothing that the plan for more
windows does not launch, and has no more steps. -/
theorem noMore_of_narrows {L : Type} [LinearOrder L] (score : WindowInfo → WindowInfo → L)
    (start threshold : L) (platform : Platform) (saved : Snapshot)
    (displays : Result (List MonitorInfo)) (shown : Result (List WindowInfo))
    (hnarrows : Narrows saved.windows narrow wide) (hlaunch : wide.launchMissingApps = true) :
    NoMore (planBy (bestScored score start threshold) platform saved narrow displays shown).steps
        (planBy (bestScored score start threshold) platform saved wide displays shown).steps
      ∧ NoMore (planFor platform saved narrow displays shown).steps
          (planFor platform saved wide displays shown).steps := by
  constructor
  · exact noMore_planBy platform saved displays shown (stable_bestScored score start threshold _)
      hnarrows hlaunch
  · rw [← planBy_bestLiveMatch, ← planBy_bestLiveMatch]
    exact noMore_planBy platform saved displays shown (stable_bestLiveMatch _) hnarrows hlaunch

end Narrow

def twoApps : Snapshot := { windows := [{ id := str "a" }, { id := str "b" }] }

def firstApp : RestoreOptions := { selectors := [{ kind := .window, pattern := str "a" }] }

theorem noMore_firstApp :
    let pick := bestScored (fun _ _ => 1) 0 2
    NoMore (planBy pick {} twoApps firstApp (.error {}) (.ok [])).steps
        (planBy pick {} twoApps {} (.error {}) (.ok [])).steps
      ∧ NoMore (planFor {} twoApps firstApp (.error {}) (.ok [])).steps
          (planFor {} twoApps {} (.error {}) (.ok [])).steps := by
  have hnarrows : Narrows twoApps.windows firstApp {} := ⟨rfl, fun _ _ _ => rfl⟩
  exact noMore_of_narrows (fun _ _ => 1) 0 2 {} twoApps (.error {}) (.ok []) hnarrows rfl

end ContextSnap.Restore
