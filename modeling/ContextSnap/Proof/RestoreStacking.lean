import ContextSnap.Lib.Stacking
import ContextSnap.Proof.RestoreSelection

/-!
# The stacking order

The plan raises the selected windows from the topmost to the bottommost one. Each raise puts its
window on top, so the stacking that is left is the saved one upside down.
-/

namespace ContextSnap.Restore

open Hal (Capabilities Platform)
open Stacking

/-- The window that a call raised. -/
def raised : (op : Hal.Op) → Hal.Answer op → Option UInt64
  | .raise handle, answer => if Except.isOk (answer : Status) then some handle else none
  | _, _ => none

/-- The windows that a run raised, in order. -/
def raisedBy (rounds : List Round) : List UInt64 :=
  (rounds.flatMap (·.events)).filterMap fun event => raised event.op event.answer

theorem raisedBy_append (front back : List Round) :
    raisedBy (front ++ back) = raisedBy front ++ raisedBy back := by
  simp [raisedBy]

theorem raisedBy_eq_nil {rounds : List Round}
    (h : ∀ round ∈ rounds, ∀ event ∈ round.events, Carries round.item event.op)
    (hkind : ∀ round ∈ rounds, round.item.kind ≠ .raiseWindow) : raisedBy rounds = [] := by
  rw [raisedBy, List.filterMap_eq_nil_iff]
  intro event hevent
  obtain ⟨round, hround, hmem⟩ := List.mem_flatMap.mp hevent
  have hop := (h round hround event hmem).2
  have hne := hkind round hround
  cases event with
  | mk op answer =>
      cases op <;> try rfl
      exact absurd (Option.some.inj hop).symm hne

def raiseStep (capabilities : Capabilities) (window : WindowInfo) : RestoreStep :=
  step .raiseWindow window.id (str "raise \"" ++ window.title ++ str "\"") (!capabilities.zOrder)

/-- The selected windows, from the topmost to the bottommost. -/
def raiseOrder (options : RestoreOptions) (windows : List WindowInfo) : List WindowInfo :=
  (windows.filter (selectorMatches · options.selectors)).insertionSort
    fun a b => a.zOrder ≤ b.zOrder

section Order

variable {options : RestoreOptions} {windows : List WindowInfo} {a b : WindowInfo}

theorem mem_raiseOrder :
    a ∈ raiseOrder options windows ↔ a ∈ windows ∧ selectorMatches a options.selectors = true := by
  rw [raiseOrder, List.mem_insertionSort, List.mem_filter]

variable (options windows) in
theorem raiseOrder_sorted :
    (raiseOrder options windows).Pairwise fun a b => a.zOrder ≤ b.zOrder := by
  have htrans : IsTrans WindowInfo fun a b => a.zOrder ≤ b.zOrder :=
    ⟨fun _ _ _ hab hbc => Int32.le_trans hab hbc⟩
  have htotal : Std.Total fun a b : WindowInfo => a.zOrder ≤ b.zOrder :=
    ⟨fun a b => Int32.le_total a.zOrder b.zOrder⟩
  exact List.pairwise_insertionSort _ _

/-- Of two selected windows, the one that was on top is raised first. -/
theorem raiseOrder_split (hz : (windows.map (·.zOrder)).Nodup)
    (ha : a ∈ raiseOrder options windows) (hb : b ∈ raiseOrder options windows)
    (hlt : a.zOrder < b.zOrder) :
    ∃ front back, raiseOrder options windows = front ++ a :: back ∧ b ∈ back ∧ a ∉ back := by
  obtain ⟨front, back, hsplit⟩ := List.append_of_mem ha
  have hsorted := raiseOrder_sorted options windows
  have hnodup : (raiseOrder options windows).Nodup := by
    have hfilter : (windows.filter (selectorMatches · options.selectors)).Nodup :=
      (List.Nodup.of_map _ hz).filter _
    exact (List.perm_insertionSort _ _).nodup_iff.mpr hfilter
  rw [hsplit] at hsorted hnodup hb
  refine ⟨front, back, hsplit, ?_, ?_⟩
  · rcases List.mem_append.mp hb with hb | hb
    · have hle := (List.pairwise_append.mp hsorted).2.2 b hb a (by simp)
      exact absurd hlt (Int32.not_lt.mpr hle)
    · rcases List.mem_cons.mp hb with rfl | hb
      · exact (Int32.lt_irrefl hlt).elim
      · exact hb
  · exact (List.nodup_cons.mp (List.nodup_append.mp hnodup).2.1).1

end Order

/-! ### Rounds that raise -/

section Rounds

variable {σ : Type} (handler : (op : Hal.Op) → σ → Hal.Answer op × σ) (context : Context)

theorem raisedBy_journal_eq_nil {steps : List RestoreStep}
    (hsteps : ∀ current ∈ steps, current.kind ≠ .raiseWindow) (state : Execution) (s : σ) :
    raisedBy (Program.journal handler (executeStep context) steps state s) = [] := by
  apply raisedBy_eq_nil
  · intro round hround event hevent
    obtain ⟨-, s', hentry⟩ := Program.mem_journal hround
    have heffect := executeStep_effect handler context round.before round.item s'
    rw [hentry] at hevent
    exact heffect.carries hevent
  · intro round hround
    exact hsteps round.item (Program.mem_journal hround).1

/-- The raise section raises every window that has a handle. -/
theorem raisedBy_raiseSteps {capabilities : Capabilities} (hz : capabilities.zOrder = true)
    (hraise : ∀ handle s, (handler (.raise handle) s).1 = (.ok () : Status))
    (windows : List WindowInfo) (state : Execution) (s : σ) :
    raisedBy (Program.journal handler (executeStep context)
      (windows.map (raiseStep capabilities)) state s)
      = windows.filterMap fun window => state.handles window.id := by
  induction windows generalizing state s with
  | nil => rfl
  | cons window windows ih =>
      have hkind : ∀ current ∈ [raiseStep capabilities window], launches current.kind = false := by
        simp [raiseStep, step, launches]
      have hhandles := outcome_handles handler context hkind state s
      rw [List.map_cons, Program.journal, ← List.singleton_append, raisedBy_append, ih]
      change _ ++ windows.filterMap (fun w => (Program.outcome handler (executeStep context)
        [raiseStep capabilities window] state s).1.handles w.id) = _
      rw [hhandles]
      cases hhandle : state.handles window.id with
      | none =>
          have hstep : executeStep context state (raiseStep capabilities window) = .done state := by
            simp [executeStep, raiseStep, step, hz, hhandle]
          simp [hhandle, raisedBy, Program.entry, hstep]
      | some handle =>
          have hstep : executeStep context state (raiseStep capabilities window)
              = (do return state.settle (str "raise") (← Hal.raise handle)) := by
            simp [executeStep, raiseStep, step, hz, hhandle]
          have hevents : (Program.entry handler (executeStep context) state
              (raiseStep capabilities window) s).events
              = [⟨.raise handle, (handler (.raise handle) s).1⟩] := by
            rw [Program.entry, hstep]
            rfl
          have hraised : raised (.raise handle) (handler (.raise handle) s).1 = some handle := by
            simp [raised, hraise, Except.isOk, Except.toBool]
          simp [hhandle, raisedBy, hevents, hraised]

end Rounds

/-! ### The stacking that is left -/

section Stacked

variable (platform : Platform) (saved : Snapshot) (options : RestoreOptions) (bridge : Bool)
  (displays : Result (List MonitorInfo)) (planned : Result (List WindowInfo))

/-- The sections of a plan that restores the stacking order. -/
theorem planFor_steps_raise (hrestore : options.restoreZOrder = true) :
    ∃ front back, (planFor platform saved options displays planned).steps
        = front ++ (raiseOrder options saved.windows).map (raiseStep platform.capabilities) ++ back
      ∧ (∀ current ∈ front, current.kind ≠ .raiseWindow)
      ∧ ∀ current ∈ back, current.kind ≠ .raiseWindow ∧ launches current.kind = false := by
  refine ⟨(planWindows platform.capabilities options saved.windows (planned.toOption.getD [])).steps,
    (if options.restoreCursor then cursorSteps platform.capabilities saved.cursor else [])
      ++ (if options.restoreFocus then focusSteps platform.capabilities saved.cursor else []),
    ?_, ?_, ?_⟩
  · simp only [planFor, closingSteps, hrestore, if_true, List.append_assoc]
    rfl
  · obtain ⟨added, hsteps, hadded⟩ := foldl_planWindow_steps platform.capabilities options
      (planned.toOption.getD []) saved.windows {}
    intro current hcurrent hkind
    rw [planWindows, hsteps, List.nil_append] at hcurrent
    obtain ⟨window, -, -, matched, hstep⟩ := hadded current hcurrent
    have hcloses := (windowSteps_targets hstep).2.2
    simp [hkind, closes] at hcloses
  · intro current hcurrent
    simp only [List.mem_append, List.mem_ite_nil_right] at hcurrent
    rcases hcurrent with ⟨-, h⟩ | ⟨-, h⟩
    · rw [List.mem_singleton.mp h]
      simp [step, launches]
    · rw [(mem_focusSteps h).2.1]
      simp [launches]

variable {σ : Type} (handler : (op : Hal.Op) → σ → Hal.Answer op × σ) (s : σ)

/-- Of two selected windows the one that was on top ends below, where the two have handles of their
own. -/
def StackedAsSaved (last : Execution) (stack : List UInt64) : Prop :=
  ∀ a ∈ saved.windows, ∀ b ∈ saved.windows,
    selectorMatches a options.selectors = true → selectorMatches b options.selectors = true →
    a.zOrder < b.zOrder → ∀ ha hb, last.handles a.id = some ha → last.handles b.id = some hb →
    Above stack ha hb

/-- Every selected window is driven through a native window of its own. -/
structure DrivenApart (last : Execution) : Prop where
  driven : ∀ a ∈ saved.windows, selectorMatches a options.selectors = true →
    last.handles a.id ≠ none
  apart : ∀ a ∈ saved.windows, ∀ b ∈ saved.windows, selectorMatches a options.selectors = true →
    selectorMatches b options.selectors = true → a ≠ b → last.handles a.id ≠ last.handles b.id

variable {saved options platform}

/-- The windows that a run raises, in the order of the plan. -/
theorem raisedBy_planRounds (hrestore : options.restoreZOrder = true)
    (hcapability : platform.capabilities.zOrder = true)
    (hraise : ∀ handle s, (handler (.raise handle) s).1 = (.ok () : Status)) :
    raisedBy (planRounds handler s saved (planFor platform saved options displays planned) options
        bridge)
      = (raiseOrder options saved.windows).filterMap fun window =>
          (planOutcome handler s saved (planFor platform saved options displays planned) options
            bridge).1.handles window.id := by
  obtain ⟨front, back, hsteps, hfront, hback⟩ :=
    planFor_steps_raise platform saved options displays planned hrestore
  have hlaunches : ∀ current ∈ (raiseOrder options saved.windows).map
      (raiseStep platform.capabilities) ++ back, launches current.kind = false := by
    intro current hcurrent
    rcases List.mem_append.mp hcurrent with h | h
    · obtain ⟨window, -, rfl⟩ := List.mem_map.mp h
      simp [raiseStep, step, launches]
    · exact (hback current h).2
  rw [planRounds, planOutcome, hsteps, List.append_assoc, Program.journal_append,
    Program.journal_append, raisedBy_append, raisedBy_append,
    raisedBy_journal_eq_nil handler _ hfront,
    raisedBy_journal_eq_nil handler _ (fun current h => (hback current h).1),
    raisedBy_raiseSteps handler _ hcapability hraise, List.nil_append, List.append_nil,
    Program.outcome_append, outcome_handles handler _ hlaunches]

/-- The windows are left upside down. -/
theorem not_stackedAsSaved_of_lt (hz : (saved.windows.map (·.zOrder)).Nodup)
    (hrestore : options.restoreZOrder = true) (hcapability : platform.capabilities.zOrder = true)
    (hraise : ∀ handle s, (handler (.raise handle) s).1 = (.ok () : Status))
    (hdriven : DrivenApart saved options
      (planOutcome handler s saved (planFor platform saved options displays planned) options
        bridge).1) (stack : List UInt64) {a b : WindowInfo}
    (ha : a ∈ saved.windows) (hb : b ∈ saved.windows)
    (hsa : selectorMatches a options.selectors = true)
    (hsb : selectorMatches b options.selectors = true) (hlt : a.zOrder < b.zOrder) :
    ¬ StackedAsSaved saved options
      (planOutcome handler s saved (planFor platform saved options displays planned) options
        bridge).1
      (raiseAll stack (raisedBy (planRounds handler s saved
        (planFor platform saved options displays planned) options bridge))) := by
  intro hstacked
  obtain ⟨handleA, hhandleA⟩ := Option.ne_none_iff_exists'.mp (hdriven.driven a ha hsa)
  obtain ⟨handleB, hhandleB⟩ := Option.ne_none_iff_exists'.mp (hdriven.driven b hb hsb)
  refine (hstacked a ha b hb hsa hsb hlt handleA handleB hhandleA hhandleB).asymm ?_
  obtain ⟨front, back, hsplit, hmem, hnot⟩ := raiseOrder_split hz (mem_raiseOrder.mpr ⟨ha, hsa⟩)
    (mem_raiseOrder.mpr ⟨hb, hsb⟩) hlt
  rw [raisedBy_planRounds bridge displays planned handler s hrestore hcapability hraise, hsplit,
    List.filterMap_append, List.filterMap_cons, hhandleA]
  apply above_of_raised_after
  · exact List.mem_filterMap.mpr ⟨b, hmem, hhandleB⟩
  · intro hagain
    obtain ⟨c, hc, hhandleC⟩ := List.mem_filterMap.mp hagain
    have hcorder : c ∈ raiseOrder options saved.windows := by
      rw [hsplit]
      exact List.mem_append_right _ (List.mem_cons_of_mem _ hc)
    obtain ⟨hcmem, hsc⟩ := mem_raiseOrder.mp hcorder
    have hne : a ≠ c := fun h => hnot (h ▸ hc)
    exact hdriven.apart a ha c hcmem hsa hsc hne (hhandleA.trans hhandleC.symm)

/-- **The stacking order.** When every selected window has a native window of its own and every raise
puts its window on top, the saved stacking is restored exactly when at most one window is
selected. -/
theorem stackedAsSaved_iff (hz : (saved.windows.map (·.zOrder)).Nodup)
    (hrestore : options.restoreZOrder = true) (hcapability : platform.capabilities.zOrder = true)
    (hraise : ∀ handle s, (handler (.raise handle) s).1 = (.ok () : Status))
    (hdriven : DrivenApart saved options
      (planOutcome handler s saved (planFor platform saved options displays planned) options
        bridge).1) (stack : List UInt64) :
    StackedAsSaved saved options
        (planOutcome handler s saved (planFor platform saved options displays planned) options
          bridge).1
        (raiseAll stack (raisedBy (planRounds handler s saved
          (planFor platform saved options displays planned) options bridge)))
      ↔ (saved.windows.filter (selectorMatches · options.selectors)).length ≤ 1 := by
  constructor
  · intro hstacked
    by_contra hmany
    obtain ⟨a, b, rest, hpair⟩ : ∃ a b rest,
        saved.windows.filter (selectorMatches · options.selectors) = a :: b :: rest := by
      match h : saved.windows.filter (selectorMatches · options.selectors) with
      | [] => simp [h] at hmany
      | [_] => simp [h] at hmany
      | a :: b :: rest => exact ⟨a, b, rest, rfl⟩
    have hzpair : a.zOrder ≠ b.zOrder := by
      have hsub : (saved.windows.filter (selectorMatches · options.selectors)).map (·.zOrder)
          |>.Nodup := hz.sublist (List.filter_sublist.map _)
      rw [hpair] at hsub
      simp only [List.map_cons, List.nodup_cons, List.mem_cons, not_or] at hsub
      exact hsub.1.1
    obtain ⟨ha, hsa⟩ := List.mem_filter.mp (show a ∈ saved.windows.filter _ by rw [hpair]; simp)
    obtain ⟨hb, hsb⟩ := List.mem_filter.mp (show b ∈ saved.windows.filter _ by rw [hpair]; simp)
    rcases Int32.lt_or_lt_of_ne hzpair with hlt | hlt
    · exact not_stackedAsSaved_of_lt bridge displays planned handler s hz hrestore hcapability
        hraise hdriven stack ha hb hsa hsb hlt hstacked
    · exact not_stackedAsSaved_of_lt bridge displays planned handler s hz hrestore hcapability
        hraise hdriven stack hb ha hsb hsa hlt hstacked
  · intro hone a ha b hb hsa hsb hlt
    have hmemA : a ∈ saved.windows.filter (selectorMatches · options.selectors) :=
      List.mem_filter.mpr ⟨ha, hsa⟩
    have hmemB : b ∈ saved.windows.filter (selectorMatches · options.selectors) :=
      List.mem_filter.mpr ⟨hb, hsb⟩
    have hab : a = b := by
      match h : saved.windows.filter (selectorMatches · options.selectors) with
      | [] => simp [h] at hmemA
      | [c] =>
          rw [h] at hmemA hmemB
          rw [List.mem_singleton.mp hmemA, List.mem_singleton.mp hmemB]
      | _ :: _ :: _ => simp [h] at hone
    exact (Int32.lt_irrefl (hab ▸ hlt)).elim

end Stacked

/-! ### Two windows -/

def stackingPlatform : Platform := { capabilities := { zOrder := true } }

/-- The editor above the mail window. -/
def editorAboveMail : Snapshot :=
  { windows := [editorWindow, { mailWindow with zOrder := 1 }] }

/-- Both windows on screen. -/
def liveBoth : List WindowInfo :=
  [{ editorWindow with nativeHandle := 6 }, { mailWindow with nativeHandle := 7 }]

abbrev bothPlan : RestorePlan := planFor stackingPlatform editorAboveMail {} (.error {}) (.ok liveBoth)

theorem obliging_raise (now : Result (List WindowInfo)) (handle : UInt64) (s : Unit) :
    (obliging now (.raise handle) s).1 = (.ok () : Status) := rfl

set_option maxRecDepth 10000 in
theorem drivenApart_both :
    DrivenApart editorAboveMail {}
      (planOutcome (obliging (.ok liveBoth)) () editorAboveMail bothPlan {} false).1 :=
  ⟨by decide, by decide⟩

theorem stackedAsSaved_iff_both :
    StackedAsSaved editorAboveMail {}
        (planOutcome (obliging (.ok liveBoth)) () editorAboveMail bothPlan {} false).1
        (raiseAll [6, 7] (raisedBy (planRounds (obliging (.ok liveBoth)) () editorAboveMail bothPlan
          {} false)))
      ↔ (editorAboveMail.windows.filter (selectorMatches · [])).length ≤ 1 :=
  stackedAsSaved_iff false (.error {}) (.ok liveBoth) (obliging (.ok liveBoth)) () (by decide) rfl rfl
    (obliging_raise _) drivenApart_both [6, 7]

/-- Restoring both leaves the mail window above the editor. -/
theorem not_stackedAsSaved_both :
    ¬ StackedAsSaved editorAboveMail {}
      (planOutcome (obliging (.ok liveBoth)) () editorAboveMail bothPlan {} false).1
      (raiseAll [6, 7] (raisedBy (planRounds (obliging (.ok liveBoth)) () editorAboveMail bothPlan
        {} false))) := by
  have heditor : editorWindow ∈ editorAboveMail.windows := by simp [editorAboveMail]
  have hmail : { mailWindow with zOrder := 1 } ∈ editorAboveMail.windows := by
    simp [editorAboveMail]
  exact not_stackedAsSaved_of_lt false (.error {}) (.ok liveBoth) (obliging (.ok liveBoth)) ()
    (by decide) rfl rfl (obliging_raise _) drivenApart_both [6, 7] heditor hmail rfl rfl (by decide)

end ContextSnap.Restore
