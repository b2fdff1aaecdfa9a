import ContextSnap.Proof.RestoreSelection

/-!
# One native window for each saved one

The pre-match never gives a live window away twice. What is filed later, behind a launch, is not
compared with what is filed already, so the handle map stays injective as long as the platform
reports only windows that nothing else is driven through.
-/

namespace ContextSnap.Restore

/-- Different saved windows are driven through different native windows. -/
def Apart (saved : Snapshot) (handles : Handles) : Prop :=
  ∀ a ∈ saved.windows, ∀ b ∈ saved.windows, a.id ≠ b.id →
    ∀ handle, handles a.id = some handle → handles b.id ≠ some handle

/-- What a call of a step for `target` files in the handle map. -/
def filed (target : Bytes) : (op : Hal.Op) → Hal.Answer op → Option (Bytes × UInt64)
  | .waitForWindow _ _ _, answer =>
      (answer : Result WindowInfo).toOption.map fun found => (target, found.nativeHandle)
  | .launch _, answer => (answer : Result UInt64).toOption.map fun pid => (pidKey target, pid)
  | _, _ => none

/-- What the platform reports in a round, if it is filed for a saved window, is not what another one
is driven through. -/
def FilesFree (saved : Snapshot) (round : Round) : Prop :=
  ∀ event ∈ round.events, ∀ key handle,
    filed round.item.targetId event.op event.answer = some (key, handle) →
    (∃ a ∈ saved.windows, a.id = key) →
    ∀ b ∈ saved.windows, b.id ≠ key → round.before.handles b.id ≠ some handle

/-! ### The pre-match -/

/-- Every handle that is filed is used, and under one key only. -/
structure Prematched (state : Handles × List UInt64) : Prop where
  used : ∀ key handle, state.1 key = some handle → handle ∈ state.2
  single : ∀ key other handle, state.1 key = some handle → state.1 other = some handle → key = other

theorem prematchWindow_prematched {live : List WindowInfo} {state : Handles × List UInt64}
    (h : Prematched state) (window : WindowInfo) : Prematched (prematchWindow live state window) := by
  unfold prematchWindow
  split
  · rename_i found hfound
    have hfresh : found.nativeHandle ∉ state.2 := (stable_bestLiveMatch live).fresh hfound
    have hcases : ∀ key handle, (state.1.set window.id found.nativeHandle) key = some handle →
        key = window.id ∧ handle = found.nativeHandle ∨ state.1 key = some handle := by
      intro key handle hkey
      by_cases hwindow : key = window.id
      · rw [hwindow, set_self] at hkey
        exact .inl ⟨hwindow, (Option.some.inj hkey).symm⟩
      · rw [set_of_ne _ hwindow] at hkey
        exact .inr hkey
    refine ⟨?_, ?_⟩
    · intro key handle hkey
      rcases hcases key handle hkey with ⟨-, hhandle⟩ | hold
      · simp [hhandle]
      · exact List.mem_append_left _ (h.used key handle hold)
    · intro key other handle hkey hother
      rcases hcases key handle hkey with ⟨hk, hhandle⟩ | hold <;>
        rcases hcases other handle hother with ⟨ho, hhandle'⟩ | hold'
      · exact hk.trans ho.symm
      · exact absurd (hhandle ▸ h.used other handle hold') hfresh
      · exact absurd (hhandle' ▸ h.used key handle hold) hfresh
      · exact h.single key other handle hold hold'
  · exact h

theorem prematch_apart (saved : Snapshot) (live : List WindowInfo) :
    Apart saved (prematch saved.windows live) := by
  have hfold : ∀ (windows : List WindowInfo) (state : Handles × List UInt64), Prematched state →
      Prematched (windows.foldl (prematchWindow live) state) := by
    intro windows
    induction windows with
    | nil => exact fun _ h => h
    | cons window windows ih => exact fun state h => ih _ (prematchWindow_prematched h window)
  have hempty : Prematched ((fun _ => none : Handles), []) := ⟨by simp, by simp⟩
  intro a _ b _ hne handle ha hb
  exact hne ((hfold saved.windows _ hempty).single a.id b.id handle ha hb)

/-! ### Runs -/

section Runs

variable {context : Context} {state after : Execution} {current : RestoreStep} {events : List Event}

theorem Effect.handles_filed (h : Effect context state current events after) :
    after.handles = (events.filterMap fun event => filed current.targetId event.op event.answer).foldl
      (fun handles entry => handles.set entry.1 entry.2) state.handles := by
  cases h with
  | idle after hhandles hcounts => exact hhandles
  | launched | launchFailed | appeared | noWindow | placed | notPlaced => rfl
  | called op answer after hcarries hplaces hdrives hhandles hcounts =>
      have hnone : filed current.targetId op answer = none := by
        have hkind := hcarries.2
        cases op <;> first
          | rfl
          | (simp only [stepOf, Option.some.injEq] at hkind
             simp [← hkind, closes] at hplaces)
      simp [hhandles, hnone]

/-- A step makes at most one call. -/
theorem Effect.events_cases (h : Effect context state current events after) :
    events = [] ∨ ∃ event, events = [event] := by
  cases h <;> simp

/-- **One round.** It keeps the windows apart exactly when it files nothing that is in use. -/
theorem apart_after_iff {saved : Snapshot} {round : Round}
    (heffect : Effect context round.before round.item round.events round.after)
    (hbefore : Apart saved round.before.handles) :
    Apart saved round.after.handles ↔ FilesFree saved round := by
  have hhandles := heffect.handles_filed
  rcases heffect.events_cases with hevents | ⟨event, hevents⟩
  · rw [hevents] at hhandles
    simp only [List.filterMap_nil, List.foldl_nil] at hhandles
    rw [hhandles]
    exact ⟨fun _ => by simp [FilesFree, hevents], fun _ => hbefore⟩
  · rw [hevents] at hhandles
    cases hfiled : filed round.item.targetId event.op event.answer with
    | none =>
        simp only [List.filterMap_cons, List.filterMap_nil, hfiled, List.foldl_nil] at hhandles
        rw [hhandles]
        exact ⟨fun _ => by simp [FilesFree, hevents, hfiled], fun _ => hbefore⟩
    | some entry =>
        obtain ⟨key, handle⟩ := entry
        simp only [List.filterMap_cons, List.filterMap_nil, hfiled, List.foldl_cons,
          List.foldl_nil] at hhandles
        constructor
        · intro hapart e he k n hfiles hwindow b hb hne hbound
          rw [hevents, List.mem_singleton] at he
          rw [he, hfiled] at hfiles
          obtain ⟨rfl, rfl⟩ := Prod.mk.inj (Option.some.inj hfiles)
          obtain ⟨a, ha, rfl⟩ := hwindow
          refine hapart a ha b hb hne.symm handle ?_ ?_
          · rw [hhandles, set_self]
          · rw [hhandles, set_of_ne _ hne, hbound]
        · intro hfree a ha b hb hne n hna hnb
          have hfree' := hfree event (by rw [hevents]; simp) key handle hfiled
          rw [hhandles] at hna hnb
          by_cases hak : a.id = key
          · have hbk : b.id ≠ key := fun h => hne (hak.trans h.symm)
            rw [hak, set_self] at hna
            rw [set_of_ne _ hbk, ← Option.some.inj hna] at hnb
            exact hfree' ⟨a, ha, hak⟩ b hb hbk hnb
          · rw [set_of_ne _ hak] at hna
            by_cases hbk : b.id = key
            · rw [hbk, set_self] at hnb
              rw [← Option.some.inj hnb] at hna
              exact hfree' ⟨b, hb, hbk⟩ a ha hak hna
            · rw [set_of_ne _ hbk] at hnb
              exact hbefore a ha b hb hne n hna hnb

end Runs

section Whole

variable {σ : Type} (handler : (op : Hal.Op) → σ → Hal.Answer op × σ) (s : σ) (saved : Snapshot)
  (plan : RestorePlan) (options : RestoreOptions) (bridge : Bool)

/-- At every moment of a run different saved windows are driven through different native ones. -/
def AlwaysApart : Prop :=
  Apart saved (initialExecution saved (shownWindows handler s)).handles
    ∧ (∀ round ∈ planRounds handler s saved plan options bridge,
        Apart saved round.before.handles ∧ Apart saved round.after.handles)
    ∧ Apart saved (planOutcome handler s saved plan options bridge).1.handles

/-- **One native window for each saved one.** The handle map is injective at every moment of a run
exactly when no round files a native window that another saved window is driven through. -/
theorem alwaysApart_iff :
    AlwaysApart handler s saved plan options bridge
      ↔ ∀ round ∈ planRounds handler s saved plan options bridge, FilesFree saved round := by
  constructor
  · intro h round hround
    obtain ⟨hbefore, hafter⟩ := h.2.1 round hround
    exact (apart_after_iff (mem_planRounds hround).2 hbefore).mp hafter
  · intro h
    have hinit : Apart saved (initialExecution saved (shownWindows handler s)).handles :=
      prematch_apart saved _
    refine ⟨hinit, ?_⟩
    exact Program.journal_of_rounds (I := fun state : Execution => Apart saved state.handles)
      (fun round hround hbefore =>
        (apart_after_iff (mem_planRounds hround).2 hbefore).mpr (h round hround)) hinit

end Whole

/-! ### An app that hands over to its running instance -/

/-- The null platform's `wait_for_window`: a live window of that process whose title holds the
hint. -/
def waitAmong (live : List WindowInfo) (pid : UInt64) (titleHint : Bytes) : Result WindowInfo :=
  match live.find? fun window => (pid = 0 || window.process.pid = pid)
      && (titleHint.isEmpty || (Matching.findText titleHint window.title).isSome) with
  | some window => .ok window
  | none => .error { code := .timeout }

/-- A platform on which a launch of the editor brings up the one that is running. -/
def singleInstance (live : List WindowInfo) : (op : Hal.Op) → Unit → Hal.Answer op × Unit
  | .launch _, s => ((.ok 10 : Result UInt64), s)
  | .waitForWindow pid titleHint _, s => (waitAmong live pid titleHint, s)
  | op, s => obliging (.ok live) op s

def secondEditor : WindowInfo := { editorWindow with id := str "w2" }

/-- Two windows of the editor, of which one is on screen. -/
def twoEditors : Snapshot := { windows := [editorWindow, secondEditor] }

def liveEditor : List WindowInfo :=
  [{ editorWindow with nativeHandle := 6, process := { editorWindow.process with pid := 10 } }]

def twoEditorsPlan : RestorePlan :=
  planFor launchingPlatform twoEditors {} (.error {}) (.ok liveEditor)

set_option maxRecDepth 10000 in
/-- Both saved windows end up driving the one that was on screen. -/
theorem not_alwaysApart_twoEditors :
    ¬ AlwaysApart (singleInstance liveEditor) () twoEditors twoEditorsPlan {} false := by
  intro h
  have hfirst : (planOutcome (singleInstance liveEditor) () twoEditors twoEditorsPlan {}
      false).1.handles editorWindow.id = some 6 := by decide
  have hsecond : (planOutcome (singleInstance liveEditor) () twoEditors twoEditorsPlan {}
      false).1.handles secondEditor.id = some 6 := by decide
  exact h.2.2 editorWindow (by simp [twoEditors]) secondEditor (by simp [twoEditors]) (by decide) 6
    hfirst hsecond

end ContextSnap.Restore
