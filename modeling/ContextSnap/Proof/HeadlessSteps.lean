import ContextSnap.Proof.HeadlessDesktop
import ContextSnap.Proof.RestoreAgreement

/-!
# Steps on the null platform

What each step of the executor makes of a desktop in memory, and what the report counts for it,
whatever the browser bridge and the clock answer.
-/

namespace ContextSnap.Restore

open Hal (NullPlatformState onNullPlatform)
open Hal.NullPlatformState

/-- A report counts so many more windows restored, windows failed and apps launched. -/
structure Counts (before after : RestoreReport) (count : ℕ × ℕ × ℕ) : Prop where
  restored : after.windowsRestored = before.windowsRestored + .ofNat count.1
  failed : after.windowsFailed = before.windowsFailed + .ofNat count.2.1
  launched : after.appsLaunched = before.appsLaunched + .ofNat count.2.2

theorem counts_zero {before after : RestoreReport}
    (hrestored : after.windowsRestored = before.windowsRestored)
    (hfailed : after.windowsFailed = before.windowsFailed)
    (hlaunched : after.appsLaunched = before.appsLaunched) : Counts before after 0 :=
  ⟨hrestored.trans (UInt32.add_zero _).symm, hfailed.trans (UInt32.add_zero _).symm,
    hlaunched.trans (UInt32.add_zero _).symm⟩

theorem Counts.trans {first second third : RestoreReport} {count count' : ℕ × ℕ × ℕ}
    (h : Counts first second count) (h' : Counts second third count') :
    Counts first third (count + count') := by
  refine ⟨?_, ?_, ?_⟩
  · rw [h'.restored, h.restored, UInt32.add_assoc, Prod.fst_add, UInt32.ofNat_add]
  · rw [h'.failed, h.failed, UInt32.add_assoc, Prod.snd_add, Prod.fst_add, UInt32.ofNat_add]
  · rw [h'.launched, h.launched, UInt32.add_assoc, Prod.snd_add, Prod.snd_add, UInt32.ofNat_add]

/-- The handle map is that of the pre-match, apart from the pids in it. -/
def Filed (context : Context) (handles : Handles) (state : Execution) : Prop :=
  ∀ key, (∀ window ∈ context.snapshot.windows, pidKey window.id ≠ key) →
    state.handles key = handles key

section Steps

variable {τ : Type} (others : (op : Hal.Op) → τ → Hal.Answer op × τ) (context : Context)
  (handles : Handles)

/-- Whatever the bridge and the clock answer, the steps make one desktop of the other and count what
they do. -/
def Does (steps : List RestoreStep) (s : NullPlatformState) (count : ℕ × ℕ × ℕ)
    (s' : NullPlatformState) : Prop :=
  ∀ (state : Execution) (t : τ), Filed context handles state →
    let last := Program.outcome (onNullPlatform others) (executeStep context) steps state (s, t)
    Filed context handles last.1 ∧ Counts state.report last.1.report count
      ∧ last.2.1 = s'

variable {others context handles} {s s' s'' : NullPlatformState}
  {count count' : ℕ × ℕ × ℕ} {front back : List RestoreStep} {current : RestoreStep}

theorem does_nil : Does others context handles [] s 0 s :=
  fun _ _ hfiled => ⟨hfiled, counts_zero rfl rfl rfl, rfl⟩

theorem Does.append (h : Does others context handles front s count s')
    (h' : Does others context handles back s' count' s'') :
    Does others context handles (front ++ back) s (count + count') s'' := by
  intro _ t hfiled
  obtain ⟨hmiddle, hcount, hdesktop⟩ := h _ t hfiled
  dsimp only
  rw [Program.outcome_append]
  obtain ⟨hlast, hcount', hdesktop'⟩ := h' _
    (Program.outcome (onNullPlatform others) (executeStep context) front _ (s, t)).2.2 hmiddle
  rw [← hdesktop] at hlast hcount' hdesktop'
  exact ⟨hlast, hcount.trans hcount', hdesktop'⟩

theorem does_ite {condition : Prop} [Decidable condition]
    (h : condition → Does others context handles front s count s')
    (hcount : ¬ condition → count = 0) (hdesktop : ¬ condition → s' = s) :
    Does others context handles (if condition then front else []) s count s' := by
  by_cases hcondition : condition
  · rw [if_pos hcondition]
    exact h hcondition
  · rw [if_neg hcondition, hcount hcondition, hdesktop hcondition]
    exact does_nil

theorem does_when {condition : Prop} [Decidable condition]
    (h : Does others context handles front s 0 s') :
    Does others context handles (if condition then front else []) s 0
      (if condition then s' else s) :=
  does_ite (fun hcondition => (if_pos hcondition).symm ▸ h) (fun _ => rfl) fun h => if_neg h

theorem does_skipped (h : current.skipped = true) :
    Does others context handles [current] s 0 s := by
  intro state t hfiled
  have hstep : executeStep context state current = .done (state.warn (skipWarning current)) := by
    unfold executeStep
    rw [if_pos h]
    rfl
  simp only [Program.outcome, hstep, Program.trace_done, and_true]
  exact ⟨hfiled, counts_zero rfl rfl rfl⟩

theorem does_idle
    (hstep : ∀ state, Filed context handles state → ∃ after,
      executeStep context state current = .done after ∧ after.handles = state.handles
        ∧ Counts state.report after.report 0) :
    Does others context handles [current] s 0 s := by
  intro state t hfiled
  obtain ⟨after, hdone, hhandles, hcount⟩ := hstep state hfiled
  simp only [Program.outcome, hdone, Program.trace_done, and_true]
  exact ⟨fun key hkey => (congrFun hhandles key).trans (hfiled key hkey), hcount⟩

/-- A step that makes one call, of which the answer is known. -/
theorem does_ask (op : Hal.Op) (possible : Hal.Answer op → Prop)
    (hcall : ∀ t, possible (onNullPlatform others op (s, t)).1
      ∧ (onNullPlatform others op (s, t)).2.1 = s')
    (hstep : ∀ state, Filed context handles state → ∃ next,
      executeStep context state current = .ask op next ∧ ∀ answer, possible answer →
        ∃ after, next answer = .done after ∧ after.handles = state.handles
          ∧ Counts state.report after.report count) :
    Does others context handles [current] s count s' := by
  intro state t hfiled
  obtain ⟨next, hask, hnext⟩ := hstep state hfiled
  obtain ⟨hpossible, hdesktop⟩ := hcall t
  obtain ⟨after, hdone, hhandles, hcount⟩ := hnext _ hpossible
  simp only [Program.outcome, hask, Program.trace_ask, hdone, Program.trace_done]
  exact ⟨fun key hkey => (congrFun hhandles key).trans (hfiled key hkey), hcount, hdesktop⟩

/-! ### The steps for a window -/

section Window

variable {window : WindowInfo} {handle : UInt64} {description reason : Bytes}

/-- A window of the snapshot, which is found under its id and whose id is no key of a pid. -/
structure Named (context : Context) (window : WindowInfo) : Prop where
  mem : window ∈ context.snapshot.windows
  found : context.snapshot.findWindow window.id = some window
  key : ∀ other ∈ context.snapshot.windows, pidKey other.id ≠ window.id

variable (context) in
def framed (saved native : WindowInfo) : WindowInfo :=
  { native with
    frame := clampToMonitors saved.restoredFrame context.monitors
    restoredFrame := clampToMonitors saved.restoredFrame context.monitors }

def stated (saved native : WindowInfo) : WindowInfo :=
  { native with state := if saved.state ≠ .normal then saved.state else native.state }

variable (context) in
def assigned (saved native : WindowInfo) : WindowInfo :=
  { native with
    workspaceId := if context.options.restoreWorkspaces ∧ saved.workspaceId.isSome
      then saved.workspaceId else native.workspaceId }

variable (context) in
/-- What the steps for a saved window make of the native one that is driven for it. -/
def settled (saved native : WindowInfo) : WindowInfo :=
  assigned context saved (stated saved (framed context saved native))

/-- A step whose one call changes a window, and which only warns if that fails. -/
theorem does_change (op : Hal.Op) {change : WindowInfo → WindowInfo}
    (hop : ∀ t, (onNullPlatform others op (s, t)).2.1 = (s.changeWindow handle change).2)
    (hstep : ∀ state, Filed context handles state → ∃ what, ∃ status : Hal.Answer op → Status,
      executeStep context state current = .ask op fun answer =>
        .done (state.settle what (status answer)))
    (hmutable : s.allowMutation = true) (hmem : handle ∈ s.windows.map (·.nativeHandle)) :
    Does others context handles [current] s 0
      (s.changing handle change) := by
  refine does_ask op (fun _ => True) (fun t => ⟨trivial, ?_⟩) fun state hfiled => ?_
  · rw [hop, changeWindow_of_mem hmutable hmem]
  · obtain ⟨what, status, hask⟩ := hstep state hfiled
    refine ⟨_, hask, fun answer _ => ⟨_, rfl, settle_handles .., ?_⟩⟩
    cases status answer <;> exact counts_zero rfl rfl rfl

theorem does_move (hnamed : Named context window) (hhandle : handles window.id = some handle)
    (hmutable : s.allowMutation = true) (hmem : handle ∈ s.windows.map (·.nativeHandle)) :
    Does others context handles [step .moveWindow window.id description false reason] s (1, 0, 0)
      (s.changing handle (framed context window)) := by
  refine does_ask (.setFrame handle (clampToMonitors window.restoredFrame context.monitors))
    (fun answer => answer = (.ok () : Status)) ?_ ?_
  · intro t
    have hchange := @changeWindow_of_mem s handle (framed context window) hmutable hmem
    exact ⟨congrArg (fun result : Status × NullPlatformState => result.1) hchange,
      congrArg (fun result : Status × NullPlatformState => result.2) hchange⟩
  · intro state hfiled
    have hhandle' : state.handles window.id = some handle := (hfiled _ hnamed.key).trans hhandle
    have hstep : executeStep context state (step .moveWindow window.id description false reason)
        = executeMove context state window handle := by
      unfold executeStep
      simp only [step, hnamed.found, hhandle']
      rfl
    refine ⟨_, hstep, ?_⟩
    rintro _ rfl
    exact ⟨_, rfl, rfl, rfl, (UInt32.add_zero _).symm, (UInt32.add_zero _).symm⟩

theorem does_setState (hnamed : Named context window) (hhandle : handles window.id = some handle)
    (hmutable : s.allowMutation = true) (hmem : handle ∈ s.windows.map (·.nativeHandle)) :
    Does others context handles
      (if window.state ≠ .normal then [step .setWindowState window.id description] else []) s 0
      (s.changing handle (stated window)) := by
  apply does_ite
  · intro hstate
    have hstated : stated window = fun native => { native with state := window.state } := by
      funext native
      rw [stated, if_pos hstate]
    rw [hstated]
    refine does_change (.setState handle window.state) (fun _ => rfl) ?_ hmutable hmem
    intro state hfiled
    have hhandle' : state.handles window.id = some handle := (hfiled _ hnamed.key).trans hhandle
    refine ⟨str "state change", id, ?_⟩
    unfold executeStep
    simp only [step, hnamed.found, hhandle']
    rfl
  · exact fun _ => rfl
  · intro hstate
    have hstated : ∀ native, stated window native = native := fun native => by
      rw [stated, if_neg hstate]
    rw [changing_id hstated]

theorem does_setWorkspace (hnamed : Named context window)
    (hhandle : handles window.id = some handle) (hmutable : s.allowMutation = true)
    (hmem : handle ∈ s.windows.map (·.nativeHandle)) :
    Does others context handles
      (if context.options.restoreWorkspaces ∧ window.workspaceId.isSome then
        [step .setWorkspace window.id description] else []) s 0
      (s.changing handle (assigned context window)) := by
  apply does_ite
  · intro hassigned
    obtain ⟨workspace, hworkspace⟩ := Option.isSome_iff_exists.mp hassigned.2
    have hchange : assigned context window
        = fun native => { native with workspaceId := some workspace } := by
      funext native
      rw [assigned, if_pos hassigned, hworkspace]
    rw [hchange]
    refine does_change (.moveWindow handle workspace) (fun _ => rfl) ?_ hmutable hmem
    intro state hfiled
    have hhandle' : state.handles window.id = some handle := (hfiled _ hnamed.key).trans hhandle
    refine ⟨str "workspace move", id, ?_⟩
    unfold executeStep
    simp only [step, hnamed.found, hhandle', Option.bind_some, hworkspace]
    rfl
  · exact fun _ => rfl
  · intro hassigned
    have hchange : ∀ native, assigned context window native = native := fun native => by
      rw [assigned, if_neg hassigned]
    rw [changing_id hchange]

theorem does_restoreTabs {condition : Prop} [Decidable condition] :
    Does others context handles
      (if condition then [step .restoreTabs window.id description] else []) s 0 s := by
  apply does_ite
  · intro _
    cases hsaved : context.snapshot.findWindow window.id with
    | none =>
        apply does_idle
        intro state _
        refine ⟨state, ?_, rfl, counts_zero rfl rfl rfl⟩
        unfold executeStep
        simp only [step, hsaved]
        rfl
    | some saved =>
        by_cases hbridge : context.bridge = true
        · refine does_ask (.restoreTabs [tabRequest saved] context.options.lazyLoadTabs)
            (fun _ => True) (fun _ => ⟨trivial, rfl⟩) fun state _ => ?_
          have hstep : executeStep context state (step .restoreTabs window.id description)
              = executeTabs context state saved := by
            unfold executeStep
            simp only [step, hsaved, hbridge]
            rfl
          refine ⟨_, hstep, ?_⟩
          rintro (e | restored) _
          · exact ⟨_, rfl, rfl, counts_zero rfl rfl rfl⟩
          · exact ⟨_, rfl, rfl, counts_zero rfl rfl rfl⟩
        · apply does_idle
          intro state _
          refine ⟨state, ?_, rfl, counts_zero rfl rfl rfl⟩
          unfold executeStep
          simp only [step, hsaved, hbridge]
          rfl
  · exact fun _ => rfl
  · exact fun _ => rfl

section Placed

variable {desktop : NullPlatformState}

theorem does_place (hdesktop : desktop.allowMutation = true) (hnamed : Named context window)
    (hhandle : handles window.id = some handle) (hmutable : s.allowMutation = true)
    (hmem : handle ∈ s.windows.map (·.nativeHandle)) :
    Does others context handles (placeSteps desktop.capabilities context.options window) s (1, 0, 0)
      (s.changing handle (settled context window)) := by
  have hframe : ∀ native, (framed context window native).nativeHandle = native.nativeHandle :=
    fun _ => rfl
  have hstate : ∀ native, (stated window native).nativeHandle = native.nativeHandle := fun _ => rfl
  have hsettled : s.changing handle (settled context window)
      = ((s.changing handle (framed context window)).changing handle (stated window)).changing handle
          (assigned context window) := by
    have hboth : ∀ native,
        ((stated window ∘ framed context window) native).nativeHandle = native.nativeHandle :=
      fun _ => rfl
    rw [changing_changing hframe, changing_changing hboth]
    rfl
  rw [hsettled]
  unfold placeSteps
  simp only [NullPlatformState.capabilities, hdesktop]
  have hframed : handle ∈ (s.changing handle (framed context window)).windows.map
      (·.nativeHandle) := by
    rwa [handles_changing hframe]
  have hstated : handle ∈ ((s.changing handle (framed context window)).changing handle
      (stated window)).windows.map (·.nativeHandle) := by
    rwa [handles_changing hstate]
  exact (((does_move hnamed hhandle hmutable hmem).append
    (does_setState hnamed hhandle hmutable hframed)).append
      (does_setWorkspace hnamed hhandle hmutable hstated)).append does_restoreTabs

theorem does_moveNothing (hnamed : Named context window) (hhandle : handles window.id = none) :
    Does others context handles [step .moveWindow window.id description false reason] s 0 s := by
  apply does_idle
  intro state hfiled
  have hnone : state.handles window.id = none := (hfiled _ hnamed.key).trans hhandle
  refine ⟨state.warn (str "no live window for " ++ description), ?_, rfl, counts_zero rfl rfl rfl⟩
  unfold executeStep
  simp only [step, hnamed.found, hnone]
  rfl

theorem does_placeNothing (hdesktop : desktop.allowMutation = true) (hnamed : Named context window)
    (hhandle : handles window.id = none) :
    Does others context handles (placeSteps desktop.capabilities context.options window) s 0 s := by
  have hnone : ∀ state, Filed context handles state → state.handles window.id = none :=
    fun state hfiled => (hfiled _ hnamed.key).trans hhandle
  have hstate : ∀ description, Does others context handles
      [step .setWindowState window.id description] s 0 s := by
    refine fun description => does_idle fun state hfiled => ⟨state, ?_, rfl, counts_zero rfl rfl rfl⟩
    unfold executeStep
    simp only [step, hnamed.found, hnone state hfiled]
    rfl
  have hworkspace : ∀ description, Does others context handles
      [step .setWorkspace window.id description] s 0 s := by
    refine fun description => does_idle fun state hfiled => ⟨state, ?_, rfl, counts_zero rfl rfl rfl⟩
    unfold executeStep
    simp only [step, hnone state hfiled]
    cases (context.snapshot.findWindow window.id).bind (·.workspaceId) <;> rfl
  unfold placeSteps
  simp only [NullPlatformState.capabilities, hdesktop]
  exact (((does_moveNothing hnamed hhandle).append
    (does_ite (fun _ => hstate _) (fun _ => rfl) fun _ => rfl)).append
      (does_ite (fun _ => hworkspace _) (fun _ => rfl) fun _ => rfl)).append does_restoreTabs

/-- Nothing comes of a launch but a failed window. -/
theorem does_launchAndWait {description' : Bytes} (hnamed : Named context window)
    (hmutable : s.allowMutation = true) (hpid : s.nextPid + 1 ≠ 0)
    (hfree : ∀ native ∈ s.windows, native.process.pid ≠ s.nextPid + 1) :
    Does others context handles
      [step .launchProcess window.id description false reason,
        step .waitForWindow window.id description'] s (0, 1, 1)
      { s with nextPid := s.nextPid + 1 } := by
  intro state t hfiled
  have hlaunch : executeStep context state (step .launchProcess window.id description false reason)
      = executeLaunch state window.id window := by
    unfold executeStep
    simp only [step, hnamed.found]
    rfl
  obtain ⟨next, hask, hnext⟩ : ∃ next, executeLaunch state window.id window
      = .ask (.launch window.process) next
        ∧ next (.ok (s.nextPid + 1) : Result UInt64) = .done {
            handles := state.handles.set (pidKey window.id) (s.nextPid + 1)
            report := { state.report with appsLaunched := state.report.appsLaunched + 1 } } :=
    ⟨_, rfl, rfl⟩
  have hwait : ∀ state' : Execution, state'.handles (pidKey window.id) = some (s.nextPid + 1) →
      ∀ e, ∃ next, executeStep context state' (step .waitForWindow window.id description')
          = .ask (.waitForWindow (s.nextPid + 1) window.title context.options.windowSettleTimeout)
              next
        ∧ next (.error e : Result WindowInfo)
          = .done (state'.fail (str "no window appeared for " ++ window.process.appId)) := by
    intro state' hpid' e
    have hstep : executeStep context state' (step .waitForWindow window.id description')
        = executeWait context state' window.id window := by
      unfold executeStep
      simp only [step, hnamed.found]
      rfl
    rw [hstep, executeWait, hpid']
    exact ⟨_, rfl, rfl⟩
  obtain ⟨e, he⟩ := waitForWindow_of_free hpid hfree window.title
  obtain ⟨next', hask', hnext'⟩ := hwait
    { handles := state.handles.set (pidKey window.id) (s.nextPid + 1)
      report := { state.report with appsLaunched := state.report.appsLaunched + 1 } }
    (set_self ..) e
  have hcall : onNullPlatform others (.launch window.process) (s, t)
      = ((.ok (s.nextPid + 1) : Result UInt64), { s with nextPid := s.nextPid + 1 }, t) := by
    have hpair : s.launch window.process
        = (.ok (s.nextPid + 1), { s with nextPid := s.nextPid + 1 }) := if_pos hmutable
    exact congrArg (fun result : Result UInt64 × NullPlatformState => (result.1, result.2, t)) hpair
  have hcall' : onNullPlatform others
      (.waitForWindow (s.nextPid + 1) window.title context.options.windowSettleTimeout)
      ({ s with nextPid := s.nextPid + 1 }, t)
      = ((.error e : Result WindowInfo), { s with nextPid := s.nextPid + 1 }, t) :=
    congrArg (fun answer : Result WindowInfo =>
      (answer, ({ s with nextPid := s.nextPid + 1 } : NullPlatformState), t)) he
  simp only [Program.outcome, hlaunch, hask, Program.trace_ask, hcall, hnext, Program.trace_done,
    hask', hcall', hnext', and_true]
  refine ⟨fun key hkey => ?_, (UInt32.add_zero _).symm, rfl, rfl⟩
  exact (set_of_ne _ (hkey window hnamed.mem).symm).trans (hfiled key hkey)

theorem does_launch (hdesktop : desktop.allowMutation = true) (hnamed : Named context window)
    (hmutable : s.allowMutation = true) (hpid : s.nextPid + 1 ≠ 0)
    (hfree : ∀ native ∈ s.windows, native.process.pid ≠ s.nextPid + 1) :
    Does others context handles (launchSteps desktop.capabilities window) s (0, 1, 1)
      { s with nextPid := s.nextPid + 1 } := by
  unfold launchSteps
  simp only [NullPlatformState.capabilities, hdesktop]
  exact does_launchAndWait hnamed hmutable hpid hfree

end Placed

end Window

end Steps

end ContextSnap.Restore
