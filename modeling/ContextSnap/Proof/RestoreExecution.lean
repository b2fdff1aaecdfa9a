import ContextSnap.Proof.RestoreGating

/-!
# Runs of the executor

What one step of the executor does, for every answer of the platform: which call it makes, what it
files under which key of the handle map, and what it counts. Everything that holds along a run is
derived from this one case analysis.
-/

namespace ContextSnap.Restore

open Hal (Call)

/-- A call with the answer the platform gave. -/
abbrev Event := Program.Event Hal.Op Hal.Answer

/-- A step of the executor with its calls and the states around it. -/
abbrev Round := Program.Entry Hal.Op Hal.Answer RestoreStep Execution

/-- Nothing that is counted per window changes. -/
def SameCounts (before after : Execution) : Prop :=
  after.report.windowsRestored = before.report.windowsRestored
    ∧ after.report.windowsFailed = before.report.windowsFailed

/-- The native window that a call acts on. -/
def drives : Hal.Op → Option UInt64
  | .setFrame handle _ | .setState handle _ | .moveWindow handle _ | .raise handle
  | .focus handle => some handle
  | _ => none

/-- What a step does to a state, with the calls it makes. -/
inductive Effect (context : Context) (state : Execution) (current : RestoreStep) :
    List Event → Execution → Prop where
  | idle (after : Execution) (hhandles : after.handles = state.handles)
      (hcounts : SameCounts state after) : Effect context state current [] after
  | launched (saved : WindowInfo) (pid : UInt64)
      (hcarries : Carries current (.launch saved.process))
      (hsaved : context.snapshot.findWindow current.targetId = some saved) :
      Effect context state current [⟨.launch saved.process, (.ok pid : Result UInt64)⟩]
        { handles := state.handles.set (pidKey current.targetId) pid
          report := { state.report with appsLaunched := state.report.appsLaunched + 1 } }
  | launchFailed (saved : WindowInfo) (e : Error) (error : Bytes)
      (hcarries : Carries current (.launch saved.process))
      (hsaved : context.snapshot.findWindow current.targetId = some saved) :
      Effect context state current [⟨.launch saved.process, (.error e : Result UInt64)⟩]
        (state.fail error)
  | appeared (saved found : WindowInfo) (pid : UInt64) (timeout : Milliseconds)
      (hcarries : Carries current (.waitForWindow pid saved.title timeout))
      (hsaved : context.snapshot.findWindow current.targetId = some saved) :
      Effect context state current
        [⟨.waitForWindow pid saved.title timeout, (.ok found : Result WindowInfo)⟩]
        { state with handles := state.handles.set current.targetId found.nativeHandle }
  | noWindow (saved : WindowInfo) (e : Error) (error : Bytes) (pid : UInt64)
      (timeout : Milliseconds) (hcarries : Carries current (.waitForWindow pid saved.title timeout))
      (hsaved : context.snapshot.findWindow current.targetId = some saved) :
      Effect context state current
        [⟨.waitForWindow pid saved.title timeout, (.error e : Result WindowInfo)⟩]
        (state.fail error)
  | placed (handle : UInt64) (frame : Rect) (hcarries : Carries current (.setFrame handle frame))
      (hhandle : state.handles current.targetId = some handle) :
      Effect context state current [⟨.setFrame handle frame, (.ok () : Status)⟩]
        { state with report := { state.report with
          windowsRestored := state.report.windowsRestored + 1 } }
  | notPlaced (handle : UInt64) (frame : Rect) (e : Error) (error : Bytes)
      (hcarries : Carries current (.setFrame handle frame))
      (hhandle : state.handles current.targetId = some handle) :
      Effect context state current [⟨.setFrame handle frame, (.error e : Status)⟩]
        (state.fail error)
  | called (op : Hal.Op) (answer : Hal.Answer op) (after : Execution)
      (hcarries : Carries current op) (hplaces : closes current.kind = true
        ∨ current.kind ∈ [RestoreStepKind.setWindowState, .setWorkspace, .restoreTabs])
      (hdrives : ∀ handle, drives op = some handle → state.handles current.targetId = some handle)
      (hhandles : after.handles = state.handles) (hcounts : SameCounts state after) :
      Effect context state current [⟨op, answer⟩] after

@[simp]
theorem settle_handles (state : Execution) (what : Bytes) (status : Status) :
    (state.settle what status).handles = state.handles := by
  cases status <;> rfl

theorem sameCounts_settle (state : Execution) (what : Bytes) (status : Status) :
    SameCounts state (state.settle what status) := by
  cases status <;> exact ⟨rfl, rfl⟩

section Trace

variable {σ : Type} (handler : (op : Hal.Op) → σ → Hal.Answer op × σ)

/-- The effect of a program that makes one call and then stops. -/
theorem effect_of_ask {context : Context} {state : Execution} {current : RestoreStep}
    {op : Hal.Op} {next : Hal.Answer op → Call Execution}
    (h : ∀ answer, ∃ after, next answer = .done after
      ∧ Effect context state current [⟨op, answer⟩] after) (s : σ) :
    Effect context state current ((Program.ask op next).trace handler s).1
      ((Program.ask op next).trace handler s).2.1 := by
  obtain ⟨after, hafter, heffect⟩ := h (handler op s).1
  rw [Program.trace_ask, hafter]
  exact heffect

/-- **One step.** -/
theorem executeStep_effect (context : Context) (state : Execution) (current : RestoreStep) (s : σ) :
    Effect context state current ((executeStep context state current).trace handler s).1
      ((executeStep context state current).trace handler s).2.1 := by
  have hidle : ∀ after : Execution, after.handles = state.handles → SameCounts state after →
      Effect context state current ((.done after : Call Execution).trace handler s).1
        ((.done after : Call Execution).trace handler s).2.1 :=
    fun after hhandles hcounts => .idle after hhandles hcounts
  unfold executeStep
  by_cases hskip : current.skipped = true
  · rw [if_pos hskip]
    exact hidle _ rfl ⟨rfl, rfl⟩
  · have hactive : current.skipped = false := by simpa using hskip
    have hcarries : ∀ {op kind}, current.kind = kind → stepOf op = some kind → Carries current op :=
      fun hkind hop => ⟨hactive, hkind ▸ hop⟩
    rw [if_neg hskip]
    cases hkind : current.kind with
    | launchProcess =>
        cases hsaved : context.snapshot.findWindow current.targetId with
        | none => exact hidle _ rfl ⟨rfl, rfl⟩
        | some saved =>
            apply effect_of_ask
            rintro (e | pid)
            · exact ⟨_, rfl, .launchFailed saved e _ (hcarries hkind rfl) hsaved⟩
            · exact ⟨_, rfl, .launched saved pid (hcarries hkind rfl) hsaved⟩
    | waitForWindow =>
        cases hsaved : context.snapshot.findWindow current.targetId with
        | none => exact hidle _ rfl ⟨rfl, rfl⟩
        | some saved =>
            apply effect_of_ask
            rintro (e | found)
            · exact ⟨_, rfl, .noWindow saved e _ _ _ (hcarries hkind rfl) hsaved⟩
            · exact ⟨_, rfl, .appeared saved found _ _ (hcarries hkind rfl) hsaved⟩
    | moveWindow =>
        cases context.snapshot.findWindow current.targetId with
        | none => exact hidle _ rfl ⟨rfl, rfl⟩
        | some saved =>
            cases hhandle : state.handles current.targetId with
            | none => exact hidle _ rfl ⟨rfl, rfl⟩
            | some handle =>
                apply effect_of_ask
                rintro (e | _)
                · exact ⟨_, rfl, .notPlaced handle _ e _ (hcarries hkind rfl) hhandle⟩
                · exact ⟨_, rfl, .placed handle _ (hcarries hkind rfl) hhandle⟩
    | setWindowState =>
        cases context.snapshot.findWindow current.targetId with
        | none => exact hidle _ rfl ⟨rfl, rfl⟩
        | some saved =>
            cases hhandle : state.handles current.targetId with
            | none => exact hidle _ rfl ⟨rfl, rfl⟩
            | some handle =>
                apply effect_of_ask
                intro answer
                exact ⟨_, rfl, .called _ answer _ (hcarries hkind rfl) (by simp [hkind])
                  (by simp [drives, hhandle]) (settle_handles ..) (sameCounts_settle ..)⟩
    | setWorkspace =>
        simp only
        cases (context.snapshot.findWindow current.targetId).bind (·.workspaceId) with
        | none => exact hidle _ rfl ⟨rfl, rfl⟩
        | some workspace =>
            cases hhandle : state.handles current.targetId with
            | none => exact hidle _ rfl ⟨rfl, rfl⟩
            | some handle =>
                apply effect_of_ask
                intro answer
                exact ⟨_, rfl, .called _ answer _ (hcarries hkind rfl) (by simp [hkind])
                  (by simp [drives, hhandle]) (settle_handles ..) (sameCounts_settle ..)⟩
    | raiseWindow =>
        cases hhandle : state.handles current.targetId with
        | none => exact hidle _ rfl ⟨rfl, rfl⟩
        | some handle =>
            apply effect_of_ask
            intro answer
            exact ⟨_, rfl, .called _ answer _ (hcarries hkind rfl) (by simp [hkind, closes])
              (by simp [drives, hhandle]) (settle_handles ..) (sameCounts_settle ..)⟩
    | restoreTabs =>
        cases context.snapshot.findWindow current.targetId with
        | none => exact hidle _ rfl ⟨rfl, rfl⟩
        | some saved =>
            by_cases hbridge : context.bridge = true
            · simp only [hbridge, if_true]
              apply effect_of_ask
              rintro (e | restored) <;>
                exact ⟨_, rfl, .called _ _ _ (hcarries hkind rfl) (by simp [hkind])
                  (by simp [drives]) rfl ⟨rfl, rfl⟩⟩
            · simp only [hbridge]
              exact hidle _ rfl ⟨rfl, rfl⟩
    | warpCursor =>
        apply effect_of_ask
        intro answer
        exact ⟨_, rfl, .called _ answer _ (hcarries hkind rfl) (by simp [hkind, closes])
          (by simp [drives]) (settle_handles ..) (sameCounts_settle ..)⟩
    | focusWindow =>
        cases hhandle : state.handles current.targetId with
        | none => exact hidle _ rfl ⟨rfl, rfl⟩
        | some handle =>
            apply effect_of_ask
            intro answer
            exact ⟨_, rfl, .called _ answer _ (hcarries hkind rfl) (by simp [hkind, closes])
              (by simp [drives, hhandle]) (settle_handles ..) (sameCounts_settle ..)⟩

end Trace

/-! ### The handle map -/

section Handles

variable {context : Context} {state after : Execution} {current : RestoreStep} {events : List Event}

@[simp]
theorem set_self (handles : Handles) (key : Bytes) (value : UInt64) :
    handles.set key value key = some value := Function.update_self ..

theorem set_of_ne {handles : Handles} {key other : Bytes} (value : UInt64) (h : other ≠ key) :
    handles.set key value other = handles other := Function.update_of_ne h ..

theorem set_ne_none {handles : Handles} {key other : Bytes} (value : UInt64)
    (h : handles other ≠ none) : handles.set key value other ≠ none := by
  by_cases hkey : other = key
  · rw [hkey, set_self]
    exact Option.some_ne_none _
  · rwa [set_of_ne value hkey]

/-- Only a launch and a wait file something, each under a key of its own target. -/
theorem Effect.handles_eq (h : Effect context state current events after) {key : Bytes}
    (hlaunch : current.kind = .launchProcess → current.skipped = false →
      pidKey current.targetId ≠ key)
    (hwait : current.kind = .waitForWindow → current.skipped = false → current.targetId ≠ key) :
    after.handles key = state.handles key := by
  cases h with
  | idle after hhandles hcounts => rw [hhandles]
  | launched saved pid hcarries hsaved =>
      exact set_of_ne pid (hlaunch (Option.some.inj hcarries.2).symm hcarries.1).symm
  | launchFailed saved e error hcarries hsaved => rfl
  | appeared saved found pid timeout hcarries hsaved =>
      exact set_of_ne _ (hwait (Option.some.inj hcarries.2).symm hcarries.1).symm
  | noWindow saved e error pid timeout hcarries hsaved => rfl
  | placed handle frame hcarries hhandle => rfl
  | notPlaced handle frame e error hcarries hhandle => rfl
  | called op answer after hcarries hplaces hdrives hhandles hcounts => rw [hhandles]

/-- What is filed stays filed. -/
theorem Effect.handles_ne_none (h : Effect context state current events after) {key : Bytes}
    (hbound : state.handles key ≠ none) : after.handles key ≠ none := by
  cases h with
  | idle after hhandles hcounts => rwa [hhandles]
  | launched saved pid hcarries hsaved => exact set_ne_none pid hbound
  | launchFailed saved e error hcarries hsaved => exact hbound
  | appeared saved found pid timeout hcarries hsaved => exact set_ne_none _ hbound
  | noWindow saved e error pid timeout hcarries hsaved => exact hbound
  | placed handle frame hcarries hhandle => exact hbound
  | notPlaced handle frame e error hcarries hhandle => exact hbound
  | called op answer after hcarries hplaces hdrives hhandles hcounts => rwa [hhandles]

/-- A call that drives a native window drives the one that is filed for its target. -/
theorem Effect.drives_eq (h : Effect context state current events after) {event : Event}
    (hevent : event ∈ events) {handle : UInt64} (hdrives : drives event.op = some handle) :
    state.handles current.targetId = some handle := by
  cases h with
  | idle after hhandles hcounts => simp at hevent
  | launched | launchFailed | appeared | noWindow =>
      rw [List.mem_singleton.mp hevent] at hdrives
      simp [drives] at hdrives
  | placed driven frame hcarries hhandle | notPlaced driven frame e error hcarries hhandle =>
      rw [List.mem_singleton.mp hevent] at hdrives
      exact hhandle.trans hdrives
  | called op answer after hcarries hplaces hop hhandles hcounts =>
      rw [List.mem_singleton.mp hevent] at hdrives
      exact hop handle hdrives

theorem Effect.carries (h : Effect context state current events after) {event : Event}
    (hevent : event ∈ events) : Carries current event.op := by
  cases h with
  | idle after hhandles hcounts => simp at hevent
  | launched saved pid hcarries | launchFailed saved e error hcarries
  | appeared saved found pid timeout hcarries | noWindow saved e error pid timeout hcarries
  | placed handle frame hcarries | notPlaced handle frame e error hcarries
  | called op answer after hcarries =>
      rw [List.mem_singleton.mp hevent]
      exact hcarries

end Handles

section Outcome

variable {σ : Type} (handler : (op : Hal.Op) → σ → Hal.Answer op × σ) (context : Context)

/-- Only launches and waits change the handle map. -/
theorem outcome_handles {steps : List RestoreStep}
    (hsteps : ∀ current ∈ steps, launches current.kind = false) (state : Execution) (s : σ) :
    (Program.outcome handler (executeStep context) steps state s).1.handles = state.handles := by
  refine (Program.journal_invariant (I := fun after : Execution => after.handles = state.handles)
    ?_ s rfl).2
  intro current hcurrent before s' hbefore
  rw [← hbefore]
  have hkind := hsteps current hcurrent
  funext key
  apply (executeStep_effect handler context before current s').handles_eq
  · intro h
    simp [h, launches] at hkind
  · intro h
    simp [h, launches] at hkind

end Outcome

/-! ### Rounds of a plan -/

section Rounds

variable {σ : Type} (handler : (op : Hal.Op) → σ → Hal.Answer op × σ) (s : σ)

/-- The displays that the executor finds. -/
def shownDisplays : Result (List MonitorInfo) :=
  (handler .enumerateDisplays (handler .steadyNow s).2).1

/-- The live windows that the executor finds. -/
def shownWindows : Result (List WindowInfo) :=
  (handler (.enumerateWindows probe) (handler .enumerateDisplays (handler .steadyNow s).2).2).1

/-- The environment before the first step. -/
def beforeSteps : σ :=
  (handler (.enumerateWindows probe) (handler .enumerateDisplays (handler .steadyNow s).2).2).2

variable (saved : Snapshot) (plan : RestorePlan) (options : RestoreOptions) (bridge : Bool)

def executorContext : Context :=
  { snapshot := saved, monitors := (shownDisplays handler s).toOption.getD saved.monitors
    options, bridge }

/-- The executor's rounds over the steps of a plan. -/
def planRounds : List Round :=
  Program.journal handler (executeStep (executorContext handler s saved options bridge)) plan.steps
    (initialExecution saved (shownWindows handler s)) (beforeSteps handler s)

/-- The executor behind the last step of a plan. -/
def planOutcome : Execution × σ :=
  Program.outcome handler (executeStep (executorContext handler s saved options bridge)) plan.steps
    (initialExecution saved (shownWindows handler s)) (beforeSteps handler s)

variable {handler s saved plan options bridge} in
theorem mem_planRounds {round : Round} (h : round ∈ planRounds handler s saved plan options bridge) :
    round.item ∈ plan.steps ∧ Effect (executorContext handler s saved options bridge) round.before
      round.item round.events round.after := by
  obtain ⟨hitem, s', hround⟩ := Program.mem_journal h
  refine ⟨hitem, ?_⟩
  rw [hround]
  exact executeStep_effect handler _ _ _ s'

variable {plan} in
/-- **Invariants of a run.** -/
theorem planRounds_invariant {I : Execution → Prop}
    (hinit : I (initialExecution saved (shownWindows handler s)))
    (hstep : ∀ current ∈ plan.steps, ∀ state events after, I state →
      Effect (executorContext handler s saved options bridge) state current events after → I after) :
    (∀ round ∈ planRounds handler s saved plan options bridge, I round.before ∧ I round.after)
      ∧ I (planOutcome handler s saved plan options bridge).1 :=
  Program.journal_invariant (fun current hcurrent state s' hstate =>
    hstep current hcurrent state _ _ hstate (executeStep_effect handler _ state current s')) _ hinit

theorem executePlan_eq :
    executePlan saved plan options bridge
      = .ask .steadyNow fun started => .ask .enumerateDisplays fun displays =>
          .ask (.enumerateWindows probe) fun live =>
            executeSteps
              { snapshot := saved, monitors := Except.toOption displays |>.getD saved.monitors
                options, bridge } (initialExecution saved live) plan.steps
            >>= fun last => .ask .steadyNow fun finished =>
              .done (.ok { last.report with durationMs := Hal.elapsedMs started finished }) :=
  rfl

/-- The trace of `execute_plan` is that of its rounds, between the queries at either end. -/
theorem executePlan_trace :
    (executePlan saved plan options bridge).trace handler s
      = let last := planOutcome handler s saved plan options bridge
        ([⟨.steadyNow, (handler .steadyNow s).1⟩, ⟨.enumerateDisplays, shownDisplays handler s⟩,
            ⟨.enumerateWindows probe, shownWindows handler s⟩]
          ++ (planRounds handler s saved plan options bridge).flatMap (·.events)
          ++ [⟨.steadyNow, (handler .steadyNow last.2).1⟩],
        .ok { last.1.report with
          durationMs := Hal.elapsedMs (handler .steadyNow s).1 (handler .steadyNow last.2).1 },
        (handler .steadyNow last.2).2) := by
  have hsteps := Program.trace_foldlM handler
    (executeStep (executorContext handler s saved options bridge)) plan.steps
    (initialExecution saved (shownWindows handler s)) (beforeSteps handler s)
  rw [executePlan_eq, Program.trace_ask, Program.trace_ask, Program.trace_ask]
  have hrest := Program.trace_bind_of_eq handler hsteps fun last =>
    (Program.ask .steadyNow fun finished => .done (Except.ok { last.report with
      durationMs := Hal.elapsedMs (handler .steadyNow s).1 finished }) : Call (Result RestoreReport))
  exact congrArg (fun run : List Event × Result RestoreReport × σ =>
    (_ :: _ :: _ :: run.1, run.2)) hrest

end Rounds

/-- A platform that shows `now` and does what it is asked, though no window ever appears. -/
def obliging (now : Result (List WindowInfo)) :
    (op : Hal.Op) → Unit → Hal.Answer op × Unit
  | .enumerateWindows _, s => (now, s)
  | .setFrame _ _, s | .setState _ _, s | .raise _, s | .focus _, s | .warp _ _, s
  | .moveWindow _ _, s => ((.ok () : Status), s)
  | .waitForWindow _ _ _, s => ((.error {} : Result WindowInfo), s)
  | .enumerateDisplays, s => ((.error {} : Result (List MonitorInfo)), s)
  | .queryCursor, s => ((.error {} : Result CursorState), s)
  | .launch _, s => ((.ok 1 : Result UInt64), s)
  | .currentWorkspace, s => ((.error {} : Result Bytes), s)
  | .captureTabs _ _, s => ((.error {} : Result Browser.TabCapture), s)
  | .restoreTabs _ _, s => ((.ok 0 : Result UInt32), s)
  | .steadyNow, s => ((0 : Int64), s)

end ContextSnap.Restore
