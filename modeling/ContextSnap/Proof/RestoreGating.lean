import ContextSnap.Proof.RestorePlan

/-!
# Capability gating

The executor asks the platform only for what its step is about, and not at all for a skipped step.
-/

namespace ContextSnap.Restore

open Hal (Capabilities Platform Call)

/-- The kind of step that a call carries out. -/
def stepOf : Hal.Op → Option RestoreStepKind
  | .launch _ => some .launchProcess
  | .waitForWindow _ _ _ => some .waitForWindow
  | .setFrame _ _ => some .moveWindow
  | .setState _ _ => some .setWindowState
  | .moveWindow _ _ => some .setWorkspace
  | .raise _ => some .raiseWindow
  | .restoreTabs _ _ => some .restoreTabs
  | .warp _ _ => some .warpCursor
  | .focus _ => some .focusWindow
  | _ => none

/-- The calls of a step. -/
def Carries (current : RestoreStep) (op : Hal.Op) : Prop :=
  current.skipped = false ∧ stepOf op = some current.kind

/-- One call, and nothing behind it whatever the answer. -/
theorem all_ask_done {good : Hal.Op → Prop} {op : Hal.Op}
    {next : Hal.Answer op → Call Execution} (hop : good op)
    (hnext : ∀ answer, ∃ state, next answer = .done state) : (Program.ask op next).All good := by
  refine ⟨hop, ?_⟩
  intro answer
  obtain ⟨state, hstate⟩ := hnext answer
  rw [hstate]
  trivial

theorem executeStep_carries (context : Context) (state : Execution) (current : RestoreStep) :
    (executeStep context state current).All (Carries current) := by
  unfold executeStep
  by_cases hskip : current.skipped = true
  · rw [if_pos hskip]
    trivial
  · have hactive : current.skipped = false := by simpa using hskip
    have hcarries : ∀ {op kind}, current.kind = kind → stepOf op = some kind → Carries current op :=
      fun hkind hop => ⟨hactive, hkind ▸ hop⟩
    rw [if_neg hskip]
    cases hkind : current.kind with
    | launchProcess =>
        cases context.snapshot.findWindow current.targetId with
        | none => trivial
        | some window =>
            apply all_ask_done (hcarries hkind rfl)
            rintro (e | pid) <;> exact ⟨_, rfl⟩
    | waitForWindow =>
        cases context.snapshot.findWindow current.targetId with
        | none => trivial
        | some window =>
            apply all_ask_done (hcarries hkind rfl)
            rintro (e | window) <;> exact ⟨_, rfl⟩
    | moveWindow =>
        cases context.snapshot.findWindow current.targetId with
        | none => trivial
        | some window =>
            cases state.handles current.targetId with
            | none => trivial
            | some handle =>
                apply all_ask_done (hcarries hkind rfl)
                rintro (e | _) <;> exact ⟨_, rfl⟩
    | setWindowState =>
        cases context.snapshot.findWindow current.targetId with
        | none => trivial
        | some window =>
            cases state.handles current.targetId with
            | none => trivial
            | some handle => exact all_ask_done (hcarries hkind rfl) fun _ => ⟨_, rfl⟩
    | setWorkspace =>
        simp only
        cases (context.snapshot.findWindow current.targetId).bind (·.workspaceId) with
        | none => trivial
        | some workspace =>
            cases state.handles current.targetId with
            | none => trivial
            | some handle => exact all_ask_done (hcarries hkind rfl) fun _ => ⟨_, rfl⟩
    | raiseWindow =>
        cases state.handles current.targetId with
        | none => trivial
        | some handle => exact all_ask_done (hcarries hkind rfl) fun _ => ⟨_, rfl⟩
    | restoreTabs =>
        cases context.snapshot.findWindow current.targetId with
        | none => trivial
        | some window =>
            by_cases hbridge : context.bridge = true
            · simp only [hbridge, if_true]
              apply all_ask_done (hcarries hkind rfl)
              rintro (e | restored) <;> exact ⟨_, rfl⟩
            · simp only [hbridge]
              trivial
    | warpCursor => exact all_ask_done (hcarries hkind rfl) fun _ => ⟨_, rfl⟩
    | focusWindow =>
        cases state.handles current.targetId with
        | none => trivial
        | some handle => exact all_ask_done (hcarries hkind rfl) fun _ => ⟨_, rfl⟩

/-! ### Whole plans -/

/-- What a platform with these capabilities may be asked for. -/
def Permitted (capabilities : Capabilities) : Hal.Op → Prop
  | .launch _ | .waitForWindow _ _ _ => capabilities.launchProcesses = true
  | .setFrame _ _ => capabilities.setWindowGeometry = true
  | .setState _ _ => capabilities.setWindowState = true
  | .moveWindow _ _ => capabilities.moveBetweenDesktops = true
  | .raise _ => capabilities.zOrder = true
  | .warp _ _ => capabilities.cursorWarp = true
  | .focus _ => capabilities.focusControl = true
  | _ => True

theorem Gated.permitted {capabilities : Capabilities} {current : RestoreStep}
    (hgated : Gated capabilities current) {op : Hal.Op} (hop : Carries current op) :
    Permitted capabilities op := by
  have hallows := hgated hop.1
  have hkind := hop.2
  cases op <;> simp only [stepOf, Option.some.injEq, reduceCtorEq] at hkind <;>
    first
      | trivial
      | (rw [← hkind] at hallows; exact hallows)

theorem executeSteps_permitted {capabilities : Capabilities} (context : Context)
    {steps : List RestoreStep} (hsteps : ∀ current ∈ steps, Gated capabilities current)
    (state : Execution) : (executeSteps context state steps).All (Permitted capabilities) := by
  induction steps generalizing state with
  | nil => trivial
  | cons current steps ih =>
      rw [executeSteps, List.foldlM_cons]
      apply Program.All.bind
      · exact (executeStep_carries context state current).mono
          fun op => (hsteps current (by simp)).permitted
      · exact fun state' => ih (fun c hc => hsteps c (List.mem_cons_of_mem _ hc)) state'

theorem executePlan_permitted_of_gated {capabilities : Capabilities} {plan : RestorePlan}
    (hplan : ∀ current ∈ plan.steps, Gated capabilities current) (saved : Snapshot)
    (options : RestoreOptions) (bridge : Bool) :
    (executePlan saved plan options bridge).All (Permitted capabilities) := by
  refine ⟨trivial, fun started => ⟨trivial, fun displays => ⟨trivial, fun live => ?_⟩⟩⟩
  apply Program.All.bind (executeSteps_permitted _ hplan _)
  exact fun last => ⟨trivial, fun finished => trivial⟩

/-- **Capability gating.** Planning a restore and executing the plan, whatever the platform answers,
asks it for nothing that its capabilities exclude. -/
theorem planRestore_executePlan_permitted (platform : Platform) (saved : Snapshot)
    (options : RestoreOptions) (bridge : Bool) :
    (planRestore platform saved options >>= fun plan =>
      executePlan saved plan options bridge).All (Permitted platform.capabilities) := by
  refine ⟨trivial, fun displays => ⟨trivial, fun live => ?_⟩⟩
  exact executePlan_permitted_of_gated (fun current h => (mem_planFor_steps h).gated) saved options
    bridge

end ContextSnap.Restore
