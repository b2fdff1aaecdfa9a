import ContextSnap.Proof.RestoreSelection

/-!
# Restore accounting

A window is counted when its launch fails, when no window appears for it, and when it is placed or
cannot be. A launched window goes through all three, so it may be counted more than once.
-/

namespace ContextSnap.Restore

open Hal (Capabilities Platform)

/-! ### What a round counts -/

/-- How often a round counts a window as restored. -/
def restoredIn (round : Round) : Nat :=
  (round.after.report.windowsRestored - round.before.report.windowsRestored).toNat

/-- How often a round counts a window as failed. -/
def failedIn (round : Round) : Nat :=
  (round.after.report.windowsFailed - round.before.report.windowsFailed).toNat

def countedIn (round : Round) : Nat := restoredIn round + failedIn round

/-- A launch that failed. -/
def launchFailed : (op : Hal.Op) → Hal.Answer op → Bool
  | .launch _, answer => !Except.isOk (answer : Result UInt64)
  | _, _ => false

/-- A wait that no window ended. -/
def waitFailed : (op : Hal.Op) → Hal.Answer op → Bool
  | .waitForWindow _ _ _, answer => !Except.isOk (answer : Result WindowInfo)
  | _, _ => false

def isPlacement : Hal.Op → Bool
  | .setFrame _ _ => true
  | _ => false

/-- The calls that count a window. -/
def counts (event : Event) : Bool :=
  launchFailed event.op event.answer || waitFailed event.op event.answer || isPlacement event.op

theorem toNat_add_one_sub (n : UInt32) : (n + 1 - n).toNat = 1 := by
  have : n + 1 - n = 1 := by rw [UInt32.add_comm, UInt32.add_sub_cancel]
  rw [this]
  rfl

/-- **A round counts its calls.** -/
theorem countedIn_eq {context : Context} {round : Round}
    (h : Effect context round.before round.item round.events round.after) :
    countedIn round = round.events.countP counts := by
  obtain ⟨item, before, events, after⟩ := round
  change Effect context before item events after at h
  have hfail : ∀ error, countedIn ⟨item, before, events, before.fail error⟩ = 1 := by
    intro error
    simp [countedIn, restoredIn, failedIn, Execution.fail, toNat_add_one_sub]
  have hsame : SameCounts before after → countedIn ⟨item, before, events, after⟩ = 0 := by
    intro hcounts
    simp [countedIn, restoredIn, failedIn, hcounts.1, hcounts.2]
  cases h with
  | idle after hhandles hcounts => exact hsame hcounts
  | launched saved pid hcarries hsaved => exact hsame ⟨rfl, rfl⟩
  | launchFailed saved e error hcarries hsaved => exact hfail error
  | appeared saved found pid timeout hcarries hsaved => exact hsame ⟨rfl, rfl⟩
  | noWindow saved e error pid timeout hcarries hsaved => exact hfail error
  | placed handle frame hcarries hhandle =>
      simp [countedIn, restoredIn, failedIn, toNat_add_one_sub, counts, isPlacement]
  | notPlaced handle frame e error hcarries hhandle => exact hfail error
  | called op answer after hcarries hplaces hdrives hhandles hcounts =>
      have hnot : counts ⟨op, answer⟩ = false := by
        have hkind := hcarries.2
        cases op <;> first
          | rfl
          | (simp only [stepOf, Option.some.injEq] at hkind
             simp [← hkind, closes] at hplaces)
      rw [hsame hcounts, List.countP_cons, hnot]
      rfl

/-! ### The rounds of one window -/

section Window

variable {σ : Type} (handler : (op : Hal.Op) → σ → Hal.Answer op × σ) (context : Context)
  (capabilities : Capabilities)

/-- The rounds over some steps. -/
abbrev roundsOver (steps : List RestoreStep) (state : Execution) (s : σ) : List Round :=
  Program.journal handler (executeStep context) steps state s

def countedOver (rounds : List Round) : Nat := (rounds.map countedIn).sum

def launchFailedIn (rounds : List Round) : Bool :=
  rounds.any fun round => round.events.any fun event => launchFailed event.op event.answer

def waitFailedIn (rounds : List Round) : Bool :=
  rounds.any fun round => round.events.any fun event => waitFailed event.op event.answer

theorem effect_of_mem {steps : List RestoreStep} {state : Execution} {s : σ} {round : Round}
    (h : round ∈ roundsOver handler context steps state s) :
    Effect context round.before round.item round.events round.after := by
  obtain ⟨-, s', hround⟩ := Program.mem_journal h
  rw [hround]
  exact executeStep_effect handler _ _ _ s'

/-- Steps that are skipped, or neither launch, wait nor place, count nothing. -/
theorem quiet_rounds {steps : List RestoreStep}
    (hsteps : ∀ current ∈ steps, current.skipped = true
      ∨ launches current.kind = false ∧ current.kind ≠ .moveWindow)
    (state : Execution) (s : σ) :
    countedOver (roundsOver handler context steps state s) = 0
      ∧ launchFailedIn (roundsOver handler context steps state s) = false
      ∧ waitFailedIn (roundsOver handler context steps state s) = false := by
  have hquiet : ∀ round ∈ roundsOver handler context steps state s, ∀ event ∈ round.events,
      counts event = false := by
    intro round hround event hevent
    have hcarries := (effect_of_mem handler context hround).carries hevent
    have hactive := hcarries.1
    have hkind := hcarries.2
    have hitem := (hsteps round.item (Program.mem_journal hround).1).resolve_left (by simp [hactive])
    obtain ⟨op, answer⟩ := event
    cases op <;> first
      | rfl
      | (simp only [stepOf, Option.some.injEq] at hkind
         simp [← hkind, launches] at hitem)
  refine ⟨?_, ?_, ?_⟩
  · apply List.sum_eq_zero
    intro n hn
    obtain ⟨round, hround, rfl⟩ := List.mem_map.mp hn
    rw [countedIn_eq (effect_of_mem handler context hround), List.countP_eq_zero]
    exact fun event hevent => by simp [hquiet round hround event hevent]
  · rw [launchFailedIn, List.any_eq_false]
    intro round hround
    rw [Bool.not_eq_true, List.any_eq_false]
    intro event hevent
    have hcounts := hquiet round hround event hevent
    simp only [counts, Bool.or_eq_false_iff] at hcounts
    simp [hcounts.1.1]
  · rw [waitFailedIn, List.any_eq_false]
    intro round hround
    rw [Bool.not_eq_true, List.any_eq_false]
    intro event hevent
    have hcounts := hquiet round hround event hevent
    simp only [counts, Bool.or_eq_false_iff] at hcounts
    simp [hcounts.1.2]

@[simp]
theorem countedOver_append (front back : List Round) :
    countedOver (front ++ back) = countedOver front + countedOver back := by
  simp [countedOver]

@[simp]
theorem launchFailedIn_append (front back : List Round) :
    launchFailedIn (front ++ back) = (launchFailedIn front || launchFailedIn back) := by
  simp [launchFailedIn]

@[simp]
theorem waitFailedIn_append (front back : List Round) :
    waitFailedIn (front ++ back) = (waitFailedIn front || waitFailedIn back) := by
  simp [waitFailedIn]

/-- The counts of a round that makes one call. -/
theorem single_round {round : Round} {event : Event} (hevents : round.events = [event])
    (heffect : Effect context round.before round.item round.events round.after) :
    countedOver [round] = (counts event).toNat
      ∧ launchFailedIn [round] = launchFailed event.op event.answer
      ∧ waitFailedIn [round] = waitFailed event.op event.answer := by
  refine ⟨?_, by simp [launchFailedIn, hevents], by simp [waitFailedIn, hevents]⟩
  rw [countedOver, List.map_singleton, List.sum_singleton, countedIn_eq heffect, hevents]
  cases h : counts event <;> simp [h]

/-- The counts of a round that makes no call. -/
theorem silent_round {round : Round} (hevents : round.events = [])
    (heffect : Effect context round.before round.item round.events round.after) :
    countedOver [round] = 0 ∧ launchFailedIn [round] = false ∧ waitFailedIn [round] = false := by
  refine ⟨?_, by simp [launchFailedIn, hevents], by simp [waitFailedIn, hevents]⟩
  rw [countedOver, List.map_singleton, List.sum_singleton, countedIn_eq heffect, hevents]
  rfl

variable {current : RestoreStep} {saved : WindowInfo}

theorem pidKey_ne (id : Bytes) : pidKey id ≠ id := by
  intro h
  have hlength := congrArg List.length h
  simp [pidKey, str] at hlength

/-- The round of a launch: it counts when it fails, and leaves the window's own handle alone. -/
theorem launch_round (hkind : current.kind = .launchProcess) (hactive : current.skipped = false)
    (hsaved : context.snapshot.findWindow current.targetId = some saved) (state : Execution)
    (s : σ) :
    countedOver (roundsOver handler context [current] state s)
        = (launchFailedIn (roundsOver handler context [current] state s)).toNat
      ∧ waitFailedIn (roundsOver handler context [current] state s) = false
      ∧ (Program.outcome handler (executeStep context) [current] state s).1.handles current.targetId
        = state.handles current.targetId := by
  have hstep : executeStep context state current = executeLaunch state current.targetId saved := by
    simp [executeStep, hactive, hkind, hsaved]
  have hevents : (Program.entry handler (executeStep context) state current s).events
      = [⟨.launch saved.process, (handler (.launch saved.process) s).1⟩] := by
    change ((executeStep context state current).trace handler s).1 = _
    rw [hstep]
    apply Program.trace_ask_once
    rintro (e | pid) <;> exact ⟨_, rfl⟩
  obtain ⟨hcounted, hlaunch, hwait⟩ := single_round context hevents
    (executeStep_effect handler context state current s)
  refine ⟨?_, ?_, ?_⟩
  · rw [roundsOver, Program.journal, Program.journal, hcounted, hlaunch]
    simp [counts, waitFailed, isPlacement]
  · exact hwait.trans rfl
  · apply (executeStep_effect handler context state current s).handles_eq
    · exact fun _ _ => pidKey_ne _
    · intro h
      simp [h] at hkind

/-- The round of a wait: it counts when no window appears, and files the one that does. -/
theorem wait_round (hkind : current.kind = .waitForWindow) (hactive : current.skipped = false)
    (hsaved : context.snapshot.findWindow current.targetId = some saved) (state : Execution)
    (s : σ) :
    countedOver (roundsOver handler context [current] state s)
        = (waitFailedIn (roundsOver handler context [current] state s)).toNat
      ∧ launchFailedIn (roundsOver handler context [current] state s) = false
      ∧ ((Program.outcome handler (executeStep context) [current] state s).1.handles
            current.targetId = none
          ↔ waitFailedIn (roundsOver handler context [current] state s) = true
            ∧ state.handles current.targetId = none) := by
  have hstep : executeStep context state current
      = executeWait context state current.targetId saved := by
    simp [executeStep, hactive, hkind, hsaved]
  set pid := (state.handles (pidKey current.targetId)).getD 0
  set op := Hal.Op.waitForWindow pid saved.title context.options.windowSettleTimeout with hop
  have hevents : (Program.entry handler (executeStep context) state current s).events
      = [⟨op, (handler op s).1⟩] := by
    change ((executeStep context state current).trace handler s).1 = _
    rw [hstep]
    apply Program.trace_ask_once
    rintro (e | found) <;> exact ⟨_, rfl⟩
  obtain ⟨hcounted, hlaunch, hwait⟩ := single_round context hevents
    (executeStep_effect handler context state current s)
  refine ⟨?_, hlaunch.trans rfl, ?_⟩
  · rw [roundsOver, Program.journal, Program.journal, hcounted, hwait]
    simp [counts, launchFailed, isPlacement, hop]
  · rw [roundsOver, Program.journal, Program.journal, hwait]
    change ((executeStep context state current).trace handler s).2.1.handles _ = none ↔ _
    rw [hstep]
    apply Program.trace_ask_value (P := fun (answer : Hal.Answer op) (after : Execution) =>
      after.handles current.targetId = none
        ↔ waitFailed op answer = true ∧ state.handles current.targetId = none)
    rintro (e | found)
    · have hfailed : waitFailed op (.error e : Result WindowInfo) = true := rfl
      exact ⟨_, rfl, by simp [hfailed, Execution.fail]⟩
    · have hfound : waitFailed op (.ok found : Result WindowInfo) = false := rfl
      exact ⟨_, rfl, by simp [hfound]⟩

/-- The round of a placement: it counts if the window has a handle. -/
theorem move_round (hkind : current.kind = .moveWindow)
    (hsaved : context.snapshot.findWindow current.targetId = some saved) (state : Execution)
    (s : σ) :
    countedOver (roundsOver handler context [current] state s)
        = (!current.skipped && (state.handles current.targetId).isSome).toNat
      ∧ launchFailedIn (roundsOver handler context [current] state s) = false
      ∧ waitFailedIn (roundsOver handler context [current] state s) = false := by
  have heffect := executeStep_effect handler context state current s
  by_cases hskip : current.skipped = true
  · have hevents : (Program.entry handler (executeStep context) state current s).events = [] := by
      change ((executeStep context state current).trace handler s).1 = _
      simp [executeStep, hskip]
    obtain ⟨hcounted, hlaunch, hwait⟩ := silent_round context hevents heffect
    exact ⟨hcounted.trans (by simp [hskip]), hlaunch, hwait⟩
  · have hactive : current.skipped = false := by simpa using hskip
    cases hhandle : state.handles current.targetId with
    | none =>
        have hevents : (Program.entry handler (executeStep context) state current s).events = [] := by
          change ((executeStep context state current).trace handler s).1 = _
          simp [executeStep, hactive, hkind, hsaved, hhandle]
        obtain ⟨hcounted, hlaunch, hwait⟩ := silent_round context hevents heffect
        exact ⟨hcounted.trans (by simp), hlaunch, hwait⟩
    | some handle =>
        have hstep : executeStep context state current = executeMove context state saved handle := by
          simp [executeStep, hactive, hkind, hsaved, hhandle]
        set op := Hal.Op.setFrame handle (clampToMonitors saved.restoredFrame context.monitors)
          with hop
        have hevents : (Program.entry handler (executeStep context) state current s).events
            = [⟨op, (handler op s).1⟩] := by
          change ((executeStep context state current).trace handler s).1 = _
          rw [hstep]
          apply Program.trace_ask_once
          rintro (e | _) <;> exact ⟨_, rfl⟩
        obtain ⟨hcounted, hlaunch, hwait⟩ := single_round context hevents heffect
        refine ⟨hcounted.trans ?_, hlaunch.trans rfl, hwait.trans rfl⟩
        simp [counts, hop, isPlacement, launchFailed, waitFailed, hactive]

theorem roundsOver_append (front back : List RestoreStep) (state : Execution) (s : σ) :
    roundsOver handler context (front ++ back) state s
      = roundsOver handler context front state s
        ++ roundsOver handler context back
          (Program.outcome handler (executeStep context) front state s).1
          (Program.outcome handler (executeStep context) front state s).2 :=
  Program.journal_append ..

variable (options : RestoreOptions) (window : WindowInfo)

/-- A placement counts once, if the window has a handle and the platform can place it. -/
theorem place_rounds (hsaved : context.snapshot.findWindow window.id = some saved)
    (state : Execution) (s : σ) :
    countedOver (roundsOver handler context (placeSteps capabilities options window) state s)
        = (capabilities.setWindowGeometry && (state.handles window.id).isSome).toNat
      ∧ launchFailedIn (roundsOver handler context (placeSteps capabilities options window) state s)
        = false
      ∧ waitFailedIn (roundsOver handler context (placeSteps capabilities options window) state s)
        = false
      ∧ (Program.outcome handler (executeStep context) (placeSteps capabilities options window) state
          s).1.handles = state.handles := by
  obtain ⟨move, tail, hsteps, hkind, htarget, hskipped, htail⟩ : ∃ move tail,
      placeSteps capabilities options window = [move] ++ tail ∧ move.kind = .moveWindow
        ∧ move.targetId = window.id ∧ move.skipped = !capabilities.setWindowGeometry
        ∧ ∀ current ∈ tail, launches current.kind = false ∧ current.kind ≠ .moveWindow := by
    refine ⟨_, _, by rw [placeSteps, List.append_assoc, List.append_assoc], rfl, rfl, rfl, ?_⟩
    intro current hcurrent
    simp only [List.mem_append, List.mem_ite_nil_right, List.mem_singleton] at hcurrent
    rcases hcurrent with ⟨-, rfl⟩ | ⟨-, rfl⟩ | ⟨-, rfl⟩ <;> simp [step, launches]
  obtain ⟨hcounted, hlaunch, hwait⟩ := move_round handler context hkind
    (htarget ▸ hsaved) state s
  obtain ⟨htailCounted, htailLaunch, htailWait⟩ := quiet_rounds handler context
    (fun current hcurrent => .inr (htail current hcurrent))
    (Program.outcome handler (executeStep context) [move] state s).1
    (Program.outcome handler (executeStep context) [move] state s).2
  refine ⟨?_, ?_, ?_, ?_⟩
  · rw [hsteps, roundsOver_append, countedOver_append, hcounted, htailCounted, hskipped, htarget]
    simp
  · rw [hsteps, roundsOver_append, launchFailedIn_append, hlaunch, htailLaunch]
    rfl
  · rw [hsteps, roundsOver_append, waitFailedIn_append, hwait, htailWait]
    rfl
  · apply outcome_handles
    exact fun current hcurrent => (placeSteps_targets hcurrent).2.2.1

/-- The rounds of a launched window: it is counted for a failed launch, for a failed wait, and for a
placement if it has a handle in the end. -/
theorem launched_rounds (hsaved : context.snapshot.findWindow window.id = some saved)
    (hlaunch : capabilities.launchProcesses = true) (state : Execution) (s : σ) :
    let steps := launchSteps capabilities window ++ placeSteps capabilities options window
    let rounds := roundsOver handler context steps state s
    countedOver rounds = (launchFailedIn rounds).toNat + (waitFailedIn rounds).toNat
        + (capabilities.setWindowGeometry
          && (!(waitFailedIn rounds) || (state.handles window.id).isSome)).toNat
      ∧ ((Program.outcome handler (executeStep context) steps state s).1.handles window.id = none
        ↔ waitFailedIn rounds = true ∧ state.handles window.id = none) := by
  obtain ⟨launch, wait, hsteps, hlaunchKind, hlaunchTarget, hlaunchSkipped, hwaitKind, hwaitTarget,
    hwaitSkipped⟩ : ∃ launch wait, launchSteps capabilities window = [launch] ++ [wait]
      ∧ launch.kind = .launchProcess ∧ launch.targetId = window.id ∧ launch.skipped = false
      ∧ wait.kind = .waitForWindow ∧ wait.targetId = window.id ∧ wait.skipped = false :=
    ⟨_, _, rfl, rfl, rfl, by simp [step, hlaunch], rfl, rfl, by simp [step, hlaunch]⟩
  intro steps rounds
  set first := Program.outcome handler (executeStep context) [launch] state s with hfirst
  set second := Program.outcome handler (executeStep context) [wait] first.1 first.2 with hsecond
  obtain ⟨hcounted₁, hwait₁, hhandles₁⟩ := launch_round handler context hlaunchKind hlaunchSkipped
    (hlaunchTarget ▸ hsaved) state s
  obtain ⟨hcounted₂, hlaunch₂, hhandles₂⟩ := wait_round handler context hwaitKind hwaitSkipped
    (hwaitTarget ▸ hsaved) first.1 first.2
  obtain ⟨hcounted₃, hlaunch₃, hwait₃, hhandles₃⟩ := place_rounds handler context capabilities
    options window hsaved second.1 second.2
  have hrounds : rounds = roundsOver handler context [launch] state s
      ++ roundsOver handler context [wait] first.1 first.2
      ++ roundsOver handler context (placeSteps capabilities options window) second.1 second.2 := by
    change roundsOver _ _ (launchSteps _ _ ++ placeSteps _ _ _) _ _ = _
    rw [hsteps, roundsOver_append, roundsOver_append, Program.outcome_append]
  have houtcome : Program.outcome handler (executeStep context) steps state s
      = Program.outcome handler (executeStep context) (placeSteps capabilities options window)
        second.1 second.2 := by
    change Program.outcome _ _ (launchSteps _ _ ++ placeSteps _ _ _) _ _ = _
    rw [hsteps, Program.outcome_append, Program.outcome_append]
  have hlaunchIn : launchFailedIn rounds
      = launchFailedIn (roundsOver handler context [launch] state s) := by
    rw [hrounds, launchFailedIn_append, launchFailedIn_append, hlaunch₂, hlaunch₃]
    simp
  have hwaitIn : waitFailedIn rounds
      = waitFailedIn (roundsOver handler context [wait] first.1 first.2) := by
    rw [hrounds, waitFailedIn_append, waitFailedIn_append, hwait₁, hwait₃]
    simp
  rw [hwaitTarget, ← hwaitIn] at hhandles₂
  rw [hlaunchTarget] at hhandles₁
  have hbound : second.1.handles window.id = none
      ↔ waitFailedIn rounds = true ∧ state.handles window.id = none := by
    rw [← hhandles₁]
    exact hhandles₂
  refine ⟨?_, ?_⟩
  · rw [hrounds, countedOver_append, countedOver_append, hcounted₁, hcounted₂, hcounted₃,
      ← hrounds, hlaunchIn, hwaitIn]
    congr 2
    rw [hwaitIn] at hbound
    cases hw : waitFailedIn (roundsOver handler context [wait] first.1 first.2) <;>
      cases hs : second.1.handles window.id <;> cases hb : state.handles window.id <;>
      simp_all
  · rw [houtcome, hhandles₃]
    exact hbound

/-- The rounds of a window that is not launched: it is counted at most for its placement. -/
theorem unlaunched_rounds (hsaved : context.snapshot.findWindow window.id = some saved)
    {matched : Bool} (hidle : (!matched && options.launchMissingApps
      && capabilities.launchProcesses) = false) (state : Execution) (s : σ) :
    let rounds := roundsOver handler context (windowSteps capabilities options window matched) state s
    countedOver rounds ≤ 1 ∧ launchFailedIn rounds = false ∧ waitFailedIn rounds = false := by
  intro rounds
  have hplaced : ∀ state s,
      let rounds := roundsOver handler context (placeSteps capabilities options window) state s
      countedOver rounds ≤ 1 ∧ launchFailedIn rounds = false ∧ waitFailedIn rounds = false := by
    intro state s rounds
    obtain ⟨hcounted, hlaunch, hwait, -⟩ := place_rounds handler context capabilities options window
      hsaved state s
    exact ⟨hcounted ▸ Bool.toNat_le _, hlaunch, hwait⟩
  by_cases hmatched : matched = true
  · simpa [rounds, windowSteps, hmatched] using hplaced state s
  · by_cases hlaunch : options.launchMissingApps = true
    · have hcannot : capabilities.launchProcesses = false := by simpa [hmatched, hlaunch] using hidle
      have hskipped : ∀ current ∈ launchSteps capabilities window, current.skipped = true
          ∨ launches current.kind = false ∧ current.kind ≠ .moveWindow := by
        intro current hcurrent
        simp only [launchSteps, List.mem_cons, List.not_mem_nil, or_false] at hcurrent
        rcases hcurrent with rfl | rfl <;> simp [step, hcannot]
      obtain ⟨hcounted₁, hlaunch₁, hwait₁⟩ := quiet_rounds handler context hskipped state s
      obtain ⟨hcounted₂, hlaunch₂, hwait₂⟩ := hplaced
        (Program.outcome handler (executeStep context) (launchSteps capabilities window) state s).1
        (Program.outcome handler (executeStep context) (launchSteps capabilities window) state s).2
      have hrounds := roundsOver_append handler context (launchSteps capabilities window)
        (placeSteps capabilities options window) state s
      have hsteps : windowSteps capabilities options window matched
          = launchSteps capabilities window ++ placeSteps capabilities options window := by
        rw [windowSteps, if_neg hmatched, if_pos hlaunch]
      rw [← hsteps] at hrounds
      change rounds = _ at hrounds
      rw [hrounds, countedOver_append, launchFailedIn_append, waitFailedIn_append, hcounted₁,
        hlaunch₁, hwait₁, Nat.zero_add, Bool.false_or, Bool.false_or]
      exact ⟨hcounted₂, hlaunch₂, hwait₂⟩
    · have hskipped : ∀ current ∈ windowSteps capabilities options window matched,
          current.skipped = true ∨ launches current.kind = false ∧ current.kind ≠ .moveWindow := by
        intro current hcurrent
        rw [windowSteps, if_neg hmatched, if_neg hlaunch] at hcurrent
        obtain rfl := List.mem_singleton.mp hcurrent
        exact .inl rfl
      obtain ⟨hcounted, hlaunch, hwait⟩ := quiet_rounds handler context hskipped state s
      exact ⟨hcounted ▸ Nat.zero_le _, hlaunch, hwait⟩

/-- The report behind some steps has at most what the rounds over them count. -/
theorem report_le_countedOver (steps : List RestoreStep) (state : Execution) (s : σ) :
    let after := (Program.outcome handler (executeStep context) steps state s).1
    after.report.windowsRestored.toNat + after.report.windowsFailed.toNat
      ≤ state.report.windowsRestored.toNat + state.report.windowsFailed.toNat
        + countedOver (roundsOver handler context steps state s) := by
  induction steps generalizing state s with
  | nil => simp [Program.outcome, roundsOver, Program.journal, countedOver]
  | cons current steps ih =>
      have hsub : ∀ a b : UInt32, b.toNat ≤ a.toNat + (b - a).toNat := by
        intro a b
        calc b.toNat = (a + (b - a)).toNat := by rw [UInt32.add_comm, UInt32.sub_add_cancel]
          _ ≤ a.toNat + (b - a).toNat := by
              rw [UInt32.toNat_add]
              exact Nat.mod_le _ _
      have hrest := ih ((executeStep context state current).trace handler s).2.1
        ((executeStep context state current).trace handler s).2.2
      have hrestored := hsub state.report.windowsRestored
        ((executeStep context state current).trace handler s).2.1.report.windowsRestored
      have hfailed := hsub state.report.windowsFailed
        ((executeStep context state current).trace handler s).2.1.report.windowsFailed
      simp only [Program.outcome, roundsOver, Program.journal, countedOver, List.map_cons,
        List.sum_cons, countedIn, restoredIn, failedIn, Program.entry] at hrest ⊢
      omega

end Window

/-! ### Accounting of a plan -/

section Plan

variable {σ : Type} (handler : (op : Hal.Op) → σ → Hal.Answer op × σ) (s : σ)
  (platform : Platform) (saved : Snapshot) (options : RestoreOptions) (bridge : Bool)
  (planned : Result (List WindowInfo)) (front : List WindowInfo) (window : WindowInfo)

/-- The steps of the plan for the windows of `front`. -/
abbrev stepsBefore : List RestoreStep :=
  (planWindows platform.capabilities options front (planned.toOption.getD [])).steps

/-- The steps of the plan for a window that stands behind `front`. -/
def stepsOf : List RestoreStep :=
  windowSteps platform.capabilities options window
    (bestLiveMatch window (planned.toOption.getD [])
      (planWindows platform.capabilities options front (planned.toOption.getD [])).used).isSome

/-- The executor before the steps of a window that stands behind `front`. -/
def beforeWindow : Execution × σ :=
  Program.outcome handler (executeStep (executorContext handler s saved options bridge))
    (stepsBefore platform options planned front) (initialExecution saved (shownWindows handler s))
    (beforeSteps handler s)

/-- The executor's rounds over the steps of a window. -/
def windowRounds : List Round :=
  roundsOver handler (executorContext handler s saved options bridge)
    (stepsOf platform options planned front window)
    (beforeWindow handler s platform saved options bridge planned front).1
    (beforeWindow handler s platform saved options bridge planned front).2

/-- What is filed for a window behind its steps. -/
def handleBehind : Option UInt64 :=
  (Program.outcome handler (executeStep (executorContext handler s saved options bridge))
    (stepsOf platform options planned front window)
    (beforeWindow handler s platform saved options bridge planned front).1
    (beforeWindow handler s platform saved options bridge planned front).2).1.handles window.id

/-- A window is counted at most once, and once as failed if its launch failed and there is no live
window for it. -/
def Accounted : Prop :=
  let rounds := windowRounds handler s platform saved options bridge planned front window
  countedOver rounds ≤ 1
    ∧ (launchFailedIn rounds = true →
      handleBehind handler s platform saved options bridge planned front window = none →
      (rounds.map failedIn).sum = 1)

/-- The launch of a window and the wait for it do not both fail, and if the platform can place
windows, then the launch does not fail at all, and the wait only if nothing is filed for the
window. -/
def SettlesOnce : Prop :=
  let rounds := windowRounds handler s platform saved options bridge planned front window
  ¬ (launchFailedIn rounds = true ∧ waitFailedIn rounds = true)
    ∧ (platform.capabilities.setWindowGeometry = true → launchFailedIn rounds = false
      ∧ (waitFailedIn rounds = true →
        (beforeWindow handler s platform saved options bridge planned front).1.handles window.id
          = none))

variable {handler s platform saved options bridge planned front window}

theorem accounted_iff_settlesOnce (hmem : window ∈ saved.windows) :
    Accounted handler s platform saved options bridge planned front window
      ↔ SettlesOnce handler s platform saved options bridge planned front window := by
  obtain ⟨first, hfirst⟩ := Option.ne_none_iff_exists'.mp (findWindow_ne_none hmem)
  have hsaved : (executorContext handler s saved options bridge).snapshot.findWindow window.id
      = some first := hfirst
  set matched := (bestLiveMatch window (planned.toOption.getD [])
    (planWindows platform.capabilities options front (planned.toOption.getD [])).used).isSome
    with hmatched
  unfold Accounted SettlesOnce
  extract_lets rounds
  by_cases hlaunched : (!matched && options.launchMissingApps
      && platform.capabilities.launchProcesses) = true
  · simp only [Bool.and_eq_true, Bool.not_eq_true'] at hlaunched
    obtain ⟨⟨hunmatched, hlaunch⟩, hcan⟩ := hlaunched
    have hsteps : stepsOf platform options planned front window
        = launchSteps platform.capabilities window
          ++ placeSteps platform.capabilities options window := by
      rw [stepsOf, ← hmatched, windowSteps, hunmatched, if_neg (by simp), if_pos hlaunch]
    obtain ⟨hcounted, hbehind⟩ := launched_rounds handler
      (executorContext handler s saved options bridge) platform.capabilities options window hsaved
      hcan (beforeWindow handler s platform saved options bridge planned front).1
      (beforeWindow handler s platform saved options bridge planned front).2
    rw [← hsteps] at hcounted hbehind
    set filed := (beforeWindow handler s platform saved options bridge planned front).1.handles
      window.id
    change countedOver rounds = (launchFailedIn rounds).toNat + (waitFailedIn rounds).toNat
      + (platform.capabilities.setWindowGeometry
        && (!(waitFailedIn rounds) || filed.isSome)).toNat at hcounted
    change handleBehind handler s platform saved options bridge planned front window = none
      ↔ waitFailedIn rounds = true ∧ filed = none at hbehind
    rw [hcounted, hbehind]
    cases launchFailedIn rounds <;> cases waitFailedIn rounds <;>
      cases platform.capabilities.setWindowGeometry <;> cases filed <;> simp
  · obtain ⟨hcounted, hlaunch, hwait⟩ := unlaunched_rounds handler
      (executorContext handler s saved options bridge) platform.capabilities options window hsaved
      (by simpa using hlaunched)
      (beforeWindow handler s platform saved options bridge planned front).1
      (beforeWindow handler s platform saved options bridge planned front).2
    change countedOver rounds ≤ 1 at hcounted
    change launchFailedIn rounds = false at hlaunch
    change waitFailedIn rounds = false at hwait
    simp [hcounted, hlaunch, hwait]

variable (handler s platform saved options bridge planned) in
/-- Windows that are all counted at most once make up at most as many counts as are selected. -/
theorem countedOver_stepsBefore (front : List WindowInfo)
    (honce : ∀ before window after, front = before ++ window :: after →
      selectorMatches window options.selectors = true →
      countedOver (windowRounds handler s platform saved options bridge planned before window) ≤ 1) :
    countedOver (roundsOver handler (executorContext handler s saved options bridge)
        (stepsBefore platform options planned front)
        (initialExecution saved (shownWindows handler s)) (beforeSteps handler s))
      ≤ front.countP (selectorMatches · options.selectors) := by
  induction front using List.reverseRecOn with
  | nil => exact Nat.zero_le _
  | append_singleton front window ih =>
      have hfront := ih fun before w after hsplit hselected =>
        honce before w (after ++ [window]) (by simp [hsplit]) hselected
      rw [List.countP_append, List.countP_singleton]
      by_cases hselected : selectorMatches window options.selectors = true
      · have hsteps : stepsBefore platform options planned (front ++ [window])
            = stepsBefore platform options planned front
              ++ stepsOf platform options planned front window := by
          rw [stepsBefore, planWindows_append, List.foldl_cons, List.foldl_nil, planWindow,
            if_pos hselected]
          rfl
        rw [hsteps, roundsOver_append, countedOver_append, if_pos hselected]
        exact Nat.add_le_add hfront (honce front window [] rfl hselected)
      · have hsteps : stepsBefore platform options planned (front ++ [window])
            = stepsBefore platform options planned front := by
          rw [stepsBefore, planWindows_append, List.foldl_cons, List.foldl_nil, planWindow,
            if_neg hselected]
        rw [hsteps, if_neg hselected, Nat.add_zero]
        exact hfront

end Plan

/-- The counts of a run never exceed the number of selected windows. -/
def WithinSelected {σ : Type} (handler : (op : Hal.Op) → σ → Hal.Answer op × σ) (s : σ)
    (platform : Platform) (saved : Snapshot) (options : RestoreOptions) (bridge : Bool)
    (displays : Result (List MonitorInfo)) (planned : Result (List WindowInfo)) : Prop :=
  let last := (planOutcome handler s saved (planFor platform saved options displays planned) options
    bridge).1
  last.report.windowsRestored.toNat + last.report.windowsFailed.toNat
    ≤ saved.windows.countP (selectorMatches · options.selectors)

theorem withinSelected_of_countedOver {σ : Type}
    {handler : (op : Hal.Op) → σ → Hal.Answer op × σ} {s : σ} {platform : Platform}
    {saved : Snapshot} {options : RestoreOptions} {bridge : Bool}
    {displays : Result (List MonitorInfo)} {planned : Result (List WindowInfo)}
    (honce : ∀ front window back, saved.windows = front ++ window :: back →
      selectorMatches window options.selectors = true →
      countedOver (windowRounds handler s platform saved options bridge planned front window) ≤ 1) :
    WithinSelected handler s platform saved options bridge displays planned := by
  set context := executorContext handler s saved options bridge
  set initial := initialExecution saved (shownWindows handler s)
  set first := Program.outcome handler (executeStep context)
    (stepsBefore platform options planned saved.windows) initial (beforeSteps handler s)
  have hwindows := countedOver_stepsBefore handler s platform saved options bridge planned
    saved.windows honce
  have huncounted : ∀ current ∈ closingSteps platform.capabilities options saved,
      current.skipped = true ∨ launches current.kind = false ∧ current.kind ≠ .moveWindow :=
    fun current hcurrent => .inr (closingSteps_closes hcurrent).2
  have hclosing := (quiet_rounds handler context huncounted first.1 first.2).1
  have hreport := report_le_countedOver handler context
    (planFor platform saved options displays planned).steps initial (beforeSteps handler s)
  have hrounds : countedOver (roundsOver handler context
      (planFor platform saved options displays planned).steps initial (beforeSteps handler s))
      = countedOver (roundsOver handler context
        (stepsBefore platform options planned saved.windows) initial (beforeSteps handler s)) := by
    change countedOver (roundsOver handler context (stepsBefore platform options planned saved.windows
      ++ closingSteps platform.capabilities options saved) _ _) = _
    rw [roundsOver_append, countedOver_append, hclosing, Nat.add_zero]
  have hzero : initial.report.windowsRestored.toNat + initial.report.windowsFailed.toNat = 0 := rfl
  calc (planOutcome handler s saved (planFor platform saved options displays planned) options
          bridge).1.report.windowsRestored.toNat
        + (planOutcome handler s saved (planFor platform saved options displays planned) options
          bridge).1.report.windowsFailed.toNat
      ≤ countedOver (roundsOver handler context
          (planFor platform saved options displays planned).steps initial
          (beforeSteps handler s)) := by
        rw [← Nat.zero_add (countedOver _), ← hzero]
        exact hreport
    _ ≤ saved.windows.countP (selectorMatches · options.selectors) := hrounds ▸ hwindows

/-- **Report accounting.** In a run, every selected window is counted at most once, and once as
failed if it could not be launched and did not appear, and the counts stay within the number of
selected windows, if and only if every selected window settles once. -/
theorem accounted_iff {σ : Type} (handler : (op : Hal.Op) → σ → Hal.Answer op × σ) (s : σ)
    (platform : Platform) (saved : Snapshot) (options : RestoreOptions) (bridge : Bool)
    (displays : Result (List MonitorInfo)) (planned : Result (List WindowInfo)) :
    (∀ front window back, saved.windows = front ++ window :: back →
        selectorMatches window options.selectors = true →
        Accounted handler s platform saved options bridge planned front window)
      ∧ WithinSelected handler s platform saved options bridge displays planned
      ↔ ∀ front window back, saved.windows = front ++ window :: back →
        selectorMatches window options.selectors = true →
        SettlesOnce handler s platform saved options bridge planned front window := by
  have hwindow : ∀ {front window back}, saved.windows = front ++ window :: back →
      (Accounted handler s platform saved options bridge planned front window
        ↔ SettlesOnce handler s platform saved options bridge planned front window) :=
    fun hsplit => accounted_iff_settlesOnce (by simp [hsplit])
  constructor
  · rintro ⟨haccounted, -⟩ front window back hsplit hselected
    exact (hwindow hsplit).mp (haccounted front window back hsplit hselected)
  · intro hsettles
    have haccounted : ∀ front window back, saved.windows = front ++ window :: back →
        selectorMatches window options.selectors = true →
        Accounted handler s platform saved options bridge planned front window :=
      fun front window back hsplit hselected =>
        (hwindow hsplit).mpr (hsettles front window back hsplit hselected)
    exact ⟨haccounted, withinSelected_of_countedOver fun front window back hsplit hselected =>
      (haccounted front window back hsplit hselected).1⟩

/-- A platform that launches and shows nothing. -/
def unwilling : (op : Hal.Op) → Unit → Hal.Answer op × Unit
  | .launch _, s => ((.error {} : Result UInt64), s)
  | op, s => obliging (.ok []) op s

set_option maxRecDepth 10000 in
/-- An editor whose launch fails is counted as failed twice. -/
theorem not_withinSelected_editor :
    ¬ WithinSelected unwilling () launchingPlatform { windows := [editorWindow] } {} false
      (.error {}) (.ok []) := by
  unfold WithinSelected
  decide

end ContextSnap.Restore
