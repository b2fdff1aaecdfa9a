import ContextSnap.Hal.NullPlatform
import Mathlib.Tactic

/-!
# The desktop of the null platform

What any sequence of calls leaves as it is: which windows there are, that each has a handle of its
own, and that the focus and the active workspace are unique.
-/

namespace ContextSnap.Hal.NullPlatformState

variable {s : NullPlatformState}

/-! ### Changing one window -/

section Changed

variable {windows : List WindowInfo} {handle : UInt64} {change : WindowInfo → WindowInfo}

theorem changed_cons (window : WindowInfo) :
    changed (window :: windows) handle change
      = if window.nativeHandle = handle then change window :: windows
        else window :: changed windows handle change := by
  unfold changed
  rw [List.lookmap_cons]
  by_cases h : window.nativeHandle = handle
  · rw [if_pos h, if_pos h]
  · rw [if_neg h, if_neg h]

/-- What the change leaves alone is the same for all windows. -/
theorem map_changed {α : Type} (read : WindowInfo → α)
    (h : ∀ window, read (change window) = read window) :
    (changed windows handle change).map read = windows.map read := by
  apply List.lookmap_map_eq
  intro window other hother
  split_ifs at hother
  · rw [← Option.some.inj hother, h]
  · cases hother

theorem mem_changed {window : WindowInfo} (h : window ∈ changed windows handle change) :
    window ∈ windows ∨ ∃ old ∈ windows, old.nativeHandle = handle ∧ window = change old := by
  induction windows with
  | nil => exact absurd h List.not_mem_nil
  | cons first windows ih =>
      rw [changed_cons] at h
      split_ifs at h with hfirst
      · rcases List.mem_cons.mp h with rfl | h
        · exact .inr ⟨first, List.mem_cons_self .., hfirst, rfl⟩
        · exact .inl (List.mem_cons_of_mem _ h)
      · rcases List.mem_cons.mp h with rfl | h
        · exact .inl (List.mem_cons_self ..)
        · rcases ih h with h | ⟨old, hold, hrest⟩
          · exact .inl (List.mem_cons_of_mem _ h)
          · exact .inr ⟨old, List.mem_cons_of_mem _ hold, hrest⟩

theorem changed_id (h : ∀ window, change window = window) :
    changed windows handle change = windows := by
  apply List.lookmap_id'
  intro window other hother
  split_ifs at hother
  · rw [← Option.some.inj hother, h]
  · cases hother

theorem changed_changed {next : WindowInfo → WindowInfo}
    (h : ∀ window, (change window).nativeHandle = window.nativeHandle) :
    changed (changed windows handle change) handle next
      = changed windows handle (next ∘ change) := by
  induction windows with
  | nil => rfl
  | cons first windows ih =>
      rw [changed_cons, changed_cons]
      by_cases hfirst : first.nativeHandle = handle
      · rw [if_pos hfirst, if_pos hfirst, changed_cons, if_pos ((h first).trans hfirst)]
        rfl
      · rw [if_neg hfirst, if_neg hfirst, changed_cons, if_neg hfirst, ih]

/-- Where handles are unique, the window that is changed is the only one with its handle. -/
theorem changed_eq_map (h : (windows.map (·.nativeHandle)).Nodup) :
    changed windows handle change
      = windows.map fun window => if window.nativeHandle = handle then change window else window := by
  induction windows with
  | nil => rfl
  | cons first windows ih =>
      rw [List.map_cons, List.nodup_cons] at h
      rw [changed_cons, List.map_cons]
      by_cases hfirst : first.nativeHandle = handle
      · rw [if_pos hfirst, if_pos hfirst]
        have hrest : ∀ window ∈ windows, window.nativeHandle ≠ handle :=
          fun window hmem heq => h.1 (List.mem_map.mpr ⟨window, hmem, heq.trans hfirst.symm⟩)
        congr 1
        calc
          windows = windows.map id := (List.map_id windows).symm
          _ = windows.map fun window =>
              if window.nativeHandle = handle then change window else window :=
            List.map_congr_left fun window hmem => (if_neg (hrest window hmem)).symm
      · rw [if_neg hfirst, if_neg hfirst, ih h.2]

end Changed

section Changing

variable {handle : UInt64} {change next : WindowInfo → WindowInfo}

/-- The desktop after a change of one window. -/
def changing (s : NullPlatformState) (handle : UInt64) (change : WindowInfo → WindowInfo) :
    NullPlatformState :=
  { s with windows := changed s.windows handle change }

theorem changing_id (h : ∀ window, change window = window) : s.changing handle change = s := by
  rw [changing, changed_id h]

theorem changing_changing
    (h : ∀ window, (change window).nativeHandle = window.nativeHandle) :
    (s.changing handle change).changing handle next = s.changing handle (next ∘ change) := by
  rw [changing, changing, changed_changed h]
  rfl

theorem handles_changing {other : UInt64}
    (h : ∀ window, (change window).nativeHandle = window.nativeHandle) :
    (s.changing other change).windows.map (·.nativeHandle) = s.windows.map (·.nativeHandle) :=
  map_changed _ h

/-- A call on a window that is there changes it. -/
theorem changeWindow_of_mem (hmutable : s.allowMutation = true)
    (hmem : handle ∈ s.windows.map (·.nativeHandle)) :
    s.changeWindow handle change = (.ok (), s.changing handle change) := by
  unfold changeWindow
  rw [if_pos hmutable]
  split
  · rename_i hnone
    obtain ⟨window, hwindow, hhandle⟩ := List.mem_map.mp hmem
    exact absurd hhandle (by simpa using List.find?_eq_none.mp hnone window hwindow)
  · rfl

theorem focus_of_mem (hmutable : s.allowMutation = true)
    (hmem : handle ∈ s.windows.map (·.nativeHandle)) :
    ∃ target ∈ s.windows, target.nativeHandle = handle ∧ s.focus handle = (.ok (), { s with
      windows := changed (s.windows.map (withFocus false)) handle (withFocus true)
      cursor := { s.cursor with focusedWindowId := some target.id } }) := by
  unfold focus
  rw [if_pos hmutable]
  cases hfind : s.find handle with
  | none =>
      obtain ⟨window, hwindow, hhandle⟩ := List.mem_map.mp hmem
      exact absurd hhandle (by simpa using List.find?_eq_none.mp hfind window hwindow)
  | some target =>
      exact ⟨target, List.mem_of_find?_eq_some hfind, by simpa using List.find?_some hfind, rfl⟩

end Changing

/-- What no call changes about a window. -/
def identity (window : WindowInfo) : WindowInfo :=
  { window with
    frame := {}, restoredFrame := {}, state := .normal, workspaceId := none, zOrder := 0
    focused := false, alwaysOnTop := false }

theorem nativeHandle_of_identity {a b : WindowInfo} (h : identity a = identity b) :
    a.nativeHandle = b.nativeHandle := congrArg (fun window => window.nativeHandle) h

theorem id_of_identity {a b : WindowInfo} (h : identity a = identity b) : a.id = b.id :=
  congrArg (fun window => window.id) h

/-! ### One call -/

/-- What a call may do. -/
inductive Step (s : NullPlatformState) : NullPlatformState → Prop where
  | refused : Step s s
  | changed (handle : UInt64) (change : WindowInfo → WindowInfo)
      (hidentity : ∀ window, identity (change window) = identity window)
      (hfocused : ∀ window, (change window).focused = window.focused) :
      Step s { s with windows := changed s.windows handle change }
  | focused (handle : UInt64) (target : WindowInfo) (hfind : s.find handle = some target) :
      Step s { s with
        windows := NullPlatformState.changed (s.windows.map (withFocus false)) handle (withFocus true)
        cursor := { s.cursor with focusedWindowId := some target.id } }
  | closed (handle : UInt64) :
      Step s { s with windows := s.windows.filter fun window => window.nativeHandle ≠ handle }
  | warped (x y : Int32) : Step s { s with cursor := { s.cursor with x, y } }
  | launched : Step s { s with nextPid := s.nextPid + 1 }
  | activated (workspaceId : Bytes) :
      Step s { s with workspaces := s.workspaces.map fun workspace =>
        { workspace with active := workspace.id = workspaceId } }

theorem changeWindow_step {handle : UInt64} {change : WindowInfo → WindowInfo}
    (hidentity : ∀ window, identity (change window) = identity window)
    (hfocused : ∀ window, (change window).focused = window.focused) :
    Step s (s.changeWindow handle change).2 := by
  unfold changeWindow
  split
  · split
    · exact .refused
    · exact .changed handle change hidentity hfocused
  · exact .refused

theorem perform_step (call : Mutation) : Step s (s.perform call).2 := by
  cases call with
  | setFrame | setState | raise | setAlwaysOnTop | moveWindow =>
      exact changeWindow_step (fun _ => rfl) fun _ => rfl
  | focus handle =>
      change Step s (s.focus handle).2
      unfold focus
      split
      · split
        · exact .refused
        · rename_i target hfind
          exact .focused handle target hfind
      · exact .refused
  | close handle =>
      change Step s (s.close handle).2
      unfold close
      split_ifs
      · exact .closed handle
      · exact .refused
      · exact .refused
  | warp x y =>
      change Step s (s.warp x y).2
      unfold warp
      split
      · exact .warped x y
      · exact .refused
  | launch process =>
      change Step s (s.launch process).2
      unfold launch
      split
      · exact .launched
      · exact .refused
  | activate workspaceId =>
      change Step s (s.activate workspaceId).2
      unfold activate
      split
      · exact .activated workspaceId
      · exact .refused

/-- A launch brings up no window. -/
theorem waitForWindow_of_free {pid : UInt64} (hpid : pid ≠ 0)
    (hfree : ∀ window ∈ s.windows, window.process.pid ≠ pid) (titleHint : Bytes) :
    ∃ e, s.waitForWindow pid titleHint = .error e := by
  unfold waitForWindow
  split
  · rename_i window hfind
    have hfound := List.find?_some hfind
    rw [Bool.and_eq_true, Bool.or_eq_true, decide_eq_true_eq, decide_eq_true_eq] at hfound
    exact absurd hfound.1 (not_or.mpr ⟨hpid, hfree window (List.mem_of_find?_eq_some hfind)⟩)
  · exact ⟨_, rfl⟩

/-- A platform that is read-only refuses everything. -/
theorem perform_of_readOnly (h : s.allowMutation = false) (call : Mutation) :
    (s.perform call).2 = s := by
  cases call <;>
    simp [perform, setFrame, setState, raise, setAlwaysOnTop, moveWindow, changeWindow, focus, close,
      warp, launch, activate, h]

/-! ### Runs -/

/-- A desktop whose windows have handles of their own, at most one of which has the focus, the one
that the cursor knows, and of whose workspaces at most one is active. -/
structure WellKept (s : NullPlatformState) : Prop where
  handles : (s.windows.map (·.nativeHandle)).Nodup
  known : ∀ window ∈ s.windows, window.focused = true → s.cursor.focusedWindowId = some window.id
  single : ∀ a ∈ s.windows, ∀ b ∈ s.windows, a.focused = true → b.focused = true →
    a.nativeHandle = b.nativeHandle
  active : ∀ a ∈ s.workspaces, ∀ b ∈ s.workspaces, a.active = true → b.active = true → a.id = b.id

theorem map_identity_focused (windows : List WindowInfo) (handle : UInt64) :
    (changed (windows.map (withFocus false)) handle (withFocus true)).map identity
      = windows.map identity := by
  have hfocus : ∀ window, identity (withFocus true window) = identity window := fun _ => rfl
  rw [map_changed identity hfocus, List.map_map]
  rfl

theorem focused_of_mem_changed {windows : List WindowInfo} {handle : UInt64} {window : WindowInfo}
    (h : window ∈ changed (windows.map (withFocus false)) handle (withFocus true))
    (hfocused : window.focused = true) :
    ∃ old ∈ windows, old.nativeHandle = handle ∧ identity window = identity old := by
  rcases mem_changed h with h | ⟨unfocused, hmem, hhandle, rfl⟩
  · obtain ⟨old, -, rfl⟩ := List.mem_map.mp h
    cases hfocused
  · obtain ⟨old, hold, rfl⟩ := List.mem_map.mp hmem
    exact ⟨old, hold, hhandle, rfl⟩

theorem map_handle_eq {windows others : List WindowInfo}
    (h : windows.map identity = others.map identity) :
    windows.map (·.nativeHandle) = others.map (·.nativeHandle) := by
  have := congrArg (List.map fun window : WindowInfo => window.nativeHandle) h
  simpa only [List.map_map, Function.comp_def, identity] using this

theorem find_eq_some_iff {handle : UInt64} {window : WindowInfo}
    (h : (s.windows.map (·.nativeHandle)).Nodup) :
    s.find handle = some window ↔ window ∈ s.windows ∧ window.nativeHandle = handle := by
  constructor
  · intro hfind
    exact ⟨List.mem_of_find?_eq_some hfind, by simpa using List.find?_some hfind⟩
  · rintro ⟨hmem, hhandle⟩
    obtain ⟨found, hfound⟩ : ∃ found, s.find handle = some found := by
      apply Option.ne_none_iff_exists'.mp
      intro hnone
      exact absurd hhandle (by simpa using List.find?_eq_none.mp hnone window hmem)
    have hsame : found.nativeHandle = window.nativeHandle :=
      (by simpa using List.find?_some hfound : found.nativeHandle = handle).trans hhandle.symm
    rw [hfound, List.inj_on_of_nodup_map h (List.mem_of_find?_eq_some hfound) hmem hsame]

/-- **One call.** -/
theorem WellKept.step (h : WellKept s) {s' : NullPlatformState} (hstep : Step s s') :
    WellKept s' := by
  cases hstep with
  | refused => exact h
  | changed handle change hidentity hfocused =>
      have hfrom : ∀ window ∈ changed s.windows handle change, ∃ old ∈ s.windows,
          identity window = identity old ∧ window.focused = old.focused := by
        intro window hmem
        rcases mem_changed hmem with hmem | ⟨old, hold, -, rfl⟩
        · exact ⟨window, hmem, rfl, rfl⟩
        · exact ⟨old, hold, hidentity old, hfocused old⟩
      refine ⟨?_, ?_, ?_, h.active⟩
      · rw [map_handle_eq (map_changed identity hidentity)]
        exact h.handles
      · intro window hmem hwindow
        obtain ⟨old, hold, hsame, hfocus⟩ := hfrom window hmem
        rw [id_of_identity hsame]
        exact h.known old hold (hfocus ▸ hwindow)
      · intro a ha b hb hafocused hbfocused
        obtain ⟨a', ha', hasame, hafocus⟩ := hfrom a ha
        obtain ⟨b', hb', hbsame, hbfocus⟩ := hfrom b hb
        rw [nativeHandle_of_identity hasame, nativeHandle_of_identity hbsame]
        exact h.single a' ha' b' hb' (hafocus ▸ hafocused) (hbfocus ▸ hbfocused)
  | focused handle target hfind =>
      refine ⟨?_, ?_, ?_, h.active⟩
      · rw [map_handle_eq (map_identity_focused ..)]
        exact h.handles
      · intro window hmem hwindow
        obtain ⟨old, hold, hhandle, hsame⟩ := focused_of_mem_changed hmem hwindow
        have htarget := (find_eq_some_iff h.handles).mpr ⟨hold, hhandle⟩
        rw [id_of_identity hsame, ← Option.some.inj (hfind.symm.trans htarget)]
      · intro a ha b hb hafocused hbfocused
        obtain ⟨a', -, hahandle, hasame⟩ := focused_of_mem_changed ha hafocused
        obtain ⟨b', -, hbhandle, hbsame⟩ := focused_of_mem_changed hb hbfocused
        rw [nativeHandle_of_identity hasame, nativeHandle_of_identity hbsame, hahandle, hbhandle]
  | closed handle =>
      have hsub : ∀ window ∈ s.windows.filter fun window => window.nativeHandle ≠ handle,
          window ∈ s.windows := fun window => List.mem_of_mem_filter
      refine ⟨h.handles.sublist (List.filter_sublist.map _), ?_, ?_, h.active⟩
      · exact fun window hmem => h.known window (hsub window hmem)
      · exact fun a ha b hb => h.single a (hsub a ha) b (hsub b hb)
  | warped x y => exact ⟨h.handles, h.known, h.single, h.active⟩
  | launched => exact ⟨h.handles, h.known, h.single, h.active⟩
  | activated workspaceId =>
      refine ⟨h.handles, h.known, h.single, ?_⟩
      have hid : ∀ workspace ∈ s.workspaces.map fun workspace : Workspace =>
          { workspace with active := workspace.id = workspaceId },
          workspace.active = true → workspace.id = workspaceId := by
        intro workspace hmem hactive
        obtain ⟨old, -, rfl⟩ := List.mem_map.mp hmem
        simpa using hactive
      exact fun a ha b hb hactive hactive' => (hid a ha hactive).trans (hid b hb hactive').symm

/-- Windows only go, and nothing but their place, their state and the focus ever changes. -/
structure Follows (s s' : NullPlatformState) : Prop where
  windows : (s'.windows.map identity).Sublist (s.windows.map identity)
  monitors : s'.monitors = s.monitors
  workspaces : s'.workspaces.map (fun workspace => (workspace.id, workspace.name, workspace.index))
    = s.workspaces.map fun workspace => (workspace.id, workspace.name, workspace.index)
  allowMutation : s'.allowMutation = s.allowMutation

theorem Follows.refl (s : NullPlatformState) : Follows s s := ⟨List.Sublist.refl _, rfl, rfl, rfl⟩

theorem Follows.trans {s₁ s₂ s₃ : NullPlatformState} (h : Follows s₁ s₂) (h' : Follows s₂ s₃) :
    Follows s₁ s₃ :=
  ⟨h'.windows.trans h.windows, h'.monitors.trans h.monitors, h'.workspaces.trans h.workspaces,
    h'.allowMutation.trans h.allowMutation⟩

theorem Step.follows {s' : NullPlatformState} (h : Step s s') : Follows s s' := by
  cases h with
  | refused => exact .refl s
  | changed handle change hidentity hfocused =>
      refine ⟨?_, rfl, rfl, rfl⟩
      rw [map_changed identity hidentity]
  | focused handle target hfind =>
      refine ⟨?_, rfl, rfl, rfl⟩
      rw [map_identity_focused]
  | closed handle => exact ⟨List.filter_sublist.map _, rfl, rfl, rfl⟩
  | warped x y => exact ⟨List.Sublist.refl _, rfl, rfl, rfl⟩
  | launched => exact ⟨List.Sublist.refl _, rfl, rfl, rfl⟩
  | activated workspaceId =>
      refine ⟨List.Sublist.refl _, rfl, ?_, rfl⟩
      rw [List.map_map]
      rfl

theorem follows_run (calls : List Mutation) : Follows s (s.run calls) := by
  induction calls generalizing s with
  | nil => exact .refl s
  | cons call calls ih => exact (perform_step call).follows.trans ih

theorem Step.toNat_nextPid {s' : NullPlatformState} (h : Step s s')
    (hroom : s.nextPid.toNat + 1 < 2 ^ 64) :
    s.nextPid.toNat ≤ s'.nextPid.toNat ∧ s'.nextPid.toNat ≤ s.nextPid.toNat + 1 := by
  cases h with
  | launched =>
      have hnext : (s.nextPid + 1).toNat = s.nextPid.toNat + 1 := by
        rw [UInt64.toNat_add, UInt64.toNat_one, Nat.mod_eq_of_lt hroom]
      exact ⟨hnext ▸ Nat.le_succ _, hnext.le⟩
  | refused | changed | focused | closed | warped | activated => exact ⟨le_rfl, Nat.le_succ _⟩

/-- Only launches count the pids up. -/
theorem toNat_nextPid_run {calls : List Mutation} (hroom : s.nextPid.toNat + calls.length < 2 ^ 64) :
    s.nextPid.toNat ≤ (s.run calls).nextPid.toNat
      ∧ (s.run calls).nextPid.toNat ≤ s.nextPid.toNat + calls.length := by
  induction calls generalizing s with
  | nil => exact ⟨le_rfl, le_rfl⟩
  | cons call calls ih =>
      rw [List.length_cons] at hroom ⊢
      have hstep := (@perform_step s call).toNat_nextPid (by omega)
      obtain ⟨hlow, hhigh⟩ := @ih (s.perform call).2 (by omega)
      exact ⟨hstep.1.trans hlow, hhigh.trans (by omega)⟩

/-- **Every run.** A desktop stays well kept, whatever is asked in whatever order, and a window that
is there at the end was there from the start. -/
theorem run_wellKept (h : WellKept s) (calls : List Mutation) :
    WellKept (s.run calls) ∧ Follows s (s.run calls)
      ∧ (s.allowMutation = false → s.run calls = s) := by
  refine ⟨?_, follows_run calls, fun hreadOnly => ?_⟩
  · induction calls generalizing s with
    | nil => exact h
    | cons call calls ih => exact ih (h.step (perform_step call))
  · induction calls with
    | nil => rfl
    | cons call calls ih =>
        rw [run, List.foldl_cons, perform_of_readOnly hreadOnly]
        exact ih

theorem run_wellKept_sampleNullState :
    let s := sampleNullState (str "editor") (str "browser")
    let calls := [Mutation.focus 1002, .close 1001, .activate (str "ws-2"), .raise 7]
    WellKept (s.run calls) ∧ Follows s (s.run calls) ∧ (s.allowMutation = false → s.run calls = s) :=
  run_wellKept
    { handles := by decide
      known := by decide
      single := by decide
      active := by decide } _

end ContextSnap.Hal.NullPlatformState
