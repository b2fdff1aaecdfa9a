import ContextSnap.Browser.NativeMessaging
import ContextSnap.Proof.BrowserTabs
import ContextSnap.Proof.CaptureRuns
import ContextSnap.Proof.RestoreExecution

/-!
# Private tabs

Whether a tab is private is said twice, by the browser window and by the tab itself. A capture that
leaves private tabs out looks at the windows only, and a restore says nothing about privacy at all.
-/

namespace ContextSnap

open Browser (BrowserWindow TabCapture)

/-! ### Restores -/

namespace Restore

/-- The extension is told to open a private window if one of the tabs is private. -/
def KeepsPrivacy (lazyLoad : Bool) (window : BrowserWindow) : Prop :=
  (∃ tab ∈ window.tabs, tab.incognito = true) →
    window.incognito = true
      ∧ (Browser.windowEntry lazyLoad window).find (str "incognito") = some (.bool true)

/-- What is handed to the bridge keeps private tabs private. -/
def HandsPrivately (events : List Event) : Prop :=
  ∀ event ∈ events, ∀ windows lazyLoad, event.op = .restoreTabs windows lazyLoad →
    ∀ window ∈ windows, KeepsPrivacy lazyLoad window

/-- A step hands the saved window of its target to the bridge. -/
structure Hands (context : Context) (current : RestoreStep) (window : WindowInfo) : Prop where
  bridge : context.bridge = true
  active : current.skipped = false
  kind : current.kind = .restoreTabs
  saved : context.snapshot.findWindow current.targetId = some window

section Step

variable {context : Context} {current : RestoreStep}

theorem executeStep_hands (state : Execution) :
    (executeStep context state current).All fun op => ∀ windows lazyLoad,
      op = .restoreTabs windows lazyLoad →
        ∃ window, Hands context current window ∧ windows = [tabRequest window] := by
  have hcarries := executeStep_carries context state current
  by_cases hkind : current.kind = .restoreTabs
  · unfold executeStep at hcarries ⊢
    by_cases hskip : current.skipped = true
    · rw [if_pos hskip]
      trivial
    · rw [if_neg hskip]
      simp only [hkind]
      cases hsaved : context.snapshot.findWindow current.targetId with
      | none => trivial
      | some window =>
          by_cases hbridge : context.bridge = true
          · simp only [hbridge, if_true]
            apply all_ask_done
            · intro windows lazyLoad hop
              cases hop
              exact ⟨window, ⟨hbridge, by simpa using hskip, hkind, hsaved⟩, rfl⟩
            · rintro (e | restored) <;> exact ⟨_, rfl⟩
          · simp only [hbridge]
            trivial
  · apply hcarries.mono
    rintro op ⟨-, hstep⟩ windows lazyLoad rfl
    exact absurd (Option.some.inj hstep).symm hkind

theorem Hands.event {window : WindowInfo} (h : Hands context current window) {σ : Type}
    (handler : (op : Hal.Op) → σ → Hal.Answer op × σ) (state : Execution) (s : σ) :
    ∃ event ∈ ((executeStep context state current).trace handler s).1,
      event.op = .restoreTabs [tabRequest window] context.options.lazyLoadTabs := by
  unfold executeStep
  rw [if_neg (by simp [h.active])]
  simp only [h.kind, h.saved, h.bridge, if_true]
  exact ⟨_, List.mem_cons_self .., rfl⟩

end Step

section Plan

variable {σ : Type} {handler : (op : Hal.Op) → σ → Hal.Answer op × σ} {s : σ} {saved : Snapshot}
  {plan : RestorePlan} {options : RestoreOptions} {bridge : Bool}

/-- What a plan hands to the bridge is the saved window of one of its steps. -/
theorem hands_of_mem_trace {event : Event} {windows : List BrowserWindow} {lazyLoad : Bool}
    (h : event ∈ ((executePlan saved plan options bridge).trace handler s).1)
    (hop : event.op = .restoreTabs windows lazyLoad) :
    ∃ current ∈ plan.steps, ∃ window,
      Hands (executorContext handler s saved options bridge) current window
        ∧ windows = [tabRequest window] := by
  rw [executePlan_trace] at h
  rcases List.mem_append.mp h with h | h
  · rcases List.mem_append.mp h with h | h
    · simp only [List.mem_cons, List.not_mem_nil, or_false] at h
      rcases h with rfl | rfl | rfl <;> cases hop
    · obtain ⟨round, hround, hevent⟩ := List.mem_flatMap.mp h
      obtain ⟨hitem, s', hentry⟩ := Program.mem_journal hround
      rw [hentry] at hevent
      obtain ⟨window, hhands⟩ :=
        (executeStep_hands round.before).of_mem_trace handler s' event hevent windows lazyLoad hop
      exact ⟨round.item, hitem, window, hhands⟩
  · rw [List.mem_singleton.mp h] at hop
    cases hop

/-- Every step that can hand its window to the bridge does. -/
theorem mem_trace_of_hands {current : RestoreStep} (hcurrent : current ∈ plan.steps)
    {window : WindowInfo}
    (h : Hands (executorContext handler s saved options bridge) current window) :
    ∃ event ∈ ((executePlan saved plan options bridge).trace handler s).1,
      event.op = .restoreTabs [tabRequest window] options.lazyLoadTabs := by
  obtain ⟨front, back, hsteps⟩ := List.append_of_mem hcurrent
  have hround := Program.entry_mem_journal handler
    (executeStep (executorContext handler s saved options bridge)) front back current
    (initialExecution saved (shownWindows handler s)) (beforeSteps handler s)
  rw [← hsteps] at hround
  obtain ⟨event, hevent, hop⟩ := h.event handler
    (Program.outcome handler (executeStep (executorContext handler s saved options bridge)) front
      (initialExecution saved (shownWindows handler s)) (beforeSteps handler s)).1
    (Program.outcome handler (executeStep (executorContext handler s saved options bridge)) front
      (initialExecution saved (shownWindows handler s)) (beforeSteps handler s)).2
  refine ⟨event, ?_, hop⟩
  rw [executePlan_trace]
  apply List.mem_append_left
  apply List.mem_append_right
  exact List.mem_flatMap.mpr ⟨_, hround, hevent⟩

/-- A window with private tabs whose step reaches the bridge. -/
def OpensPrivateTabs (saved : Snapshot) (plan : RestorePlan) : Prop :=
  ∃ current ∈ plan.steps, current.kind = .restoreTabs ∧ current.skipped = false
    ∧ ∃ window, saved.findWindow current.targetId = some window
      ∧ ∃ tab ∈ window.tabs, tab.incognito = true

theorem not_handsPrivately (h : OpensPrivateTabs saved plan) :
    ¬HandsPrivately ((executePlan saved plan options true).trace handler s).1 := by
  obtain ⟨current, hcurrent, hkind, hactive, window, hsaved, hprivate⟩ := h
  intro hall
  have hhands : Hands (executorContext handler s saved options true) current window :=
    ⟨rfl, hactive, hkind, hsaved⟩
  obtain ⟨event, hevent, hop⟩ := mem_trace_of_hands hcurrent hhands
  have hkeeps := hall event hevent _ _ hop (tabRequest window) (List.mem_singleton_self _) hprivate
  exact Bool.noConfusion hkeeps.1

/-- **Private tabs stay private** as long as no step reaches the bridge for a window that has some. -/
theorem handsPrivately_iff (handler : (op : Hal.Op) → σ → Hal.Answer op × σ) (s : σ)
    (saved : Snapshot) (plan : RestorePlan) (options : RestoreOptions) (bridge : Bool) :
    HandsPrivately ((executePlan saved plan options bridge).trace handler s).1
      ↔ (bridge = true → ¬OpensPrivateTabs saved plan) := by
  constructor
  · rintro hall rfl hopens
    exact not_handsPrivately hopens hall
  · intro hnone event hevent windows lazyLoad hop window hwindow hprivate
    obtain ⟨current, hcurrent, found, hhands, rfl⟩ := hands_of_mem_trace hevent hop
    rw [List.mem_singleton.mp hwindow] at hprivate
    exact (hnone hhands.bridge
      ⟨current, hcurrent, hhands.kind, hhands.active, found, hhands.saved, hprivate⟩).elim

/-- A private tab in a browser window, and the step that opens it again. -/
def privateSnapshot : Snapshot :=
  { windows := [{ id := str "w1", browser := .firefox
                  tabs := [{ url := str "https://example.com/", incognito := true }] }] }

def tabsPlan : RestorePlan := { steps := [{ kind := .restoreTabs, targetId := str "w1" }] }

/-- The request for its window does not say that it is private. -/
theorem not_all_handsPrivately :
    ¬∀ (saved : Snapshot) (plan : RestorePlan) (options : RestoreOptions), options.restoreTabs = true →
      HandsPrivately ((executePlan saved plan options true).trace (obliging (.ok [])) ()).1 := by
  intro hall
  refine not_handsPrivately ?_ (hall privateSnapshot tabsPlan {} rfl)
  exact ⟨_, List.mem_singleton_self _, rfl, rfl, _, rfl, _, List.mem_singleton_self _, rfl⟩

end Plan

end Restore

/-! ### Captures -/

namespace SnapshotManager

open Browser (parseTabsMessage)

/-- The bridge answers with the windows of one report. -/
def BridgeReports {σ : Type} (around : Surroundings σ) (reported : List BrowserWindow) : Prop :=
  ∀ timeout fallback s, ∃ capture s',
    around.hal (.captureTabs timeout fallback) s = some ((.ok capture : Result TabCapture), s')
      ∧ capture.windows = reported

/-- No window holds a private tab, or the tabs of a browser window that was reported as private. -/
def ExcludesPrivate (windows : List WindowInfo) (reported : List BrowserWindow)
    (captured : List WindowInfo) : Prop :=
  ∀ window ∈ captured, (∀ tab ∈ window.tabs, tab.incognito = false)
    ∧ (window.tabs = [] ∨ (∃ before ∈ windows, window.tabs = before.tabs)
      ∨ ∃ source ∈ reported, source.incognito = false ∧ window.tabs = source.tabs)

/-- The windows of a report that a capture without private tabs attaches as they are. -/
def PublicTabs (reported : List BrowserWindow) : Prop :=
  ∀ source ∈ reported, source.incognito = false → source.browser ≠ .none →
    ∀ tab ∈ source.tabs, tab.incognito = false

section Attach

variable {options : CaptureOptions} (hoptions : options.includeIncognito = false)

include hoptions in
theorem withoutIncognito_windows (captured : TabCapture) :
    (withoutIncognito options captured).windows
      = captured.windows.map fun window =>
          if window.incognito then { window with tabs := [] } else window := by
  rw [withoutIncognito, if_neg (by simp [hoptions])]

include hoptions in
/-- What is attached comes from a window that is not reported as private. -/
theorem attached_excludes {windows : List WindowInfo} {captured : TabCapture}
    (hown : ∀ window ∈ windows, ∀ tab ∈ window.tabs, tab.incognito = false)
    (hpublic : PublicTabs captured.windows) :
    ExcludesPrivate windows captured.windows
      (Browser.attachTabsToWindows (withoutIncognito options captured) windows).2 := by
  intro after hafter
  obtain ⟨window, hwindow, hreceives⟩ :=
    Browser.forall₂_mem_right (Browser.attachTabsToWindows_each _ windows) hafter
  rcases hreceives.tabs with hkept | ⟨found, index, hfits, htabs⟩
  · rw [hkept]
    exact ⟨hown window hwindow, .inr (.inl ⟨window, hwindow, rfl⟩)⟩
  · have hreported := hfits.reported
    rw [withoutIncognito_windows hoptions, List.getElem?_map] at hreported
    obtain ⟨source, hsource, hfound⟩ := Option.map_eq_some_iff.mp hreported
    have hmem := List.mem_of_getElem? hsource
    rw [htabs]
    by_cases hincognito : source.incognito = true
    · rw [if_pos hincognito] at hfound
      rw [← hfound]
      exact ⟨by simp, .inl rfl⟩
    · rw [if_neg hincognito] at hfound
      have hnot : source.incognito = false := by simpa using hincognito
      have hkind : source.browser ≠ .none := by
        rw [hfound, hfits.browser]
        exact hfits.isBrowser
      rw [← hfound]
      exact ⟨hpublic source hmem hnot hkind, .inr (.inr ⟨source, hmem, hnot, rfl⟩)⟩

end Attach

/-- What `attach_browser_tabs` makes of windows, where the bridge answers with a report. -/
theorem attachBrowserTabs_inv {σ : Type} {manager : SnapshotManager} {around : Surroundings σ}
    {state state' : σ × Storage.Connection} {options : CaptureOptions}
    {windows captured : List WindowInfo} {reported : List BrowserWindow}
    (hreports : BridgeReports around reported)
    (h : (manager.attachBrowserTabs windows options).run.run (handler around) state
      = some (.ok captured, state')) :
    captured = windows ∨ ∃ capture : TabCapture, capture.windows = reported
      ∧ captured = (Browser.attachTabsToWindows (withoutIncognito options capture) windows).2 := by
  rw [attachBrowserTabs] at h
  by_cases hnone : (!manager.browserBridge
      || !windows.any (fun window => decide (window.browser ≠ .none))) = true
  · rw [if_pos hnone] at h
    cases h
    exact .inl rfl
  · rw [if_neg hnone] at h
    obtain ⟨answer, ⟨s₁, c₁⟩, hanswer, hdone⟩ := Program.run_except_bind_inv h
    obtain ⟨⟨found, s₂⟩, hfound, hrest⟩ := Option.bind_eq_some_iff.mp
      ((Program.run_ask_eq _ _ _ _).symm.trans hanswer)
    cases hrest
    obtain ⟨⟨told, s₃⟩, htold, hstate⟩ := Option.map_eq_some_iff.mp hfound
    cases hstate
    obtain ⟨capture, s₄, hcapture, hwindows⟩ := hreports options.browserTimeout true state.1
    rw [hcapture] at htold
    cases htold
    cases hdone
    exact .inr ⟨capture, hwindows, rfl⟩

/-- A process whose bridge reports these windows, and nothing else. -/
def reporting (reported : List BrowserWindow) : Surroundings Unit where
  hal := fun op s =>
    match op with
    | .captureTabs _ _ => some ((.ok { windows := reported } : Result TabCapture), s)
    | _ => none

theorem bridgeReports_reporting (reported : List BrowserWindow) :
    BridgeReports (reporting reported) reported :=
  fun _ _ s => ⟨{ windows := reported }, s, rfl, rfl⟩

/-- Whatever windows the platform lists, none of them ends up with private tabs of the report. -/
def AlwaysExcludesPrivate (options : CaptureOptions) (payload : Json.Value) : Prop :=
  ∀ reported, parseTabsMessage payload = .ok reported →
    ∀ (σ : Type) (manager : SnapshotManager) (around : Surroundings σ)
      (state state' : σ × Storage.Connection) (windows captured : List WindowInfo),
      BridgeReports around reported →
      (∀ window ∈ windows, ∀ tab ∈ window.tabs, tab.incognito = false) →
      (manager.attachBrowserTabs windows options).run.run (handler around) state
        = some (.ok captured, state') →
      ExcludesPrivate windows reported captured

/-- A private tab in a window that is not reported as private is captured, once there are enough
windows on the desktop. -/
theorem publicTabs_of_always {options : CaptureOptions} (hoptions : options.includeIncognito = false)
    {payload : Json.Value} (halways : AlwaysExcludesPrivate options payload)
    {reported : List BrowserWindow} (hparse : parseTabsMessage payload = .ok reported) :
    PublicTabs reported := by
  intro source hsource hpublic hkind tab htab
  by_contra hprivate
  obtain ⟨index, hindex⟩ := List.getElem?_of_mem hsource
  set capture : TabCapture := withoutIncognito options { windows := reported } with hcapture
  have hwindows : capture.windows[index]? = some source := by
    rw [hcapture, withoutIncognito_windows hoptions, List.getElem?_map, hindex]
    simp [hpublic]
  have hlength : capture.windows.length = reported.length := by
    rw [hcapture, withoutIncognito_windows hoptions, List.length_map]
  set bare := List.replicate capture.windows.length (Browser.bareWindow source.browser) with hbare
  have heach : ∀ window ∈ bare, window = Browser.bareWindow source.browser := fun window hwindow =>
    List.eq_of_mem_replicate hwindow
  have hempty : ∀ window ∈ bare, window.tabs = [] := fun window hwindow => by
    rw [heach window hwindow, Browser.bareWindow]
  obtain ⟨after, hafter, htabs⟩ := Browser.attachTabsToWindows_reaches capture hwindows hkind
    (List.ne_nil_of_mem htab) (fun window hwindow => by rw [heach window hwindow]; rfl) hempty
    List.length_replicate
  have hany : bare.any (fun window => decide (window.browser ≠ .none)) = true := by
    rw [List.any_eq_true]
    refine ⟨Browser.bareWindow source.browser, ?_, decide_eq_true hkind⟩
    rw [hbare, hlength]
    exact List.mem_replicate.mpr ⟨(List.length_pos_of_mem hsource).ne', rfl⟩
  have hasked : ¬(!({} : SnapshotManager).browserBridge
      || !bare.any (fun window => decide (window.browser ≠ .none))) = true := by
    rw [hany]
    decide
  have hrun : (attachBrowserTabs {} bare options).run.run (handler (reporting reported))
      ((), { tables := fun _ => [] })
      = some (.ok (Browser.attachTabsToWindows capture bare).2, ((), { tables := fun _ => [] })) := by
    rw [attachBrowserTabs, if_neg hasked]
    rfl
  have hexcludes := halways reported hparse Unit {} (reporting reported) _ _ bare _
    (bridgeReports_reporting reported)
    (fun window hwindow tab htab => absurd (hempty window hwindow ▸ htab) List.not_mem_nil)
    hrun after hafter
  exact hprivate (hexcludes.1 tab (htabs ▸ htab))

/-- A window that does not say whether it is private, with a tab that does. -/
def untoldPayload : Json.Value :=
  .object
    [(str "browser", .string (str "firefox")),
      (str "windows", .array
        [.object [(str "tabs", .array [.object
          [(str "url", .string (str "https://example.com/")), (str "incognito", .bool true)]])]])]

end SnapshotManager

end ContextSnap
