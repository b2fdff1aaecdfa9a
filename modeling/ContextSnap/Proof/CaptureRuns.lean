import ContextSnap.Proof.CaptureRetention

/-!
# What a capture is told

A capture that succeeds asked for the displays, the windows, the tabs, the cursor and the workspace,
each at most once. What it returns is a function of the answers, of the ids that it made and of its
options.
-/

namespace ContextSnap.SnapshotManager

open Program (Event record_except_bind_inv)
open Browser (TabCapture)

variable {σ : Type} {around : Surroundings σ} {state state' : σ × Storage.Connection}
  {events : List (Event Op Answer)}

/-- The answer that the platform or the browser bridge gave. -/
def Told (events : List (Event Op Answer)) (op : Hal.Op) (answer : Hal.Answer op) : Prop :=
  (⟨.hal op, answer⟩ : Event Op Answer) ∈ events

/-- The ids that were made, in order. -/
def freshIds (events : List (Event Op Answer)) : List Bytes :=
  events.filterMap fun event =>
    match event with
    | ⟨.direct .generateUlid, id⟩ => some id
    | _ => none

@[simp]
theorem told_append {front back : List (Event Op Answer)} {op : Hal.Op} {answer : Hal.Answer op} :
    Told (front ++ back) op answer ↔ Told front op answer ∨ Told back op answer := List.mem_append

/-- The event of a question that is asked at most once. -/
def asked (op : Hal.Op) (told : Option (Hal.Answer op)) : List (Event Op Answer) :=
  told.toList.map fun answer => ⟨.hal op, answer⟩

theorem told_asked {op : Hal.Op} {told : Option (Hal.Answer op)} {answer : Hal.Answer op} :
    Told (asked op told) op answer ↔ told = some answer := by
  cases told with
  | none => simp [Told, asked]
  | some found =>
      constructor
      · intro h
        cases List.mem_singleton.mp h
        rfl
      · rintro ⟨⟩
        exact List.mem_singleton_self _

theorem told_asked_some {op : Hal.Op} {told answer : Hal.Answer op} :
    Told (asked op (some told)) op answer ↔ answer = told := by
  rw [told_asked, Option.some_inj, eq_comm]

theorem not_told_asked {op other : Hal.Op} (hne : other ≠ op) (told : Option (Hal.Answer other))
    (answer : Hal.Answer op) : ¬Told (asked other told) op answer := by
  intro h
  obtain ⟨found, -, heq⟩ := List.mem_map.mp h
  cases heq
  exact hne rfl

@[simp]
theorem freshIds_asked (op : Hal.Op) (told : Option (Hal.Answer op)) :
    freshIds (asked op told) = [] := by
  cases told <;> rfl

@[simp]
theorem freshIds_append (front back : List (Event Op Answer)) :
    freshIds (front ++ back) = freshIds front ++ freshIds back := List.filterMap_append

/-! ### Single questions -/

theorem record_platformCall {op : Hal.Op} {answer : Hal.Answer op}
    (h : (platformCall (Program.operation op : Hal.Call (Hal.Answer op))).run.record (handler around)
      state = some (events, .ok answer, state')) : events = asked op (some answer) := by
  obtain ⟨⟨found, s₁⟩, -, hrest⟩ := Option.bind_eq_some_iff.mp h
  cases hrest
  rfl

theorem record_pure {α : Type} {value value' : α}
    (h : (pure value : Action α).run.record (handler around) state
      = some (events, .ok value', state')) : events = [] ∧ value' = value := by
  cases h
  exact ⟨rfl, rfl⟩

theorem record_orThrow {α : Type} {result : Result α} {value : α}
    (h : (orThrow result).run.record (handler around) state = some (events, .ok value, state')) :
    events = [] ∧ result = .ok value := by
  cases result <;> cases h
  exact ⟨rfl, rfl⟩

theorem record_freshUlid {id : Bytes}
    (h : freshUlid.run.record (handler around) state = some (events, .ok id, state')) :
    events = [⟨.direct .generateUlid, id⟩] := by
  obtain ⟨⟨found, s₁⟩, -, hrest⟩ := Option.bind_eq_some_iff.mp h
  cases hrest
  rfl

/-! ### Windows -/

/-- A window as it is captured: with an id, and a frame to go back to. -/
structure Completes (window captured : WindowInfo) : Prop where
  same : captured = { window with
    id := captured.id
    restoredFrame := if window.restoredFrame.empty then window.frame else window.restoredFrame }
  keeps : window.id ≠ [] → captured.id = window.id

theorem record_completeWindow {window captured : WindowInfo}
    (h : (completeWindow window).run.record (handler around) state
      = some (events, .ok captured, state')) :
    Completes window captured
      ∧ ((window.id = [] ∧ events = [⟨.direct .generateUlid, captured.id⟩])
        ∨ (window.id ≠ [] ∧ events = [])) := by
  obtain ⟨front, id, s₁, back, hid, hdone, rfl⟩ := record_except_bind_inv h
  obtain ⟨rfl, rfl⟩ := record_pure hdone
  rw [windowId] at hid
  by_cases hempty : window.id = []
  · rw [if_pos hempty] at hid
    rw [record_freshUlid hid, List.append_nil]
    exact ⟨⟨rfl, fun hne => absurd hempty hne⟩, .inl ⟨hempty, rfl⟩⟩
  · rw [if_neg hempty] at hid
    obtain ⟨rfl, rfl⟩ := record_pure hid
    exact ⟨⟨rfl, fun _ => rfl⟩, .inr ⟨hempty, rfl⟩⟩

/-- The ids of windows, where those that are there tell windows apart. -/
def DistinctIds (windows : List WindowInfo) : Prop :=
  windows.Pairwise fun window other => window.id ≠ [] → window.id ≠ other.id

/-- What is known of the windows and of the ids that were made for them. -/
structure Completed (windows captured : List WindowInfo) (fresh : List Bytes) : Prop where
  each : List.Forall₂ Completes windows captured
  ids : ∀ window ∈ captured, window.id ∈ fresh ∨ window.id ≠ [] ∧ ∃ w ∈ windows, w.id = window.id
  distinct : DistinctIds windows → fresh.Nodup → (∀ id ∈ fresh, ∀ w ∈ windows, w.id ≠ id) →
    (captured.map (·.id)).Nodup

section Cons

variable {window first : WindowInfo} {windows rest : List WindowInfo} {fresh : List Bytes}

theorem Completed.cons_fresh (h : Completed windows rest fresh) (hfirst : Completes window first) :
    Completed (window :: windows) (first :: rest) (first.id :: fresh) where
  each := .cons hfirst h.each
  ids := by
    intro captured hcaptured
    rcases List.mem_cons.mp hcaptured with rfl | hrest
    · exact .inl (List.mem_cons_self ..)
    · rcases h.ids captured hrest with hfresh | ⟨hne, w, hw, hid⟩
      · exact .inl (List.mem_cons_of_mem _ hfresh)
      · exact .inr ⟨hne, w, List.mem_cons_of_mem _ hw, hid⟩
  distinct := by
    intro hdistinct hnodup hunused
    obtain ⟨hnew, hnodup⟩ := List.nodup_cons.mp hnodup
    have hrest := h.distinct (List.pairwise_cons.mp hdistinct).2 hnodup fun id hid w hw =>
      hunused id (List.mem_cons_of_mem _ hid) w (List.mem_cons_of_mem _ hw)
    refine List.nodup_cons.mpr ⟨?_, hrest⟩
    intro hmem
    obtain ⟨captured, hcaptured, hid⟩ := List.mem_map.mp hmem
    change captured.id = first.id at hid
    rcases h.ids captured hcaptured with hfresh | ⟨-, w, hw, hwid⟩
    · exact hnew (hid ▸ hfresh)
    · exact hunused first.id (List.mem_cons_self ..) w (List.mem_cons_of_mem _ hw)
        (hwid.trans hid)

theorem Completed.cons_kept (h : Completed windows rest fresh) (hfirst : Completes window first)
    (hne : window.id ≠ []) : Completed (window :: windows) (first :: rest) fresh where
  each := .cons hfirst h.each
  ids := by
    intro captured hcaptured
    rcases List.mem_cons.mp hcaptured with rfl | hrest
    · rw [hfirst.keeps hne]
      exact .inr ⟨hne, window, List.mem_cons_self .., rfl⟩
    · rcases h.ids captured hrest with hfresh | ⟨hne, w, hw, hid⟩
      · exact .inl hfresh
      · exact .inr ⟨hne, w, List.mem_cons_of_mem _ hw, hid⟩
  distinct := by
    intro hdistinct hnodup hunused
    obtain ⟨hothers, hdistinct⟩ := List.pairwise_cons.mp hdistinct
    have hrest := h.distinct hdistinct hnodup fun id hid w hw =>
      hunused id hid w (List.mem_cons_of_mem _ hw)
    refine List.nodup_cons.mpr ⟨?_, hrest⟩
    intro hmem
    obtain ⟨captured, hcaptured, hid⟩ := List.mem_map.mp hmem
    change captured.id = first.id at hid
    rw [hfirst.keeps hne] at hid
    rcases h.ids captured hcaptured with hfresh | ⟨-, w, hw, hwid⟩
    · exact hunused captured.id hfresh window (List.mem_cons_self ..) hid.symm
    · exact hothers w hw hne (hid.symm.trans hwid.symm)

end Cons

theorem record_completeWindows {windows captured : List WindowInfo}
    (h : (windows.mapM completeWindow).run.record (handler around) state
      = some (events, .ok captured, state')) :
    Completed windows captured (freshIds events) ∧ ∀ op answer, ¬Told events op answer := by
  induction windows generalizing state state' events captured with
  | nil =>
      obtain ⟨rfl, rfl⟩ := record_pure h
      exact ⟨⟨.nil, by simp, by simp⟩, fun _ _ => List.not_mem_nil⟩
  | cons window windows ih =>
      rw [List.mapM_cons] at h
      obtain ⟨front, first, s₁, middle, hfirst, hbehind, rfl⟩ := record_except_bind_inv h
      obtain ⟨back, rest, s₂, last, hrest, hdone, rfl⟩ := record_except_bind_inv hbehind
      obtain ⟨rfl, rfl⟩ := record_pure hdone
      obtain ⟨hcompletes, hfront⟩ := record_completeWindow hfirst
      obtain ⟨hcompleted, hsilent⟩ := ih hrest
      rw [List.append_nil]
      rcases hfront with ⟨-, rfl⟩ | ⟨hne, rfl⟩
      · refine ⟨hcompleted.cons_fresh hcompletes, ?_⟩
        intro op answer htold
        rcases List.mem_cons.mp htold with heq | hback
        · cases heq
        · exact hsilent op answer hback
      · exact ⟨hcompleted.cons_kept hcompletes hne, hsilent⟩

/-! ### The stages of a capture -/

section Stages

variable {manager : SnapshotManager} {options : CaptureOptions}

theorem record_captureWindows {windows : List WindowInfo}
    (h : (captureWindows options).run.record (handler around) state
      = some (events, .ok windows, state')) :
    ∃ enumerated silent, events = asked (.enumerateWindows options) (some (.ok enumerated)) ++ silent
      ∧ Completed (enumerated.filter fun window => !isExcluded window options) windows
        (freshIds silent)
      ∧ ∀ op answer, ¬Told silent op answer := by
  obtain ⟨front, answer, s₁, middle, hanswer, hbehind, rfl⟩ := record_except_bind_inv h
  obtain ⟨back, enumerated, s₂, last, hthrow, hmapM, rfl⟩ := record_except_bind_inv hbehind
  obtain ⟨rfl, rfl⟩ := record_orThrow hthrow
  obtain ⟨hcompleted, hsilent⟩ := record_completeWindows hmapM
  exact ⟨enumerated, last, by rw [record_platformCall hanswer]; rfl, hcompleted, hsilent⟩

/-- The windows with the tabs that the bridge told of, if it was asked and did. -/
def attached (options : CaptureOptions) (windows : List WindowInfo) :
    Option (Result TabCapture) → List WindowInfo
  | some (.ok captured) =>
      (Browser.attachTabsToWindows (withoutIncognito options captured) windows).2
  | _ => windows

theorem record_captureTabs {windows found : List WindowInfo}
    (h : (manager.captureTabs windows options).run.record (handler around) state
      = some (events, .ok found, state')) :
    ∃ told, events = asked (.captureTabs options.browserTimeout true) told
      ∧ found = attached options windows told := by
  rw [captureTabs] at h
  by_cases htabs : options.includeTabs = true
  · rw [if_pos htabs, attachBrowserTabs] at h
    by_cases hnone : (!manager.browserBridge
        || !windows.any (fun window => decide (window.browser ≠ .none))) = true
    · rw [if_pos hnone] at h
      obtain ⟨rfl, rfl⟩ := record_pure h
      exact ⟨none, rfl, rfl⟩
    · rw [if_neg hnone] at h
      obtain ⟨front, answer, s₁, back, hanswer, hdone, rfl⟩ := record_except_bind_inv h
      refine ⟨some answer, ?_⟩
      cases answer with
      | error e =>
          obtain ⟨rfl, rfl⟩ := record_pure hdone
          exact ⟨by rw [record_platformCall hanswer, List.append_nil], rfl⟩
      | ok captured =>
          obtain ⟨rfl, rfl⟩ := record_pure hdone
          exact ⟨by rw [record_platformCall hanswer, List.append_nil], rfl⟩
  · rw [if_neg htabs] at h
    obtain ⟨rfl, rfl⟩ := record_pure h
    exact ⟨none, rfl, rfl⟩

/-- The cursor that was told, or the default. -/
def toldState (told : Option (Result CursorState)) : CursorState :=
  (told.bind (·.toOption)).getD {}

theorem record_captureCursor {cursor : CursorState}
    (h : manager.captureCursor.run.record (handler around) state
      = some (events, .ok cursor, state')) :
    ∃ told : Option (Hal.Answer .queryCursor), events = asked .queryCursor told
      ∧ cursor = toldState told := by
  rw [captureCursor] at h
  by_cases hquery : manager.platform.capabilities.cursorQuery = true
  · rw [if_pos hquery] at h
    obtain ⟨front, answer, s₁, back, hanswer, hdone, rfl⟩ := record_except_bind_inv h
    obtain ⟨rfl, rfl⟩ := record_pure hdone
    refine ⟨some answer, ?_, rfl⟩
    rw [record_platformCall hanswer, List.append_nil]
  · rw [if_neg hquery] at h
    obtain ⟨rfl, rfl⟩ := record_pure h
    exact ⟨none, rfl, rfl⟩

theorem record_captureWorkspace {workspace : Option Bytes}
    (h : manager.captureWorkspace.run.record (handler around) state
      = some (events, .ok workspace, state')) :
    ∃ told : Option (Hal.Answer .currentWorkspace), events = asked .currentWorkspace told := by
  rw [captureWorkspace] at h
  by_cases hdesktops : manager.platform.capabilities.virtualDesktops = true
  · rw [if_pos hdesktops] at h
    obtain ⟨front, answer, s₁, back, hanswer, hdone, rfl⟩ := record_except_bind_inv h
    obtain ⟨rfl, rfl⟩ := record_pure hdone
    refine ⟨some answer, ?_⟩
    rw [record_platformCall hanswer, List.append_nil]
  · rw [if_neg hdesktops] at h
    obtain ⟨rfl, rfl⟩ := record_pure h
    exact ⟨none, rfl⟩

end Stages

/-! ### What is sanitized -/

section Sanitize

variable (manager : SnapshotManager) (options : CaptureOptions)

/-- A window as it is stored. -/
def storedWindow (window : WindowInfo) : WindowInfo :=
  match manager.sanitizer with
  | some sanitizer =>
      if options.sanitizeUrls then dropExcluded options (sanitizer.sanitizeWindow window) else window
  | none => window

theorem sanitize_windows (snapshot : Snapshot) :
    (manager.sanitize snapshot options).windows
      = snapshot.windows.map (manager.storedWindow options) := by
  unfold sanitize storedWindow
  cases manager.sanitizer with
  | none => simp
  | some sanitizer =>
      by_cases hon : options.sanitizeUrls = true
      · simp [hon, Privacy.Sanitizer.sanitizeSnapshot]
      · simp [hon]

theorem sanitize_rest (snapshot : Snapshot) :
    (manager.sanitize snapshot options).monitors = snapshot.monitors
      ∧ (manager.sanitize snapshot options).cursor = snapshot.cursor := by
  unfold sanitize
  cases manager.sanitizer with
  | none => exact ⟨rfl, rfl⟩
  | some sanitizer =>
      dsimp only
      split <;> exact ⟨rfl, rfl⟩

/-- Nothing but the tabs of a window changes. -/
theorem storedWindow_eq (window : WindowInfo) :
    manager.storedWindow options window
      = { window with tabs := (manager.storedWindow options window).tabs } := by
  unfold storedWindow
  cases manager.sanitizer with
  | none => rfl
  | some sanitizer =>
      dsimp only
      split <;> rfl

end Sanitize

/-! ### The whole capture -/

/-- What a capture was told. -/
structure Sighting where
  monitors : List MonitorInfo
  enumerated : List WindowInfo
  windows : List WindowInfo
  fresh : List Bytes
  tabs : Option (Result TabCapture)
  cursor : Option (Result CursorState)

/-- The events of a capture tell it this much, and the snapshot is made of it. -/
structure Sees (manager : SnapshotManager) (options : CaptureOptions)
    (events : List (Event Op Answer)) (snapshot : Snapshot) (sight : Sighting) : Prop where
  displays : ∀ answer, Told events .enumerateDisplays answer ↔ answer = .ok sight.monitors
  enumeration : ∀ answer,
    Told events (.enumerateWindows options) answer ↔ answer = .ok sight.enumerated
  completed : Completed (sight.enumerated.filter fun window => !isExcluded window options)
    sight.windows sight.fresh
  fresh : sight.fresh.Sublist (freshIds events)
  toldTabs : ∀ answer,
    Told events (.captureTabs options.browserTimeout true) answer ↔ sight.tabs = some answer
  toldCursor : ∀ answer, Told events .queryCursor answer ↔ sight.cursor = some answer
  monitors : snapshot.monitors = sight.monitors
  windows : snapshot.windows
    = (attached options sight.windows sight.tabs).map (manager.storedWindow options)
  cursor : snapshot.cursor = toldState sight.cursor
  name : snapshot.metadata.name = []
  tags : snapshot.metadata.tags = []
  automatic : snapshot.metadata.automatic = false

theorem all_firstSet (names : List Bytes) :
    (firstSet names).run.All fun op => ∀ hal, op ≠ .hal hal := by
  induction names with
  | nil => trivial
  | cons name names ih =>
      have hask : (getenv name).run.All fun op => ∀ hal, op ≠ .hal hal :=
        ⟨fun _ h => (by cases h), fun _ => trivial⟩
      apply Program.All.bind_except hask
      intro found
      split
      · trivial
      · exact ih

theorem all_captureMetadata (manager : SnapshotManager) :
    manager.captureMetadata.run.All fun op => ∀ hal, op ≠ .hal hal := by
  have hdirect : ∀ op, (direct op).run.All fun op => ∀ hal, op ≠ .hal hal := fun op =>
    ⟨fun _ h => (by cases h), fun _ => trivial⟩
  apply Program.All.bind_except (hdirect _)
  intro id
  apply Program.All.bind_except (hdirect _)
  intro createdAt
  exact Program.All.bind_except (all_firstSet _) fun hostName => trivial

theorem record_captureMetadata {manager : SnapshotManager} {metadata : SnapshotMetadata}
    (h : manager.captureMetadata.run.record (handler around) state
      = some (events, .ok metadata, state')) :
    metadata.name = [] ∧ metadata.tags = [] ∧ metadata.automatic = false
      ∧ ∀ op answer, ¬Told events op answer := by
  have hsilent : ∀ op answer, ¬Told events op answer := fun op answer htold =>
    (all_captureMetadata manager).of_mem_record h _ htold op rfl
  obtain ⟨_, id, s₁, _, -, h, -⟩ := record_except_bind_inv h
  obtain ⟨_, createdAt, s₂, _, -, h, -⟩ := record_except_bind_inv h
  obtain ⟨_, hostName, s₃, _, -, h, -⟩ := record_except_bind_inv h
  obtain ⟨-, rfl⟩ := record_pure h
  exact ⟨rfl, rfl, rfl, hsilent⟩

/-- **One capture.** -/
theorem capture_sees {manager : SnapshotManager} {options : CaptureOptions} {snapshot : Snapshot}
    (h : (manager.capture options).run.record (handler around) state
      = some (events, .ok snapshot, state')) :
    ∃ sight, Sees manager options events snapshot sight := by
  obtain ⟨_, started, s₁, _, hstarted, h₁, rfl⟩ := record_except_bind_inv h
  obtain ⟨_, observed, s₂, _, hobserved, h₂, rfl⟩ := record_except_bind_inv h₁
  obtain ⟨_, metadata, s₃, _, hmetadata, h₃, rfl⟩ := record_except_bind_inv h₂
  obtain ⟨_, finished, s₄, _, hfinished, h₄, rfl⟩ := record_except_bind_inv h₃
  obtain ⟨rfl, rfl⟩ := record_pure h₄
  obtain ⟨_, answer, s₅, _, hdisplays, h₅, rfl⟩ := record_except_bind_inv hobserved
  obtain ⟨_, monitors, s₆, _, hthrow, h₆, rfl⟩ := record_except_bind_inv h₅
  obtain ⟨_, windows, s₇, _, hwindows, h₇, rfl⟩ := record_except_bind_inv h₆
  obtain ⟨_, found, s₈, _, htabs, h₈, rfl⟩ := record_except_bind_inv h₇
  obtain ⟨_, cursor, s₉, _, hcursor, h₉, rfl⟩ := record_except_bind_inv h₈
  obtain ⟨_, workspace, s₁₀, _, hworkspace, h₁₀, rfl⟩ := record_except_bind_inv h₉
  obtain ⟨rfl, rfl⟩ := record_pure h₁₀
  obtain ⟨rfl, rfl⟩ := record_orThrow hthrow
  obtain ⟨enumerated, silent, rfl, hcompleted, hsilent⟩ := record_captureWindows hwindows
  obtain ⟨toldTabs, rfl, rfl⟩ := record_captureTabs htabs
  obtain ⟨toldCursor, rfl, rfl⟩ := record_captureCursor hcursor
  obtain ⟨toldWorkspace, rfl⟩ := record_captureWorkspace hworkspace
  obtain ⟨hname, htags, hautomatic, hmetadataSilent⟩ := record_captureMetadata hmetadata
  obtain rfl := record_platformCall hstarted
  obtain rfl := record_platformCall hfinished
  obtain rfl := record_platformCall hdisplays
  have hrest := sanitize_rest manager options
    { metadata, monitors, cursor := toldState toldCursor
      windows := attached options windows toldTabs, activeWorkspaceId := workspace }
  clear h h₁ h₂ h₃ h₄ h₅ h₆ h₇ h₈ h₉ h₁₀ hobserved hthrow hwindows htabs hcursor hworkspace
  refine ⟨⟨monitors, enumerated, windows, freshIds silent, toldTabs, toldCursor⟩, ?_⟩
  refine ⟨?_, ?_, hcompleted, ?_, ?_, ?_, hrest.1, sanitize_windows .., hrest.2, ?_, ?_, ?_⟩
  · intro answer
    simp [hsilent, hmetadataSilent, not_told_asked]
    exact told_asked_some
  · intro answer
    simp [hsilent, hmetadataSilent, not_told_asked]
    exact told_asked_some
  · simp
  · intro answer
    simp [hsilent, hmetadataSilent, not_told_asked]
    exact told_asked
  · intro answer
    simp [hsilent, hmetadataSilent, not_told_asked]
    exact told_asked
  · exact (congrArg SnapshotMetadata.name (sanitize_metadata manager _ options)).trans hname
  · exact (congrArg SnapshotMetadata.tags (sanitize_metadata manager _ options)).trans htags
  · exact (congrArg SnapshotMetadata.automatic (sanitize_metadata manager _ options)).trans
      hautomatic

end ContextSnap.SnapshotManager
