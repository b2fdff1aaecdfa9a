import ContextSnap.Proof.CaptureOptions
import ContextSnap.Proof.HeadlessStacking
import ContextSnap.Proof.PlacedFrames

/-!
# Capturing and restoring on the null platform

A capture of a desktop in memory always succeeds. Whatever is done to the desktop afterwards, a
restore of the snapshot puts every window that is still there back to where it was, since it knows
the window again by its app and its title.
-/

namespace ContextSnap.Restore

open FloatOrder (rank)
open Hal (NullPlatformState onNullPlatform)
open Hal.NullPlatformState

/-! ### Windows that are known again -/

section Known

/-- No live window of the app of a saved one is as much like it as the saved window's own. -/
def ToldApart (windows live : List WindowInfo) : Prop :=
  ∀ window ∈ windows, ∀ candidate ∈ live, sameApp window candidate = true →
    candidate.nativeHandle ≠ window.nativeHandle →
    ∃ own ∈ live, own.nativeHandle = window.nativeHandle
      ∧ scoreRank window candidate < scoreRank window own

/-- Saved windows, and live ones that still have the handle, the title and the process of theirs. -/
structure Knows (windows live : List WindowInfo) : Prop where
  ids : (windows.map (·.id)).Nodup
  handles : (windows.map (·.nativeHandle)).Nodup
  liveHandles : (live.map (·.nativeHandle)).Nodup
  same : ∀ window ∈ windows, ∀ own ∈ live, own.nativeHandle = window.nativeHandle →
    own.title = window.title ∧ own.process = window.process
  titles : ∀ window ∈ windows, window.title.length < 2 ^ 64
  apart : ToldApart windows live

variable {windows live : List WindowInfo} {window own : WindowInfo} {used : List UInt64}

theorem sameApp_self (h : own.process = window.process) : sameApp window own = true := by
  rw [sameApp, h]
  exact decide_eq_true rfl

/-- A window that is still there is chosen, unless it is given away already. -/
theorem Knows.bestLiveMatch_own (h : Knows windows live) (hwindow : window ∈ windows)
    (hown : own ∈ live) (hhandle : own.nativeHandle = window.nativeHandle)
    (hfree : own.nativeHandle ∉ used) : bestLiveMatch window live used = some own := by
  obtain ⟨htitle, hprocess⟩ := h.same window hwindow own hown hhandle
  have hscore := threshold_le_matchScore htitle (h.titles window hwindow)
  rw [bestLiveMatch_eq]
  have hmem : own ∈ (live.filter (sameApp window)).filter fun c =>
      decide (c.nativeHandle ∉ used) := by
    rw [List.mem_filter, List.mem_filter]
    exact ⟨⟨hown, sameApp_self hprocess⟩, decide_eq_true hfree⟩
  have hnodup : ((live.filter (sameApp window)).filter fun c =>
      decide (c.nativeHandle ∉ used)).map (·.nativeHandle) |>.Nodup :=
    h.liveHandles.sublist ((List.filter_sublist.trans List.filter_sublist).map _)
  have hsub : ∀ c ∈ (live.filter (sameApp window)).filter fun c => decide (c.nativeHandle ∉ used),
      c.nativeHandle ≠ own.nativeHandle → scoreRank window c < scoreRank window own := by
    intro c hc hne
    rw [List.mem_filter, List.mem_filter] at hc
    obtain ⟨own', hown', hhandle', hlt⟩ :=
      h.apart window hwindow c hc.1.1 hc.1.2 (hhandle ▸ hne)
    rwa [List.inj_on_of_nodup_map h.liveHandles hown' hown (hhandle'.trans hhandle.symm)] at hlt
  generalize (live.filter (sameApp window)).filter (fun c => decide (c.nativeHandle ∉ used))
    = candidates at hmem hnodup hsub
  obtain ⟨front, back, rfl⟩ := List.append_of_mem hmem
  rw [List.map_append, List.map_cons, List.nodup_append] at hnodup
  have hne : ∀ c, c ∈ front ∨ c ∈ back → c.nativeHandle ≠ own.nativeHandle := by
    rintro c (hc | hc) heq
    · exact hnodup.2.2 _ (List.mem_map_of_mem hc) _ (List.mem_cons_self ..) heq
    · exact (List.nodup_cons.mp hnodup.2.1).1 (heq ▸ List.mem_map_of_mem hc)
  have hstart : rank 0.0 < scoreRank window own := lt_of_lt_of_le (by decide) hscore
  have hfront : ∀ c ∈ front, scoreRank window c < scoreRank window own :=
    fun c hc => hsub c (List.mem_append_left _ hc) (hne c (.inl hc))
  have hback : ∀ c ∈ back, scoreRank window c ≤ scoreRank window own := fun c hc =>
    (hsub c (List.mem_append_right _ (List.mem_cons_of_mem _ hc)) (hne c (.inr hc))).le
  rw [Greedy.choose, Greedy.champion_eq_some rfl hstart hfront hback, if_pos hscore]

/-- No other window is taken for one that is gone. -/
theorem Knows.bestLiveMatch_gone (h : Knows windows live) (hwindow : window ∈ windows)
    (hgone : window.nativeHandle ∉ live.map (·.nativeHandle)) :
    bestLiveMatch window live used = none := by
  have hnone : live.filter (sameApp window) = [] := by
    rw [List.filter_eq_nil_iff]
    intro c hc happ
    obtain ⟨own, hown, hhandle, -⟩ := h.apart window hwindow c hc happ
      fun heq => hgone (heq ▸ List.mem_map_of_mem hc)
    exact hgone (hhandle ▸ List.mem_map_of_mem hown)
  rw [bestLiveMatch_eq, hnone]
  simp [Greedy.choose, Greedy.champion]

theorem Knows.bestLiveMatch_handle (h : Knows windows live) (hwindow : window ∈ windows)
    (hfree : window.nativeHandle ∉ used) :
    (bestLiveMatch window live used).map (·.nativeHandle)
      = if window.nativeHandle ∈ live.map (·.nativeHandle) then some window.nativeHandle
        else none := by
  split_ifs with hthere
  · obtain ⟨own, hown, hhandle⟩ := List.mem_map.mp hthere
    rw [h.bestLiveMatch_own hwindow hown hhandle (hhandle ▸ hfree), Option.map_some, hhandle]
  · rw [h.bestLiveMatch_gone hwindow hthere, Option.map_none]

/-- What is given away belongs to the windows that it is given to. -/
theorem Knows.taken_subset {front : List WindowInfo} (h : Knows windows live)
    (hsub : front ⊆ windows) (hnodup : (front.map (·.nativeHandle)).Nodup)
    (hfree : ∀ window ∈ front, window.nativeHandle ∉ used) :
    taken live front used ⊆ used ++ front.map (·.nativeHandle) := by
  induction front generalizing used with
  | nil => simp [taken]
  | cons window front ih =>
      rw [List.map_cons, List.nodup_cons] at hnodup
      have hpick := h.bestLiveMatch_handle (hsub (List.mem_cons_self ..))
        (hfree window (List.mem_cons_self ..))
      rw [taken, Greedy.takeAll_cons, ← taken, Greedy.take, hpick]
      have hmore : ∀ handle ∈ (if window.nativeHandle ∈ live.map (·.nativeHandle)
          then some window.nativeHandle else none).toList, handle = window.nativeHandle := by
        intro handle hhandle
        split_ifs at hhandle with hthere
        · simpa using hhandle
        · simp at hhandle
      have hrest := @ih (used ++ (if window.nativeHandle ∈ live.map (·.nativeHandle)
          then some window.nativeHandle else none).toList)
        (fun other hother => hsub (List.mem_cons_of_mem _ hother)) hnodup.2 (by
          intro other hother hmem
          rcases List.mem_append.mp hmem with hmem | hmem
          · exact hfree other (List.mem_cons_of_mem _ hother) hmem
          · exact hnodup.1 (hmore _ hmem ▸ List.mem_map_of_mem hother))
      intro handle hhandle
      rcases List.mem_append.mp (hrest hhandle) with hfront | hback
      · rcases List.mem_append.mp hfront with hused | hwindow
        · exact List.mem_append_left _ hused
        · exact List.mem_append_right _ (hmore _ hwindow ▸ List.mem_cons_self ..)
      · exact List.mem_append_right _ (List.mem_cons_of_mem _ hback)

/-- **A saved window is known again** by its handle if it is there, and otherwise by none. -/
theorem Knows.prematch (h : Knows windows live) (hwindow : window ∈ windows) :
    prematch windows live window.id
      = if window.nativeHandle ∈ live.map (·.nativeHandle) then some window.nativeHandle
        else none := by
  obtain ⟨front, back, hsplit⟩ := List.append_of_mem hwindow
  have hnodup := h.handles
  rw [hsplit, List.map_append, List.map_cons, List.nodup_append] at hnodup
  have htaken : taken live front [] ⊆ front.map (·.nativeHandle) := by
    simpa using @Knows.taken_subset _ _ [] front h (hsplit ▸ List.subset_append_left ..) hnodup.1
      fun _ _ => List.not_mem_nil
  have hfree : window.nativeHandle ∉ taken live front [] := fun hmem =>
    hnodup.2.2 _ (htaken hmem) _ (List.mem_cons_self ..) rfl
  rw [prematch_split h.ids hsplit, h.bestLiveMatch_handle hwindow hfree]

end Known

end ContextSnap.Restore

namespace ContextSnap.SnapshotManager

open Hal (NullPlatformState onNullPlatform)
open Hal.NullPlatformState

/-! ### Capturing a desktop in memory -/

section Capture

variable {τ : Type} {others : (op : Hal.Op) → τ → Hal.Answer op × τ} {storage : Storage.Environment}
  {environment : Bytes → Option Bytes} {s : NullPlatformState} {α β : Type}

variable (others storage environment) in
/-- A process whose platform is in memory. -/
def headless : Surroundings (NullPlatformState × τ) where
  hal op state := some (onNullPlatform others op state)
  storage
  environment

variable (others storage environment s) in
/-- Whatever else there is, an action succeeds on the desktop and leaves it as it is. -/
def Yields (action : Action α) (post : α → Prop) : Prop :=
  ∀ t c, ∃ value t' c', action.run.run (handler (headless others storage environment)) ((s, t), c)
    = some (.ok value, ((s, t'), c')) ∧ post value

theorem yields_pure {post : α → Prop} {value : α} (h : post value) :
    Yields others storage environment s (pure value) post :=
  fun t c => ⟨value, t, c, rfl, h⟩

theorem Yields.bind {action : Action α} {next : α → Action β} {middle : α → Prop} {post : β → Prop}
    (h : Yields others storage environment s action middle)
    (hnext : ∀ value, middle value → Yields others storage environment s (next value) post) :
    Yields others storage environment s (action >>= next) post := by
  intro t c
  obtain ⟨value, t₁, c₁, hrun, hmiddle⟩ := h t c
  obtain ⟨result, t₂, c₂, hrest, hpost⟩ := hnext value hmiddle t₁ c₁
  exact ⟨result, t₂, c₂, (Program.run_except_bind_ok hrun).trans hrest, hpost⟩

theorem yields_getenv (name : Bytes) :
    Yields others storage environment s (getenv name) fun _ => True :=
  fun t c => ⟨environment name, t, c, rfl, trivial⟩

theorem yields_firstSet (names : List Bytes) :
    Yields others storage environment s (firstSet names) fun _ => True := by
  induction names with
  | nil => exact yields_pure trivial
  | cons name names ih =>
      refine (yields_getenv name).bind fun found _ => ?_
      split
      · exact yields_pure trivial
      · exact ih

theorem yields_freshUlid : Yields others storage environment s freshUlid fun _ => True :=
  fun t _ => ⟨_, t, _, rfl, trivial⟩

theorem yields_now : Yields others storage environment s now fun _ => True :=
  fun t _ => ⟨_, t, _, rfl, trivial⟩

/-! The windows of a capture. -/

/-- A window, and what is captured of it. -/
structure Pictured (window captured : WindowInfo) : Prop where
  same : captured = { window with
    restoredFrame := if window.restoredFrame.empty then window.frame else window.restoredFrame
    browserProfile := captured.browserProfile, tabs := captured.tabs }

variable (s) in
/-- The windows that a capture lets in. -/
def captured (options : CaptureOptions) : List WindowInfo :=
  s.windows.filter fun window => !isExcluded window options

theorem mem_captured {options : CaptureOptions} {window : WindowInfo} :
    window ∈ captured s options
      ↔ window ∈ s.windows ∧ isExcluded window options = false := by
  rw [captured, List.mem_filter, Bool.not_eq_true']

/-- A picture of the windows that the options let in, in their order. -/
structure Pictures (options : CaptureOptions) (s : NullPlatformState) (saved : Snapshot) : Prop where
  windows : List.Forall₂ Pictured (captured s options) saved.windows
  cursor : saved.cursor = s.cursor

theorem yields_completeWindow {window : WindowInfo} (h : window.id ≠ []) :
    Yields others storage environment s (completeWindow window) (Pictured window) := by
  have hid : windowId window = pure window.id := if_neg h
  rw [completeWindow, hid]
  have hpure : Yields others storage environment s (pure window.id) (· = window.id) :=
    yields_pure rfl
  exact hpure.bind fun id hid => yields_pure ⟨by rw [hid]⟩

theorem yields_completeWindows {windows : List WindowInfo} (h : ∀ window ∈ windows, window.id ≠ []) :
    Yields others storage environment s (windows.mapM completeWindow)
      (List.Forall₂ Pictured windows) := by
  induction windows with
  | nil => exact yields_pure .nil
  | cons window windows ih =>
      rw [List.forall_mem_cons] at h
      rw [List.mapM_cons]
      refine (yields_completeWindow h.1).bind fun captured hcaptured => ?_
      exact (ih h.2).bind fun rest hrest => yields_pure (.cons hcaptured hrest)

theorem yields_captureWindows (options : CaptureOptions) (h : ∀ window ∈ s.windows, window.id ≠ []) :
    Yields others storage environment s (captureWindows options)
      (List.Forall₂ Pictured (s.windows.filter fun window => !isExcluded window options)) := by
  have hasked : Yields others storage environment s (platformCall (Hal.enumerateWindows options))
      (· = s.enumerateWindows options) := fun t c => ⟨_, t, c, rfl, rfl⟩
  refine hasked.bind fun answer hanswer => ?_
  rw [hanswer, NullPlatformState.enumerateWindows]
  have hlisted : Yields others storage environment s (pure (s.windows.filter fun window =>
      options.includeMinimized || window.state ≠ .minimized)) (· = _) := yields_pure rfl
  refine hlisted.bind fun enumerated henumerated => ?_
  have hfilter : enumerated.filter (fun window => !isExcluded window options)
      = s.windows.filter fun window => !isExcluded window options := by
    rw [henumerated, List.filter_filter]
    refine List.filter_congr fun window _ => ?_
    rw [isExcluded]
    cases options.includeMinimized <;> simp +contextual
  rw [hfilter]
  exact yields_completeWindows fun window hwindow => h window (List.mem_of_mem_filter hwindow)

theorem Pictured.keeping {window captured after : WindowInfo} (h : Pictured window captured)
    (hafter : after = { captured with
      browserProfile := after.browserProfile, tabs := after.tabs }) : Pictured window after := by
  constructor
  rw [hafter, h.same]

theorem yields_captureTabs {manager : SnapshotManager} (options : CaptureOptions)
    {windows captured : List WindowInfo} (h : List.Forall₂ Pictured windows captured) :
    Yields others storage environment s (manager.captureTabs captured options)
      (List.Forall₂ Pictured windows) := by
  have hasked : Yields others storage environment s
      (platformCall (Hal.captureTabs options.browserTimeout true)) fun _ => True :=
    fun _ c => ⟨_, _, c, rfl, trivial⟩
  unfold captureTabs attachBrowserTabs
  split
  · split
    · exact yields_pure h
    · refine hasked.bind fun answer _ => ?_
      cases answer with
      | error e => exact yields_pure h
      | ok tabs =>
          apply yields_pure
          refine Browser.forall₂_trans ?_ h (attached_each options captured (some (.ok tabs)))
          exact fun window middle after hmiddle hafter => hmiddle.keeping hafter
  · exact yields_pure h

theorem yields_observe {manager : SnapshotManager} (options : CaptureOptions)
    (hplatform : manager.platform = s.platform) (h : ∀ window ∈ s.windows, window.id ≠ []) :
    Yields others storage environment s (manager.observe options) (Pictures options s) := by
  have hdisplays : Yields others storage environment s (platformCall Hal.enumerateDisplays)
      (· = s.enumerateDisplays) := fun t c => ⟨_, t, c, rfl, rfl⟩
  have hcursor : Yields others storage environment s manager.captureCursor (· = s.cursor) := by
    rw [captureCursor, hplatform]
    exact fun t c => ⟨_, t, c, rfl, rfl⟩
  have hworkspace : Yields others storage environment s manager.captureWorkspace fun _ => True := by
    unfold captureWorkspace
    split
    · exact fun t c => ⟨_, t, c, rfl, trivial⟩
    · exact yields_pure trivial
  refine hdisplays.bind fun answer hanswer => ?_
  rw [hanswer, NullPlatformState.enumerateDisplays]
  have hmonitors : Yields others storage environment s (pure s.monitors) fun _ => True :=
    yields_pure trivial
  refine hmonitors.bind fun monitors _ => ?_
  refine (yields_captureWindows options h).bind fun windows hwindows => ?_
  refine (yields_captureTabs options hwindows).bind fun found hfound => ?_
  refine hcursor.bind fun cursor hcursor => hworkspace.bind fun workspace _ => ?_
  exact yields_pure ⟨hfound, hcursor⟩

/-- **A capture of a desktop in memory succeeds.** It leaves the desktop as it is. -/
theorem yields_capture {manager : SnapshotManager} (options : CaptureOptions)
    (hplatform : manager.platform = s.platform) (h : ∀ window ∈ s.windows, window.id ≠ []) :
    Yields others storage environment s (manager.capture options) (Pictures options s) := by
  have hnow : Yields others storage environment s (platformCall Hal.steadyNow) fun _ => True :=
    fun _ c => ⟨_, _, c, rfl, trivial⟩
  have hmetadata : Yields others storage environment s manager.captureMetadata fun _ => True :=
    yields_freshUlid.bind fun _ _ => yields_now.bind fun _ _ =>
      (yields_firstSet _).bind fun _ _ => yields_pure trivial
  refine hnow.bind fun started _ => ?_
  refine (yields_observe options hplatform h).bind fun observed hobserved => ?_
  refine hmetadata.bind fun metadata _ => hnow.bind fun finished _ => yields_pure ?_
  constructor
  · have hwindows := sanitize_windows manager options { observed with metadata }
    change List.Forall₂ Pictured _ (manager.sanitize { observed with metadata } options).windows
    rw [hwindows, List.forall₂_map_right_iff]
    exact hobserved.windows.imp fun window captured hcaptured =>
      hcaptured.keeping (by rw [storedWindow_eq manager options captured])
  · exact (sanitize_rest manager options { observed with metadata }).2.trans hobserved.cursor

section Pictured

variable {options : CaptureOptions} {saved : Snapshot} {window picture : WindowInfo}

theorem Pictured.read {α : Type} {read : WindowInfo → α}
    (h : Pictured window picture)
    (hread : ∀ (window : WindowInfo) frame profile tabs, read { window with
      restoredFrame := frame, browserProfile := profile, tabs } = read window) :
    read picture = read window := by
  rw [h.same]
  exact hread ..

theorem Pictures.map_eq {α : Type} {read : WindowInfo → α} (h : Pictures options s saved)
    (hread : ∀ (window : WindowInfo) frame profile tabs, read { window with
      restoredFrame := frame, browserProfile := profile, tabs } = read window) :
    saved.windows.map read = (captured s options).map read := by
  have hsame : List.Forall₂ (fun window picture => read window = read picture)
      (captured s options) saved.windows :=
    h.windows.imp fun window picture hpicture => (Pictured.read hpicture hread).symm
  rw [← List.forall₂_eq_eq_eq, List.forall₂_map_left_iff, List.forall₂_map_right_iff]
  exact hsame.flip.imp fun _ _ heq => heq.symm

/-- Every window that is captured has its picture. -/
theorem Pictures.exists_picture (h : Pictures options s saved)
    (hwindow : window ∈ captured s options) :
    ∃ picture ∈ saved.windows, Pictured window picture := by
  obtain ⟨index, hindex, rfl⟩ := List.getElem_of_mem hwindow
  obtain ⟨hlength, heach⟩ := List.forall₂_iff_get.mp h.windows
  exact ⟨_, List.get_mem _ ⟨index, hlength ▸ hindex⟩, heach index hindex (hlength ▸ hindex)⟩

theorem Pictures.exists_window (h : Pictures options s saved)
    (hpicture : picture ∈ saved.windows) :
    ∃ window ∈ captured s options, Pictured window picture := by
  obtain ⟨index, hindex, rfl⟩ := List.getElem_of_mem hpicture
  obtain ⟨hlength, heach⟩ := List.forall₂_iff_get.mp h.windows
  exact ⟨_, List.get_mem _ ⟨index, hlength.symm ▸ hindex⟩,
    heach index (hlength.symm ▸ hindex) hindex⟩

end Pictured

end Capture

end ContextSnap.SnapshotManager

namespace ContextSnap.Restore

open Hal (NullPlatformState onNullPlatform)
open Hal.NullPlatformState
open SnapshotManager (Pictured Pictures captured headless handler isExcluded mem_captured)

/-! ### Capture, run, restore -/

section RoundTrip

variable {captureOptions : CaptureOptions} {options : RestoreOptions} {bridge : Bool}
  {s s' : NullPlatformState} {saved : Snapshot}

/-- A desktop whose windows are told apart by their handles and their ids, none of which is a key of
a pid, and which may be changed. -/
structure Addressed (s : NullPlatformState) : Prop where
  handles : (s.windows.map (·.nativeHandle)).Nodup
  ids : (s.windows.map (·.id)).Nodup
  named : ∀ window ∈ s.windows, window.id ≠ []
  keys : ∀ window ∈ s.windows, (∀ other ∈ s.windows, pidKey window.id ≠ other.id)
    ∧ s.cursor.focusedWindowId ≠ some (pidKey window.id)
  titles : ∀ window ∈ s.windows, window.title.length < 2 ^ 64
  pids : ∀ window ∈ s.windows, window.process.pid ≤ s.nextPid
  mutable : s.allowMutation = true

/-- The frame that is saved for a window. -/
def savedFrame (window : WindowInfo) : Rect :=
  if window.restoredFrame.empty then window.frame else window.restoredFrame

variable (options) in
/-- What a restore makes of a window that is still there. A plain state is never asked for. -/
def recalled (monitors : List MonitorInfo) (window current : WindowInfo) : WindowInfo :=
  { current with
    frame := clampToMonitors (savedFrame window) monitors
    restoredFrame := clampToMonitors (savedFrame window) monitors
    state := if window.state ≠ .normal then window.state else current.state
    workspaceId := if options.restoreWorkspaces ∧ window.workspaceId.isSome then window.workspaceId
      else current.workspaceId }

/-- A window that is still there is what it was, apart from its place. -/
theorem identity_of_follows {window current : WindowInfo} (h : Follows s s')
    (hhandles : (s.windows.map (·.nativeHandle)).Nodup) (hwindow : window ∈ s.windows)
    (hcurrent : current ∈ s'.windows) (heq : current.nativeHandle = window.nativeHandle) :
    identity current = identity window := by
  obtain ⟨old, hold, hsame⟩ := List.mem_map.mp (h.windows.subset (List.mem_map_of_mem hcurrent))
  have hhandle := (nativeHandle_of_identity hsame).trans heq
  rw [← hsame, List.inj_on_of_nodup_map hhandles hold hwindow hhandle]

theorem handles_of_follows (h : Follows s s') (hhandles : (s.windows.map (·.nativeHandle)).Nodup) :
    (s'.windows.map (·.nativeHandle)).Nodup := by
  have hsub := h.windows.map fun window : WindowInfo => window.nativeHandle
  rw [List.map_map, List.map_map] at hsub
  exact hhandles.sublist hsub

/-- The windows of a picture are known again on every desktop that follows. -/
theorem knows_of_pictures (h : Pictures captureOptions s saved) (hs : Addressed s)
    (hfollows : Follows s s') (hapart : ToldApart (captured s captureOptions) s'.windows) :
    Knows saved.windows s'.windows where
  ids := by
    rw [h.map_eq fun _ _ _ _ => rfl]
    exact hs.ids.sublist (List.filter_sublist.map _)
  handles := by
    rw [h.map_eq fun _ _ _ _ => rfl]
    exact hs.handles.sublist (List.filter_sublist.map _)
  liveHandles := handles_of_follows hfollows hs.handles
  same := by
    intro picture hpicture own hown heq
    obtain ⟨window, hwindow, hpictured⟩ := h.exists_window hpicture
    rw [hpictured.same] at heq ⊢
    have hsame := identity_of_follows hfollows hs.handles (mem_captured.mp hwindow).1 hown heq
    exact ⟨congrArg (·.title) hsame, congrArg (·.process) hsame⟩
  titles := by
    intro picture hpicture
    obtain ⟨window, hwindow, hpictured⟩ := h.exists_window hpicture
    rw [hpictured.same]
    exact hs.titles window (mem_captured.mp hwindow).1
  apart := by
    intro picture hpicture candidate hcandidate
    obtain ⟨window, hwindow, hpictured⟩ := h.exists_window hpicture
    rw [hpictured.same]
    exact hapart window hwindow candidate hcandidate

theorem restorable_of_pictures {calls : List Mutation} (h : Pictures captureOptions s saved)
    (hs : Addressed s) (hroom : s.nextPid.toNat + calls.length + s.windows.length < 2 ^ 64) :
    Restorable saved (s.run calls) := by
  have hfollows := @follows_run s calls
  have hpids := @toNat_nextPid_run s calls (by omega)
  have hcaptured : ∀ window ∈ captured s captureOptions, window ∈ s.windows :=
    fun window hwindow => (mem_captured.mp hwindow).1
  constructor
  · rw [h.map_eq fun _ _ _ _ => rfl]
    exact hs.ids.sublist (List.filter_sublist.map _)
  · intro picture hpicture
    obtain ⟨window, hwindow, hpictured⟩ := h.exists_window hpicture
    have hid : picture.id = window.id := Pictured.read hpictured fun _ _ _ _ => rfl
    rw [hid, h.cursor]
    refine ⟨fun picture' hpicture' => ?_, (hs.keys window (hcaptured window hwindow)).2⟩
    obtain ⟨window', hwindow', hpictured'⟩ := h.exists_window hpicture'
    have hid' : picture'.id = window'.id := Pictured.read hpictured' fun _ _ _ _ => rfl
    rw [hid']
    exact (hs.keys window (hcaptured window hwindow)).1 window' (hcaptured window' hwindow')
  · exact handles_of_follows hfollows hs.handles
  · exact hfollows.allowMutation.trans hs.mutable
  · intro native hnative
    obtain ⟨old, hold, hsame⟩ := List.mem_map.mp
      (hfollows.windows.subset (List.mem_map_of_mem hnative))
    have hprocess : old.process = native.process := congrArg (·.process) hsame
    rw [← hprocess]
    exact UInt64.le_trans (hs.pids old hold) hpids.1
  · have hlength : saved.windows.length ≤ s.windows.length := by
      rw [← h.windows.length_eq]
      exact List.length_filter_le ..
    omega

/-- A window that is still there is driven for its picture. -/
theorem driven_of_knows (h : Knows saved.windows s.windows) (hall : options.selectors = [])
    {picture own : WindowInfo} (hpicture : picture ∈ saved.windows) (hown : own ∈ s.windows)
    (hhandle : own.nativeHandle = picture.nativeHandle) :
    (picture, own.nativeHandle) ∈ driven (restoringContext s saved options bridge)
      (prematch saved.windows s.windows) (restoringItems s saved options) := by
  have hselected : picture ∈ saved.windows.filter (selectorMatches · options.selectors) := by
    rw [hall]
    exact List.mem_filter.mpr ⟨hpicture, rfl⟩
  rw [← map_decided options s.windows saved.windows []] at hselected
  obtain ⟨item, hitem, rfl⟩ := List.mem_map.mp hselected
  have hmatch : prematch saved.windows s.windows item.1.id = some own.nativeHandle := by
    rw [h.prematch hpicture, if_pos (hhandle ▸ List.mem_map_of_mem hown), hhandle]
  have hfound : item.2 = true := by
    rw [decided_prematch options h.ids hall hitem, hmatch, Option.isSome_some]
  refine List.mem_filterMap.mpr ⟨item, hitem, ?_⟩
  rw [target, if_pos (.inl hfound), hmatch, Option.map_some]

variable (captureOptions options) in
/-- The windows that a capture of `s` let in are back where they were, `s'` being the desktop between
the capture and the restore. -/
structure Back (s s' last : NullPlatformState) : Prop where
  handles : last.windows.map (·.nativeHandle) = s'.windows.map (·.nativeHandle)
  windows : ∀ window ∈ captured s captureOptions, ∀ current ∈ s'.windows, ∀ now ∈ last.windows,
    current.nativeHandle = window.nativeHandle → now.nativeHandle = window.nativeHandle →
    unstacked now = unstacked (recalled options s.monitors window current)
      ∧ (OnScreen (savedFrame window) s.monitors → now.frame = savedFrame window)
  stack : options.restoreZOrder = true → ∀ lower ∈ captured s captureOptions,
    ∀ upper ∈ captured s captureOptions, lower.zOrder < upper.zOrder →
    ∀ x ∈ last.windows, ∀ y ∈ last.windows, x.nativeHandle = lower.nativeHandle →
      y.nativeHandle = upper.nativeHandle → x.zOrder < y.zOrder
  focus : options.restoreFocus = true → ∀ window ∈ captured s captureOptions,
    s.cursor.focusedWindowId = some window.id →
    window.nativeHandle ∈ s'.windows.map (·.nativeHandle) →
    (∀ now ∈ last.windows, now.focused = true ↔ now.nativeHandle = window.nativeHandle)
      ∧ last.cursor.focusedWindowId = some window.id
      ∧ (options.restoreCursor = true → last.cursor.x = s.cursor.x ∧ last.cursor.y = s.cursor.y)

variable {τ : Type} (others : (op : Hal.Op) → τ → Hal.Answer op × τ)

section Last

variable {last : NullPlatformState} (t : τ)

theorem back_windows (h : Restorable saved s') (hknows : Knows saved.windows s'.windows)
    (hpictures : Pictures captureOptions s saved) (hmonitors : s'.monitors = s.monitors)
    (hall : options.selectors = []) {window current now : WindowInfo}
    (hwindow : window ∈ captured s captureOptions) (hcurrent : current ∈ s'.windows)
    (hnow : now ∈ ((restoring s' saved options bridge).trace (onNullPlatform others)
      (s', t)).2.2.1.windows)
    (hthere : current.nativeHandle = window.nativeHandle)
    (hsame : now.nativeHandle = window.nativeHandle) :
    unstacked now = unstacked (recalled options s.monitors window current) := by
  obtain ⟨picture, hpicture, hpictured⟩ := hpictures.exists_picture hwindow
  have hhandle : picture.nativeHandle = window.nativeHandle := hpictured.read fun _ _ _ _ => rfl
  have hdriven := @driven_of_knows options bridge _ _ hknows hall _ _ hpicture hcurrent
    (hthere.trans hhandle.symm)
  rw [arranged_last others options bridge h t hcurrent hnow (hsame.trans hthere.symm),
    arranged_of_driven (driven_nodup options bridge h) hdriven, hpictured.same, ← hmonitors]
  rfl

/-- The pre-match knows every window of the snapshot that is there again by its own handle. -/
theorem prematch_picture (hknows : Knows saved.windows s'.windows) {picture : WindowInfo}
    {handle : UInt64} (hpicture : picture ∈ saved.windows) :
    prematch saved.windows s'.windows picture.id = some handle
      ↔ handle = picture.nativeHandle ∧ handle ∈ s'.windows.map (·.nativeHandle) := by
  rw [hknows.prematch hpicture]
  constructor
  · intro h
    split_ifs at h with hthere
    obtain rfl := Option.some.inj h
    exact ⟨rfl, hthere⟩
  · rintro ⟨rfl, hthere⟩
    exact if_pos hthere

theorem back_stack (h : Restorable saved s') (hknows : Knows saved.windows s'.windows)
    (hpictures : Pictures captureOptions s saved)
    (hhandles : (s.windows.map (·.nativeHandle)).Nodup) (hall : options.selectors = [])
    (hrestore : options.restoreZOrder = true)
    (hroom : s'.top.toInt + saved.windows.length < 2 ^ 31) {lower upper x y : WindowInfo}
    (hlower : lower ∈ captured s captureOptions) (hupper : upper ∈ captured s captureOptions)
    (hlt : lower.zOrder < upper.zOrder)
    (hx : x ∈ ((restoring s' saved options bridge).trace (onNullPlatform others)
      (s', t)).2.2.1.windows)
    (hy : y ∈ ((restoring s' saved options bridge).trace (onNullPlatform others)
      (s', t)).2.2.1.windows)
    (hxhandle : x.nativeHandle = lower.nativeHandle)
    (hyhandle : y.nativeHandle = upper.nativeHandle) : x.zOrder < y.zOrder := by
  have hselected : ∀ picture ∈ saved.windows, picture ∈ raiseOrder options saved.windows :=
    fun picture hpicture => mem_raiseOrder.mpr ⟨hpicture, by rw [hall]; rfl⟩
  have hsame : ∀ a ∈ captured s captureOptions, ∀ b ∈ captured s captureOptions,
      a.nativeHandle = b.nativeHandle → a = b := fun a ha b hb =>
    List.inj_on_of_nodup_map hhandles (mem_captured.mp ha).1 (mem_captured.mp hb).1
  obtain ⟨picture, hpicture, hpictured⟩ := hpictures.exists_picture hupper
  have hhandle : picture.nativeHandle = upper.nativeHandle := hpictured.read fun _ _ _ _ => rfl
  have hz : picture.zOrder = upper.zOrder := hpictured.read fun _ _ _ _ => rfl
  have hthere : y.nativeHandle ∈ s'.windows.map (·.nativeHandle) :=
    handles_last others options bridge h t ▸ List.mem_map_of_mem hy
  obtain ⟨front, back, hsplit, hback⟩ := @raisedHandles_split
    (restoringContext s' saved options bridge) _ _ _ (hselected picture hpicture)
    ((prematch_picture hknows hpicture).mpr ⟨hyhandle.trans hhandle.symm, hthere⟩)
  refine zOrder_lt_last others options bridge h hrestore hroom t hx hy hsplit fun hbehind => ?_
  rcases List.mem_cons.mp hbehind with hself | hbehind
  · obtain rfl := hsame lower hlower upper hupper (hxhandle.symm.trans (hself.trans hyhandle))
    exact Int32.lt_irrefl hlt
  · obtain ⟨other, hmem, hfound, hle⟩ := hback _ hbehind
    have hother := (mem_raiseOrder.mp hmem).1
    obtain ⟨window, hwindow, hpictured'⟩ := hpictures.exists_window hother
    have hhandle' : other.nativeHandle = window.nativeHandle :=
      hpictured'.read fun _ _ _ _ => rfl
    have hz' : other.zOrder = window.zOrder := hpictured'.read fun _ _ _ _ => rfl
    obtain rfl := hsame window hwindow lower hlower
      (hhandle'.symm.trans (((prematch_picture hknows hother).mp hfound).1.symm.trans hxhandle))
    rw [hz, hz'] at hle
    exact Int32.not_lt.mpr hle hlt

theorem back_focus (h : Restorable saved s') (hknows : Knows saved.windows s'.windows)
    (hpictures : Pictures captureOptions s saved) (hmonitors : s'.monitors = s.monitors)
    (hfollows : Follows s s') (hhandles : (s.windows.map (·.nativeHandle)).Nodup)
    (hall : options.selectors = []) (hfocus : options.restoreFocus = true) {window : WindowInfo}
    (hwindow : window ∈ captured s captureOptions)
    (hcursor : s.cursor.focusedWindowId = some window.id)
    (hthere : window.nativeHandle ∈ s'.windows.map (·.nativeHandle)) :
    let last := ((restoring s' saved options bridge).trace (onNullPlatform others) (s', t)).2.2.1
    (∀ now ∈ last.windows, now.focused = true ↔ now.nativeHandle = window.nativeHandle)
      ∧ last.cursor.focusedWindowId = some window.id
      ∧ (options.restoreCursor = true →
        last.cursor.x = s.cursor.x ∧ last.cursor.y = s.cursor.y) := by
  intro last
  obtain ⟨picture, hpicture, hpictured⟩ := hpictures.exists_picture hwindow
  have hhandle : picture.nativeHandle = window.nativeHandle := hpictured.read fun _ _ _ _ => rfl
  have hid : picture.id = window.id := hpictured.read fun _ _ _ _ => rfl
  have hmatch := (prematch_picture hknows hpicture).mpr ⟨hhandle.symm, hthere⟩
  obtain ⟨current, hcurrent, hcurrentHandle⟩ := List.mem_map.mp hthere
  obtain ⟨pointed, target, htarget, htargetHandle, hpointed, hlast, hpointer⟩ :=
    focused_last others options bridge h hfocus (hpictures.cursor ▸ hid ▸ hcursor) hmatch t
  rw [← htargetHandle] at hlast
  have hnow : withFocus true target ∈ last.windows := by
    simp only [last]
    rw [hlast]
    exact mem_changed_focused hpointed htarget
  have hback := back_windows others t h hknows hpictures hmonitors hall hwindow hcurrent hnow
    hcurrentHandle htargetHandle
  have htargetId : target.id = current.id := congrArg (·.id) hback
  have hcurrentId : current.id = window.id := id_of_identity
    (identity_of_follows hfollows hhandles (mem_captured.mp hwindow).1 hcurrent hcurrentHandle)
  simp only [last]
  rw [hlast, htargetHandle]
  refine ⟨fun now hnow => focused_changed hpointed hnow, ?_, fun hrestore => ?_⟩
  · exact congrArg some (htargetId.trans hcurrentId)
  · rw [← hpictures.cursor]
    exact hpointer hrestore

end Last

variable {storage : Storage.Environment} {environment : Bytes → Option Bytes}

/-- **Back to the snapshot.** A capture of a desktop succeeds, and whatever is done to the desktop
then, a restore of what was captured puts the windows that are still there back where they were. -/
theorem capture_restoring {manager : SnapshotManager} (captureOptions : CaptureOptions)
    (options : RestoreOptions) (bridge : Bool) (h : Addressed s)
    (hplatform : manager.platform = s.platform) (hall : options.selectors = []) (t : τ)
    (c : Storage.Connection) :
    ∃ saved t' c',
      (manager.capture captureOptions).run.run (handler (headless others storage environment))
          ((s, t), c) = some (.ok saved, ((s, t'), c'))
      ∧ ∀ (calls : List Mutation) (t : τ),
        s.nextPid.toNat + calls.length + s.windows.length < 2 ^ 64 →
        (s.run calls).top.toInt + s.windows.length < 2 ^ 31 →
        ToldApart (captured s captureOptions) (s.run calls).windows →
        Back captureOptions options s (s.run calls) ((restoring (s.run calls) saved options
          bridge).trace (onNullPlatform others) (s.run calls, t)).2.2.1 := by
  obtain ⟨saved, t', c', hrun, hpictures⟩ :=
    SnapshotManager.yields_capture captureOptions hplatform h.named t c
  refine ⟨saved, t', c', hrun, fun calls t hroom htop hapart => ?_⟩
  have hfollows := @follows_run s calls
  have hknows := knows_of_pictures hpictures h hfollows hapart
  have hrestorable := restorable_of_pictures hpictures h hroom
  have hlength : saved.windows.length ≤ s.windows.length :=
    hpictures.windows.length_eq ▸ List.length_filter_le ..
  constructor
  · exact handles_last others options bridge hrestorable t
  · intro window hwindow current hcurrent now hnow hthere hsame
    have hback := back_windows others t hrestorable hknows hpictures hfollows.monitors hall hwindow
      hcurrent hnow hthere hsame
    refine ⟨hback, fun honScreen => ?_⟩
    have hframe : now.frame = clampToMonitors (savedFrame window) s.monitors :=
      congrArg (·.frame) hback
    rw [hframe, clampToMonitors_of_onScreen honScreen]
  · intro hrestore lower hlower upper hupper hlt x hx y hy hxhandle hyhandle
    exact back_stack others t hrestorable hknows hpictures h.handles hall hrestore (by omega) hlower
      hupper hlt hx hy hxhandle hyhandle
  · intro hfocus window hwindow hcursor hthere
    exact back_focus others t hrestorable hknows hpictures hfollows.monitors hfollows h.handles hall
      hfocus hwindow hcursor hthere

/-- Two windows of one app. -/
def editorsState : NullPlatformState :=
  { Hal.sampleNullState (str "editor") (str "browser") with
    windows := [Hal.sampleEditor (str "editor"),
      { Hal.sampleEditor (str "notes") with
        nativeHandle := 1003, title := str "notes.md", zOrder := 2, focused := false }] }

/-- The windows change places. -/
def editorsCalls : List Mutation :=
  [.setFrame 1001 { x := 5, y := 7, width := 640, height := 480 }, .setState 1003 .minimized,
    .focus 1003, .raise 1001]

theorem addressed_editorsState : Addressed editorsState where
  handles := by decide
  ids := by decide
  named := by decide
  keys := by decide
  titles := by decide
  pids := by decide
  mutable := rfl

theorem toldApart_editorsState :
    ToldApart (captured editorsState {}) (editorsState.run editorsCalls).windows := by
  unfold ToldApart
  decide +kernel

theorem capture_restoring_editorsState :
    ∃ saved t' c',
      (SnapshotManager.capture { platform := editorsState.platform } {}).run.run
          (handler (headless (obliging (.ok [])) {} fun _ => none))
          ((editorsState, ()), { tables := fun _ => [] })
        = some (.ok saved, ((editorsState, t'), c'))
      ∧ Back {} {} editorsState (editorsState.run editorsCalls)
        ((restoring (editorsState.run editorsCalls) saved {} false).trace
          (onNullPlatform (obliging (.ok []))) (editorsState.run editorsCalls, ())).2.2.1 := by
  obtain ⟨saved, t', c', hrun, hback⟩ := @capture_restoring editorsState Unit (obliging (.ok [])) {}
    (fun _ => none) { platform := editorsState.platform } {} {} false addressed_editorsState rfl rfl
    () { tables := fun _ => [] }
  exact ⟨saved, t', c', hrun, hback editorsCalls () (by decide) (by decide) toldApart_editorsState⟩

end RoundTrip

end ContextSnap.Restore
