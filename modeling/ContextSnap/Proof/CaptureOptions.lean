import ContextSnap.Proof.BrowserTabs
import ContextSnap.Proof.CaptureRuns

/-!
# What a capture makes of its options

Which options reach the snapshot, which windows its references name, and which tabs the URL patterns
keep out of it. Each result compares a snapshot with what the platform and the browser told.
-/

namespace ContextSnap.SnapshotManager

open Browser (TabCapture)
open Privacy (Sanitizer globMatch)
open Program (Event)

variable {σ : Type} {around : Surroundings σ} {state state' : σ × Storage.Connection}
  {events : List (Event Op Answer)} {manager : SnapshotManager} {options : CaptureOptions}
  {snapshot : Snapshot} {sight : Sighting}

/-! ### Windows -/

/-- A window that the options let in. -/
def LetsIn (options : CaptureOptions) (window : WindowInfo) : Prop :=
  (options.includeMinimized = true ∨ window.state ≠ .minimized)
    ∧ ∀ pattern ∈ options.excludedAppIds,
      globMatch pattern window.process.appId = false
        ∧ globMatch pattern window.process.executablePath = false

theorem isExcluded_eq_false {window : WindowInfo} :
    isExcluded window options = false ↔ LetsIn options window := by
  simp [isExcluded, LetsIn, or_iff_not_imp_left]

instance : DecidablePred (LetsIn options) := fun _ => decidable_of_iff _ isExcluded_eq_false

theorem filter_letsIn (windows : List WindowInfo) :
    windows.filter (fun window => decide (LetsIn options window))
      = windows.filter fun window => !isExcluded window options := by
  apply List.filter_congr
  intro window _
  cases hexcluded : isExcluded window options with
  | false => exact decide_eq_true (isExcluded_eq_false.mp hexcluded)
  | true =>
      apply decide_eq_false
      intro hletsIn
      exact Bool.false_ne_true ((isExcluded_eq_false.mpr hletsIn).symm.trans hexcluded)

/-- One window, as it was listed and as it is captured. -/
structure SameWindow (window captured : WindowInfo) : Prop where
  same : captured = { window with
    id := captured.id, restoredFrame := captured.restoredFrame
    browserProfile := captured.browserProfile, tabs := captured.tabs }
  keeps : window.id ≠ [] → captured.id = window.id

theorem attached_each (options : CaptureOptions) (windows : List WindowInfo)
    (told : Option (Result TabCapture)) :
    List.Forall₂ (fun window after => after =
        { window with browserProfile := after.browserProfile, tabs := after.tabs })
      windows (attached options windows told) := by
  have hrefl : List.Forall₂ (fun window after : WindowInfo => after =
      { window with browserProfile := after.browserProfile, tabs := after.tabs }) windows windows :=
    List.forall₂_same.mpr fun _ _ => rfl
  rcases told with _ | _ | captured
  · exact hrefl
  · exact hrefl
  · exact (Browser.attachTabsToWindows_each _ windows).imp fun _ _ h => h.same

theorem Sees.each (h : Sees manager options events snapshot sight) :
    List.Forall₂ SameWindow
      (sight.enumerated.filter fun window => decide (LetsIn options window)) snapshot.windows := by
  rw [filter_letsIn, h.windows, List.forall₂_map_right_iff]
  refine Browser.forall₂_trans ?_ h.completed.each (attached_each options sight.windows sight.tabs)
  intro window completed after hcompletes hafter
  have hstored := storedWindow_eq manager options after
  constructor
  · rw [hstored, hafter, hcompletes.same]
  · intro hne
    rw [hstored, hafter]
    exact hcompletes.keeps hne

/-! ### The options of a capture -/

/-- A snapshot that is what its options ask for. -/
structure Honours (options : CaptureOptions) (events : List (Event Op Answer))
    (snapshot : Snapshot) : Prop where
  name : snapshot.metadata.name = options.name
  tags : snapshot.metadata.tags = options.tags
  automatic : snapshot.metadata.automatic = options.automatic
  cursor : options.includeCursor = false → snapshot.cursor = {}
  windows : ∃ enumerated, Told events (.enumerateWindows options) (.ok enumerated)
    ∧ List.Forall₂ SameWindow (enumerated.filter fun window => decide (LetsIn options window))
      snapshot.windows

theorem capture_record {run : Option (List (Event Op Answer) × Result Snapshot
      × Unit × Storage.Connection)}
    (h : run.any (fun outcome => outcome.2.1.toOption.isSome) = true) :
    ∃ events snapshot state', run = some (events, .ok snapshot, state') := by
  obtain ⟨⟨events, result, state'⟩, hrun, hok⟩ := (Option.any_eq_true _ _).mp h
  cases result with
  | error e => cases hok
  | ok snapshot => exact ⟨events, snapshot, state', hrun⟩

/-- A capture with a name. -/
def fixtureOptions : CaptureOptions := { name := str "fixture", includeTabs := false }

theorem capture_fixture :
    ∃ events snapshot state', (keepsOne.capture fixtureOptions).run.record (handler oneSecond)
      ((), Storage.emptyConnection) = some (events, .ok snapshot, state') :=
  capture_record (by decide)

/-- A snapshot whose references name what is in it. -/
structure RefersWell (snapshot : Snapshot) : Prop where
  distinct : (snapshot.windows.map (·.id)).Nodup
  named : ∀ window ∈ snapshot.windows, window.id ≠ []
  monitors : ∀ window ∈ snapshot.windows, ∃ monitor ∈ snapshot.monitors,
    monitor.id = window.monitorId
  focused : ∀ id, snapshot.cursor.focusedWindowId = some id →
    ∃ window ∈ snapshot.windows, window.id = id

/-- A platform whose answers fit together. -/
structure Consistent (options : CaptureOptions) (events : List (Event Op Answer)) : Prop where
  distinct : ∀ windows, Told events (.enumerateWindows options) (.ok windows) → DistinctIds windows
  monitors : ∀ monitors windows, Told events .enumerateDisplays (.ok monitors) →
    Told events (.enumerateWindows options) (.ok windows) →
    ∀ window ∈ windows, ∃ monitor ∈ monitors, monitor.id = window.monitorId
  focused : ∀ windows cursor id, Told events (.enumerateWindows options) (.ok windows) →
    Told events .queryCursor (.ok cursor) → cursor.focusedWindowId = some id →
    ∃ window ∈ windows, window.id = id

/-- The ids that were made are different, and no window of the platform has one of them. -/
structure FreshIds (options : CaptureOptions) (events : List (Event Op Answer)) : Prop where
  distinct : (freshIds events).Nodup
  unused : ∀ windows, Told events (.enumerateWindows options) (.ok windows) →
    ∀ id ∈ freshIds events, ∀ window ∈ windows, window.id ≠ id

/-- The window that the cursor is said to be in has an id, and the options let it in. -/
def FocusKept (options : CaptureOptions) (events : List (Event Op Answer)) : Prop :=
  ∀ windows cursor id, Told events (.enumerateWindows options) (.ok windows) →
    Told events .queryCursor (.ok cursor) → cursor.focusedWindowId = some id →
    id ≠ [] ∧ ∃ window ∈ windows, window.id = id ∧ LetsIn options window

theorem Sees.ids (h : Sees manager options events snapshot sight) :
    snapshot.windows.map (·.id) = sight.windows.map (·.id) := by
  have hids : (attached options sight.windows sight.tabs).map (·.id) = sight.windows.map (·.id) := by
    rw [← List.forall₂_eq_eq_eq, List.forall₂_map_left_iff, List.forall₂_map_right_iff]
    exact (attached_each options sight.windows sight.tabs).flip.imp
      fun after window hafter => congrArg WindowInfo.id hafter
  rw [h.windows, List.map_map, ← hids]
  apply List.map_congr_left
  intro window _
  change (manager.storedWindow options window).id = window.id
  rw [storedWindow_eq]

/-- The id of a window in the snapshot is new, or that of a window that was let in. -/
theorem Sees.id_cases (h : Sees manager options events snapshot sight) {captured : WindowInfo}
    (hcaptured : captured ∈ snapshot.windows) :
    captured.id ∈ freshIds events
      ∨ captured.id ≠ [] ∧ ∃ window ∈ sight.enumerated, window.id = captured.id
        ∧ LetsIn options window := by
  have hmem : captured.id ∈ sight.windows.map (·.id) :=
    h.ids ▸ List.mem_map_of_mem hcaptured
  obtain ⟨completed, hcompleted, hid⟩ := List.mem_map.mp hmem
  rw [← hid]
  rcases h.completed.ids completed hcompleted with hfresh | ⟨hne, window, hwindow, hsame⟩
  · exact .inl (h.fresh.subset hfresh)
  · rw [← filter_letsIn, List.mem_filter, decide_eq_true_eq] at hwindow
    exact .inr ⟨hne, window, hwindow.1, hsame, hwindow.2⟩

theorem Told.answer {op : Hal.Op} {answer : Hal.Answer op} {run : Action Snapshot}
    {result : Result Snapshot} (htold : Told events op answer)
    (h : run.run.record (handler around) state = some (events, result, state')) :
    ∃ s s', around.hal op s = some (answer, s') := by
  obtain ⟨before, after, hanswer⟩ := Program.handler_of_mem_record h _ htold
  obtain ⟨⟨found, s'⟩, hfound, heq⟩ := Option.map_eq_some_iff.mp hanswer
  cases heq
  exact ⟨before.1, s', hfound⟩

section References

variable (hulids : MakesUlids around.storage)
  (h : (manager.capture options).run.record (handler around) state
    = some (events, .ok snapshot, state'))

include hulids h in
theorem freshIds_ne_nil : ∀ id ∈ freshIds events, id ≠ [] := by
  intro id hid
  obtain ⟨⟨op, answer⟩, hevent, hsome⟩ := List.mem_filterMap.mp hid
  obtain ⟨before, after, hanswer⟩ := Program.handler_of_mem_record h _ hevent
  rcases op with _ | _ | op | _
  · cases hsome
  · cases hsome
  · cases op with
    | generateUlid =>
        cases hsome
        cases hanswer
        exact hulids.ne_nil _
    | _ => cases hsome
  · cases hsome

include hulids h in
/-- **References.** The snapshot of a consistent platform has no dangling references exactly when the
window that the cursor is in is not left out. -/
theorem capture_refersWell_iff (hconsistent : Consistent options events)
    (hfresh : FreshIds options events) : RefersWell snapshot ↔ FocusKept options events := by
  obtain ⟨sight, hsees⟩ := capture_sees h
  have hwindows := (hsees.enumeration _).mpr rfl
  constructor
  · intro hrefers windows cursor id hwindows' hcursor hid
    cases (hsees.enumeration _).mp hwindows'
    replace hcursor := (hsees.toldCursor _).mp hcursor
    have hfocused : snapshot.cursor.focusedWindowId = some id := by
      rw [hsees.cursor, hcursor]
      exact hid
    obtain ⟨captured, hcaptured, rfl⟩ := hrefers.focused id hfocused
    rcases hsees.id_cases hcaptured with hnew | hkept
    · obtain ⟨window, hwindow, hsame⟩ := hconsistent.focused _ cursor _ hwindows
        ((hsees.toldCursor _).mpr hcursor) hid
      exact absurd hsame (hfresh.unused _ hwindows _ hnew window hwindow)
    · exact hkept
  · intro hkept
    constructor
    · rw [hsees.ids]
      apply hsees.completed.distinct
      · exact (hconsistent.distinct _ hwindows).sublist List.filter_sublist
      · exact hfresh.distinct.sublist hsees.fresh
      · intro id hid window hwindow
        exact hfresh.unused _ hwindows id (hsees.fresh.subset hid) window
          (List.mem_filter.mp hwindow).1
    · intro captured hcaptured
      rcases hsees.id_cases hcaptured with hnew | ⟨hne, -⟩
      · exact freshIds_ne_nil hulids h _ hnew
      · exact hne
    · intro captured hcaptured
      obtain ⟨window, hwindow, hsame⟩ := Browser.forall₂_mem_right hsees.each hcaptured
      rw [hsees.monitors, hsame.same]
      exact hconsistent.monitors _ _ ((hsees.displays _).mpr rfl) hwindows window
        (List.mem_filter.mp hwindow).1
    · intro id hid
      rw [hsees.cursor] at hid
      rcases htold : sight.cursor with _ | _ | cursor
      · rw [htold] at hid
        cases hid
      · rw [htold] at hid
        cases hid
      · rw [htold] at hid
        obtain ⟨hne, window, hwindow, rfl, hletsIn⟩ :=
          hkept _ cursor id hwindows ((hsees.toldCursor _).mpr htold) hid
        have hfiltered : window ∈ sight.enumerated.filter
            fun window => decide (LetsIn options window) :=
          List.mem_filter.mpr ⟨hwindow, decide_eq_true hletsIn⟩
        obtain ⟨captured, hcaptured, hsame⟩ := Browser.forall₂_mem_right hsees.each.flip hfiltered
        exact ⟨captured, hcaptured, hsame.keeps hne⟩

end References

/-- Two windows, of which the one with the cursor is minimized. -/
def focusWindows : List WindowInfo :=
  [{ id := str "w1", monitorId := str "m1", state := .minimized },
    { id := str "w2", monitorId := str "m1" }]

def focusDesk : Surroundings Unit where
  hal := fun op s =>
    match op with
    | .enumerateDisplays => some ((.ok [{ id := str "m1" }] : Result (List MonitorInfo)), s)
    | .enumerateWindows _ => some ((.ok focusWindows : Result (List WindowInfo)), s)
    | .queryCursor => some ((.ok { focusedWindowId := str "w1" } : Result CursorState), s)
    | .steadyNow => some ((0 : Int64), s)
    | _ => none
  storage := oneSecond.storage

def seesCursor : SnapshotManager := { platform := { capabilities := { cursorQuery := true } } }

def withoutMinimized : CaptureOptions := { includeMinimized := false }

theorem capture_focus :
    ∃ events snapshot state', (seesCursor.capture withoutMinimized).run.record (handler focusDesk)
        ((), Storage.emptyConnection) = some (events, .ok snapshot, state')
      ∧ Consistent withoutMinimized events ∧ FreshIds withoutMinimized events
      ∧ snapshot.cursor.focusedWindowId = some (str "w1")
      ∧ snapshot.windows.map (·.id) = [str "w2"] := by
  have hrun : ∃ events snapshot state', (seesCursor.capture withoutMinimized).run.record
      (handler focusDesk) ((), Storage.emptyConnection) = some (events, .ok snapshot, state')
      ∧ (freshIds events).Nodup
      ∧ (∀ id ∈ freshIds events, ∀ window ∈ focusWindows, window.id ≠ id)
      ∧ snapshot.cursor.focusedWindowId = some (str "w1")
      ∧ snapshot.windows.map (·.id) = [str "w2"] :=
    ⟨_, _, _, rfl, by decide, by decide, rfl, rfl⟩
  obtain ⟨events, snapshot, state', h, hnodup, hunused, hfocused, hids⟩ := hrun
  refine ⟨events, snapshot, state', h, ?_, ⟨hnodup, ?_⟩, hfocused, hids⟩
  · constructor
    · intro windows hwindows
      obtain ⟨s, s', hanswer⟩ := hwindows.answer h
      cases hanswer
      unfold DistinctIds
      decide
    · intro monitors windows hmonitors hwindows
      obtain ⟨s₁, s₁', hmonitors⟩ := hmonitors.answer h
      obtain ⟨s₂, s₂', hwindows⟩ := hwindows.answer h
      cases hmonitors
      cases hwindows
      decide
    · intro windows cursor id hwindows hcursor hid
      obtain ⟨s₁, s₁', hcursor⟩ := hcursor.answer h
      obtain ⟨s₂, s₂', hwindows⟩ := hwindows.answer h
      cases hcursor
      cases hwindows
      cases hid
      decide
  · intro windows hwindows
    obtain ⟨s, s', hanswer⟩ := hwindows.answer h
    cases hanswer
    exact hunused

theorem capture_refersWell_iff_focus :
    ∃ events snapshot state', (seesCursor.capture withoutMinimized).run.record (handler focusDesk)
        ((), Storage.emptyConnection) = some (events, .ok snapshot, state')
      ∧ MakesUlids focusDesk.storage ∧ Consistent withoutMinimized events
      ∧ FreshIds withoutMinimized events
      ∧ (RefersWell snapshot ↔ FocusKept withoutMinimized events) := by
  obtain ⟨events, snapshot, state', h, hconsistent, hfresh, -⟩ := capture_focus
  have hulids : MakesUlids focusDesk.storage := oneSecond_ulids
  exact ⟨events, snapshot, state', h, hulids, hconsistent, hfresh,
    capture_refersWell_iff hulids h hconsistent hfresh⟩

/-- The window of the cursor is left out. -/
theorem not_capture_refersWell :
    ∃ events snapshot state', (seesCursor.capture withoutMinimized).run.record (handler focusDesk)
        ((), Storage.emptyConnection) = some (events, .ok snapshot, state')
      ∧ Consistent withoutMinimized events ∧ FreshIds withoutMinimized events
      ∧ ¬RefersWell snapshot := by
  obtain ⟨events, snapshot, state', h, hconsistent, hfresh, hfocused, hids⟩ := capture_focus
  refine ⟨events, snapshot, state', h, hconsistent, hfresh, ?_⟩
  intro hrefers
  obtain ⟨window, hwindow, hid⟩ := hrefers.focused _ hfocused
  have hmem := List.mem_map_of_mem hwindow (f := (·.id))
  rw [hids, hid, List.mem_singleton] at hmem
  exact absurd hmem (by decide)

/-! ### URL patterns -/

/-- One of the patterns matches. -/
def MatchesPattern (options : CaptureOptions) (url : Bytes) : Prop :=
  ∃ pattern ∈ options.excludedUrlPatterns, globMatch pattern url = true

/-- What the sanitizer makes of a tab, if it is there and asked for. -/
def rewritten (manager : SnapshotManager) (options : CaptureOptions) (tab : TabInfo) :
    Option TabInfo :=
  match manager.sanitizer with
  | some sanitizer => if options.sanitizeUrls then sanitizer.sanitizeTab tab else some tab
  | none => some tab

/-- The tabs of a stored window are these of the ones that the window had. -/
structure Keeps (manager : SnapshotManager) (options : CaptureOptions) (survivors : List TabInfo)
    (reported stored : WindowInfo) : Prop where
  sublist : survivors.Sublist reported.tabs
  each : List.Forall₂ (fun tab kept => ∃ after, manager.rewritten options tab = some after
    ∧ kept = { after with index := kept.index }) survivors stored.tabs

/-- No tab of the snapshot was reported with a URL that matches. -/
def ExcludesMatching (manager : SnapshotManager) (options : CaptureOptions)
    (reported : List WindowInfo) (snapshot : Snapshot) : Prop :=
  List.Forall₂ (fun window stored => ∃ survivors, manager.Keeps options survivors window stored
    ∧ ∀ tab ∈ survivors, ¬MatchesPattern options tab.url) reported snapshot.windows

/-- The sanitizer drops a tab with this URL, or the tab matches behind it. -/
def Drops (manager : SnapshotManager) (options : CaptureOptions) (url : Bytes) : Prop :=
  ∃ sanitizer, manager.sanitizer = some sanitizer ∧ options.sanitizeUrls = true
    ∧ ((sanitizer.sanitizeUrl url).excluded = true ∨ (sanitizer.sanitizeUrl url).modified = false
      ∨ MatchesPattern options (sanitizer.sanitizeUrl url).url)

/-- Whether a tab is stored. -/
def survives (manager : SnapshotManager) (options : CaptureOptions) (tab : TabInfo) : Bool :=
  (manager.rewritten options tab).any fun after =>
    !(manager.sanitizer.isSome && options.sanitizeUrls)
      || !options.excludedUrlPatterns.any fun pattern => globMatch pattern after.url

theorem reindex_each (tabs : List TabInfo) :
    List.Forall₂ (fun tab after => after = { tab with index := after.index }) tabs
      (Sanitizer.reindex tabs) := by
  have hpairs : ∀ n, List.Forall₂ (fun tab pair => pair.1 = tab) tabs (tabs.zipIdx n) := by
    induction tabs with
    | nil => exact fun _ => .nil
    | cons tab tabs ih => exact fun n => .cons rfl (ih (n + 1))
  rw [Sanitizer.reindex, List.forall₂_map_right_iff]
  exact (hpairs 0).imp fun tab pair hpair => by rw [← hpair]

/-- The results of a partial function that pass a test, and what they are results of. -/
theorem filter_filterMap_each {α β : Type} (f : α → Option β) (p : β → Bool) (items : List α) :
    List.Forall₂ (fun item result => f item = some result)
      (items.filter fun item => (f item).any p) ((items.filterMap f).filter p) := by
  induction items with
  | nil => exact .nil
  | cons item items ih =>
      cases hresult : f item with
      | none => simpa [hresult] using ih
      | some result =>
          by_cases hpasses : p result = true
          · simpa [hresult, hpasses] using ih
          · simpa [hresult, hpasses] using ih

theorem storedWindow_keeps (window : WindowInfo) :
    manager.Keeps options (window.tabs.filter (manager.survives options)) window
      (manager.storedWindow options window) := by
  refine ⟨List.filter_sublist, ?_⟩
  unfold survives rewritten storedWindow
  cases manager.sanitizer with
  | none => simp
  | some sanitizer =>
      by_cases hon : options.sanitizeUrls = true
      · simp only [hon, if_true, Option.isSome_some, Bool.and_self, Bool.not_true, Bool.false_or]
        refine Browser.forall₂_trans (fun tab after kept hafter hkept => ⟨after, hafter, hkept⟩)
          (filter_filterMap_each sanitizer.sanitizeTab _ window.tabs) ?_
        refine List.rel_filter ?_ (reindex_each _)
        intro tab after hafter
        rw [hafter]
      · simp [hon]

/-- There is only one choice of tabs. -/
theorem Keeps.eq_filter {survivors : List TabInfo} {window : WindowInfo}
    (h : manager.Keeps options survivors window (manager.storedWindow options window)) :
    survivors = window.tabs.filter (manager.survives options) := by
  have hall : ∀ tab ∈ survivors, manager.survives options tab = true := by
    intro tab htab
    obtain ⟨kept, hkept, after, hafter, hsame⟩ := Browser.forall₂_mem_right h.each.flip htab
    rw [survives, hafter, Option.any_some]
    rw [storedWindow] at hkept
    cases hsanitizer : manager.sanitizer with
    | none => rfl
    | some sanitizer =>
        by_cases hon : options.sanitizeUrls = true
        · rw [hsanitizer] at hkept
          simp only [hon, if_true] at hkept
          have hpasses := (List.mem_filter.mp hkept).2
          rw [hsame] at hpasses
          rw [hpasses, Bool.or_true]
        · simp [hon]
  have hsublist : survivors.Sublist (window.tabs.filter (manager.survives options)) := by
    rw [← List.filter_eq_self.mpr hall]
    exact h.sublist.filter _
  apply hsublist.eq_of_length
  rw [h.each.length_eq, (storedWindow_keeps window).each.length_eq]

theorem survives_iff {tab : TabInfo} (hmatches : MatchesPattern options tab.url) :
    manager.survives options tab = true ↔ ¬manager.Drops options tab.url := by
  have hany : ∀ url, (options.excludedUrlPatterns.any fun pattern => globMatch pattern url) = true
      ↔ MatchesPattern options url := fun url => List.any_eq_true
  unfold survives rewritten Drops
  cases hsanitizer : manager.sanitizer with
  | none => simp
  | some sanitizer =>
      by_cases hon : options.sanitizeUrls = true
      · simp only [hon, if_true, Option.isSome_some, Bool.and_self, Bool.not_true, Bool.false_or,
          Option.some_inj, exists_eq_left', true_and]
        rw [Sanitizer.sanitizeTab]
        by_cases hexcluded : (sanitizer.sanitizeUrl tab.url).excluded = true
        · simp [hexcluded]
        · by_cases hmodified : (sanitizer.sanitizeUrl tab.url).modified = true
          · simp [hexcluded, hmodified, ← hany]
          · have htab := (hany _).mpr hmatches
            simp [hexcluded, hmodified, htab]
      · simp [hon]

/-- None of the tabs that are stored has a URL that matches, if each of them is dropped. -/
theorem Sees.excludesMatching_iff (h : Sees manager options events snapshot sight) :
    manager.ExcludesMatching options (attached options sight.windows sight.tabs) snapshot
      ↔ ∀ window ∈ attached options sight.windows sight.tabs, ∀ tab ∈ window.tabs,
        MatchesPattern options tab.url → manager.Drops options tab.url := by
  rw [ExcludesMatching, h.windows, List.forall₂_map_right_iff, List.forall₂_same]
  constructor
  · intro hexcludes window hwindow tab htab hmatches
    obtain ⟨survivors, hkeeps, hnone⟩ := hexcludes window hwindow
    by_contra hdrops
    have hsurvives := (survives_iff hmatches).mpr hdrops
    apply hnone tab _ hmatches
    rw [hkeeps.eq_filter]
    exact List.mem_filter.mpr ⟨htab, hsurvives⟩
  · intro hdrops window hwindow
    refine ⟨_, storedWindow_keeps window, ?_⟩
    intro tab htab hmatches
    obtain ⟨hmem, hsurvives⟩ := List.mem_filter.mp htab
    exact (survives_iff hmatches).mp hsurvives (hdrops window hwindow tab hmem hmatches)

/-- A browser window, and the tab that the browser reports for it. -/
def bankWindow : WindowInfo := { id := str "w1", monitorId := str "m1", browser := .firefox }

def bankReport : TabCapture :=
  { windows := [{ browser := .firefox, tabs := [{ url := str "https://bank.example/" }] }] }

def bankDesk : Surroundings Unit where
  hal := fun op s =>
    match op with
    | .enumerateDisplays => some ((.ok [{ id := str "m1" }] : Result (List MonitorInfo)), s)
    | .enumerateWindows _ => some ((.ok [bankWindow] : Result (List WindowInfo)), s)
    | .captureTabs _ _ => some ((.ok bankReport : Result TabCapture), s)
    | .steadyNow => some ((0 : Int64), s)
    | _ => none
  storage := oneSecond.storage

/-- The pattern of an excluded site, in a capture that does not sanitize. -/
def bankOptions : CaptureOptions :=
  { sanitizeUrls := false, excludedUrlPatterns := [str "*bank*"] }

theorem capture_bank :
    ∃ events snapshot state', (keepsOne.capture bankOptions).run.record (handler bankDesk)
        ((), Storage.emptyConnection) = some (events, .ok snapshot, state')
      ∧ Told events (.enumerateWindows bankOptions) (.ok [bankWindow])
      ∧ Told events (.captureTabs bankOptions.browserTimeout true) (.ok bankReport) := by
  refine ⟨_, _, _, rfl, ?_, ?_⟩
  · exact .tail _ (.tail _ (.head _))
  · exact .tail _ (.tail _ (.tail _ (.head _)))

/-- The tab that was reported came to the window that was listed. -/
theorem Sees.attached_bank (hsees : manager.Sees options events snapshot sight)
    (hlets : isExcluded bankWindow options = false)
    (hwindows : Told events (.enumerateWindows options) (.ok [bankWindow]))
    (hreport : Told events (.captureTabs options.browserTimeout true) (.ok bankReport)) :
    ∃ window ∈ attached options sight.windows sight.tabs,
      window.tabs = [{ url := str "https://bank.example/" }] := by
  have hlisted : [bankWindow] = sight.enumerated :=
    Except.ok.inj ((hsees.enumeration _).mp hwindows)
  have heach := hsees.completed.each
  rw [← hlisted, List.filter_cons_of_pos (by simp [hlets]), List.filter_nil] at heach
  obtain ⟨completed, rest, hcompletes, hrest, hsight⟩ := List.forall₂_cons_left_iff.mp heach
  cases hrest
  have hbrowser : ∀ window ∈ [completed], window.browser = .firefox := by
    intro window hwindow
    rw [List.mem_singleton.mp hwindow, hcompletes.same]
    rfl
  have hempty : ∀ window ∈ [completed], window.tabs = [] := by
    intro window hwindow
    rw [List.mem_singleton.mp hwindow, hcompletes.same]
    rfl
  have hpublic : withoutIncognito options bankReport = bankReport := by
    rw [withoutIncognito]
    split <;> rfl
  obtain ⟨after, hafter, htabs⟩ := @Browser.attachTabsToWindows_reaches bankReport _ 0 rfl
    (by decide) (by decide) _ hbrowser hempty rfl
  have hattached : attached options sight.windows sight.tabs
      = (Browser.attachTabsToWindows bankReport [completed]).2 := by
    rw [(hsees.toldTabs _).mp hreport, hsight]
    change (Browser.attachTabsToWindows (withoutIncognito options bankReport) [completed]).2 = _
    rw [hpublic]
  exact ⟨after, hattached ▸ hafter, htabs⟩

end ContextSnap.SnapshotManager
