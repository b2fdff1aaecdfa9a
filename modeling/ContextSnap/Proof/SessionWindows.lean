import ContextSnap.Proof.PickleReader
import ContextSnap.Proof.SnssCommands

/-!
# The windows of a Chromium session

The commands of a session file override one another, per tab and per entry of a tab. Read as events,
what counts is the last of each kind: the map of tabs says just that after every prefix of the
commands, and the windows are the tabs of the map, in their order, by the window of each.
-/

namespace ContextSnap.Browser.Session

open Buffer

/-! ### What the commands say -/

inductive SessionEvent where
  | navigation (navigation : Navigation)
  | selected (tabId index : Int32)
  | tabWindow (windowId tabId : Int32)
  | activeWindow (windowId : Int32)
  | ignored

/-- The title behind the head of a navigation, empty if there is none. -/
def titleAt (reader : Reader) : Bytes :=
  match reader.readString16 with
  | .ok (some title, _) => title
  | _ => []

/-- The event of a command. A navigation counts if its URL is accepted. -/
def SnssCommand.event (command : SnssCommand) : SessionEvent :=
  let reader := Reader.ofPayload command.payload
  if command.id = kCommandUpdateTabNavigation then
    match readNavigationHead reader with
    | .ok (some (tabId, index, url, reader)) =>
        if acceptedUrl url then .navigation { tabId, index, url, title := titleAt reader }
        else .ignored
    | _ => .ignored
  else if command.id = kCommandSetSelectedNavigationIndex then
    match readTwo reader with
    | .ok (some (tabId, index)) => .selected tabId index
    | _ => .ignored
  else if command.id = kCommandSetTabWindow then
    match readTwo reader with
    | .ok (some (windowId, tabId)) => .tabWindow windowId tabId
    | _ => .ignored
  else if command.id = kCommandSetActiveWindow then
    match reader.readI32 with
    | .ok (some windowId, _) => .activeWindow windowId
    | _ => .ignored
  else .ignored

/-- The count of the title wraps, as the pickle reader does not notice. -/
def SnssCommand.WrapsTitle (command : SnssCommand) : Prop :=
  command.id = kCommandUpdateTabNavigation ∧ ∃ tabId index url reader,
    readNavigationHead (Reader.ofPayload command.payload) = .ok (some (tabId, index, url, reader)) ∧
      reader.WrapsAhead

section Events

variable (events : List SessionEvent)

def lastOf {α : Type} (value : SessionEvent → Option α) : Option α :=
  (events.filterMap value).getLast?

def setsWindow (tabId : Int32) : SessionEvent → Option Int32
  | .tabWindow windowId id => if id = tabId then some windowId else none
  | _ => none

def setsSelected (tabId : Int32) : SessionEvent → Option Int32
  | .selected id index => if id = tabId then some index else none
  | _ => none

def setsEntry (tabId index : Int32) : SessionEvent → Option (Bytes × Bytes)
  | .navigation navigation =>
      if navigation.tabId = tabId ∧ navigation.index = index then
        some (navigation.url, navigation.title)
      else none
  | _ => none

def setsActiveWindow : SessionEvent → Option Int32
  | .activeWindow windowId => some windowId
  | _ => none

def windowOf (tabId : Int32) : Int32 := (lastOf events (setsWindow tabId)).getD 0

def selectedOf (tabId : Int32) : Int32 := (lastOf events (setsSelected tabId)).getD 0

/-- The URL and the title of the last accepted update of an entry. -/
def entryAt (tabId index : Int32) : Option (Bytes × Bytes) := lastOf events (setsEntry tabId index)

def activeWindowOf : Int32 := (lastOf events setsActiveWindow).getD 0

def HasEntry (tabId : Int32) : Prop := ∃ index, entryAt events tabId index ≠ none

/-- The selected entry, or that of the highest index if there is none. -/
def Shown (tabId : Int32) (entry : Bytes × Bytes) : Prop :=
  entryAt events tabId (selectedOf events tabId) = some entry ∨
    entryAt events tabId (selectedOf events tabId) = none ∧
      ∃ index, entryAt events tabId index = some entry ∧
        ∀ other, entryAt events tabId other ≠ none → other ≤ index

def InWindow (windowId tabId : Int32) : Prop :=
  HasEntry events tabId ∧ windowOf events tabId = windowId

end Events

/-- The ids with a property, each once and in increasing order. -/
structure Enumerates (ids : List Int32) (P : Int32 → Prop) : Prop where
  increasing : ids.Pairwise (· < ·)
  complete : ∀ id, id ∈ ids ↔ P id

section Restored

variable (events : List SessionEvent) (browser : BrowserKind) (profile : Bytes)

structure RestoredTab (tabId : Int32) (tab : TabInfo) : Prop where
  id : tab.id = assignChar tabId
  shown : Shown events tabId (tab.url, tab.title)

structure RestoredWindow (windowId : Int32) (window : BrowserWindow) : Prop where
  browser : window.browser = browser
  profile : window.profile = profile
  id : window.extensionWindowId = assignChar windowId
  focused : window.focused = decide (windowId = activeWindowOf events)
  tabs : ∃ ids, Enumerates ids (InWindow events windowId) ∧
    List.Forall₂ (RestoredTab events) ids window.tabs
  active : ∀ (i : Nat) (tab : TabInfo), window.tabs[i]? = some tab → (tab.active = true ↔ i = 0)

def NumberedTabs (window : BrowserWindow) : Prop :=
  ∀ (i : Nat) (tab : TabInfo), window.tabs[i]? = some tab → tab.index.toInt = i

/-- Every tab with an entry is in the window that it was put in last, and nothing else is. -/
def Restored (windows : List BrowserWindow) : Prop :=
  ∃ ids, Enumerates ids (fun windowId => ∃ tabId, InWindow events windowId tabId) ∧
    List.Forall₂ (RestoredWindow events browser profile) ids windows

def sessionAnswer : List BrowserWindow → Result (List BrowserWindow)
  | [] =>
      .error (Err.notFound (str "session file had no restorable tabs") (str "browser.session"))
  | windows => .ok windows

theorem sessionAnswer_of_ne_nil {windows : List BrowserWindow} (h : windows ≠ []) :
    sessionAnswer windows = .ok windows := by
  cases windows with
  | nil => exact absurd rfl h
  | cons window windows => rfl

end Restored

/-! ### One command -/

section Command

variable {reader : Reader} {command : SnssCommand} {state : SessionState}

theorem Reader.Within.readNavigationHead (h : reader.Within) :
    ∃ head, Session.readNavigationHead reader = .ok head ∧
      ∀ tabId index url next, head = some (tabId, index, url, next) → next.Within := by
  obtain ⟨size, reader₁, hsize, h₁, -⟩ := h.readU32_answers
  rw [Session.readNavigationHead, hsize]
  cases size with
  | none => exact ⟨none, rfl, by simp⟩
  | some size =>
      obtain ⟨tabId, reader₂, htabId, h₂, -⟩ := h₁.readI32_answers
      simp only [bind, Except.bind, htabId]
      cases tabId with
      | none => exact ⟨none, rfl, by simp⟩
      | some tabId =>
          obtain ⟨index, reader₃, hindex, h₃, -⟩ := h₂.readI32_answers
          simp only [hindex]
          cases index with
          | none => exact ⟨none, rfl, by simp⟩
          | some index =>
              obtain ⟨url, reader₄, hurl, h₄, -⟩ := h₃.readString_answers
              simp only [hurl]
              cases url with
              | none => exact ⟨none, rfl, by simp⟩
              | some url =>
                  refine ⟨_, rfl, fun tabId' index' url' next hnext => ?_⟩
                  cases hnext
                  exact h₄

theorem Reader.Within.readTwo (h : reader.Within) : ∃ two, Session.readTwo reader = .ok two := by
  obtain ⟨first, reader₁, hfirst, h₁, -⟩ := h.readI32_answers
  rw [Session.readTwo, hfirst]
  cases first with
  | none => exact ⟨none, rfl⟩
  | some first =>
      obtain ⟨second, reader₂, hsecond, -⟩ := h₁.readI32_answers
      simp only [bind, Except.bind, hsecond]
      cases second <;> exact ⟨_, rfl⟩

def SessionEvent.apply (state : SessionState) : SessionEvent → SessionState
  | .navigation ⟨tabId, index, url, title⟩ => state.modifyTab tabId fun tab =>
      { tab with entries := tab.entries.insert index (url, title) }
  | .selected tabId index => state.modifyTab tabId fun tab => { tab with selectedIndex := index }
  | .tabWindow windowId tabId => state.modifyTab tabId fun tab => { tab with windowId }
  | .activeWindow windowId => { state with activeWindow := windowId }
  | .ignored => state

theorem readNavigation_eq (h : reader.Within)
    (hwraps : ∀ tabId index url next,
      readNavigationHead reader = .ok (some (tabId, index, url, next)) → ¬next.WrapsAhead) :
    readNavigation reader = (readNavigationHead reader).map fun head =>
      head.map fun (tabId, index, url, next) => { tabId, index, url, title := titleAt next } := by
  obtain ⟨head, hhead, hnext⟩ := h.readNavigationHead
  rw [readNavigation, hhead]
  cases head with
  | none => rfl
  | some head =>
      obtain ⟨tabId, index, url, next⟩ := head
      obtain ⟨title, last, htitle, -⟩ := (hnext tabId index url next rfl).readString16_answers
        (hwraps tabId index url next hhead)
      simp only [bind, Except.bind, Except.map, Option.map_some, titleAt, htitle]
      cases title <;> rfl

theorem applyCommand_eq (hfits : command.Fits) (hwraps : ¬command.WrapsTitle) :
    applyCommand state command = .ok (command.event.apply state) := by
  have hwithin := Reader.Within.ofPayload hfits
  rw [applyCommand, SnssCommand.event]
  by_cases hnavigation : command.id = kCommandUpdateTabNavigation
  · have hread := readNavigation_eq hwithin fun tabId index url next hnext hahead =>
      hwraps ⟨hnavigation, tabId, index, url, next, hnext, hahead⟩
    obtain ⟨head, hhead, -⟩ := hwithin.readNavigationHead
    simp only [if_pos hnavigation, hread, hhead, bind, Except.bind, Except.map]
    cases head with
    | none => rfl
    | some head =>
        obtain ⟨tabId, index, url, next⟩ := head
        simp only [Option.map_some]
        cases acceptedUrl url <;> rfl
  · obtain ⟨two, htwo⟩ := hwithin.readTwo
    obtain ⟨value, last, hvalue, -⟩ := hwithin.readI32_answers
    simp only [if_neg hnavigation, htwo, hvalue, bind, Except.bind]
    split
    next => cases two <;> rfl
    next =>
      split
      next => cases two <;> rfl
      next =>
        split
        next => cases value <;> rfl
        next => rfl

theorem applyCommand_wraps (hfits : command.Fits) (hwraps : command.WrapsTitle) :
    applyCommand state command = .error .outOfRange := by
  obtain ⟨hnavigation, tabId, index, url, next, hhead, hahead⟩ := hwraps
  obtain ⟨head, hhead', hnext⟩ := (Reader.Within.ofPayload hfits).readNavigationHead
  have heq : head = some (tabId, index, url, next) := Except.ok.inj (hhead'.symm.trans hhead)
  have hfault := (hnext tabId index url next heq).readString16_wraps hahead
  rw [applyCommand]
  simp only [if_pos hnavigation, readNavigation, hhead, bind, Except.bind, hfault]

/-- The commands do what their events do, unless a title wraps. -/
theorem foldlM_applyCommand (commands : List SnssCommand)
    (hfits : ∀ command ∈ commands, command.Fits) (state : SessionState) :
    ((∀ command ∈ commands, ¬command.WrapsTitle) ∧ commands.foldlM applyCommand state
        = .ok ((commands.map SnssCommand.event).foldl SessionEvent.apply state)) ∨
      (∃ command ∈ commands, command.WrapsTitle) ∧
        commands.foldlM applyCommand state = .error .outOfRange := by
  induction commands generalizing state with
  | nil => exact .inl ⟨by simp, rfl⟩
  | cons command commands ih =>
      obtain ⟨hcommand, hcommands⟩ := List.forall_mem_cons.mp hfits
      rw [List.foldlM_cons]
      by_cases hwraps : command.WrapsTitle
      · rw [applyCommand_wraps hcommand hwraps]
        exact .inr ⟨⟨command, List.mem_cons_self, hwraps⟩, rfl⟩
      · rw [applyCommand_eq hcommand hwraps]
        obtain ⟨hnone, hrest⟩ | ⟨⟨other, hother, hwrapsOther⟩, hrest⟩ :=
          ih hcommands (command.event.apply state)
        · exact .inl ⟨List.forall_mem_cons.mpr ⟨hwraps, hnone⟩, hrest⟩
        · exact .inr ⟨⟨other, List.mem_cons_of_mem _ hother, hwrapsOther⟩, hrest⟩

end Command

/-! ### The map of tabs -/

section Tabs

variable {events : List SessionEvent} {state : SessionState} {tabId : Int32}

theorem lastOf_append {α : Type} (events : List SessionEvent) (event : SessionEvent)
    (value : SessionEvent → Option α) :
    lastOf (events ++ [event]) value = (value event).or (lastOf events value) := by
  rw [lastOf, lastOf, List.filterMap_append, List.getLast?_append]
  cases hvalue : value event <;> simp [hvalue]

theorem getD_modifyTab (state : SessionState) (id tabId : Int32) (change : TabState → TabState) :
    (state.modifyTab id change).tabs.getD tabId {}
      = if id = tabId then change (state.tabs.getD id {}) else state.tabs.getD tabId {} := by
  rw [SessionState.modifyTab, Std.TreeMap.getD_insert]
  simp only [Std.compare_eq_iff_eq]

/-- The map holds what the events set last. -/
structure Tracks (events : List SessionEvent) (state : SessionState) : Prop where
  window : ∀ tabId, (state.tabs.getD tabId {}).windowId = windowOf events tabId
  selected : ∀ tabId, (state.tabs.getD tabId {}).selectedIndex = selectedOf events tabId
  entry : ∀ tabId index, (state.tabs.getD tabId {}).entries[index]? = entryAt events tabId index
  active : state.activeWindow = activeWindowOf events

/-- What an event does to one tab. -/
def SessionEvent.onTab (tabId : Int32) (tab : TabState) : SessionEvent → TabState
  | .navigation ⟨id, index, url, title⟩ =>
      if id = tabId then { tab with entries := tab.entries.insert index (url, title) } else tab
  | .selected id index => if id = tabId then { tab with selectedIndex := index } else tab
  | .tabWindow windowId id => if id = tabId then { tab with windowId } else tab
  | _ => tab

theorem getD_apply (event : SessionEvent) (state : SessionState) (tabId : Int32) :
    (event.apply state).tabs.getD tabId {} = event.onTab tabId (state.tabs.getD tabId {}) := by
  cases event with
  | navigation navigation =>
      rw [SessionEvent.apply, getD_modifyTab, SessionEvent.onTab]
      split
      next heq => rw [heq]
      next => rfl
  | selected id index =>
      rw [SessionEvent.apply, getD_modifyTab, SessionEvent.onTab]
      split
      next heq => rw [heq]
      next => rfl
  | tabWindow windowId id =>
      rw [SessionEvent.apply, getD_modifyTab, SessionEvent.onTab]
      split
      next heq => rw [heq]
      next => rfl
  | activeWindow windowId => rfl
  | ignored => rfl

theorem windowId_onTab (event : SessionEvent) (tab : TabState) :
    (event.onTab tabId tab).windowId = (setsWindow tabId event).getD tab.windowId := by
  cases event <;> simp only [SessionEvent.onTab, setsWindow, Option.getD_none] <;> split <;> rfl

theorem selectedIndex_onTab (event : SessionEvent) (tab : TabState) :
    (event.onTab tabId tab).selectedIndex
      = (setsSelected tabId event).getD tab.selectedIndex := by
  cases event <;> simp only [SessionEvent.onTab, setsSelected, Option.getD_none] <;> split <;> rfl

theorem entries_onTab (event : SessionEvent) (tab : TabState) (index : Int32) :
    (event.onTab tabId tab).entries[index]?
      = (setsEntry tabId index event).or tab.entries[index]? := by
  cases event with
  | navigation navigation =>
      obtain ⟨id, at_, url, title⟩ := navigation
      simp only [SessionEvent.onTab, setsEntry]
      by_cases hid : id = tabId
      · simp only [hid, if_true, true_and, Std.TreeMap.getElem?_insert, Std.compare_eq_iff_eq]
        split <;> rfl
      · simp only [hid, if_false, false_and, Option.none_or]
  | selected id index => simp only [SessionEvent.onTab, setsEntry]; split <;> rfl
  | tabWindow windowId id => simp only [SessionEvent.onTab, setsEntry]; split <;> rfl
  | activeWindow windowId => rfl
  | ignored => rfl

theorem activeWindow_apply (event : SessionEvent) (state : SessionState) :
    (event.apply state).activeWindow = (setsActiveWindow event).getD state.activeWindow := by
  cases event <;> rfl

theorem Tracks.apply (h : Tracks events state) (event : SessionEvent) :
    Tracks (events ++ [event]) (event.apply state) where
  window tabId := by
    rw [getD_apply, windowId_onTab, h.window, windowOf, windowOf, lastOf_append, Option.getD_or]
  selected tabId := by
    rw [getD_apply, selectedIndex_onTab, h.selected, selectedOf, selectedOf, lastOf_append,
      Option.getD_or]
  entry tabId index := by
    rw [getD_apply, entries_onTab, h.entry, entryAt, entryAt, lastOf_append]
  active := by
    rw [activeWindow_apply, h.active, activeWindowOf, activeWindowOf, lastOf_append,
      Option.getD_or]

theorem tracks_foldl (events : List SessionEvent) :
    Tracks events (events.foldl SessionEvent.apply {}) := by
  induction events using List.reverseRecOn with
  | nil => exact ⟨fun _ => rfl, fun _ => rfl, fun _ _ => rfl, rfl⟩
  | append_singleton events event ih =>
      rw [List.foldl_append]
      exact ih.apply event

theorem Tracks.shown_iff (h : Tracks events state) (tabId : Int32) (entry : Bytes × Bytes) :
    (state.tabs.getD tabId {}).shown = some entry ↔ Shown events tabId entry := by
  have hentry := h.entry tabId
  rw [TabState.shown, Shown, h.selected, hentry]
  generalize hentries : (state.tabs.getD tabId {}).entries = entries at hentry ⊢
  cases hselected : entryAt events tabId (selectedOf events tabId) with
  | some selected => simp
  | none =>
      have hmem (index : Int32) : index ∈ entries ↔ entryAt events tabId index ≠ none := by
        rw [Std.TreeMap.mem_iff_isSome_getElem?, hentry, Option.isSome_iff_ne_none]
      simp only [reduceCtorEq, true_and, false_or]
      constructor
      · intro hshown
        obtain ⟨index, hindex, hat⟩ := Option.bind_eq_some_iff.mp hshown
        obtain ⟨-, hmax⟩ := Std.TreeMap.maxKey?_eq_some_iff_mem_and_forall.mp hindex
        refine ⟨index, (hentry index).symm.trans hat, fun other hother => ?_⟩
        exact Std.isLE_compare.mp (hmax other ((hmem other).mpr hother))
      · rintro ⟨index, hat, hmax⟩
        have hkey : entries.maxKey? = some index := by
          refine Std.TreeMap.maxKey?_eq_some_iff_mem_and_forall.mpr ⟨?_, fun other hother => ?_⟩
          · rw [hmem, hat]
            simp
          · exact Std.isLE_compare.mpr (hmax other ((hmem other).mp hother))
        rw [hkey, Option.bind_some, hentry, hat]

theorem Tracks.exists_shown_iff (h : Tracks events state) (tabId : Int32) :
    (∃ entry, (state.tabs.getD tabId {}).shown = some entry) ↔ HasEntry events tabId := by
  constructor
  · rintro ⟨entry, hshown⟩
    obtain hat | ⟨-, index, hat, -⟩ := (h.shown_iff tabId entry).mp hshown
    · exact ⟨_, by rw [hat]; simp⟩
    · exact ⟨index, by rw [hat]; simp⟩
  · rintro ⟨index, hat⟩
    have hentry := h.entry tabId
    rw [TabState.shown]
    generalize (state.tabs.getD tabId {}).entries = entries at hentry ⊢
    cases entries[(state.tabs.getD tabId {}).selectedIndex]? with
    | some selected => exact ⟨selected, rfl⟩
    | none =>
        have hmem : index ∈ entries := by
          rw [Std.TreeMap.mem_iff_isSome_getElem?, hentry, Option.isSome_iff_ne_none]
          exact hat
        obtain ⟨highest, hhighest⟩ :=
          Option.isSome_iff_exists.mp (Std.TreeMap.isSome_maxKey?_of_mem hmem)
        obtain ⟨hin, -⟩ := Std.TreeMap.maxKey?_eq_some_iff_mem_and_forall.mp hhighest
        obtain ⟨entry, hentry'⟩ :=
          Option.isSome_iff_exists.mp (Std.TreeMap.mem_iff_isSome_getElem?.mp hin)
        exact ⟨entry, by rw [hhighest, Option.bind_some, hentry']⟩

end Tabs

/-! ### The windows -/

section Windows

variable {events : List SessionEvent} {browser : BrowserKind} {profile : Bytes}
  {activeWindow windowId : Int32}

/-- The tabs of a window with what they show, out of the map of tabs. -/
def shownTabs (windowId : Int32) (entries : List (Int32 × TabState)) :
    List (Int32 × Bytes × Bytes) :=
  entries.filterMap fun entry =>
    if entry.2.windowId = windowId then entry.2.shown.map fun shown => (entry.1, shown) else none

def builtTabs (shown : List (Int32 × Bytes × Bytes)) : List TabInfo :=
  shown.mapIdx fun i tab =>
    { id := assignChar tab.1, index := Int32.ofNat i, url := tab.2.1, title := tab.2.2 }

def builtWindow (browser : BrowserKind) (profile : Bytes) (activeWindow windowId : Int32)
    (shown : List (Int32 × Bytes × Bytes)) : BrowserWindow :=
  { browser, profile, extensionWindowId := assignChar windowId
    focused := windowId = activeWindow, tabs := builtTabs shown }

theorem builtTabs_append (shown : List (Int32 × Bytes × Bytes)) (tab : Int32 × Bytes × Bytes) :
    builtTabs (shown ++ [tab]) = builtTabs shown ++
      [{ id := assignChar tab.1, index := Int32.ofNat (builtTabs shown).length
         url := tab.2.1, title := tab.2.2 }] := by
  rw [builtTabs, List.mapIdx_concat, builtTabs, List.length_mapIdx]

theorem shownTabs_append (entries : List (Int32 × TabState)) {entry : Int32 × TabState}
    {shown : Bytes × Bytes} (hwindow : entry.2.windowId = windowId)
    (hshown : entry.2.shown = some shown) :
    shownTabs windowId (entries ++ [entry])
      = shownTabs windowId entries ++ [(entry.1, shown)] := by
  simp [shownTabs, hwindow, hshown]

theorem shownTabs_append_other (entries : List (Int32 × TabState)) {entry : Int32 × TabState}
    (h : entry.2.windowId ≠ windowId ∨ entry.2.shown = none) :
    shownTabs windowId (entries ++ [entry]) = shownTabs windowId entries := by
  rcases h with h | h <;> simp [shownTabs, h]

theorem getElem?_foldl_addTab (browser : BrowserKind) (profile : Bytes)
    (activeWindow windowId : Int32) (entries : List (Int32 × TabState)) :
    (entries.foldl (addTab browser profile activeWindow) ∅)[windowId]?
      = if shownTabs windowId entries = [] then none
        else some (builtWindow browser profile activeWindow windowId
          (shownTabs windowId entries)) := by
  induction entries using List.reverseRecOn generalizing windowId with
  | nil => rfl
  | append_singleton entries entry ih =>
      rw [List.foldl_append, List.foldl_cons, List.foldl_nil]
      generalize entries.foldl (addTab browser profile activeWindow) ∅ = windows at ih ⊢
      rw [addTab]
      cases hshown : entry.2.shown with
      | none =>
          rw [shownTabs_append_other entries (.inr hshown)]
          exact ih windowId
      | some shown =>
          simp only [Std.TreeMap.getElem?_insert, Std.compare_eq_iff_eq]
          by_cases hwindow : entry.2.windowId = windowId
          · have hbefore := ih windowId
            rw [if_pos hwindow, shownTabs_append entries hwindow hshown, if_neg (by simp),
              builtWindow, builtTabs_append, hwindow, Std.TreeMap.getD_eq_getD_getElem?, hbefore]
            split
            next hnone => rw [hnone]; rfl
            next => rfl
          · rw [if_neg hwindow, shownTabs_append_other entries (.inl hwindow)]
            exact ih windowId

variable {state : SessionState} {shown : List (Int32 × Bytes × Bytes)}

theorem mem_shownTabs_iff (h : Tracks events state) (tabId : Int32) (entry : Bytes × Bytes) :
    (tabId, entry) ∈ shownTabs windowId state.tabs.toList
      ↔ windowOf events tabId = windowId ∧ Shown events tabId entry := by
  have hempty : ({} : TabState).shown = none := by simp [TabState.shown]
  rw [shownTabs, List.mem_filterMap, ← h.window, ← h.shown_iff, Std.TreeMap.getD_eq_getD_getElem?]
  constructor
  · rintro ⟨⟨id, tab⟩, hmem, hsome⟩
    rw [Std.TreeMap.mem_toList_iff_getElem?_eq_some] at hmem
    split at hsome
    next hwindow =>
      obtain ⟨shown, hshown, heq⟩ := Option.map_eq_some_iff.mp hsome
      obtain ⟨rfl, rfl⟩ := Prod.mk.inj heq
      rw [hmem]
      exact ⟨hwindow, hshown⟩
    next => cases hsome
  · rintro ⟨hwindow, hshown⟩
    cases htab : state.tabs[tabId]? with
    | none =>
        rw [htab, Option.getD_none, hempty] at hshown
        cases hshown
    | some tab =>
        rw [htab, Option.getD_some] at hwindow hshown
        refine ⟨(tabId, tab), Std.TreeMap.mem_toList_iff_getElem?_eq_some.mpr htab, ?_⟩
        simp only [if_pos hwindow, hshown, Option.map_some]

theorem enumerates_shownTabs (h : Tracks events state) (windowId : Int32) :
    Enumerates ((shownTabs windowId state.tabs.toList).map (·.1)) (InWindow events windowId) where
  increasing := by
    rw [List.pairwise_map, shownTabs, List.pairwise_filterMap]
    refine Std.TreeMap.ordered_keys_toList.imp fun hlt first hfirst second hsecond => ?_
    split at hfirst
    next =>
      split at hsecond
      next =>
        obtain ⟨-, -, rfl⟩ := Option.map_eq_some_iff.mp hfirst
        obtain ⟨-, -, rfl⟩ := Option.map_eq_some_iff.mp hsecond
        exact Std.compare_eq_lt.mp hlt
      next => cases hsecond
    next => cases hfirst
  complete tabId := by
    rw [InWindow, ← h.exists_shown_iff, List.mem_map]
    simp only [h.shown_iff]
    constructor
    · rintro ⟨⟨id, entry⟩, hmem, rfl⟩
      obtain ⟨hwindow, hshown⟩ := (mem_shownTabs_iff h id entry).mp hmem
      exact ⟨⟨entry, hshown⟩, hwindow⟩
    · rintro ⟨⟨entry, hshown⟩, hwindow⟩
      exact ⟨(tabId, entry), (mem_shownTabs_iff h tabId entry).mpr ⟨hwindow, hshown⟩, rfl⟩

theorem getElem?_activateFirst (i : Nat) :
    (activateFirst (builtWindow browser profile activeWindow windowId shown)).tabs[i]?
      = shown[i]?.map fun tab =>
        { id := assignChar tab.1, index := Int32.ofNat i, url := tab.2.1, title := tab.2.2
          active := decide (i = 0) } := by
  simp only [activateFirst, builtWindow, builtTabs]
  cases shown with
  | nil => rfl
  | cons first rest =>
      cases i with
      | zero => simp [List.mapIdx_cons]
      | succ i => simp [List.mapIdx_cons]

theorem length_activateFirst :
    (activateFirst (builtWindow browser profile activeWindow windowId shown)).tabs.length
      = shown.length := by
  simp [activateFirst, builtWindow, builtTabs]

theorem restoredWindow_shownTabs (h : Tracks events state) (windowId : Int32) :
    RestoredWindow events browser profile windowId
      (activateFirst (builtWindow browser profile state.activeWindow windowId
        (shownTabs windowId state.tabs.toList))) where
  browser := rfl
  profile := rfl
  id := rfl
  focused := by rw [← h.active]; rfl
  tabs := by
    refine ⟨_, enumerates_shownTabs h windowId, List.forall₂_iff_get.mpr ⟨?_, ?_⟩⟩
    · rw [List.length_map, length_activateFirst]
    · intro i hids htabs
      rw [List.length_map] at hids
      have htab : (activateFirst (builtWindow browser profile state.activeWindow windowId
          (shownTabs windowId state.tabs.toList))).tabs[i]? = _ := getElem?_activateFirst i
      rw [List.getElem?_eq_getElem htabs, List.getElem?_eq_getElem hids, Option.map_some,
        Option.some.injEq] at htab
      have hmem := List.getElem_mem hids
      simp only [List.get_eq_getElem, htab, List.getElem_map]
      exact ⟨rfl, ((mem_shownTabs_iff h _ _).mp hmem).2⟩
  active i tab hi := by
    rw [getElem?_activateFirst] at hi
    obtain ⟨shown, hshown, rfl⟩ := Option.map_eq_some_iff.mp hi
    exact decide_eq_true_iff

theorem numberedTabs_built (hsize : shown.length ≤ 2 ^ 31) :
    NumberedTabs (activateFirst (builtWindow browser profile activeWindow windowId shown)) := by
  intro i tab hi
  rw [getElem?_activateFirst] at hi
  obtain ⟨shown, hshown, rfl⟩ := Option.map_eq_some_iff.mp hi
  have hlt := (List.getElem?_eq_some_iff.mp hshown).1
  rw [Int32.toInt_ofNat', Int32.size, Int.bmod_def]
  split <;> omega

/-- The windows that the loop leaves, by their ids. -/
def foundWindows (browser : BrowserKind) (profile : Bytes) (state : SessionState) :
    Std.TreeMap Int32 BrowserWindow :=
  state.tabs.toList.foldl (addTab browser profile state.activeWindow) ∅

def finishedWindows (browser : BrowserKind) (profile : Bytes) (state : SessionState) :
    List BrowserWindow :=
  ((foundWindows browser profile state).toList.filter fun entry => entry.2.tabs ≠ []).map
    fun entry => activateFirst entry.2

theorem mem_foundWindows_iff (state : SessionState) (entry : Int32 × BrowserWindow) :
    entry ∈ (foundWindows browser profile state).toList
      ↔ shownTabs entry.1 state.tabs.toList ≠ [] ∧
        entry.2 = builtWindow browser profile state.activeWindow entry.1
          (shownTabs entry.1 state.tabs.toList) := by
  rw [Std.TreeMap.mem_toList_iff_getElem?_eq_some, foundWindows, getElem?_foldl_addTab]
  split
  next hnone => simp [hnone]
  next hsome => simp [hsome, eq_comm]

theorem finishedWindows_eq (state : SessionState) :
    finishedWindows browser profile state
      = (foundWindows browser profile state).toList.map fun entry => activateFirst entry.2 := by
  refine congrArg (List.map _) (List.filter_eq_self.mpr fun entry hmem => ?_)
  obtain ⟨hne, hwindow⟩ := (mem_foundWindows_iff state entry).mp hmem
  simp [hwindow, builtWindow, builtTabs, hne]

theorem exists_builtWindow {window : BrowserWindow}
    (h : window ∈ finishedWindows browser profile state) :
    ∃ windowId, window = activateFirst (builtWindow browser profile state.activeWindow windowId
      (shownTabs windowId state.tabs.toList)) := by
  rw [finishedWindows_eq] at h
  obtain ⟨entry, hmem, rfl⟩ := List.mem_map.mp h
  exact ⟨entry.1, by rw [((mem_foundWindows_iff state entry).mp hmem).2]⟩

theorem enumerates_foundWindows (browser : BrowserKind) (profile : Bytes)
    (h : Tracks events state) :
    Enumerates ((foundWindows browser profile state).toList.map (·.1))
      (fun windowId => ∃ tabId, InWindow events windowId tabId) where
  increasing := by
    rw [List.pairwise_map]
    exact Std.TreeMap.ordered_keys_toList.imp fun hlt => Std.compare_eq_lt.mp hlt
  complete windowId := by
    have hcomplete := (enumerates_shownTabs h windowId).complete
    rw [List.mem_map]
    constructor
    · rintro ⟨entry, hmem, rfl⟩
      obtain ⟨tab, htab⟩ :=
        List.exists_mem_of_ne_nil _ ((mem_foundWindows_iff state entry).mp hmem).1
      exact ⟨tab.1, (hcomplete tab.1).mp (List.mem_map_of_mem htab)⟩
    · rintro ⟨tabId, hin⟩
      obtain ⟨tab, htab, -⟩ := List.mem_map.mp ((hcomplete tabId).mpr hin)
      have hfound := (mem_foundWindows_iff state (windowId, builtWindow browser profile
        state.activeWindow windowId (shownTabs windowId state.tabs.toList))).mpr
        ⟨List.ne_nil_of_mem htab, rfl⟩
      exact ⟨_, hfound, rfl⟩

theorem restored_finishedWindows (browser : BrowserKind) (profile : Bytes)
    (h : Tracks events state) :
    Restored events browser profile (finishedWindows browser profile state) := by
  refine ⟨_, enumerates_foundWindows browser profile h, ?_⟩
  rw [finishedWindows_eq, List.forall₂_map_left_iff, List.forall₂_map_right_iff, List.forall₂_same]
  intro entry hmem
  rw [((mem_foundWindows_iff state entry).mp hmem).2]
  exact restoredWindow_shownTabs h entry.1

end Windows

/-! ### Every list of commands -/

def Reconstructs (browser : BrowserKind) (profile : Bytes) (commands : List SnssCommand) : Prop :=
  ∃ windows, restoredWindows browser profile commands = .ok (sessionAnswer windows) ∧
    Restored (commands.map SnssCommand.event) browser profile windows ∧
    ∀ window ∈ windows, NumberedTabs window

/-- The tabs of every window have an `int` for their index. -/
def SmallWindows (events : List SessionEvent) : Prop :=
  ∀ windowId ids, Enumerates ids (InWindow events windowId) → ids.length ≤ 2 ^ 31

section Commands

variable {events : List SessionEvent} {browser : BrowserKind} {profile : Bytes}
  {commands : List SnssCommand} {windows : List BrowserWindow}

theorem Enumerates.nodup {ids : List Int32} {P : Int32 → Prop} (h : Enumerates ids P) : ids.Nodup :=
  h.increasing.imp fun hlt => Int32.ne_of_lt hlt

theorem Enumerates.length_eq {first second : List Int32} {P : Int32 → Prop}
    (hfirst : Enumerates first P) (hsecond : Enumerates second P) :
    first.length = second.length :=
  ((List.perm_ext_iff_of_nodup hfirst.nodup hsecond.nodup).mpr fun id =>
    (hfirst.complete id).trans (hsecond.complete id).symm).length_eq

theorem NumberedTabs.small {window : BrowserWindow} (h : NumberedTabs window) :
    window.tabs.length ≤ 2 ^ 31 := by
  by_contra hlarge
  have hlt : 2 ^ 31 < window.tabs.length := Nat.not_le.mp hlarge
  have hindex := h (2 ^ 31) _ (List.getElem?_eq_getElem hlt)
  have hint := window.tabs[2 ^ 31].index.toInt_lt
  omega

theorem Restored.exists_window (h : Restored events browser profile windows)
    {windowId tabId : Int32} (hin : InWindow events windowId tabId) :
    ∃ window ∈ windows, RestoredWindow events browser profile windowId window := by
  obtain ⟨windowIds, hwindows, hall⟩ := h
  obtain ⟨i, hi, rfl⟩ := List.getElem_of_mem ((hwindows.complete windowId).mpr ⟨tabId, hin⟩)
  have hi' : i < windows.length := hall.length_eq ▸ hi
  exact ⟨windows[i], List.getElem_mem hi', hall.get hi hi'⟩

theorem Restored.small (h : Restored events browser profile windows)
    (hnumbered : ∀ window ∈ windows, NumberedTabs window) : SmallWindows events := by
  intro windowId ids hids
  cases ids with
  | nil => exact Nat.zero_le _
  | cons tabId ids =>
      obtain ⟨window, hmem, hwindow⟩ :=
        h.exists_window ((hids.complete tabId).mp List.mem_cons_self)
      obtain ⟨tabIds, htabIds, htabs⟩ := hwindow.tabs
      rw [hids.length_eq htabIds, htabs.length_eq]
      exact (hnumbered window hmem).small

theorem restoredWindows_cases (browser : BrowserKind) (profile : Bytes)
    (hfits : ∀ command ∈ commands, command.Fits) :
    ((∀ command ∈ commands, ¬command.WrapsTitle) ∧ ∃ windows,
        restoredWindows browser profile commands = .ok (sessionAnswer windows) ∧
        Restored (commands.map SnssCommand.event) browser profile windows ∧
        (SmallWindows (commands.map SnssCommand.event) →
          ∀ window ∈ windows, NumberedTabs window)) ∨
      (∃ command ∈ commands, command.WrapsTitle) ∧
        restoredWindows browser profile commands = .error .outOfRange := by
  obtain ⟨hnone, hrun⟩ | ⟨hwraps, hrun⟩ := foldlM_applyCommand commands hfits {}
  · have htracks := tracks_foldl (commands.map SnssCommand.event)
    generalize (commands.map SnssCommand.event).foldl SessionEvent.apply {} = state at hrun htracks
    refine .inl ⟨hnone, finishedWindows browser profile state, ?_,
      restored_finishedWindows browser profile htracks, fun hsmall window hwindow => ?_⟩
    · rw [restoredWindows, hrun]
      change (if finishedWindows browser profile state = [] then _
        else Except.ok (Except.ok (finishedWindows browser profile state))) = _
      split
      next hnone => rw [hnone]; rfl
      next hsome => rw [sessionAnswer_of_ne_nil hsome]
    · obtain ⟨windowId, rfl⟩ := exists_builtWindow hwindow
      have hsize := hsmall windowId _ (enumerates_shownTabs htracks windowId)
      rw [List.length_map] at hsize
      exact numberedTabs_built hsize
  · exact .inr ⟨hwraps, by rw [restoredWindows, hrun]; rfl⟩

theorem restored_of_ok (hfits : ∀ command ∈ commands, command.Fits)
    (h : restoredWindows browser profile commands = .ok (.ok windows)) :
    Restored (commands.map SnssCommand.event) browser profile windows := by
  obtain ⟨-, found, hfound, hwindows, -⟩ | ⟨-, hfault⟩ :=
    restoredWindows_cases browser profile hfits
  · rw [hfound] at h
    cases found with
    | nil => cases h
    | cons window found =>
        cases h
        exact hwindows
  · rw [hfault] at h
    cases h

/-- What a session file is restored to are the windows of its commands. -/
theorem readChromiumSession_ok {contents : Result Bytes}
    (h : readChromiumSession browser profile contents = .ok (.ok windows)) :
    ∃ bytes commands, contents = .ok bytes ∧ parseSnss bytes = .ok (.ok commands) ∧
      Restored (commands.map SnssCommand.event) browser profile windows := by
  cases contents with
  | error error => cases h
  | ok bytes =>
      obtain ⟨parsed, hparsed⟩ := parseSnss_isOk bytes
      rw [readChromiumSession, hparsed] at h
      cases parsed with
      | error error => cases h
      | ok commands =>
          exact ⟨bytes, commands, rfl, hparsed, restored_of_ok (fits_of_parseSnss hparsed) h⟩

/-- **The session.** The windows of a list of commands are reconstructed exactly if no title in it
has a count that wraps and no window has more tabs than there are indices. -/
theorem reconstructs_iff (browser : BrowserKind) (profile : Bytes)
    (hfits : ∀ command ∈ commands, command.Fits) :
    Reconstructs browser profile commands ↔
      (∀ command ∈ commands, ¬command.WrapsTitle) ∧
        SmallWindows (commands.map SnssCommand.event) := by
  obtain ⟨hnone, windows, hok, hrestored, hsmall⟩ | ⟨⟨command, hmem, hwraps⟩, hfault⟩ :=
    restoredWindows_cases browser profile hfits
  · constructor
    · rintro ⟨others, -, hothers, hnumbered⟩
      exact ⟨hnone, hothers.small hnumbered⟩
    · rintro ⟨-, hsizes⟩
      exact ⟨windows, hok, hrestored, hsmall hsizes⟩
  · constructor
    · rintro ⟨windows, hok, -⟩
      rw [hfault] at hok
      cases hok
    · rintro ⟨hnone, -⟩
      exact absurd hwraps (hnone command hmem)

end Commands

/-- A navigation of tab 1 to `http`, and what stands for its title. -/
def navigationTo (title : Bytes) : SnssCommand where
  id := 6
  payload := [0, 0, 0, 0, 1, 0, 0, 0, 0, 0, 0, 0, 4, 0, 0, 0, 104, 116, 116, 112] ++ title

theorem reconstructs_iff_navigation : Reconstructs .chrome [] [navigationTo []] := by
  have hevents : [navigationTo []].map SnssCommand.event
      = [.navigation { tabId := 1, index := 0, url := str "http", title := [] }] := rfl
  refine (reconstructs_iff .chrome [] (by simp [SnssCommand.Fits, navigationTo])).mpr ⟨?_, ?_⟩
  · rintro command hcommand ⟨-, tabId, index, url, reader, hhead, units, hunits, -⟩
    rw [List.mem_singleton.mp hcommand] at hhead
    have hread : readNavigationHead (Reader.ofPayload (navigationTo []).payload)
        = .ok (some (1, 0, str "http", { data := (navigationTo []).payload, size := 20
                                         offset := 20 })) := rfl
    rw [hread] at hhead
    obtain ⟨-, -, -, rfl⟩ := by simpa using hhead
    cases hunits
  · rw [hevents]
    intro windowId ids hids
    have hsubset : ids ⊆ [1] := by
      intro tabId htabId
      obtain ⟨⟨index, hentry⟩, -⟩ := (hids.complete tabId).mp htabId
      rw [List.mem_singleton]
      by_contra hne
      exact hentry (by simp [entryAt, lastOf, setsEntry, Ne.symm hne])
    exact Nat.le_trans (hids.nodup.subperm hsubset).length_le (by decide)

/-- A title of 2^31 units. -/
theorem not_reconstructs :
    ¬∀ (browser : BrowserKind) (profile : Bytes) (commands : List SnssCommand),
      (∀ command ∈ commands, command.Fits) → Reconstructs browser profile commands := by
  intro h
  obtain ⟨windows, hok, -⟩ :=
    h .chrome [] [navigationTo [0, 0, 0, 128]] (by simp [SnssCommand.Fits, navigationTo])
  have hfault : restoredWindows .chrome [] [navigationTo [0, 0, 0, 128]] = .error .outOfRange := rfl
  rw [hfault] at hok
  cases hok

end ContextSnap.Browser.Session
