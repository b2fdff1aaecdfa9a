import ContextSnap.Browser.Extension
import ContextSnap.Proof.Serialization

/-!
# The tabs message

What the daemon makes of the windows that the extension reports. The id of a window, the cookie
store of a tab and the title of its group do not arrive, and a tab's opener arrives as an id.
-/

namespace ContextSnap.Browser

open Json (Value)
open Storage (optionalMember optionalString readBool readInt readInt32 readString tabFromJson)

variable {browser : BrowserState} {tab : ExtensionTab} {window : ExtensionWindow}

/-! ### What arrives -/

/-- A tab as the daemon reads it. -/
def reportedTab (browser : BrowserState) (tab : ExtensionTab) : TabInfo :=
  { id := numberText tab.id, index := tab.index, url := tabUrl tab, title := tabTitle browser tab
    openerIndex := tab.openerTabId.map Int64.toInt32
    pinned := tab.pinned, active := tab.active, audible := tab.audible.getD false
    muted := tab.muted.getD false, discarded := tab.discarded.getD false
    incognito := tab.incognito }

def windowFrame (window : ExtensionWindow) : Rect :=
  { x := window.left.getD 0, y := window.top.getD 0
    width := window.width.getD 0, height := window.height.getD 0 }

/-- A window as the daemon reads it: `as_int` of the text of its id is zero. -/
def reportedWindow (browser : BrowserState) (window : ExtensionWindow) : BrowserWindow :=
  { extensionWindowId := [0], browser := browserKindFromString (browserName browser)
    profile := str "default", frame := windowFrame window
    focused := window.focused, incognito := window.incognito, state := windowState window
    tabs := (window.tabs.getD []).map (reportedTab browser) }

def payloadWindows (browser : BrowserState) : List ExtensionWindow :=
  browser.windows.filter (reports browser)

section Members

variable {members : Json.Object} {key : Bytes} {value : Option Value} {name : String}

theorem find_optionalMember (hne : str name ≠ key) :
    (Value.object (members ++ optionalMember name value)).find key
      = (Value.object members).find key := by
  cases value with
  | none => simp [optionalMember]
  | some value => simp [optionalMember, hne]

theorem find_optionalMember_of_none (h : (Value.object members).find (str name) = none) :
    (Value.object (members ++ optionalMember name value)).find (str name) = value := by
  cases value with
  | none => simpa [optionalMember] using h
  | some value => simp [optionalMember, h]

end Members

theorem find_serialiseTab {key : String} (hcookie : key ≠ "cookieStoreId")
    (hgroup : key ≠ "groupTitle") (hopener : key ≠ "opener_index") :
    (serialiseTab browser tab).find (str key)
      = (Value.object
          [(str "id", .string (numberText tab.id)), (str "index", .int tab.index.toInt64),
            (str "url", .string (tabUrl tab)), (str "title", .string (tabTitle browser tab)),
            (str "pinned", .bool tab.pinned), (str "active", .bool tab.active),
            (str "audible", .bool (tab.audible.getD false)),
            (str "muted", .bool (tab.muted.getD false)),
            (str "discarded", .bool (tab.discarded.getD false)),
            (str "incognito", .bool tab.incognito)]).find (str key) := by
  have hne : ∀ {name : String}, key ≠ name → str name ≠ str key :=
    fun h heq => h (str_inj.mp heq).symm
  rw [serialiseTab, find_optionalMember (hne hgroup), find_optionalMember (hne hcookie),
    find_optionalMember (hne hopener)]

theorem find_opener :
    (serialiseTab browser tab).find (str "opener_index") = tab.openerTabId.map .int := by
  rw [serialiseTab, find_optionalMember (by simp [str_inj]), find_optionalMember (by simp [str_inj]),
    find_optionalMember_of_none (by simp [str_inj])]

/-- What the extension says about a tab that the daemon reads. -/
theorem tabFromJson_serialiseTab (browser : BrowserState) (tab : ExtensionTab) :
    tabFromJson (serialiseTab browser tab) = .ok (reportedTab browser tab) := by
  have hopener : (((serialiseTab browser tab).find (str "opener_index")).bind fun opener =>
      if opener.isNull then none else some (opener.asInt (-1)).toInt32)
        = tab.openerTabId.map Int64.toInt32 := by
    rw [find_opener]
    cases tab.openerTabId <;> rfl
  rw [tabFromJson, hopener]
  simp [optionalString, readString, readInt32, readInt, readBool, find_serialiseTab, str_inj,
    Value.asString, Value.asInt, Value.asBool, reportedTab]
  rfl

theorem parseWindow_serialiseWindow (kind : BrowserKind) (profile : Bytes)
    (browser : BrowserState) (window : ExtensionWindow) :
    parseWindow kind profile (serialiseWindow browser window)
      = { reportedWindow browser window with browser := kind, profile } := by
  have htabs : parseTabs (serialiseWindow browser window)
      = (window.tabs.getD []).map (reportedTab browser) := by
    simp [parseTabs, serialiseWindow, str_inj, Value.asArray,
      tabFromJson_serialiseTab, Except.toOption]
  rw [parseWindow, htabs]
  simp [serialiseWindow, extensionId, readString, readInt32, readInt, readBool, str_inj,
    Value.asString, Value.asInt, Value.asBool, reportedWindow, windowFrame]
  rfl

/-- What the daemon makes of a payload. -/
theorem parseTabsMessage_collectTabs (requestId : Option Value) (browser : BrowserState) :
    parseTabsMessage (collectTabs requestId browser)
      = .ok ((payloadWindows browser).map (reportedWindow browser)) := by
  have hwindows : (collectTabs requestId browser).find (str "windows")
      = some (.array ((payloadWindows browser).map (serialiseWindow browser))) := by
    simp [collectTabs, payloadWindows, str_inj]
  have hbrowser : reportedBrowser (collectTabs requestId browser)
      = browserKindFromString (browserName browser) := by
    simp [reportedBrowser, collectTabs, str_inj, Value.asString]
  have hprofile : readString (collectTabs requestId browser) "profile" = str "default" := by
    simp [readString, collectTabs, str_inj, Value.asString]
  rw [parseTabsMessage, hwindows, hbrowser, hprofile]
  simp only [List.map_map]
  congr 2
  funext window
  exact parseWindow_serialiseWindow _ _ browser window

/-! ### Agreement -/

/-- The position of the tab that opened this one. -/
def openerPosition (tabs : List ExtensionTab) (tab : ExtensionTab) : Option Int32 :=
  tab.openerTabId.bind fun opener => (tabs.find? (·.id = opener)).map ExtensionTab.index

/-- The tab carries all that was put into it. -/
structure TabAgrees (browser : BrowserState) (tabs : List ExtensionTab) (tab : ExtensionTab)
    (parsed : TabInfo) : Prop where
  id : parsed.id = numberText tab.id
  index : parsed.index = tab.index
  url : parsed.url = tabUrl tab
  title : parsed.title = tabTitle browser tab
  pinned : parsed.pinned = tab.pinned
  active : parsed.active = tab.active
  audible : parsed.audible = tab.audible.getD false
  muted : parsed.muted = tab.muted.getD false
  discarded : parsed.discarded = tab.discarded.getD false
  incognito : parsed.incognito = tab.incognito
  cookieStoreId : parsed.cookieStoreId = cookieStore tab
  groupTitle : parsed.groupTitle = tabGroupTitle browser tab
  opener : parsed.openerIndex = openerPosition tabs tab

structure WindowAgrees (browser : BrowserState) (window : ExtensionWindow)
    (parsed : BrowserWindow) : Prop where
  id : parsed.extensionWindowId = numberText window.id
  frame : parsed.frame = windowFrame window
  focused : parsed.focused = window.focused
  incognito : parsed.incognito = window.incognito
  state : parsed.state = windowState window
  tabs : List.Forall₂ (TabAgrees browser (window.tabs.getD [])) (window.tabs.getD []) parsed.tabs

/-- One window for each window of the payload, in order and as it was sent. -/
def Agrees (requestId : Option Value) (browser : BrowserState) : Prop :=
  ∃ parsed, parseTabsMessage (collectTabs requestId browser) = .ok parsed
    ∧ List.Forall₂ (WindowAgrees browser) (payloadWindows browser) parsed

/-- A number is not written as a single zero byte. -/
theorem numberText_ne_zero (n : Int64) : numberText n ≠ [0] := by
  intro h
  have hmem : (0 : UInt8) ∈ numberText n := h ▸ List.mem_singleton_self _
  rw [numberText, decimalInt] at hmem
  split_ifs at hmem
  · obtain hsign | hdigit := List.mem_append.mp hmem
    · exact absurd hsign (by decide)
    · exact absurd (isDigit_of_mem_decimal hdigit) (by decide)
  · exact absurd (isDigit_of_mem_decimal hmem) (by decide)

theorem not_windowAgrees (browser : BrowserState) (window : ExtensionWindow) :
    ¬WindowAgrees browser window (reportedWindow browser window) :=
  fun h => numberText_ne_zero window.id h.id.symm

/-- **The tabs message.** The two sides agree on a payload without windows only: no window keeps its
id. Of a tab all arrives but its cookie store and the title of its group, and its opener as an id. -/
theorem tabsMessage_agrees_iff (requestId : Option Value) (browser : BrowserState) :
    (Agrees requestId browser ↔ payloadWindows browser = [])
      ∧ ∀ window ∈ payloadWindows browser, ∀ tab ∈ window.tabs.getD [],
        TabAgrees browser (window.tabs.getD []) tab (reportedTab browser tab)
          ↔ cookieStore tab = none ∧ tabGroupTitle browser tab = none
            ∧ tab.openerTabId.map Int64.toInt32 = openerPosition (window.tabs.getD []) tab := by
  refine ⟨⟨?_, ?_⟩, ?_⟩
  · rintro ⟨parsed, hparse, hagree⟩
    rw [parseTabsMessage_collectTabs] at hparse
    cases hparse
    cases hwindows : payloadWindows browser with
    | nil => rfl
    | cons window windows =>
        rw [hwindows, List.map_cons] at hagree
        exact absurd (List.forall₂_cons.mp hagree).1 (not_windowAgrees browser window)
  · intro hnone
    refine ⟨_, parseTabsMessage_collectTabs requestId browser, ?_⟩
    rw [hnone]
    exact .nil
  · intro window _ tab _
    constructor
    · intro h
      exact ⟨h.cookieStoreId.symm, h.groupTitle.symm, h.opener⟩
    · rintro ⟨hcookie, hgroup, hopener⟩
      exact ⟨rfl, rfl, rfl, rfl, rfl, rfl, rfl, rfl, rfl, rfl, hcookie.symm, hgroup.symm, hopener⟩

/-- One window of one tab, which another window holds the opener of. -/
theorem not_agrees : ¬∀ (requestId : Option Value) (browser : BrowserState),
    Agrees requestId browser := by
  intro hagrees
  obtain ⟨parsed, hparse, hagree⟩ := hagrees none
    { windows := [{ id := 7, tabs := some [{ id := 8, index := 0, openerTabId := some 3 }] }] }
  rw [parseTabsMessage_collectTabs] at hparse
  cases hparse
  exact absurd (List.forall₂_cons.mp hagree).1 (not_windowAgrees _ _)

end ContextSnap.Browser
