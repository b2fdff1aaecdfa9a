import ContextSnap.Browser.NativeMessaging
import ContextSnap.Lib.Program

/-!
# The browser extension

How the service worker of the extension reports the windows of its browser, and opens windows again
that the daemon asks for. What a browser may leave out is optional here, and `||` passes over an
empty text as it does over a missing one.
-/

namespace ContextSnap.Browser

open Json (Value)

structure ExtensionSettings where
  includeIncognito : Bool := false
  includeTabTitles : Bool := true

/-- A tab as the browser describes it. -/
structure ExtensionTab where
  id : Int64
  index : Int32
  pendingUrl : Option Bytes := none
  url : Option Bytes := none
  title : Option Bytes := none
  pinned : Bool := false
  active : Bool := false
  audible : Option Bool := none
  muted : Option Bool := none
  discarded : Option Bool := none
  incognito : Bool := false
  openerTabId : Option Int64 := none
  cookieStoreId : Option Bytes := none
  groupId : Option Int64 := none

structure ExtensionWindow where
  id : Int64
  type : Option Bytes := none
  state : Option Bytes := none
  focused : Bool := false
  incognito : Bool := false
  left : Option Int32 := none
  top : Option Int32 := none
  width : Option Int32 := none
  height : Option Int32 := none
  tabs : Option (List ExtensionTab) := none

/-- What the service worker finds when it is asked for the tabs. -/
structure BrowserState where
  settings : ExtensionSettings := {}
  isFirefox : Bool := false
  userAgent : Bytes := []
  windows : List ExtensionWindow := []
  /-- The tab groups with their titles, as the browser lists them. -/
  groups : List (Int64 × Option Bytes) := []

/-- `String(n)`. -/
def numberText (n : Int64) : Bytes := decimalInt n.toInt

/-- `text || fallback`. -/
def orElse (text : Option Bytes) (fallback : Bytes) : Bytes :=
  match text with
  | some (c :: rest) => c :: rest
  | _ => fallback

/-- Whether `part` occurs in a text. -/
def includes (text part : Bytes) : Bool := text.tails.any part.isPrefixOf

def browserName (browser : BrowserState) : Bytes :=
  if browser.isFirefox then str "firefox"
  else if includes browser.userAgent (str "Edg/") then str "edge"
  else if includes browser.userAgent (str "OPR/") then str "opera"
  else if includes browser.userAgent (str "Brave") then str "brave"
  else if includes browser.userAgent (str "Vivaldi") then str "vivaldi"
  else if includes browser.userAgent (str "Chrome/") then str "chrome"
  else str "chromium"

def windowState (window : ExtensionWindow) : Bytes :=
  match window.state with
  | some state =>
      if [str "maximized", str "minimized", str "fullscreen", str "docked"].contains state then
        state
      else str "normal"
  | none => str "normal"

/-- The title of a group; of two entries for one group the later one counts. -/
def groupTitle (groups : List (Int64 × Option Bytes)) (id : Int64) : Option Bytes :=
  (groups.reverse.find? (·.1 = id)).map fun group => orElse group.2 []

/-- The title that is reported for the group of a tab, if there is one. -/
def tabGroupTitle (browser : BrowserState) (tab : ExtensionTab) : Option Bytes :=
  tab.groupId.bind fun id => if 0 ≤ id then groupTitle browser.groups id else none

def cookieStore (tab : ExtensionTab) : Option Bytes :=
  tab.cookieStoreId.filter fun store => store ≠ []

def tabUrl (tab : ExtensionTab) : Bytes := orElse tab.pendingUrl (orElse tab.url [])

def tabTitle (browser : BrowserState) (tab : ExtensionTab) : Bytes :=
  if browser.settings.includeTabTitles then orElse tab.title [] else []

def serialiseTab (browser : BrowserState) (tab : ExtensionTab) : Value :=
  .object <|
    [(str "id", .string (numberText tab.id)), (str "index", .int tab.index.toInt64),
      (str "url", .string (tabUrl tab)), (str "title", .string (tabTitle browser tab)),
      (str "pinned", .bool tab.pinned), (str "active", .bool tab.active),
      (str "audible", .bool (tab.audible.getD false)),
      (str "muted", .bool (tab.muted.getD false)),
      (str "discarded", .bool (tab.discarded.getD false)),
      (str "incognito", .bool tab.incognito)]
    ++ Storage.optionalMember "opener_index" (tab.openerTabId.map .int)
    ++ Storage.optionalMember "cookieStoreId" ((cookieStore tab).map .string)
    ++ Storage.optionalMember "groupTitle" ((tabGroupTitle browser tab).map .string)

/-- The windows that are reported: not those that are private, unless the settings say so, and
neither devtools nor apps. -/
def reports (browser : BrowserState) (window : ExtensionWindow) : Bool :=
  !(window.incognito && !browser.settings.includeIncognito)
    && [str "normal", str "popup"].contains (orElse window.type (str "normal"))

def serialiseWindow (browser : BrowserState) (window : ExtensionWindow) : Value :=
  .object
    [(str "id", .string (numberText window.id)), (str "focused", .bool window.focused),
      (str "incognito", .bool window.incognito), (str "state", .string (windowState window)),
      (str "left", .int (window.left.getD 0).toInt64),
      (str "top", .int (window.top.getD 0).toInt64),
      (str "width", .int (window.width.getD 0).toInt64),
      (str "height", .int (window.height.getD 0).toInt64),
      (str "tabs", .array ((window.tabs.getD []).map (serialiseTab browser)))]

/-- `collectTabs`, up to the payload that it sends. -/
def collectTabs (requestId : Option Value) (browser : BrowserState) : Value :=
  .object
    [(str "requestId", requestId.getD .null), (str "browser", .string (browserName browser)),
      (str "profile", .string (str "default")), (str "protocol", .int 1),
      (str "windows",
        .array ((browser.windows.filter (reports browser)).map (serialiseWindow browser)))]

/-! ### Opening windows again -/

/-- The settings, with the one that only a restore reads. -/
structure RestoreSettings extends ExtensionSettings where
  restoreLazily : Bool := true

/-- Which browser this is, and which of the calls that not every browser has it offers. -/
structure BrowserApi where
  isFirefox : Bool := false
  discards : Bool := true
  updates : Bool := true
  queries : Bool := true

/-- The argument of `windows.create`. A member that is missing is left out. -/
structure CreateData where
  url : Option Value
  focused : Bool := false
  incognito : Bool
  left : Option Value := none
  top : Option Value := none
  width : Option Value := none
  height : Option Value := none
  state : Option Value := none

/-- The argument of `tabs.create`. -/
structure CreateProperties where
  windowId : Int64
  url : Option Value
  index : Option Value
  pinned : Bool
  active : Bool := false
  discarded : Bool := false
  title : Option Value := none

/-- The calls of the service worker on the browser and on its port. -/
inductive BrowserOp where
  | createWindow (data : CreateData)
  | createTab (properties : CreateProperties)
  /-- `tabs.discard`, whose outcome is not waited for. -/
  | discard (tabId : Int64)
  /-- `tabs.update` with `muted`, whose outcome is not waited for. -/
  | mute (tabId : Int64)
  /-- `tabs.query` for what is in a window at an index. -/
  | query (windowId : Int64) (index : Option Value)
  /-- `tabs.update` with `active`, whose failure is not fatal. -/
  | activate (tabId : Int64)
  | send (type : Bytes) (payload : Value)

/-- A call fails with the text of its error, or answers ids. -/
abbrev BrowserAnswer : BrowserOp → Type
  | .createWindow _ | .createTab _ => Except Bytes Int64
  | .query _ _ => Except Bytes (List Int64)
  | .discard _ | .mute _ | .activate _ | .send _ _ => Unit

abbrev Restoring := Program BrowserOp BrowserAnswer

def askBrowser (op : BrowserOp) : Restoring (BrowserAnswer op) := .operation op

/-- What counts as true. -/
def truthy : Option Value → Bool
  | none | some .null => false
  | some (.bool b) => b
  | some (.int i) => i ≠ 0
  | some (.double d) => d < 0.0 || 0.0 < d
  | some (.string s) => !s.isEmpty
  | some (.array _) | some (.object _) => true

/-- `value ?? undefined`. -/
def orUndefined (value : Option Value) : Option Value := value.filter (!·.isNull)

/-- `tab.index || 0`, of an index that is a whole number. -/
def tabIndex (tab : Value) : Int64 := (tab.find (str "index")).elim 0 (·.asInt 0)

/-- The items of a list that a host sends, or of none. -/
def listed (value : Value) (key : Bytes) : List Value := (value.find key).elim [] (·.asArray)

/-- The tabs of a window by their index. The sort of the source is stable, as this one is. -/
def sortedTabs (window : Value) : List Value :=
  (listed window (str "tabs")).mergeSort fun a b => tabIndex a ≤ tabIndex b

def errorPayload (what : String) (error : Bytes) (requestId : Option Value) : Value :=
  .object <|
    [(str "message", .string (str what ++ str " create failed: " ++ error))]
      ++ Storage.optionalMember "requestId" requestId

def resultPayload (requestId : Option Value) (restored : Nat) : Value :=
  .object
    [(str "requestId", requestId.getD .null), (str "tabsRestored", .int (.ofNat restored))]

section Restore

variable (api : BrowserApi) (settings : RestoreSettings)

/-- Only windows in the plain state accept explicit geometry. -/
def createData (window first : Value) : CreateData :=
  let data : CreateData :=
    { url := first.find (str "url")
      incognito := truthy (window.find (str "incognito")) && settings.includeIncognito }
  match window.find (str "state") with
  | some (.string state) =>
      if state = str "normal" then
        { data with
          left := orUndefined (window.find (str "left"))
          top := orUndefined (window.find (str "top"))
          width := orUndefined (window.find (str "width"))
          height := orUndefined (window.find (str "height")) }
      else if state = [] then data
      else { data with state := some (.string state) }
  | other => if truthy other then { data with state := other } else data

/-- Firefox creates a tab discarded, with the title that it shows until it is loaded. -/
def createProperties (lazyLoad : Bool) (windowId : Int64) (tab : Value) : CreateProperties :=
  let discarded := lazyLoad && api.isFirefox
  { windowId, url := tab.find (str "url"), index := tab.find (str "index")
    pinned := truthy (tab.find (str "pinned")), discarded
    title := if discarded && truthy (tab.find (str "title")) then tab.find (str "title") else none }

def sendError (what : String) (error : Bytes) (requestId : Option Value) : Restoring Unit :=
  askBrowser (.send (str "error") (errorPayload what error requestId))

variable (lazyLoad : Bool) (requestId : Option Value)

/-- Chromium cannot create a discarded tab. -/
def discardTab (tabId : Int64) : Restoring Unit :=
  if lazyLoad && !api.isFirefox && api.discards then askBrowser (.discard tabId) else pure ()

def muteTab (tab : Value) (tabId : Int64) : Restoring Unit :=
  if truthy (tab.find (str "muted")) && api.updates then askBrowser (.mute tabId) else pure ()

/-- One round of the loop over the tabs behind the first one, with the number of what is restored. -/
def restoreTab (windowId : Int64) (restored : Nat) (tab : Value) : Restoring Nat := do
  let created : Except Bytes Int64 ←
    askBrowser (.createTab (createProperties api lazyLoad windowId tab))
  match created with
  | .error error =>
      sendError "tab" error requestId
      return restored
  | .ok tabId =>
      discardTab api lazyLoad tabId
      muteTab api tab tabId
      return restored + 1

/-- Gives the focus within the window to what has the index of the first active tab. -/
def activateTab (windowId : Int64) (tabs : List Value) : Restoring Unit :=
  match tabs.find? fun tab => truthy (tab.find (str "active")) with
  | none => pure ()
  | some active =>
      if api.queries then do
        let candidates : Except Bytes (List Int64) ←
          askBrowser (.query windowId (active.find (str "index")))
        match candidates with
        | .ok (tabId :: _) => if api.updates then askBrowser (.activate tabId) else pure ()
        | _ => pure ()
      else pure ()

/-- One round of the loop over the windows. -/
def restoreWindow (restored : Nat) (window : Value) : Restoring Nat :=
  match sortedTabs window with
  | [] => return restored
  | first :: rest => do
      let created : Except Bytes Int64 ←
        askBrowser (.createWindow (createData settings window first))
      match created with
      | .error error =>
          sendError "window" error requestId
          return restored
      | .ok windowId =>
          let restored ← rest.foldlM (restoreTab api lazyLoad requestId windowId) (restored + 1)
          activateTab api windowId (first :: rest)
          return restored

end Restore

/-- `payload.lazyLoad !== false && config.restoreLazily`. -/
def loadsLazily (settings : RestoreSettings) (payload : Value) : Bool :=
  (match payload.find (str "lazyLoad") with
    | some (.bool false) => false
    | _ => true) && settings.restoreLazily

/-- `restoreTabs`. -/
def restoreTabs (api : BrowserApi) (settings : RestoreSettings) (payload : Value) :
    Restoring Unit := do
  let requestId := payload.find (str "requestId")
  let restored ← (listed payload (str "windows")).foldlM
    (restoreWindow api settings (loadsLazily settings payload) requestId) 0
  askBrowser (.send (str "restoreResult") (resultPayload requestId restored))

end ContextSnap.Browser
