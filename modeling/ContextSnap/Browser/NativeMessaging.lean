import ContextSnap.Browser.Bridge
import ContextSnap.Storage.Serialization

/-!
# Messages of the browser extension

The messages between an extension and the daemon, the payload that an extension reports its windows
in, and the one that it is asked to open windows with again.
-/

namespace ContextSnap.Browser

open Json (Value)
open Storage (optionalMember readBool readInt readInt32 readString tabFromJson)

def kNativeMessagingVersion : UInt32 := 1

structure ExtensionMessage where
  type : Bytes
  payload : Value := .null

def ExtensionMessage.fromJson (value : Value) : Result ExtensionMessage :=
  match value.find (str "type") with
  | some (.string (c :: rest)) =>
      .ok { type := c :: rest, payload := (value.find (str "payload")).getD .null }
  | _ =>
      .error (Err.protocol (str "extension message is missing a string \"type\"")
        (str "browser.native"))

structure HostMessage where
  type : Bytes
  payload : Value := .null

def HostMessage.toJson (message : HostMessage) : Value :=
  .object
    [(str "type", .string message.type),
      (str "version", .int kNativeMessagingVersion.toUInt64.toInt64),
      (str "payload", message.payload)]

/-! ### Reported windows -/

/-- The id becomes a `std::string` by the assignment of one `char`. -/
def extensionId (entry : Value) : Bytes :=
  (entry.find (str "id")).elim [] fun id => [(id.asInt 0).toUInt64.toUInt8]

/-- A tab that is no object is left out. -/
def parseTabs (entry : Value) : List TabInfo :=
  ((entry.find (str "tabs")).elim [] (·.asArray)).filterMap fun tab => (tabFromJson tab).toOption

/-- One window of the array. -/
def parseWindow (browser : BrowserKind) (profile : Bytes) (entry : Value) : BrowserWindow :=
  { extensionWindowId := extensionId entry, browser, profile
    frame :=
      { x := readInt32 entry "left", y := readInt32 entry "top"
        width := readInt32 entry "width", height := readInt32 entry "height" }
    focused := readBool entry "focused" false
    incognito := readBool entry "incognito" false
    state := readString entry "state"
    tabs := parseTabs entry }

/-- The kind that a payload names, or none. -/
def reportedBrowser (payload : Value) : BrowserKind :=
  (payload.find (str "browser")).elim .none fun name => browserKindFromString (name.asString [])

def parseTabsMessage (payload : Value) : Result (List BrowserWindow) :=
  match payload.find (str "windows") with
  | some (.array windows) =>
      .ok (windows.map (parseWindow (reportedBrowser payload) (readString payload "profile")))
  | _ =>
      .error (Err.protocol (str "tabs message has no \"windows\" array") (str "browser.native"))

/-! ### Windows to open -/

/-- A tab to open. Those in the background are discarded right away. -/
def tabEntry (lazyLoad : Bool) (tab : TabInfo) : Value :=
  .object <|
    [(str "url", .string tab.url), (str "title", .string tab.title),
      (str "index", .int tab.index.toInt64), (str "pinned", .bool tab.pinned),
      (str "active", .bool tab.active), (str "muted", .bool tab.muted),
      (str "discarded", .bool (lazyLoad && !tab.active))]
    ++ optionalMember "cookieStoreId" (tab.cookieStoreId.map .string)
    ++ optionalMember "groupTitle" (tab.groupTitle.map .string)

def windowEntry (lazyLoad : Bool) (window : BrowserWindow) : Value :=
  .object
    [(str "browser", .string (str window.browser.toText)), (str "profile", .string window.profile),
      (str "incognito", .bool window.incognito), (str "state", .string window.state),
      (str "left", .int window.frame.x.toInt64), (str "top", .int window.frame.y.toInt64),
      (str "width", .int window.frame.width.toInt64),
      (str "height", .int window.frame.height.toInt64),
      (str "tabs", .array (window.tabs.map (tabEntry lazyLoad)))]

def buildRestoreMessage (windows : List BrowserWindow) (lazyLoad : Bool) : Value :=
  .object
    [(str "lazyLoad", .bool lazyLoad), (str "windows", .array (windows.map (windowEntry lazyLoad)))]

end ContextSnap.Browser
