import ContextSnap.Browser.Bridge
import ContextSnap.Ipc.Frame
import ContextSnap.Lib.Buffer
import ContextSnap.Lib.Loop
import Std.Data.TreeMap

/-!
# Chromium session files

Without an extension the tabs of a Chromium browser are read from its session file, a header and a
stream of commands. Nothing about the file can be trusted, so every read of it goes through
`Buffer`.
-/

namespace ContextSnap.Browser.Session

open Buffer

/-! ### Pickles -/

/-- Little-endian readers over a payload. A read answers `none` where the source returns false, and
its reader is the one it leaves behind. -/
structure Reader where
  data : Bytes
  size : UInt64
  offset : UInt64 := 0
  deriving DecidableEq

namespace Reader

def ofPayload (payload : Bytes) : Reader := { data := payload, size := payload.length.toUInt64 }

def readU32 (reader : Reader) : Except Fault (Option UInt32 × Reader) :=
  if reader.offset + 4 > reader.size then
    return (none, reader)
  else do
    let b0 ← read reader.data reader.offset.toNat
    let b1 ← read reader.data (reader.offset + 1).toNat
    let b2 ← read reader.data (reader.offset + 2).toNat
    let b3 ← read reader.data (reader.offset + 3).toNat
    return (some (Ipc.frameLength b0 b1 b2 b3), { reader with offset := reader.offset + 4 })

def readI32 (reader : Reader) : Except Fault (Option Int32 × Reader) := do
  let (value, reader) ← reader.readU32
  return (value.map UInt32.toInt32, reader)

def align (reader : Reader) : Reader := { reader with offset := (reader.offset + 3) &&& ~~~3 }

def readString (reader : Reader) : Except Fault (Option Bytes × Reader) := do
  match ← reader.readU32 with
  | (none, reader) => return (none, reader)
  | (some length, reader) =>
      if length.toUInt64 > reader.size - reader.offset then
        return (none, reader)
      else
        let text ← readMany reader.data reader.offset.toNat length.toNat
        return (some text, align { reader with offset := reader.offset + length.toUInt64 })

/-- The bytes that `read_string16` pushes for a code point. -/
def pushUtf8 (code : UInt32) : Bytes :=
  let lead (mark shift : UInt32) := (mark ||| (code >>> shift)).toUInt8
  let tail (shift : UInt32) := ((0x80 : UInt32) ||| ((code >>> shift) &&& 0x3F)).toUInt8
  let last := ((0x80 : UInt32) ||| (code &&& 0x3F)).toUInt8
  if code < 0x80 then [code.toUInt8]
  else if code < 0x800 then [lead 0xC0 6, last]
  else if code < 0x10000 then [lead 0xE0 12, tail 6, last]
  else [lead 0xF0 18, tail 12, tail 6, last]

def readUnit (data : Bytes) (offset : UInt64) : Except Fault UInt32 := do
  let low ← read data offset.toNat
  let high ← read data (offset + 1).toNat
  return low.toUInt32 ||| (high.toUInt32 <<< 8)

/-- The low half of a surrogate pair at the offset, when `more` units follow the unit `code`. -/
def readLowSurrogate (data : Bytes) (code : UInt32) (more : Bool) (offset : UInt64) :
    Except Fault (Option UInt32) :=
  if code ≥ 0xD800 ∧ code ≤ 0xDBFF ∧ more then do
    let low ← readUnit data offset
    return if low ≥ 0xDC00 ∧ low ≤ 0xDFFF then some low else none
  else
    return none

/-- One round of the loop of `read_string16`: the index, the offset and the text so far. -/
def readUnitsBody (data : Bytes) (units : UInt32) :
    UInt32 × UInt64 × Bytes → Except Fault ((UInt32 × UInt64 × Bytes) ⊕ (UInt64 × Bytes))
  | (i, offset, out) =>
      if i < units then do
        let code ← readUnit data offset
        match ← readLowSurrogate data code (i + 1 < units) (offset + 2) with
        | some low =>
            let code := (0x10000 : UInt32) + ((code - 0xD800) <<< 10) + (low - 0xDC00)
            return .inl (i + 1 + 1, offset + 2 + 2, out ++ pushUtf8 code)
        | none => return .inl (i + 1, offset + 2, out ++ pushUtf8 code)
      else
        return .inr (offset, out)

def readUnits (data : Bytes) (units : UInt32) (offset : UInt64) : Except Fault (UInt64 × Bytes) :=
  Loop.run (readUnitsBody data units) .endless (units.toNat + 1) (0, offset, [])

/-- The unit count is doubled in 32 bits. -/
def readString16 (reader : Reader) : Except Fault (Option Bytes × Reader) := do
  match ← reader.readU32 with
  | (none, reader) => return (none, reader)
  | (some units, reader) =>
      if (units * 2).toUInt64 > reader.size - reader.offset then
        return (none, reader)
      else
        let (offset, out) ← readUnits reader.data units reader.offset
        return (some out, align { reader with offset })

end Reader

/-! ### The command stream -/

structure SnssCommand where
  id : UInt8 := 0
  payload : Bytes := []
  deriving DecidableEq

/-- One round of the loop of `parse_snss`: the offset and the commands read so far. -/
def parseSnssBody (data : Bytes) :
    Nat × List SnssCommand → Except Fault ((Nat × List SnssCommand) ⊕ List SnssCommand)
  | (offset, commands) =>
      if offset + 3 ≤ data.length then do
        let low ← read data offset
        let high ← read data (offset + 1)
        let size := littleEndian16 low high
        let offset := offset + 2
        if size = 0 ∨ offset + size > data.length then
          return .inr commands
        else
          let id ← read data offset
          let payload ← readMany data (offset + 1) (size - 1)
          return .inl (offset + size, commands ++ [{ id, payload }])
      else
        return .inr commands

def parseSnss (data : Bytes) : Except Fault (Result (List SnssCommand)) :=
  if data.length < 8 ∨ data.take 4 ≠ str "SNSS" then
    return .error (Err.protocol (str "not an SNSS session file") (str "browser.session"))
  else do
    let commands ← Loop.run (parseSnssBody data) .endless (data.length - 8 + 1) (8, [])
    if commands = [] then
      return .error
        (Err.protocol (str "session file contained no commands") (str "browser.session"))
    else
      return .ok commands

/-! ### Windows and tabs -/

def kCommandSetTabWindow : UInt8 := 0

def kCommandUpdateTabNavigation : UInt8 := 6

def kCommandSetSelectedNavigationIndex : UInt8 := 7

def kCommandSetActiveWindow : UInt8 := 20

/-- The entries map an index to a URL and a title. -/
structure TabState where
  windowId : Int32 := 0
  selectedIndex : Int32 := 0
  entries : Std.TreeMap Int32 (Bytes × Bytes) := ∅

structure SessionState where
  tabs : Std.TreeMap Int32 TabState := ∅
  activeWindow : Int32 := 0

/-- `tabs[id]`, which makes a tab that is not there, and what is assigned to its fields. -/
def SessionState.modifyTab (state : SessionState) (id : Int32) (change : TabState → TabState) :
    SessionState :=
  { state with tabs := state.tabs.insert id (change (state.tabs.getD id {})) }

structure Navigation where
  tabId : Int32
  index : Int32
  url : Bytes
  title : Bytes

/-- What a navigation command carries in front of its title, and the reader behind it. -/
def readNavigationHead (reader : Reader) :
    Except Fault (Option (Int32 × Int32 × Bytes × Reader)) := do
  let (some _, reader) ← reader.readU32 | return none
  let (some tabId, reader) ← reader.readI32 | return none
  let (some index, reader) ← reader.readI32 | return none
  let (some url, reader) ← reader.readString | return none
  return some (tabId, index, url, reader)

def readNavigation (reader : Reader) : Except Fault (Option Navigation) := do
  let some (tabId, index, url, reader) ← readNavigationHead reader | return none
  let (title, _) ← reader.readString16
  return some { tabId, index, url, title := title.getD [] }

def readTwo (reader : Reader) : Except Fault (Option (Int32 × Int32)) := do
  let (some first, reader) ← reader.readI32 | return none
  let (some second, _) ← reader.readI32 | return none
  return some (first, second)

def acceptedUrl (url : Bytes) : Bool :=
  (str "http").isPrefixOf url || (str "file").isPrefixOf url || (str "chrome").isPrefixOf url

/-- One round of the loop over the commands. -/
def applyCommand (state : SessionState) (command : SnssCommand) : Except Fault SessionState := do
  let reader := Reader.ofPayload command.payload
  if command.id = kCommandUpdateTabNavigation then
    let some navigation ← readNavigation reader | return state
    if acceptedUrl navigation.url then
      return state.modifyTab navigation.tabId fun tab => { tab with
        entries := tab.entries.insert navigation.index (navigation.url, navigation.title) }
    else
      return state
  else if command.id = kCommandSetSelectedNavigationIndex then
    let some (tabId, index) ← readTwo reader | return state
    return state.modifyTab tabId fun tab => { tab with selectedIndex := index }
  else if command.id = kCommandSetTabWindow then
    let some (windowId, tabId) ← readTwo reader | return state
    return state.modifyTab tabId fun tab => { tab with windowId }
  else if command.id = kCommandSetActiveWindow then
    let (activeWindow, _) ← reader.readI32
    return { state with activeWindow := activeWindow.getD state.activeWindow }
  else
    return state

def TabState.shown (tab : TabState) : Option (Bytes × Bytes) :=
  match tab.entries[tab.selectedIndex]? with
  | some entry => some entry
  | none => tab.entries.maxKey?.bind fun index => tab.entries[index]?

/-- The assignment of an integer to a `std::string`, which assigns one `char`. -/
def assignChar (n : Int32) : Bytes := [n.toUInt32.toUInt8]

section Windows

variable (browser : BrowserKind) (profile : Bytes) (activeWindow : Int32)

/-- A tab without entries is passed over; any other goes to the end of its window. -/
def addTab (windows : Std.TreeMap Int32 BrowserWindow) (entry : Int32 × TabState) :
    Std.TreeMap Int32 BrowserWindow :=
  match entry.2.shown with
  | none => windows
  | some (url, title) =>
      let windowId := entry.2.windowId
      let window := windows.getD windowId {}
      windows.insert windowId
        { window with
          browser, profile
          extensionWindowId := assignChar windowId
          focused := windowId = activeWindow
          tabs := window.tabs ++
            [{ id := assignChar entry.1, index := Int32.ofNat window.tabs.length, url, title }] }

def activateFirst (window : BrowserWindow) : BrowserWindow :=
  { window with tabs := window.tabs.modifyHead fun tab => { tab with active := true } }

/-- `read_chromium_session` once the file is parsed. -/
def restoredWindows (commands : List SnssCommand) : Except Fault (Result (List BrowserWindow)) := do
  let state ← commands.foldlM applyCommand {}
  let windows := state.tabs.toList.foldl (addTab browser profile state.activeWindow) ∅
  let result := (windows.toList.filter fun entry => entry.2.tabs ≠ []).map fun entry =>
    activateFirst entry.2
  if result = [] then
    return .error (Err.notFound (str "session file had no restorable tabs") (str "browser.session"))
  else
    return .ok result

/-- The contents are what `read_file_bytes` answers for the path. -/
def readChromiumSession (contents : Result Bytes) : Except Fault (Result (List BrowserWindow)) :=
  match contents with
  | .error error => return .error error
  | .ok bytes => do
      match ← parseSnss bytes with
      | .error error => return .error error
      | .ok commands => restoredWindows browser profile commands

end Windows

end ContextSnap.Browser.Session
