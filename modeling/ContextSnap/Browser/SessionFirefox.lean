import ContextSnap.Browser.Bridge
import ContextSnap.Core.Json
import ContextSnap.Lib.Buffer
import ContextSnap.Lib.Loop

/-!
# Firefox session files

The recovery file of Firefox is a compressed JSON document. The decoder of the compressed block is
part of the program; its positions and lengths are unbounded numbers here, as no input is so long
that their sums would not fit in a `std::size_t`.
-/

namespace ContextSnap.Browser.Session

open Buffer
open Json (Value)

/-! ### LZ4 -/

/-- One round of a loop that adds extension bytes to a length: the position and the length. -/
def extendLengthBody (input : Bytes) :
    Nat × Nat → Except Fault ((Nat × Nat) ⊕ Option (Nat × Nat))
  | (position, length) =>
      if position ≥ input.length then
        return .inr none
      else do
        let extra ← read input position
        let length := length + extra.toNat
        if extra = 255 then return .inl (position + 1, length)
        else return .inr (some (position + 1, length))

/-- The position behind a length and the length, which `none` says is truncated. -/
def extendLength (input : Bytes) (position nibble : Nat) : Except Fault (Option (Nat × Nat)) :=
  if nibble = 15 then
    Loop.run (extendLengthBody input) .endless (input.length - position + 1) (position, nibble)
  else
    return some (position, nibble)

/-- The bytes of a match are appended one by one, and later ones may copy earlier ones. -/
def copyMatch (out : Bytes) (offset length : Nat) : Except Fault Bytes :=
  let start := out.length - offset
  (List.range length).foldlM (fun out i => do
    let c ← read out (start + i)
    return out ++ [c]) out

/-- The part of a sequence behind its literals, which the last one does not have. `none` is
`false`. -/
def decompressMatch (input : Bytes) (token : UInt8) (position : Nat) (out : Bytes) :
    Except Fault ((Nat × Bytes) ⊕ Option Bytes) :=
  if position = input.length then
    return .inr (some out)
  else if position + 2 > input.length then
    return .inr none
  else do
    let low ← read input position
    let high ← read input (position + 1)
    let offset := littleEndian16 low high
    if offset = 0 ∨ offset > out.length then
      return .inr none
    else
      match ← extendLength input (position + 2) (token &&& 0x0F).toNat with
      | none => return .inr none
      | some (position, matchLength) =>
          let out ← copyMatch out offset (matchLength + 4)
          return .inl (position, out)

/-- One round of `lz4_block_decompress`: the position and the output so far. -/
def lz4BlockDecompressBody (input : Bytes) :
    Nat × Bytes → Except Fault ((Nat × Bytes) ⊕ Option Bytes)
  | (position, out) =>
      if position < input.length then do
        let token ← read input position
        match ← extendLength input (position + 1) (token >>> 4).toNat with
        | none => return .inr none
        | some (position, literalLength) =>
            if position + literalLength > input.length then
              return .inr none
            else
              let literals ← readMany input position literalLength
              decompressMatch input token (position + literalLength) (out ++ literals)
      else
        return .inr (some out)

def lz4BlockDecompress (input : Bytes) : Except Fault (Option Bytes) :=
  Loop.run (lz4BlockDecompressBody input) .endless (input.length + 1) (0, [])

def declaredSize (b0 b1 b2 b3 : UInt8) : Nat :=
  b0.toNat ||| (b1.toNat <<< 8) ||| (b2.toNat <<< 16) ||| (b3.toNat <<< 24)

def decompressMozlz4 (input : Bytes) : Except Fault (Result Bytes) :=
  if input.length < 12 ∨ input.take 7 ≠ str "mozLz40" then
    return .error (Err.protocol (str "not a mozlz4 file") (str "browser.firefox"))
  else do
    let expected := declaredSize (← read input 8) (← read input 9) (← read input 10)
      (← read input 11)
    match ← lz4BlockDecompress (input.drop 12) with
    | none =>
        return .error (Err.protocol (str "mozlz4 payload is truncated or corrupt")
          (str "browser.firefox"))
    | some out =>
        if expected ≠ 0 ∧ out.length ≠ expected then
          return .error (Err.protocol
            (str "mozlz4 size mismatch (expected " ++ decimal expected ++ str ", got "
              ++ decimal out.length ++ str ")") (str "browser.firefox"))
        else
          return .ok out

/-! ### The recovery document -/

/-- `std::atoi` of glibc: the `long` that the numeral is closest to, cut to an `int`. -/
def atoi (text : Bytes) : Int32 :=
  (strtoll text).elim 0 fun numeral =>
    (Int64.ofInt (max (-2 ^ 63) (min numeral.1 (2 ^ 63 - 1)))).toInt32

/-- A geometry member, which is a number or the text of one. -/
def readGeometry (entry : Value) (key : String) : Int32 :=
  match entry.find (str key) with
  | some (.string text) => atoi text
  | some value => (value.asInt 0).toInt32
  | none => 0

/-- The history entries of a tab; one without any is passed over. -/
def historyEntries (tab : Value) : List Value := (tab.find (str "entries")).elim [] (·.asArray)

/-- The entry at the 1-based index of a tab, or else the last one. -/
def visibleEntry (tab : Value) : Value :=
  let entries := historyEntries tab
  let last := entries.length - 1
  let entryIndex :=
    match tab.find (str "index") with
    | some index =>
        if 0 < index.asInt 0 then
          let candidate := (index.asInt 0).toUInt64.toNat - 1
          if candidate < entries.length then candidate else last
        else last
    | none => last
  entries.getD entryIndex .null

/-- A tab, whose id becomes a `std::string` by the assignment of one `char`. -/
def sessionTab (index : Int32) (tab : Value) : TabInfo :=
  let entry := visibleEntry tab
  { id := [index.toUInt32.toUInt8], index
    url := (entry.find (str "url")).elim [] (·.asString [])
    title := (entry.find (str "title")).elim [] (·.asString [])
    pinned := (tab.find (str "pinned")).elim false (·.asBool false)
    discarded := (tab.find (str "hidden")).elim false (·.asBool false)
    cookieStoreId := (tab.find (str "userContextId")).bind fun cookies =>
      if 0 < cookies.asInt 0 then
        some (str "firefox-container-" ++ decimalInt (cookies.asInt 0).toInt)
      else none
    scrollY := ((tab.find (str "scroll")).bind (·.find (str "scrollY"))).elim 0 fun y =>
      (y.asDouble 0).toInt32 }

/-- The loop of `append_tabs`. A tab without a URL is dropped after it has been numbered. -/
def appendTabs : Int32 → List Value → List TabInfo
  | _, [] => []
  | index, tab :: tabs =>
      if historyEntries tab = [] then
        appendTabs index tabs
      else
        let info := sessionTab index tab
        if info.url = [] then appendTabs (index + 1) tabs
        else info :: appendTabs (index + 1) tabs

/-- The tab at a 1-based position becomes active, if there is one. -/
def activateTab (selected : Int64) (tabs : List TabInfo) : List TabInfo :=
  let active := selected.toUInt64.toNat
  if 1 ≤ active ∧ active ≤ tabs.length then
    tabs.modify (active - 1) fun tab => { tab with active := true }
  else
    tabs

def recoveredWindow (profile : Bytes) (selectedWindow ordinal : Int64) (entry : Value) :
    BrowserWindow :=
  let tabs := appendTabs 0 ((entry.find (str "tabs")).elim [] (·.asArray))
  { extensionWindowId := [ordinal.toUInt64.toUInt8], browser := .firefox, profile
    focused := ordinal = selectedWindow
    incognito := (entry.find (str "isPrivate")).elim false (·.asBool false)
    state := (entry.find (str "sizemode")).elim [] (·.asString [])
    frame :=
      { x := readGeometry entry "screenX", y := readGeometry entry "screenY"
        width := readGeometry entry "width", height := readGeometry entry "height" }
    tabs := (entry.find (str "selected")).elim tabs fun selected =>
      activateTab (selected.asInt 0) tabs }

/-- The windows of the document, numbered from one, without those that have no tabs. -/
def recoveredWindows (profile : Bytes) (selectedWindow : Int64) : Int64 → List Value →
    List BrowserWindow
  | _, [] => []
  | ordinal, entry :: entries =>
      let window := recoveredWindow profile selectedWindow (ordinal + 1) entry
      let rest := recoveredWindows profile selectedWindow (ordinal + 1) entries
      if window.tabs = [] then rest else window :: rest

def parseFirefoxRecovery (text profile : Bytes) : Result (List BrowserWindow) := do
  let document ← Json.parse text
  match document.find (str "windows") with
  | some (.array entries) =>
      let selectedWindow := (document.find (str "selectedWindow")).elim 1 (·.asInt 0)
      let result := recoveredWindows profile selectedWindow 0 entries
      if result = [] then
        .error (Err.notFound (str "recovery file had no restorable tabs") (str "browser.firefox"))
      else
        .ok result
  | _ => .error (Err.protocol (str "recovery file has no windows array") (str "browser.firefox"))

end ContextSnap.Browser.Session
