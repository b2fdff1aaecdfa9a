import ContextSnap.Core.Types

/-!
# Window correlation

How alike a saved window and a live one are: application ids and titles are normalized before they
are compared, titles by their words and by their edit distance, frames by their overlap and by the
distance of their centres. Scores are doubles and computed in the order of the source.
-/

namespace ContextSnap

/-! ### Rectangles -/

namespace Rect

def left (rect : Rect) : Int32 := rect.x

def top (rect : Rect) : Int32 := rect.y

def right (rect : Rect) : Int32 := rect.x + rect.width

def bottom (rect : Rect) : Int32 := rect.y + rect.height

def area (rect : Rect) : Int64 := rect.width.toInt64 * rect.height.toInt64

end Rect

def intersection (a b : Rect) : Rect :=
  let left := max a.left b.left
  let top := max a.top b.top
  let right := min a.right b.right
  let bottom := min a.bottom b.bottom
  if right ≤ left ∨ bottom ≤ top then {}
  else { x := left, y := top, width := right - left, height := bottom - top }

def intersectionArea (a b : Rect) : Int64 := (intersection a b).area

namespace Matching

/-! ### Normalization -/

def isSeparator (c : UInt8) : Bool :=
  c ∈ str " \t-_.:/\\|,()[]"

/-- Runs of blanks become one, and none is left at either end. -/
def collapseSpaces (text : Bytes) : Bytes :=
  (text.foldl (fun (out, pendingSpace) c =>
    if c = 32 then (out, !out.isEmpty)
    else if pendingSpace then (out ++ [32, c], false)
    else (out ++ [c], false)) (([], false) : Bytes × Bool)).1

def tokenize (text : Bytes) : List Bytes :=
  let (tokens, current) := text.foldl (fun (tokens, current) c =>
    if c = 32 then (if current.isEmpty then tokens else tokens ++ [current], [])
    else (tokens, current ++ [c])) (([], []) : List Bytes × Bytes)
  if current.isEmpty then tokens else tokens ++ [current]

def endsWith (text suffix : Bytes) : Bool := suffix.isSuffixOf text

/-- `std::string::find` of a text. -/
def findText (needle : Bytes) : Bytes → Option Nat
  | [] => if needle = [] then some 0 else none
  | c :: rest =>
      if needle.isPrefixOf (c :: rest) then some 0 else (findText needle rest).map (· + 1)

/-- What stands behind the last byte in `stop`, which is everything when there is none. -/
def afterLast (stop : UInt8 → Bool) (text : Bytes) : Bytes :=
  (text.reverse.takeWhile fun c => !(stop c)).reverse

def isSlash (c : UInt8) : Bool := c = 47 || c = 92

/-- The first suffix that the text ends with is cut off. -/
def dropSuffix (suffixes : List Bytes) (text : Bytes) : Bytes :=
  match suffixes.find? (endsWith text) with
  | none => text
  | some suffix => text.take (text.length - suffix.length)

def spaceSeparators (text : Bytes) : Bytes :=
  text.map fun c => if isSeparator c then 32 else c

def packagingSuffixes : List Bytes := [str ".exe", str ".app", str ".desktop", str ".bin"]

/-- A reverse-DNS bundle id is known by its last component, anything else is read as a path. -/
def normalizeAppId (raw : Bytes) : Bytes :=
  if raw = [] then []
  else
    let value := lower raw
    let reverseDns := !(value.any isSlash) && 2 ≤ value.count 46 && !(endsWith value (str ".exe"))
    let named :=
      if reverseDns then afterLast (· = 46) value
      else
        let base :=
          if value.any isSlash then
            match findText (str ".app/") value with
            | some app => afterLast isSlash (value.take app)
            | none => afterLast isSlash value
          else value
        dropSuffix packagingSuffixes base
    collapseSpaces (spaceSeparators named)

/-- Every occurrence of `marker`, from left to right, becomes a blank. The number is how many bytes
of the last occurrence are still to be skipped. -/
def replaceMarker (marker : Bytes) : Nat → Bytes → Bytes
  | _, [] => []
  | skip + 1, _ :: rest => replaceMarker marker skip rest
  | 0, c :: rest =>
      if marker.isPrefixOf (c :: rest) then 32 :: replaceMarker marker (marker.length - 1) rest
      else c :: replaceMarker marker 0 rest

/-- The bytes of `●`, `•`, `—` and `–`. -/
def titleMarkers : List Bytes :=
  [[0xe2, 0x97, 0x8f], [0xe2, 0x80, 0xa2], [0xe2, 0x80, 0x94], [0xe2, 0x80, 0x93]]

/-- An unread counter such as `(3)` at the front goes. -/
def dropCounter (text : Bytes) : Bytes :=
  if text.head? = some 40 then
    match text.findIdx? (· = 41) with
    | some close => if close ≤ 4 then text.drop (close + 1) else text
    | none => text
  else text

def normalizeTitle (raw : Bytes) : Bytes :=
  let marked := titleMarkers.foldl (fun value marker => replaceMarker marker 0 value) (lower raw)
  let kept := (dropCounter marked).filter fun c => !(c = 42 || c = 0xe2)
  collapseSpaces (spaceSeparators kept)

/-! ### Similarity -/

/-- The next of the two rolling rows of the edit distance: row `i` of `a` against all of `b`. -/
def distanceRow (a b : Bytes) (i : Nat) (previous beforePrevious : List Nat) : List Nat :=
  (List.range b.length).foldl (fun current j0 =>
    let j := j0 + 1
    let cost := if a[i - 1]? = b[j - 1]? then 0 else 1
    let value := min (min (current.getD (j - 1) 0 + 1) (previous.getD j 0 + 1))
      (previous.getD (j - 1) 0 + cost)
    let value :=
      if 1 < i ∧ 1 < j ∧ a[i - 1]? = b[j - 2]? ∧ a[i - 2]? = b[j - 1]? then
        min value (beforePrevious.getD (j - 2) 0 + 1)
      else value
    current ++ [value]) [i]

def editDistance (a b : Bytes) : Nat :=
  let rows := (List.range a.length).foldl (fun (previous, beforePrevious) i0 =>
    (distanceRow a b (i0 + 1) previous beforePrevious, previous))
    (List.range (b.length + 1), List.replicate (b.length + 1) 0)
  rows.1.getD b.length 0

def stringSimilarity (a b : Bytes) : Float :=
  if a = b then 1.0
  else if a = [] ∨ b = [] then 0.0
  else 1.0 - Float.ofNat (editDistance a b) / Float.ofNat (max a.length b.length)

def titleSimilarity (a b : Bytes) : Float :=
  let left := (tokenize (normalizeTitle a)).dedup
  let right := (tokenize (normalizeTitle b)).dedup
  if left = [] ∧ right = [] then 1.0
  else if left = [] ∨ right = [] then 0.0
  else
    let shared := (left.filter (· ∈ right)).length
    let jaccard := Float.ofNat shared / Float.ofNat (left.length + right.length - shared)
    0.75 * jaccard + 0.25 * stringSimilarity (normalizeTitle a) (normalizeTitle b)

def ofInt32 (i : Int32) : Float := Float.ofInt i.toInt

def ofInt64 (i : Int64) : Float := Float.ofInt i.toInt

def geometryProximity (a b : Rect) : Float :=
  if a.empty || b.empty then 0.0
  else
    let overlap := ofInt64 (intersectionArea a b)
    let unionArea := ofInt64 (a.area + b.area) - overlap
    if unionArea ≤ 0.0 then 0.0
    else
      let iou := overlap / unionArea
      let dx := (ofInt32 a.x + ofInt32 a.width / 2.0) - (ofInt32 b.x + ofInt32 b.width / 2.0)
      let dy := (ofInt32 a.y + ofInt32 a.height / 2.0) - (ofInt32 b.y + ofInt32 b.height / 2.0)
      let distance := Float.sqrt (dx * dx + dy * dy)
      let diagonal := Float.sqrt (ofInt32 (a.width * a.width + a.height * a.height))
      let closeness := if diagonal > 0.0 then stdMax 0.0 (1.0 - distance / diagonal) else 0.0
      0.6 * iou + 0.4 * closeness
where
  /-- `std::max`, which keeps the first unless it is less. -/
  stdMax (a b : Float) : Float := if a < b then b else a

/-! ### Assignment -/

/-- A saved and a live window by their places in the lists, also while they are a candidate. -/
structure Match (L : Type) where
  snapshotIndex : Nat
  liveIndex : Nat
  score : L

structure MatchResult (L : Type) where
  matched : List (Match L) := []
  unmatchedSnapshot : List Nat := []
  unmatchedLive : List Nat := []

section MatchWindows

variable {L : Type} [LinearOrder L]

/-- The order of the candidates: the better score, then the earlier windows. -/
def Match.before (a b : Match L) : Prop :=
  if a.score ≠ b.score then a.score > b.score
  else if a.snapshotIndex ≠ b.snapshotIndex then a.snapshotIndex < b.snapshotIndex
  else a.liveIndex < b.liveIndex

instance : DecidableRel (Match.before (L := L)) := fun a b =>
  inferInstanceAs (Decidable (if a.score ≠ b.score then a.score > b.score
    else if a.snapshotIndex ≠ b.snapshotIndex then a.snapshotIndex < b.snapshotIndex
    else a.liveIndex < b.liveIndex))

/-- What the sweep over the candidates changes. -/
structure Assignment (L : Type) where
  snapshotTaken : List Bool
  liveTaken : List Bool
  matched : List (Match L) := []

def Assignment.consider (assignment : Assignment L) (candidate : Match L) : Assignment L :=
  if assignment.snapshotTaken.getD candidate.snapshotIndex false
      || assignment.liveTaken.getD candidate.liveIndex false then assignment
  else
    { snapshotTaken := assignment.snapshotTaken.set candidate.snapshotIndex true
      liveTaken := assignment.liveTaken.set candidate.liveIndex true
      matched := assignment.matched ++ [candidate] }

def untaken (taken : List Bool) : List Nat :=
  (List.range taken.length).filter fun index => !taken.getD index false

/-- The score of two windows is a parameter, with values in a linear order. -/
def matchCandidates (score : WindowInfo → WindowInfo → L) (threshold : L)
    (snapshotWindows liveWindows : List WindowInfo) : List (Match L) :=
  snapshotWindows.zipIdx.flatMap fun (target, i) =>
    liveWindows.zipIdx.filterMap fun (candidate, j) =>
      let value := score target candidate
      if value ≥ threshold then some { snapshotIndex := i, liveIndex := j, score := value }
      else none

def matchWindows (score : WindowInfo → WindowInfo → L) (threshold : L)
    (snapshotWindows liveWindows : List WindowInfo) : MatchResult L :=
  let candidates := (matchCandidates score threshold snapshotWindows liveWindows).insertionSort
    fun a b => ¬b.before a
  let assignment := candidates.foldl Assignment.consider {
    snapshotTaken := List.replicate snapshotWindows.length false
    liveTaken := List.replicate liveWindows.length false }
  { matched := assignment.matched
    unmatchedSnapshot := untaken assignment.snapshotTaken
    unmatchedLive := untaken assignment.liveTaken }

end MatchWindows

/-! ### Applications -/

def singleInstanceApps : List Bytes :=
  [str "chrome", str "chromium", str "msedge", str "edge", str "brave", str "brave browser",
    str "google chrome", str "google-chrome", str "google-chrome-stable", str "microsoft edge",
    str "mozilla firefox", str "firefox-esr", str "vivaldi", str "opera", str "firefox",
    str "librewolf", str "safari", str "finder", str "explorer", str "nautilus", str "dolphin",
    str "thunar", str "code", str "visual studio code", str "slack", str "discord",
    str "spotify", str "obsidian", str "notion", str "figma", str "postman",
    str "docker desktop", str "steam"]

def isSingleInstanceApp (appId : Bytes) : Bool := normalizeAppId appId ∈ singleInstanceApps

def isNamedBrowser (kind : BrowserKind) : Bool := kind ≠ .none ∧ kind ≠ .other

def detectBrowser (appId windowClass : Bytes) : BrowserKind :=
  let normalized := normalizeAppId appId
  let direct := browserKindFromString normalized
  if isNamedBrowser direct then direct
  else if normalized = str "brave browser" ∨ normalized = str "brave browser beta" then .brave
  else if normalized = str "google chrome" ∨ normalized = str "google chrome canary" then .chrome
  else if normalized = str "microsoft edge" then .edge
  else
    let klass := normalizeAppId windowClass
    if klass ≠ [] ∧ klass ≠ normalized then
      let byClass := browserKindFromString klass
      if isNamedBrowser byClass then byClass
      else if klass = str "navigator" ∨ klass = str "mozilla firefox" then .firefox
      else .none
    else .none

/-- Never replayed: it would reopen a crash dialog or attach to a dead debugger session. -/
def isOneShot (argument : Bytes) : Bool :=
  (str "--crash").isPrefixOf argument || (str "--remote-debugging").isPrefixOf argument

def newWindow : Bytes := str "--new-window"

/-- The app is a browser by its id, or by its executable if it has none. -/
def launchesBrowser (process : ProcessInfo) : Bool :=
  let normalized := normalizeAppId
    (if process.appId = [] then process.executablePath else process.appId)
  detectBrowser normalized [] ≠ .none

def buildLaunchCommand (process : ProcessInfo) (platform : PlatformKind) : List Bytes :=
  if process.executablePath = [] ∧ process.appId = [] then []
  else
    let browser := launchesBrowser process
    let program := if process.executablePath = [] then process.appId else process.executablePath
    let opening :=
      if platform = .macOS then
        [str "open", str "-na", program]
          ++ (if process.commandLine ≠ [] ∨ browser then [str "--args"] else [])
      else [program]
    let command := opening ++ process.commandLine.filter fun argument => !(isOneShot argument)
    if browser ∧ newWindow ∉ command then command ++ [newWindow] else command

end Matching

end ContextSnap
