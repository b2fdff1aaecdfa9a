import ContextSnap.Proof.JsonRoundTrip
import ContextSnap.Proof.Timestamp
import ContextSnap.Storage.Serialization

/-!
# Exported snapshots are read back

The reading functions look a member up by its key, so each record is read back field by field from
the members its writing function lists. A `double` goes through its text, and the parser may make an
integer of it, so everything is proved for a document whose `double`s were replaced by what the
parser reads.
-/

namespace ContextSnap.Json

/-! ### Looking members up -/

@[simp]
theorem find_object_nil (key : Bytes) : (Value.object []).find key = none := rfl

@[simp]
theorem find_object_cons (key name : Bytes) (value : Value) (members : Object) :
    (Value.object ((name, value) :: members)).find key
      = if name = key then some value else (Value.object members).find key := by
  by_cases h : name = key <;> simp [Value.find, h]

@[simp]
theorem find_object_append (key : Bytes) (left right : Object) :
    (Value.object (left ++ right)).find key
      = ((Value.object left).find key).or ((Value.object right).find key) := by
  simp only [Value.find, List.find?_append]
  cases left.find? (·.1 == key) <;> rfl

@[simp]
theorem find_mapDoubles (f : Float → Value) (key : Bytes) (members : Object) :
    ((Value.object members).mapDoubles f).find key
      = ((Value.object members).find key).map (·.mapDoubles f) := by
  induction members with
  | nil => rfl
  | cons member members ih =>
      obtain ⟨name, value⟩ := member
      simp only [Value.mapDoubles, mapDoublesOfMembers, find_object_cons] at ih ⊢
      split
      · rfl
      · exact ih

theorem mapDoublesOfItems_eq (f : Float → Value) (items : List Value) :
    mapDoublesOfItems f items = items.map (·.mapDoubles f) := by
  induction items with
  | nil => rfl
  | cons item items ih => rw [mapDoublesOfItems, ih, List.map_cons]

section MapDoubles

variable (f : Float → Value)

@[simp]
theorem mapDoubles_bool (b : Bool) : (Value.bool b).mapDoubles f = .bool b := rfl

@[simp]
theorem mapDoubles_int (i : Int64) : (Value.int i).mapDoubles f = .int i := rfl

@[simp]
theorem mapDoubles_double (d : Float) : (Value.double d).mapDoubles f = f d := rfl

@[simp]
theorem mapDoubles_string (s : Bytes) : (Value.string s).mapDoubles f = .string s := rfl

@[simp]
theorem mapDoubles_array (items : List Value) :
    (Value.array items).mapDoubles f = .array (items.map (·.mapDoubles f)) := by
  rw [Value.mapDoubles, mapDoublesOfItems_eq]

end MapDoubles

/-! ### Measures of records -/

theorem doublesOfItems_eq (items : List Value) : doublesOfItems items = items.flatMap (·.doubles) := by
  induction items with
  | nil => rfl
  | cons item items ih => rw [doublesOfItems, ih, List.flatMap_cons]

@[simp]
theorem doublesOfMembers_append (left right : Object) :
    doublesOfMembers (left ++ right) = doublesOfMembers left ++ doublesOfMembers right := by
  induction left with
  | nil => rfl
  | cons member left ih =>
      obtain ⟨name, value⟩ := member
      simp only [List.cons_append, doublesOfMembers, ih, List.append_assoc]

@[simp]
theorem depthOfMembers_append (left right : Object) :
    depthOfMembers (left ++ right) = max (depthOfMembers left) (depthOfMembers right) := by
  induction left with
  | nil => simp [depthOfMembers]
  | cons member left ih =>
      obtain ⟨name, value⟩ := member
      simp only [List.cons_append, depthOfMembers, ih, Nat.max_assoc]

theorem depthOfItems_le {items : List Value} {depth : Nat} (h : ∀ item ∈ items, item.depth ≤ depth) :
    depthOfItems items ≤ depth := by
  induction items with
  | nil => exact Nat.zero_le depth
  | cons item items ih =>
      rw [depthOfItems]
      exact Nat.max_le.mpr ⟨h item (by simp), ih fun other hother => h other (by simp [hother])⟩

end ContextSnap.Json

namespace ContextSnap

/-! ### Exportable snapshots -/

/-- An optional string that is not the empty one, which a document cannot tell from none. -/
def NonEmptyIfPresent (value : Option Bytes) : Prop := value ≠ some []

instance (value : Option Bytes) : Decidable (NonEmptyIfPresent value) :=
  inferInstanceAs (Decidable (value ≠ some []))

structure TabInfo.Exportable (tab : TabInfo) : Prop where
  faviconPath : NonEmptyIfPresent tab.faviconPath
  groupId : NonEmptyIfPresent tab.groupId
  groupTitle : NonEmptyIfPresent tab.groupTitle
  cookieStoreId : NonEmptyIfPresent tab.cookieStoreId

structure MonitorInfo.Exportable (monitor : MonitorInfo) : Prop where
  workArea : monitor.workArea.empty = false
  edidHash : NonEmptyIfPresent monitor.edidHash

structure WindowInfo.Exportable (window : WindowInfo) : Prop where
  restoredFrame : window.restoredFrame.empty = false
  workspaceId : NonEmptyIfPresent window.workspaceId
  workspaceName : NonEmptyIfPresent window.workspaceName
  browserProfile : NonEmptyIfPresent window.browserProfile
  tabs : ∀ tab ∈ window.tabs, tab.Exportable

def Snapshot.doubles (snapshot : Snapshot) : List Float :=
  snapshot.monitors.map (·.scaleFactor) ++ snapshot.windows.map (·.opacity)

/-- The parser and `as_double` make a `double` of its text again. -/
def ReadsAsDouble (d : Float) : Prop :=
  (Json.Parser.parse (Json.formatDouble d)).toOption.map (·.asDouble 1.0) = some d

instance (d : Float) : Decidable (ReadsAsDouble d) :=
  inferInstanceAs (Decidable (_ = some d))

structure Snapshot.Exportable (snapshot : Snapshot) : Prop where
  id : isValidUlid snapshot.metadata.id = true
  createdAt : Storage.WholeMillis snapshot.metadata.createdAt
  updatedAt : Storage.WholeMillis snapshot.metadata.updatedAt
  schemaVersion : snapshot.metadata.schemaVersion ≤ Storage.kSnapshotSchemaVersion
  monitors : ∀ monitor ∈ snapshot.monitors, monitor.Exportable
  windows : ∀ window ∈ snapshot.windows, window.Exportable
  focusedWindowId : NonEmptyIfPresent snapshot.cursor.focusedWindowId
  activeWorkspaceId : NonEmptyIfPresent snapshot.activeWorkspaceId
  doubles : ∀ d ∈ snapshot.doubles, ReadsAsDouble d

end ContextSnap

namespace ContextSnap.Storage

open Json

@[simp]
theorem find_optionalMember (key name : String) (value : Option Value) :
    (Value.object (optionalMember name value)).find (str key)
      = if name = key then value else none := by
  cases value <;> simp [optionalMember]

@[simp]
theorem find_putOptional (key name : String) (value : Option Bytes) :
    (Value.object (putOptional name value)).find (str key)
      = if name = key then value.map .string else none :=
  find_optionalMember key name _

@[simp]
theorem doublesOfMembers_putOptional (key : String) (value : Option Bytes) :
    doublesOfMembers (putOptional key value) = [] := by
  cases value <;> rfl

@[simp]
theorem depthOfMembers_putOptional (key : String) (value : Option Bytes) :
    depthOfMembers (putOptional key value) = 0 := by
  cases value <;> rfl

theorem optionalString_of_find {parent : Value} {key : String} {value : Option Bytes}
    (hvalue : NonEmptyIfPresent value) (hfind : parent.find (str key) = value.map .string) :
    optionalString parent key = value := by
  rw [optionalString, hfind]
  cases value with
  | none => rfl
  | some text =>
      have htext : text ≠ [] := fun h => hvalue (h ▸ rfl)
      simp [Value.isNull, Value.asString, htext]

theorem stringsFromJson_stringsToJson (values : List Bytes) :
    stringsFromJson (some (stringsToJson values)) = values := by
  simp [stringsFromJson, stringsToJson, Value.asArray, Function.comp_def, Value.asString]

theorem rectFromJson_rectToJson (rect : Rect) : rectFromJson (some (rectToJson rect)) = rect := by
  simp [rectFromJson, rectToJson, Value.isObject, Value.asInt]

theorem platformFromText_toText (kind : PlatformKind) :
    platformFromText (str kind.toText) = kind := by
  cases kind <;> decide

theorem sessionFromText_toText (kind : SessionType) : sessionFromText (str kind.toText) = kind := by
  cases kind <;> decide

theorem tabFromJson_tabToJson {tab : TabInfo} (h : tab.Exportable) :
    tabFromJson (tabToJson tab) = .ok tab := by
  have hfavicon : optionalString (tabToJson tab) "favicon_path" = tab.faviconPath :=
    optionalString_of_find h.faviconPath (by simp [tabToJson])
  have hgroup : optionalString (tabToJson tab) "group_id" = tab.groupId :=
    optionalString_of_find h.groupId (by simp [tabToJson])
  have htitle : optionalString (tabToJson tab) "group_title" = tab.groupTitle :=
    optionalString_of_find h.groupTitle (by simp [tabToJson])
  have hcookie : optionalString (tabToJson tab) "cookie_store_id" = tab.cookieStoreId :=
    optionalString_of_find h.cookieStoreId (by simp [tabToJson])
  have hfind : (tabToJson tab).find (str "opener_index")
      = tab.openerIndex.map fun opener => .int opener.toInt64 := by
    simp [tabToJson]
  have hopener : (((tabToJson tab).find (str "opener_index")).bind fun opener =>
      if opener.isNull then none else some (opener.asInt (-1)).toInt32) = tab.openerIndex := by
    rw [hfind]
    cases tab.openerIndex <;> simp [Value.isNull, Value.asInt]
  rw [tabFromJson, hfavicon, hgroup, htitle, hcookie, hopener]
  simp [tabToJson, Value.isObject, readString, readInt32, readInt, readBool]

theorem doubles_tabToJson (tab : TabInfo) : (tabToJson tab).doubles = [] := by
  cases hindex : tab.openerIndex <;>
    simp [tabToJson, Value.doubles, doublesOfMembers, hindex, optionalMember]

@[simp]
theorem mapDoubles_tabToJson (f : Float → Value) (tab : TabInfo) :
    (tabToJson tab).mapDoubles f = tabToJson tab :=
  mapDoubles_of_doubles_nil f _ (doubles_tabToJson tab)

theorem depth_tabToJson (tab : TabInfo) : (tabToJson tab).depth = 1 := by
  cases hindex : tab.openerIndex <;>
    simp [tabToJson, Value.depth, depthOfMembers, hindex, optionalMember]

@[simp]
theorem mapDoubles_rectToJson (f : Float → Value) (rect : Rect) :
    (rectToJson rect).mapDoubles f = rectToJson rect :=
  mapDoubles_of_doubles_nil f _ rfl

theorem doubles_stringsToJson (values : List Bytes) : (stringsToJson values).doubles = [] := by
  induction values with
  | nil => rfl
  | cons value values ih => exact ih

@[simp]
theorem mapDoubles_stringsToJson (f : Float → Value) (values : List Bytes) :
    (stringsToJson values).mapDoubles f = stringsToJson values :=
  mapDoubles_of_doubles_nil f _ (doubles_stringsToJson values)

theorem depth_stringsToJson (values : List Bytes) : (stringsToJson values).depth ≤ 1 := by
  apply Nat.succ_le_succ
  apply depthOfItems_le
  intro item hitem
  obtain ⟨text, -, rfl⟩ := List.mem_map.mp hitem
  exact Nat.le_refl 0

theorem processFromJson_processToJson (process : ProcessInfo) :
    processFromJson (processToJson process) = process := by
  simp [processFromJson, processToJson, readString, readInt, readBool,
    stringsFromJson_stringsToJson]

theorem doubles_processToJson (process : ProcessInfo) : (processToJson process).doubles = [] := by
  simp [processToJson, Value.doubles, doublesOfMembers, doubles_stringsToJson]

@[simp]
theorem mapDoubles_processToJson (f : Float → Value) (process : ProcessInfo) :
    (processToJson process).mapDoubles f = processToJson process :=
  mapDoubles_of_doubles_nil f _ (doubles_processToJson process)

theorem depth_processToJson (process : ProcessInfo) : (processToJson process).depth ≤ 2 := by
  have hstrings := depth_stringsToJson process.commandLine
  simp only [processToJson, Value.depth, depthOfMembers]
  omega

theorem mapM_tabFromJson {tabs : List TabInfo} (h : ∀ tab ∈ tabs, tab.Exportable) :
    (tabs.map tabToJson).mapM tabFromJson = .ok tabs := by
  induction tabs with
  | nil => rfl
  | cons tab tabs ih =>
      have htail := ih fun other hother => h other (by simp [hother])
      rw [List.map_cons, List.mapM_cons, tabFromJson_tabToJson (h tab (by simp)), htail]
      rfl

section ReadBack

variable {read : Float → Value}

theorem monitorFromJson_monitorToJson {monitor : MonitorInfo} (h : monitor.Exportable)
    (hread : (read monitor.scaleFactor).asDouble 1.0 = monitor.scaleFactor) :
    monitorFromJson ((monitorToJson monitor).mapDoubles read) = monitor := by
  have hedid : optionalString ((monitorToJson monitor).mapDoubles read) "edid_hash"
      = monitor.edidHash :=
    optionalString_of_find h.edidHash (by simp [monitorToJson, Function.comp_def])
  rw [monitorFromJson, hedid]
  simp [monitorToJson, readString, readInt, readBool, readDouble, rectFromJson_rectToJson,
    h.workArea, hread]

theorem windowFromJson_windowToJson {window : WindowInfo} (h : window.Exportable)
    (hread : (read window.opacity).asDouble 1.0 = window.opacity) :
    windowFromJson ((windowToJson window).mapDoubles read) = .ok window := by
  have hworkspace : optionalString ((windowToJson window).mapDoubles read) "workspace_id"
      = window.workspaceId :=
    optionalString_of_find h.workspaceId (by simp [windowToJson, Function.comp_def])
  have hname : optionalString ((windowToJson window).mapDoubles read) "workspace_name"
      = window.workspaceName :=
    optionalString_of_find h.workspaceName (by simp [windowToJson, Function.comp_def])
  have hprofile : optionalString ((windowToJson window).mapDoubles read) "browser_profile"
      = window.browserProfile :=
    optionalString_of_find h.browserProfile (by simp [windowToJson, Function.comp_def])
  have htabs : itemsOf ((windowToJson window).mapDoubles read) "tabs"
      = window.tabs.map tabToJson := by
    simp [itemsOf, windowToJson, Value.asArray, Function.comp_def]
  have hfind : ((windowToJson window).mapDoubles read).find (str "process")
      = some (processToJson window.process) := by
    simp [windowToJson]
  have hprocess : (((windowToJson window).mapDoubles read).find (str "process")).filter
      (·.isObject) = some (processToJson window.process) := by
    rw [hfind]
    rfl
  have hisObject : ((windowToJson window).mapDoubles read).isObject = true := rfl
  simp only [windowFromJson, hworkspace, hname, hprofile, htabs, mapM_tabFromJson h.tabs, hprocess,
    hisObject, Bool.not_true, Bool.false_eq_true, ↓reduceIte]
  simp [windowToJson, readString, readInt32, readInt, readBool, readDouble,
    rectFromJson_rectToJson, windowStateFromString_toText, browserKindFromString_toText,
    processFromJson_processToJson, h.restoredFrame, hread, bind, Except.bind, pure, Except.pure]

theorem mapM_windowFromJson {windows : List WindowInfo} (h : ∀ window ∈ windows, window.Exportable)
    (hread : ∀ window ∈ windows, (read window.opacity).asDouble 1.0 = window.opacity) :
    (windows.map fun window => (windowToJson window).mapDoubles read).mapM windowFromJson
      = .ok windows := by
  induction windows with
  | nil => rfl
  | cons window windows ih =>
      have hhead := windowFromJson_windowToJson (h window (by simp)) (hread window (by simp))
      have htail := ih (fun other hother => h other (by simp [hother]))
        (fun other hother => hread other (by simp [hother]))
      rw [List.map_cons, List.mapM_cons, hhead, htail]
      rfl

end ReadBack

theorem depth_monitorToJson (monitor : MonitorInfo) : (monitorToJson monitor).depth = 2 := by
  simp [monitorToJson, rectToJson, Value.depth, depthOfMembers]

theorem doubles_monitorToJson (monitor : MonitorInfo) :
    (monitorToJson monitor).doubles = [monitor.scaleFactor] := by
  simp [monitorToJson, rectToJson, Value.doubles, doublesOfMembers]

theorem depth_windowToJson (window : WindowInfo) : (windowToJson window).depth ≤ 3 := by
  have hprocess := depth_processToJson window.process
  have htabs : depthOfItems (window.tabs.map tabToJson) ≤ 1 := by
    apply depthOfItems_le
    intro item hitem
    obtain ⟨tab, -, rfl⟩ := List.mem_map.mp hitem
    exact (depth_tabToJson tab).le
  simp only [windowToJson, rectToJson, Value.depth, depthOfMembers, depthOfMembers_append,
    depthOfMembers_putOptional]
  omega

theorem doubles_windowToJson (window : WindowInfo) :
    (windowToJson window).doubles = [window.opacity] := by
  have htabs : doublesOfItems (window.tabs.map tabToJson) = [] := by
    simp [doublesOfItems_eq, List.flatMap_map, doubles_tabToJson]
  simp [windowToJson, rectToJson, Value.doubles, doublesOfMembers, doubles_processToJson, htabs]

theorem metadataFromJson_metadataToJson (fresh : Bytes) {metadata : SnapshotMetadata}
    (hid : isValidUlid metadata.id = true) (hcreated : WholeMillis metadata.createdAt)
    (hupdated : WholeMillis metadata.updatedAt)
    (hschema : metadata.schemaVersion ≤ kSnapshotSchemaVersion) :
    metadataFromJson fresh (metadataToJson metadata) = .ok metadata := by
  have hnonempty : metadata.id ≠ [] := by
    rintro hempty
    rw [hempty] at hid
    exact absurd hid (by decide)
  have hnewer : ¬ metadata.schemaVersion > kSnapshotSchemaVersion := UInt32.not_lt.mpr hschema
  simp [metadataFromJson, metadataToJson, readString, readInt, readBool, hid, hnonempty, hnewer,
    stringsFromJson_stringsToJson, timestampOr, parseTimestamp_formatTimestamp hcreated,
    parseTimestamp_formatTimestamp hupdated, platformFromText_toText, sessionFromText_toText, pure,
    Except.pure]

theorem cursorFromJson_cursorToJson {cursor : CursorState}
    (h : NonEmptyIfPresent cursor.focusedWindowId) :
    cursorFromJson (cursorToJson cursor) = cursor := by
  have hfocused : optionalString (cursorToJson cursor) "focused_window_id"
      = cursor.focusedWindowId :=
    optionalString_of_find h (by simp [cursorToJson])
  rw [cursorFromJson, hfocused]
  simp [cursorToJson, readString, readInt32, readInt]

theorem doubles_metadataToJson (metadata : SnapshotMetadata) :
    (metadataToJson metadata).doubles = [] := by
  simp [metadataToJson, Value.doubles, doublesOfMembers, doubles_stringsToJson]

theorem depth_metadataToJson (metadata : SnapshotMetadata) :
    (metadataToJson metadata).depth ≤ 2 := by
  have htags := depth_stringsToJson metadata.tags
  simp only [metadataToJson, Value.depth, depthOfMembers]
  omega

theorem doubles_cursorToJson (cursor : CursorState) : (cursorToJson cursor).doubles = [] := by
  simp [cursorToJson, Value.doubles, doublesOfMembers]

theorem depth_cursorToJson (cursor : CursorState) : (cursorToJson cursor).depth = 1 := by
  simp [cursorToJson, Value.depth, depthOfMembers]

theorem doubles_toJson (snapshot : Snapshot) : (toJson snapshot).doubles = snapshot.doubles := by
  rw [Snapshot.doubles, List.map_eq_flatMap, List.map_eq_flatMap]
  simp [toJson, Value.doubles, doublesOfMembers, doubles_metadataToJson, doubles_cursorToJson,
    doublesOfItems_eq, List.flatMap_map, doubles_monitorToJson, doubles_windowToJson]

theorem depth_toJson (snapshot : Snapshot) : (toJson snapshot).depth ≤ 5 := by
  have hmetadata := depth_metadataToJson snapshot.metadata
  have hcursor := depth_cursorToJson snapshot.cursor
  have hmonitors : depthOfItems (snapshot.monitors.map monitorToJson) ≤ 2 := by
    apply depthOfItems_le
    intro item hitem
    obtain ⟨monitor, -, rfl⟩ := List.mem_map.mp hitem
    exact (depth_monitorToJson monitor).le
  have hwindows : depthOfItems (snapshot.windows.map windowToJson) ≤ 3 := by
    apply depthOfItems_le
    intro item hitem
    obtain ⟨window, -, rfl⟩ := List.mem_map.mp hitem
    exact depth_windowToJson window
  simp only [toJson, Value.depth, depthOfMembers, depthOfMembers_append, depthOfMembers_putOptional]
  omega

section Documents

variable (fresh : Bytes) {snapshot : Snapshot}

/-- A snapshot is read from its JSON after the parser read the `double`s. -/
theorem snapshotFromJson_toJson (h : snapshot.Exportable) {read : Float → Value}
    (hread : ∀ d ∈ snapshot.doubles, (read d).asDouble 1.0 = d) :
    snapshotFromJson fresh ((toJson snapshot).mapDoubles read) = .ok snapshot := by
  have hfind : ((toJson snapshot).mapDoubles read).find (str "metadata")
      = some (metadataToJson snapshot.metadata) := by
    simp [toJson, mapDoubles_of_doubles_nil _ _ (doubles_metadataToJson snapshot.metadata)]
  have hmetadata : (((toJson snapshot).mapDoubles read).find (str "metadata")).filter (·.isObject)
      = some (metadataToJson snapshot.metadata) := by
    rw [hfind]
    rfl
  have hcursorFind : ((toJson snapshot).mapDoubles read).find (str "cursor")
      = some (cursorToJson snapshot.cursor) := by
    simp [toJson, mapDoubles_of_doubles_nil _ _ (doubles_cursorToJson snapshot.cursor)]
  have hcursor : (((toJson snapshot).mapDoubles read).find (str "cursor")).filter (·.isObject)
      = some (cursorToJson snapshot.cursor) := by
    rw [hcursorFind]
    rfl
  have hworkspace : optionalString ((toJson snapshot).mapDoubles read) "active_workspace_id"
      = snapshot.activeWorkspaceId :=
    optionalString_of_find h.activeWorkspaceId (by simp [toJson, Function.comp_def])
  have hmonitorItems : itemsOf ((toJson snapshot).mapDoubles read) "monitors"
      = snapshot.monitors.map fun monitor => (monitorToJson monitor).mapDoubles read := by
    simp [itemsOf, toJson, Value.asArray]
  have hmonitors : (itemsOf ((toJson snapshot).mapDoubles read) "monitors").map monitorFromJson
      = snapshot.monitors := by
    rw [hmonitorItems, List.map_map]
    conv_rhs => rw [← List.map_id snapshot.monitors]
    apply List.map_congr_left
    intro monitor hmonitor
    exact monitorFromJson_monitorToJson (h.monitors monitor hmonitor)
      (hread _ (List.mem_append_left _ (List.mem_map_of_mem hmonitor)))
  have hwindowItems : itemsOf ((toJson snapshot).mapDoubles read) "windows"
      = snapshot.windows.map fun window => (windowToJson window).mapDoubles read := by
    simp [itemsOf, toJson, Value.asArray]
  have hwindows := @mapM_windowFromJson read _ h.windows fun window hwindow =>
    hread _ (List.mem_append_right _ (List.mem_map_of_mem hwindow))
  rw [← hwindowItems] at hwindows
  have hisObject : ((toJson snapshot).mapDoubles read).isObject = true := rfl
  simp only [snapshotFromJson, hisObject, Bool.not_true, Bool.false_eq_true, ↓reduceIte, hmetadata,
    metadataFromJson_metadataToJson fresh h.id h.createdAt h.updatedAt h.schemaVersion, hwindows,
    hmonitors, hcursor, hworkspace, Option.elim, cursorFromJson_cursorToJson h.focusedWindowId]
  rfl

/-- What the parser makes of the text of a `double`. -/
def readFormatted (d : Float) : Value :=
  match Parser.parse (formatDouble d) with
  | .ok value => value
  | .error _ => .null

theorem readFormatted_spec {d : Float} (h : ReadsAsDouble d) :
    Parser.parse (formatDouble d) = .ok (readFormatted d)
      ∧ (readFormatted d).asDouble 1.0 = d := by
  rw [ReadsAsDouble] at h
  rw [readFormatted]
  cases hparse : Parser.parse (formatDouble d) with
  | error e =>
      rw [hparse] at h
      exact absurd h nofun
  | ok value =>
      rw [hparse] at h
      exact ⟨rfl, Option.some.inj h⟩

theorem snapshotFromJson_readFormatted (h : snapshot.Exportable) :
    snapshotFromJson fresh ((toJson snapshot).mapDoubles readFormatted) = .ok snapshot :=
  snapshotFromJson_toJson fresh h fun d hd => (readFormatted_spec (h.doubles d hd)).2

theorem readsBack_doubles (h : snapshot.Exportable) :
    ReadsBack readFormatted (toJson snapshot).doubles := by
  intro d hd
  rw [doubles_toJson] at hd
  exact (readFormatted_spec (h.doubles d hd)).1

/-- A bare snapshot, whatever the indentation. -/
theorem deserialize_dump (h : snapshot.Exportable) (indent : Int) {format : Format}
    (hformat : format ≠ .flatBuffers) :
    deserialize fresh ((toJson snapshot).dump indent) format = .ok snapshot := by
  have hparse : parse ((toJson snapshot).dump indent)
      = .ok ((toJson snapshot).mapDoubles readFormatted) :=
    parse_serialize_mapDoubles _ indent _ ((depth_toJson snapshot).trans (by decide))
      (readsBack_doubles h)
  have hbare : ((toJson snapshot).mapDoubles readFormatted).contains (str "snapshot") = false := by
    simp [Value.contains, toJson]
  simp only [deserialize, hformat, ↓reduceIte, hparse, bind, Except.bind, hbare, Bool.false_eq_true,
    snapshotFromJson_readFormatted fresh h]

/-- A snapshot in its export envelope. -/
theorem deserialize_wrapDocument (h : snapshot.Exportable) (now : Timestamp) :
    deserialize fresh (wrapDocument now (toJson snapshot)) .json = .ok snapshot := by
  have hdepth := depth_toJson snapshot
  have hparse : parse (wrapDocument now (toJson snapshot))
      = .ok ((envelope now (toJson snapshot)).mapDoubles readFormatted) := by
    apply parse_serialize_mapDoubles
    · simp only [envelope, Value.depth, depthOfMembers, kMaxDepth]
      omega
    · have hdoubles := readsBack_doubles h
      simpa [envelope, Value.doubles, doublesOfMembers] using hdoubles
  have hmember : ((envelope now (toJson snapshot)).mapDoubles readFormatted).find (str "snapshot")
      = some ((toJson snapshot).mapDoubles readFormatted) := by
    simp [envelope]
  have hcontains : ((envelope now (toJson snapshot)).mapDoubles readFormatted).contains
      (str "snapshot") = true := by
    rw [Value.contains, hmember]
    rfl
  have hname : (((envelope now (toJson snapshot)).mapDoubles readFormatted).find
      (str "format")).map (·.asString []) = some (str "contextsnap.snapshot") := by
    simp [envelope]
  have hversion : ((((envelope now (toJson snapshot)).mapDoubles readFormatted).find
      (str "version")).any fun version =>
        version.asInt 1 > uint32ToInt64 kSnapshotSchemaVersion) = false := by
    simp [envelope]
  have hunwrap : unwrapDocument (wrapDocument now (toJson snapshot))
      = .ok ((toJson snapshot).mapDoubles readFormatted) := by
    simp only [unwrapDocument, hparse, bind, Except.bind, hname, hversion, hmember, ne_eq,
      not_true_eq_false, ↓reduceIte, Bool.false_eq_true, pure, Except.pure]
  simp only [deserialize, reduceCtorEq, hparse, hcontains, hunwrap, ↓reduceIte, bind, Except.bind,
    snapshotFromJson_readFormatted fresh h]

/-- **Export.** A snapshot is read back from every text it is exported as. -/
theorem deserialize_export (h : snapshot.Exportable) (now : Timestamp) :
    (∀ format, format ≠ .flatBuffers →
      (serialize snapshot format >>= fun payload => deserialize fresh payload format)
        = .ok snapshot)
      ∧ deserialize fresh (wrapDocument now (toJson snapshot)) .json = .ok snapshot := by
  refine ⟨?_, deserialize_wrapDocument fresh h now⟩
  intro format hformat
  cases format with
  | json =>
      simp only [serialize, bind, Except.bind, deserialize_dump fresh h (-1) hformat]
  | jsonPretty =>
      simp only [serialize, bind, Except.bind, deserialize_dump fresh h 2 hformat]
  | flatBuffers => exact absurd rfl hformat

end Documents

/-- A browser window on a scaled monitor. -/
def browserSnapshot : Snapshot :=
  { metadata :=
      { id := str "01J8Z2K3M4N5P6Q7R8S9T0V1W2", name := str "review", tags := [str "work", []]
        createdAt := 1757310000123000000, updatedAt := 1757310000123000000, platform := .linux
        sessionType := .x11, captureDurationMs := 4294967295, automatic := true }
    monitors :=
      [{ id := str "m0", bounds := ⟨-1920, 0, 1920, 1080⟩, workArea := ⟨-1920, 28, 1920, 1052⟩
         scaleFactor := 1.25, refreshHz := 144, primary := true, edidHash := some (str "0af1") }]
    windows :=
      [{ id := str "w0", nativeHandle := 18446744073709551615, frame := ⟨-1920, 28, 800, 600⟩
         restoredFrame := ⟨0, 0, 1, 1⟩, state := .maximized, zOrder := -1, monitorId := str "m0"
         opacity := 0.1, resizable := false, browser := .libreWolf
         process := { pid := 9223372036854775808, commandLine := [[], str "--new-window"] }
         tabs :=
           [{ id := str "t0", url := str "https://example.org/", title := [0, 34, 255]
              groupId := some (str "g"), openerIndex := some (-1), pinned := true }] }]
    cursor := { x := -5, monitorId := str "m0", focusedWindowId := some (str "w0") }
    activeWorkspaceId := some (str "2") }

set_option maxRecDepth 10000 in
theorem browserSnapshot_exportable : browserSnapshot.Exportable where
  id := by decide
  createdAt := by decide
  updatedAt := by decide
  schemaVersion := by decide
  monitors := by
    intro monitor hmonitor
    rw [List.mem_singleton.mp hmonitor]
    exact ⟨by decide, by decide⟩
  windows := by
    intro window hwindow
    rw [List.mem_singleton.mp hwindow]
    refine ⟨by decide, by decide, by decide, by decide, ?_⟩
    intro tab htab
    rw [List.mem_singleton.mp htab]
    exact ⟨by decide, by decide, by decide, by decide⟩
  focusedWindowId := by decide
  activeWorkspaceId := by decide
  doubles := by
    have hdoubles : browserSnapshot.doubles = [1.25, 0.1] := rfl
    rw [hdoubles]
    simp only [List.forall_mem_cons]
    exact ⟨by decide, by decide, nofun⟩

theorem deserialize_export_browserSnapshot :
    (∀ format, format ≠ .flatBuffers →
      (serialize browserSnapshot format >>= fun payload => deserialize [] payload format)
        = .ok browserSnapshot)
      ∧ deserialize [] (wrapDocument 1757310000123000000 (toJson browserSnapshot)) .json
        = .ok browserSnapshot :=
  deserialize_export [] browserSnapshot_exportable 1757310000123000000

end ContextSnap.Storage
