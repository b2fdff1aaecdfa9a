import ContextSnap.Lib.SqlRows
import ContextSnap.Proof.Serialization
import ContextSnap.Storage.SnapshotRepository

/-!
# Rows of a snapshot

Every row that an insert writes is admitted by its table, and the reading functions make the record
of it again that it was written from.
-/

namespace ContextSnap

/-! ### What the columns keep -/

/-- A `double` as a REAL column keeps it, without the sign of a zero. -/
def storedDouble (d : Float) : Float := if d == 0.0 then 0.0 else d

def MonitorInfo.asStored (monitor : MonitorInfo) : MonitorInfo :=
  { monitor with scaleFactor := storedDouble monitor.scaleFactor }

def WindowInfo.asStored (window : WindowInfo) : WindowInfo :=
  { window with opacity := storedDouble window.opacity }

def Snapshot.asStored (snapshot : Snapshot) : Snapshot :=
  { snapshot with
    monitors := snapshot.monitors.map (·.asStored), windows := snapshot.windows.map (·.asStored) }

structure TabInfo.Storable (tab : TabInfo) : Prop where
  faviconPath : NonEmptyIfPresent tab.faviconPath
  groupId : NonEmptyIfPresent tab.groupId
  groupTitle : NonEmptyIfPresent tab.groupTitle
  cookieStoreId : NonEmptyIfPresent tab.cookieStoreId
  openerIndex : ∀ opener, tab.openerIndex = some opener → 0 ≤ opener

end ContextSnap

namespace ContextSnap.Storage

open Sql

section Values

@[simp]
theorem stored_text (s : Bytes) : stored (.text s) = .text s := rfl

@[simp]
theorem stored_integer (i : Int64) : stored (.integer i) = .integer i := rfl

@[simp]
theorem stored_bindInt32 (value : Int32) : stored (bindInt32 value) = bindInt32 value := rfl

@[simp]
theorem stored_bindUInt32 (value : UInt32) : stored (bindUInt32 value) = bindUInt32 value := rfl

@[simp]
theorem stored_bindUInt64 (value : UInt64) : stored (bindUInt64 value) = bindUInt64 value := rfl

@[simp]
theorem stored_bindOrEmpty (value : Option Bytes) :
    stored (bindOrEmpty value) = bindOrEmpty value := rfl

@[simp]
theorem stored_ofBool (b : Bool) : stored (.ofBool b) = .ofBool b := rfl

@[simp]
theorem stored_ofOptional (value : Option Bytes) :
    stored (.ofOptional value) = .ofOptional value := by
  cases value <;> rfl

theorem stored_ofDouble {d : Float} (h : d.isNaN = false) :
    stored (.ofDouble d) = .real (storedDouble d) := by
  rw [SqlValue.ofDouble, h, if_neg Bool.false_ne_true]
  rfl

@[simp]
theorem toInt32_bindInt32 (value : Int32) : (bindInt32 value).toInt64.toInt32 = value := by
  simp [bindInt32, SqlValue.toInt64]

@[simp]
theorem toUInt32_bindUInt32 (value : UInt32) :
    int64ToUInt32 (bindUInt32 value).toInt64 = value := by
  simp [bindUInt32, SqlValue.toInt64]

@[simp]
theorem toUInt64_bindUInt64 (value : UInt64) : (bindUInt64 value).toInt64.toUInt64 = value := by
  simp [bindUInt64, SqlValue.toInt64]

@[simp]
theorem ne_zero_ofBool (b : Bool) : ((SqlValue.ofBool b).toInt64.toInt32 != 0) = b := by
  cases b <;> decide

@[simp]
theorem toInt64_integer (i : Int64) : (SqlValue.integer i).toInt64 = i := rfl

@[simp]
theorem toText_bindOrEmpty (value : Option Bytes) : (bindOrEmpty value).toText = value.getD [] :=
  rfl

@[simp]
theorem toText_text (s : Bytes) : (SqlValue.text s).toText = s := rfl

theorem textOptional_bindOrEmpty {value : Option Bytes} (h : NonEmptyIfPresent value) :
    textOptional (bindOrEmpty value) = value := by
  cases value with
  | none => rfl
  | some s =>
      have hs : s ≠ [] := fun hempty => h (hempty ▸ rfl)
      simp [textOptional, bindOrEmpty, hs]

theorem textOptional_ofOptional {value : Option Bytes} (h : NonEmptyIfPresent value) :
    textOptional (.ofOptional value) = value := by
  cases value with
  | none => rfl
  | some s =>
      have hs : s ≠ [] := fun hempty => h (hempty ▸ rfl)
      simp [textOptional, SqlValue.ofOptional, hs]

theorem fromUnixMillis_toUnixMillis {timestamp : Timestamp} (h : timestamp.toInt % 1000000 = 0) :
    fromUnixMillis (toUnixMillis timestamp) = timestamp := by
  have hlow := timestamp.le_toInt
  have hhigh := timestamp.toInt_lt
  have hmillion : (1000000 : Int64).toInt = 1000000 := rfl
  apply Int64.toInt_inj.mp
  obtain ⟨millis, hmillis⟩ := Int.dvd_of_emod_eq_zero h
  have hquotient : millis.bmod (2 ^ 64) = millis := Int.bmod_eq_of_le (by omega) (by omega)
  rw [fromUnixMillis, toUnixMillis, Int64.toInt_mul, Int64.toInt_div, hmillion, hmillis,
    Int.mul_tdiv_cancel_left _ (by decide), hquotient, Int.mul_comm,
    Int.bmod_eq_of_le (by omega) (by omega)]

theorem tagsFromJson_tagsToJson (tags : List Bytes) : tagsFromJson (tagsToJson tags) = tags := by
  have hparse : Json.parse (tagsToJson tags) = .ok (stringsToJson tags) :=
    Json.parse_serialize _ (-1) ((depth_stringsToJson tags).trans (by decide))
      (doubles_stringsToJson tags)
  rw [tagsFromJson, hparse]
  exact stringsFromJson_stringsToJson tags

end Values

/-! ### Constraints -/

section Admits

@[simp]
theorem name_textColumn (name : String) (default : Option String) :
    (textColumn name default).name = name := rfl

@[simp]
theorem name_integerColumn (name : String) (default : Option Int64) :
    (integerColumn name default).name = name := rfl

@[simp]
theorem name_realColumn (name : String) : (realColumn name).name = name := rfl

@[simp]
theorem name_flagColumn (name : String) (default : Int64) :
    (flagColumn name default).name = name := rfl

@[simp]
theorem name_nullableColumn (name : String) : (nullableColumn name).name = name := rfl

@[simp]
theorem name_stateColumn : stateColumn.name = "state" := rfl

@[simp]
theorem default_textColumn (name default : String) :
    (textColumn name (some default)).default = .text (str default) := rfl

@[simp]
theorem admits_nullableColumn (name : String) (value : Option Bytes) :
    (nullableColumn name).admits (.ofOptional value) = true := by
  cases value <;> rfl

@[simp]
theorem admits_nullableColumn_text (name : String) (s : Bytes) :
    (nullableColumn name).admits (.text s) = true := rfl

@[simp]
theorem admits_stateColumn (state : WindowState) :
    stateColumn.admits (.text (str state.toText)) = true := by
  cases state <;> decide

@[simp]
theorem admits_textColumn (name : String) (default : Option String) (s : Bytes) :
    (textColumn name default).admits (.text s) = true := rfl

@[simp]
theorem admits_bindOrEmpty (name : String) (default : Option String) (value : Option Bytes) :
    (textColumn name default).admits (bindOrEmpty value) = true := rfl

@[simp]
theorem admits_integerColumn (name : String) (default : Option Int64) (i : Int64) :
    (integerColumn name default).admits (.integer i) = true := rfl

@[simp]
theorem admits_bindInt32 (name : String) (default : Option Int64) (value : Int32) :
    (integerColumn name default).admits (bindInt32 value) = true := rfl

@[simp]
theorem admits_bindUInt32 (name : String) (default : Option Int64) (value : UInt32) :
    (integerColumn name default).admits (bindUInt32 value) = true := rfl

@[simp]
theorem admits_bindUInt64 (name : String) (default : Option Int64) (value : UInt64) :
    (integerColumn name default).admits (bindUInt64 value) = true := rfl

@[simp]
theorem admits_realColumn (name : String) (d : Float) :
    (realColumn name).admits (.real d) = true := rfl

@[simp]
theorem admits_flagColumn (name : String) (default : Int64) (b : Bool) :
    (flagColumn name default).admits (.ofBool b) = true := by
  cases b <;> rfl

end Admits

/-! ### The rows of an insert -/

/-- The row that an INSERT writes. -/
def writtenRow (statement : Dml Table) (values : List SqlValue) : Row :=
  match statement with
  | .insert table columns => insertedRow schema table columns values
  | _ => fun _ => .null

def snapshotRow (snapshot : Snapshot) : Row := writtenRow insertSnapshots (snapshotValues snapshot)

def monitorRow (id : Bytes) (monitor : MonitorInfo) : Row :=
  writtenRow insertMonitorsStatement (monitorValues id monitor)

def windowRow (id : Bytes) (window : WindowInfo) : Row :=
  writtenRow insertWindowsStatement (windowValues id window)

def tabRow (id windowId : Bytes) (now : Timestamp) (tab : TabInfo) : Row :=
  writtenRow insertTabsStatement (tabValues id windowId now tab)

def cursorRow (snapshot : Snapshot) : Row :=
  writtenRow insertCursorStatement (cursorValues snapshot)

def searchRow (snapshot : Snapshot) : Row :=
  writtenRow insertSearchStatement (searchValues snapshot)

/-! Both sides of a row: it is admitted, and it is read back. -/

section Rows

variable (id : Bytes)

theorem snapshotRow_admitted (snapshot : Snapshot) :
    admitsColumns schema .snapshots (snapshotRow snapshot) = true := by
  simp [admitsColumns, snapshotRow, writtenRow, insertSnapshots, snapshotValues, insertedRow,
    schema, snapshotColumns, List.lookup_cons]

theorem monitorRow_admitted {monitor : MonitorInfo} (hscale : monitor.scaleFactor.isNaN = false) :
    admitsColumns schema .monitors (monitorRow id monitor) = true := by
  simp [admitsColumns, monitorRow, writtenRow, insertMonitorsStatement, monitorValues, insertedRow,
    schema, monitorColumns, bindRect, List.lookup_cons, stored_ofDouble hscale]

theorem monitorFromRow_monitorRow {monitor : MonitorInfo}
    (hedid : NonEmptyIfPresent monitor.edidHash) (hscale : monitor.scaleFactor.isNaN = false) :
    monitorFromRow ((monitorRow id monitor).key selectMonitors.columns) = monitor.asStored := by
  simp [monitorRow, writtenRow, insertMonitorsStatement, monitorValues, insertedRow, schema,
    monitorColumns, Row.key, selectMonitors, bindRect, List.lookup_cons, monitorFromRow,
    columnText, columnInt32, columnInt, columnUInt32, columnDouble, columnBool, columnRect,
    columnTextOptional, column, MonitorInfo.asStored, stored_ofDouble hscale,
    textOptional_ofOptional hedid, SqlValue.toDouble]

theorem windowRow_columns (window : WindowInfo) :
    (windowRow id window).key ((schema .windows).columns.map (·.name))
      = (windowValues id window).map stored ++ [.text []] := by
  rfl

theorem windowRow_key (window : WindowInfo) :
    (windowRow id window).key selectWindows.columns
      = (windowValues id window).tail.map stored := by
  rfl

theorem windowRow_admitted {window : WindowInfo} (hopacity : window.opacity.isNaN = false) :
    admitsColumns schema .windows (windowRow id window) = true := by
  rw [admitsColumns_eq_zip, windowRow_columns]
  simp [schema, windowColumns, windowValues, bindRect, stored_ofDouble hopacity]

theorem windowFromRow_windowRow {window : WindowInfo}
    (hworkspaceId : NonEmptyIfPresent window.workspaceId)
    (hworkspaceName : NonEmptyIfPresent window.workspaceName)
    (hprofile : NonEmptyIfPresent window.browserProfile)
    (hopacity : window.opacity.isNaN = false) :
    windowFromRow ((windowRow id window).key selectWindows.columns)
      = { window.asStored with tabs := [] } := by
  rw [windowRow_key]
  simp [windowValues, bindRect, windowFromRow, columnText, columnInt32, columnInt, columnUInt64,
    columnDouble, columnBool, columnRect, columnTextOptional, column, WindowInfo.asStored,
    stored_ofDouble hopacity, textOptional_bindOrEmpty hworkspaceId,
    textOptional_bindOrEmpty hworkspaceName, textOptional_bindOrEmpty hprofile,
    SqlValue.toDouble, windowStateFromString_toText, browserKindFromString_toText,
    tagsFromJson_tagsToJson]

theorem tabRow_admitted (windowId : Bytes) (now : Timestamp) (tab : TabInfo) :
    admitsColumns schema .tabs (tabRow id windowId now tab) = true := by
  simp [admitsColumns, tabRow, writtenRow, insertTabsStatement, tabValues, insertedRow, schema,
    tabColumns, List.lookup_cons]

theorem tabFromRow_tabRow (windowId : Bytes) (now : Timestamp) {tab : TabInfo}
    (h : tab.Storable) :
    tabFromRow ((tabRow id windowId now tab).key selectTabs.columns) = tab := by
  have hopener : (if 0 ≤ tab.openerIndex.getD (-1) then some (tab.openerIndex.getD (-1)) else none)
      = tab.openerIndex := by
    cases hindex : tab.openerIndex with
    | none => rfl
    | some opener => exact if_pos (h.openerIndex opener hindex)
  simp [tabRow, writtenRow, insertTabsStatement, tabValues, insertedRow, schema, tabColumns,
    Row.key, selectTabs, List.lookup_cons, tabFromRow, columnText, columnInt32, columnInt,
    columnBool, columnTextOptional, column, textOptional_bindOrEmpty h.faviconPath,
    textOptional_bindOrEmpty h.groupId, textOptional_bindOrEmpty h.groupTitle,
    textOptional_bindOrEmpty h.cookieStoreId, hopener]

theorem cursorRow_admitted (snapshot : Snapshot) :
    admitsColumns schema .cursorStates (cursorRow snapshot) = true := by
  simp [admitsColumns, cursorRow, writtenRow, insertCursorStatement, cursorValues, insertedRow,
    schema, cursorColumns, List.lookup_cons]

theorem cursorFromRow_cursorRow {snapshot : Snapshot}
    (hfocused : NonEmptyIfPresent snapshot.cursor.focusedWindowId) :
    cursorFromRow ((cursorRow snapshot).key selectCursor.columns) = snapshot.cursor := by
  simp [cursorRow, writtenRow, insertCursorStatement, cursorValues, insertedRow, schema,
    cursorColumns, Row.key, selectCursor, List.lookup_cons, cursorFromRow, columnText, columnInt32,
    columnInt, columnTextOptional, column, textOptional_bindOrEmpty hfocused]

theorem searchRow_admitted (snapshot : Snapshot) :
    admitsColumns schema .snapshotSearch (searchRow snapshot) = true := by
  simp [admitsColumns, searchRow, writtenRow, insertSearchStatement, searchValues, insertedRow,
    schema, searchColumns, List.lookup_cons]

theorem snapshotFromRow_snapshotRow {snapshot : Snapshot}
    (hcreated : snapshot.metadata.createdAt.toInt % 1000000 = 0)
    (hupdated : snapshot.metadata.updatedAt.toInt % 1000000 = 0)
    (hworkspace : NonEmptyIfPresent snapshot.activeWorkspaceId) :
    snapshotFromRow ((snapshotRow snapshot).key selectSnapshot.columns)
      = { metadata := snapshot.metadata, activeWorkspaceId := snapshot.activeWorkspaceId } := by
  have hactive : (if snapshot.activeWorkspaceId.getD [] = [] then none
      else some (snapshot.activeWorkspaceId.getD [])) = snapshot.activeWorkspaceId := by
    cases hid : snapshot.activeWorkspaceId with
    | none => rfl
    | some text => exact if_neg fun hempty => hworkspace (by rw [hid]; exact congrArg some hempty)
  simp [snapshotRow, writtenRow, insertSnapshots, snapshotValues, insertedRow, schema,
    snapshotColumns, Row.key, selectSnapshot, List.lookup_cons, snapshotFromRow, columnText,
    columnInt32, columnInt, columnUInt32, columnBool, column, hactive,
    fromUnixMillis_toUnixMillis hcreated, fromUnixMillis_toUnixMillis hupdated,
    platformFromText_toText, sessionFromText_toText, tagsFromJson_tagsToJson]

end Rows

/-! ### The rows of a snapshot -/

theorem rows_selectSnapshot (tables : Tables Table) (id : Bytes) :
    selectSnapshot.rows tables [.text id]
      = ((tables .snapshots).filter fun row => row "id" = .text id).map
          (·.key selectSnapshot.columns) := by
  have hsorted : ((tables .snapshots).filter fun row => decide (row "id" = .text id)).mergeSort
      selectSnapshot.le = (tables .snapshots).filter fun row => decide (row "id" = .text id) :=
    List.mergeSort_of_pairwise (List.pairwise_of_forall fun _ _ => rfl)
  exact congrArg (List.map (·.key selectSnapshot.columns)) hsorted

end ContextSnap.Storage
