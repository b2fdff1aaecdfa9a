import ContextSnap.Proof.InsertedRows

/-!
# Snapshots that are loaded again

A load looks for the rows with one id, sorts them and puts the tabs into their windows. Rows of
another snapshot make no difference to it, and for the rows of an insert it returns the snapshot
that was inserted, but for the sign of a zero.
-/

namespace ContextSnap.Storage

open Sql

/-! ### What a load returns -/

/-- The snapshot that is put together from the rows with an id. -/
def rebuilt (tables : Tables Table) (id : Bytes) : Result Snapshot :=
  match selectSnapshot.rows tables [.text id] with
  | [] => .error (noSnapshot id)
  | row :: _ =>
      .ok { snapshotFromRow row with
        monitors := (selectMonitors.rows tables [.text id]).map monitorFromRow
        windows := (selectTabs.rows tables [.text id]).foldl addTab
          ((selectWindows.rows tables [.text id]).map windowFromRow)
        cursor := ((selectCursor.rows tables [.text id]).head?.map cursorFromRow).getD {} }

section Load

variable {env : Environment} (hworks : ∀ n, env.fault n = none)

include hworks

theorem loadMonitors_run (id : Bytes) (c : Connection) :
    (loadMonitors id).run.run (handler env) c
      = some (.ok ((selectMonitors.rows c.tables [.text id]).map monitorFromRow),
          c.counted.counted) := by
  rw [loadMonitors, run_bind_ok (prepare_ok _ (hworks _)), run_bind_ok (rows_run hworks _ _ _)]
  rfl

theorem loadWindows_run (id : Bytes) (c : Connection) :
    (loadWindows id).run.run (handler env) c
      = some (.ok ((selectWindows.rows c.tables [.text id]).map windowFromRow),
          c.counted.counted) := by
  rw [loadWindows, run_bind_ok (prepare_ok _ (hworks _)), run_bind_ok (rows_run hworks _ _ _)]
  rfl

theorem loadTabs_run (id : Bytes) (windows : List WindowInfo) (c : Connection) :
    (loadTabs id windows).run.run (handler env) c
      = some (.ok ((selectTabs.rows c.tables [.text id]).foldl addTab windows),
          c.counted.counted) := by
  rw [loadTabs, run_bind_ok (prepare_ok _ (hworks _)), run_bind_ok (rows_run hworks _ _ _)]
  rfl

theorem loadCursor_run (id : Bytes) (c : Connection) :
    (loadCursor id).run.run (handler env) c
      = some (.ok (((selectCursor.rows c.tables [.text id]).head?.map cursorFromRow).getD {}),
          c.counted.counted) := by
  have htables : c.counted.tables = c.tables := rfl
  rw [loadCursor, run_bind_ok (prepare_ok _ (hworks _)), run_bind_ok (rows_run hworks _ _ _),
    htables]
  cases selectCursor.rows c.tables [.text id] <;> rfl

theorem loadAll_run (id : Bytes) (c : Connection) :
    ∃ c', (loadAll id).run.run (handler env) c = some (rebuilt c.tables id, c') := by
  have htables : ∀ c : Connection, c.counted.tables = c.tables := fun _ => rfl
  rw [loadAll, run_bind_ok (prepare_ok _ (hworks _)), run_bind_ok (rows_run hworks _ _ _),
    htables, rebuilt]
  cases selectSnapshot.rows c.tables [.text id] with
  | nil => exact ⟨c.counted.counted, rfl⟩
  | cons row rest =>
      dsimp only
      rw [run_bind_ok (loadMonitors_run hworks id _), run_bind_ok (loadWindows_run hworks id _),
        run_bind_ok (loadTabs_run hworks id _ _), run_bind_ok (loadCursor_run hworks id _)]
      simp only [htables]
      exact ⟨_, rfl⟩

theorem load_rebuilt {c : Connection} (hfree : c.locked = false) (id : Bytes) :
    ∃ c', (load id).run.run (handler env) c = some (rebuilt c.tables id, c') := by
  obtain ⟨c', hrun⟩ := loadAll_run hworks id { c with locked := true }
  refine ⟨{ c' with locked := false }, ?_⟩
  rw [load, withLock_run hfree, hrun]
  rfl

end Load

/-! ### Rows of one snapshot -/

/-- The statements of a load: the rows of one table whose `name` is the id. -/
def selectBy (columns : List String) (table : Table) (name : String) (le : Row → Row → Bool) :
    Select Table :=
  { columns, source := (· table), condition := whereEqual name, le }

section Select

variable {columns : List String} {table : Table} {name : String} {le : Row → Row → Bool}
  {base new : Tables Table} {id : Bytes}

theorem rows_selectBy (tables : Tables Table) :
    (selectBy columns table name le).rows tables [.text id]
      = (((tables table).filter fun row => row name = .text id).mergeSort le).map (·.key columns) :=
  rfl

/-- Rows of another snapshot make no difference. -/
theorem rows_selectBy_other (h : ∀ row ∈ new table, row name ≠ .text id) :
    (selectBy columns table name le).rows (appendRows base new) [.text id]
      = (selectBy columns table name le).rows base [.text id] := by
  have hnone : ((new table).filter fun row => decide (row name = .text id)) = [] := by
    rw [List.filter_eq_nil_iff]
    intro row hrow
    simpa using h row hrow
  rw [rows_selectBy, rows_selectBy, appendRows, List.filter_append, hnone, List.append_nil]

/-- Of a snapshot that is new, only the added rows are found. -/
theorem rows_selectBy_new (hbase : ∀ row ∈ base table, row name ≠ .text id)
    (hnew : ∀ row ∈ new table, row name = .text id) :
    (selectBy columns table name le).rows (appendRows base new) [.text id]
      = ((new table).mergeSort le).map (·.key columns) := by
  have hnone : ((base table).filter fun row => decide (row name = .text id)) = [] := by
    rw [List.filter_eq_nil_iff]
    intro row hrow
    simpa using hbase row hrow
  have hall : ((new table).filter fun row => decide (row name = .text id)) = new table := by
    rw [List.filter_eq_self]
    intro row hrow
    simpa using hnew row hrow
  rw [rows_selectBy, appendRows, List.filter_append, hnone, List.nil_append, hall]

end Select

theorem selectSnapshot_eq :
    selectSnapshot = selectBy selectSnapshot.columns .snapshots "id" selectSnapshot.le := rfl

theorem selectMonitors_eq :
    selectMonitors = selectBy selectMonitors.columns .monitors "snapshot_id" selectMonitors.le :=
  rfl

theorem selectWindows_eq :
    selectWindows = selectBy selectWindows.columns .windows "snapshot_id" selectWindows.le := rfl

theorem selectTabs_eq :
    selectTabs = selectBy selectTabs.columns .tabs "snapshot_id" selectTabs.le := rfl

theorem selectCursor_eq :
    selectCursor = selectBy selectCursor.columns .cursorStates "snapshot_id" selectCursor.le := rfl

/-! ### Tabs in their windows -/

theorem addTab_eq {windows : List WindowInfo} (hnodup : (windows.map (·.id)).Nodup)
    (row : List SqlValue) :
    addTab windows row = windows.map fun window =>
      if window.id = columnText row 0 then { window with tabs := window.tabs ++ [tabFromRow row] }
      else window := by
  induction windows with
  | nil => rfl
  | cons window windows ih =>
      obtain ⟨hnotMem, hrest⟩ := List.nodup_cons.mp hnodup
      rw [addTab, List.map_cons]
      by_cases hid : window.id = columnText row 0
      · rw [if_pos hid, if_pos hid]
        congr 1
        have hothers : ∀ other ∈ windows, other.id ≠ columnText row 0 := fun other hother heq =>
          hnotMem (List.mem_map.mpr ⟨other, hother, heq.trans hid.symm⟩)
        have hsame : windows.map id = windows.map fun other =>
            if other.id = columnText row 0 then
              { other with tabs := other.tabs ++ [tabFromRow row] }
            else other :=
          List.map_congr_left fun other hother => (if_neg (hothers other hother)).symm
        rwa [List.map_id] at hsame
      · rw [if_neg hid, if_neg hid, ih hrest]

/-- Every row goes to the window with its id. -/
theorem foldl_addTab (rows : List (List SqlValue)) {windows : List WindowInfo}
    (hnodup : (windows.map (·.id)).Nodup) :
    rows.foldl addTab windows = windows.map fun window =>
      { window with
        tabs := window.tabs
          ++ (rows.filter fun row => window.id = columnText row 0).map tabFromRow } := by
  induction rows generalizing windows with
  | nil => simp
  | cons row rows ih =>
      have hids : (addTab windows row).map (·.id) = windows.map (·.id) := by
        rw [addTab_eq hnodup, List.map_map]
        apply List.map_congr_left
        intro window _
        simp only [Function.comp_apply]
        split <;> rfl
      rw [List.foldl_cons, ih (hids ▸ hnodup), addTab_eq hnodup, List.map_map]
      apply List.map_congr_left
      intro window _
      by_cases hid : window.id = columnText row 0
      · simp [hid]
      · simp [hid]

/-! ### The order of the tabs -/

/-- The order of the tabs by the values of their columns. -/
def tabOrder (row other : Row) : Bool :=
  if (row "window_id").toText = (other "window_id").toText then
    (row "tab_index").toInt64 ≤ (other "tab_index").toInt64
  else (row "window_id").toText ≤ (other "window_id").toText

theorem tabOrder_total (row other : Row) : (tabOrder row other || tabOrder other row) = true := by
  unfold tabOrder
  by_cases hsame : (row "window_id").toText = (other "window_id").toText
  · simp only [hsame, if_true, Bool.or_eq_true, decide_eq_true_eq]
    exact Int64.le_total _ _
  · simp only [hsame, Ne.symm hsame, if_false, Bool.or_eq_true, decide_eq_true_eq]
    exact List.le_total _ _

theorem tabOrder_trans (row other third : Row) (h : tabOrder row other = true)
    (h' : tabOrder other third = true) : tabOrder row third = true := by
  unfold tabOrder at *
  by_cases hsame : (row "window_id").toText = (other "window_id").toText
  · by_cases hsame' : (other "window_id").toText = (third "window_id").toText
    · simp only [hsame, hsame', if_true, decide_eq_true_eq] at *
      exact Int64.le_trans h h'
    · simp only [hsame, hsame', if_true, if_false, decide_eq_true_eq] at *
      exact h'
  · by_cases hsame' : (other "window_id").toText = (third "window_id").toText
    · rw [← hsame', if_neg hsame]
      rwa [if_neg hsame] at h
    · rw [if_neg hsame, decide_eq_true_eq] at h
      rw [if_neg hsame', decide_eq_true_eq] at h'
      have hle := List.le_trans h h'
      by_cases hends : (row "window_id").toText = (third "window_id").toText
      · rw [← hends] at h'
        exact absurd (List.le_antisymm h h') hsame
      · rw [if_neg hends]
        exact decide_eq_true hle

/-- What the order of a statement leaves of rows that pass a test and are in order already. -/
theorem filter_mergeSort_of_pairwise {α : Type} {le : α → α → Bool} {p : α → Bool} {values : List α}
    (htrans : ∀ a b c, le a b = true → le b c = true → le a c = true)
    (htotal : ∀ a b, (le a b || le b a) = true)
    (h : (values.filter p).Pairwise fun a b => le a b = true) :
    (values.mergeSort le).filter p = values.filter p := by
  have hsublist := List.sublist_mergeSort htrans htotal h List.filter_sublist
  have hfiltered := hsublist.filter p
  rw [List.filter_filter] at hfiltered
  simp only [Bool.and_self] at hfiltered
  exact (hfiltered.eq_of_length ((List.mergeSort_perm values le).filter p).length_eq.symm).symm

theorem pairwise_of_forall₂ {α β : Type} {R : α → β → Prop} {S : β → β → Prop} {T : α → α → Prop}
    (hST : ∀ a b a' b', R a b → R a' b' → S b b' → T a a') {first : List α} {second : List β}
    (h : List.Forall₂ R first second) (hpairwise : second.Pairwise S) : first.Pairwise T := by
  induction h with
  | nil => exact .nil
  | cons hhead htail ih =>
      obtain ⟨hbefore, hrest⟩ := List.pairwise_cons.mp hpairwise
      refine .cons (fun a ha => ?_) (ih hrest)
      obtain ⟨b, hb, hR⟩ := exists_of_forall₂ htail ha
      exact hST _ _ _ _ hhead hR (hbefore b hb)

theorem forall₂_filter {α β : Type} {R : α → β → Prop} {p : α → Bool} {q : β → Bool}
    (hpq : ∀ a b, R a b → p a = q b) {first : List α} {second : List β}
    (h : List.Forall₂ R first second) : List.Forall₂ R (first.filter p) (second.filter q) := by
  induction h with
  | nil => exact .nil
  | @cons a b first second hhead _ ih =>
      have hsame := hpq a b hhead
      cases hq : q b with
      | true =>
          rw [List.filter_cons_of_pos (hsame.trans hq), List.filter_cons_of_pos hq]
          exact .cons hhead ih
      | false =>
          rw [List.filter_cons_of_neg (by simp [hsame, hq]), List.filter_cons_of_neg (by simp [hq])]
          exact ih

/-- A row of a tab in its window. -/
def IsTabRow (id : Bytes) (row : Row) (place : Bytes × TabInfo) : Prop :=
  ∃ now, row = tabRow id place.1 now place.2

section TabRows

variable {id : Bytes} {row other : Row} {place place' : Bytes × TabInfo}

theorem IsTabRow.window (h : IsTabRow id row place) : (row "window_id").toText = place.1 := by
  obtain ⟨now, rfl⟩ := h
  rfl

theorem IsTabRow.le_eq (h : IsTabRow id row place) (h' : IsTabRow id other place') :
    selectTabs.le row other = tabOrder row other := by
  obtain ⟨now, rfl⟩ := h
  obtain ⟨now', rfl⟩ := h'
  have hle : selectTabs.le (tabRow id place.1 now place.2) (tabRow id place'.1 now' place'.2)
    = if SqlValue.text place.1 = .text place'.1 then
        (bindInt32 place.2.index).le (bindInt32 place'.2.index)
      else (SqlValue.text place.1).le (.text place'.1) := rfl
  have horder : tabOrder (tabRow id place.1 now place.2) (tabRow id place'.1 now' place'.2)
    = if place.1 = place'.1 then
        decide (place.2.index.toInt64 ≤ place'.2.index.toInt64)
      else decide (place.1 ≤ place'.1) := rfl
  rw [hle, horder]
  by_cases hsame : place.1 = place'.1
  · rw [if_pos hsame, if_pos (congrArg _ hsame)]
    rfl
  · rw [if_neg hsame, if_neg fun heq => hsame (SqlValue.text.inj heq)]
    rfl

theorem IsTabRow.tab (h : IsTabRow id row place) (hstorable : place.2.Storable) :
    tabFromRow (row.key selectTabs.columns) = place.2 := by
  obtain ⟨now, rfl⟩ := h
  exact tabFromRow_tabRow id place.1 now hstorable

end TabRows

theorem filter_placedTabs {windows : List WindowInfo} (hnodup : (windows.map (·.id)).Nodup)
    {window : WindowInfo} (hwindow : window ∈ windows) :
    (placedTabs windows).filter (fun place => window.id = place.1)
      = window.tabs.map fun tab => (window.id, tab) := by
  have hkeep : ∀ other : WindowInfo, (other.tabs.map fun tab => (other.id, tab)).filter
        (fun place => decide (window.id = place.1))
      = if window.id = other.id then other.tabs.map fun tab => (other.id, tab) else [] := by
    intro other
    split
    case isTrue heq =>
      rw [List.filter_eq_self]
      intro place hplace
      obtain ⟨tab, -, rfl⟩ := List.mem_map.mp hplace
      exact decide_eq_true heq
    case isFalse hne =>
      rw [List.filter_eq_nil_iff]
      intro place hplace
      obtain ⟨tab, -, rfl⟩ := List.mem_map.mp hplace
      simpa using hne
  induction windows with
  | nil => cases hwindow
  | cons first rest ih =>
      obtain ⟨hnotMem, hrest⟩ := List.nodup_cons.mp hnodup
      have hsplit : placedTabs (first :: rest)
        = (first.tabs.map fun tab => (first.id, tab)) ++ placedTabs rest := rfl
      rw [hsplit, List.filter_append, hkeep]
      rcases List.mem_cons.mp hwindow with rfl | hmem
      · have hnone : (placedTabs rest).filter (fun place => decide (window.id = place.1)) = [] := by
          rw [List.filter_eq_nil_iff]
          intro place hplace heq
          obtain ⟨other, hother, hplace⟩ := List.mem_flatMap.mp hplace
          obtain ⟨tab, -, rfl⟩ := List.mem_map.mp hplace
          have hsame : window.id = other.id := of_decide_eq_true heq
          exact hnotMem (List.mem_map.mpr ⟨other, hother, hsame.symm⟩)
        rw [if_pos rfl, hnone, List.append_nil]
      · have hne : window.id ≠ first.id := fun heq =>
          hnotMem (List.mem_map.mpr ⟨window, hmem, heq⟩)
        rw [if_neg hne, List.nil_append, ih hrest hmem]

/-! ### The snapshot of an insert -/

/-- A snapshot in the order in which its rows are read, without empty texts in the place of absent
ones. -/
structure Canonical (snapshot : Snapshot) : Prop where
  valid : isValidUlid snapshot.metadata.id = true
  createdAt : snapshot.metadata.createdAt.toInt % 1000000 = 0
  updatedAt : snapshot.metadata.updatedAt.toInt % 1000000 = 0
  activeWorkspaceId : NonEmptyIfPresent snapshot.activeWorkspaceId
  monitorIds : (snapshot.monitors.map (·.id)).Nodup
  monitorOrder : snapshot.monitors.Pairwise fun monitor other =>
    monitor.primary = true ∧ other.primary = false
      ∨ monitor.primary = other.primary ∧ monitor.id ≤ other.id
  edidHashes : ∀ monitor ∈ snapshot.monitors, NonEmptyIfPresent monitor.edidHash
  windowIds : (snapshot.windows.map (·.id)).Nodup
  windowOrder : snapshot.windows.Pairwise fun window other => window.zOrder < other.zOrder
  windowTexts : ∀ window ∈ snapshot.windows, NonEmptyIfPresent window.workspaceId
    ∧ NonEmptyIfPresent window.workspaceName ∧ NonEmptyIfPresent window.browserProfile
  tabIds : ∀ window ∈ snapshot.windows, (window.tabs.map (·.id)).Nodup
  tabOrder : ∀ window ∈ snapshot.windows, window.tabs.Pairwise fun tab other =>
    tab.index < other.index
  tabTexts : ∀ window ∈ snapshot.windows, ∀ tab ∈ window.tabs, tab.Storable
  focusedWindowId : NonEmptyIfPresent snapshot.cursor.focusedWindowId

/-- No scale factor and no opacity is NaN. -/
structure Snapshot.Numeric (snapshot : Snapshot) : Prop where
  scaleFactors : ∀ monitor ∈ snapshot.monitors, monitor.scaleFactor.isNaN = false
  opacities : ∀ window ∈ snapshot.windows, window.opacity.isNaN = false

section Reload

variable {snapshot : Snapshot} {base new : Tables Table}
  (hunused : Unused snapshot.metadata.id base)
  (hadded : Added snapshot snapshot.monitors snapshot.windows (placedTabs snapshot.windows)
    [cursorRow snapshot] new)
  (hcanonical : Canonical snapshot) (hnumeric : Snapshot.Numeric snapshot)

include hunused hadded

theorem reload_snapshot :
    selectSnapshot.rows (appendRows base new) [.text snapshot.metadata.id]
      = [(snapshotRow snapshot).key selectSnapshot.columns] := by
  have hnew : ∀ row ∈ new .snapshots, row "id" = .text snapshot.metadata.id := by
    intro row hrow
    rw [hadded.snapshots] at hrow
    rw [List.mem_singleton.mp hrow]
    rfl
  rw [selectSnapshot_eq, rows_selectBy_new hunused.snapshots hnew, hadded.snapshots,
    List.mergeSort_singleton]
  rfl

theorem reload_cursor :
    selectCursor.rows (appendRows base new) [.text snapshot.metadata.id]
      = [(cursorRow snapshot).key selectCursor.columns] := by
  have hnew : ∀ row ∈ new .cursorStates, row "snapshot_id" = .text snapshot.metadata.id := by
    intro row hrow
    rw [hadded.cursors] at hrow
    rw [List.mem_singleton.mp hrow]
    rfl
  rw [selectCursor_eq, rows_selectBy_new (hunused.parts _ (by decide)) hnew, hadded.cursors,
    List.mergeSort_singleton]
  rfl

include hcanonical hnumeric

theorem reload_monitors :
    (selectMonitors.rows (appendRows base new) [.text snapshot.metadata.id]).map monitorFromRow
      = snapshot.monitors.map (·.asStored) := by
  have hnew : ∀ row ∈ new .monitors, row "snapshot_id" = .text snapshot.metadata.id := by
    intro row hrow
    rw [hadded.monitors] at hrow
    obtain ⟨monitor, -, rfl⟩ := List.mem_map.mp hrow
    rfl
  have hsorted : (new .monitors).Pairwise fun row other => selectMonitors.le row other = true := by
    rw [hadded.monitors, List.pairwise_map]
    refine hcanonical.monitorOrder.imp fun {monitor other} horder => ?_
    have hle : selectMonitors.le (monitorRow snapshot.metadata.id monitor)
        (monitorRow snapshot.metadata.id other)
      = if SqlValue.ofBool monitor.primary = .ofBool other.primary then
          (SqlValue.text monitor.id).le (.text other.id)
        else (SqlValue.ofBool other.primary).le (.ofBool monitor.primary) := rfl
    rw [hle]
    rcases horder with ⟨hprimary, hother⟩ | ⟨hsame, hid⟩
    · rw [hprimary, hother]
      rfl
    · rw [hsame, if_pos rfl]
      exact decide_eq_true hid
  rw [selectMonitors_eq, rows_selectBy_new (hunused.parts _ (by decide)) hnew,
    List.mergeSort_of_pairwise hsorted, hadded.monitors, List.map_map, List.map_map]
  apply List.map_congr_left
  intro monitor hmonitor
  exact monitorFromRow_monitorRow _ (hcanonical.edidHashes monitor hmonitor)
    (hnumeric.scaleFactors monitor hmonitor)

theorem reload_windows :
    (selectWindows.rows (appendRows base new) [.text snapshot.metadata.id]).map windowFromRow
      = snapshot.windows.map fun window => { window.asStored with tabs := [] } := by
  have hnew : ∀ row ∈ new .windows, row "snapshot_id" = .text snapshot.metadata.id := by
    intro row hrow
    rw [hadded.windows] at hrow
    obtain ⟨window, -, rfl⟩ := List.mem_map.mp hrow
    rfl
  have hsorted : (new .windows).Pairwise fun row other => selectWindows.le row other = true := by
    rw [hadded.windows, List.pairwise_map]
    refine hcanonical.windowOrder.imp fun {window other} horder => ?_
    have hle : selectWindows.le (windowRow snapshot.metadata.id window)
        (windowRow snapshot.metadata.id other)
      = decide (window.zOrder.toInt64 ≤ other.zOrder.toInt64) := rfl
    rw [hle, decide_eq_true_eq, Int64.le_iff_toInt_le, Int32.toInt_toInt64, Int32.toInt_toInt64]
    exact Int.le_of_lt (Int32.lt_iff_toInt_lt.mp horder)
  rw [selectWindows_eq, rows_selectBy_new (hunused.parts _ (by decide)) hnew,
    List.mergeSort_of_pairwise hsorted, hadded.windows, List.map_map, List.map_map]
  apply List.map_congr_left
  intro window hwindow
  obtain ⟨hworkspaceId, hworkspaceName, hprofile⟩ := hcanonical.windowTexts window hwindow
  exact windowFromRow_windowRow _ hworkspaceId hworkspaceName hprofile
    (hnumeric.opacities window hwindow)

omit hnumeric in
/-- The tabs of a window are found in their order. -/
theorem reload_tabs {window : WindowInfo} (hwindow : window ∈ snapshot.windows) :
    ((selectTabs.rows (appendRows base new) [.text snapshot.metadata.id]).filter
        fun row => window.id = columnText row 0).map tabFromRow = window.tabs := by
  have hrows : List.Forall₂ (IsTabRow snapshot.metadata.id) (new .tabs)
    (placedTabs snapshot.windows) := hadded.tabs
  have hnew : ∀ row ∈ new .tabs, row "snapshot_id" = .text snapshot.metadata.id := by
    intro row hrow
    obtain ⟨place, -, now, rfl⟩ := exists_of_forall₂ hrows hrow
    rfl
  have hsort : (new .tabs).mergeSort selectTabs.le = (new .tabs).mergeSort tabOrder := by
    have hle : ∀ row ∈ new .tabs, ∀ other ∈ new .tabs,
        selectTabs.le row other = tabOrder (id row) (id other) := by
      intro row hrow other hother
      obtain ⟨place, -, hplace⟩ := exists_of_forall₂ hrows hrow
      obtain ⟨place', -, hplace'⟩ := exists_of_forall₂ hrows hother
      exact hplace.le_eq hplace'
    have hmap := List.map_mergeSort hle
    rwa [List.map_id, List.map_id] at hmap
  -- the rows of the window, which are in order already
  have hkept : List.Forall₂ (IsTabRow snapshot.metadata.id)
      ((new .tabs).filter fun row => window.id = (row "window_id").toText)
      (window.tabs.map fun tab => (window.id, tab)) := by
    rw [← filter_placedTabs hcanonical.windowIds hwindow]
    exact forall₂_filter (fun row place hplace => by rw [hplace.window]) hrows
  have hordered : ((new .tabs).filter fun row => window.id = (row "window_id").toText).Pairwise
      fun row other => tabOrder row other = true := by
    refine pairwise_of_forall₂ (S := fun place place' : Bytes × TabInfo =>
      place.1 = place'.1 ∧ place.2.index < place'.2.index) ?_ hkept ?_
    · rintro - place - place' ⟨now, rfl⟩ ⟨now', rfl⟩ ⟨hsame, hlt⟩
      have horder : tabOrder (tabRow snapshot.metadata.id place.1 now place.2)
          (tabRow snapshot.metadata.id place'.1 now' place'.2)
        = if place.1 = place'.1 then
            decide (place.2.index.toInt64 ≤ place'.2.index.toInt64)
          else decide (place.1 ≤ place'.1) := rfl
      rw [horder, if_pos hsame, decide_eq_true_eq, Int64.le_iff_toInt_le, Int32.toInt_toInt64,
        Int32.toInt_toInt64]
      exact Int.le_of_lt (Int32.lt_iff_toInt_lt.mp hlt)
    · rw [List.pairwise_map]
      exact (hcanonical.tabOrder window hwindow).imp fun h => ⟨rfl, h⟩
  have hread : ∀ {rows : List Row} {tabs : List TabInfo}, (∀ tab ∈ tabs, tab.Storable) →
      List.Forall₂ (IsTabRow snapshot.metadata.id) rows
        (tabs.map fun tab => (window.id, tab)) →
      rows.map (fun row => tabFromRow (row.key selectTabs.columns)) = tabs := by
    intro rows tabs hstorable hrows
    rw [List.forall₂_map_right_iff] at hrows
    induction hrows with
    | nil => rfl
    | cons hhead _ ih =>
        obtain ⟨htab, htabs⟩ := List.forall_mem_cons.mp hstorable
        rw [List.map_cons, hhead.tab htab, ih htabs]
  rw [selectTabs_eq, rows_selectBy_new (hunused.parts _ (by decide)) hnew, hsort, List.filter_map,
    List.map_map]
  have hfilter := filter_mergeSort_of_pairwise tabOrder_trans tabOrder_total hordered
  have hcolumn : ((fun row => decide (window.id = columnText row 0)) ∘ fun row : Row =>
      row.key selectTabs.columns) = fun row => decide (window.id = (row "window_id").toText) := rfl
  rw [hcolumn, hfilter]
  exact hread (hcanonical.tabTexts window hwindow) hkept

/-- **Reloading.** The rows of an insert make the snapshot again. -/
theorem rebuilt_added :
    rebuilt (appendRows base new) snapshot.metadata.id = .ok snapshot.asStored := by
  have hids : ((snapshot.windows.map fun window => { window.asStored with tabs := [] }).map
      (·.id)).Nodup := by
    rw [List.map_map]
    exact hcanonical.windowIds
  rw [rebuilt, reload_snapshot hunused hadded, reload_monitors hunused hadded hcanonical hnumeric,
    reload_windows hunused hadded hcanonical hnumeric, reload_cursor hunused hadded,
    foldl_addTab _ hids, List.map_map]
  dsimp only
  rw [snapshotFromRow_snapshotRow hcanonical.createdAt hcanonical.updatedAt
    hcanonical.activeWorkspaceId]
  have hwindows : ∀ window ∈ snapshot.windows, ((fun window : WindowInfo => { window with
        tabs := window.tabs ++ ((selectTabs.rows (appendRows base new)
          [.text snapshot.metadata.id]).filter
            fun row => window.id = columnText row 0).map tabFromRow })
      ∘ fun window : WindowInfo => { window.asStored with tabs := [] }) window
      = window.asStored := by
    intro window hwindow
    have htabs := reload_tabs hunused hadded hcanonical hwindow
    have hstored : (fun row : List SqlValue => decide (window.asStored.id = columnText row 0))
      = fun row => decide (window.id = columnText row 0) := rfl
    simp only [Function.comp_apply, List.nil_append, hstored, htabs]
    rfl
  rw [List.map_congr_left hwindows]
  have hcursor : ((([(cursorRow snapshot).key selectCursor.columns] : List _).head?).map
      cursorFromRow).getD {} = snapshot.cursor :=
    cursorFromRow_cursorRow hcanonical.focusedWindowId
  rw [hcursor]
  rfl

end Reload

/-! ### Insert, then load -/

theorem rows_new_ne {snapshot : Snapshot} {monitors : List MonitorInfo}
    {windows : List WindowInfo} {tabs : List (Bytes × TabInfo)} {new : Tables Table}
    (hadded : Added snapshot monitors windows tabs [cursorRow snapshot] new) {id : Bytes}
    (hid : id ≠ snapshot.metadata.id) :
    (∀ row ∈ new .snapshots, row "id" ≠ .text id)
      ∧ ∀ table ∈ partTables, ∀ row ∈ new table, row "snapshot_id" ≠ .text id := by
  have hother : SqlValue.text snapshot.metadata.id ≠ .text id := fun heq =>
    hid (SqlValue.text.inj heq).symm
  refine ⟨fun row hrow => ?_, fun table htable row hrow => ?_⟩
  · rw [hadded.snapshots] at hrow
    rw [List.mem_singleton.mp hrow]
    exact hother
  · simp only [partTables, List.mem_cons, List.not_mem_nil, or_false] at htable
    rcases htable with rfl | rfl | rfl | rfl
    · rw [hadded.monitors] at hrow
      obtain ⟨monitor, -, rfl⟩ := List.mem_map.mp hrow
      exact hother
    · rw [hadded.windows] at hrow
      obtain ⟨window, -, rfl⟩ := List.mem_map.mp hrow
      exact hother
    · obtain ⟨place, -, now, rfl⟩ := exists_of_forall₂ hadded.tabs hrow
      exact hother
    · rw [hadded.cursors] at hrow
      rw [List.mem_singleton.mp hrow]
      exact hother

theorem rebuilt_other {base new : Tables Table} {id : Bytes}
    (hsnapshots : ∀ row ∈ new .snapshots, row "id" ≠ .text id)
    (hparts : ∀ table ∈ partTables, ∀ row ∈ new table, row "snapshot_id" ≠ .text id) :
    rebuilt (appendRows base new) id = rebuilt base id := by
  rw [rebuilt, rebuilt, selectSnapshot_eq, selectMonitors_eq, selectWindows_eq, selectTabs_eq,
    selectCursor_eq, rows_selectBy_other hsnapshots,
    rows_selectBy_other (hparts .monitors (by decide)),
    rows_selectBy_other (hparts .windows (by decide)),
    rows_selectBy_other (hparts .tabs (by decide)),
    rows_selectBy_other (hparts .cursorStates (by decide))]

/-- An insert succeeds, a load of its id returns what is expected, and loads of other ids return
what they returned before. -/
def Reloads (env : Environment) (c : Connection) (snapshot expected : Snapshot) : Prop :=
  ∃ c', (insert snapshot).run.run (handler env) c = some (.ok snapshot.metadata.id, c')
    ∧ (∃ c₁, (load snapshot.metadata.id).run.run (handler env) c' = some (.ok expected, c₁))
    ∧ ∀ id ≠ snapshot.metadata.id, ∀ result c₁,
      (load id).run.run (handler env) c = some (result, c₁) →
      ∃ c₂, (load id).run.run (handler env) c' = some (result, c₂)

section Reloads

variable {env : Environment} {c : Connection} {snapshot : Snapshot}

theorem appendRows_nil (tables : Tables Table) : appendRows tables (fun _ => []) = tables := by
  funext table
  exact List.append_nil _

theorem insert_added (hworks : ∀ n, env.fault n = none) (hfree : c.locked = false)
    (hauto : c.saved = none) (hunused : Unused snapshot.metadata.id c.tables)
    (hvalid : isValidUlid snapshot.metadata.id = true) (hinsertable : Insertable snapshot) :
    ∃ c' new, (insert snapshot).run.run (handler env) c = some (.ok snapshot.metadata.id, c')
      ∧ c'.locked = false ∧ c'.tables = appendRows c.tables new
      ∧ Added snapshot snapshot.monitors snapshot.windows (placedTabs snapshot.windows)
        [cursorRow snapshot] new := by
  set held : Connection := { c with locked := true } with hheld
  have hid : snapshot.metadata.id ≠ [] := by
    intro hnil
    rw [hnil] at hvalid
    revert hvalid
    decide
  have hassign : (assignId snapshot).run.run (handler env) c
      = some (.ok snapshot.metadata.id, c) := by
    rw [assignId, if_neg hid]
    rfl
  obtain ⟨c₁, new, hrun, htables, hadded⟩ := writes_insertAll hworks hunused hinsertable
    held.begun (fun _ => []) (appendRows_nil c.tables).symm fun _ => rfl
  have hsaved : c₁.saved = some held.tables := saved_of_inside (insertAll_inside snapshot) hrun
  have hheldAuto : held.saved = none := hauto
  have hcommitted := (withTransaction_committed hheldAuto (hworks _) hsaved hrun).1 (hworks _)
  have hwhole : (insert snapshot).run.run (handler env) c
      = some (.ok snapshot.metadata.id,
          { { c₁.counted with saved := none } with locked := false }) := by
    have hsame : withId snapshot snapshot.metadata.id = snapshot := rfl
    rw [insert, run_bind_ok hassign, if_pos hvalid, withLock_run hfree, hsame, ← hheld, hcommitted]
    rfl
  exact ⟨_, new, hwhole, rfl, htables, hadded⟩

theorem Canonical.insertable (hcanonical : Canonical snapshot)
    (hnumeric : Snapshot.Numeric snapshot) : Insertable snapshot where
  monitorIds := hcanonical.monitorIds
  windowIds := hcanonical.windowIds
  tabIds := hcanonical.tabIds
  scaleFactors := hnumeric.scaleFactors
  opacities := hnumeric.opacities

end Reloads

/-! ### A desk with a monitor -/

def deskScaled (scaleFactor : Float) : Snapshot :=
  { deskSnapshot with monitors := [{ id := str "dp-1", scaleFactor }] }

theorem canonical_deskScaled (scaleFactor : Float) : Canonical (deskScaled scaleFactor) where
  valid := (by decide : isValidUlid deskSnapshot.metadata.id = true)
  createdAt := rfl
  updatedAt := rfl
  activeWorkspaceId := nofun
  monitorIds := List.nodup_singleton _
  monitorOrder := List.pairwise_singleton _ _
  edidHashes monitor hmonitor := by
    rw [List.mem_singleton.mp hmonitor]
    nofun
  windowIds := List.nodup_nil
  windowOrder := .nil
  windowTexts window hwindow := absurd hwindow List.not_mem_nil
  tabIds window hwindow := absurd hwindow List.not_mem_nil
  tabOrder window hwindow := absurd hwindow List.not_mem_nil
  tabTexts window hwindow := absurd hwindow List.not_mem_nil
  focusedWindowId := nofun

theorem consistent_emptyConnection : Consistent emptyConnection.tables := fun _ _ hrow =>
  absurd hrow List.not_mem_nil

end ContextSnap.Storage
