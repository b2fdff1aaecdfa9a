import ContextSnap.Proof.SearchIndex

/-!
# The rows that an insert adds

Where SQLite works, a snapshot that keeps the constraints goes into the tables row by row, behind
the rows that are there already.
-/

namespace ContextSnap.Storage

open Sql

/-! ### Tables without a snapshot -/

/-- Every row has the parents that its foreign keys ask for. -/
def Consistent (tables : Tables Table) : Prop :=
  ∀ table, ∀ row ∈ tables table, hasParents schema tables table row = true

/-- The tables that belong to a snapshot. -/
def partTables : List Table := [.monitors, .windows, .tabs, .cursorStates]

/-- Nothing in the tables belongs to a snapshot with an id. -/
structure Unused (id : Bytes) (tables : Tables Table) : Prop where
  snapshots : ∀ row ∈ tables .snapshots, row "id" ≠ .text id
  parts : ∀ table ∈ partTables, ∀ row ∈ tables table, row "snapshot_id" ≠ .text id

theorem snapshotKey_mem {table : Table} (h : table ∈ partTables) :
    snapshotKey ∈ (schema table).foreignKeys := by
  cases table <;> simp [partTables] at h <;> exact List.mem_cons_self ..

theorem unused_of_fresh {tables : Tables Table} {id : Bytes} (hconsistent : Consistent tables)
    (hfresh : ∀ row ∈ tables .snapshots, row "id" ≠ .text id) : Unused id tables := by
  refine ⟨hfresh, fun table htable row hrow hid => ?_⟩
  have hkey := List.all_eq_true.mp (hconsistent table row hrow) _ (snapshotKey_mem htable)
  obtain ⟨parent, hparent, hrefers⟩ := List.any_eq_true.mp hkey
  have hsame : [row "snapshot_id"] = [parent "id"] := eq_of_beq hrefers
  exact hfresh parent hparent ((List.cons.inj hsame).1.symm.trans hid)

/-! ### Programs that write -/

section Writes

variable (env : Environment) (base : Tables Table) {α β : Type}

/-- From tables with added rows of one kind, a program goes on to tables with added rows of another
kind. -/
def Writes (before : Tables Table → Prop) (program : Repo α) (value : α)
    (after : Tables Table → Prop) : Prop :=
  ∀ c new, c.tables = appendRows base new → before new →
    ∃ c' new', program.run.run (handler env) c = some (.ok value, c')
      ∧ c'.tables = appendRows base new' ∧ after new'

variable {env base} {before middle after : Tables Table → Prop}

theorem Writes.bind {program : Repo α} {next : α → Repo β} {value : α} {result : β}
    (h : Writes env base before program value middle)
    (hnext : Writes env base middle (next value) result after) :
    Writes env base before (program >>= next) result after := by
  intro c new htables hbefore
  obtain ⟨c₁, new₁, hrun, htables₁, hmiddle⟩ := h c new htables hbefore
  obtain ⟨c₂, new₂, hrest, htables₂, hafter⟩ := hnext c₁ new₁ htables₁ hmiddle
  exact ⟨c₂, new₂, (run_bind_ok hrun).trans hrest, htables₂, hafter⟩

/-- A loop, of which each round goes one item further. -/
theorem Writes.forM {values : List β} {body : β → Repo Unit}
    {kind : List β → Tables Table → Prop}
    (hstep : ∀ front value back, values = front ++ value :: back →
      Writes env base (kind front) (body value) () (kind (front ++ [value]))) :
    Writes env base (kind []) (values.forM body) () (kind values) := by
  have hrest : ∀ back front, values = front ++ back →
      Writes env base (kind front) (back.forM body) () (kind values) := by
    intro back
    induction back with
    | nil =>
        intro front hsplit c new htables hkind
        rw [List.append_nil] at hsplit
        exact ⟨c, new, rfl, htables, hsplit ▸ hkind⟩
    | cons value back ih =>
        intro front hsplit
        exact (hstep front value back hsplit).bind
          (ih (front ++ [value]) (by rw [hsplit, List.append_assoc]; rfl))
  exact hrest values [] rfl

variable (hworks : ∀ n, env.fault n = none)

include hworks

theorem writes_prepare (tables : List Table) (before : Tables Table → Prop) :
    Writes env base before (prepare tables) () before := fun c new htables hbefore =>
  ⟨c.counted, new, prepare_ok tables (hworks _), htables, hbefore⟩

theorem writes_execute {table : Table} {columns : List String} {values : List SqlValue}
    (hinsert : ∀ new, before new →
      insertRow schema (appendRows base new) table (insertedRow schema table columns values)
        = .ok (appendRows base (Function.update new table
          (new table ++ [insertedRow schema table columns values]))))
    (hafter : ∀ new, before new →
      after (Function.update new table
        (new table ++ [insertedRow schema table columns values]))) :
    Writes env base before (execute (.insert table columns) values) () after := by
  intro c new htables hbefore
  have hdml : runDml c.tables values (.insert table columns)
      = .ok (appendRows base (Function.update new table
          (new table ++ [insertedRow schema table columns values])), 1) := by
    rw [htables]
    change (insertRow schema _ table _).bind (fun inserted => .ok (inserted, 1)) = _
    rw [hinsert new hbefore]
    rfl
  have hstatement : runStatement (.insert table columns) values c.counted
      = .ok ((), { c.counted with
        tables := appendRows base (Function.update new table
          (new table ++ [insertedRow schema table columns values])), changes := 1 }) := by
    have hcounted : c.counted.tables = c.tables := rfl
    rw [runStatement, hcounted, hdml]
  exact ⟨_, _, execute_ok (hworks _) hstatement, rfl, hafter new hbefore⟩

end Writes

/-! ### The rows of a snapshot -/

/-- The tabs of windows, each with the id of its window. -/
def placedTabs (windows : List WindowInfo) : List (Bytes × TabInfo) :=
  windows.flatMap fun window => window.tabs.map fun tab => (window.id, tab)

/-- The added rows, when an insert got so far. -/
structure Added (snapshot : Snapshot) (monitors : List MonitorInfo) (windows : List WindowInfo)
    (tabs : List (Bytes × TabInfo)) (cursors : List Row) (new : Tables Table) : Prop where
  snapshots : new .snapshots = [snapshotRow snapshot]
  monitors : new .monitors = monitors.map (monitorRow snapshot.metadata.id)
  windows : new .windows = windows.map (windowRow snapshot.metadata.id)
  tabs : List.Forall₂ (fun row place =>
    ∃ now, row = tabRow snapshot.metadata.id place.1 now place.2) (new .tabs) tabs
  cursors : new .cursorStates = cursors

/-- What the constraints ask of a snapshot. -/
structure Insertable (snapshot : Snapshot) : Prop where
  monitorIds : (snapshot.monitors.map (·.id)).Nodup
  windowIds : (snapshot.windows.map (·.id)).Nodup
  tabIds : ∀ window ∈ snapshot.windows, (window.tabs.map (·.id)).Nodup
  scaleFactors : ∀ monitor ∈ snapshot.monitors, monitor.scaleFactor.isNaN = false
  opacities : ∀ window ∈ snapshot.windows, window.opacity.isNaN = false

section Keys

variable (id : Bytes)

theorem key_snapshotRow (snapshot : Snapshot) :
    (snapshotRow snapshot).key ["id"] = [.text snapshot.metadata.id] := rfl

/-- A row of another snapshot has another key. -/
theorem key_ne_of_unused {tables : Tables Table} (hunused : Unused id tables) {table : Table}
    (htable : table ∈ partTables) {columns : List String} {values : List SqlValue} {row : Row}
    (hrow : row ∈ tables table) : row.key ("snapshot_id" :: columns) ≠ .text id :: values := by
  intro hkey
  exact hunused.parts table htable row hrow (List.cons.inj hkey).1

end Keys

theorem notMem_front {α β : Type} {f : α → β} {values front back : List α} {value : α}
    (hnodup : (values.map f).Nodup) (hsplit : values = front ++ value :: back) :
    ∀ other ∈ front, f other ≠ f value := by
  intro other hother heq
  rw [hsplit, List.map_append, List.nodup_append] at hnodup
  exact hnodup.2.2 (f other) (List.mem_map_of_mem hother) (f value)
    (List.mem_map_of_mem (List.mem_cons_self ..)) heq

theorem exists_of_forall₂ {α β : Type} {R : α → β → Prop} {first : List α} {second : List β}
    (h : List.Forall₂ R first second) {a : α} (ha : a ∈ first) : ∃ b ∈ second, R a b := by
  induction h with
  | nil => exact absurd ha List.not_mem_nil
  | cons hhead _ ih =>
      rcases List.mem_cons.mp ha with rfl | ha
      · exact ⟨_, List.mem_cons_self .., hhead⟩
      · obtain ⟨b, hb, hR⟩ := ih ha
        exact ⟨b, List.mem_cons_of_mem _ hb, hR⟩

section Insert

variable {env : Environment} {base : Tables Table} {snapshot : Snapshot}
  {monitors : List MonitorInfo} {windows : List WindowInfo} {tabs : List (Bytes × TabInfo)}
  (hworks : ∀ n, env.fault n = none) (hunused : Unused snapshot.metadata.id base)
  (hinsertable : Insertable snapshot)

theorem hasParent_snapshotRow {new : Tables Table} (hnew : new .snapshots = [snapshotRow snapshot])
    {row : Row} (hrow : row "snapshot_id" = .text snapshot.metadata.id) :
    ∃ parent ∈ new snapshotKey.parent, refersTo snapshotKey row parent = true := by
  refine ⟨snapshotRow snapshot, ?_, ?_⟩
  · change _ ∈ new .snapshots
    rw [hnew]
    exact List.mem_singleton_self _
  · have hkey : row.key ["snapshot_id"] = (snapshotRow snapshot).key ["id"] := by
      rw [key_snapshotRow, ← hrow]
      rfl
    exact beq_iff_eq.mpr hkey

include hworks hunused

theorem writes_snapshotRow :
    Writes env base (fun new => ∀ table, new table = [])
      (execute insertSnapshots (snapshotValues snapshot)) () (Added snapshot [] [] [] []) := by
  refine writes_execute hworks (fun new hnew => ?_) fun new hnew => ?_
  · apply insertRow_append (snapshotRow_admitted snapshot)
    · intro other hother hkey
      exact hunused.snapshots other hother (List.cons.inj hkey).1
    · intro other hother
      rw [hnew] at hother
      cases hother
    · intro foreignKey hkey
      cases hkey
  · refine ⟨?_, ?_, ?_, ?_, ?_⟩
    · rw [Function.update_self, hnew]
      rfl
    · exact (Function.update_of_ne (by decide) _ _).trans (hnew _)
    · exact (Function.update_of_ne (by decide) _ _).trans (hnew _)
    · rw [Function.update_of_ne (by decide), hnew]
      exact .nil
    · exact (Function.update_of_ne (by decide) _ _).trans (hnew _)

include hinsertable

theorem writes_monitors :
    Writes env base (Added snapshot [] [] [] []) (insertMonitors snapshot) ()
      (Added snapshot snapshot.monitors [] [] []) := by
  apply (writes_prepare hworks _ _).bind
  refine @Writes.forM env base _ _ _ (fun front => Added snapshot front [] [] []) ?_
  intro front monitor back hsplit
  have hmem : monitor ∈ snapshot.monitors :=
    hsplit ▸ List.mem_append_right _ (List.mem_cons_self ..)
  refine writes_execute hworks (fun new hnew => ?_) fun new hnew => ?_
  · apply insertRow_append (monitorRow_admitted _ (hinsertable.scaleFactors monitor hmem))
    · intro other hother
      exact key_ne_of_unused _ hunused (by decide) hother
    · intro other hother hkey
      rw [hnew.monitors] at hother
      obtain ⟨earlier, hearlier, rfl⟩ := List.mem_map.mp hother
      have hids : [SqlValue.text snapshot.metadata.id, .text earlier.id]
        = [.text snapshot.metadata.id, .text monitor.id] := hkey
      exact notMem_front hinsertable.monitorIds hsplit earlier hearlier (by simpa using hids)
    · intro foreignKey hkey
      rw [List.mem_singleton.mp hkey]
      exact hasParent_snapshotRow hnew.snapshots rfl
  · refine ⟨?_, ?_, ?_, ?_, ?_⟩
    · exact (Function.update_of_ne (by decide) _ _).trans hnew.snapshots
    · rw [Function.update_self, hnew.monitors, List.map_append]
      rfl
    · exact (Function.update_of_ne (by decide) _ _).trans hnew.windows
    · rw [Function.update_of_ne (by decide)]
      exact hnew.tabs
    · exact (Function.update_of_ne (by decide) _ _).trans hnew.cursors

omit hinsertable in
theorem writes_tab {window : WindowInfo} {tab : TabInfo} (hwindow : window ∈ windows)
    (hother : ∀ place ∈ tabs, (place.1, place.2.id) ≠ (window.id, tab.id)) (now : Timestamp) :
    Writes env base (Added snapshot monitors windows tabs [])
      (execute insertTabsStatement (tabValues snapshot.metadata.id window.id now tab)) ()
      (Added snapshot monitors windows (tabs ++ [(window.id, tab)]) []) := by
  refine writes_execute hworks (fun new hnew => ?_) fun new hnew => ?_
  · apply insertRow_append (tabRow_admitted _ window.id now tab)
    · intro other hother
      exact key_ne_of_unused _ hunused (by decide) hother
    · intro other hmem hkey
      obtain ⟨place, hplace, now', rfl⟩ := exists_of_forall₂ hnew.tabs hmem
      have hids : [SqlValue.text snapshot.metadata.id, .text place.1, .text place.2.id]
        = [.text snapshot.metadata.id, .text window.id, .text tab.id] := hkey
      exact hother place hplace (by simpa using hids)
    · intro foreignKey hkey
      rcases List.mem_cons.mp hkey with rfl | hkey
      · exact hasParent_snapshotRow hnew.snapshots rfl
      · rw [List.mem_singleton.mp hkey]
        refine ⟨windowRow snapshot.metadata.id window, ?_, beq_iff_eq.mpr rfl⟩
        change _ ∈ new .windows
        rw [hnew.windows]
        exact List.mem_map_of_mem hwindow
  · refine ⟨?_, ?_, ?_, ?_, ?_⟩
    · exact (Function.update_of_ne (by decide) _ _).trans hnew.snapshots
    · exact (Function.update_of_ne (by decide) _ _).trans hnew.monitors
    · exact (Function.update_of_ne (by decide) _ _).trans hnew.windows
    · rw [Function.update_self]
      exact List.rel_append hnew.tabs (.cons ⟨now, rfl⟩ .nil)
    · exact (Function.update_of_ne (by decide) _ _).trans hnew.cursors

omit hinsertable in
theorem writes_tabs {window : WindowInfo} (hwindow : window ∈ windows)
    (hids : (window.tabs.map (·.id)).Nodup) (hother : ∀ place ∈ tabs, place.1 ≠ window.id) :
    Writes env base (Added snapshot monitors windows tabs [])
      (insertTabs snapshot.metadata.id window) ()
      (Added snapshot monitors windows
        (tabs ++ window.tabs.map fun tab => (window.id, tab)) []) := by
  unfold insertTabs
  split
  case isTrue hnone =>
    intro c new htables hnew
    rw [List.isEmpty_iff.mp hnone, List.map_nil, List.append_nil]
    exact ⟨c, new, rfl, htables, hnew⟩
  case isFalse =>
    apply (writes_prepare hworks _ _).bind
    have hloop := @Writes.forM env base _ window.tabs (fun tab => do
        let now ← ask .now
        execute insertTabsStatement (tabValues snapshot.metadata.id window.id now tab))
      (fun front => Added snapshot monitors windows
        (tabs ++ front.map fun tab => (window.id, tab)) []) ?_
    · simpa only [List.map_nil, List.append_nil] using hloop
    intro front tab back hsplit c new htables hnew
    have hnow : (ask .now).run.run (handler env) c
        = some (.ok (env.clock c.readings), { c with readings := c.readings + 1 }) := ask_run rfl
    have hfresh : ∀ place ∈ tabs ++ front.map fun tab => (window.id, tab),
        (place.1, place.2.id) ≠ (window.id, tab.id) := by
      intro place hplace heq
      rcases List.mem_append.mp hplace with hplace | hplace
      · exact hother place hplace (congrArg Prod.fst heq)
      · obtain ⟨earlier, hearlier, rfl⟩ := List.mem_map.mp hplace
        exact notMem_front hids hsplit earlier hearlier (congrArg Prod.snd heq)
    have hwrite := @writes_tab env base snapshot monitors _ _ hworks hunused window tab hwindow
      hfresh (env.clock c.readings)
    obtain ⟨c', new', hrun, htables', hnew'⟩ :=
      hwrite { c with readings := c.readings + 1 } new htables hnew
    refine ⟨c', new', (run_bind_ok hnow).trans hrun, htables', ?_⟩
    rw [List.map_append, ← List.append_assoc]
    exact hnew'

theorem writes_windows :
    Writes env base (Added snapshot snapshot.monitors [] [] []) (insertWindows snapshot) ()
      (Added snapshot snapshot.monitors snapshot.windows (placedTabs snapshot.windows) []) := by
  apply (writes_prepare hworks _ _).bind
  refine @Writes.forM env base _ _ _
    (fun front => Added snapshot snapshot.monitors front (placedTabs front) []) ?_
  intro front window back hsplit
  have hmem : window ∈ snapshot.windows := hsplit ▸ List.mem_append_right _ (List.mem_cons_self ..)
  have hothers := notMem_front hinsertable.windowIds hsplit
  have hrow : Writes env base (Added snapshot snapshot.monitors front (placedTabs front) [])
      (execute insertWindowsStatement (windowValues snapshot.metadata.id window)) ()
      (Added snapshot snapshot.monitors (front ++ [window]) (placedTabs front) []) := by
    refine writes_execute hworks (fun new hnew => ?_) fun new hnew => ?_
    · apply insertRow_append (windowRow_admitted _ (hinsertable.opacities window hmem))
      · intro other hother
        exact key_ne_of_unused _ hunused (by decide) hother
      · intro other hother hkey
        rw [hnew.windows] at hother
        obtain ⟨earlier, hearlier, rfl⟩ := List.mem_map.mp hother
        have hids : [SqlValue.text snapshot.metadata.id, .text earlier.id]
          = [.text snapshot.metadata.id, .text window.id] := hkey
        exact hothers earlier hearlier (by simpa using hids)
      · intro foreignKey hkey
        rw [List.mem_singleton.mp hkey]
        exact hasParent_snapshotRow hnew.snapshots rfl
    · refine ⟨?_, ?_, ?_, ?_, ?_⟩
      · exact (Function.update_of_ne (by decide) _ _).trans hnew.snapshots
      · exact (Function.update_of_ne (by decide) _ _).trans hnew.monitors
      · rw [Function.update_self, hnew.windows, List.map_append]
        rfl
      · rw [Function.update_of_ne (by decide)]
        exact hnew.tabs
      · exact (Function.update_of_ne (by decide) _ _).trans hnew.cursors
  have htabs : Writes env base
      (Added snapshot snapshot.monitors (front ++ [window]) (placedTabs front) [])
      (insertTabs snapshot.metadata.id window) ()
      (Added snapshot snapshot.monitors (front ++ [window]) (placedTabs (front ++ [window]))
        []) := by
    have hplaced : placedTabs (front ++ [window])
        = placedTabs front ++ window.tabs.map fun tab => (window.id, tab) := by
      simp [placedTabs]
    rw [hplaced]
    apply writes_tabs hworks hunused (List.mem_append_right _ (List.mem_singleton_self _))
      (hinsertable.tabIds window hmem)
    intro place hplace
    obtain ⟨earlier, hearlier, hplace⟩ := List.mem_flatMap.mp hplace
    obtain ⟨tab, -, rfl⟩ := List.mem_map.mp hplace
    exact hothers earlier hearlier
  exact hrow.bind htabs

omit hinsertable in
theorem writes_cursor :
    Writes env base (Added snapshot monitors windows tabs []) (insertCursor snapshot) ()
      (Added snapshot monitors windows tabs [cursorRow snapshot]) := by
  apply (writes_prepare hworks _ _).bind
  refine writes_execute hworks (fun new hnew => ?_) fun new hnew => ?_
  · apply insertRow_append (cursorRow_admitted snapshot)
    · intro other hother
      exact key_ne_of_unused _ hunused (by decide) hother
    · intro other hother
      rw [hnew.cursors] at hother
      cases hother
    · intro foreignKey hkey
      rw [List.mem_singleton.mp hkey]
      exact hasParent_snapshotRow hnew.snapshots rfl
  · refine ⟨?_, ?_, ?_, ?_, ?_⟩
    · exact (Function.update_of_ne (by decide) _ _).trans hnew.snapshots
    · exact (Function.update_of_ne (by decide) _ _).trans hnew.monitors
    · exact (Function.update_of_ne (by decide) _ _).trans hnew.windows
    · rw [Function.update_of_ne (by decide)]
      exact hnew.tabs
    · rw [Function.update_self, hnew.cursors]
      rfl

omit hunused hinsertable in
theorem writes_search {cursors : List Row} :
    Writes env base (Added snapshot monitors windows tabs cursors) (indexForSearch snapshot) ()
      (Added snapshot monitors windows tabs cursors) := by
  intro c new htables hnew
  obtain ⟨c', hrun, htables'⟩ := indexForSearch_run hworks c snapshot
  rw [htables, appendRows_update] at htables'
  refine ⟨c', _, hrun, htables', ?_⟩
  refine ⟨?_, ?_, ?_, ?_, ?_⟩
  · exact (Function.update_of_ne (by decide) _ _).trans hnew.snapshots
  · exact (Function.update_of_ne (by decide) _ _).trans hnew.monitors
  · exact (Function.update_of_ne (by decide) _ _).trans hnew.windows
  · rw [Function.update_of_ne (by decide)]
    exact hnew.tabs
  · exact (Function.update_of_ne (by decide) _ _).trans hnew.cursors

/-- **An insert** adds the rows of its snapshot. -/
theorem writes_insertAll :
    Writes env base (fun new => ∀ table, new table = []) (insertAll snapshot) snapshot.metadata.id
      (Added snapshot snapshot.monitors snapshot.windows (placedTabs snapshot.windows)
        [cursorRow snapshot]) := by
  apply (writes_prepare hworks _ _).bind
  apply (writes_snapshotRow hworks hunused).bind
  apply (writes_monitors hworks hunused hinsertable).bind
  apply (writes_windows hworks hunused hinsertable).bind
  apply (writes_cursor hworks hunused).bind
  apply (writes_search hworks).bind
  intro c new htables hnew
  exact ⟨c, new, rfl, htables, hnew⟩

end Insert

end ContextSnap.Storage
