import ContextSnap.Proof.MetadataEdits
import ContextSnap.Proof.RepositoryPrune

/-!
# The search index

An insert writes the row of a snapshot and its entry in the index, and deletions take both. An update
of the metadata writes a second entry: the trigger has already brought the first one up to date.
-/

namespace ContextSnap.Storage

open Sql

/-! ### What the index is to hold -/

/-- The columns that only `index_for_search` fills in. -/
def indexedColumns : List String := ["app_ids", "window_titles", "tab_titles", "tab_hosts"]

/-- The entries of a snapshot. -/
def entriesOf (tables : Tables Table) (id : SqlValue) : List Row :=
  (tables .snapshotSearch).filter fun entry => entry "snapshot_id" = id

/-- The snapshot that was inserted last with this id, if the last one comes first. -/
def lastInserted (inserted : List Snapshot) (id : SqlValue) : Option Snapshot :=
  inserted.find? fun snapshot => SqlValue.text snapshot.metadata.id = id

/-- One entry for each stored snapshot, with what was inserted, and no others. -/
structure Indexed (inserted : List Snapshot) (tables : Tables Table) : Prop where
  one : ∀ row ∈ tables .snapshots, (entriesOf tables (row "id")).length = 1
  only : ∀ entry ∈ tables .snapshotSearch, ∃ row ∈ tables .snapshots,
    row "id" = entry "snapshot_id"
  contents : ∀ row ∈ tables .snapshots, ∃ snapshot, lastInserted inserted (row "id") = some snapshot
    ∧ ∀ entry ∈ entriesOf tables (row "id"), entry "name" = row "name"
      ∧ ∀ column ∈ indexedColumns, entry column = searchRow snapshot column

/-- What was done to a repository: the snapshots that were inserted, the last one first, and the ids
that were updated and not inserted since then. -/
structure History where
  inserted : List Snapshot := []
  updated : Set SqlValue := ∅

def History.insert (history : History) (original : Snapshot) : Result Bytes → History
  | .ok id =>
      { inserted := withId original id :: history.inserted
        updated := history.updated \ {SqlValue.text id} }
  | .error _ => history

def History.update (history : History) (metadata : SnapshotMetadata) : History :=
  { history with updated := Insert.insert (SqlValue.text metadata.id) history.updated }

/-- What a repository comes to that starts with an empty database. -/
inductive Reached (env : Environment) : Connection → History → Prop where
  | start {c : Connection} (htables : c.tables = fun _ => []) (hsaved : c.saved = none) :
      Reached env c {}
  | insert {c c' : Connection} {history : History} {original : Snapshot} {result : Result Bytes}
      (h : Reached env c history)
      (hrun : (Storage.insert original).run.run (reentrantHandler env) c = some (result, c')) :
      Reached env c' (history.insert original result)
  | updateMetadata {c c' : Connection} {history : History} {metadata : SnapshotMetadata}
      {result : Result Unit} (h : Reached env c history)
      (hrun : (Storage.updateMetadata metadata).run.run (reentrantHandler env) c
        = some (result, c')) :
      Reached env c' (history.update metadata)
  | remove {c c' : Connection} {history : History} {id : Bytes} {result : Result Unit}
      (h : Reached env c history)
      (hrun : (Storage.remove id).run.run (reentrantHandler env) c = some (result, c')) :
      Reached env c' history
  | prune {c c' : Connection} {history : History} {query : PruneQuery} {result : Result UInt32}
      (h : Reached env c history)
      (hrun : (Storage.prune query).run.run (reentrantHandler env) c = some (result, c')) :
      Reached env c' history

/-- The entries of a snapshot hold what was inserted. -/
def Describes (inserted : List Snapshot) (tables : Tables Table) (row : Row) : Prop :=
  ∃ snapshot, lastInserted inserted (row "id") = some snapshot
    ∧ ∀ entry ∈ entriesOf tables (row "id"), entry "name" = row "name"
      ∧ ∀ column ∈ indexedColumns, entry column = searchRow snapshot column

/-- What the index holds: one entry for a snapshot that was not updated, and more for one that
was. -/
structure Tracks (history : History) (tables : Tables Table) : Prop where
  only : ∀ entry ∈ tables .snapshotSearch, ∃ row ∈ tables .snapshots,
    row "id" = entry "snapshot_id"
  fresh : ∀ row ∈ tables .snapshots, row "id" ∉ history.updated →
    (entriesOf tables (row "id")).length = 1 ∧ Describes history.inserted tables row
  stale : ∀ row ∈ tables .snapshots, row "id" ∈ history.updated →
    2 ≤ (entriesOf tables (row "id")).length

theorem Tracks.indexed_iff {history : History} {tables : Tables Table} (h : Tracks history tables) :
    Indexed history.inserted tables ↔ ∀ row ∈ tables .snapshots, row "id" ∉ history.updated := by
  constructor
  · intro hindexed row hrow hupdated
    have hone := hindexed.one row hrow
    have htwo := h.stale row hrow hupdated
    omega
  · intro hnone
    exact ⟨fun row hrow => (h.fresh row hrow (hnone row hrow)).1, h.only,
      fun row hrow => (h.fresh row hrow (hnone row hrow)).2⟩

/-! ### Deletions -/

section Deletions

variable {history : History} {before after : Tables Table}

/-- A survivor keeps its entries. -/
theorem entriesOf_cascades (hcascades : Cascades before after) {row : Row}
    (hrow : row ∈ after .snapshots) : entriesOf after (row "id") = entriesOf before (row "id") := by
  rw [entriesOf, hcascades .snapshotSearch (by decide), List.filter_filter, entriesOf]
  apply List.filter_congr
  intro entry _
  by_cases hsame : entry "snapshot_id" = row "id"
  · have hkept : ¬Gone before after (row "id") := fun hgone => hgone.2 row hrow rfl
    simp [hsame, hkept]
  · simp [hsame]

theorem Tracks.cascades (h : Tracks history before)
    (hsub : (after .snapshots).Sublist (before .snapshots)) (hcascades : Cascades before after) :
    Tracks history after where
  only := by
    intro entry hentry
    rw [hcascades .snapshotSearch (by decide)] at hentry
    obtain ⟨hmem, hstays⟩ := List.mem_filter.mp hentry
    rw [Bool.not_eq_true', decide_eq_false_iff_not] at hstays
    obtain ⟨row, hrow, hid⟩ := h.only entry hmem
    by_contra hnone
    push Not at hnone
    exact hstays ⟨⟨row, hrow, hid⟩, hnone⟩
  fresh := by
    intro row hrow hupdated
    rw [Describes, entriesOf_cascades hcascades hrow]
    exact h.fresh row (hsub.subset hrow) hupdated
  stale := by
    intro row hrow hupdated
    rw [entriesOf_cascades hcascades hrow]
    exact h.stale row (hsub.subset hrow) hupdated

end Deletions

/-! ### Inserts -/

section Insertion

variable {history : History} {before after : Tables Table} {original : Snapshot} {id : Bytes}

theorem searchRow_snapshotId (snapshot : Snapshot) :
    searchRow snapshot "snapshot_id" = .text snapshot.metadata.id := rfl

theorem Tracks.insert (h : Tracks history before)
    (hunused : ∀ row ∈ before .snapshots, row "id" ≠ .text id)
    (hrows : after .snapshots = before .snapshots ++ [snapshotRow (withId original id)])
    (hentries : after .snapshotSearch
      = before .snapshotSearch ++ [searchRow (withId original id)]) :
    Tracks (history.insert original (.ok id)) after := by
  set snapshot := withId original id with hsnapshot
  have hid : snapshotRow snapshot "id" = .text id := rfl
  have hold : ∀ row ∈ before .snapshots, entriesOf after (row "id") = entriesOf before (row "id") := by
    intro row hrow
    have hother : searchRow snapshot "snapshot_id" ≠ row "id" := (hunused row hrow).symm
    rw [entriesOf, hentries, List.filter_append, entriesOf]
    simp [hother]
  have hnew : entriesOf after (.text id) = [searchRow snapshot] := by
    have hnone : entriesOf before (.text id) = [] := by
      apply List.filter_eq_nil_iff.mpr
      intro entry hentry hsame
      obtain ⟨row, hrow, hrowId⟩ := h.only entry hentry
      exact hunused row hrow (hrowId.trans (of_decide_eq_true hsame))
    rw [entriesOf, hentries, List.filter_append]
    change entriesOf before (.text id) ++ _ = _
    rw [hnone, List.nil_append]
    exact List.filter_cons_of_pos (decide_eq_true rfl)
  constructor
  · intro entry hentry
    rw [hentries] at hentry
    rw [hrows]
    rcases List.mem_append.mp hentry with hentry | hentry
    · obtain ⟨row, hrow, hrowId⟩ := h.only entry hentry
      exact ⟨row, List.mem_append_left _ hrow, hrowId⟩
    · rw [List.mem_singleton.mp hentry]
      exact ⟨snapshotRow snapshot, by simp, rfl⟩
  · intro row hrow hupdated
    rw [hrows] at hrow
    rcases List.mem_append.mp hrow with hrow | hrow
    · have hbefore : row "id" ∉ history.updated := fun hmem =>
        hupdated ⟨hmem, hunused row hrow⟩
      obtain ⟨hone, stored, hlast, hcontents⟩ := h.fresh row hrow hbefore
      rw [Describes, hold row hrow]
      refine ⟨hone, stored, ?_, hcontents⟩
      change List.find? _ (snapshot :: history.inserted) = _
      rw [List.find?_cons_of_neg]
      · exact hlast
      · exact fun hsame => hunused row hrow (of_decide_eq_true hsame).symm
    · rw [List.mem_singleton.mp hrow, Describes, hid, hnew]
      refine ⟨rfl, snapshot, List.find?_cons_of_pos (decide_eq_true rfl), ?_⟩
      intro entry hentry
      rw [List.mem_singleton.mp hentry]
      exact ⟨rfl, fun _ _ => rfl⟩
  · intro row hrow hupdated
    rw [hrows] at hrow
    rcases List.mem_append.mp hrow with hrow | hrow
    · rw [hold row hrow]
      exact h.stale row hrow hupdated.1
    · rw [List.mem_singleton.mp hrow, hid] at hupdated
      exact absurd rfl hupdated.2

end Insertion

/-! ### Updates -/

section Update

variable {history : History} {before middle after : Tables Table} {metadata : SnapshotMetadata}
  {now : Timestamp}

/-- The trigger keeps the entries in their places, and those of other snapshots as they are. -/
theorem foldl_afterUpdate_search {id : SqlValue} (new : List Row) (tables : Tables Table)
    (hnew : ∀ row ∈ new, row "id" = id) :
    ∃ edit : Row → Row, new.foldl afterUpdate tables .snapshotSearch
        = (tables .snapshotSearch).map edit
      ∧ (∀ entry, edit entry "snapshot_id" = entry "snapshot_id")
      ∧ ∀ entry, entry "snapshot_id" ≠ id → edit entry = entry := by
  induction new generalizing tables with
  | nil => exact ⟨fun entry => entry, (List.map_id' _).symm, fun _ => rfl, fun _ _ => rfl⟩
  | cons row new ih =>
      obtain ⟨edit, hfold, hsame, hothers⟩ := ih (afterUpdate tables row)
        fun other hother => hnew other (List.mem_cons_of_mem _ hother)
      have hrow : row "id" = id := hnew row (List.mem_cons_self ..)
      set first : Row → Row := fun entry => if entry "snapshot_id" = row "id" then
        updatedRow ["name", "tags"] [row "name", row "tags"] entry else entry with hfirst
      have hfirstId : ∀ entry, first entry "snapshot_id" = entry "snapshot_id" := by
        intro entry
        rw [hfirst]
        dsimp only
        split <;> rfl
      refine ⟨fun entry => edit (first entry), ?_, ?_, ?_⟩
      · rw [List.foldl_cons, hfold]
        change ((tables .snapshotSearch).map first).map edit = _
        rw [List.map_map]
        rfl
      · intro entry
        exact (hsame (first entry)).trans (hfirstId entry)
      · intro entry hother
        have hkept : first entry = entry := if_neg (hrow ▸ hother)
        exact (congrArg edit hkept).trans (hothers entry hother)

/-- What an update that finds its row leaves: one more entry for it. -/
theorem Tracks.update (h : Tracks history before)
    (hrows : after .snapshots = (before .snapshots).map (editedRow metadata now))
    {edit : Row → Row} {new : Row}
    (hentries : after .snapshotSearch = (before .snapshotSearch).map edit ++ [new])
    (hsame : ∀ entry, edit entry "snapshot_id" = entry "snapshot_id")
    (hothers : ∀ entry, entry "snapshot_id" ≠ .text metadata.id → edit entry = entry)
    (hnew : new "snapshot_id" = .text metadata.id)
    (hfound : ∃ row ∈ before .snapshots, row "id" = .text metadata.id) :
    Tracks (history.update metadata) after := by
  have hof : ∀ id, entriesOf after id = (entriesOf before id).map edit
      ++ [new].filter fun entry => entry "snapshot_id" = id := by
    intro id
    rw [entriesOf, hentries, List.filter_append, List.filter_map, entriesOf]
    congr 2
    apply List.filter_congr
    intro entry _
    rw [Function.comp_apply, hsame]
  have hid : ∀ row, editedRow metadata now row "id" = row "id" := fun row => editedRow_id
  constructor
  · intro entry hentry
    rw [hentries] at hentry
    have hbefore : ∃ row ∈ before .snapshots, row "id" = entry "snapshot_id" := by
      rcases List.mem_append.mp hentry with hmem | hmem
      · obtain ⟨old, hold, rfl⟩ := List.mem_map.mp hmem
        rw [hsame]
        exact h.only old hold
      · rw [List.mem_singleton.mp hmem, hnew]
        exact hfound
    obtain ⟨row, hrow, hrowId⟩ := hbefore
    rw [hrows]
    exact ⟨_, List.mem_map_of_mem hrow, (hid row).trans hrowId⟩
  · intro row hrow hupdated
    rw [hrows] at hrow
    obtain ⟨old, hold, rfl⟩ := List.mem_map.mp hrow
    rw [hid] at hupdated
    have hother : old "id" ≠ .text metadata.id := fun heq => hupdated (.inl heq)
    have hkept : editedRow metadata now old = old := if_neg hother
    have hentriesKept : entriesOf after (old "id") = entriesOf before (old "id") := by
      rw [hof, List.filter_cons_of_neg, List.filter_nil, List.append_nil]
      · calc (entriesOf before (old "id")).map edit = (entriesOf before (old "id")).map id := by
              apply List.map_congr_left
              intro entry hentry
              apply hothers
              rw [of_decide_eq_true (List.mem_filter.mp hentry).2]
              exact hother
          _ = entriesOf before (old "id") := List.map_id _
      · rw [hnew]
        exact fun heq => hother (of_decide_eq_true heq).symm
    rw [hkept, Describes, hentriesKept]
    exact h.fresh old hold fun hmem => hupdated (.inr hmem)
  · intro row hrow hupdated
    rw [hrows] at hrow
    obtain ⟨old, hold, rfl⟩ := List.mem_map.mp hrow
    rw [hid] at hupdated ⊢
    rw [hof, List.length_append, List.length_map]
    have hpositive : 1 ≤ (entriesOf before (old "id")).length := by
      by_cases hbefore : old "id" ∈ history.updated
      · have htwo := h.stale old hold hbefore
        omega
      · rw [(h.fresh old hold hbefore).1]
    rcases hupdated with hnow | hbefore
    · have hone : [new].filter (fun entry => decide (entry "snapshot_id" = .text metadata.id))
          = [new] := List.filter_cons_of_pos (decide_eq_true hnew)
      rw [hnow] at hpositive ⊢
      rw [hone, List.length_singleton]
      omega
    · have htwo := h.stale old hold hbefore
      omega

end Update

/-! ### Statements that work -/

section Runs

variable {env : Environment} {c c' : Connection} {α : Type}

/-- An operation that leaves the index alone. -/
def Op.Spares : Op → Prop
  | .lock | .unlock | .exec _ => False
  | .dml statement _ => ∃ table columns, statement = .insert table columns ∧ table ≠ .snapshotSearch
  | _ => True

theorem Op.Plain.spares {op : Op} (h : op.Plain) : op.Spares := by
  cases op with
  | lock | unlock | exec | dml => exact h.elim
  | _ => trivial

theorem Op.Spares.inside {op : Op} (h : op.Spares) : op.Inside := by
  cases op with
  | lock | unlock | exec => exact h.elim
  | dml statement values => exact inside_dml statement values
  | _ => exact Op.Plain.inside trivial

theorem handler_spares {op : Op} (h : op.Spares) {answer : Answer op}
    (hanswer : handler env op c = some (answer, c')) :
    c'.tables .snapshotSearch = c.tables .snapshotSearch := by
  rcases (handler_inside h.inside hanswer).2 with hsame | ⟨statement, values, changed, rfl, hrun⟩
  · rw [hsame]
  · obtain ⟨table, columns, rfl, htable⟩ := h
    rw [runDml_insert hrun]
    exact Function.update_of_ne htable.symm _ _

theorem search_of_spares {program : Repo α} (h : AllOps Op.Spares program) {result : Result α}
    (hrun : program.run.run (handler env) c = some (result, c')) :
    c'.tables .snapshotSearch = c.tables .snapshotSearch := by
  refine Program.All.run_invariant (I := fun now : Connection =>
    now.tables .snapshotSearch = c.tables .snapshotSearch) ?_ h rfl hrun
  intro op now answer next hop hnow hanswer
  exact (handler_spares hop hanswer).trans hnow

theorem spares_plain : ∀ op : Op, op.Plain → op.Spares := fun _ => Op.Plain.spares

theorem spares_insertMonitors (snapshot : Snapshot) : AllOps Op.Spares (insertMonitors snapshot) := by
  apply (allOps_prepare spares_plain _).bind
  intro _
  apply AllOps.forM
  intro monitor _
  exact allOps_execute ⟨.monitors, _, rfl, by decide⟩

theorem spares_insertTabs (id : Bytes) (window : WindowInfo) :
    AllOps Op.Spares (insertTabs id window) := by
  unfold insertTabs
  split
  · exact AllOps.pure _
  · apply (allOps_prepare spares_plain _).bind
    intro _
    apply AllOps.forM
    intro tab _
    apply AllOps.bind (AllOps.ask trivial)
    intro now
    exact allOps_execute ⟨.tabs, _, rfl, by decide⟩

theorem spares_insertWindows (snapshot : Snapshot) : AllOps Op.Spares (insertWindows snapshot) := by
  apply (allOps_prepare spares_plain _).bind
  intro _
  apply AllOps.forM
  intro window _
  apply AllOps.bind (allOps_execute ⟨.windows, _, rfl, by decide⟩)
  intro _
  exact spares_insertTabs _ window

theorem spares_insertCursor (snapshot : Snapshot) : AllOps Op.Spares (insertCursor snapshot) := by
  apply (allOps_prepare spares_plain _).bind
  intro _
  exact allOps_execute ⟨.cursorStates, _, rfl, by decide⟩

variable (hworks : ∀ n, env.fault n = none)

/-- The index takes every entry. -/
theorem insertRow_searchRow (tables : Tables Table) (snapshot : Snapshot) :
    insertRow schema tables .snapshotSearch (searchRow snapshot)
      = .ok (Function.update tables .snapshotSearch
        (tables .snapshotSearch ++ [searchRow snapshot])) := by
  rw [insertRow, searchRow_admitted]
  rfl

include hworks in
theorem indexForSearch_run (c : Connection) (snapshot : Snapshot) :
    ∃ c', (indexForSearch snapshot).run.run (handler env) c = some (.ok (), c')
      ∧ c'.tables = Function.update c.tables .snapshotSearch
        (c.tables .snapshotSearch ++ [searchRow snapshot]) := by
  have hdml : runDml c.tables (searchValues snapshot) insertSearchStatement
      = .ok (Function.update c.tables .snapshotSearch
        (c.tables .snapshotSearch ++ [searchRow snapshot]), 1) := by
    change (insertRow schema c.tables .snapshotSearch (searchRow snapshot)).bind
      (fun inserted => .ok (inserted, 1)) = _
    rw [insertRow_searchRow]
    rfl
  have hstatement : runStatement insertSearchStatement (searchValues snapshot) c.counted.counted
      = .ok ((), { c.counted.counted with
        tables := Function.update c.tables .snapshotSearch
          (c.tables .snapshotSearch ++ [searchRow snapshot])
        changes := 1 }) := by
    have htables : c.counted.counted.tables = c.tables := rfl
    rw [runStatement, htables, hdml]
  refine ⟨_, discard_run (attempt_run ((run_bind_ok (prepare_ok _ (hworks _))).trans
    (execute_ok (hworks _) hstatement))), rfl⟩

include hworks in
/-- What an insert that succeeds writes to the index. -/
theorem insertAll_search {snapshot : Snapshot} {id : Bytes}
    (h : (insertAll snapshot).run.run (handler env) c = some (.ok id, c')) :
    id = snapshot.metadata.id
      ∧ c'.tables .snapshotSearch = c.tables .snapshotSearch ++ [searchRow snapshot] := by
  obtain ⟨_, c₁, hprepare, h₁⟩ := run_bind_inv h
  obtain ⟨_, c₂, hexecute, h₂⟩ := run_bind_inv h₁
  obtain ⟨_, c₃, hmonitors, h₃⟩ := run_bind_inv h₂
  obtain ⟨_, c₄, hwindows, h₄⟩ := run_bind_inv h₃
  obtain ⟨_, c₅, hcursor, h₅⟩ := run_bind_inv h₄
  obtain ⟨_, c₆, hindex, hdone⟩ := run_bind_inv h₅
  cases hdone
  obtain ⟨c₇, hrun, htables⟩ := indexForSearch_run hworks c₅ snapshot
  rw [hrun] at hindex
  cases hindex
  refine ⟨rfl, ?_⟩
  rw [htables, Function.update_self, search_of_spares (spares_insertCursor snapshot) hcursor,
    search_of_spares (spares_insertWindows snapshot) hwindows,
    search_of_spares (spares_insertMonitors snapshot) hmonitors,
    search_of_spares (allOps_execute ⟨.snapshots, _, rfl, by decide⟩) hexecute,
    search_of_spares (allOps_prepare spares_plain _) hprepare]

include hworks in
/-- A transaction whose statements work commits what it wrote, or takes it back. -/
theorem withTransaction_works {body : Repo α} (hauto : c.saved = none)
    (hbody : AllOps Op.Inside body) {result : Result α}
    (h : (withTransaction body).run.run (handler env) c = some (result, c')) :
    c'.saved = none ∧ ((∃ e, result = .error e ∧ c'.tables = c.tables)
      ∨ ∃ value c₁, result = .ok value ∧ body.run.run (handler env) c.begun = some (.ok value, c₁)
        ∧ c'.tables = c₁.tables) := by
  obtain ⟨final, c₁, hrun, -⟩ := returns_of_inside hbody env c.begun
  have hsaved : c₁.saved = some c.tables := saved_of_inside hbody hrun
  cases final with
  | error e =>
      have hdone := (withTransaction_rolledBack hauto (hworks _) hsaved hrun).1 (hworks _)
      rw [hdone] at h
      cases h
      exact ⟨rfl, .inl ⟨e, rfl, rfl⟩⟩
  | ok value =>
      have hdone := (withTransaction_committed hauto (hworks _) hsaved hrun).1 (hworks _)
      rw [hdone] at h
      cases h
      exact ⟨rfl, .inr ⟨value, c₁, rfl, hrun, rfl⟩⟩

/-! ### Loads -/

include hworks in
theorem loadAll_succeeds {id : Bytes} (hrow : ∃ row ∈ c.tables .snapshots, row "id" = .text id) :
    ∃ loaded c', (loadAll id).run.run (handler env) c = some (.ok loaded, c') := by
  have htables : c.counted.tables = c.tables := rfl
  cases hrows : selectSnapshot.rows c.tables [.text id] with
  | nil =>
      obtain ⟨row, hmem, hid⟩ := hrow
      exact absurd hid ((rows_selectSnapshot_eq_nil c.tables id).mp hrows row hmem)
  | cons row rest =>
      have hselect : (loadAll id).run.run (handler env) c
          = (loadRest id row).run.run (handler env) c.counted.counted := by
        rw [loadAll, run_bind_ok (prepare_ok _ (hworks _)), run_bind_ok (rows_run hworks _ _ _),
          htables, hrows]
        rfl
      rw [hselect]
      exact succeeds_loadRest hworks id row c.counted.counted

theorem metadata_id_of_current {tables : Tables Table} {id : Bytes} {metadata : SnapshotMetadata}
    (h : current id tables = some metadata) : metadata.id = id := by
  obtain ⟨row, hrow, rfl⟩ := Option.map_eq_some_iff.mp h
  have hfound := List.find?_some hrow
  have hid : row "id" = .text id := by simpa using hfound
  change (row "id").toText = id
  rw [hid]
  rfl

include hworks in
/-- The end of an update adds an entry. -/
theorem refreshIndex_search {id : Bytes}
    (hrow : ∃ row ∈ c.tables .snapshots, row "id" = .text id) {result : Result Unit}
    (h : (refreshIndex id).run.run (reentrantHandler env) c = some (result, c')) :
    c'.saved = c.saved ∧ ∃ loaded : Snapshot, loaded.metadata.id = id
      ∧ c'.tables .snapshotSearch = c.tables .snapshotSearch ++ [searchRow loaded] := by
  obtain ⟨loaded, c₁, hloadAll⟩ := loadAll_succeeds hworks hrow
  have hload : (load id).run.run (reentrantHandler env) c = some (.ok loaded, c₁) := by
    rw [load, reentrant_withLock, reentrant_keepsMutex (allOps_loadAll plain_keepsMutex id),
      hloadAll]
  have hloaded : loaded.metadata.id = id := metadata_id_of_current (load_metadata hload)
  have hsaved : c₁.saved = c.saved :=
    saved_of_inside (allOps_loadAll (fun _ => Op.Plain.inside) id) hloadAll
  have htables : c₁.tables = c.tables := tables_of_reads (reads_load id) hload
  rcases Program.run_except_bind_cases h with ⟨e, -, hattempt⟩ | ⟨refreshed, c₂, hattempt, hrest⟩
  · obtain ⟨value, herror, -⟩ := Program.run_lift_inv hattempt
    cases herror
  obtain ⟨value, hvalue, hrun⟩ := Program.run_lift_inv hattempt
  cases hvalue
  rw [hload] at hrun
  cases hrun
  have hinside : AllOps Op.Inside (indexForSearch loaded) :=
    allOps_indexForSearch (fun _ => Op.Plain.inside) fun _ _ _ => inside_dml _ _
  have hindex : (indexForSearch loaded).run.run (handler env) c₁ = some (result, c') := by
    rw [← reentrant_keepsMutex (Program.All.mono (fun _ hop => hop.1) hinside)]
    exact hrest
  obtain ⟨c₃, hdone, hentries⟩ := indexForSearch_run hworks c₁ loaded
  refine ⟨(saved_of_inside hinside hindex).trans hsaved, loaded, hloaded, ?_⟩
  rw [hdone] at hindex
  cases hindex
  rw [hentries, Function.update_self, htables]

/-- The statement of an update leaves the entries in their places. -/
theorem runDml_updateSnapshots_search {tables tables' : Tables Table} {metadata : SnapshotMetadata}
    {now : Timestamp} {changed : Nat}
    (h : runDml tables (metadataValues metadata now) updateSnapshots = .ok (tables', changed)) :
    ∃ edit : Row → Row, tables' .snapshotSearch = (tables .snapshotSearch).map edit
      ∧ (∀ entry, edit entry "snapshot_id" = entry "snapshot_id")
      ∧ ∀ entry, entry "snapshot_id" ≠ .text metadata.id → edit entry = entry := by
  have hupdate : ∀ matching : Row → Bool, updateRows schema tables .snapshots metadataColumns
      (metadataValues metadata now) matching = .ok _ := fun matching =>
    if_pos (List.all_eq_true.mpr fun row _ => updatedRow_admitted metadata now row)
  have hfires : True
      ∧ (metadataColumns.contains "name" = true ∨ metadataColumns.contains "tags" = true) :=
    ⟨trivial, .inl (by decide)⟩
  simp only [runDml, updateSnapshots, hupdate, bind, Except.bind] at h
  rw [if_pos hfires] at h
  cases h
  refine foldl_afterUpdate_search _ _ ?_
  intro row hrow
  obtain ⟨old, hold, rfl⟩ := List.mem_map.mp hrow
  have hmatch : old "id" = .text metadata.id := of_decide_eq_true (List.mem_filter.mp hold).2
  exact hmatch

/-! ### Single steps -/

/-- What holds between the operations. -/
structure Coherent (c : Connection) (history : History) : Prop where
  auto : c.saved = none
  ids : ((c.tables .snapshots).map (· "id")).Nodup
  tracks : Tracks history c.tables

variable {history : History}

theorem Tracks.congr {before after : Tables Table} (h : Tracks history before)
    (hsnapshots : after .snapshots = before .snapshots)
    (hsearch : after .snapshotSearch = before .snapshotSearch) : Tracks history after := by
  have hentries : ∀ id, entriesOf after id = entriesOf before id := fun id => by
    rw [entriesOf, hsearch, entriesOf]
  constructor
  · rw [hsnapshots, hsearch]
    exact h.only
  · intro row hrow hupdated
    rw [Describes, hentries]
    exact h.fresh row (hsnapshots ▸ hrow) hupdated
  · intro row hrow hupdated
    rw [hentries]
    exact h.stale row (hsnapshots ▸ hrow) hupdated

theorem Coherent.same (h : Coherent c history) (hauto : c'.saved = none)
    (hsnapshots : c'.tables .snapshots = c.tables .snapshots)
    (hsearch : c'.tables .snapshotSearch = c.tables .snapshotSearch) : Coherent c' history :=
  ⟨hauto, hsnapshots ▸ h.ids, h.tracks.congr hsnapshots hsearch⟩

theorem Coherent.delete (h : Coherent c history) (hauto : c'.saved = none)
    (hsub : (c'.tables .snapshots).Sublist (c.tables .snapshots))
    (hcascades : Cascades c.tables c'.tables) : Coherent c' history :=
  ⟨hauto, h.ids.sublist (hsub.map _), h.tracks.cascades hsub hcascades⟩

/-- An update of a snapshot that is not stored. -/
theorem Coherent.missed (h : Coherent c history) {metadata : SnapshotMetadata}
    (hmissed : ∀ row ∈ c.tables .snapshots, row "id" ≠ .text metadata.id) :
    Coherent c (history.update metadata) := by
  refine ⟨h.auto, h.ids, h.tracks.only, ?_, ?_⟩
  · intro row hrow hupdated
    exact h.tracks.fresh row hrow fun hmem => hupdated (.inr hmem)
  · intro row hrow hupdated
    exact h.tracks.stale row hrow (hupdated.resolve_left (hmissed row hrow))

theorem assignId_reentrant (c : Connection) (original : Snapshot) :
    (assignId original).run.run (reentrantHandler env) c
      = some (.ok (assigned env c original).1, (assigned env c original).2) := by
  have hkeeps : AllOps Op.KeepsMutex (assignId original) := by
    unfold assignId
    split
    · exact AllOps.ask (Op.Plain.keepsMutex trivial)
    · exact AllOps.pure _
  rw [reentrant_keepsMutex hkeeps, assignId_run]

theorem keepsMutex_withTransaction {body : Repo α} (hbody : AllOps Op.Inside body) :
    AllOps Op.KeepsMutex (withTransaction body) :=
  allOps_withTransaction keepsMutex_exec (Program.All.mono (fun _ hop => hop.1) hbody)

include hworks in
theorem Coherent.insert (h : Coherent c history) {original : Snapshot} {result : Result Bytes}
    (hrun : (Storage.insert original).run.run (reentrantHandler env) c = some (result, c')) :
    Coherent c' (history.insert original result) := by
  rcases Program.run_except_bind_cases hrun with ⟨e, -, hassign⟩ | ⟨id, c₀, hassign, hrest⟩
  · rw [assignId_reentrant] at hassign
    cases hassign
  rw [assignId_reentrant] at hassign
  have hassigned : c₀.tables = c.tables ∧ c₀.saved = none := by
    cases hassign
    unfold assigned
    split <;> exact ⟨rfl, h.auto⟩
  obtain ⟨htables, hauto⟩ := hassigned
  by_cases hvalid : isValidUlid id = true
  · rw [if_pos hvalid, reentrant_withLock,
      reentrant_keepsMutex (keepsMutex_withTransaction (insertAll_inside _))] at hrest
    obtain ⟨hauto', ⟨e, rfl, hsame⟩ | ⟨id', c₁, rfl, hbody, hsame⟩⟩ :=
      withTransaction_works hworks hauto (insertAll_inside _) hrest
    · rw [htables] at hsame
      exact h.same hauto' (by rw [hsame]) (by rw [hsame])
    · obtain ⟨hrows, hunused, -⟩ := insertAll_inv hbody
      obtain ⟨hid, hentries⟩ := insertAll_search hworks hbody
      change c₁.tables .snapshots = c₀.tables .snapshots ++ _ at hrows
      change ∀ row ∈ c₀.tables .snapshots, _ at hunused
      change c₁.tables .snapshotSearch = c₀.tables .snapshotSearch ++ _ at hentries
      change id' = id at hid
      subst hid
      rw [htables] at hrows hunused hentries
      refine ⟨hauto', ?_, hsame ▸ h.tracks.insert hunused hrows hentries⟩
      rw [hsame, hrows, List.map_append, List.nodup_append]
      refine ⟨h.ids, by simp, ?_⟩
      intro value hvalue other hother heq
      obtain ⟨row, hrow, hrowId⟩ := List.mem_map.mp hvalue
      rw [List.map_singleton, List.mem_singleton] at hother
      exact hunused row hrow (hrowId.trans (heq.trans hother))
  · rw [if_neg hvalid] at hrest
    cases hrest
    exact h.same hauto (by rw [htables]) (by rw [htables])

include hworks in
theorem prepare_reentrant {tables : List Table} {result : Result Unit}
    (h : (prepare tables).run.run (reentrantHandler env) c = some (result, c')) :
    result = .ok () ∧ c' = c.counted := by
  obtain ⟨rfl, ⟨-, hfault⟩ | ⟨rfl, -⟩⟩ := prepare_cases h
  · exact absurd (hworks _) hfault
  · exact ⟨rfl, rfl⟩

include hworks in
theorem Coherent.remove (h : Coherent c history) {id : Bytes} {result : Result Unit}
    (hrun : (Storage.remove id).run.run (reentrantHandler env) c = some (result, c')) :
    Coherent c' history := by
  rw [Storage.remove, reentrant_withLock] at hrun
  set after : Connection := { c.counted.counted with
    tables := afterStatement deleteSnapshot [.text id] c.tables
    changes := ((c.tables .snapshots).filter (whereEqual "id" c.tables [.text id])).length }
    with hafter
  have hstatement : runStatement deleteSnapshot [.text id] c.counted.counted = .ok ((), after) := rfl
  rcases Program.run_except_bind_cases hrun with ⟨e, -, hprepare⟩ | ⟨_, c₁, hprepare, hrest⟩
  · cases (prepare_reentrant hworks hprepare).1
  obtain ⟨-, rfl⟩ := prepare_reentrant hworks hprepare
  rcases Program.run_except_bind_cases hrest with ⟨e, -, hexecute⟩ | ⟨_, c₂, hexecute, hrest⟩
  · rw [reentrant_keepsMutex (keepsMutex_execute _ _), execute_ok (hworks _) hstatement] at hexecute
    cases hexecute
  rw [reentrant_keepsMutex (keepsMutex_execute _ _), execute_ok (hworks _) hstatement] at hexecute
  cases hexecute
  have hdone : c' = after := by
    rcases Program.run_except_bind_cases hrest with ⟨e, -, hchanges⟩ | ⟨_, c₃, hchanges, hrest⟩
    · cases hchanges
    · cases hchanges
      split at hrest <;> exact (Prod.mk.inj (Option.some.inj hrest)).2.symm
  rw [hdone]
  refine h.delete h.auto ?_ (cascades_delete _ _ _ h.ids)
  change (afterStatement deleteSnapshot [.text id] c.tables .snapshots).Sublist _
  rw [deleteSnapshot, afterStatement_delete_snapshots]
  exact List.filter_sublist

include hworks in
theorem Coherent.prune (h : Coherent c history) {query : PruneQuery} {result : Result UInt32}
    (hrun : (Storage.prune query).run.run (reentrantHandler env) c = some (result, c')) :
    Coherent c' history := by
  have hscope : Storage.prune query = withLock (withTransaction (pruneAll query)) := rfl
  rw [hscope, reentrant_withLock,
    reentrant_keepsMutex (keepsMutex_withTransaction (pruneAll_inside query))] at hrun
  obtain ⟨hauto, ⟨e, -, hsame⟩ | ⟨count, c₁, -, hbody, hsame⟩⟩ :=
    withTransaction_works hworks h.auto (pruneAll_inside query) hrun
  · exact h.same hauto (by rw [hsame]) (by rw [hsame])
  · obtain ⟨htables, -⟩ := pruneAll_inv hbody
    rw [htables] at hsame
    apply h.delete hauto
    · rw [hsame]
      exact pruned_sublist
    · rw [hsame]
      exact cascades_pruned h.ids

include hworks in
theorem Coherent.updateMetadata (h : Coherent c history) {metadata : SnapshotMetadata}
    {result : Result Unit}
    (hrun : (Storage.updateMetadata metadata).run.run (reentrantHandler env) c
      = some (result, c')) : Coherent c' (history.update metadata) := by
  rw [Storage.updateMetadata, reentrant_withLock] at hrun
  rcases Program.run_except_bind_cases hrun with ⟨e, -, hprepare⟩ | ⟨_, c₁, hprepare, hrest⟩
  · cases (prepare_reentrant hworks hprepare).1
  obtain ⟨-, rfl⟩ := prepare_reentrant hworks hprepare
  rcases Program.run_except_bind_cases hrest with ⟨e, -, hnow⟩ | ⟨now, c₂, hnow, hrest⟩
  · cases hnow
  cases hnow
  set before : Connection := { c.counted with readings := c.counted.readings + 1 } with hbefore
  obtain ⟨tables, hdml⟩ := runDml_updateSnapshots c.tables metadata (env.clock c.counted.readings)
  obtain ⟨hrows, -⟩ := runDml_updateSnapshots_eq hdml
  obtain ⟨edit, hentries, hsame, hothers⟩ := runDml_updateSnapshots_search hdml
  set changed := ((c.tables .snapshots).filter fun row => row "id" = .text metadata.id).length
    with hchanged
  set middle : Connection := { before.counted with tables, changes := changed } with hmiddle
  have hstatement : runStatement updateSnapshots (metadataValues metadata (env.clock c.counted.readings))
      before.counted = .ok ((), middle) := by
    have htables : before.counted.tables = c.tables := rfl
    rw [runStatement, htables, hdml]
  rcases Program.run_except_bind_cases hrest with ⟨e, -, hexecute⟩ | ⟨_, c₂, hexecute, hrest⟩
  · rw [reentrant_keepsMutex (keepsMutex_execute _ _), execute_ok (hworks _) hstatement] at hexecute
    cases hexecute
  rw [reentrant_keepsMutex (keepsMutex_execute _ _), execute_ok (hworks _) hstatement] at hexecute
  obtain rfl : c₂ = middle := (Prod.mk.inj (Option.some.inj hexecute)).2.symm
  rcases Program.run_except_bind_cases hrest with ⟨e, -, hchanges⟩ | ⟨changes, c₃, hchanges, hrest⟩
  · cases hchanges
  cases hchanges
  split at hrest
  · rename_i hnone
    obtain ⟨-, hend⟩ := Prod.mk.inj (Option.some.inj hrest)
    rw [← hend]
    have hmissed : ∀ row ∈ c.tables .snapshots, row "id" ≠ .text metadata.id := by
      intro row hrow hid
      rw [List.length_eq_zero_iff, List.filter_eq_nil_iff] at hnone
      exact hnone row hrow (decide_eq_true hid)
    refine (h.missed hmissed).same h.auto (hrows.trans (editedRow_unmatched hnone)) ?_
    calc tables .snapshotSearch = (c.tables .snapshotSearch).map edit := hentries
      _ = (c.tables .snapshotSearch).map id := by
          apply List.map_congr_left
          intro entry hentry
          obtain ⟨row, hrow, hid⟩ := h.tracks.only entry hentry
          apply hothers
          rw [← hid]
          exact hmissed row hrow
      _ = c.tables .snapshotSearch := List.map_id _
  · rename_i hsome
    obtain ⟨row, hrow⟩ := List.exists_mem_of_length_pos (Nat.pos_of_ne_zero hsome)
    obtain ⟨hmem, hid⟩ := List.mem_filter.mp hrow
    have hfound : ∃ row ∈ c.tables .snapshots, row "id" = .text metadata.id :=
      ⟨row, hmem, of_decide_eq_true hid⟩
    have hstill : ∃ row ∈ middle.tables .snapshots, row "id" = .text metadata.id := by
      refine ⟨editedRow metadata (env.clock c.counted.readings) row, ?_, editedRow_id.trans ?_⟩
      · change _ ∈ tables .snapshots
        rw [hrows]
        exact List.mem_map_of_mem hmem
      · exact of_decide_eq_true hid
    have hkept : c'.tables .snapshots = tables .snapshots :=
      snapshots_of_refreshes (refreshes_refreshIndex _) hrest
    obtain ⟨hauto, loaded, hloaded, hadded⟩ := refreshIndex_search hworks hstill hrest
    change c'.tables .snapshotSearch = tables .snapshotSearch ++ _ at hadded
    rw [hentries] at hadded
    refine ⟨hauto.trans h.auto, ?_, ?_⟩
    · have hmap : (tables .snapshots).map (· "id") = (c.tables .snapshots).map (· "id") := by
        rw [hrows, List.map_map]
        exact List.map_congr_left fun _ _ => editedRow_id
      rw [hkept, hmap]
      exact h.ids
    · refine h.tracks.update (hkept.trans hrows) hadded hsame hothers ?_ hfound
      rw [searchRow_snapshotId, hloaded]

/-! ### Histories -/

include hworks in
theorem Reached.coherent (h : Reached env c history) : Coherent c history := by
  induction h with
  | start htables hsaved =>
      refine ⟨hsaved, ?_, ?_, ?_, ?_⟩
      · rw [htables]
        exact List.nodup_nil
      all_goals
        intro row hrow
        rw [htables] at hrow
        cases hrow
  | insert _ hrun ih => exact ih.insert hworks hrun
  | updateMetadata _ hrun ih => exact ih.updateMetadata hworks hrun
  | remove _ hrun ih => exact ih.remove hworks hrun
  | prune _ hrun ih => exact ih.prune hworks hrun

end Runs

/-- The index is right as long as no snapshot that is stored was updated. -/
theorem searchIndex_iff {env : Environment} (hworks : ∀ n, env.fault n = none) {c : Connection}
    {history : History} (h : Reached env c history) :
    Indexed history.inserted c.tables ↔ ∀ row ∈ c.tables .snapshots, row "id" ∉ history.updated :=
  (h.coherent hworks).tracks.indexed_iff

/-- A snapshot that is inserted and then renamed. -/
theorem reached_deskSnapshot :
    ∃ inserted renamed : Connection,
      Reached {} inserted (History.insert {} deskSnapshot (.ok deskSnapshot.metadata.id))
      ∧ Reached {} renamed ((History.insert {} deskSnapshot (.ok deskSnapshot.metadata.id)).update
        deskSnapshot.metadata)
      ∧ ∃ row ∈ renamed.tables .snapshots, row "id" = .text deskSnapshot.metadata.id := by
  have hruns : (((Storage.insert deskSnapshot).run.run (reentrantHandler {}) emptyConnection).any
      fun result => result.1.toOption == some deskSnapshot.metadata.id
        && ((Storage.updateMetadata deskSnapshot.metadata).run.run (reentrantHandler {}) result.2).any
          fun result => result.1.toOption == some ()
            && (result.2.tables .snapshots).any fun row =>
              row "id" = .text deskSnapshot.metadata.id) = true := by
    decide +kernel
  obtain ⟨⟨result, inserted⟩, hrun, hresult⟩ := (Option.any_eq_true _ _).mp hruns
  simp only [Bool.and_eq_true, Option.any_eq_true, beq_iff_eq, List.any_eq_true,
    decide_eq_true_eq] at hresult
  obtain ⟨hid, ⟨final, renamed⟩, hrename, hfinal, hrow⟩ := hresult
  cases result with
  | error e => cases hid
  | ok id =>
      cases hid
      cases final with
      | error e => cases hfinal
      | ok _ =>
          have hinserted := Reached.insert (Reached.start rfl rfl) hrun
          exact ⟨inserted, renamed, hinserted, hinserted.updateMetadata hrename, hrow⟩

/-- The index right after the first insert. -/
theorem searchIndex_iff_deskSnapshot :
    ∃ c, Reached {} c (History.insert {} deskSnapshot (.ok deskSnapshot.metadata.id))
      ∧ (Indexed (History.insert {} deskSnapshot (.ok deskSnapshot.metadata.id)).inserted c.tables
        ↔ ∀ row ∈ c.tables .snapshots, row "id"
          ∉ (History.insert {} deskSnapshot (.ok deskSnapshot.metadata.id)).updated) := by
  obtain ⟨c, -, hreached, -⟩ := reached_deskSnapshot
  exact ⟨c, hreached, searchIndex_iff (fun _ => rfl) hreached⟩

/-- The renaming leaves two entries. -/
theorem not_searchIndex :
    ¬ ∀ (env : Environment), (∀ n, env.fault n = none) → ∀ (c : Connection) (history : History),
      Reached env c history → Indexed history.inserted c.tables := by
  intro h
  obtain ⟨-, c, -, hreached, row, hrow, hid⟩ := reached_deskSnapshot
  have hindexed := h {} (fun _ => rfl) c _ hreached
  have htracks := (hreached.coherent fun _ => rfl).tracks
  exact htracks.indexed_iff.mp hindexed row hrow (.inl hid)

end ContextSnap.Storage
