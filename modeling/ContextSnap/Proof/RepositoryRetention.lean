import ContextSnap.Lib.StableSort
import ContextSnap.Proof.RepositoryAtomic

/-!
# Retention

What an insert that succeeds adds to the snapshots and how often it reads the clock, which snapshots
a prune leaves, and when a snapshot can be loaded, all where SQLite itself does not fail.
-/

namespace ContextSnap.Storage

open Sql

/-! ### What succeeded -/

section Inversion

variable {env : Environment} {α β : Type} {c c' : Connection}

theorem attempt_inv {program : Repo α} {result : Result α}
    (h : (attempt program).run.run (handler env) c = some (.ok result, c')) :
    program.run.run (handler env) c = some (result, c') := by
  cases hrun : program.run.run (handler env) c with
  | none =>
      rw [attempt_none hrun] at h
      cases h
  | some outcome =>
      rw [attempt_run hrun] at h
      cases h
      rfl

theorem exec_inv {script : Script} {value : Unit}
    (h : (exec script).run.run (handler env) c = some (.ok value, c')) :
    runScript script c.counted = .ok ((), c') := by
  cases hfault : env.fault c.calls with
  | some failure =>
      rw [exec_fault script hfault] at h
      cases h
  | none =>
      cases hscript : runScript script c.counted with
      | ok result =>
          obtain ⟨⟨⟩, c₁⟩ := result
          rw [exec_ok hfault hscript] at h
          cases h
          rfl
      | error failure =>
          have hanswer : handler env (.exec script) c = some (.error failure, c.counted) := by
            simp [handler, call, hfault, hscript]
          have hrun : (exec script).run.run (handler env) c
              = some (.error (sqliteError "exec failed" "storage.execute" failure), c.counted) :=
            run_bind_ok (ask_run hanswer)
          rw [hrun] at h
          cases h

theorem commit_inv {active : Bool} {value : Unit}
    (h : (commit active).run.run (handler env) c = some (.ok value, c')) :
    active = true ∧ c' = { c.counted with saved := none } := by
  cases active with
  | false => cases h
  | true =>
      have hscript := exec_inv h
      cases hsaved : c.saved with
      | none => simp [runScript, Connection.counted, hsaved] at hscript
      | some tables =>
          simp only [runScript, Connection.counted, hsaved] at hscript
          cases hscript
          exact ⟨rfl, rfl⟩

/-- A transaction that succeeds began outside any other, and its statements succeeded. -/
theorem withTransaction_inv {body : Repo α} {value : α}
    (h : (withTransaction body).run.run (handler env) c = some (.ok value, c')) :
    c.saved = none ∧ ∃ c₁, body.run.run (handler env) c.begun = some (.ok value, c₁)
      ∧ c' = { c₁.counted with saved := none } := by
  rw [withTransaction] at h
  obtain ⟨begun, c₀, hbegin, hrest⟩ := run_bind_inv h
  obtain ⟨result, c₁, hbody, hend⟩ := run_bind_inv hrest
  cases result with
  | error e =>
      obtain ⟨_, _, -, hthrow⟩ := run_bind_inv hend
      cases hthrow
  | ok found =>
      obtain ⟨_, c₂, hcommit, hreturn⟩ := run_bind_inv hend
      cases hreturn
      obtain ⟨hactive, hdone⟩ := commit_inv hcommit
      cases begun with
      | error e => cases hactive
      | ok _ =>
          have hscript := exec_inv (attempt_inv hbegin)
          cases hsaved : c.saved with
          | some tables => simp [runScript, Connection.counted, hsaved] at hscript
          | none =>
              have hbegun : c₀ = c.begun := by
                simp only [runScript, Connection.counted, hsaved] at hscript
                cases hscript
                rfl
              rw [hbegun] at hbody
              exact ⟨rfl, c₁, attempt_inv hbody, hdone⟩

theorem withLock_inv {body : Repo α} {result : Result α}
    (h : (withLock body).run.run (handler env) c = some (result, c')) :
    c.locked = false ∧ ∃ c₁, body.run.run (handler env) { c with locked := true } = some (result, c₁)
      ∧ c' = { c₁ with locked := false } := by
  cases hlocked : c.locked with
  | true =>
      rw [withLock_blocks hlocked] at h
      cases h
  | false =>
      rw [withLock_run hlocked] at h
      obtain ⟨⟨result₁, c₁⟩, hbody, hdone⟩ := Option.bind_eq_some_iff.mp h
      cases hdone
      exact ⟨rfl, c₁, hbody, rfl⟩

end Inversion

/-! ### What an insert adds -/

/-- Where the program succeeds it leaves the snapshots alone and reads the clock `count` times. -/
def Leaves {α : Type} (env : Environment) (program : Repo α) (count : Nat) : Prop :=
  ∀ c value c', program.run.run (handler env) c = some (.ok value, c') →
    c'.tables .snapshots = c.tables .snapshots ∧ c'.readings = c.readings + count

section Leaves

variable {env : Environment} {α β : Type}

theorem Leaves.pure (value : α) : Leaves env (Pure.pure value) 0 := by
  intro c value c' h
  cases h
  exact ⟨rfl, rfl⟩

theorem Leaves.bind {program : Repo α} {next : α → Repo β} {first second : Nat}
    (h : Leaves env program first) (hnext : ∀ value, Leaves env (next value) second) :
    Leaves env (program >>= next) (first + second) := by
  intro c value c' hrun
  obtain ⟨middle, c₁, hprogram, hrest⟩ := run_bind_inv hrun
  obtain ⟨htables, hreadings⟩ := h c middle c₁ hprogram
  obtain ⟨htables', hreadings'⟩ := hnext middle c₁ value c' hrest
  exact ⟨htables'.trans htables, by omega⟩

theorem Leaves.then {program : Repo α} {next : α → Repo β} {count : Nat}
    (h : Leaves env program 0) (hnext : ∀ value, Leaves env (next value) count) :
    Leaves env (program >>= next) count := by
  have hbind := h.bind hnext
  rw [zero_add] at hbind
  exact hbind

theorem Leaves.forM {values : List β} {body : β → Repo Unit} {count : β → Nat}
    (h : ∀ value ∈ values, Leaves env (body value) (count value)) :
    Leaves env (values.forM body) (values.map count).sum := by
  induction values with
  | nil => exact Leaves.pure ()
  | cons value values ih =>
      rw [List.map_cons, List.sum_cons]
      apply Leaves.bind (h value (by simp))
      intro _
      exact ih fun other hother => h other (by simp [hother])

theorem leaves_prepare (tables : List Table) : Leaves env (prepare tables) 0 := by
  intro c value c' hrun
  cases hfault : env.fault c.calls with
  | some failure =>
      rw [prepare_fault tables hfault] at hrun
      cases hrun
  | none =>
      rw [prepare_ok tables hfault] at hrun
      cases hrun
      exact ⟨rfl, rfl⟩

theorem leaves_now : Leaves env (ask .now) 1 := by
  intro c value c' hrun
  cases hrun
  exact ⟨rfl, rfl⟩

/-- The statement inserts into a table other than the one of the snapshots. -/
def InsertsElsewhere (statement : Dml Table) : Prop :=
  ∃ table columns, statement = .insert table columns ∧ table ≠ .snapshots

theorem InsertsElsewhere.keeps {statement : Dml Table} (h : InsertsElsewhere statement)
    {values : List SqlValue} {before after : Tables Table} {changed : Nat}
    (hrun : runDml before values statement = .ok (after, changed)) :
    after .snapshots = before .snapshots := by
  obtain ⟨table, columns, rfl, htable⟩ := h
  rw [runDml_insert hrun]
  exact Function.update_of_ne htable.symm _ _

theorem insertsElsewhere_monitors : InsertsElsewhere insertMonitorsStatement :=
  ⟨.monitors, _, rfl, by decide⟩

theorem insertsElsewhere_windows : InsertsElsewhere insertWindowsStatement :=
  ⟨.windows, _, rfl, by decide⟩

theorem insertsElsewhere_tabs : InsertsElsewhere insertTabsStatement := ⟨.tabs, _, rfl, by decide⟩

theorem insertsElsewhere_cursor : InsertsElsewhere insertCursorStatement :=
  ⟨.cursorStates, _, rfl, by decide⟩

theorem insertsElsewhere_search : InsertsElsewhere insertSearchStatement :=
  ⟨.snapshotSearch, _, rfl, by decide⟩

theorem leaves_execute {statement : Dml Table} (h : InsertsElsewhere statement)
    (values : List SqlValue) : Leaves env (execute statement values) 0 := by
  intro c value c' hrun
  rcases execute_cases env c statement values with
    ⟨failure, hfail⟩ | ⟨tables, changed, hinsert, hdone⟩
  · rw [hfail] at hrun
    cases hrun
  · rw [hdone] at hrun
    cases hrun
    exact ⟨h.keeps hinsert, rfl⟩

/-- What the search index is written with. -/
def Op.Indexes : Op → Prop
  | .prepare _ => True
  | .dml statement _ => statement = insertSearchStatement
  | _ => False

theorem handler_indexes {op : Op} (h : op.Indexes) {c c' : Connection} {answer : Answer op}
    (hanswer : handler env op c = some (answer, c')) :
    c'.tables .snapshots = c.tables .snapshots ∧ c'.readings = c.readings := by
  cases op with
  | prepare tables =>
      have hcall := Option.some.inj hanswer
      rcases call_cases env c fun c => (.ok ((), c) : Except Failure (Unit × Connection)) with
        ⟨failure, hfail⟩ | ⟨value, c₁, hwork, hdone⟩
      · rw [hfail] at hcall
        cases hcall
        exact ⟨rfl, rfl⟩
      · rw [hdone] at hcall
        cases hwork
        cases hcall
        exact ⟨rfl, rfl⟩
  | dml statement values =>
      subst h
      have hcall := Option.some.inj hanswer
      rcases call_cases env c (runStatement insertSearchStatement values) with
        ⟨failure, hfail⟩ | ⟨value, c₁, hwork, hdone⟩
      · rw [hfail] at hcall
        cases hcall
        exact ⟨rfl, rfl⟩
      · rw [hdone] at hcall
        cases hcall
        unfold runStatement at hwork
        split at hwork
        · rename_i tables changed hrun
          cases hwork
          exact ⟨insertsElsewhere_search.keeps hrun, rfl⟩
        · cases hwork
  | _ => exact h.elim

theorem leaves_indexForSearch (snapshot : Snapshot) : Leaves env (indexForSearch snapshot) 0 := by
  have hops : AllOps Op.Indexes (indexForSearch snapshot) := by
    apply AllOps.discard
    apply AllOps.attempt
    apply AllOps.bind
    · exact (AllOps.ask trivial).bind fun _ => AllOps.orFail _ _ _
    · intro _
      exact allOps_execute rfl
  intro c value c' hrun
  refine Program.All.run_invariant (I := fun now : Connection =>
    now.tables .snapshots = c.tables .snapshots ∧ now.readings = c.readings) ?_ hops ⟨rfl, rfl⟩ hrun
  intro op now answer next hop hnow hanswer
  obtain ⟨htables, hreadings⟩ := handler_indexes hop hanswer
  exact ⟨htables.trans hnow.1, hreadings.trans hnow.2⟩

section Insert

variable {snapshot : Snapshot}

theorem leaves_insertTabs (id : Bytes) (window : WindowInfo) :
    Leaves env (insertTabs id window) window.tabs.length := by
  unfold insertTabs
  by_cases hempty : window.tabs.isEmpty
  · rw [if_pos hempty, List.isEmpty_iff.mp hempty]
    exact Leaves.pure ()
  · rw [if_neg hempty]
    apply (leaves_prepare _).then
    intro _
    have htabs : Leaves env (window.tabs.forM fun tab => do
        let now ← ask .now
        execute insertTabsStatement (tabValues id window.id now tab))
        (window.tabs.map fun _ => 1).sum := by
      apply Leaves.forM
      intro tab _
      exact leaves_now.bind fun now => leaves_execute insertsElsewhere_tabs _
    rw [List.map_const', List.sum_replicate, smul_eq_mul, mul_one] at htabs
    exact htabs

theorem leaves_insertWindows : Leaves env (insertWindows snapshot) snapshot.tabCount := by
  apply (leaves_prepare _).then
  intro _
  apply Leaves.forM
  intro window _
  apply (leaves_execute insertsElsewhere_windows _).then
  intro _
  exact leaves_insertTabs snapshot.metadata.id window

theorem leaves_insertMonitors : Leaves env (insertMonitors snapshot) 0 := by
  apply (leaves_prepare _).then
  intro _
  have hmonitors : Leaves env (snapshot.monitors.forM fun monitor =>
      execute insertMonitorsStatement (monitorValues snapshot.metadata.id monitor))
      (snapshot.monitors.map fun _ => 0).sum :=
    Leaves.forM fun _ _ => leaves_execute insertsElsewhere_monitors _
  rw [List.map_const', List.sum_replicate, smul_zero] at hmonitors
  exact hmonitors

theorem leaves_insertCursor : Leaves env (insertCursor snapshot) 0 :=
  (leaves_prepare _).then fun _ => leaves_execute insertsElsewhere_cursor _

theorem snapshotRow_id : snapshotRow snapshot "id" = .text snapshot.metadata.id := rfl

theorem snapshotRow_favorite :
    snapshotRow snapshot "favorite" = .ofBool snapshot.metadata.favorite := rfl

theorem runDml_insertSnapshots_fresh {before after : Tables Table} {changed : Nat}
    (h : runDml before (snapshotValues snapshot) insertSnapshots = .ok (after, changed)) :
    ∀ row ∈ before .snapshots, row "id" ≠ .text snapshot.metadata.id := by
  have hfresh : isTaken schema before .snapshots (snapshotRow snapshot) = false := by
    change (insertRow schema before .snapshots (snapshotRow snapshot)).bind
      (fun inserted => .ok (inserted, 1)) = _ at h
    cases htaken : isTaken schema before .snapshots (snapshotRow snapshot) with
    | false => rfl
    | true =>
        rw [insertRow, snapshotRow_admitted, htaken] at h
        cases h
  intro row hrow hid
  have htaken : isTaken schema before .snapshots (snapshotRow snapshot) = true := by
    rw [isTaken, Bool.and_eq_true]
    refine ⟨by decide, List.any_eq_true.mpr ⟨row, hrow, ?_⟩⟩
    change ([row "id"] == [snapshotRow snapshot "id"]) = true
    rw [hid, snapshotRow_id]
    exact beq_self_eq_true _
  rw [hfresh] at htaken
  cases htaken

/-- The row of the snapshot comes last among the snapshots, and no other one has its id. -/
theorem insertAll_inv {c c' : Connection} {id : Bytes}
    (h : (insertAll snapshot).run.run (handler env) c = some (.ok id, c')) :
    c'.tables .snapshots = c.tables .snapshots ++ [snapshotRow snapshot]
      ∧ (∀ row ∈ c.tables .snapshots, row "id" ≠ .text snapshot.metadata.id)
      ∧ c'.readings = c.readings + snapshot.tabCount := by
  rw [insertAll] at h
  obtain ⟨_, c₁, hprepare, h⟩ := run_bind_inv h
  obtain ⟨_, c₂, hexecute, h⟩ := run_bind_inv h
  obtain ⟨hsame, hreadings⟩ := leaves_prepare _ c _ c₁ hprepare
  have hrest : Leaves env (do
      insertMonitors snapshot
      insertWindows snapshot
      insertCursor snapshot
      indexForSearch snapshot
      return snapshot.metadata.id) snapshot.tabCount := by
    apply leaves_insertMonitors.then
    intro _
    have htail : Leaves env (do
        insertCursor snapshot
        indexForSearch snapshot
        return snapshot.metadata.id) 0 :=
      leaves_insertCursor.then fun _ => (leaves_indexForSearch snapshot).then fun _ => Leaves.pure _
    exact leaves_insertWindows.bind fun _ => htail
  obtain ⟨hkept, hcount⟩ := hrest c₂ _ c' h
  rcases execute_cases env c₁ insertSnapshots (snapshotValues snapshot) with
    ⟨failure, hfail⟩ | ⟨tables, changed, hinsert, hdone⟩
  · rw [hfail] at hexecute
    cases hexecute
  · rw [hdone] at hexecute
    cases hexecute
    refine ⟨?_, ?_, ?_⟩
    · have hrow : tables = Function.update c₁.tables .snapshots
          (c₁.tables .snapshots ++ [snapshotRow snapshot]) := runDml_insert hinsert
      rw [hkept]
      change tables .snapshots = _
      rw [hrow, Function.update_self, hsame]
    · rw [← hsame]
      exact runDml_insertSnapshots_fresh hinsert
    · rw [hcount]
      change c₁.readings + _ = _
      rw [hreadings, add_zero]

end Insert

end Leaves

/-- What an insert that succeeds needed and did. -/
theorem insert_inv {env : Environment} {original : Snapshot} {id : Bytes} {c c' : Connection}
    (hid : original.metadata.id ≠ [])
    (h : (insert original).run.run (handler env) c = some (.ok id, c')) :
    c'.locked = false ∧ c'.saved = none
      ∧ c'.tables .snapshots = c.tables .snapshots ++ [snapshotRow original]
      ∧ (∀ row ∈ c.tables .snapshots, row "id" ≠ .text original.metadata.id)
      ∧ c'.readings = c.readings + original.tabCount := by
  have hassigned : assigned env c original = (original.metadata.id, c) := if_neg hid
  rw [insert, run_bind_ok (assignId_run c original), hassigned] at h
  have hsame : withId original original.metadata.id = original := rfl
  rw [hsame] at h
  by_cases hvalid : isValidUlid original.metadata.id = true
  · rw [if_pos hvalid] at h
    obtain ⟨-, c₁, htransaction, hunlocked⟩ := withLock_inv h
    obtain ⟨-, c₂, hbody, hcommitted⟩ := withTransaction_inv htransaction
    obtain ⟨hrows, hfresh, hreadings⟩ := insertAll_inv hbody
    rw [hunlocked, hcommitted]
    exact ⟨rfl, rfl, hrows, hfresh, hreadings⟩
  · rw [if_neg hvalid] at h
    cases h

/-! ### What a prune leaves -/

section Prune

variable {env : Environment} (hworks : ∀ n, env.fault n = none)

include hworks

theorem prune_run {c : Connection} (hfree : c.locked = false) (hauto : c.saved = none)
    (query : PruneQuery) :
    ∃ count c', (prune query).run.run (handler env) c = some (.ok count, c')
      ∧ c'.tables = trimmed query (expired query (env.clock c.readings) c.tables)
      ∧ c'.locked = false := by
  set held : Connection := { c with locked := true } with hheld
  have hnever : ∀ n, ¬ Fails env n := by
    intro n hfails
    exact hfails.elim (fun h => h (hworks n)) fun h => h (hworks (n + 1))
  rcases pruneAll_cases env held.begun query with
    ⟨hfails, -⟩ | ⟨-, hfails, -⟩ | ⟨-, -, count, c₁, hrun, htables⟩
  · exact absurd hfails.2 (hnever _)
  · exact absurd hfails.2 (hnever _)
  · have hsaved : c₁.saved = some held.tables := saved_of_inside (pruneAll_inside query) hrun
    have hdone := (withTransaction_committed (c := held) hauto (hworks _) hsaved hrun).1
      (hworks _)
    refine ⟨count, { c₁.counted with saved := none, locked := false }, ?_, htables, rfl⟩
    rw [prune, withLock_run hfree]
    change ((withTransaction (pruneAll query)).run.run (handler env) held).bind _ = _
    rw [hdone]
    rfl

end Prune

/-- A DELETE keeps the snapshots that its condition does not name. -/
theorem afterStatement_delete_snapshots (condition : Condition Table) (values : List SqlValue)
    (tables : Tables Table) :
    afterStatement (.delete .snapshots condition) values tables .snapshots
      = (tables .snapshots).filter fun row => !condition tables values row := by
  rw [afterStatement_delete, foldl_afterDelete _ _ (by decide), deleteRows]
  apply List.filter_congr
  intro row _
  have hdoomed : doomed schema tables (fun table' row' => decide (table' = .snapshots)
      && condition tables values row') cascadeDepth .snapshots row
      = condition tables values row := by
    simp [doomed, cascadeDepth, schema]
  rw [hdoomed]

section Outlives

variable (query : PruneQuery) (now : Timestamp)

/-- A prune at `now` deletes the row for its age. -/
def tooOld (row : Row) : Bool :=
  query.retentionDays > 0
    && (!(SqlValue.integer (pruneCutoff query now)).le (row "created_at") && prunable query row)

theorem expired_snapshots (tables : Tables Table) :
    expired query now tables .snapshots
      = (tables .snapshots).filter fun row => !tooOld query now row := by
  unfold expired tooOld
  by_cases hdays : query.retentionDays > 0
  · rw [if_pos hdays, deleteExpired, afterStatement_delete_snapshots]
    simp [hdays, param]
  · rw [if_neg hdays]
    simp [hdays]

/-- The rows that a prune may delete and that are not older than `created`. -/
def rivals (created : Timestamp) (stored : List Row) : Nat :=
  ((stored.filter fun row => !tooOld query now row).filter (prunable query)).countP fun row =>
    (SqlValue.integer (toUnixMillis created)).le (row "created_at")

/-- The last row of `stored` and a new one of the time `created` outlive a prune at `now`: it is not
too old, and fewer rows than are kept may stand in front of it. -/
def Outlives (created : Timestamp) (stored : List Row) : Prop :=
  (query.retentionDays = 0 ∨ pruneCutoff query now ≤ toUnixMillis created)
    ∧ (query.maxSnapshots = 0 ∨ rivals query now created stored < query.maxSnapshots.toNat)

theorem toInt_uint32ToInt64 (value : UInt32) : (uint32ToInt64 value).toInt = value.toNat := by
  have hbound := value.toNat_lt
  have hbmod : (uint32ToInt64 value).toInt = (value.toNat : Int).bmod (2 ^ 64) := by
    simp [uint32ToInt64, UInt64.toInt64, Int64.toInt, BitVec.toInt_eq_toNat_bmod, Int64.toBitVec]
  rw [hbmod, Int.bmod_eq_of_le (by omega) (by omega)]

/-- The surplus rows that `trimmed` deletes. -/
def surplus (rows : List Row) : List Row :=
  ((rows.filter (prunable query)).mergeSort byNewest).drop query.maxSnapshots.toNat

theorem rows_selectSurplus (tables : Tables Table) :
    (selectSurplus query).rows tables [.integer (uint32ToInt64 query.maxSnapshots)]
      = (surplus query (tables .snapshots)).map (·.key ["id"]) := by
  have hoffset : offsetParam 1 [.integer (uint32ToInt64 query.maxSnapshots)]
      = query.maxSnapshots.toNat := by
    simp [offsetParam, param, SqlValue.toInt64, toInt_uint32ToInt64]
  unfold Select.rows surplus
  simp only [selectSurplus, hoffset]

theorem trimmed_snapshots {tables : Tables Table} (hmax : query.maxSnapshots > 0) :
    trimmed query tables .snapshots = (tables .snapshots).filter fun row =>
      !(surplus query (tables .snapshots)).any fun other => other "id" = row "id" := by
  rw [trimmed, if_pos hmax, deleteSurplus, afterStatement_delete_snapshots]
  apply List.filter_congr
  intro row _
  rw [rows_selectSurplus, List.contains_eq_any_beq, List.any_map]
  congr 2
  funext other
  simp [Row.key, eq_comm, Bool.beq_eq_decide_eq]

theorem trimmed_subset {tables : Tables Table} {row : Row}
    (h : row ∈ trimmed query tables .snapshots) : row ∈ tables .snapshots := by
  by_cases hmax : query.maxSnapshots > 0
  · rw [trimmed_snapshots query hmax] at h
    exact (List.mem_filter.mp h).1
  · rw [trimmed, if_neg hmax] at h
    exact h

theorem byNewest_trans (a b c : Row) (hab : byNewest a b = true) (hbc : byNewest b c = true) :
    byNewest a c = true :=
  SqlValue.le_trans hbc hab

theorem byNewest_total (a b : Row) : (byNewest a b || byNewest b a) = true :=
  SqlValue.le_total (b "created_at") (a "created_at")

/-- The last row is surplus when enough rows may stand in front of it. -/
theorem mem_surplus_concat {kept : List Row} {new : Row} (hprunable : prunable query new = true)
    (hnew : new ∉ kept) :
    new ∈ surplus query (kept ++ [new])
      ↔ query.maxSnapshots.toNat ≤ (kept.filter (prunable query)).countP (byNewest · new) := by
  have hlast : (kept ++ [new]).filter (prunable query) = kept.filter (prunable query) ++ [new] := by
    simp [hprunable]
  have hother : new ∉ kept.filter (prunable query) := fun h => hnew (List.mem_filter.mp h).1
  rw [surplus, hlast]
  exact StableSort.mem_drop_mergeSort_concat byNewest_trans byNewest_total hother _

theorem surplus_subset {rows : List Row} {row : Row} (h : row ∈ surplus query rows) : row ∈ rows :=
  (List.mem_filter.mp (List.mem_mergeSort.mp (List.mem_of_mem_drop h))).1

/-- The row that no other one shares its id with stays unless it is surplus itself. -/
theorem remains_iff {rows : List Row} {new : Row} (hmem : new ∈ rows)
    (honly : ∀ row ∈ rows, row "id" = new "id" → row = new) :
    (∃ row ∈ rows.filter fun row => !(surplus query rows).any fun other => other "id" = row "id",
        row "id" = new "id") ↔ new ∉ surplus query rows := by
  constructor
  · rintro ⟨row, hrow, hid⟩ hsurplus
    obtain ⟨hrow, hstays⟩ := List.mem_filter.mp hrow
    rw [Bool.not_eq_true', List.any_eq_false] at hstays
    exact hstays new hsurplus (decide_eq_true hid.symm)
  · intro hstays
    refine ⟨new, List.mem_filter.mpr ⟨hmem, ?_⟩, rfl⟩
    rw [Bool.not_eq_true', List.any_eq_false]
    intro other hother hid
    rw [honly other (surplus_subset query hother) (of_decide_eq_true hid)] at hother
    exact hstays hother

variable {query now} {tables : Tables Table} {stored : List Row} {snapshot : Snapshot}

theorem tooOld_snapshotRow (hprunable : prunable query (snapshotRow snapshot) = true) :
    tooOld query now (snapshotRow snapshot) = false
      ↔ query.retentionDays = 0 ∨ pruneCutoff query now ≤ toUnixMillis snapshot.metadata.createdAt := by
  have hle : (SqlValue.integer (pruneCutoff query now)).le (snapshotRow snapshot "created_at")
      = decide (pruneCutoff query now ≤ toUnixMillis snapshot.metadata.createdAt) := rfl
  have hzero : ¬ query.retentionDays > 0 ↔ query.retentionDays = 0 := by
    rw [gt_iff_lt, UInt32.not_lt, UInt32.le_zero_iff]
  rw [tooOld, hprunable, hle, Bool.and_true, Bool.and_eq_false_iff, Bool.not_eq_false',
    decide_eq_false_iff_not, decide_eq_true_eq, hzero]

/-- **Retention.** A prunable row that was inserted last is left by a prune exactly when it outlives
it. -/
theorem left_iff_outlives (hrows : tables .snapshots = stored ++ [snapshotRow snapshot])
    (hfresh : ∀ row ∈ stored, row "id" ≠ .text snapshot.metadata.id)
    (hprunable : prunable query (snapshotRow snapshot) = true) :
    (∃ row ∈ trimmed query (expired query now tables) .snapshots,
        row "id" = .text snapshot.metadata.id)
      ↔ Outlives query now snapshot.metadata.createdAt stored := by
  set new := snapshotRow snapshot with hnew
  have hid : new "id" = .text snapshot.metadata.id := snapshotRow_id
  have hold : ∀ row ∈ (stored.filter fun row => !tooOld query now row),
      row "id" ≠ .text snapshot.metadata.id :=
    fun row hrow => hfresh row (List.mem_filter.mp hrow).1
  set kept := stored.filter fun row => !tooOld query now row with hkept
  have hexpired : expired query now tables .snapshots
      = kept ++ [new].filter fun row => !tooOld query now row := by
    rw [expired_snapshots, hrows, List.filter_append]
  unfold Outlives
  rw [← tooOld_snapshotRow hprunable]
  cases hage : tooOld query now new with
  | true =>
      refine iff_of_false ?_ (fun h => Bool.false_ne_true h.1.symm)
      rintro ⟨row, hrow, hrowId⟩
      have hmem := trimmed_subset query hrow
      rw [hexpired] at hmem
      have hnone : [new].filter (fun row => !tooOld query now row) = [] := by simp [hage]
      rw [hnone, List.append_nil] at hmem
      exact hold row hmem hrowId
  | false =>
      have hlast : expired query now tables .snapshots = kept ++ [new] := by
        rw [hexpired]
        simp [hage]
      by_cases hmax : query.maxSnapshots > 0
      · have hpositive : query.maxSnapshots ≠ 0 := by
          rintro hzero
          simp [hzero] at hmax
        rw [trimmed_snapshots query hmax, hlast]
        have honly : ∀ row ∈ kept ++ [new], row "id" = new "id" → row = new := by
          intro row hrow hsame
          rcases List.mem_append.mp hrow with hrow | hrow
          · exact absurd (hsame.trans hid) (hold row hrow)
          · exact List.mem_singleton.mp hrow
        have hnot : new ∉ kept := fun h => hold new h hid
        rw [← hid, remains_iff query (by simp) honly, mem_surplus_concat query hprunable hnot,
          not_le]
        have hrivals : (kept.filter (prunable query)).countP (byNewest · new)
            = rivals query now snapshot.metadata.createdAt stored := rfl
        rw [hrivals]
        simp [hpositive]
      · have hzero : query.maxSnapshots = 0 := by
          rwa [gt_iff_lt, UInt32.not_lt, UInt32.le_zero_iff] at hmax
        rw [trimmed, if_neg hmax, hlast]
        exact iff_of_true ⟨new, by simp, hid⟩ ⟨rfl, .inl hzero⟩

end Outlives

/-! ### What can be loaded -/

/-- The program returns a value, from any connection. -/
def Succeeds {α : Type} (env : Environment) (program : Repo α) : Prop :=
  ∀ c, ∃ value c', program.run.run (handler env) c = some (.ok value, c')

theorem Succeeds.bind {env : Environment} {α β : Type} {program : Repo α} {next : α → Repo β}
    (h : Succeeds env program) (hnext : ∀ value, Succeeds env (next value)) :
    Succeeds env (program >>= next) := by
  intro c
  obtain ⟨middle, c₁, hrun⟩ := h c
  obtain ⟨value, c', hrest⟩ := hnext middle c₁
  exact ⟨value, c', (run_bind_ok hrun).trans hrest⟩

theorem Succeeds.pure {env : Environment} {α : Type} (value : α) :
    Succeeds env (Pure.pure value : Repo α) :=
  fun c => ⟨value, c, rfl⟩

/-- The statements of a load behind the first one. -/
def loadRest (id : Bytes) (row : List SqlValue) : Repo Snapshot := do
  let monitors ← loadMonitors id
  let windows ← loadWindows id
  let windows ← loadTabs id windows
  let cursor ← loadCursor id
  return { snapshotFromRow row with monitors, windows, cursor }

theorem rows_selectSnapshot_eq_nil (tables : Tables Table) (id : Bytes) :
    selectSnapshot.rows tables [.text id] = []
      ↔ ∀ row ∈ tables .snapshots, row "id" ≠ .text id := by
  rw [rows_selectSnapshot, List.map_eq_nil_iff, List.filter_eq_nil_iff]
  simp

section Load

variable {env : Environment} (hworks : ∀ n, env.fault n = none)

include hworks

theorem succeeds_prepare (tables : List Table) : Succeeds env (prepare tables) :=
  fun c => ⟨(), c.counted, prepare_ok tables (hworks c.calls)⟩

theorem rows_run (c : Connection) (statement : Select Table) (values : List SqlValue) :
    (rows statement values).run.run (handler env) c
      = some (.ok (statement.rows c.tables values), c.counted) := by
  have hanswer : handler env (.select statement values none) c
      = some (.ok (statement.rows c.tables values), c.counted) := by
    apply congrArg some
    exact call_ok (hworks c.calls) rfl
  exact run_bind_ok (ask_run hanswer)

theorem succeeds_rows (statement : Select Table) (values : List SqlValue) :
    Succeeds env (rows statement values) :=
  fun c => ⟨_, _, rows_run hworks c statement values⟩

theorem succeeds_loadRest (id : Bytes) (row : List SqlValue) :
    Succeeds env (loadRest id row) := by
  have hread : ∀ {β : Type} (tables : List Table) (statement : Select Table)
      (read : List (List SqlValue) → β), Succeeds env (do
        prepare tables
        return read (← rows statement [.text id])) := by
    intro β tables statement read
    apply (succeeds_prepare hworks tables).bind
    intro _
    exact (succeeds_rows hworks statement _).bind fun found => Succeeds.pure (read found)
  apply (hread [.monitors] selectMonitors _).bind
  intro monitors
  apply (hread [.windows] selectWindows _).bind
  intro windows
  apply (hread [.tabs] selectTabs _).bind
  intro windows
  apply Succeeds.bind ?_ fun _ => Succeeds.pure _
  apply (succeeds_prepare hworks _).bind
  intro _
  apply (succeeds_rows hworks _ _).bind
  intro found
  cases found <;> exact Succeeds.pure _

/-- **Loading.** A snapshot can be loaded exactly when it has a row. -/
theorem load_succeeds_iff {c : Connection} (hfree : c.locked = false) (id : Bytes) :
    (∃ loaded c', (load id).run.run (handler env) c = some (.ok loaded, c'))
      ↔ ∃ row ∈ c.tables .snapshots, row "id" = .text id := by
  set held : Connection := { c with locked := true }
  have htables : held.counted.tables = c.tables := rfl
  cases hrows : selectSnapshot.rows c.tables [.text id] with
  | nil =>
      have hselect : (loadAll id).run.run (handler env) held
          = some (.error (noSnapshot id), held.counted.counted) := by
        rw [loadAll, run_bind_ok (prepare_ok _ (hworks _)), run_bind_ok (rows_run hworks _ _ _),
          htables, hrows]
        rfl
      refine iff_of_false ?_ ?_
      · rintro ⟨loaded, c', hload⟩
        obtain ⟨-, c₁, hbody, -⟩ := withLock_inv hload
        rw [hselect] at hbody
        cases hbody
      · rintro ⟨row, hrow, hid⟩
        exact (rows_selectSnapshot_eq_nil c.tables id).mp hrows row hrow hid
  | cons row rest =>
      have hselect : (loadAll id).run.run (handler env) held
          = (loadRest id row).run.run (handler env) held.counted.counted := by
        rw [loadAll, run_bind_ok (prepare_ok _ (hworks _)), run_bind_ok (rows_run hworks _ _ _),
          htables, hrows]
        rfl
      refine iff_of_true ?_ ?_
      · obtain ⟨loaded, c₁, hrest⟩ := succeeds_loadRest hworks id row held.counted.counted
        refine ⟨loaded, { c₁ with locked := false }, ?_⟩
        rw [load, withLock_run hfree]
        change ((loadAll id).run.run (handler env) held).bind _ = _
        rw [hselect, hrest]
        rfl
      · by_contra hnone
        push Not at hnone
        rw [(rows_selectSnapshot_eq_nil c.tables id).mpr hnone] at hrows
        cases hrows

end Load

end ContextSnap.Storage
