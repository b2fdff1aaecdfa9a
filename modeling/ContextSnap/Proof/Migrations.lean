import ContextSnap.Proof.RepositoryAtomic
import ContextSnap.Storage.Migrations

/-!
# The migrations

A file that has just been created is migrated in three transactions. With the module of the search
index the tables that the repository works on are there afterwards, and the repository runs on them
as on a connection alone. Without the module the second migration fails, and nothing is opened.
-/

namespace ContextSnap.Storage

open Sql

/-! ### Catalogs -/

section Catalogs

/-- The catalog after the first migration. -/
def initialCatalog : Catalog :=
  [("schema_migrations", .table schemaMigrations),
    (Table.snapshots.name, .table (initialSchema .snapshots)),
    (Table.monitors.name, .table (initialSchema .monitors)),
    (Table.windows.name, .table (initialSchema .windows addedWindowColumns)),
    (Table.tabs.name, .table (initialSchema .tabs addedTabColumns)),
    (Table.cursorStates.name, .table (initialSchema .cursorStates))]

def indexedCatalog : Catalog :=
  initialCatalog ++ ["idx_snapshots_created_at", "idx_snapshots_favorite_created",
    "idx_snapshots_automatic_created", "idx_windows_snapshot", "idx_windows_app_id",
    "idx_windows_browser", "idx_tabs_snapshot", "idx_tabs_window",
    "idx_monitors_snapshot"].map fun name => (name, .index)

/-- The catalog after the second migration. -/
def searchableCatalog : Catalog :=
  indexedCatalog ++ [(Table.snapshotSearch.name, .fullTextTable (schema .snapshotSearch)),
    ("trg_snapshots_metadata_update", .trigger), ("trg_snapshots_delete_search", .trigger),
    ("snapshot_summaries", .view)]

/-- A table in its last form. -/
def Entry.completed (name : String) (entry : Entry) : Entry :=
  if name = Table.windows.name then .table (schema .windows)
  else if name = Table.tabs.name then .table (schema .tabs)
  else entry

/-- The catalog after the last migration. -/
def migratedCatalog : Catalog :=
  (searchableCatalog.map fun entry => (entry.1, entry.2.completed entry.1))
    ++ [(Table.restoreEvents.name, .table (schema .restoreEvents)),
      ("idx_restore_events_snapshot", .index), ("idx_tabs_restore_priority", .index)]

variable {fts5 : Bool} {s : Store}

theorem k001_run (h : s.header.catalog = []) :
    runDefinitions fts5 k001 s = (.ok (), s.define initialCatalog) := by
  rcases s with ⟨connection, ⟨catalog, version, applied⟩, saved⟩
  cases h
  rfl

theorem k002_run (h : s.header.catalog = initialCatalog) :
    runDefinitions true k002 s = (.ok (), s.define searchableCatalog) := by
  simp [runDefinitions, k002, runDefinition, Store.define, Catalog.create, Catalog.table, h,
    searchableCatalog, indexedCatalog, initialCatalog, initialSchema, List.lookup_cons, schema,
    snapshotColumns, monitorColumns, windowColumns, tabColumns, addedTabColumns,
    addedWindowColumns, textColumn, integerColumn, flagColumn, realColumn, stateColumn,
    nullableColumn, Table.name]

/-- Without the module the second migration gets as far as the search index. -/
theorem k002_refused (h : s.header.catalog = initialCatalog) :
    runDefinitions false k002 s = (.error (.ofRefusal .noFullText), s.define indexedCatalog) := by
  simp [runDefinitions, k002, runDefinition, Store.define, Catalog.create, Catalog.table, h,
    indexedCatalog, initialCatalog, initialSchema, List.lookup_cons, schema, snapshotColumns,
    monitorColumns, windowColumns, tabColumns, addedTabColumns, addedWindowColumns, textColumn,
    integerColumn, flagColumn, realColumn, stateColumn, nullableColumn, Table.name]

theorem addDefault_empty {tables : Tables Table} (h : tables = fun _ => []) (table : String)
    (column : Column) : addDefault tables table column = tables := by
  funext t
  rw [addDefault, h]
  split <;> rfl

theorem k003_run (h : s.header.catalog = searchableCatalog)
    (hempty : s.connection.tables = fun _ => []) :
    runDefinitions fts5 k003 s = (.ok (), s.define migratedCatalog) := by
  rcases s with ⟨⟨tables, _, _, _, _, _, _⟩, ⟨catalog, _, _⟩, _⟩
  cases h
  have hadd := addDefault_empty hempty
  simp [runDefinitions, k003, runDefinition, Store.define, Catalog.create, Catalog.table,
    Catalog.addColumn, Entry.addColumn, hadd, migratedCatalog, Entry.completed, searchableCatalog,
    indexedCatalog, initialCatalog, initialSchema, List.lookup_cons, schema, snapshotColumns,
    monitorColumns, windowColumns, tabColumns, restoreEventColumns, addedTabColumns,
    addedWindowColumns, textColumn, integerColumn, flagColumn, realColumn, stateColumn,
    nullableColumn, Table.name]

/-- The migrations leave the schema that the statements of the repository are checked against. -/
theorem table_migratedCatalog (table : Table) :
    migratedCatalog.table table.name = some (schema table) := by
  cases table <;> rfl

end Catalogs

section Runs

variable {fts5 : Bool} {env : Environment} {s s' : Store} {α β : Type}

/-! ### Single calls -/

theorem storeCall_cases {work : Store → Except Failure α × Store} {answer : Except Failure α}
    (h : storeCall env s work = (answer, s')) :
    (∃ failure, env.fault s.connection.calls = some failure ∧ answer = .error failure
        ∧ s' = s.counted)
      ∨ env.fault s.connection.calls = none ∧ work s.counted = (answer, s') := by
  unfold storeCall at h
  cases hfault : env.fault s.connection.calls with
  | some failure =>
      rw [hfault] at h
      cases h
      exact .inl ⟨failure, rfl, rfl, rfl⟩
  | none =>
      rw [hfault] at h
      exact .inr ⟨rfl, h⟩

theorem storeCall_ok {work : Store → Except Failure α × Store}
    (hfault : env.fault s.connection.calls = none) : storeCall env s work = work s.counted := by
  rw [storeCall, hfault]

theorem storeCall_fault {work : Store → Except Failure α × Store} {failure : Failure}
    (hfault : env.fault s.connection.calls = some failure) :
    storeCall env s work = (.error failure, s.counted) := by
  rw [storeCall, hfault]

theorem call_run (what context : String) (call : SetupCall) (s : Store) :
    (Setup.call what context call).run.run (storeHandler fts5 env) s
      = some ((storeCall env s (runSetup fts5 call)).1.mapError (sqliteError what context),
        (storeCall env s (runSetup fts5 call)).2) := by
  have hask : (Setup.call what context call).run
      = .ask (.setup call) fun answer => .done (answer.mapError (sqliteError what context)) := by
    change Program.ask (StoreOp.setup call) _ = _
    congr 1
    funext answer
    cases answer <;> rfl
  rw [hask]
  rfl

/-- A call that succeeds. -/
theorem call_iff {what context : String} {call : SetupCall} {value : call.Output} :
    (Setup.call what context call).run.run (storeHandler fts5 env) s = some (.ok value, s')
      ↔ env.fault s.connection.calls = none ∧ runSetup fts5 call s.counted = (.ok value, s') := by
  rw [call_run]
  cases hfault : env.fault s.connection.calls with
  | some failure => simp [storeCall, hfault, Except.mapError]
  | none =>
      rw [storeCall_ok hfault]
      rcases runSetup fts5 call s.counted with ⟨answer, after⟩
      cases answer <;> simp [Except.mapError]

theorem repository_run (program : Repo α) (s : Store) :
    (Setup.repository program).run.run (storeHandler fts5 env) s
      = program.run.run (repositoryHandler fts5 env) s := by
  have hsame : ∀ (op : Op) (s : Store), storeHandler fts5 env (.repository op) s
      = (repositoryHandler fts5 env op s).map fun result => (result.1, result.2) := fun op s =>
    (congrFun Option.map_id (repositoryHandler fts5 env op s)).symm
  have hembed := Program.run_embed (f := StoreOp.repository) (fun s => s) hsame program.run s
  exact hembed.trans (congrFun Option.map_id _)

theorem repository_attempt_run {program : Repo α} {result : Result α}
    (h : (Setup.repository program).run.run (storeHandler fts5 env) s = some (result, s')) :
    (Setup.repository (attempt program)).run.run (storeHandler fts5 env) s
      = some (.ok result, s') := by
  have hattempt : (attempt program).run = program.run >>= fun result => pure (.ok result) := rfl
  rw [repository_run] at h ⊢
  rw [hattempt, Program.run_bind, h]
  rfl

/-! ### Transactions -/

def Store.begun (s : Store) : Store :=
  { s with connection := s.connection.begun, savedHeader := some s.header }

def Store.committed (s : Store) : Store :=
  { s with connection := { s.connection.counted with saved := none }, savedHeader := none }

theorem exec_run_store (script : Script) (s : Store) :
    (Setup.repository (exec script)).run.run (storeHandler fts5 env) s
      = (repositoryHandler fts5 env (.exec script) s).map fun result =>
        (result.1.mapError (sqliteError "exec failed" "storage.execute"), result.2) := by
  rw [repository_run]
  have hask : (exec script).run = .ask (.exec script) fun answer =>
      .done (answer.mapError (sqliteError "exec failed" "storage.execute")) := by
    change Program.ask (Op.exec script) _ = _
    congr 1
    funext answer
    cases answer <;> rfl
  rw [hask, Program.run_ask_eq]
  cases repositoryHandler fts5 env (.exec script) s <;> rfl

theorem begin_run (hauto : s.connection.saved = none)
    (hfault : env.fault s.connection.calls = none) :
    (Setup.repository (exec .beginImmediate)).run.run (storeHandler fts5 env) s
      = some (.ok (), s.begun) := by
  have hscript : runScript .beginImmediate s.connection.counted
      = .ok ((), s.connection.begun) := by
    simp [runScript, Connection.counted, hauto, Connection.begun]
  have hanswer : handler env (.exec .beginImmediate) s.connection
      = some (.ok (), s.connection.begun) := congrArg some (call_ok hfault hscript)
  rw [exec_run_store, repositoryHandler, hanswer]
  rfl

theorem exec_run_fault {script : Script} {failure : Failure}
    (hfault : env.fault s.connection.calls = some failure) :
    (Setup.repository (exec script)).run.run (storeHandler fts5 env) s
      = some (.error (sqliteError "exec failed" "storage.execute" failure), s.counted) := by
  have hanswer : handler env (.exec script) s.connection
      = some (.error failure, s.connection.counted) := congrArg some (call_fault hfault)
  rw [exec_run_store, repositoryHandler, hanswer]
  rfl

/-- A rollback returns, and a failure of it is only logged. -/
theorem rollback_run {result : Result Unit}
    (h : (Setup.repository (exec .rollback)).run.run (storeHandler fts5 env) s = some (result, s')) :
    (Setup.repository (rollback true)).run.run (storeHandler fts5 env) s = some (.ok (), s') := by
  have hattempt := repository_attempt_run h
  rw [repository_run] at hattempt ⊢
  change ((Storage.attempt (exec .rollback) >>= fun _ => pure ()) : Repo Unit).run.run _ _ = _
  rw [Program.run_except_bind, hattempt]
  rfl

/-- The store before the open transaction. -/
def Store.rolledBack (s : Store) (tables : Tables Table) : Store :=
  { s with
    connection := { s.connection.counted with tables, saved := none }
    header := s.savedHeader.getD s.header
    savedHeader := none }

theorem rollback_run_ok {tables : Tables Table} (hopen : s.connection.saved = some tables)
    (hfault : env.fault s.connection.calls = none) :
    (Setup.repository (rollback true)).run.run (storeHandler fts5 env) s
      = some (.ok (), s.rolledBack tables) := by
  have hscript : runScript .rollback s.connection.counted
      = .ok ((), { s.connection.counted with tables, saved := none }) := by
    simp [runScript, Connection.counted, hopen]
  have hanswer : handler env (.exec .rollback) s.connection
      = some (.ok (), { s.connection.counted with tables, saved := none }) :=
    congrArg some (call_ok hfault hscript)
  apply rollback_run
  rw [exec_run_store, repositoryHandler, hanswer]
  rfl

theorem commit_iff {tables : Tables Table} (hopen : s.connection.saved = some tables) :
    (Setup.repository (commit true)).run.run (storeHandler fts5 env) s = some (.ok (), s')
      ↔ env.fault s.connection.calls = none ∧ s' = s.committed := by
  change (Setup.repository (exec .commit)).run.run _ _ = _ ↔ _
  rw [exec_run_store, repositoryHandler]
  cases hfault : env.fault s.connection.calls with
  | some failure =>
      have hanswer : handler env (.exec .commit) s.connection
          = some (.error failure, s.connection.counted) := congrArg some (call_fault hfault)
      rw [hanswer]
      simp [Except.mapError]
  | none =>
      have hscript : runScript .commit s.connection.counted
          = .ok ((), { s.connection.counted with saved := none }) := by
        simp [runScript, Connection.counted, hopen]
      have hanswer : handler env (.exec .commit) s.connection
          = some (.ok (), { s.connection.counted with saved := none }) :=
        congrArg some (call_ok hfault hscript)
      rw [hanswer]
      simp [Except.mapError, Store.afterScript, Store.committed, eq_comm]

/-! ### Migrations that succeed -/

/-- The row that is left of a migration. -/
def migrationRow (migration : Migration) (now : Timestamp) : Row :=
  replacingRow schemaMigrations ["version", "name", "applied_at", "checksum"]
    [.integer migration.version.toInt64, .text (str migration.name), .integer (toUnixMillis now),
      .null]

/-- What a migration notes in the header. -/
def Header.noted (header : Header) (migration : Migration) (now : Timestamp) : Header :=
  { header with
    userVersion := migration.version
    applied := (header.applied.filter fun row =>
      row.key ["version"] != (migrationRow migration now).key ["version"])
        ++ [migrationRow migration now] }

theorem replaceRow_migrationRow (migration : Migration) (now : Timestamp) (rows : List Row) :
    replaceRow schemaMigrations (migrationRow migration now) rows
      = .ok ((rows.filter fun row =>
        row.key ["version"] != (migrationRow migration now).key ["version"])
          ++ [migrationRow migration now]) := by
  apply if_pos
  simp [schemaMigrations, migrationColumns, migrationRow, replacingRow, List.lookup_cons,
    integerColumn, textColumn, Column.admits, stored]

def Store.noted (env : Environment) (s : Store) (migration : Migration) : Store :=
  { s with
    connection := { s.connection with
      calls := s.connection.calls + 3, readings := s.connection.readings + 1 }
    header := s.header.noted migration (env.clock s.connection.readings) }

theorem prepareIn_iff {tables : List String} :
    prepareIn fts5 tables s = (.ok (), s')
      ↔ prepareTables fts5 s.header.catalog tables = .ok () ∧ s' = s := by
  unfold prepareIn
  cases prepareTables fts5 s.header.catalog tables <;> simp [eq_comm]

theorem now_run (s : Store) :
    (Setup.repository (ask .now)).run.run (storeHandler fts5 env) s
      = some (.ok (env.clock s.connection.readings), { s with
        connection := { s.connection with readings := s.connection.readings + 1 } }) := by
  rw [repository_run]
  rfl

theorem recordIn_migration (migration : Migration) (now : Timestamp) (s : Store) :
    recordIn [.integer migration.version.toInt64, .text (str migration.name),
        .integer (toUnixMillis now), .null] s
      = (.ok (), { s with header := { s.header with applied :=
        (s.header.applied.filter fun row =>
          row.key ["version"] != (migrationRow migration now).key ["version"])
            ++ [migrationRow migration now] } }) := by
  have hrow := replaceRow_migrationRow migration now s.header.applied
  simp only [migrationRow] at hrow ⊢
  simp only [recordIn, hrow]

theorem migrationBody_iff {migration : Migration} :
    (migrationBody migration).run.run (storeHandler fts5 env) s = some (.ok (), s')
      ↔ env.fault s.connection.calls = none ∧ ∃ defined,
        runDefinitions fts5 migration.sql s.counted = (.ok (), defined)
          ∧ prepareTables fts5 defined.header.catalog ["schema_migrations"] = .ok ()
          ∧ (∀ n < 3, env.fault (defined.connection.calls + n) = none)
          ∧ s' = defined.noted env migration := by
  constructor
  · intro h
    obtain ⟨_, defined, hdefine, h₁⟩ := Program.run_except_bind_inv h
    obtain ⟨hfault, hdefined⟩ := call_iff.mp hdefine
    obtain ⟨_, s₂, hprepare, h₂⟩ := Program.run_except_bind_inv h₁
    obtain ⟨hfault₀, hanswer⟩ := call_iff.mp hprepare
    obtain ⟨hprepared, rfl⟩ := prepareIn_iff.mp hanswer
    obtain ⟨now, s₃, hnow, h₃⟩ := Program.run_except_bind_inv h₂
    rw [now_run] at hnow
    cases hnow
    obtain ⟨_, s₄, hrecorded, h₄⟩ := Program.run_except_bind_inv h₃
    obtain ⟨hfault₁, hrecorded⟩ := call_iff.mp hrecorded
    cases (recordIn_migration _ _ _).symm.trans hrecorded
    obtain ⟨hfault₂, hbumped⟩ := call_iff.mp h₄
    cases hbumped
    refine ⟨hfault, defined, hdefined, hprepared, ?_, rfl⟩
    intro n hn
    interval_cases n
    · exact hfault₀
    · exact hfault₁
    · exact hfault₂
  · rintro ⟨hfault, defined, hdefined, hprepared, hfaults, rfl⟩
    refine Program.run_except_bind_iff.mpr ⟨(), defined, call_iff.mpr ⟨hfault, hdefined⟩, ?_⟩
    refine Program.run_except_bind_iff.mpr ⟨(), defined.counted,
      call_iff.mpr ⟨hfaults 0 (by omega), prepareIn_iff.mpr ⟨hprepared, rfl⟩⟩, ?_⟩
    refine Program.run_except_bind_iff.mpr ⟨_, _, now_run _, ?_⟩
    refine Program.run_except_bind_iff.mpr ⟨(), _,
      call_iff.mpr ⟨hfaults 1 (by omega), recordIn_migration _ _ _⟩, ?_⟩
    exact call_iff.mpr ⟨hfaults 2 (by omega), rfl⟩

/-- What a definition changes. -/
theorem runDefinition_inv {definition : Definition}
    (h : runDefinition fts5 definition s = .ok s') :
    ∃ catalog tables, s' =
      { s.define catalog with connection := { s.connection with tables } } := by
  cases definition with
  | createTable name definition =>
      cases h
      exact ⟨_, _, rfl⟩
  | createIndex name table columns =>
      simp only [runDefinition] at h
      split at h
      · cases h
      · split at h
        · cases h
        · cases h
          exact ⟨_, _, rfl⟩
  | createFullTextTable name definition =>
      simp only [runDefinition] at h
      split at h
      · cases h
        exact ⟨_, _, rfl⟩
      · cases h
  | createTrigger name table =>
      simp only [runDefinition] at h
      split at h
      · cases h
      · cases h
        exact ⟨_, _, rfl⟩
  | createView name =>
      cases h
      exact ⟨_, _, rfl⟩
  | addColumn table column =>
      simp only [runDefinition] at h
      split at h
      · cases h
      · split at h
        · cases h
        · split at h
          · cases h
          · cases h
            exact ⟨_, _, rfl⟩

/-- What a script changes, as far as it gets. -/
theorem runDefinitions_inv (script : List Definition) (s : Store) :
    ∃ catalog tables, (runDefinitions fts5 script s).2 =
      { s.define catalog with connection := { s.connection with tables } } := by
  induction script generalizing s with
  | nil => exact ⟨_, _, rfl⟩
  | cons definition rest ih =>
      rw [runDefinitions]
      cases hrun : runDefinition fts5 definition s with
      | error refusal => exact ⟨_, _, rfl⟩
      | ok s₁ =>
          obtain ⟨_, _, rfl⟩ := runDefinition_inv hrun
          obtain ⟨catalog, tables, hrest⟩ := ih _
          exact ⟨catalog, tables, hrest⟩

theorem attempt_run_store {handler : (op : StoreOp) → Store → Option (StoreAnswer op × Store)}
    {program : Setup α} {result : Result α} (h : program.run.run handler s = some (result, s')) :
    (Setup.attempt program).run.run handler s = some (.ok result, s') := by
  have hattempt : (Setup.attempt program).run
      = program.run >>= fun result => pure (.ok result) := rfl
  rw [hattempt, Program.run_bind, h]
  rfl

/-- A migration succeeds if nothing goes wrong in any of its calls. -/
theorem applyMigration_iff {migration : Migration} (hauto : s.connection.saved = none) :
    (applyMigration migration).run.run (storeHandler fts5 env) s = some (.ok (), s')
      ↔ (∀ n < 6, env.fault (s.connection.calls + n) = none) ∧ ∃ defined,
        runDefinitions fts5 migration.sql s.begun.counted = (.ok (), defined)
          ∧ prepareTables fts5 defined.header.catalog ["schema_migrations"] = .ok ()
          ∧ s' = (defined.noted env migration).committed := by
  have hopen : ∀ defined, runDefinitions fts5 migration.sql s.begun.counted = (.ok (), defined) →
      defined.connection.saved = some s.connection.tables
        ∧ defined.connection.calls = s.connection.calls + 2 := by
    intro defined hdefined
    obtain ⟨catalog, tables, hafter⟩ := @runDefinitions_inv fts5 migration.sql s.begun.counted
    rw [hdefined] at hafter
    change defined = _ at hafter
    rw [hafter]
    exact ⟨rfl, rfl⟩
  constructor
  · intro h
    obtain ⟨begun, s₁, hbegun, h₁⟩ := Program.run_except_bind_inv h
    obtain ⟨body, s₂, hattempt, h₂⟩ := Program.run_except_bind_inv h₁
    obtain ⟨_, hvalue, hbody⟩ := Program.run_lift_inv hattempt
    cases hvalue
    cases body with
    | error e =>
        -- whatever the rollback does, the error is reported
        obtain ⟨_, _, -, hthrown⟩ := Program.run_except_bind_inv h₂
        cases hthrown
    | ok _ =>
        cases hfault : env.fault s.connection.calls with
        | some failure =>
            rw [repository_attempt_run (exec_run_fault hfault)] at hbegun
            cases hbegun
            cases h₂
        | none =>
            rw [repository_attempt_run (begin_run hauto hfault)] at hbegun
            cases hbegun
            obtain ⟨hfirst, defined, hdefined, hprepared, hfaults, rfl⟩ := migrationBody_iff.mp hbody
            obtain ⟨hsaved, hcalls⟩ := hopen defined hdefined
            have hnoted : (defined.noted env migration).connection.saved
                = some s.connection.tables := hsaved
            obtain ⟨hlast, rfl⟩ := (commit_iff hnoted).mp h₂
            refine ⟨?_, defined, hdefined, hprepared, rfl⟩
            rw [hcalls] at hfaults
            change env.fault (defined.connection.calls + 3) = none at hlast
            rw [hcalls] at hlast
            intro n hn
            interval_cases n
            · exact hfault
            · exact hfirst
            · exact hfaults 0 (by omega)
            · exact hfaults 1 (by omega)
            · exact hfaults 2 (by omega)
            · exact hlast
  · rintro ⟨hfaults, defined, hdefined, hprepared, rfl⟩
    obtain ⟨hsaved, hcalls⟩ := hopen defined hdefined
    have hbody : (migrationBody migration).run.run (storeHandler fts5 env) s.begun
        = some (.ok (), defined.noted env migration) := by
      refine migrationBody_iff.mpr ⟨hfaults 1 (by omega), defined, hdefined, hprepared, ?_, rfl⟩
      intro n hn
      rw [hcalls, add_assoc]
      exact hfaults (2 + n) (by omega)
    refine Program.run_except_bind_iff.mpr
      ⟨_, _, repository_attempt_run (begin_run hauto (hfaults 0 (by omega))), ?_⟩
    refine Program.run_except_bind_iff.mpr ⟨_, _, attempt_run_store hbody, ?_⟩
    have hnoted : (defined.noted env migration).connection.saved = some s.connection.tables := hsaved
    refine (commit_iff hnoted).mpr ⟨?_, rfl⟩
    change env.fault (defined.connection.calls + 3) = none
    rw [hcalls]
    exact hfaults 5 (by omega)

/-- The store after a migration to `catalog`. -/
def Store.migrated (env : Environment) (s : Store) (migration : Migration) (catalog : Catalog) :
    Store :=
  ((s.begun.counted.define catalog).noted env migration).committed

theorem applyMigration_defines {migration : Migration} {catalog : Catalog}
    (hauto : s.connection.saved = none)
    (hdefines : runDefinitions fts5 migration.sql s.begun.counted
      = (.ok (), s.begun.counted.define catalog))
    (hprepared : prepareTables fts5 catalog ["schema_migrations"] = .ok ()) :
    (applyMigration migration).run.run (storeHandler fts5 env) s = some (.ok (), s')
      ↔ (∀ n < 6, env.fault (s.connection.calls + n) = none)
        ∧ s' = s.migrated env migration catalog := by
  rw [applyMigration_iff hauto]
  constructor
  · rintro ⟨hfaults, defined, hdefined, -, rfl⟩
    cases hdefines.symm.trans hdefined
    exact ⟨hfaults, rfl⟩
  · rintro ⟨hfaults, rfl⟩
    exact ⟨hfaults, _, hdefines, hprepared, rfl⟩

/-! ### Opening a new file -/

theorem openDatabase_iff {options : DatabaseOptions} :
    (openDatabase options).run.run (storeHandler fts5 env) s = some (.ok (), s')
      ↔ options.creates = true ∧ (∀ n < 2, env.fault (s.connection.calls + n) = none)
        ∧ s' = s.counted.counted := by
  constructor
  · intro h
    obtain ⟨_, s₁, hopen, hpragmas⟩ := Program.run_except_bind_inv h
    obtain ⟨hfault₀, hopened⟩ := call_iff.mp hopen
    obtain ⟨hcreates, rfl⟩ : options.creates = true ∧ s₁ = s.counted := by
      change ((if options.creates = true then .ok () else .error cannotOpen : Except Failure Unit),
        s.counted) = _ at hopened
      split at hopened
      · cases hopened
        exact ⟨by assumption, rfl⟩
      · cases hopened
    obtain ⟨hfault₁, hset⟩ := call_iff.mp hpragmas
    cases hset
    refine ⟨hcreates, ?_, rfl⟩
    intro n hn
    interval_cases n
    · exact hfault₀
    · exact hfault₁
  · rintro ⟨hcreates, hfaults, rfl⟩
    refine Program.run_except_bind_iff.mpr
      ⟨(), s.counted, call_iff.mpr ⟨hfaults 0 (by omega), ?_⟩, ?_⟩
    · change ((if options.creates = true then .ok () else .error cannotOpen : Except Failure Unit),
        s.counted) = _
      rw [if_pos hcreates]
    · exact call_iff.mpr ⟨hfaults 1 (by omega), rfl⟩

theorem userVersion_iff {version : Int32} :
    userVersion.run.run (storeHandler fts5 env) s = some (.ok version, s')
      ↔ (∀ n < 2, env.fault (s.connection.calls + n) = none)
        ∧ version = s.header.userVersion ∧ s' = s.counted.counted := by
  constructor
  · intro h
    obtain ⟨_, s₁, hprepare, hstep⟩ := Program.run_except_bind_inv h
    obtain ⟨hfault₀, hprepared⟩ := call_iff.mp hprepare
    cases hprepared
    obtain ⟨hfault₁, hstepped⟩ := call_iff.mp hstep
    cases hstepped
    refine ⟨?_, rfl, rfl⟩
    intro n hn
    interval_cases n
    · exact hfault₀
    · exact hfault₁
  · rintro ⟨hfaults, rfl, rfl⟩
    refine Program.run_except_bind_iff.mpr
      ⟨(), s.counted, call_iff.mpr ⟨hfaults 0 (by omega), rfl⟩, ?_⟩
    exact call_iff.mpr ⟨hfaults 1 (by omega), rfl⟩

def migration001 : Migration := ⟨1, "initial", k001⟩

def migration002 : Migration := ⟨2, "indexes_fts", k002⟩

def migration003 : Migration := ⟨3, "tab_discard_state", k003⟩

/-- A file of version 0 has all migrations before it. -/
theorem pending_migrations :
    (migrations.forM fun migration : Migration =>
        if migration.version ≤ 0 then (pure () : Setup Unit) else applyMigration migration)
      = applyMigration migration001 >>= fun _ => applyMigration migration002 >>= fun _ =>
        applyMigration migration003 >>= fun _ => pure () := rfl

/-- A new file behind the setup of its connection. -/
def connected : Store := emptyStore.counted.counted.counted.counted

/-- The store after the first migration of a new file. -/
def initialStore (env : Environment) : Store :=
  connected.migrated env migration001 initialCatalog

theorem applyMigration_001 :
    (applyMigration migration001).run.run (storeHandler fts5 env) connected = some (.ok (), s')
      ↔ (∀ n < 6, env.fault (4 + n) = none) ∧ s' = initialStore env :=
  applyMigration_defines rfl (k001_run rfl) rfl

/-- What `open` makes of a new file. -/
structure Opened (s : Store) : Prop where
  catalog : s.header.catalog = migratedCatalog
  version : s.header.userVersion = 3
  savedHeader : s.savedHeader = none
  tables : s.connection.tables = fun _ => []
  auto : s.connection.saved = none
  free : s.connection.locked = false

/-- A new file is opened if nothing goes wrong in any call. -/
theorem openRepository_inv {options : DatabaseOptions}
    (h : (openRepository options).run.run (storeHandler true env) emptyStore
      = some (.ok (), s)) :
    options.creates = true ∧ (∀ n < 22, env.fault n = none) ∧ Opened s := by
  obtain ⟨_, s₁, hopen, hmigrate⟩ := Program.run_except_bind_inv h
  obtain ⟨hcreates, hfaults₀, rfl⟩ := openDatabase_iff.mp hopen
  obtain ⟨current, s₂, hversion, hloop⟩ := Program.run_except_bind_inv hmigrate
  obtain ⟨hfaults₂, rfl, rfl⟩ := userVersion_iff.mp hversion
  change ((migrations.forM fun migration : Migration =>
    if migration.version ≤ 0 then (pure () : Setup Unit) else applyMigration migration).run.run
      (storeHandler true env) connected = _) at hloop
  rw [pending_migrations] at hloop
  obtain ⟨_, s₃, hfirst, hrest⟩ := Program.run_except_bind_inv hloop
  obtain ⟨hfaults₄, rfl⟩ := applyMigration_001.mp hfirst
  obtain ⟨_, s₄, hsecond, hlast⟩ := Program.run_except_bind_inv hrest
  obtain ⟨hfaults₁₀, rfl⟩ := (applyMigration_defines rfl (k002_run rfl) rfl).mp hsecond
  obtain ⟨_, s₅, hthird, hdone⟩ := Program.run_except_bind_inv hlast
  obtain ⟨hfaults₁₆, rfl⟩ := (applyMigration_defines rfl (k003_run rfl rfl) rfl).mp hthird
  cases hdone
  refine ⟨hcreates, ?_, rfl, rfl, rfl, rfl, rfl, rfl⟩
  intro n hn
  obtain hlt | ⟨m, rfl, hm⟩ | ⟨m, rfl, hm⟩ | ⟨m, rfl, hm⟩ | ⟨m, rfl, hm⟩ :
      n < 2 ∨ (∃ m, n = 2 + m ∧ m < 2) ∨ (∃ m, n = 4 + m ∧ m < 6) ∨ (∃ m, n = 10 + m ∧ m < 6)
        ∨ ∃ m, n = 16 + m ∧ m < 6 := by
    by_cases h₂ : n < 2
    · exact .inl h₂
    by_cases h₄ : n < 4
    · exact .inr (.inl ⟨n - 2, by omega, by omega⟩)
    by_cases h₁₀ : n < 10
    · exact .inr (.inr (.inl ⟨n - 4, by omega, by omega⟩))
    by_cases h₁₆ : n < 16
    · exact .inr (.inr (.inr (.inl ⟨n - 10, by omega, by omega⟩)))
    · exact .inr (.inr (.inr (.inr ⟨n - 16, by omega, by omega⟩)))
  · rw [← Nat.zero_add n]
    exact hfaults₀ n hlt
  · exact hfaults₂ m hm
  · exact hfaults₄ m hm
  · exact hfaults₁₀ m hm
  · exact hfaults₁₆ m hm

/-! ### The repository on a migrated database -/

/-- A store whose header nobody changes. -/
def Store.at (header : Header) (c : Connection) : Store :=
  { connection := c, header, savedHeader := c.saved.map fun _ => header }

theorem Opened.eq_at (h : Opened s) : s = .at s.header s.connection := by
  rcases s with ⟨c, header, saved⟩
  obtain rfl : saved = none := h.savedHeader
  have hauto : c.saved = none := h.auto
  rw [Store.at, hauto]
  rfl

theorem prepareTables_migrated (tables : List Table) :
    prepareTables true migratedCatalog (tables.map Table.name) = .ok () := by
  induction tables with
  | nil => rfl
  | cons table rest ih => cases table <;> exact ih

theorem Store.at_connection (header : Header) (c : Connection) :
    (Store.at header c).connection = c := rfl

theorem Store.at_with {header : Header} {c c' : Connection} (h : c'.saved = c.saved) :
    { Store.at header c with connection := c' } = .at header c' := by
  rw [Store.at, Store.at, h]

/-- A transaction leaves the header alone that it does not change. -/
theorem afterScript_at {header : Header} {script : Script} {c c' : Connection}
    (h : runScript script c = .ok ((), c')) :
    ({ Store.at header c with connection := c' }).afterScript script = .at header c' := by
  rcases c with ⟨tables, saved, changes, locked, calls, readings, ulids⟩
  cases script <;> cases saved <;> cases h <;> rfl

/-- On the migrated schema a repository operation is answered as on a connection alone. -/
theorem repositoryHandler_migrated {header : Header} (h : header.catalog = migratedCatalog)
    (op : Op) (c : Connection) :
    repositoryHandler true env op (.at header c)
      = (handler env op c).map fun result => (result.1, .at header result.2) := by
  have hother : (∀ {answer c'}, handler env op c = some (answer, c') → c'.saved = c.saved) →
      ((handler env op c).map fun result =>
          (result.1, { Store.at header c with connection := result.2 }))
        = (handler env op c).map fun result => (result.1, .at header result.2) := by
    intro hsaved
    apply Option.map_congr
    intro result hresult
    rw [Store.at_with (hsaved hresult)]
  cases op with
  | prepare tables =>
      have hprepared : prepareIn true (tables.map Table.name) (.at header c.counted)
          = (.ok (), .at header c.counted) :=
        prepareIn_iff.mpr ⟨by rw [← prepareTables_migrated tables, ← h]; rfl, rfl⟩
      cases hfault : env.fault c.calls with
      | some failure =>
          have hanswer : handler env (.prepare tables) c = some (.error failure, c.counted) :=
            congrArg some (call_fault hfault)
          rw [hanswer]
          exact congrArg some (storeCall_fault hfault)
      | none =>
          have hanswer : handler env (.prepare tables) c = some (.ok (), c.counted) :=
            congrArg some (call_ok hfault rfl)
          rw [hanswer]
          exact congrArg some ((storeCall_ok hfault).trans hprepared)
  | exec script =>
      rcases call_cases env c (runScript script) with
        ⟨failure, hfail⟩ | ⟨value, c', hscript, hdone⟩
      · have hanswer : handler env (.exec script) c = some (.error failure, c.counted) :=
          congrArg some hfail
        rw [repositoryHandler, Store.at_connection, hanswer]
        rfl
      · have hanswer : handler env (.exec script) c = some (.ok (), c') := congrArg some hdone
        rw [repositoryHandler, Store.at_connection, hanswer]
        have hafter := @afterScript_at header script c.counted c' hscript
        exact congrArg (fun after : Store => some ((.ok () : Except Failure Unit), after)) hafter
  | lock =>
      apply hother
      intro answer c' hanswer
      change (if c.locked then none else some ((), { c with locked := true })) = _ at hanswer
      split at hanswer
      · cases hanswer
      · cases hanswer
        rfl
  | dml statement values =>
      apply hother
      intro answer c' hanswer
      exact (handler_inside (inside_dml statement values) hanswer).1
  | select statement values expression =>
      apply hother
      intro answer c' hanswer
      have hinside : (Op.select statement values expression).Inside := Op.Plain.inside trivial
      exact (handler_inside hinside hanswer).1
  | unlock | changes | now | generateUlid => rfl

theorem repository_run_migrated {header : Header} (h : header.catalog = migratedCatalog)
    (program : Repo α) (c : Connection) :
    (Setup.repository program).run.run (storeHandler true env) (.at header c)
      = (program.run.run (handler env) c).map fun result =>
        (result.1, .at header result.2) :=
  have hsame : ∀ (op : Op) (c : Connection), storeHandler true env (.repository op) (.at header c)
      = (handler env op c).map fun result => (result.1, .at header result.2) :=
    repositoryHandler_migrated h
  Program.run_embed (f := StoreOp.repository) (Store.at header) hsame program.run c

/-- An opened repository runs on its connection, whose tables are empty. -/
theorem Opened.repository_run (h : Opened s) (program : Repo α) :
    (Setup.repository program).run.run (storeHandler true env) s
      = (program.run.run (handler env) s.connection).map fun result =>
        (result.1, .at s.header result.2) :=
  (congrArg _ h.eq_at).trans (repository_run_migrated h.catalog program s.connection)

end Runs

end ContextSnap.Storage
