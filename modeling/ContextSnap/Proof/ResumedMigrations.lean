import ContextSnap.Proof.Migrations
import ContextSnap.Storage.Interruptions

/-!
# Resumed migrations

A migration that runs in a transaction is there as a whole or not at all, whatever fails, and the
next call goes on behind it. Without its transaction a failing migration stays half done.
-/

namespace ContextSnap.Storage

open Sql

/-! ### Catalogs -/

theorem extend_k001 : Migration.extend [] migration001 = initialCatalog :=
  congrArg (fun outcome => outcome.2.header.catalog)
    (@k001_run true (emptyStore.define []) rfl)

theorem extend_k002 : Migration.extend initialCatalog migration002 = searchableCatalog :=
  congrArg (fun outcome => outcome.2.header.catalog)
    (k002_run (s := emptyStore.define initialCatalog) rfl)

theorem extend_k003 : Migration.extend searchableCatalog migration003 = migratedCatalog :=
  congrArg (fun outcome => outcome.2.header.catalog)
    (@k003_run true (emptyStore.define searchableCatalog) rfl rfl)

theorem catalogBehind_one : catalogBehind 1 = initialCatalog := extend_k001

theorem catalogBehind_two : catalogBehind 2 = searchableCatalog := by
  change Migration.extend (catalogBehind 1) migration002 = _
  rw [catalogBehind_one, extend_k002]

theorem catalogBehind_three : catalogBehind 3 = migratedCatalog := by
  change Migration.extend (catalogBehind 2) migration003 = _
  rw [catalogBehind_two, extend_k003]

/-- The last migration, whatever rows there are. -/
theorem k003_defines {s : Store} (h : s.header.catalog = searchableCatalog) :
    ∃ tables, runDefinitions true k003 s
      = (.ok (), { s.define migratedCatalog with connection := { s.connection with tables } }) := by
  rcases s with ⟨⟨tables, _, _, _, _, _, _⟩, ⟨catalog, _, _⟩, _⟩
  cases h
  simp [runDefinitions, k003, runDefinition, Store.define, Catalog.create, Catalog.table,
    Catalog.addColumn, Entry.addColumn, migratedCatalog, Entry.completed, searchableCatalog,
    indexedCatalog, initialCatalog, initialSchema, List.lookup_cons, schema, snapshotColumns,
    monitorColumns, windowColumns, tabColumns, restoreEventColumns, addedTabColumns,
    addedWindowColumns, textColumn, integerColumn, flagColumn, realColumn, stateColumn,
    nullableColumn, Table.name]

/-- The position of a migration is the version before it. -/
inductive Follows : Nat → Migration → Prop
  | first : Follows 0 migration001
  | second : Follows 1 migration002
  | third : Follows 2 migration003

section Single

variable {u : Nat} {migration : Migration} {s s' : Store}

theorem Follows.script (hu : Follows u migration) (h : s.header.catalog = catalogBehind u) :
    ∃ tables, runDefinitions true migration.sql s
      = (.ok (), { s.define (catalogBehind (u + 1)) with
        connection := { s.connection with tables } }) := by
  cases hu with
  | first =>
      rw [catalogBehind_one]
      exact ⟨s.connection.tables, k001_run h⟩
  | second =>
      rw [catalogBehind_one] at h
      rw [catalogBehind_two]
      exact ⟨s.connection.tables, k002_run h⟩
  | third =>
      rw [catalogBehind_two] at h
      rw [catalogBehind_three]
      exact k003_defines h

theorem Follows.prepares (hu : Follows u migration) :
    prepareTables true (catalogBehind (u + 1)) ["schema_migrations"] = .ok () := by
  cases hu with
  | first =>
      rw [catalogBehind_one]
      rfl
  | second =>
      rw [catalogBehind_two]
      rfl
  | third =>
      rw [catalogBehind_three]
      rfl

theorem Follows.version (hu : Follows u migration) : migration.version = Int32.ofNat (u + 1) := by
  cases hu <;> rfl

/-! ### Single calls -/

variable {env : Environment} {ran : Nat → Nat} {α : Type}

theorem interrupted_repository (program : Repo α) (s : Store) :
    (Setup.repository program).run.run (interruptedHandler env ran) s
      = (Setup.repository program).run.run (storeHandler true env) s := by
  have hsame : ∀ (op : Op) (s : Store), interruptedHandler env ran (.repository op) s
      = (repositoryHandler true env op s).map fun result => (result.1, result.2) := fun op s =>
    (congrFun Option.map_id (repositoryHandler true env op s)).symm
  have hembed := Program.run_embed (f := StoreOp.repository) (fun s => s) hsame program.run s
  rw [repository_run]
  exact hembed.trans (congrFun Option.map_id _)

theorem interrupted_call (what context : String) (call : SetupCall) (s : Store) :
    (Setup.call what context call).run.run (interruptedHandler env ran) s
      = (interruptedHandler env ran (.setup call) s).map fun outcome =>
          (Except.mapError (sqliteError what context) outcome.1, outcome.2) := by
  have hask : (Setup.call what context call).run
      = .ask (.setup call) fun answer => .done (answer.mapError (sqliteError what context)) := by
    change Program.ask (StoreOp.setup call) _ = _
    congr 1
    funext answer
    cases answer <;> rfl
  rw [hask, Program.run_ask_eq]
  cases interruptedHandler env ran (.setup call) s <;> rfl

/-- A call without a fault. -/
theorem interrupted_call_ok {what context : String} {call : SetupCall} {value : call.Output}
    (hfault : env.fault s.connection.calls = none)
    (h : runSetup true call s.counted = (.ok value, s')) :
    (Setup.call what context call).run.run (interruptedHandler env ran) s
      = some (.ok value, s') := by
  have hanswer : interruptedHandler env ran (.setup call) s = some (.ok value, s') := by
    rw [← h]
    cases call with
    | define script =>
        change some (interruptedScript env ran script s) = _
        rw [interruptedScript, hfault]
        rfl
    | _ => exact congrArg some (storeCall_ok hfault)
  rw [interrupted_call, hanswer]
  rfl

theorem interrupted_call_fault {what context : String} {call : SetupCall} {failure : Failure}
    (hfault : env.fault s.connection.calls = some failure)
    (hscript : ∀ script, call ≠ .define script) :
    (Setup.call what context call).run.run (interruptedHandler env ran) s
      = some (.error (sqliteError what context failure), s.counted) := by
  have hanswer : interruptedHandler env ran (.setup call) s = some (.error failure, s.counted) := by
    cases call with
    | define script => exact absurd rfl (hscript script)
    | _ => exact congrArg some (storeCall_fault hfault)
  rw [interrupted_call, hanswer]
  rfl

/-- A script with a fault fails somewhere. -/
theorem interrupted_define_fault {what context : String} {script : List Definition}
    {failure : Failure} (hfault : env.fault s.connection.calls = some failure) :
    ∃ e catalog tables, (Setup.call what context (.define script)).run.run
        (interruptedHandler env ran) s
      = some (.error e, { s.counted.define catalog with
        connection := { s.connection.counted with tables } }) := by
  obtain ⟨catalog, tables, hafter⟩ := @runDefinitions_inv true
    (script.dropLast.take (ran s.connection.calls)) s.counted
  rcases hrun : runDefinitions true (script.dropLast.take (ran s.connection.calls)) s.counted
    with ⟨answer, s'⟩
  rw [hrun] at hafter
  obtain ⟨failure', hscript⟩ : ∃ failure', interruptedScript env ran script s
      = (.error failure', s') := by
    rw [interruptedScript, hfault]
    simp only [hrun]
    cases answer with
    | ok _ => exact ⟨failure, rfl⟩
    | error failure' => exact ⟨failure', rfl⟩
  refine ⟨sqliteError what context failure', catalog, tables, ?_⟩
  rw [interrupted_call]
  change (some (interruptedScript env ran script s)).map _ = _
  rw [hscript]
  exact congrArg (fun after => some (Except.error _, after)) hafter

/-! ### The body of a migration -/

/-- A header with some version and its catalog. -/
structure Header.Standing (header : Header) (u : Nat) : Prop where
  version : header.userVersion = Int32.ofNat u
  catalog : header.catalog = catalogBehind u

/-- A transaction stays open, or none is. -/
structure Store.Keeps (s s' : Store) : Prop where
  saved : s'.connection.saved = s.connection.saved
  savedHeader : s'.savedHeader = s.savedHeader

/-- How the statements of a migration end. -/
inductive BodyEnds (env : Environment) (u : Nat) (s : Store) : Result Unit → Store → Prop
  | done {s' : Store} (faults : ∀ n < 4, env.fault (s.connection.calls + n) = none)
      (calls : s'.connection.calls = s.connection.calls + 4) (stands : s'.header.Standing (u + 1)) :
      BodyEnds env u s (.ok ()) s'
  | failed {s' : Store} {e : Error} (n : Nat) (lt : n < 4)
      (before : ∀ k < n, env.fault (s.connection.calls + k) = none)
      (fault : env.fault (s.connection.calls + n) ≠ none)
      (calls : s'.connection.calls = s.connection.calls + n + 1) : BodyEnds env u s (.error e) s'

/-- The note that a migration was applied, behind its script. -/
theorem noted_ends (hu : Follows u migration) (hcatalog : s.header.catalog = catalogBehind (u + 1)) :
    ∃ result s', (do
        Setup.call "prepare failed" "storage.prepare" (.prepare ["schema_migrations"])
        let now ← Setup.repository (ask .now)
        Setup.call "step failed" "storage.statement" (.record
          [.integer migration.version.toInt64, .text (str migration.name),
            .integer (toUnixMillis now), .null])
        Setup.call "exec failed" "storage.execute" (.setUserVersion migration.version)
        : Setup Unit).run.run (interruptedHandler env ran) s = some (result, s')
      ∧ s.Keeps s'
      ∧ (result = .ok () ∧ (∀ n < 3, env.fault (s.connection.calls + n) = none)
          ∧ s'.connection.calls = s.connection.calls + 3 ∧ s'.header.Standing (u + 1)
        ∨ ∃ e, result = .error e ∧ ∃ n < 3,
          (∀ k < n, env.fault (s.connection.calls + k) = none)
          ∧ env.fault (s.connection.calls + n) ≠ none
          ∧ s'.connection.calls = s.connection.calls + n + 1) := by
  cases hfault₀ : env.fault s.connection.calls with
  | some failure =>
      have hprepare := @interrupted_call_fault s env ran "prepare failed" "storage.prepare"
        (.prepare ["schema_migrations"]) failure hfault₀ (fun _ h => by cases h)
      refine ⟨_, _, Program.run_except_bind_error hprepare, ⟨rfl, rfl⟩, .inr ⟨_, rfl, 0, by omega,
        fun k hk => by omega, Option.ne_none_iff_exists'.mpr ⟨failure, hfault₀⟩, rfl⟩⟩
  | none =>
      have hprepare : (Setup.call "prepare failed" "storage.prepare"
          (.prepare ["schema_migrations"])).run.run (interruptedHandler env ran) s
            = some (.ok (), s.counted) :=
        interrupted_call_ok hfault₀ (prepareIn_iff.mpr ⟨hcatalog ▸ hu.prepares, rfl⟩)
      have hnow := (@interrupted_repository env ran _ (ask .now) s.counted).trans
        (now_run s.counted)
      cases hfault₁ : env.fault (s.connection.calls + 1) with
      | some failure =>
          have hrecord := @interrupted_call_fault
            { s.counted with connection := { s.counted.connection with
              readings := s.connection.readings + 1 } } env ran "step failed" "storage.statement"
            (.record [.integer migration.version.toInt64, .text (str migration.name),
              .integer (toUnixMillis (env.clock s.connection.readings)), .null]) failure hfault₁
            (fun _ h => by cases h)
          refine ⟨_, _, (Program.run_except_bind_ok hprepare).trans
            ((Program.run_except_bind_ok hnow).trans (Program.run_except_bind_error hrecord)),
            ⟨rfl, rfl⟩, .inr ⟨_, rfl, 1, by omega, ?_, Option.ne_none_iff_exists'.mpr ⟨failure, hfault₁⟩, rfl⟩⟩
          intro k hk
          obtain rfl : k = 0 := by omega
          exact hfault₀
      | none =>
          have hrecord : (Setup.call "step failed" "storage.statement"
              (.record [.integer migration.version.toInt64, .text (str migration.name),
                .integer (toUnixMillis (env.clock s.connection.readings)), .null])).run.run
              (interruptedHandler env ran)
              { s.counted with connection := { s.counted.connection with
                readings := s.connection.readings + 1 } } = some (.ok (), _) :=
            interrupted_call_ok hfault₁ (recordIn_migration migration _ _)
          cases hfault₂ : env.fault (s.connection.calls + 2) with
          | some failure =>
              refine ⟨_, _, (Program.run_except_bind_ok hprepare).trans
                ((Program.run_except_bind_ok hnow).trans ((Program.run_except_bind_ok hrecord).trans
                  (interrupted_call_fault hfault₂ fun _ h => by cases h))),
                ⟨rfl, rfl⟩, .inr ⟨_, rfl, 2, by omega, ?_, Option.ne_none_iff_exists'.mpr ⟨failure, hfault₂⟩, rfl⟩⟩
              intro k hk
              interval_cases k
              · exact hfault₀
              · exact hfault₁
          | none =>
              refine ⟨_, _, (Program.run_except_bind_ok hprepare).trans
                ((Program.run_except_bind_ok hnow).trans ((Program.run_except_bind_ok hrecord).trans
                  (interrupted_call_ok hfault₂ rfl))),
                ⟨rfl, rfl⟩, .inl ⟨rfl, ?_, rfl, hu.version, hcatalog⟩⟩
              intro n hn
              interval_cases n
              · exact hfault₀
              · exact hfault₁
              · exact hfault₂

theorem migrationBody_ends (hu : Follows u migration) (hcatalog : s.header.catalog = catalogBehind u) :
    ∃ result s', (migrationBody migration).run.run (interruptedHandler env ran) s
        = some (result, s') ∧ s.Keeps s' ∧ BodyEnds env u s result s' := by
  cases hfault : env.fault s.connection.calls with
  | some failure =>
      obtain ⟨e, catalog, tables, hdefine⟩ :=
        @interrupted_define_fault s env ran "exec failed" "storage.execute" migration.sql failure
          hfault
      refine ⟨_, _, Program.run_except_bind_error hdefine, ⟨rfl, rfl⟩,
        .failed 0 (by omega) (fun k hk => by omega) ?_ rfl⟩
      rw [Nat.add_zero, hfault]
      exact Option.some_ne_none failure
  | none =>
      obtain ⟨tables, hscript⟩ := hu.script (s := s.counted) hcatalog
      have hdefine : (Setup.call "exec failed" "storage.execute" (.define migration.sql)).run.run
          (interruptedHandler env ran) s = some (.ok (), _) := interrupted_call_ok hfault hscript
      obtain ⟨result, s', hrun, hkeeps, hends⟩ := @noted_ends u migration
        { s.counted.define (catalogBehind (u + 1)) with
          connection := { s.counted.connection with tables } } env ran hu rfl
      refine ⟨result, s', (Program.run_except_bind_ok hdefine).trans hrun,
        ⟨hkeeps.saved, hkeeps.savedHeader⟩, ?_⟩
      change (result = .ok () ∧ (∀ n < 3, env.fault (s.connection.calls + 1 + n) = none)
        ∧ s'.connection.calls = s.connection.calls + 1 + 3 ∧ s'.header.Standing (u + 1)
        ∨ ∃ e, result = .error e ∧ ∃ n < 3,
          (∀ k < n, env.fault (s.connection.calls + 1 + k) = none)
          ∧ env.fault (s.connection.calls + 1 + n) ≠ none
          ∧ s'.connection.calls = s.connection.calls + 1 + n + 1) at hends
      have hbefore : ∀ m, (∀ k < m, env.fault (s.connection.calls + 1 + k) = none) →
          ∀ k < m + 1, env.fault (s.connection.calls + k) = none := by
        intro m hm k hk
        cases k with
        | zero => exact hfault
        | succ k =>
            rw [Nat.add_comm k, ← Nat.add_assoc]
            exact hm k (by omega)
      rcases hends with ⟨rfl, hfaults, hcalls, hstands⟩ | ⟨e, rfl, n, hn, hfaults, hfault', hcalls⟩
      · exact .done (hbefore 3 hfaults) hcalls hstands
      · refine .failed (n + 1) (by omega) (hbefore n hfaults) ?_ ?_
        · rwa [Nat.add_comm n, ← Nat.add_assoc]
        · rw [hcalls]
          omega

/-! ### One migration -/

/-- No transaction is open, and the header is that of some version. -/
structure Store.Resting (s : Store) (u : Nat) : Prop where
  saved : s.connection.saved = none
  savedHeader : s.savedHeader = none
  stands : s.header.Standing u

/-- A transaction is open behind some version. -/
structure Store.Suspended (s : Store) (u : Nat) : Prop where
  saved : ∃ tables, s.connection.saved = some tables
  savedHeader : ∃ header, s.savedHeader = some header ∧ header.Standing u

/-- Without its transaction a migration fails behind its BEGIN, the call number `first`. -/
def Environment.Unguarded (env : Environment) (first : Nat) : Prop :=
  env.fault first ≠ none ∧ ∃ n, 1 ≤ n ∧ n ≤ 4 ∧ env.fault (first + n) ≠ none

/-- The COMMIT of a migration fails, or the ROLLBACK behind a statement that fails. -/
def Environment.LeavesOpen (env : Environment) (first : Nat) : Prop :=
  env.fault first = none ∧ ∃ n, 1 ≤ n ∧ n ≤ 5 ∧ (∀ k, 1 ≤ k → k < n → env.fault (first + k) = none)
    ∧ env.fault (first + n) ≠ none ∧ (n ≤ 4 → env.fault (first + n + 1) ≠ none)

/-- How a migration ends. -/
inductive MigrationEnds (env : Environment) (u : Nat) (s : Store) : Result Unit → Store → Prop
  | applied {s' : Store} (faults : ∀ n < 6, env.fault (s.connection.calls + n) = none)
      (calls : s'.connection.calls = s.connection.calls + 6) (rests : s'.Resting (u + 1)) :
      MigrationEnds env u s (.ok ()) s'
  | settled {s' : Store} {e : Error} (fault : ∃ n, env.fault n ≠ none)
      (rests : s'.Resting u ∨ s'.Resting (u + 1)) : MigrationEnds env u s (.error e) s'
  | suspended {s' : Store} {e : Error} (fault : env.LeavesOpen s.connection.calls)
      (pending : s'.Suspended u) : MigrationEnds env u s (.error e) s'

theorem begin_interrupted (hauto : s.connection.saved = none)
    (hfault : env.fault s.connection.calls = none) :
    (Setup.repository (attempt (exec .beginImmediate))).run.run (interruptedHandler env ran) s
      = some (.ok (.ok ()), s.begun) :=
  (interrupted_repository _ s).trans (repository_attempt_run (begin_run hauto hfault))

theorem begin_interrupted_fault {failure : Failure}
    (hfault : env.fault s.connection.calls = some failure) :
    ∃ e, (Setup.repository (attempt (exec .beginImmediate))).run.run (interruptedHandler env ran) s
      = some (.ok (.error e), s.counted) :=
  ⟨_, (interrupted_repository _ s).trans (repository_attempt_run (exec_run_fault hfault))⟩

theorem rollback_interrupted_fault {failure : Failure}
    (hfault : env.fault s.connection.calls = some failure) :
    (Setup.repository (rollback true)).run.run (interruptedHandler env ran) s
      = some (.ok (), s.counted) :=
  (interrupted_repository _ s).trans (rollback_run (exec_run_fault hfault))

section Parts

variable {s₁ s₂ : Store} {begun : Result Unit}

theorem applyMigration_done
    (hbegin : (Setup.repository (attempt (exec .beginImmediate))).run.run
      (interruptedHandler env ran) s = some (.ok begun, s₁))
    (hbody : (migrationBody migration).run.run (interruptedHandler env ran) s₁
      = some (.ok (), s₂)) :
    (applyMigration migration).run.run (interruptedHandler env ran) s
      = (Setup.repository (commit begun.toBool)).run.run (interruptedHandler env ran) s₂ :=
  (Program.run_except_bind_ok hbegin).trans (Program.run_except_bind_ok (attempt_run_store hbody))

theorem applyMigration_failed {e : Error}
    (hbegin : (Setup.repository (attempt (exec .beginImmediate))).run.run
      (interruptedHandler env ran) s = some (.ok begun, s₁))
    (hbody : (migrationBody migration).run.run (interruptedHandler env ran) s₁
      = some (.error e, s₂))
    (hrollback : (Setup.repository (rollback begun.toBool)).run.run (interruptedHandler env ran) s₂
      = some (.ok (), s')) :
    (applyMigration migration).run.run (interruptedHandler env ran) s = some (.error e, s') :=
  (Program.run_except_bind_ok hbegin).trans
    ((Program.run_except_bind_ok (attempt_run_store hbody)).trans
      (Program.run_except_bind_ok hrollback))

end Parts

/-- A migration whose BEGIN succeeds. -/
theorem applyMigration_guarded (hu : Follows u migration) (hrests : s.Resting u)
    (hbegin : env.fault s.connection.calls = none) :
    ∃ result s', (applyMigration migration).run.run (interruptedHandler env ran) s
        = some (result, s') ∧ MigrationEnds env u s result s' := by
  have hbegun := @begin_interrupted s env ran hrests.saved hbegin
  obtain ⟨result, s₁, hbody, hkeeps, hends⟩ :=
    @migrationBody_ends u migration s.begun env ran hu hrests.stands.catalog
  have hsaved : s₁.connection.saved = some s.connection.tables := hkeeps.saved
  have hheader : s₁.savedHeader = some s.header := hkeeps.savedHeader
  have hfirst : s.begun.connection.calls = s.connection.calls + 1 := rfl
  cases hends with
  | done faults calls stands =>
      rw [hfirst] at faults calls
      have hfaults : ∀ k, 1 ≤ k → k < 5 → env.fault (s.connection.calls + k) = none := by
        intro k hlow hhigh
        have hk := faults (k - 1) (by omega)
        rwa [Nat.add_assoc, Nat.add_sub_cancel' hlow] at hk
      cases hcommit : env.fault (s.connection.calls + 5) with
      | none =>
          refine ⟨.ok (), s₁.committed, (applyMigration_done hbegun hbody).trans
            ((interrupted_repository _ s₁).trans ((commit_iff hsaved).mpr ⟨?_, rfl⟩)), ?_⟩
          · rw [calls]
            exact hcommit
          · refine .applied ?_ ?_ ⟨rfl, rfl, stands⟩
            · intro n hn
              rcases Nat.eq_zero_or_pos n with rfl | hpos
              · exact hbegin
              · by_cases hlast : n = 5
                · rwa [hlast]
                · exact hfaults n hpos (by omega)
            · change s₁.connection.calls + 1 = _
              rw [calls]
      | some failure =>
          refine ⟨_, _, (applyMigration_done hbegun hbody).trans
            ((interrupted_repository _ s₁).trans (@exec_run_fault true env s₁ .commit failure ?_)), ?_⟩
          · rw [calls]
            exact hcommit
          · refine .suspended ⟨hbegin, 5, by omega, by omega, hfaults, ?_, by omega⟩
              ⟨⟨_, hsaved⟩, _, hheader, hrests.stands⟩
            rw [hcommit]
            exact Option.some_ne_none failure
  | @failed _ e n lt before fault calls =>
      rw [hfirst] at before fault calls
      have hshift : ∀ k, s.connection.calls + 1 + k = s.connection.calls + (k + 1) := by omega
      have hnext : s₁.connection.calls = s.connection.calls + (n + 1) + 1 := by omega
      rw [hshift] at fault
      cases hrollback : env.fault (s.connection.calls + (n + 1) + 1) with
      | none =>
          have hback : (Setup.repository (rollback true)).run.run (interruptedHandler env ran) s₁
              = some (.ok (), s₁.rolledBack s.connection.tables) :=
            (interrupted_repository _ s₁).trans (rollback_run_ok hsaved (by rw [hnext, hrollback]))
          refine ⟨_, _, applyMigration_failed hbegun hbody hback, .settled ⟨_, fault⟩ (.inl ?_)⟩
          refine ⟨rfl, rfl, ?_⟩
          change (s₁.savedHeader.getD s₁.header).Standing u
          rw [hheader]
          exact hrests.stands
      | some failure =>
          have hstuck : (Setup.repository (rollback true)).run.run (interruptedHandler env ran) s₁
              = some (.ok (), s₁.counted) :=
            rollback_interrupted_fault (by rw [hnext, hrollback])
          refine ⟨_, _, applyMigration_failed hbegun hbody hstuck, .suspended
            ⟨hbegin, n + 1, by omega, by omega, ?_, fault, ?_⟩ ⟨⟨_, hsaved⟩, _, hheader,
              hrests.stands⟩⟩
          · intro k hlow hhigh
            have hk := before (k - 1) (by omega)
            rwa [hshift, Nat.sub_add_cancel hlow] at hk
          · intro _
            rw [hrollback]
            exact Option.some_ne_none failure

/-- A migration whose BEGIN fails, and nothing else. Every statement is a transaction of its own. -/
theorem applyMigration_unguarded (hu : Follows u migration) (hrests : s.Resting u)
    (hbegin : env.fault s.connection.calls ≠ none) (hguarded : ¬env.Unguarded s.connection.calls) :
    ∃ result s', (applyMigration migration).run.run (interruptedHandler env ran) s
        = some (result, s') ∧ MigrationEnds env u s result s' := by
  obtain ⟨failure, hfault⟩ := Option.ne_none_iff_exists'.mp hbegin
  obtain ⟨e, hbegun⟩ := @begin_interrupted_fault s env ran failure hfault
  obtain ⟨result, s₁, hbody, hkeeps, hends⟩ :=
    @migrationBody_ends u migration s.counted env ran hu hrests.stands.catalog
  have hsaved : s₁.connection.saved = none := hkeeps.saved.trans hrests.saved
  have hheader : s₁.savedHeader = none := hkeeps.savedHeader.trans hrests.savedHeader
  have hfirst : s.counted.connection.calls = s.connection.calls + 1 := rfl
  cases hends with
  | done faults calls stands =>
      exact ⟨_, s₁, applyMigration_done hbegun hbody, .settled ⟨_, hbegin⟩
        (.inr ⟨hsaved, hheader, stands⟩)⟩
  | failed n lt before fault calls =>
      refine absurd ⟨hbegin, n + 1, by omega, by omega, ?_⟩ hguarded
      rwa [hfirst, Nat.add_assoc, Nat.add_comm 1] at fault

theorem applyMigration_ends (hu : Follows u migration) (hrests : s.Resting u)
    (hguarded : ¬env.Unguarded s.connection.calls) :
    ∃ result s', (applyMigration migration).run.run (interruptedHandler env ran) s
        = some (result, s') ∧ MigrationEnds env u s result s' := by
  by_cases hbegin : env.fault s.connection.calls = none
  · exact applyMigration_guarded hu hrests hbegin
  · exact applyMigration_unguarded hu hrests hbegin hguarded

end Single

/-! ### One call -/

/-- No migration of the call goes on without its transaction when a statement fails, and the
connection is closed if a transaction stays open. The migrations before are applied without fault. -/
def MigrateCall.Careful (call : MigrateCall) (version : Int32) : Prop :=
  ∀ i : Nat, version.toInt + i < 3 → (∀ n < 2 + 6 * i, call.env.fault n = none) →
    ¬call.env.Unguarded (2 + 6 * i) ∧ (call.env.LeavesOpen (2 + 6 * i) → call.closes = true)

section Calls

variable {call : MigrateCall} {u : Nat} {s : Store}

/-- How a call ends. -/
inductive CallEnds (call : MigrateCall) : Result Unit → Store → Prop
  | done {s' : Store} (rests : s'.Resting 3) : CallEnds call (.ok ()) s'
  | settled {s' : Store} {e : Error} {v : Nat} (fault : ∃ n, call.env.fault n ≠ none) (le : v ≤ 3)
      (rests : s'.Resting v) : CallEnds call (.error e) s'
  | suspended {s' : Store} {e : Error} {v : Nat} (fault : ∃ n, call.env.fault n ≠ none) (le : v ≤ 3)
      (pending : s'.Suspended v) (closes : call.closes = true) : CallEnds call (.error e) s'

theorem follows_of_lt (h : u < 3) : ∃ migration, Follows u migration
    ∧ migrations.drop u = migration :: migrations.drop (u + 1) := by
  interval_cases u
  · exact ⟨_, .first, rfl⟩
  · exact ⟨_, .second, rfl⟩
  · exact ⟨_, .third, rfl⟩

/-- The migrations that are left, by induction on their number. -/
theorem migrateFrom_ends (left : Nat) (hleft : u + left = 3) (hrests : s.Resting u) {i : Nat}
    (hcalls : s.connection.calls = 2 + 6 * i) (hnone : ∀ n < 2 + 6 * i, call.env.fault n = none)
    (hcareful : ∀ j, i ≤ j → j < i + left → (∀ n < 2 + 6 * j, call.env.fault n = none) →
      ¬call.env.Unguarded (2 + 6 * j) ∧ (call.env.LeavesOpen (2 + 6 * j) → call.closes = true)) :
    ∃ result s', ((migrations.drop u).forM applyMigration).run.run
        (interruptedHandler call.env call.ran) s = some (result, s')
      ∧ CallEnds call result s' := by
  induction left generalizing u s i with
  | zero =>
      obtain rfl : u = 3 := hleft
      exact ⟨.ok (), s, rfl, .done hrests⟩
  | succ left ih =>
      obtain ⟨migration, hfollows, hdrop⟩ := follows_of_lt (u := u) (by omega)
      obtain ⟨hguarded, hcloses⟩ := hcareful i (Nat.le_refl i) (by omega) hnone
      rw [← hcalls] at hguarded hcloses
      obtain ⟨result, s₁, hrun, hends⟩ :=
        @applyMigration_ends u migration s call.env call.ran hfollows hrests hguarded
      have hcons : (migrations.drop u).forM applyMigration
          = applyMigration migration >>= fun _ => (migrations.drop (u + 1)).forM applyMigration := by
        rw [hdrop]
        rfl
      rw [hcons]
      cases hends with
      | applied faults calls rests =>
          rw [Program.run_except_bind_ok hrun]
          have hnext : 2 + 6 * (i + 1) = 2 + 6 * i + 6 := by ring
          refine @ih (u + 1) s₁ (by omega) rests (i + 1) (by omega) ?_ ?_
          · intro n hn
            by_cases hlt : n < 2 + 6 * i
            · exact hnone n hlt
            · have hfault := faults (n - (2 + 6 * i)) (by omega)
              rwa [hcalls, Nat.add_sub_cancel' (by omega)] at hfault
          · intro j hlow hhigh
            exact hcareful j (by omega) (by omega)
      | settled fault rests =>
          rw [Program.run_except_bind_error hrun]
          rcases rests with hbefore | hbehind
          · exact ⟨_, _, rfl, .settled fault (by omega) hbefore⟩
          · exact ⟨_, _, rfl, .settled fault (by omega) hbehind⟩
      | suspended fault pending =>
          rw [Program.run_except_bind_error hrun]
          have hfault : ∃ n, call.env.fault n ≠ none := by
            obtain ⟨-, n, -, -, -, hn, -⟩ := fault
            exact ⟨_, hn⟩
          exact ⟨_, _, rfl, .suspended hfault (by omega) pending (hcloses fault)⟩

theorem pending_from (h : u ≤ 3) :
    (migrations.forM fun migration : Migration =>
        if migration.version ≤ Int32.ofNat u then (pure () : Setup Unit)
        else applyMigration migration)
      = (migrations.drop u).forM applyMigration := by
  interval_cases u <;> rfl

theorem toInt_version (h : u ≤ 3) : (Int32.ofNat u).toInt = u := by
  interval_cases u <;> rfl

theorem Store.Resting.recounted (h : s.Resting u) : s.recounted.Resting u :=
  ⟨h.saved, h.savedHeader, h.stands⟩

theorem migrate_ends (hle : u ≤ 3) (hrests : s.Resting u)
    (hcareful : call.Careful s.header.userVersion) :
    ∃ result s', migrate.run.run (interruptedHandler call.env call.ran) s.recounted
        = some (result, s') ∧ CallEnds call result s' := by
  cases hfault₀ : call.env.fault 0 with
  | some failure =>
      have hprepare := @interrupted_call_fault s.recounted call.env call.ran "prepare failed"
        "storage.prepare" (.prepare []) failure hfault₀ (fun _ h => by cases h)
      exact ⟨_, _, Program.run_except_bind_error (Program.run_except_bind_error hprepare),
        .settled ⟨0, Option.ne_none_iff_exists'.mpr ⟨failure, hfault₀⟩⟩ hle
          ⟨hrests.saved, hrests.savedHeader, hrests.stands⟩⟩
  | none =>
      have hprepare : (Setup.call "prepare failed" "storage.prepare" (.prepare [])).run.run
          (interruptedHandler call.env call.ran) s.recounted = some (.ok (), s.recounted.counted) :=
        interrupted_call_ok hfault₀ rfl
      cases hfault₁ : call.env.fault 1 with
      | some failure =>
          have hstep := @interrupted_call_fault s.recounted.counted call.env call.ran "step failed"
            "storage.statement" .userVersion failure hfault₁ (fun _ h => by cases h)
          have hversion : userVersion.run.run (interruptedHandler call.env call.ran) s.recounted
              = some (.error _, _) := (Program.run_except_bind_ok hprepare).trans hstep
          exact ⟨_, _, Program.run_except_bind_error hversion,
            .settled ⟨1, Option.ne_none_iff_exists'.mpr ⟨failure, hfault₁⟩⟩ hle
              ⟨hrests.saved, hrests.savedHeader, hrests.stands⟩⟩
      | none =>
          have hstep : (Setup.call "step failed" "storage.statement" .userVersion).run.run
              (interruptedHandler call.env call.ran) s.recounted.counted
                = some (.ok s.header.userVersion, s.recounted.counted.counted) :=
            interrupted_call_ok hfault₁ rfl
          have hversion : userVersion.run.run (interruptedHandler call.env call.ran) s.recounted
              = some (.ok s.header.userVersion, s.recounted.counted.counted) :=
            (Program.run_except_bind_ok hprepare).trans hstep
          have hloop : migrate.run.run (interruptedHandler call.env call.ran) s.recounted
              = ((migrations.drop u).forM applyMigration).run.run
                (interruptedHandler call.env call.ran) s.recounted.counted.counted := by
            rw [← pending_from hle, ← hrests.stands.version]
            exact Program.run_except_bind_ok hversion
          rw [hloop]
          refine @migrateFrom_ends call u s.recounted.counted.counted (3 - u) (by omega)
            ⟨hrests.saved, hrests.savedHeader, hrests.stands⟩ 0 rfl ?_ ?_
          · intro n hn
            interval_cases n
            · exact hfault₀
            · exact hfault₁
          · intro j _ hj hnone
            refine hcareful j ?_ hnone
            rw [hrests.stands.version, toInt_version hle]
            omega

/-- What the file is behind a call, and that nobody holds a transaction open. -/
theorem MigrateCall.run_rests (hle : u ≤ 3) (hrests : s.Resting u)
    (hcareful : call.Careful s.header.userVersion) :
    ∃ result s', call.run s = some (result, s') ∧ (∃ v ≤ 3, s'.Resting v ∧ (result = .ok () → v = 3))
      ∧ ((∀ n, call.env.fault n = none) → result = .ok ()) := by
  obtain ⟨result, s₁, hrun, hends⟩ := migrate_ends hle hrests hcareful
  refine ⟨result, if call.closes then s₁.reopened else s₁, by rw [MigrateCall.run, hrun]; rfl, ?_⟩
  have hclosed : ∀ {v}, s₁.Resting v → (if call.closes then s₁.reopened else s₁).Resting v := by
    intro v h
    split
    · refine ⟨rfl, rfl, ?_⟩
      change (s₁.savedHeader.getD s₁.header).Standing v
      rw [h.savedHeader]
      exact h.stands
    · exact h
  have hfaulty : (∃ n, call.env.fault n ≠ none) → ¬∀ n, call.env.fault n = none := by
    rintro ⟨n, hn⟩ hnone
    exact hn (hnone n)
  cases hends with
  | done rests => exact ⟨⟨3, Nat.le_refl 3, hclosed rests, fun _ => rfl⟩, fun _ => rfl⟩
  | @settled _ e v fault le rests =>
      exact ⟨⟨v, le, hclosed rests, fun h => by cases h⟩, fun h => absurd h (hfaulty fault)⟩
  | @suspended _ e v fault le pending closes =>
      refine ⟨⟨v, le, ?_, fun h => by cases h⟩, fun h => absurd h (hfaulty fault)⟩
      rw [if_pos closes]
      refine ⟨rfl, rfl, ?_⟩
      obtain ⟨header, hheader, hstands⟩ := pending.savedHeader
      change (s₁.savedHeader.getD s₁.header).Standing v
      rw [hheader]
      exact hstands

/-! ### Runs of calls -/

/-- Every call is careful at the version that it finds. -/
def CarefulCalls : List MigrateCall → Store → Prop
  | [], _ => True
  | call :: rest, s => call.Careful s.header.userVersion
      ∧ ∀ result s', call.run s = some (result, s') → CarefulCalls rest s'

theorem afterCalls_rests {calls : List MigrateCall} (hle : u ≤ 3) (hrests : s.Resting u)
    (hcareful : CarefulCalls calls s) :
    ∃ s', afterCalls calls s = some s' ∧ ∃ v ≤ 3, s'.Resting v := by
  induction calls generalizing s u with
  | nil => exact ⟨s, rfl, u, hle, hrests⟩
  | cons call rest ih =>
      obtain ⟨result, s₁, hrun, ⟨v, hv, hrests₁, -⟩, -⟩ := MigrateCall.run_rests hle hrests hcareful.1
      obtain ⟨s', hafter, hs'⟩ := ih hv hrests₁ (hcareful.2 result s₁ hrun)
      refine ⟨s', ?_, hs'⟩
      rw [afterCalls, hrun]
      exact hafter

theorem Store.Resting.committed (h : s.Resting u) : s.committedHeader.Standing u := by
  rw [Store.committedHeader, h.savedHeader]
  exact h.stands

/-- **Migrations are resumable**, unless one goes on without its transaction or leaves it open. -/
theorem migrations_resume {calls : List MigrateCall} (hle : u ≤ 3) (hrests : s.Resting u)
    (hcareful : CarefulCalls calls s) :
    ∃ s', afterCalls calls s = some s' ∧ (∃ v ≤ 3, s'.committedHeader.Standing v)
      ∧ (∀ call : MigrateCall, call.Careful s'.header.userVersion → ∃ result s'',
          call.run s' = some (result, s'') ∧ (∃ v ≤ 3, s''.committedHeader.Standing v)
            ∧ (result = .ok () → s''.committedHeader.Standing 3))
      ∧ ∀ call : MigrateCall, (∀ n, call.env.fault n = none) →
          ∃ s'', call.run s' = some (.ok (), s'') ∧ s''.committedHeader.Standing 3 := by
  obtain ⟨s', hafter, v, hv, hrests'⟩ := afterCalls_rests hle hrests hcareful
  refine ⟨s', hafter, ⟨v, hv, hrests'.committed⟩, fun call hcall => ?_, fun call hnone => ?_⟩
  · obtain ⟨result, s'', hrun, ⟨w, hw, hrests'', hdone⟩, -⟩ :=
      MigrateCall.run_rests hv hrests' hcall
    refine ⟨result, s'', hrun, ⟨w, hw, hrests''.committed⟩, fun hok => ?_⟩
    rw [← hdone hok]
    exact hrests''.committed
  · have hcall : call.Careful s'.header.userVersion := by
      intro i _ _
      refine ⟨fun h => h.1 (hnone _), ?_⟩
      rintro ⟨-, n, -, -, -, hn, -⟩
      exact absurd (hnone _) hn
    obtain ⟨result, s'', hrun, ⟨w, -, hrests'', hdone⟩, hok⟩ :=
      MigrateCall.run_rests hv hrests' hcall
    obtain rfl := hok hnone
    rw [hdone rfl] at hrests''
    exact ⟨s'', hrun, hrests''.committed⟩

end Calls

/-- A file without tables, and calls with some faults. -/
def faulty (faults : List Nat) : Environment where
  fault n := if n ∈ faults then some ⟨10, str "disk I/O error"⟩ else none

theorem fault_faulty {faults : List Nat} {n : Nat} : (faulty faults).fault n = none ↔ n ∉ faults := by
  simp [faulty]

/-- The BEGIN of the first migration fails in the first call, and the COMMIT of the next one in the
second call. -/
theorem migrations_resume_twoFaults : ∃ s,
    afterCalls [{ env := faulty [2] }, { env := faulty [7] }] emptyStore = some s
      ∧ (∃ v ≤ 3, s.committedHeader.Standing v)
      ∧ (∀ call : MigrateCall, call.Careful s.header.userVersion → ∃ result s',
          call.run s = some (result, s') ∧ (∃ v ≤ 3, s'.committedHeader.Standing v)
            ∧ (result = .ok () → s'.committedHeader.Standing 3))
      ∧ ∀ call : MigrateCall, (∀ n, call.env.fault n = none) →
          ∃ s', call.run s = some (.ok (), s') ∧ s'.committedHeader.Standing 3 := by
  have hcareful : ∀ m version, m = 2 ∨ m = 7 →
      MigrateCall.Careful { env := faulty [m] } version := by
    intro m version hm i _ hnone
    refine ⟨?_, fun _ => rfl⟩
    rintro ⟨hbegin, n, hlow, -, hn⟩
    rw [Ne, fault_faulty, List.mem_singleton, not_not] at hbegin hn
    omega
  refine migrations_resume (Nat.zero_le 3) ⟨rfl, rfl, rfl, rfl⟩ ⟨hcareful 2 _ (.inl rfl), ?_⟩
  intro _ _ _
  exact ⟨hcareful 7 _ (.inr rfl), fun _ _ _ => trivial⟩

/-- A file with two migrations. -/
def searchableStore : Store :=
  { emptyStore with header := { catalog := searchableCatalog, userVersion := 2 } }

/-- The third migration runs without a transaction and fails behind its first statement. -/
def halfDone : MigrateCall := { env := faulty [2, 3], ran := fun _ => 1 }

/-- One column of the third migration stays in the file. -/
theorem not_resumable_halfDone :
    ¬ ∀ (u : Nat) (s : Store) (calls : List MigrateCall), u ≤ 3 → s.Resting u →
      ∃ s', afterCalls calls s = some s' ∧ (∃ v ≤ 3, s'.committedHeader.Standing v)
        ∧ (∀ call : MigrateCall, ∃ result s'', call.run s' = some (result, s'')
            ∧ (∃ v ≤ 3, s''.committedHeader.Standing v)
            ∧ (result = .ok () → s''.committedHeader.Standing 3))
        ∧ ∀ call : MigrateCall, (∀ n, call.env.fault n = none) →
            ∃ s'', call.run s' = some (.ok (), s'') ∧ s''.committedHeader.Standing 3 := by
  intro h
  have hstarts : searchableStore.Resting 2 := ⟨rfl, rfl, rfl, catalogBehind_two.symm⟩
  obtain ⟨s, hafter, ⟨v, hv, hversion, hcatalog⟩, -⟩ :=
    h 2 searchableStore [halfDone] (by omega) hstarts
  have hleft : (afterCalls [halfDone] searchableStore).all (fun s =>
      s.committedHeader.userVersion = 2
        ∧ (s.committedHeader.catalog.table "tabs").any (·.columns.length = 20)) = true := by
    decide
  rw [hafter] at hleft
  obtain ⟨hleftVersion, hcolumns⟩ := of_decide_eq_true hleft
  have htwo : v = 2 := by
    rw [hversion] at hleftVersion
    interval_cases v
    · cases hleftVersion
    · cases hleftVersion
    · rfl
    · cases hleftVersion
  rw [hcatalog, htwo, catalogBehind_two] at hcolumns
  cases hcolumns

end ContextSnap.Storage
