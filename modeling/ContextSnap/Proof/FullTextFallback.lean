import ContextSnap.Proof.Migrations

/-!
# SQLite without full-text search

The repository has a way around a missing search index, but a new file never gets that far: opening
it fails in the migration that creates the index.
-/

namespace ContextSnap.Storage

open Sql

/-! ### Sessions -/

/-- A call on a repository, and what was stored before. -/
structure SessionCall where
  before : Store
  operation : Operation
  result : Result operation.Output

/-- One call after the other. A call that never returns is the last. -/
def sessionCalls (fts5 : Bool) (env : Environment) : List Operation → Store → List SessionCall
  | [], _ => []
  | operation :: rest, s =>
      match (Setup.repository operation.call).run.run (storeHandler fts5 env) s with
      | none => []
      | some (result, s') => ⟨s, operation, result⟩ :: sessionCalls fts5 env rest s'

/-- The opening of a new file and the calls on the repository, if there is one. -/
def session (fts5 : Bool) (env : Environment) (options : DatabaseOptions)
    (operations : List Operation) : Option (Result Unit × List SessionCall) :=
  ((openRepository options).run.run (storeHandler fts5 env) emptyStore).map fun opened =>
    (opened.1, if opened.1.toBool then sessionCalls fts5 env operations opened.2 else [])

/-- The operations whose results the index is not to matter for. -/
def Operation.Independent : Operation → Prop
  | .insert _ | .load _ | .list _ | .remove _ | .prune _ | .count | .tags => True
  | _ => False

/-- The snapshots whose name contains a text. -/
def namesLike (query : Bytes) (limit : UInt64) (tables : Tables Table) : List SnapshotSummary :=
  (selectNameLike.rows tables [.text (str "%" ++ query ++ str "%"), bindUInt64 limit]).map
    summaryFromRow

/-- A call with the index and the same call without it. -/
inductive SessionCall.Degrades : SessionCall → SessionCall → Prop where
  | same {before before' : Store} {operation : Operation} {result : Result operation.Output}
      (h : operation.Independent) : Degrades ⟨before, operation, result⟩ ⟨before', operation, result⟩
  | search {before before' : Store} {query : Bytes} {limit : UInt64}
      {result : Result (List SnapshotSummary)} :
      Degrades ⟨before, .search query limit, result⟩
        ⟨before', .search query limit, .ok (namesLike query limit before'.connection.tables)⟩
  | other {before before' : Store} {operation : Operation} {result result' : Result operation.Output}
      (h : ¬operation.Independent) (hsearch : ∀ query limit, operation ≠ .search query limit) :
      Degrades ⟨before, operation, result⟩ ⟨before', operation, result'⟩

/-- Without the module everything goes on as with it, only that searches look at the names. -/
def Degrades (env : Environment) (options : DatabaseOptions) (operations : List Operation) : Prop :=
  ∃ opened calls calls', session true env options operations = some (opened, calls)
    ∧ session false env options operations = some (opened, calls')
    ∧ List.Forall₂ SessionCall.Degrades calls calls'

/-! ### What both builds do alike -/

section Alike

variable {env : Environment} {s : Store} {α β : Type}

def Alike (env : Environment) (program : Setup α) (s : Store) : Prop :=
  program.run.run (storeHandler true env) s = program.run.run (storeHandler false env) s

theorem Alike.bind {program : Setup α} {next : α → Setup β} (h : Alike env program s)
    (hnext : ∀ value s', program.run.run (storeHandler true env) s = some (.ok value, s') →
      Alike env (next value) s') : Alike env (program >>= next) s := by
  unfold Alike
  rw [Program.run_except_bind, Program.run_except_bind, ← h]
  apply Option.bind_congr
  rintro ⟨result, s'⟩ hrun
  cases result with
  | error e => rfl
  | ok value => exact hnext value s' hrun

theorem Alike.attempt {program : Setup α} (h : Alike env program s) :
    Alike env (Setup.attempt program) s := by
  have hattempt : (Setup.attempt program).run
      = program.run >>= fun result => pure (.ok result) := rfl
  unfold Alike
  rw [hattempt, Program.run_bind, Program.run_bind, h]
  rfl

theorem Alike.call {what context : String} {call : SetupCall}
    (h : env.fault s.connection.calls = none →
      runSetup true call s.counted = runSetup false call s.counted) :
    Alike env (Setup.call what context call) s := by
  have hsame : storeCall env s (runSetup true call) = storeCall env s (runSetup false call) := by
    cases hfault : env.fault s.connection.calls with
    | some failure => rw [storeCall_fault hfault, storeCall_fault hfault]
    | none => rw [storeCall_ok hfault, storeCall_ok hfault, h hfault]
  unfold Alike
  rw [call_run, call_run, hsame]

theorem Alike.repository {program : Repo α}
    (h : AllOps (fun op => ∀ tables, op ≠ .prepare tables) program) (s : Store) :
    Alike env (Setup.repository program) s := by
  unfold Alike
  rw [repository_run, repository_run]
  apply Program.All.run_congr _ h
  intro op s hop
  cases op with
  | prepare tables => exact absurd rfl (hop tables)
  | _ => rfl

theorem allOps_rollback (active : Bool) :
    AllOps (fun op => ∀ tables, op ≠ .prepare tables) (rollback active) := by
  unfold rollback
  split
  · exact (allOps_exec fun _ h => by cases h).attempt.discard
  · exact AllOps.pure _

theorem allOps_commit (active : Bool) :
    AllOps (fun op => ∀ tables, op ≠ .prepare tables) (commit active) := by
  unfold commit
  split
  · exact allOps_exec fun _ h => by cases h
  · exact AllOps.throw _

/-- A BEGIN counts as a call even if it fails, which goes unnoticed. -/
theorem begin_returns (fts5 : Bool) (env : Environment) (hauto : s.connection.saved = none) :
    ∃ begun s', (Setup.repository (Storage.attempt (exec .beginImmediate))).run.run
        (storeHandler fts5 env) s = some (.ok begun, s')
      ∧ s'.header = s.header ∧ s'.connection.calls = s.connection.calls + 1 := by
  cases hfault : env.fault s.connection.calls with
  | some failure => exact ⟨_, _, repository_attempt_run (exec_run_fault hfault), rfl, rfl⟩
  | none => exact ⟨_, _, repository_attempt_run (begin_run hauto hfault), rfl, rfl⟩

theorem Alike.applyMigration {migration : Migration} (hauto : s.connection.saved = none)
    (hbody : ∀ s', s'.header = s.header → s'.connection.calls = s.connection.calls + 1 →
      Alike env (migrationBody migration) s') : Alike env (applyMigration migration) s := by
  obtain ⟨begun, s', hbegun, hheader, hcalls⟩ := begin_returns true env hauto
  apply Alike.bind (Alike.repository (allOps_exec fun _ h => by cases h).attempt s)
  intro begun s' hrun
  cases hbegun.symm.trans hrun
  apply Alike.bind (hbody s' hheader hcalls).attempt
  intro result s'' _
  cases result with
  | ok _ => exact Alike.repository (allOps_commit _) _
  | error e => exact (Alike.repository (allOps_rollback _) _).bind fun _ _ _ => rfl

/-- Nothing in the first migration needs the module. -/
theorem alike_001 {s : Store} (hauto : s.connection.saved = none) (hempty : s.header.catalog = []) :
    Alike env (applyMigration migration001) s := by
  apply Alike.applyMigration hauto
  intro s' hheader _
  have hcatalog : s'.counted.header.catalog = [] := by
    rw [← hempty, ← hheader]
    rfl
  have hdefines : ∀ fts5, runSetup fts5 (.define migration001.sql) s'.counted
      = (.ok (), s'.counted.define initialCatalog) := fun fts5 => @k001_run fts5 _ hcatalog
  apply Alike.bind (Alike.call fun _ => (hdefines true).trans (hdefines false).symm)
  intro _ s₁ hdefined
  cases (hdefines true).symm.trans (call_iff.mp hdefined).2
  apply Alike.bind (Alike.call fun _ => rfl)
  intro _ s₂ _
  apply Alike.bind (Alike.repository (AllOps.ask fun _ h => by cases h) _)
  intro now s₃ _
  exact (Alike.call fun _ => rfl).bind fun _ _ _ => Alike.call fun _ => rfl

/-- A migration whose script goes wrong by itself. -/
theorem alike_of_fault {migration : Migration} (hauto : s.connection.saved = none)
    (hfault : env.fault (s.connection.calls + 1) ≠ none) :
    Alike env (applyMigration migration) s := by
  apply Alike.applyMigration hauto
  intro s' _ hcalls
  rw [← hcalls] at hfault
  apply Alike.bind (Alike.call fun hworks => absurd hworks hfault)
  intro _ s₁ hdefined
  exact absurd (call_iff.mp hdefined).1 hfault

theorem alike_openDatabase (options : DatabaseOptions) (s : Store) :
    Alike env (openDatabase options) s :=
  Alike.bind (Alike.call fun _ => rfl) fun _ _ _ => Alike.call fun _ => rfl

theorem alike_userVersion (s : Store) : Alike env userVersion s :=
  Alike.bind (Alike.call fun _ => rfl) fun _ _ _ => Alike.call fun _ => rfl

/-- What is wrong before the module matters: SQLite may not create the file, or a call fails up to
the script of the second migration. The eleventh call is its BEGIN, whose failure goes unnoticed. -/
def FailsEarly (env : Environment) (options : DatabaseOptions) : Prop :=
  options.creates = false ∨ ∃ n < 12, n ≠ 10 ∧ env.fault n ≠ none

theorem alike_openRepository {options : DatabaseOptions} (h : FailsEarly env options) :
    Alike env (openRepository options) emptyStore := by
  apply Alike.bind (alike_openDatabase options _)
  intro _ s₁ hopen
  obtain ⟨hcreates, hfaults₁, rfl⟩ := openDatabase_iff.mp hopen
  apply Alike.bind (alike_userVersion _)
  intro current s₂ hversion
  obtain ⟨hfaults₂, rfl, rfl⟩ := userVersion_iff.mp hversion
  change Alike env (migrations.forM fun migration : Migration =>
    if migration.version ≤ 0 then (pure () : Setup Unit) else applyMigration migration) connected
  rw [pending_migrations]
  apply Alike.bind (alike_001 rfl rfl)
  intro _ s₃ hfirst
  obtain ⟨hfaults₃, rfl⟩ := applyMigration_001.mp hfirst
  have hfault : env.fault 11 ≠ none := by
    rcases h with hclosed | ⟨n, hn, hbegin, hfault⟩
    · rw [hcreates] at hclosed
      cases hclosed
    · obtain hlt | hlt | hlt | rfl : n < 2 ∨ 2 ≤ n ∧ n < 4 ∨ 4 ≤ n ∧ n < 10 ∨ n = 11 := by omega
      · have hnone := hfaults₁ n hlt
        rw [show emptyStore.connection.calls + n = n from Nat.zero_add n] at hnone
        exact absurd hnone hfault
      · obtain ⟨m, rfl⟩ := Nat.exists_eq_add_of_le hlt.1
        exact absurd (hfaults₂ m (by omega)) hfault
      · obtain ⟨m, rfl⟩ := Nat.exists_eq_add_of_le hlt.1
        exact absurd (hfaults₃ m (by omega)) hfault
      · exact hfault
  apply Alike.bind (alike_of_fault rfl hfault)
  intro _ s₄ hsecond
  obtain ⟨hfaults, -⟩ := (applyMigration_iff rfl).mp hsecond
  exact absurd (hfaults 1 (by omega)) hfault

end Alike

/-! ### The build without the module -/

section Without

variable {env : Environment} {s s' : Store} {α β : Type}

/-- The error of the second migration. -/
def noModule : Error := sqliteError "exec failed" "storage.execute" (.ofRefusal .noFullText)

theorem run_bind_error_store {fts5 : Bool} {program : Setup α} {next : α → Setup β} {e : Error}
    (h : program.run.run (storeHandler fts5 env) s = some (.error e, s')) :
    (program >>= next).run.run (storeHandler fts5 env) s = some (.error e, s') := by
  rw [Program.run_except_bind, h]
  rfl

theorem run_bind_ok_store {fts5 : Bool} {program : Setup α} {next : α → Setup β} {value : α}
    (h : program.run.run (storeHandler fts5 env) s = some (.ok value, s')) :
    (program >>= next).run.run (storeHandler fts5 env) s
      = (next value).run.run (storeHandler fts5 env) s' := by
  rw [Program.run_except_bind, h]
  rfl

theorem exec_returns (fts5 : Bool) (script : Script) (s : Store) :
    ∃ result s', (Setup.repository (exec script)).run.run (storeHandler fts5 env) s
      = some (result, s') := by
  rw [exec_run_store, repositoryHandler]
  exact ⟨_, _, rfl⟩

theorem rollback_returns (fts5 active : Bool) (s : Store) :
    ∃ s', (Setup.repository (rollback active)).run.run (storeHandler fts5 env) s
      = some (.ok (), s') := by
  cases active with
  | false => exact ⟨s, rfl⟩
  | true =>
      obtain ⟨result, s', hrun⟩ := @exec_returns env fts5 .rollback s
      exact ⟨s', rollback_run hrun⟩

theorem applyMigration_002_refused (hauto : s.connection.saved = none)
    (hcatalog : s.header.catalog = initialCatalog)
    (hfault : env.fault (s.connection.calls + 1) = none) :
    ∃ s', (applyMigration migration002).run.run (storeHandler false env) s
      = some (.error noModule, s') := by
  obtain ⟨begun, s₁, hbegun, hheader, hcalls⟩ := begin_returns false env hauto
  have hrefused : runSetup false (.define migration002.sql) s₁.counted
      = (.error (.ofRefusal .noFullText), s₁.counted.define indexedCatalog) :=
    k002_refused (by rw [← hcatalog, ← hheader]; rfl)
  have hbody : (migrationBody migration002).run.run (storeHandler false env) s₁
      = some (.error noModule, s₁.counted.define indexedCatalog) := by
    apply run_bind_error_store
    rw [call_run, storeCall_ok (hcalls ▸ hfault), hrefused]
    rfl
  obtain ⟨s₂, hrollback⟩ := rollback_returns false begun.toBool
    (s₁.counted.define indexedCatalog)
  refine ⟨s₂, ?_⟩
  rw [applyMigration, run_bind_ok_store hbegun, run_bind_ok_store (attempt_run_store hbody)]
  exact run_bind_ok_store hrollback

theorem openRepository_refused {options : DatabaseOptions} (h : ¬FailsEarly env options) :
    ∃ s, (openRepository options).run.run (storeHandler false env) emptyStore
      = some (.error noModule, s) := by
  have hcreates : options.creates = true := by
    by_contra hclosed
    exact h (.inl (by simpa using hclosed))
  have hworks : ∀ n < 12, n ≠ 10 → env.fault n = none := by
    intro n hn hbegin
    by_contra hfault
    exact h (.inr ⟨n, hn, hbegin, hfault⟩)
  have hopen : (openDatabase options).run.run (storeHandler false env) emptyStore
      = some (.ok (), emptyStore.counted.counted) := by
    refine openDatabase_iff.mpr ⟨hcreates, ?_, rfl⟩
    intro n hn
    exact hworks (0 + n) (by omega) (by omega)
  have hversion : userVersion.run.run (storeHandler false env) emptyStore.counted.counted
      = some (.ok 0, connected) := by
    refine userVersion_iff.mpr ⟨?_, rfl, rfl⟩
    intro n hn
    exact hworks (2 + n) (by omega) (by omega)
  have hfirst : (applyMigration migration001).run.run (storeHandler false env) connected
      = some (.ok (), initialStore env) := by
    refine applyMigration_001.mpr ⟨?_, rfl⟩
    intro n hn
    exact hworks (4 + n) (by omega) (by omega)
  obtain ⟨s, hsecond⟩ := applyMigration_002_refused (s := initialStore env) rfl rfl
    (hworks 11 (by omega) (by omega))
  refine ⟨s, ?_⟩
  rw [openRepository, run_bind_ok_store hopen, migrate, run_bind_ok_store hversion,
    pending_migrations, run_bind_ok_store hfirst]
  exact run_bind_error_store hsecond

end Without

/-! ### The build with the module -/

section With

variable {env : Environment} {s s' : Store} {α β : Type}

theorem ofRefusal_ne {refusal : Refusal} (h : refusal ≠ .noFullText) :
    Failure.ofRefusal refusal ≠ .ofRefusal .noFullText := by
  intro heq
  have hstart := congrArg (fun failure : Failure => failure.message.take 9) heq
  cases refusal with
  | noFullText => exact h rfl
  | noTable | noColumn | duplicateColumn =>
      simp only [Failure.ofRefusal] at hstart
      rw [List.take_append_of_le_length (by decide)] at hstart
      exact absurd hstart (by decide)
  | nullDefault => exact absurd hstart (by decide)

theorem runDefinition_ne (definition : Definition) (s : Store) :
    runDefinition true definition s ≠ .error .noFullText := by
  intro h
  cases definition with
  | createTable | createFullTextTable | createView => cases h
  | createIndex name table columns =>
      simp only [runDefinition] at h
      split at h
      · cases h
      · split at h <;> cases h
  | createTrigger name table =>
      simp only [runDefinition] at h
      split at h <;> cases h
  | addColumn table column =>
      simp only [runDefinition] at h
      split at h
      · cases h
      · split at h
        · cases h
        · split at h <;> cases h

theorem runDefinitions_ne (script : List Definition) (s : Store) :
    (runDefinitions true script s).1 ≠ .error (.ofRefusal .noFullText) := by
  induction script generalizing s with
  | nil => exact fun h => by cases h
  | cons definition rest ih =>
      rw [runDefinitions]
      cases hrun : runDefinition true definition s with
      | error refusal =>
          intro heq
          have hrefusal : refusal ≠ .noFullText := fun hsame =>
            runDefinition_ne definition s (hsame ▸ hrun)
          exact ofRefusal_ne hrefusal (Except.error.inj heq)
      | ok s₁ => exact ih s₁

theorem runScript_ne {script : Script} {c : Connection} :
    runScript script c ≠ .error (.ofRefusal .noFullText) := by
  cases script <;> cases hsaved : c.saved <;> simp [runScript, hsaved, Failure.ofRefusal]

/-- The error that names the module comes from a script. -/
theorem sqliteError_eq_noModule {what context : String} {failure : Failure}
    (h : sqliteError what context failure = noModule) :
    context = "storage.execute" ∧ (what = "exec failed" → failure = .ofRefusal .noFullText) := by
  refine ⟨str_inj.mp (congrArg Error.context h), ?_⟩
  rintro rfl
  have hmessage : failure.message = (Failure.ofRefusal .noFullText).message :=
    List.append_cancel_left (congrArg Error.message h)
  have hcode : failure.code = (Failure.ofRefusal .noFullText).code := congrArg Error.nativeCode h
  cases failure
  cases hmessage
  cases hcode
  rfl

/-- A program that returns, and does not miss the module. -/
def Blameless (env : Environment) (program : Setup α) : Prop :=
  ∀ s, ∃ result s', program.run.run (storeHandler true env) s = some (result, s')
    ∧ result ≠ .error noModule

theorem Blameless.bind {program : Setup α} {next : α → Setup β} (h : Blameless env program)
    (hnext : ∀ value, Blameless env (next value)) : Blameless env (program >>= next) := by
  intro s
  obtain ⟨result, s', hrun, hblameless⟩ := h s
  cases result with
  | error e =>
      exact ⟨_, s', run_bind_error_store hrun, fun heq =>
        hblameless (congrArg Except.error (Except.error.inj heq))⟩
  | ok value =>
      rw [run_bind_ok_store hrun]
      exact hnext value s'

theorem Blameless.forM {values : List β} {body : β → Setup Unit}
    (h : ∀ value ∈ values, Blameless env (body value)) : Blameless env (values.forM body) := by
  induction values with
  | nil => exact fun s => ⟨_, s, rfl, fun h => by cases h⟩
  | cons value rest ih =>
      apply Blameless.bind (h value (List.mem_cons_self ..))
      intro _
      exact ih fun other hother => h other (List.mem_cons_of_mem _ hother)

-- no failure of SQLite looks like a missing module
variable (hother : ∀ n, env.fault n ≠ some (.ofRefusal .noFullText))

include hother in
theorem Blameless.call {what context : String} {call : SetupCall}
    (h : context ≠ "storage.execute"
      ∨ what = "exec failed" ∧ ∀ s, (runSetup true call s).1 ≠ .error (.ofRefusal .noFullText)) :
    Blameless env (Setup.call what context call) := by
  intro s
  refine ⟨_, _, call_run what context call s, ?_⟩
  cases hanswer : storeCall env s (runSetup true call) with
  | mk answer after =>
  cases answer with
  | ok value => exact fun heq => by cases heq
  | error failure =>
      intro heq
      obtain ⟨hcontext, hfailure⟩ := sqliteError_eq_noModule (Except.error.inj heq)
      rcases h with hdiffers | ⟨hwhat, hruns⟩
      · exact hdiffers hcontext
      · obtain rfl := hfailure hwhat
        rcases storeCall_cases hanswer with ⟨_, hfault, hsame, -⟩ | ⟨-, hrun⟩
        · cases hsame
          exact hother _ hfault
        · exact hruns _ (congrArg Prod.fst hrun)

include hother in
theorem blameless_exec (script : Script) :
    Blameless env (Setup.repository (exec script)) := by
  intro s
  obtain ⟨result, s', hrun⟩ := @exec_returns env true script s
  refine ⟨result, s', hrun, ?_⟩
  rintro rfl
  rw [exec_run_store, repositoryHandler] at hrun
  cases hfault : env.fault s.connection.calls with
  | some failure =>
      have hanswer : handler env (.exec script) s.connection
          = some (.error failure, s.connection.counted) := congrArg some (call_fault hfault)
      rw [hanswer] at hrun
      have herror := Except.error.inj (Prod.mk.inj (Option.some.inj hrun)).1
      exact hother _ (hfault.trans (congrArg some ((sqliteError_eq_noModule herror).2 rfl)))
  | none =>
      cases hscript : runScript script s.connection.counted with
      | error failure =>
          have hcall : call env s.connection (runScript script)
              = (.error failure, s.connection.counted) := by
            simp [Storage.call, hfault, hscript]
          have hanswer : handler env (.exec script) s.connection
              = some (.error failure, s.connection.counted) := congrArg some hcall
          rw [hanswer] at hrun
          have herror := Except.error.inj (Prod.mk.inj (Option.some.inj hrun)).1
          exact runScript_ne (hscript.trans
            (congrArg Except.error ((sqliteError_eq_noModule herror).2 rfl)))
      | ok after =>
          have hanswer : handler env (.exec script) s.connection = some (.ok (), after.2) :=
            congrArg some (call_ok hfault hscript)
          rw [hanswer] at hrun
          cases hrun

theorem blameless_attempt_exec (script : Script) :
    Blameless env (Setup.repository (attempt (exec script))) := by
  intro s
  obtain ⟨result, s', hrun⟩ := @exec_returns env true script s
  exact ⟨_, s', repository_attempt_run hrun, fun h => by cases h⟩

include hother in
theorem blameless_commit (active : Bool) : Blameless env (Setup.repository (commit active)) := by
  cases active with
  | true => exact blameless_exec hother .commit
  | false =>
      intro s
      refine ⟨_, s, rfl, ?_⟩
      intro heq
      exact absurd (congrArg Error.code (Except.error.inj heq)) (by decide)

include hother in
theorem blameless_migrationBody (migration : Migration) :
    Blameless env (migrationBody migration) := by
  have hscript : ∀ s, (runSetup true (.define migration.sql) s).1
      ≠ .error (.ofRefusal .noFullText) := runDefinitions_ne migration.sql
  apply Blameless.bind (Blameless.call hother (.inr ⟨rfl, hscript⟩))
  intro _
  apply Blameless.bind (Blameless.call hother (.inl (by decide)))
  intro _
  apply Blameless.bind fun s => ⟨_, _, now_run s, fun h => by cases h⟩
  intro now
  apply Blameless.bind (Blameless.call hother (.inl (by decide)))
  intro _
  exact Blameless.call hother (.inr ⟨rfl, fun _ h => by cases h⟩)

include hother in
theorem blameless_applyMigration (migration : Migration) :
    Blameless env (applyMigration migration) := by
  apply Blameless.bind (blameless_attempt_exec .beginImmediate)
  intro begun s
  obtain ⟨result, s', hrun, hblameless⟩ := blameless_migrationBody hother migration s
  rw [run_bind_ok_store (attempt_run_store hrun)]
  cases result with
  | ok _ => exact blameless_commit hother _ s'
  | error e =>
      obtain ⟨s'', hrollback⟩ := @rollback_returns env true begun.toBool s'
      refine ⟨.error e, s'', ?_, hblameless⟩
      exact run_bind_ok_store hrollback

include hother in
theorem blameless_openRepository (options : DatabaseOptions) :
    Blameless env (openRepository options) := by
  apply Blameless.bind
  · apply Blameless.bind (Blameless.call hother (.inl (by decide)))
    intro _
    exact Blameless.call hother (.inr ⟨rfl, fun _ h => by cases h⟩)
  intro _
  apply Blameless.bind
  · apply Blameless.bind (Blameless.call hother (.inl (by decide)))
    intro _
    exact Blameless.call hother (.inl (by decide))
  intro current
  apply Blameless.forM
  intro migration _
  split
  · exact fun s => ⟨_, s, rfl, fun h => by cases h⟩
  · exact blameless_applyMigration hother migration

end With

/-! ### With and without -/

section Sessions

variable {env : Environment} {options : DatabaseOptions} {operations : List Operation}
  (hother : ∀ n, env.fault n ≠ some (.ofRefusal .noFullText))

include hother in
/-- A build that gets to the index says that it misses the module, and the other one does not. -/
theorem not_degrades_of_reaches (h : ¬FailsEarly env options) :
    ¬Degrades env options operations := by
  rintro ⟨opened, calls, calls', hwith, hwithout, -⟩
  obtain ⟨s, hrefused⟩ := openRepository_refused h
  obtain ⟨result, s', hrun, hblameless⟩ := blameless_openRepository hother options emptyStore
  rw [session, hrun] at hwith
  rw [session, hrefused] at hwithout
  have hopened := (Prod.mk.inj (Option.some.inj hwith)).1
  have hopened' := (Prod.mk.inj (Option.some.inj hwithout)).1
  exact hblameless (hopened.trans hopened'.symm)

include hother in
/-- Without the module nothing is as promised, unless the opening fails anyway. -/
theorem degrades_iff : Degrades env options operations ↔ FailsEarly env options := by
  constructor
  · intro h
    by_contra hreaches
    exact not_degrades_of_reaches hother hreaches h
  · intro hearly
    obtain ⟨result, s, hrun, -⟩ := blameless_openRepository hother options emptyStore
    have hrun' : (openRepository options).run.run (storeHandler false env) emptyStore
        = some (result, s) := (alike_openRepository hearly).symm.trans hrun
    cases result with
    | error e =>
        refine ⟨.error e, [], [], ?_, ?_, .nil⟩
        · rw [session, hrun]
          rfl
        · rw [session, hrun']
          rfl
    | ok _ =>
        obtain ⟨hcreates, hworks, -⟩ := openRepository_inv hrun
        rcases hearly with hclosed | ⟨n, hn, -, hfault⟩
        · rw [hcreates] at hclosed
          cases hclosed
        · exact absurd (hworks n (by omega)) hfault

end Sessions

theorem degrades_iff_newFile : Degrades {} {} [.count] ↔ FailsEarly {} {} :=
  degrades_iff fun _ h => by cases h

theorem not_degrades :
    ¬ ∀ (env : Environment) (options : DatabaseOptions) (operations : List Operation),
      (∀ n, env.fault n = none) → Degrades env options operations := by
  intro h
  have hreaches : ¬FailsEarly {} {} := by
    rintro (hclosed | ⟨n, -, -, hfault⟩)
    · cases hclosed
    · exact hfault rfl
  exact not_degrades_of_reaches (fun _ heq => by cases heq) hreaches
    (h {} {} [.count] fun _ => rfl)

end ContextSnap.Storage
