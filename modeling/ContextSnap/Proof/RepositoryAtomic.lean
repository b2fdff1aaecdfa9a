import ContextSnap.Proof.LockDiscipline
import ContextSnap.Proof.RepositoryRows

/-!
# Atomicity of repository writes

A transaction that begins and ends as it should leaves either all or nothing. Nobody looks whether
BEGIN worked before the statements run, and a COMMIT that fails is not followed by a ROLLBACK.
-/

namespace ContextSnap.Storage

open Sql

/-! ### Statements inside a transaction -/

/-- An operation that leaves the mutex and the transaction alone. -/
def Op.Inside (op : Op) : Prop := op.KeepsMutex ∧ ∀ script, op ≠ .exec script

theorem Op.Plain.inside {op : Op} (h : op.Plain) : op.Inside := by
  refine ⟨?_, ?_⟩
  · exact h.keepsMutex
  · rintro script rfl
    exact h

theorem inside_dml (statement : Dml Table) (values : List SqlValue) :
    (Op.dml statement values).Inside :=
  ⟨keepsMutex_dml statement values, nofun⟩

section Effect

variable {env : Environment}

/-- What an operation does to the tables: only a statement that changes rows does anything. -/
def Changes (op : Op) (before after : Tables Table) : Prop :=
  after = before ∨ ∃ statement values changed, op = .dml statement values
    ∧ runDml before values statement = .ok (after, changed)

theorem handler_inside {op : Op} (h : op.Inside) {c c' : Connection} {answer : Answer op}
    (hanswer : handler env op c = some (answer, c')) :
    c'.saved = c.saved ∧ Changes op c.tables c'.tables := by
  cases op with
  | lock => exact absurd rfl h.1.1
  | unlock => exact absurd rfl h.1.2
  | exec script => exact absurd rfl (h.2 script)
  | prepare tables =>
      have hcall := Option.some.inj hanswer
      rcases call_cases env c fun c => (.ok ((), c) : Except Failure (Unit × Connection)) with
        ⟨failure, hfail⟩ | ⟨value, c₁, hwork, hdone⟩
      · rw [hfail] at hcall
        cases hcall
        exact ⟨rfl, .inl rfl⟩
      · rw [hdone] at hcall
        cases hwork
        cases hcall
        exact ⟨rfl, .inl rfl⟩
  | dml statement values =>
      have hcall := Option.some.inj hanswer
      rcases call_cases env c (runStatement statement values) with
        ⟨failure, hfail⟩ | ⟨value, c₁, hwork, hdone⟩
      · rw [hfail] at hcall
        cases hcall
        exact ⟨rfl, .inl rfl⟩
      · rw [hdone] at hcall
        cases hcall
        unfold runStatement at hwork
        split at hwork
        · rename_i tables changed hrun
          cases hwork
          exact ⟨rfl, .inr ⟨statement, values, changed, rfl, hrun⟩⟩
        · cases hwork
  | select statement values expression =>
      have hcall := Option.some.inj hanswer
      rcases call_cases env c (runSelect env statement values expression) with
        ⟨failure, hfail⟩ | ⟨value, c₁, hwork, hdone⟩
      · rw [hfail] at hcall
        cases hcall
        exact ⟨rfl, .inl rfl⟩
      · rw [hdone] at hcall
        cases hcall
        rw [runSelect_eq hwork]
        exact ⟨rfl, .inl rfl⟩
  | changes =>
      cases Option.some.inj hanswer
      exact ⟨rfl, .inl rfl⟩
  | now =>
      cases Option.some.inj hanswer
      exact ⟨rfl, .inl rfl⟩
  | generateUlid =>
      cases Option.some.inj hanswer
      exact ⟨rfl, .inl rfl⟩

variable {α : Type} {program : Repo α} {c c' : Connection} {result : Result α}

/-- The statements of a transaction leave the transaction open, or closed, as it is. -/
theorem saved_of_inside (h : AllOps Op.Inside program)
    (hrun : program.run.run (handler env) c = some (result, c')) : c'.saved = c.saved := by
  refine Program.All.run_invariant (I := fun now : Connection => now.saved = c.saved) ?_ h rfl hrun
  intro op now answer next hop hnow hanswer
  exact (handler_inside hop hanswer).1.trans hnow

theorem returns_of_inside (h : AllOps Op.Inside program) (env : Environment) (c : Connection) :
    ∃ result c', program.run.run (handler env) c = some (result, c') ∧ c'.locked = c.locked :=
  returns_of_keepsMutex (Program.All.mono (fun _ hop => hop.1) h) env c

end Effect

/-! ### Transactions -/

section Transaction

variable {env : Environment} {α : Type} {body : Repo α} {c c₁ : Connection}

/-- The connection behind BEGIN. -/
def Connection.begun (c : Connection) : Connection := { c.counted with saved := some c.tables }

theorem exec_fault {failure : Failure} (script : Script) (hfault : env.fault c.calls = some failure) :
    (exec script).run.run (handler env) c
      = some (.error (sqliteError "exec failed" "storage.execute" failure), c.counted) := by
  have hanswer : handler env (.exec script) c = some (.error failure, c.counted) :=
    congrArg some (call_fault hfault)
  exact run_bind_ok (ask_run hanswer)

theorem exec_ok {script : Script} {c' : Connection} (hfault : env.fault c.calls = none)
    (hscript : runScript script c.counted = .ok ((), c')) :
    (exec script).run.run (handler env) c = some (.ok (), c') := by
  have hanswer : handler env (.exec script) c = some (.ok (), c') :=
    congrArg some (call_ok hfault hscript)
  exact run_bind_ok (ask_run hanswer)

theorem discard_run {program : Repo α} {value : α} {c' : Connection}
    (h : program.run.run (handler env) c = some (.ok value, c')) :
    (discard program).run.run (handler env) c = some (.ok (), c') := by
  have hdiscard : discard program = program >>= fun _ => pure () := rfl
  rw [hdiscard, run_bind_ok h]
  rfl

/-- The part of `withTransaction` behind BEGIN and the body. -/
theorem withTransaction_run {begun : Result Unit} {result : Result α} {c₀ c' : Connection}
    {final : Result α} (hbegin : (exec .beginImmediate).run.run (handler env) c = some (begun, c₀))
    (hbody : body.run.run (handler env) c₀ = some (result, c₁))
    (hend : (match result with
      | .ok value => (do commit begun.toBool; return value : Repo α)
      | .error e => (do rollback begun.toBool; throw e : Repo α)).run.run (handler env) c₁
        = some (final, c')) :
    (withTransaction body).run.run (handler env) c = some (final, c') := by
  rw [withTransaction, run_bind_ok (attempt_run hbegin), run_bind_ok (attempt_run hbody)]
  exact hend

/-- A write leaves the committed tables and the connection as they were when it fails, and commits
what it writes when it does not. -/
def Atomic (before : Tables Table) (written : α → Tables Table → Prop) (result : Result α)
    (after : Connection) : Prop :=
  (∀ e, result = .error e → after.saved.getD after.tables = before ∧ after.saved = none)
    ∧ ∀ value, result = .ok value → after.saved = none ∧ written value after.tables

/-- BEGIN works, and so does the COMMIT or ROLLBACK behind the body. -/
def Ends (env : Environment) (c : Connection) (body : Repo α) : Prop :=
  env.fault c.calls = none ∧ ∃ result c₁, body.run.run (handler env) c.begun = some (result, c₁)
    ∧ env.fault c₁.calls = none

/-- Without a BEGIN the statements of the body take effect one by one. -/
theorem withTransaction_unbegun {failure : Failure} {result : Result α}
    (hfault : env.fault c.calls = some failure)
    (hrun : body.run.run (handler env) c.counted = some (result, c₁)) :
    ∃ e, (withTransaction body).run.run (handler env) c = some (.error e, c₁) := by
  have hbegin := exec_fault .beginImmediate hfault
  cases result with
  | ok value => exact ⟨_, withTransaction_run hbegin hrun rfl⟩
  | error e => exact ⟨e, withTransaction_run hbegin hrun rfl⟩

theorem exec_begin (hauto : c.saved = none) (hfault : env.fault c.calls = none) :
    (exec .beginImmediate).run.run (handler env) c = some (.ok (), c.begun) := by
  apply exec_ok hfault
  simp [runScript, Connection.counted, hauto, Connection.begun]

theorem withTransaction_committed {value : α} (hauto : c.saved = none)
    (hbegun : env.fault c.calls = none) (hsaved : c₁.saved = some c.tables)
    (hrun : body.run.run (handler env) c.begun = some (.ok value, c₁)) :
    (env.fault c₁.calls = none → (withTransaction body).run.run (handler env) c
        = some (.ok value, { c₁.counted with saved := none }))
      ∧ ∀ failure, env.fault c₁.calls = some failure →
        ∃ e, (withTransaction body).run.run (handler env) c = some (.error e, c₁.counted) := by
  refine ⟨fun hfault => ?_, fun failure hfault => ?_⟩
  · apply withTransaction_run (exec_begin hauto hbegun) hrun
    have hcommit : (exec .commit).run.run (handler env) c₁
        = some (.ok (), { c₁.counted with saved := none }) := by
      apply exec_ok hfault
      simp [runScript, Connection.counted, hsaved]
    exact run_bind_ok hcommit
  · refine ⟨sqliteError "exec failed" "storage.execute" failure, ?_⟩
    apply withTransaction_run (exec_begin hauto hbegun) hrun
    exact run_bind_error (exec_fault .commit hfault)

theorem withTransaction_rolledBack {e : Error} (hauto : c.saved = none)
    (hbegun : env.fault c.calls = none) (hsaved : c₁.saved = some c.tables)
    (hrun : body.run.run (handler env) c.begun = some (.error e, c₁)) :
    (env.fault c₁.calls = none → (withTransaction body).run.run (handler env) c
        = some (.error e, { c₁.counted with tables := c.tables, saved := none }))
      ∧ ∀ failure, env.fault c₁.calls = some failure →
        (withTransaction body).run.run (handler env) c = some (.error e, c₁.counted) := by
  refine ⟨fun hfault => ?_, fun failure hfault => ?_⟩
  · apply withTransaction_run (exec_begin hauto hbegun) hrun
    have hrollback : (exec .rollback).run.run (handler env) c₁
        = some (.ok (), { c₁.counted with tables := c.tables, saved := none }) := by
      apply exec_ok hfault
      simp [runScript, Connection.counted, hsaved]
    exact run_bind_ok (discard_run (attempt_run hrollback))
  · apply withTransaction_run (exec_begin hauto hbegun) hrun
    exact run_bind_ok (discard_run (attempt_run (exec_fault .rollback hfault)))

/-- **A transaction.** It is atomic if it begins and ends as it should, or if it does not begin and
its statements change nothing. -/
theorem withTransaction_atomic_iff (hauto : c.saved = none) (hbody : AllOps Op.Inside body)
    {written : α → Tables Table → Prop}
    (hwritten : ∀ value c₁, body.run.run (handler env) c.begun = some (.ok value, c₁) →
      written value c₁.tables) :
    ∃ result c', (withTransaction body).run.run (handler env) c = some (result, c')
      ∧ c'.locked = c.locked
      ∧ (Atomic c.tables written result c' ↔ Ends env c body
        ∨ env.fault c.calls ≠ none ∧ ∃ result c₁,
          body.run.run (handler env) c.counted = some (result, c₁) ∧ c₁.tables = c.tables) := by
  cases hbegun : env.fault c.calls with
  | some failure =>
      obtain ⟨result, c₁, hrun, hlocked⟩ := returns_of_inside hbody env c.counted
      obtain ⟨e, hfinal⟩ := withTransaction_unbegun hbegun hrun
      have hsaved : c₁.saved = none := (saved_of_inside hbody hrun).trans hauto
      refine ⟨_, _, hfinal, hlocked, ?_⟩
      constructor
      · intro hatomic
        have hkept := (hatomic.1 e rfl).1
        rw [hsaved] at hkept
        exact .inr ⟨nofun, result, c₁, hrun, hkept⟩
      · rintro (⟨hnone, -⟩ | ⟨-, result', c₁', hrun', hkept⟩)
        · simp [hbegun] at hnone
        · rw [hrun] at hrun'
          cases hrun'
          exact ⟨fun _ _ => ⟨by rw [hsaved]; exact hkept, hsaved⟩, nofun⟩
  | none =>
      obtain ⟨result, c₁, hrun, hlocked⟩ := returns_of_inside hbody env c.begun
      have hsaved : c₁.saved = some c.tables := saved_of_inside hbody hrun
      have hends : (Ends env c body ∨ (none : Option Failure) ≠ none ∧ ∃ result c₁,
          body.run.run (handler env) c.counted = some (result, c₁) ∧ c₁.tables = c.tables)
          ↔ env.fault c₁.calls = none := by
        constructor
        · rintro (⟨-, result', c₁', hrun', hfault⟩ | ⟨hne, -⟩)
          · rw [hrun] at hrun'
            cases hrun'
            exact hfault
          · exact absurd rfl hne
        · exact fun hfault => .inl ⟨hbegun, result, c₁, hrun, hfault⟩
      rw [hends]
      have hopen : ∀ e : Error, ¬ Atomic c.tables written (.error e) c₁.counted := by
        intro e hatomic
        have hclosed : c₁.saved = none := (hatomic.1 e rfl).2
        simp [hsaved] at hclosed
      cases result with
      | ok value =>
          obtain ⟨hok, hfail⟩ := withTransaction_committed hauto hbegun hsaved hrun
          cases hend : env.fault c₁.calls with
          | none =>
              refine ⟨_, _, hok hend, hlocked, ?_⟩
              refine iff_of_true ⟨nofun, ?_⟩ rfl
              rintro _ ⟨⟩
              exact ⟨rfl, hwritten value c₁ hrun⟩
          | some failure =>
              obtain ⟨e, hfinal⟩ := hfail failure hend
              exact ⟨_, _, hfinal, hlocked, iff_of_false (hopen e) nofun⟩
      | error e =>
          obtain ⟨hok, hfail⟩ := withTransaction_rolledBack hauto hbegun hsaved hrun
          cases hend : env.fault c₁.calls with
          | none =>
              refine ⟨_, _, hok hend, hlocked, ?_⟩
              exact iff_of_true ⟨fun _ _ => ⟨rfl, rfl⟩, nofun⟩ rfl
          | some failure =>
              exact ⟨_, _, hfail failure hend, hlocked, iff_of_false (hopen e) nofun⟩

end Transaction

/-! ### Rows that land -/

/-- Rows are only added, at the end. -/
def Grows (before after : Tables Table) : Prop := ∀ table, before table <+: after table

/-- An operation inside a transaction that only adds rows. -/
def Op.Adds (op : Op) : Prop :=
  op.Inside ∧ ∀ statement values, op = .dml statement values →
    ∃ table columns, statement = .insert table columns

theorem Op.Plain.adds {op : Op} (h : op.Plain) : op.Adds := by
  refine ⟨h.inside, ?_⟩
  rintro statement values rfl
  exact h.elim

theorem Inserts.adds {snapshot : Snapshot} {statement : Dml Table} {values : List SqlValue}
    (h : Inserts snapshot statement values) : (Op.dml statement values).Adds := by
  refine ⟨inside_dml statement values, ?_⟩
  rintro _ _ ⟨⟩
  cases h <;> exact ⟨_, _, rfl⟩

theorem runDml_insert {before after : Tables Table} {table : Table} {columns : List String}
    {values : List SqlValue} {changed : Nat}
    (h : runDml before values (.insert table columns) = .ok (after, changed)) :
    after = Function.update before table
      (before table ++ [insertedRow schema table columns values]) := by
  simp only [runDml, insertRow] at h
  split_ifs at h <;> cases h
  rfl

section Lands

variable {env : Environment} {α β : Type} {program : Repo α} {next : α → Repo β}
  {P : Tables Table → Prop}

theorem grows_of_adds (h : AllOps Op.Adds program) {c c' : Connection} {result : Result α}
    (hrun : program.run.run (handler env) c = some (result, c')) : Grows c.tables c'.tables := by
  refine Program.All.run_invariant (I := fun now : Connection => Grows c.tables now.tables) ?_ h
    (fun _ => List.prefix_rfl) hrun
  intro op now answer next hop hnow hanswer
  rcases (handler_inside hop.1 hanswer).2 with hsame | ⟨statement, values, changed, rfl, hrun⟩
  · rw [hsame]
    exact hnow
  · obtain ⟨table, columns, rfl⟩ := hop.2 _ _ rfl
    rw [runDml_insert hrun]
    intro other
    by_cases hother : other = table
    · subst hother
      rw [Function.update_self]
      exact (hnow other).trans (List.prefix_append _ _)
    · rw [Function.update_of_ne hother]
      exact hnow other

/-- Where the program succeeds, `P` holds of the tables behind it. -/
def Lands (env : Environment) (program : Repo α) (P : Tables Table → Prop) : Prop :=
  ∀ c value c', program.run.run (handler env) c = some (.ok value, c') → P c'.tables

/-- What holds of some tables holds when rows are added. -/
def Persists (P : Tables Table → Prop) : Prop := ∀ before after, Grows before after → P before → P after

theorem persists_mem (table : Table) (row : Row) :
    Persists fun tables => row ∈ tables table :=
  fun _ _ hgrows hmem => (hgrows table).subset hmem

theorem run_bind_inv {c c' : Connection} {value : β}
    (h : (program >>= next).run.run (handler env) c = some (.ok value, c')) :
    ∃ middle c₁, program.run.run (handler env) c = some (.ok middle, c₁)
      ∧ (next middle).run.run (handler env) c₁ = some (.ok value, c') := by
  cases hprogram : program.run.run (handler env) c with
  | none => rw [run_bind_none hprogram] at h; cases h
  | some result =>
      obtain ⟨answer, c₁⟩ := result
      cases answer with
      | error e => rw [run_bind_error hprogram] at h; cases h
      | ok middle =>
          rw [run_bind_ok hprogram] at h
          exact ⟨middle, c₁, rfl, h⟩

theorem Lands.bind_left (hP : Persists P) (h : Lands env program P)
    (hnext : ∀ value, AllOps Op.Adds (next value)) : Lands env (program >>= next) P := by
  intro c value c' hrun
  obtain ⟨middle, c₁, hprogram, hrest⟩ := run_bind_inv hrun
  exact hP _ _ (grows_of_adds (hnext middle) hrest) (h c middle c₁ hprogram)

theorem Lands.bind_right (h : ∀ value, Lands env (next value) P) :
    Lands env (program >>= next) P := by
  intro c value c' hrun
  obtain ⟨middle, c₁, -, hrest⟩ := run_bind_inv hrun
  exact h middle c₁ value c' hrest

theorem Lands.forM (hP : Persists P) {values : List β} {body : β → Repo Unit} {value : β}
    (hmem : value ∈ values) (h : Lands env (body value) P)
    (hadds : ∀ other ∈ values, AllOps Op.Adds (body other)) : Lands env (values.forM body) P := by
  induction values with
  | nil => simp at hmem
  | cons first values ih =>
      have hrest : ∀ other ∈ values, AllOps Op.Adds (body other) :=
        fun other hother => hadds other (by simp [hother])
      change Lands env (body first >>= fun _ => values.forM body) P
      rcases List.mem_cons.mp hmem with rfl | hmem
      · exact h.bind_left hP fun _ => AllOps.forM hrest
      · exact Lands.bind_right fun _ => ih hmem hrest

/-- A statement fails, or it changes the tables and says how many rows. -/
theorem execute_cases (env : Environment) (c : Connection) (statement : Dml Table)
    (values : List SqlValue) :
    (∃ failure, (execute statement values).run.run (handler env) c
        = some (.error (sqliteError "step failed" "storage.statement" failure), c.counted))
      ∨ ∃ tables changed, runDml c.tables values statement = .ok (tables, changed)
        ∧ (execute statement values).run.run (handler env) c
          = some (.ok (), { c.counted with tables, changes := changed }) := by
  rcases call_cases env c (runStatement statement values) with
    ⟨failure, hfail⟩ | ⟨done, c₁, hwork, hdone⟩
  · have hanswer : handler env (.dml statement values) c = some (.error failure, c.counted) :=
      congrArg some hfail
    exact .inl ⟨failure, run_bind_ok (ask_run hanswer)⟩
  · have hanswer : handler env (.dml statement values) c = some (.ok done, c₁) :=
      congrArg some hdone
    unfold runStatement at hwork
    split at hwork
    · rename_i tables changed hrun
      cases hwork
      exact .inr ⟨tables, changed, hrun, run_bind_ok (ask_run hanswer)⟩
    · cases hwork

theorem lands_execute (table : Table) (columns : List String) (values : List SqlValue) :
    Lands env (execute (.insert table columns) values) fun tables =>
      insertedRow schema table columns values ∈ tables table := by
  intro c value c' hrun
  rcases execute_cases env c (.insert table columns) values with
    ⟨failure, hfail⟩ | ⟨tables, changed, hinsert, hdone⟩
  · rw [hfail] at hrun
    cases hrun
  · rw [hdone] at hrun
    cases hrun
    rw [runDml_insert hinsert]
    simp

/-- The rows of a snapshot, apart from its row in the search index. -/
structure HoldsRows (snapshot : Snapshot) (tables : Tables Table) : Prop where
  row : snapshotRow snapshot ∈ tables .snapshots
  monitors : ∀ monitor ∈ snapshot.monitors,
    monitorRow snapshot.metadata.id monitor ∈ tables .monitors
  windows : ∀ window ∈ snapshot.windows, windowRow snapshot.metadata.id window ∈ tables .windows
  tabs : ∀ window ∈ snapshot.windows, ∀ tab ∈ window.tabs,
    ∃ now, tabRow snapshot.metadata.id window.id now tab ∈ tables .tabs
  cursor : cursorRow snapshot ∈ tables .cursorStates

section Insert

variable {snapshot : Snapshot}

theorem adds_plain : ∀ op : Op, op.Plain → op.Adds := fun _ => Op.Plain.adds

theorem adds_inserts : ∀ statement values, Inserts snapshot statement values →
    (Op.dml statement values).Adds := fun _ _ => Inserts.adds

/-- Where the search index comes last, rows that land before it stay. -/
theorem lands_insertAll_windows (hP : Persists P) (h : Lands env (insertWindows snapshot) P) :
    Lands env (insertAll snapshot) P := by
  refine Lands.bind_right fun _ => Lands.bind_right fun _ => Lands.bind_right fun _ => ?_
  refine h.bind_left hP fun _ => (allOps_insertCursor adds_plain adds_inserts).bind fun _ => ?_
  exact (allOps_indexForSearch adds_plain adds_inserts).bind fun _ => AllOps.pure _

theorem persists_tab (id windowId : Bytes) (tab : TabInfo) :
    Persists fun tables => ∃ now, tabRow id windowId now tab ∈ tables .tabs := by
  rintro before after hgrows ⟨now, hmem⟩
  exact ⟨now, (hgrows .tabs).subset hmem⟩

theorem lands_insertTabs {window : WindowInfo} {tab : TabInfo} (hwindow : window ∈ snapshot.windows)
    (htab : tab ∈ window.tabs) :
    Lands env (insertTabs snapshot.metadata.id window) fun tables =>
      ∃ now, tabRow snapshot.metadata.id window.id now tab ∈ tables .tabs := by
  have hsome : window.tabs.isEmpty = false := by
    cases htabs : window.tabs with
    | nil => simp [htabs] at htab
    | cons first rest => rfl
  rw [insertTabs, if_neg (by simp [hsome])]
  refine Lands.bind_right fun _ => Lands.forM (persists_tab _ _ _) htab ?_ ?_
  · apply Lands.bind_right
    intro now c value c' hrun
    exact ⟨now, lands_execute _ _ _ c value c' hrun⟩
  · intro other hother
    apply AllOps.bind (AllOps.ask (adds_plain .now trivial))
    intro now
    exact allOps_execute (adds_inserts _ _ (.tab hwindow hother now))

/-- **All rows.** Where the statements of an insert succeed, every row of the snapshot is there. -/
theorem lands_insertAll : Lands env (insertAll snapshot) (HoldsRows snapshot) := by
  have hcursorAdds : AllOps Op.Adds (insertCursor snapshot) :=
    allOps_insertCursor adds_plain adds_inserts
  have hwindowsAdds : AllOps Op.Adds (insertWindows snapshot) :=
    allOps_insertWindows adds_plain adds_inserts
  have hlast : AllOps Op.Adds (do indexForSearch snapshot; return snapshot.metadata.id) :=
    (allOps_indexForSearch adds_plain adds_inserts).bind fun _ => AllOps.pure _
  have hrow : Lands env (insertAll snapshot) fun tables =>
      snapshotRow snapshot ∈ tables .snapshots := by
    refine Lands.bind_right fun _ => (lands_execute _ _ _).bind_left (persists_mem _ _) fun _ => ?_
    apply (allOps_insertMonitors adds_plain adds_inserts).bind
    exact fun _ => hwindowsAdds.bind fun _ => hcursorAdds.bind fun _ => hlast
  have hmonitors : ∀ monitor ∈ snapshot.monitors, Lands env (insertAll snapshot) fun tables =>
      monitorRow snapshot.metadata.id monitor ∈ tables .monitors := by
    intro monitor hmonitor
    refine Lands.bind_right fun _ => Lands.bind_right fun _ =>
      Lands.bind_left (persists_mem _ _) ?_ fun _ => hwindowsAdds.bind fun _ =>
        hcursorAdds.bind fun _ => hlast
    refine Lands.bind_right fun _ => Lands.forM (persists_mem _ _) hmonitor (lands_execute _ _ _) ?_
    exact fun other hother => allOps_execute (adds_inserts _ _ (.monitor hother))
  have hwindowAdds : ∀ window ∈ snapshot.windows, AllOps Op.Adds (do
      execute insertWindowsStatement (windowValues snapshot.metadata.id window)
      insertTabs snapshot.metadata.id window) := by
    intro window hwindow
    exact (allOps_execute (adds_inserts _ _ (.window hwindow))).bind fun _ =>
      allOps_insertTabs adds_plain adds_inserts hwindow
  have hwindows : ∀ window ∈ snapshot.windows, Lands env (insertAll snapshot) fun tables =>
      windowRow snapshot.metadata.id window ∈ tables .windows := by
    intro window hwindow
    refine lands_insertAll_windows (persists_mem _ _) (Lands.bind_right fun _ =>
      Lands.forM (persists_mem _ _) hwindow ?_ hwindowAdds)
    exact (lands_execute _ _ _).bind_left (persists_mem _ _) fun _ =>
      allOps_insertTabs adds_plain adds_inserts hwindow
  have htabs : ∀ window ∈ snapshot.windows, ∀ tab ∈ window.tabs,
      Lands env (insertAll snapshot) fun tables =>
        ∃ now, tabRow snapshot.metadata.id window.id now tab ∈ tables .tabs := by
    intro window hwindow tab htab
    refine lands_insertAll_windows (persists_tab _ _ _) (Lands.bind_right fun _ =>
      Lands.forM (persists_tab _ _ _) hwindow ?_ hwindowAdds)
    exact Lands.bind_right fun _ => lands_insertTabs hwindow htab
  have hcursor : Lands env (insertAll snapshot) fun tables =>
      cursorRow snapshot ∈ tables .cursorStates := by
    refine Lands.bind_right fun _ => Lands.bind_right fun _ => Lands.bind_right fun _ =>
      Lands.bind_right fun _ => Lands.bind_left (persists_mem _ _) ?_ fun _ => hlast
    exact Lands.bind_right fun _ => lands_execute _ _ _
  intro c value c' hrun
  exact {
    row := hrow c value c' hrun
    monitors := fun monitor hmonitor => hmonitors monitor hmonitor c value c' hrun
    windows := fun window hwindow => hwindows window hwindow c value c' hrun
    tabs := fun window hwindow tab htab => htabs window hwindow tab htab c value c' hrun
    cursor := hcursor c value c' hrun }

end Insert

end Lands

/-! ### insert -/

section Insert

variable {env : Environment}

/-- The id of an insert, and the connection behind its choice. -/
def assigned (env : Environment) (c : Connection) (original : Snapshot) : Bytes × Connection :=
  if original.metadata.id = [] then (env.ulid c.ulids, { c with ulids := c.ulids + 1 })
  else (original.metadata.id, c)

theorem assignId_run (c : Connection) (original : Snapshot) :
    (assignId original).run.run (handler env) c
      = some (.ok (assigned env c original).1, (assigned env c original).2) := by
  unfold assignId assigned
  split
  · exact ask_run rfl
  · rfl

/-- The statement that writes the row of the snapshot fails. -/
def FirstInsertFails (env : Environment) (c : Connection) (snapshot : Snapshot) : Prop :=
  env.fault (c.calls + 1) ≠ none ∨ env.fault (c.calls + 2) ≠ none
    ∨ ∀ after, insertRow schema c.tables .snapshots (snapshotRow snapshot) ≠ .ok after

theorem insertAll_inside (snapshot : Snapshot) : AllOps Op.Inside (insertAll snapshot) :=
  allOps_insertAll (fun _ => Op.Plain.inside) fun _ _ _ => inside_dml _ _

theorem insertRest_adds (snapshot : Snapshot) : AllOps Op.Adds (do
    insertMonitors snapshot
    insertWindows snapshot
    insertCursor snapshot
    indexForSearch snapshot
    return snapshot.metadata.id) := by
  apply (allOps_insertMonitors adds_plain adds_inserts).bind
  intro _
  apply (allOps_insertWindows adds_plain adds_inserts).bind
  intro _
  apply (allOps_insertCursor adds_plain adds_inserts).bind
  intro _
  exact (allOps_indexForSearch adds_plain adds_inserts).bind fun _ => AllOps.pure _

/-- An insert without a transaction changes something as soon as its first statement works. -/
theorem insertAll_unchanged_iff (env : Environment) (c : Connection) (snapshot : Snapshot) :
    (∃ result c₁, (insertAll snapshot).run.run (handler env) c.counted = some (result, c₁)
      ∧ c₁.tables = c.tables) ↔ FirstInsertFails env c snapshot := by
  constructor
  · rintro ⟨result, c₁, hrun, hsame⟩
    by_contra hworks
    simp only [FirstInsertFails, not_or, not_not, not_forall] at hworks
    obtain ⟨hprepare, hstep, after, hinsert⟩ := hworks
    have hstatement : runStatement insertSnapshots (snapshotValues snapshot) c.counted.counted.counted
        = .ok ((), { c.counted.counted.counted with tables := after, changes := 1 }) := by
      have hdml : runDml c.tables (snapshotValues snapshot) insertSnapshots = .ok (after, 1) := by
        change (insertRow schema c.tables .snapshots (snapshotRow snapshot)).bind
          (fun inserted => .ok (inserted, 1)) = _
        rw [hinsert]
        rfl
      have htables : c.counted.counted.counted.tables = c.tables := rfl
      rw [runStatement, htables, hdml]
    rw [insertAll, run_bind_ok (prepare_ok _ hprepare), run_bind_ok (execute_ok hstep hstatement)]
      at hrun
    have hgrows := grows_of_adds (insertRest_adds snapshot) hrun .snapshots
    have hafter : after .snapshots = c.tables .snapshots ++ [snapshotRow snapshot] := by
      unfold insertRow at hinsert
      split_ifs at hinsert
      cases hinsert
      exact Function.update_self ..
    rw [hsame] at hgrows
    have hlength := hgrows.length_le
    change (after .snapshots).length ≤ _ at hlength
    simp [hafter] at hlength
  · intro hfails
    rcases hprepare : env.fault (c.calls + 1) with - | failure
    · have hexecute : ∃ e c₁, (execute insertSnapshots (snapshotValues snapshot)).run.run
          (handler env) c.counted.counted = some (.error e, c₁) ∧ c₁.tables = c.tables := by
        rcases hfails.resolve_left (by simp [hprepare]) with hstep | hnever
        · obtain ⟨failure, hstep⟩ := Option.ne_none_iff_exists'.mp hstep
          exact ⟨_, _, execute_fault _ _ hstep, rfl⟩
        · rcases execute_cases env c.counted.counted insertSnapshots (snapshotValues snapshot) with
            ⟨failure, hfail⟩ | ⟨tables, changed, hdml, hdone⟩
          · exact ⟨_, _, hfail, rfl⟩
          · change (insertRow schema c.tables .snapshots (snapshotRow snapshot)).bind
              (fun inserted => .ok (inserted, 1)) = _ at hdml
            cases hrow : insertRow schema c.tables .snapshots (snapshotRow snapshot) with
            | error violation => rw [hrow] at hdml; cases hdml
            | ok after => exact absurd hrow (hnever after)
      obtain ⟨e, c₁, hrun, hsame⟩ := hexecute
      refine ⟨.error e, c₁, ?_, hsame⟩
      rw [insertAll, run_bind_ok (prepare_ok _ hprepare), run_bind_error hrun]
    · refine ⟨.error (sqliteError "prepare failed" "storage.prepare" failure), c.counted.counted, ?_,
        rfl⟩
      rw [insertAll, run_bind_error (prepare_fault _ hprepare)]

/-- The transaction of an insert begins and ends, or neither does it begin nor is a row written, or
there is no transaction since the id is not a ULID. -/
def InsertEnds (env : Environment) (c : Connection) (original : Snapshot) : Prop :=
  let id := (assigned env c original).1
  isValidUlid id = false
    ∨ Ends env { (assigned env c original).2 with locked := true } (insertAll (withId original id))
    ∨ env.fault c.calls ≠ none ∧ FirstInsertFails env c (withId original id)

theorem insert_atomic_iff {c : Connection} (hfree : c.locked = false) (hauto : c.saved = none)
    (original : Snapshot) :
    ∃ result c', (insert original).run.run (handler env) c = some (result, c')
      ∧ (Atomic c.tables (fun _ => HoldsRows (withId original (assigned env c original).1)) result c'
        ↔ InsertEnds env c original) := by
  set id := (assigned env c original).1 with hid
  set c₀ := (assigned env c original).2 with hc₀
  have hassigned : c₀.tables = c.tables ∧ c₀.saved = none ∧ c₀.locked = false
      ∧ c₀.calls = c.calls := by
    rw [hc₀, assigned]
    split <;> exact ⟨rfl, hauto, hfree, rfl⟩
  obtain ⟨htables, hauto₀, hfree₀, hcalls⟩ := hassigned
  have hrun : (insert original).run.run (handler env) c
      = (if isValidUlid id then withLock (withTransaction (insertAll (withId original id)))
        else throw (Err.invalid (str "snapshot id must be a ULID")
          (str "storage.repository"))).run.run (handler env) c₀ := by
    rw [insert, run_bind_ok (assignId_run c original)]
  by_cases hvalid : isValidUlid id = true
  · obtain ⟨result, c', htransaction, -, hatomic⟩ :=
      @withTransaction_atomic_iff env _ (insertAll (withId original id)) { c₀ with locked := true }
        hauto₀ (insertAll_inside (withId original id)) (fun _ => HoldsRows (withId original id))
        fun value c₁ h => lands_insertAll _ value c₁ h
    refine ⟨result, { c' with locked := false }, ?_, ?_⟩
    · rw [hrun, if_pos hvalid, withLock_run hfree₀, htransaction]
      rfl
    · have hsame : Atomic c.tables (fun _ => HoldsRows (withId original id)) result
          { c' with locked := false }
          ↔ Atomic c₀.tables (fun _ => HoldsRows (withId original id)) result c' := by
        rw [htables]
        rfl
      have hunchanged := insertAll_unchanged_iff env { c₀ with locked := true }
        (withId original id)
      rw [hsame, hatomic, hunchanged]
      simp only [InsertEnds, ← hid, ← hc₀, hvalid, FirstInsertFails, hcalls, htables]
      simp
  · refine ⟨_, c₀, by rw [hrun, if_neg hvalid]; rfl, ?_⟩
    refine iff_of_true ⟨fun _ _ => ?_, nofun⟩ (.inl (by simpa using hvalid))
    simp [hauto₀, htables]

end Insert

/-! ### prune -/

section Prune

variable {env : Environment}

/-- The tables behind a statement that does not violate a constraint. -/
def afterStatement (statement : Dml Table) (values : List SqlValue) (tables : Tables Table) :
    Tables Table :=
  (runDml tables values statement).toOption.elim tables (·.1)

/-- The rows of snapshots that a DELETE names. -/
def deletedBy : Dml Table → Condition Table
  | .delete _ condition => condition
  | _ => fun _ _ _ => false

/-- Some snapshot is deleted. -/
def Deletes (statement : Dml Table) (values : List SqlValue) (tables : Tables Table) : Prop :=
  ∃ row ∈ tables .snapshots, deletedBy statement tables values row = true

theorem doomed_false {T : Type} {schema : Schema T} {tables : Tables T} {gone : T → Row → Bool}
    (h : ∀ table, ∀ row ∈ tables table, gone table row = false) (depth : Nat) (table : T) (row : Row)
    (hrow : row ∈ tables table) : doomed schema tables gone depth table row = false := by
  induction depth generalizing table row with
  | zero => exact h table row hrow
  | succ depth ih =>
      rw [doomed, h table row hrow, Bool.false_or, List.any_eq_false]
      intro foreignKey _
      rw [Bool.not_eq_true, List.any_eq_false]
      intro parent hparent
      simp [ih foreignKey.parent parent hparent]

theorem doomed_of_gone {T : Type} {schema : Schema T} {tables : Tables T} {gone : T → Row → Bool}
    {table : T} {row : Row} (h : gone table row = true) (depth : Nat) :
    doomed schema tables gone depth table row = true := by
  cases depth with
  | zero => exact h
  | succ depth => rw [doomed, h, Bool.true_or]

/-- The trigger only touches the search index. -/
theorem foldl_afterDelete (gone : List Row) (tables : Tables Table) {table : Table}
    (htable : table ≠ .snapshotSearch) : gone.foldl afterDelete tables table = tables table := by
  induction gone generalizing tables with
  | nil => rfl
  | cons row gone ih =>
      rw [List.foldl_cons, ih]
      exact Function.update_of_ne htable _ _

theorem afterStatement_delete (condition : Condition Table) (values : List SqlValue)
    (tables : Tables Table) :
    afterStatement (.delete .snapshots condition) values tables
      = ((tables .snapshots).filter (condition tables values)).foldl afterDelete
          (deleteRows schema cascadeDepth tables .snapshots (condition tables values)) := rfl

/-- A DELETE leaves fewer snapshots, or everything as it is. -/
theorem afterStatement_delete_cases (condition : Condition Table) (values : List SqlValue)
    (tables : Tables Table) :
    Deletes (.delete .snapshots condition) values tables
        ∧ (afterStatement (.delete .snapshots condition) values tables .snapshots).length
          < (tables .snapshots).length
      ∨ ¬ Deletes (.delete .snapshots condition) values tables
        ∧ afterStatement (.delete .snapshots condition) values tables = tables := by
  rw [afterStatement_delete]
  by_cases hdeletes : Deletes (.delete .snapshots condition) values tables
  · refine .inl ⟨hdeletes, ?_⟩
    obtain ⟨row, hrow, hgone⟩ := hdeletes
    change condition tables values row = true at hgone
    rw [foldl_afterDelete _ _ (by decide), deleteRows]
    apply List.length_filter_lt_length_iff_exists.mpr
    refine ⟨row, hrow, ?_⟩
    rw [doomed_of_gone (by simp [hgone])]
    simp
  · refine .inr ⟨hdeletes, ?_⟩
    have hmatching : (tables .snapshots).filter (condition tables values) = [] :=
      List.filter_eq_nil_iff.mpr fun row hrow hgone => hdeletes ⟨row, hrow, hgone⟩
    rw [hmatching, List.foldl_nil]
    funext table
    rw [deleteRows, List.filter_eq_self]
    intro row hrow
    rw [Bool.not_eq_true']
    apply doomed_false _ _ _ row hrow
    intro table' row' hrow'
    by_cases htable : table' = .snapshots
    · subst htable
      have hkept : condition tables values row' = false :=
        Bool.eq_false_iff.mpr fun hgone => hdeletes ⟨row', hrow', hgone⟩
      simp [hkept]
    · simp [htable]

/-- The first time that a snapshot may have been created at. -/
def pruneCutoff (query : PruneQuery) (now : Timestamp) : Int64 :=
  toUnixMillis now - uint32ToInt64 query.retentionDays * 24 * 60 * 60 * 1000

/-- The tables without the snapshots that are too old. -/
def expired (query : PruneQuery) (now : Timestamp) (tables : Tables Table) : Tables Table :=
  if query.retentionDays > 0 then
    afterStatement (deleteExpired query) [.integer (pruneCutoff query now)] tables
  else tables

/-- The tables without the snapshots that are too many. -/
def trimmed (query : PruneQuery) (tables : Tables Table) : Tables Table :=
  if query.maxSnapshots > 0 then
    afterStatement (deleteSurplus query) [.integer (uint32ToInt64 query.maxSnapshots)] tables
  else tables

/-- The two calls of a DELETE, from the `n`-th call on, do not both work. -/
def Fails (env : Environment) (n : Nat) : Prop := env.fault n ≠ none ∨ env.fault (n + 1) ≠ none

theorem pruneWith_cases (env : Environment) (c : Connection) (condition : Condition Table)
    (value : Int64) :
    (Fails env c.calls ∧ ∃ e c', (pruneWith (.delete .snapshots condition) value).run.run
        (handler env) c = some (.error e, c') ∧ c'.tables = c.tables)
      ∨ (¬ Fails env c.calls ∧ ∃ count c', (pruneWith (.delete .snapshots condition) value).run.run
        (handler env) c = some (.ok count, c')
          ∧ c'.tables = afterStatement (.delete .snapshots condition) [.integer value] c.tables
          ∧ c'.calls = c.calls + 2) := by
  rcases hprepare : env.fault c.calls with - | failure
  · rcases hstep : env.fault (c.calls + 1) with - | failure
    · refine .inr ⟨by simp [Fails, hprepare, hstep], ?_⟩
      set count := ((c.tables .snapshots).filter (condition c.tables [.integer value])).length
        with hcount
      set after : Connection := { c.counted.counted with
        tables := afterStatement (.delete .snapshots condition) [.integer value] c.tables
        changes := count }
      have hstatement : runStatement (.delete .snapshots condition) [.integer value]
          c.counted.counted = .ok ((), after) := rfl
      refine ⟨UInt32.ofNat count, after, ?_, rfl, rfl⟩
      rw [pruneWith, run_bind_ok (prepare_ok _ hprepare),
        run_bind_ok (execute_ok hstep hstatement), run_bind_ok (ask_run rfl)]
      rfl
    · refine .inl ⟨by simp [Fails, hstep], sqliteError "step failed" "storage.statement" failure,
        c.counted.counted, ?_, rfl⟩
      rw [pruneWith, run_bind_ok (prepare_ok _ hprepare), run_bind_error (execute_fault _ _ hstep)]
  · refine .inl ⟨by simp [Fails, hprepare], sqliteError "prepare failed" "storage.prepare" failure,
      c.counted, ?_, rfl⟩
    rw [pruneWith, run_bind_error (prepare_fault _ hprepare)]

/-- The deletion of what is too old fails, if `n` calls were made before it. -/
def ExpiryFails (env : Environment) (n : Nat) (query : PruneQuery) : Prop :=
  query.retentionDays > 0 ∧ Fails env n

/-- The deletion of what is too much fails, if `n` calls were made before the prune. -/
def TrimFails (env : Environment) (n : Nat) (query : PruneQuery) : Prop :=
  query.maxSnapshots > 0 ∧ Fails env (if query.retentionDays > 0 then n + 2 else n)

theorem pruneExpired_cases (env : Environment) (c : Connection) (query : PruneQuery) :
    (ExpiryFails env c.calls query ∧ ∃ e c', (pruneExpired query).run.run (handler env) c
        = some (.error e, c') ∧ c'.tables = c.tables)
      ∨ (¬ ExpiryFails env c.calls query ∧ ∃ count c', (pruneExpired query).run.run (handler env) c
          = some (.ok count, c')
        ∧ c'.tables = expired query (env.clock c.readings) c.tables
        ∧ c'.calls = if query.retentionDays > 0 then c.calls + 2 else c.calls) := by
  unfold pruneExpired
  by_cases hdays : query.retentionDays > 0
  · rw [if_pos hdays, if_pos hdays, run_bind_ok (ask_run rfl)]
    rcases pruneWith_cases env { c with readings := c.readings + 1 } _
      (pruneCutoff query (env.clock c.readings)) with
      ⟨hfails, e, c', hrun, hsame⟩ | ⟨hworks, count, c', hrun, htables, hcalls⟩
    · exact .inl ⟨⟨hdays, hfails⟩, e, c', hrun, hsame⟩
    · refine .inr ⟨fun h => hworks h.2, count, c', hrun, ?_, hcalls⟩
      rw [htables, expired, if_pos hdays]
      rfl
  · rw [if_neg hdays, if_neg hdays]
    refine .inr ⟨fun h => hdays h.1, 0, c, rfl, ?_, rfl⟩
    rw [expired, if_neg hdays]

theorem pruneSurplus_cases (env : Environment) (c : Connection) (query : PruneQuery) :
    ((query.maxSnapshots > 0 ∧ Fails env c.calls) ∧ ∃ e c', (pruneSurplus query).run.run
        (handler env) c = some (.error e, c') ∧ c'.tables = c.tables)
      ∨ (¬ (query.maxSnapshots > 0 ∧ Fails env c.calls) ∧ ∃ count c',
        (pruneSurplus query).run.run (handler env) c = some (.ok count, c')
          ∧ c'.tables = trimmed query c.tables) := by
  unfold pruneSurplus
  by_cases hmax : query.maxSnapshots > 0
  · rw [if_pos hmax]
    rcases pruneWith_cases env c _ (uint32ToInt64 query.maxSnapshots) with
      ⟨hfails, e, c', hrun, hsame⟩ | ⟨hworks, count, c', hrun, htables, -⟩
    · exact .inl ⟨⟨hmax, hfails⟩, e, c', hrun, hsame⟩
    · refine .inr ⟨fun h => hworks h.2, count, c', hrun, ?_⟩
      rw [htables, trimmed, if_pos hmax]
      rfl
  · rw [if_neg hmax]
    refine .inr ⟨fun h => hmax h.1, 0, c, rfl, ?_⟩
    rw [trimmed, if_neg hmax]

/-- The statements of `prune`. -/
def pruneAll (query : PruneQuery) : Repo UInt32 := do
  let expired ← pruneExpired query
  let surplus ← pruneSurplus query
  return expired + surplus

/-- What the statements of a prune do. -/
theorem pruneAll_cases (env : Environment) (c : Connection) (query : PruneQuery) :
    (ExpiryFails env c.calls query ∧ ∃ e c', (pruneAll query).run.run (handler env) c
        = some (.error e, c') ∧ c'.tables = c.tables)
      ∨ (¬ ExpiryFails env c.calls query ∧ TrimFails env c.calls query ∧ ∃ e c',
        (pruneAll query).run.run (handler env) c = some (.error e, c')
          ∧ c'.tables = expired query (env.clock c.readings) c.tables)
      ∨ (¬ ExpiryFails env c.calls query ∧ ¬ TrimFails env c.calls query ∧ ∃ count c',
        (pruneAll query).run.run (handler env) c = some (.ok count, c')
          ∧ c'.tables = trimmed query (expired query (env.clock c.readings) c.tables)) := by
  rcases pruneExpired_cases env c query with
    ⟨hfails, e, c', hrun, hsame⟩ | ⟨hworks, count, c₁, hrun, htables, hcalls⟩
  · exact .inl ⟨hfails, e, c', run_bind_error hrun, hsame⟩
  · rcases pruneSurplus_cases env c₁ query with
      ⟨hfails, e, c', hrun', hsame⟩ | ⟨hworks', count', c', hrun', htables'⟩
    · rw [hcalls] at hfails
      exact .inr (.inl ⟨hworks, hfails, e, c', (run_bind_ok hrun).trans (run_bind_error hrun'),
        hsame.trans htables⟩)
    · rw [hcalls] at hworks'
      refine .inr (.inr ⟨hworks, hworks', count + count', c',
        (run_bind_ok hrun).trans (run_bind_ok hrun'), ?_⟩)
      rw [htables', htables]

theorem pruneAll_inside (query : PruneQuery) : AllOps Op.Inside (pruneAll query) := by
  have hwith : ∀ statement value, AllOps Op.Inside (pruneWith statement value) := by
    intro statement value
    apply (allOps_prepare (fun _ => Op.Plain.inside) _).bind
    intro _
    apply (allOps_execute (inside_dml _ _)).bind
    intro _
    exact (AllOps.ask ⟨⟨nofun, nofun⟩, nofun⟩).bind fun _ => AllOps.pure _
  apply AllOps.bind
  · unfold pruneExpired
    split
    · exact (AllOps.ask ⟨⟨nofun, nofun⟩, nofun⟩).bind fun _ => hwith _ _
    · exact AllOps.pure _
  · intro _
    apply AllOps.bind
    · unfold pruneSurplus
      split
      · exact hwith _ _
      · exact AllOps.pure _
    · exact fun _ => AllOps.pure _

/-- Some snapshot is too old. -/
def Expires (query : PruneQuery) (now : Timestamp) (tables : Tables Table) : Prop :=
  query.retentionDays > 0
    ∧ Deletes (deleteExpired query) [.integer (pruneCutoff query now)] tables

/-- Some snapshot is one too many. -/
def Exceeds (query : PruneQuery) (tables : Tables Table) : Prop :=
  query.maxSnapshots > 0
    ∧ Deletes (deleteSurplus query) [.integer (uint32ToInt64 query.maxSnapshots)] tables

theorem expired_cases (query : PruneQuery) (now : Timestamp) (tables : Tables Table) :
    Expires query now tables
        ∧ (expired query now tables .snapshots).length < (tables .snapshots).length
      ∨ ¬ Expires query now tables ∧ expired query now tables = tables := by
  unfold Expires expired
  by_cases hdays : query.retentionDays > 0
  · simp only [hdays, true_and]
    exact afterStatement_delete_cases _ _ _
  · simp [hdays]

theorem trimmed_cases (query : PruneQuery) (tables : Tables Table) :
    Exceeds query tables ∧ (trimmed query tables .snapshots).length < (tables .snapshots).length
      ∨ ¬ Exceeds query tables ∧ trimmed query tables = tables := by
  unfold Exceeds trimmed
  by_cases hmax : query.maxSnapshots > 0
  · simp only [hmax, true_and]
    exact afterStatement_delete_cases _ _ _
  · simp [hmax]

/-- A prune whose statements come one by one deletes nothing. -/
def PruneIdle (env : Environment) (c : Connection) (query : PruneQuery) : Prop :=
  ExpiryFails env (c.calls + 1) query
    ∨ ¬ Expires query (env.clock c.readings) c.tables
      ∧ (TrimFails env (c.calls + 1) query ∨ ¬ Exceeds query c.tables)

theorem pruneAll_unchanged_iff (env : Environment) (c : Connection) (query : PruneQuery) :
    (∃ result c₁, (pruneAll query).run.run (handler env) c.counted = some (result, c₁)
      ∧ c₁.tables = c.tables) ↔ PruneIdle env c query := by
  have hfewer : ∀ after : Tables Table, (after .snapshots).length < (c.tables .snapshots).length →
      after ≠ c.tables := by
    rintro after hlength rfl
    exact lt_irrefl _ hlength
  have hrun : ∀ {result c'}, (pruneAll query).run.run (handler env) c.counted = some (result, c') →
      ((∃ result c₁, (pruneAll query).run.run (handler env) c.counted = some (result, c₁)
        ∧ c₁.tables = c.tables) ↔ c'.tables = c.tables) := by
    intro result c' hrun
    constructor
    · rintro ⟨result₁, c₁, hrun₁, hsame⟩
      rw [hrun] at hrun₁
      cases hrun₁
      exact hsame
    · exact fun hsame => ⟨result, c', hrun, hsame⟩
  unfold PruneIdle
  have hexpired := expired_cases query (env.clock c.readings) c.tables
  rcases pruneAll_cases env c.counted query with ⟨hfails, e, c', hdone, htables⟩
    | ⟨hworks, hfails, e, c', hdone, htables⟩ | ⟨hworks, hworks', count, c', hdone, htables⟩
  · rw [hrun hdone]
    exact iff_of_true htables (.inl hfails)
  · rw [hrun hdone, htables]
    rcases hexpired with ⟨hexpires, hlength⟩ | ⟨hnone, hsame⟩
    · refine iff_of_false (hfewer _ hlength) ?_
      rintro (h | ⟨h, -⟩)
      · exact hworks h
      · exact h hexpires
    · exact iff_of_true hsame (.inr ⟨hnone, .inl hfails⟩)
  · rw [hrun hdone, htables]
    have htrimmed := trimmed_cases query (expired query (env.clock c.readings) c.tables)
    rcases hexpired with ⟨hexpires, hlength⟩ | ⟨hnone, hsame⟩
    · refine iff_of_false (hfewer _ ?_) ?_
      · rcases htrimmed with ⟨-, hless⟩ | ⟨-, heq⟩
        · exact hless.trans hlength
        · rw [← heq] at hlength
          exact hlength
      · rintro (h | ⟨h, -⟩)
        · exact hworks h
        · exact h hexpires
    · rw [hsame] at htrimmed
      change trimmed query (expired query (env.clock c.readings) c.tables) = c.tables ↔ _
      rw [hsame]
      rcases htrimmed with ⟨hexceeds, hless⟩ | ⟨hfits, heq⟩
      · refine iff_of_false (hfewer _ hless) ?_
        rintro (h | ⟨-, h | h⟩)
        · exact hworks h
        · exact hworks' h
        · exact h hexceeds
      · exact iff_of_true heq (.inr ⟨hnone, .inr hfits⟩)

/-- The transaction of a prune begins and ends, or neither does it begin nor is a snapshot
deleted. -/
def PruneEnds (env : Environment) (c : Connection) (query : PruneQuery) : Prop :=
  Ends env { c with locked := true } (pruneAll query)
    ∨ env.fault c.calls ≠ none ∧ PruneIdle env c query

theorem prune_atomic_iff {c : Connection} (hfree : c.locked = false) (hauto : c.saved = none)
    (query : PruneQuery) :
    ∃ result c', (prune query).run.run (handler env) c = some (result, c')
      ∧ (Atomic c.tables (fun _ tables =>
          tables = trimmed query (expired query (env.clock c.readings) c.tables)) result c'
        ↔ PruneEnds env c query) := by
  obtain ⟨result, c', htransaction, -, hatomic⟩ :=
    @withTransaction_atomic_iff env _ (pruneAll query) { c with locked := true } hauto
      (pruneAll_inside query)
      (fun _ tables => tables = trimmed query (expired query (env.clock c.readings) c.tables)) (by
        intro value c₁ h
        rcases pruneAll_cases env (Connection.begun { c with locked := true }) query with
          ⟨-, e, c', hrun, -⟩ | ⟨-, -, e, c', hrun, -⟩ | ⟨-, -, count, c', hrun, htables⟩
        · rw [hrun] at h
          cases h
        · rw [hrun] at h
          cases h
        · rw [hrun] at h
          cases h
          exact htables)
  refine ⟨result, { c' with locked := false }, ?_, ?_⟩
  · rw [prune, withLock_run hfree]
    change ((withTransaction (pruneAll query)).run.run (handler env) _).bind _ = _
    rw [htransaction]
    rfl
  · have hunchanged := pruneAll_unchanged_iff env { c with locked := true } query
    refine Iff.trans hatomic ?_
    rw [hunchanged]
    rfl

end Prune

/-- **Atomic writes.** Whatever fails in SQLite, an insert and a prune are atomic exactly when the
statements around their transaction work, or the transaction does not begin and nothing is
written. -/
theorem writes_atomic_iff (env : Environment) {c : Connection} (hfree : c.locked = false)
    (hauto : c.saved = none) :
    (∀ original, ∃ result c', (insert original).run.run (handler env) c = some (result, c')
      ∧ (Atomic c.tables (fun _ => HoldsRows (withId original (assigned env c original).1)) result c'
        ↔ InsertEnds env c original))
    ∧ ∀ query, ∃ result c', (prune query).run.run (handler env) c = some (result, c')
      ∧ (Atomic c.tables (fun _ tables =>
          tables = trimmed query (expired query (env.clock c.readings) c.tables)) result c'
        ↔ PruneEnds env c query) :=
  ⟨insert_atomic_iff hfree hauto, prune_atomic_iff hfree hauto⟩

/-- SQLite is busy, except for the two calls that write the row of a snapshot. -/
def busy : Environment :=
  { fault := fun n => if n = 1 ∨ n = 2 then none else some ⟨5, str "database is locked"⟩ }

theorem writes_atomic_iff_busy :
    emptyConnection.locked = false ∧ emptyConnection.saved = none
      ∧ ∃ result c', (insert deskSnapshot).run.run (handler busy) emptyConnection
          = some (result, c')
        ∧ (Atomic emptyConnection.tables
            (fun _ => HoldsRows (withId deskSnapshot (assigned busy emptyConnection deskSnapshot).1))
            result c'
          ↔ InsertEnds busy emptyConnection deskSnapshot) :=
  ⟨rfl, rfl, (writes_atomic_iff busy rfl rfl).1 deskSnapshot⟩

/-- BEGIN fails, the row of the snapshot is written, and the insert returns an error. -/
theorem not_writes_atomic_busy :
    ∃ result c', (insert deskSnapshot).run.run (handler busy) emptyConnection = some (result, c')
      ∧ ¬ Atomic emptyConnection.tables
        (fun _ => HoldsRows (withId deskSnapshot (assigned busy emptyConnection deskSnapshot).1))
        result c' := by
  have hinsert : (((insert deskSnapshot).run.run (handler busy) emptyConnection).any fun outcome =>
      outcome.1.toOption.isNone && (outcome.2.saved.getD outcome.2.tables .snapshots).length = 1)
        = true := by
    decide
  obtain ⟨⟨result, c'⟩, hrun, houtcome⟩ := (Option.any_eq_true _ _).mp hinsert
  simp only [Bool.and_eq_true, decide_eq_true_eq] at houtcome
  obtain ⟨herror, hrow⟩ := houtcome
  refine ⟨result, c', hrun, fun hatomic => ?_⟩
  cases result with
  | ok id => cases herror
  | error e =>
      rw [(hatomic.1 e rfl).1] at hrow
      cases hrow

end ContextSnap.Storage
