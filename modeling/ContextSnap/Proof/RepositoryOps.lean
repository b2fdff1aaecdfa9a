import ContextSnap.Storage.SnapshotRepository

/-!
# What the repository asks for

The operations that the statements of the repository consist of, for every predicate on operations,
and how a run goes on from one statement to the next.
-/

namespace ContextSnap.Storage

open Sql

/-! ### The operations of a program -/

/-- Every operation of `program` is in `good`. -/
def AllOps {α : Type} (good : Op → Prop) (program : Repo α) : Prop := program.run.All good

section AllOps

variable {good : Op → Prop} {α β : Type}

theorem AllOps.pure (value : α) : AllOps good (Pure.pure value : Repo α) := trivial

theorem AllOps.throw (e : Error) : AllOps good (MonadExcept.throw e : Repo α) := trivial

theorem AllOps.bind {program : Repo α} {next : α → Repo β} (h : AllOps good program)
    (hnext : ∀ value, AllOps good (next value)) : AllOps good (program >>= next) := by
  apply Program.All.bind h
  intro result
  cases result with
  | error e => trivial
  | ok value => exact hnext value

theorem AllOps.ask {op : Op} (h : good op) : AllOps good (ask op) :=
  ⟨h, fun _ => trivial⟩

theorem AllOps.attempt {program : Repo α} (h : AllOps good program) :
    AllOps good (attempt program) :=
  Program.All.bind h fun _ => trivial

theorem AllOps.discard {program : Repo α} (h : AllOps good program) :
    AllOps good (discard program) :=
  Program.All.bind h fun result => by cases result <;> trivial

theorem AllOps.forM {values : List β} {body : β → Repo Unit}
    (h : ∀ value ∈ values, AllOps good (body value)) : AllOps good (values.forM body) := by
  induction values with
  | nil => exact AllOps.pure ()
  | cons value values ih =>
      apply AllOps.bind (h value (by simp))
      intro _
      exact ih fun other hother => h other (by simp [hother])

theorem AllOps.orFail (what context : String) (answer : Except Failure α) :
    AllOps good (orFail what context answer) := by
  cases answer <;> trivial

theorem allOps_withLock {body : Repo α} (hlock : good .lock) (hunlock : good .unlock)
    (h : AllOps good body) : AllOps good (withLock body) :=
  Program.All.bind (Program.all_operation hlock) fun _ => Program.All.bind h fun _ =>
    Program.All.bind (Program.all_operation hunlock) fun _ => trivial

end AllOps

/-- An operation that concerns neither the mutex nor the transaction, and changes no table. -/
def Op.Plain : Op → Prop
  | .lock | .unlock | .exec _ | .dml _ _ => False
  | _ => True

/-- The statements that an insert of `snapshot` executes, and what it binds to them. -/
inductive Inserts (snapshot : Snapshot) : Dml Table → List SqlValue → Prop where
  | snapshot : Inserts snapshot insertSnapshots (snapshotValues snapshot)
  | monitor {monitor : MonitorInfo} (h : monitor ∈ snapshot.monitors) :
      Inserts snapshot insertMonitorsStatement (monitorValues snapshot.metadata.id monitor)
  | window {window : WindowInfo} (h : window ∈ snapshot.windows) :
      Inserts snapshot insertWindowsStatement (windowValues snapshot.metadata.id window)
  | tab {window : WindowInfo} {tab : TabInfo} (h : window ∈ snapshot.windows)
      (htab : tab ∈ window.tabs) (now : Timestamp) :
      Inserts snapshot insertTabsStatement (tabValues snapshot.metadata.id window.id now tab)
  | cursor : Inserts snapshot insertCursorStatement (cursorValues snapshot)
  | search : Inserts snapshot insertSearchStatement (searchValues snapshot)

section Statements

variable {good : Op → Prop} (hplain : ∀ op : Op, op.Plain → good op)

include hplain

theorem allOps_prepare (tables : List Table) : AllOps good (prepare tables) :=
  (AllOps.ask (hplain (.prepare tables) trivial)).bind fun _ => AllOps.orFail _ _ _

theorem allOps_rows (statement : Select Table) (values : List SqlValue)
    (expression : Option Bytes) : AllOps good (rows statement values expression) :=
  (AllOps.ask (hplain (.select statement values expression) trivial)).bind
    fun _ => AllOps.orFail _ _ _

omit hplain in
theorem allOps_exec {script : Script} (h : good (.exec script)) : AllOps good (exec script) :=
  (AllOps.ask h).bind fun _ => AllOps.orFail _ _ _

omit hplain in
theorem allOps_execute {statement : Dml Table} {values : List SqlValue}
    (h : good (.dml statement values)) : AllOps good (execute statement values) :=
  (AllOps.ask h).bind fun _ => AllOps.orFail _ _ _

omit hplain in
theorem allOps_withTransaction {α : Type} (hexec : ∀ script, good (.exec script)) {body : Repo α}
    (h : AllOps good body) : AllOps good (withTransaction body) := by
  apply AllOps.bind (allOps_exec (hexec _)).attempt
  intro begun
  apply AllOps.bind h.attempt
  intro result
  cases result with
  | ok value =>
      apply AllOps.bind ?_ fun _ => AllOps.pure _
      unfold commit
      split
      · exact allOps_exec (hexec _)
      · exact AllOps.throw _
  | error e =>
      apply AllOps.bind ?_ fun _ => AllOps.throw _
      unfold rollback
      split
      · exact (allOps_exec (hexec _)).attempt.discard
      · exact AllOps.pure _

section Insert

variable {snapshot : Snapshot}
  (hdml : ∀ statement values, Inserts snapshot statement values → good (.dml statement values))

include hdml

theorem allOps_insertMonitors : AllOps good (insertMonitors snapshot) := by
  apply AllOps.bind (allOps_prepare hplain _)
  intro _
  apply AllOps.forM
  intro monitor hmonitor
  exact allOps_execute (hdml _ _ (.monitor hmonitor))

theorem allOps_insertTabs {window : WindowInfo} (h : window ∈ snapshot.windows) :
    AllOps good (insertTabs snapshot.metadata.id window) := by
  unfold insertTabs
  split
  · exact AllOps.pure _
  · apply AllOps.bind (allOps_prepare hplain _)
    intro _
    apply AllOps.forM
    intro tab htab
    apply AllOps.bind (AllOps.ask (hplain .now trivial))
    intro now
    exact allOps_execute (hdml _ _ (.tab h htab now))

theorem allOps_insertWindows : AllOps good (insertWindows snapshot) := by
  apply AllOps.bind (allOps_prepare hplain _)
  intro _
  apply AllOps.forM
  intro window hwindow
  apply AllOps.bind (allOps_execute (hdml _ _ (.window hwindow)))
  intro _
  exact allOps_insertTabs hplain hdml hwindow

theorem allOps_insertCursor : AllOps good (insertCursor snapshot) := by
  apply AllOps.bind (allOps_prepare hplain _)
  intro _
  exact allOps_execute (hdml _ _ .cursor)

theorem allOps_indexForSearch : AllOps good (indexForSearch snapshot) := by
  apply AllOps.discard
  apply AllOps.attempt
  apply AllOps.bind (allOps_prepare hplain _)
  intro _
  exact allOps_execute (hdml _ _ .search)

theorem allOps_insertAll : AllOps good (insertAll snapshot) := by
  apply AllOps.bind (allOps_prepare hplain _)
  intro _
  apply AllOps.bind (allOps_execute (hdml _ _ .snapshot))
  intro _
  apply AllOps.bind (allOps_insertMonitors hplain hdml)
  intro _
  apply AllOps.bind (allOps_insertWindows hplain hdml)
  intro _
  apply AllOps.bind (allOps_insertCursor hplain hdml)
  intro _
  apply AllOps.bind (allOps_indexForSearch hplain hdml)
  intro _
  exact AllOps.pure _

end Insert

theorem allOps_loadMonitors (id : Bytes) : AllOps good (loadMonitors id) := by
  apply AllOps.bind (allOps_prepare hplain _)
  intro _
  exact (allOps_rows hplain _ _ _).bind fun _ => AllOps.pure _

theorem allOps_loadWindows (id : Bytes) : AllOps good (loadWindows id) := by
  apply AllOps.bind (allOps_prepare hplain _)
  intro _
  exact (allOps_rows hplain _ _ _).bind fun _ => AllOps.pure _

theorem allOps_loadTabs (id : Bytes) (windows : List WindowInfo) :
    AllOps good (loadTabs id windows) := by
  apply AllOps.bind (allOps_prepare hplain _)
  intro _
  exact (allOps_rows hplain _ _ _).bind fun _ => AllOps.pure _

theorem allOps_loadCursor (id : Bytes) : AllOps good (loadCursor id) := by
  apply AllOps.bind (allOps_prepare hplain _)
  intro _
  apply AllOps.bind (allOps_rows hplain _ _ _)
  intro found
  cases found <;> exact AllOps.pure _

theorem allOps_loadAll (id : Bytes) : AllOps good (loadAll id) := by
  apply AllOps.bind (allOps_prepare hplain _)
  intro _
  apply AllOps.bind (allOps_rows hplain _ _ _)
  intro found
  cases found with
  | nil => exact AllOps.throw _
  | cons row found =>
      apply AllOps.bind (allOps_loadMonitors hplain id)
      intro monitors
      apply AllOps.bind (allOps_loadWindows hplain id)
      intro windows
      apply AllOps.bind (allOps_loadTabs hplain id windows)
      intro windows
      exact (allOps_loadCursor hplain id).bind fun _ => AllOps.pure _

theorem allOps_resolveIdPrefix (hlock : good .lock) (hunlock : good .unlock) (idStart : Bytes) :
    AllOps good (resolveIdPrefix idStart) := by
  apply allOps_withLock hlock hunlock
  apply (allOps_prepare hplain _).bind
  intro _
  apply (allOps_rows hplain _ _ _).bind
  intro found
  match found with
  | [] => exact AllOps.throw _
  | [row] => exact AllOps.pure _
  | _ :: _ :: _ => exact AllOps.throw _

end Statements

/-! ### Runs -/

section Runs

variable {env : Environment} {α β : Type} {c c' : Connection}

theorem run_bind_ok {program : Repo α} {next : α → Repo β} {value : α}
    (h : program.run.run (handler env) c = some (.ok value, c')) :
    (program >>= next).run.run (handler env) c = (next value).run.run (handler env) c' := by
  have hbind : (program >>= next).run = program.run >>= ExceptT.bindCont next := rfl
  rw [hbind, Program.run_bind, h]
  rfl

theorem run_bind_error {program : Repo α} {next : α → Repo β} {e : Error}
    (h : program.run.run (handler env) c = some (.error e, c')) :
    (program >>= next).run.run (handler env) c = some (.error e, c') := by
  have hbind : (program >>= next).run = program.run >>= ExceptT.bindCont next := rfl
  rw [hbind, Program.run_bind, h]
  rfl

theorem run_bind_none {program : Repo α} {next : α → Repo β}
    (h : program.run.run (handler env) c = none) :
    (program >>= next).run.run (handler env) c = none := by
  have hbind : (program >>= next).run = program.run >>= ExceptT.bindCont next := rfl
  rw [hbind, Program.run_bind, h]
  rfl

theorem withLock_run {body : Repo α} (hfree : c.locked = false) :
    (withLock body).run.run (handler env) c
      = (body.run.run (handler env) { c with locked := true }).bind fun result =>
          some (result.1, { result.2 with locked := false }) := by
  have hlock : handler env .lock c = some ((), { c with locked := true }) := by
    simp [handler, hfree]
  have hscope : (withLock body).run
      = lock >>= fun _ => body.run >>= fun result => unlock >>= fun _ => pure result := rfl
  rw [hscope, lock, Program.operation_bind, Program.run_ask _ hlock, Program.run_bind]
  rfl

/-- A thread that holds the mutex waits for itself. -/
theorem withLock_blocks {body : Repo α} (hheld : c.locked = true) :
    (withLock body).run.run (handler env) c = none := by
  have hscope : (withLock body).run
      = lock >>= fun _ => body.run >>= fun result => unlock >>= fun _ => pure result := rfl
  rw [hscope, lock, Program.operation_bind]
  simp [Program.run, handler, hheld]

/-- A call into SQLite that works, with nothing that goes wrong. -/
theorem call_ok {work : Connection → Except Failure (α × Connection)} {value : α}
    (hfault : env.fault c.calls = none) (hwork : work c.counted = .ok (value, c')) :
    call env c work = (.ok value, c') := by
  simp [call, hfault, hwork]

theorem call_fault {work : Connection → Except Failure (α × Connection)} {failure : Failure}
    (hfault : env.fault c.calls = some failure) : call env c work = (.error failure, c.counted) := by
  simp [call, hfault]

theorem ask_run {op : Op} {answer : Answer op} (h : handler env op c = some (answer, c')) :
    (ask op).run.run (handler env) c = some (.ok answer, c') := by
  have hask : (ask op).run = .ask op fun answer => .done (.ok answer) := rfl
  rw [hask, Program.run_ask _ h]
  rfl

theorem attempt_run {program : Repo α} {result : Result α}
    (h : program.run.run (handler env) c = some (result, c')) :
    (attempt program).run.run (handler env) c = some (.ok result, c') := by
  have hattempt : (attempt program).run = program.run >>= fun result => pure (.ok result) := rfl
  rw [hattempt, Program.run_bind, h]
  rfl

theorem attempt_none {program : Repo α} (h : program.run.run (handler env) c = none) :
    (attempt program).run.run (handler env) c = none := by
  have hattempt : (attempt program).run = program.run >>= fun result => pure (.ok result) := rfl
  rw [hattempt, Program.run_bind, h]
  rfl

theorem prepare_ok (tables : List Table) (hfault : env.fault c.calls = none) :
    (prepare tables).run.run (handler env) c = some (.ok (), c.counted) := by
  have hwork : (fun c => .ok ((), c) : Connection → Except Failure (Unit × Connection)) c.counted
      = .ok ((), c.counted) := rfl
  have hanswer : handler env (.prepare tables) c = some (.ok (), c.counted) :=
    congrArg some (call_ok hfault hwork)
  exact run_bind_ok (ask_run hanswer)

theorem prepare_fault {failure : Failure} (tables : List Table)
    (hfault : env.fault c.calls = some failure) :
    (prepare tables).run.run (handler env) c
      = some (.error (sqliteError "prepare failed" "storage.prepare" failure), c.counted) := by
  have hanswer : handler env (.prepare tables) c = some (.error failure, c.counted) :=
    congrArg some (call_fault hfault)
  exact run_bind_ok (ask_run hanswer)

theorem execute_ok {statement : Dml Table} {values : List SqlValue}
    (hfault : env.fault c.calls = none)
    (hstatement : runStatement statement values c.counted = .ok ((), c')) :
    (execute statement values).run.run (handler env) c = some (.ok (), c') := by
  have hanswer : handler env (.dml statement values) c = some (.ok (), c') :=
    congrArg some (call_ok hfault hstatement)
  exact run_bind_ok (ask_run hanswer)

theorem execute_fault {failure : Failure} (statement : Dml Table) (values : List SqlValue)
    (hfault : env.fault c.calls = some failure) :
    (execute statement values).run.run (handler env) c
      = some (.error (sqliteError "step failed" "storage.statement" failure), c.counted) := by
  have hanswer : handler env (.dml statement values) c = some (.error failure, c.counted) :=
    congrArg some (call_fault hfault)
  exact run_bind_ok (ask_run hanswer)

end Runs

end ContextSnap.Storage
