import ContextSnap.Proof.RepositoryOps

/-!
# Lock discipline of the repository

Every operation takes the mutex, does its work without touching it, and gives it back, so that it
returns whatever SQLite answers. The exception is an update of stored metadata, which loads the
snapshot again while it holds the mutex.
-/

namespace ContextSnap.Storage

open Sql

/-! ### Programs that leave the mutex alone -/

def Op.KeepsMutex (op : Op) : Prop := op ≠ .lock ∧ op ≠ .unlock

theorem Op.lock_or_unlock {op : Op} (h : ¬ op.KeepsMutex) : op = .lock ∨ op = .unlock := by
  by_contra hneither
  exact h ⟨fun hlock => hneither (.inl hlock), fun hunlock => hneither (.inr hunlock)⟩

theorem Op.Plain.keepsMutex {op : Op} (h : op.Plain) : op.KeepsMutex := by
  cases op with
  | lock => exact h.elim
  | unlock => exact h.elim
  | _ => exact ⟨nofun, nofun⟩

theorem keepsMutex_exec (script : Script) : (Op.exec script).KeepsMutex := ⟨nofun, nofun⟩

theorem keepsMutex_dml (statement : Dml Table) (values : List SqlValue) :
    (Op.dml statement values).KeepsMutex :=
  ⟨nofun, nofun⟩

/-- A run that returns with the mutex free. -/
def Completes {α : Type} (env : Environment) (program : Repo α) (c : Connection) : Prop :=
  ∃ result c', program.run.run (handler env) c = some (result, c') ∧ c'.locked = false

section Mutex

variable {env : Environment} {α : Type}

/-- A call fails and is only counted, or it does its work. -/
theorem call_cases (env : Environment) (c : Connection)
    (work : Connection → Except Failure (α × Connection)) :
    (∃ failure, call env c work = (.error failure, c.counted))
      ∨ ∃ value c', work c.counted = .ok (value, c') ∧ call env c work = (.ok value, c') := by
  unfold call
  cases env.fault c.calls with
  | some failure => exact .inl ⟨failure, rfl⟩
  | none =>
      cases hwork : work c.counted with
      | error failure => exact .inl ⟨failure, by simp⟩
      | ok result => exact .inr ⟨result.1, result.2, rfl, by simp⟩

theorem call_locked (env : Environment) (c : Connection)
    {work : Connection → Except Failure (α × Connection)}
    (hwork : ∀ c value c', work c = .ok (value, c') → c'.locked = c.locked) :
    ∃ answer c', call env c work = (answer, c') ∧ c'.locked = c.locked := by
  rcases call_cases env c work with ⟨failure, hcall⟩ | ⟨value, c', hwork', hcall⟩
  · exact ⟨_, _, hcall, rfl⟩
  · exact ⟨_, _, hcall, hwork c.counted value c' hwork'⟩

theorem runScript_locked {script : Script} {c c' : Connection} {value : Unit}
    (h : runScript script c = .ok (value, c')) : c'.locked = c.locked := by
  unfold runScript at h
  split at h <;> cases h <;> rfl

theorem runStatement_locked {statement : Dml Table} {values : List SqlValue} {c c' : Connection}
    {value : Unit} (h : runStatement statement values c = .ok (value, c')) :
    c'.locked = c.locked := by
  unfold runStatement at h
  split at h <;> cases h
  rfl

theorem runSelect_eq {statement : Select Table} {values : List SqlValue}
    {expression : Option Bytes} {c c' : Connection} {found : List (List SqlValue)}
    (h : runSelect env statement values expression c = .ok (found, c')) : c' = c := by
  unfold runSelect at h
  split at h
  · cases h
    rfl
  · split at h <;> cases h
    rfl

theorem handler_keepsMutex (env : Environment) {op : Op} (h : op.KeepsMutex) (c : Connection) :
    ∃ answer c', handler env op c = some (answer, c') ∧ c'.locked = c.locked := by
  cases op with
  | lock => exact absurd rfl h.1
  | unlock => exact absurd rfl h.2
  | prepare tables =>
      have hwork : ∀ c value c', (.ok ((), c) : Except Failure (Unit × Connection)) = .ok (value, c')
          → c'.locked = c.locked := by
        rintro c value c' hok
        cases hok
        rfl
      obtain ⟨answer, c', hcall, hc'⟩ := call_locked env c hwork
      exact ⟨answer, c', congrArg some hcall, hc'⟩
  | exec script =>
      obtain ⟨answer, c', hcall, hc'⟩ := call_locked env c fun _ _ _ => runScript_locked
      exact ⟨answer, c', congrArg some hcall, hc'⟩
  | dml statement values =>
      obtain ⟨answer, c', hcall, hc'⟩ := call_locked env c fun _ _ _ => runStatement_locked
      exact ⟨answer, c', congrArg some hcall, hc'⟩
  | select statement values expression =>
      obtain ⟨answer, c', hcall, hc'⟩ := call_locked env c fun _ _ _ hok =>
        congrArg Connection.locked (runSelect_eq hok)
      exact ⟨answer, c', congrArg some hcall, hc'⟩
  | changes => exact ⟨_, _, rfl, rfl⟩
  | now => exact ⟨_, _, rfl, rfl⟩
  | generateUlid => exact ⟨_, _, rfl, rfl⟩

theorem returns_of_keepsMutex {program : Repo α} (h : AllOps Op.KeepsMutex program)
    (env : Environment) (c : Connection) :
    ∃ result c', program.run.run (handler env) c = some (result, c') ∧ c'.locked = c.locked := by
  have hstep : ∀ op (c' : Connection), op.KeepsMutex → c'.locked = c.locked →
      ∃ answer c'', handler env op c' = some (answer, c'') ∧ c''.locked = c.locked := by
    intro op c' hop hc'
    obtain ⟨answer, c'', hanswer, hc''⟩ := handler_keepsMutex env hop c'
    exact ⟨answer, c'', hanswer, hc''.trans hc'⟩
  exact Program.All.run_returns hstep h rfl

/-- **A locked scope.** A body that leaves the mutex alone runs to its end and the mutex is freed. -/
theorem withLock_completes {body : Repo α} (h : AllOps Op.KeepsMutex body) {c : Connection}
    (hfree : c.locked = false) : Completes env (withLock body) c := by
  obtain ⟨result, c', hrun, -⟩ := returns_of_keepsMutex h env { c with locked := true }
  refine ⟨result, { c' with locked := false }, ?_, rfl⟩
  rw [withLock_run hfree, hrun]
  rfl

theorem Completes.bind {β : Type} {program : Repo α} {next : α → Repo β} {c : Connection}
    (h : Completes env program c)
    (hnext : ∀ value (c' : Connection), c'.locked = false → Completes env (next value) c') :
    Completes env (program >>= next) c := by
  obtain ⟨result, c', hrun, hfree⟩ := h
  cases result with
  | error e => exact ⟨.error e, c', run_bind_error hrun, hfree⟩
  | ok value =>
      obtain ⟨result, c'', hrest, hfree'⟩ := hnext value c' hfree
      exact ⟨result, c'', (run_bind_ok hrun).trans hrest, hfree'⟩

theorem completes_discard {program : Repo α} {c : Connection} (h : Completes env program c) :
    Completes env (discard program) c := by
  have hdiscard : discard program = program >>= fun _ => pure () := rfl
  rw [hdiscard]
  exact h.bind fun _ c' hfree => ⟨.ok (), c', rfl, hfree⟩

end Mutex

/-! ### The operations -/

section Operations

variable {env : Environment} {c : Connection}

theorem plain_keepsMutex : ∀ op : Op, op.Plain → op.KeepsMutex := fun _ => Op.Plain.keepsMutex

theorem keepsMutex_prepare (tables : List Table) : AllOps Op.KeepsMutex (prepare tables) :=
  allOps_prepare plain_keepsMutex tables

theorem keepsMutex_rows (statement : Select Table) (values : List SqlValue)
    (expression : Option Bytes) : AllOps Op.KeepsMutex (rows statement values expression) :=
  allOps_rows plain_keepsMutex statement values expression

theorem keepsMutex_execute (statement : Dml Table) (values : List SqlValue) :
    AllOps Op.KeepsMutex (execute statement values) :=
  allOps_execute (keepsMutex_dml statement values)

theorem keepsMutex_changes : AllOps Op.KeepsMutex (ask .changes) :=
  AllOps.ask (plain_keepsMutex .changes trivial)

theorem keepsMutex_now : AllOps Op.KeepsMutex (ask .now) :=
  AllOps.ask (plain_keepsMutex .now trivial)

theorem insert_completes (snapshot : Snapshot) (hfree : c.locked = false) :
    Completes env (insert snapshot) c := by
  have hid : Completes env (assignId snapshot) c := by
    unfold assignId
    split
    · exact ⟨_, _, rfl, hfree⟩
    · exact ⟨_, _, rfl, hfree⟩
  apply hid.bind
  intro id c' hfree'
  split
  · exact withLock_completes (allOps_withTransaction keepsMutex_exec
      (allOps_insertAll plain_keepsMutex fun _ _ _ => keepsMutex_dml _ _)) hfree'
  · exact ⟨_, c', rfl, hfree'⟩

theorem load_completes (id : Bytes) (hfree : c.locked = false) : Completes env (load id) c :=
  withLock_completes (allOps_loadAll plain_keepsMutex id) hfree

theorem resolveIdPrefix_completes (idStart : Bytes) (hfree : c.locked = false) :
    Completes env (resolveIdPrefix idStart) c := by
  apply withLock_completes ?_ hfree
  apply (keepsMutex_prepare _).bind
  intro _
  apply (keepsMutex_rows _ _ _).bind
  intro found
  match found with
  | [] => exact AllOps.throw _
  | [row] => exact AllOps.pure _
  | _ :: _ :: _ => exact AllOps.throw _

theorem list_completes (query : ListQuery) (hfree : c.locked = false) :
    Completes env (list query) c := by
  apply withLock_completes ?_ hfree
  apply (keepsMutex_prepare _).bind
  intro _
  exact (keepsMutex_rows _ _ _).bind fun _ => AllOps.pure _

theorem latest_completes (hfree : c.locked = false) : Completes env latest c :=
  (list_completes _ hfree).bind fun _ c' hfree' => ⟨_, c', rfl, hfree'⟩

theorem remove_completes (id : Bytes) (hfree : c.locked = false) :
    Completes env (remove id) c := by
  apply withLock_completes ?_ hfree
  apply (keepsMutex_prepare _).bind
  intro _
  apply (keepsMutex_execute _ _).bind
  intro _
  apply keepsMutex_changes.bind
  intro changes
  split
  · exact AllOps.throw _
  · exact AllOps.pure _

theorem keepsMutex_pruneWith (statement : Dml Table) (value : Int64) :
    AllOps Op.KeepsMutex (pruneWith statement value) := by
  apply (keepsMutex_prepare _).bind
  intro _
  apply (keepsMutex_execute _ _).bind
  intro _
  exact keepsMutex_changes.bind fun _ => AllOps.pure _

theorem keepsMutex_pruneExpired (query : PruneQuery) :
    AllOps Op.KeepsMutex (pruneExpired query) := by
  unfold pruneExpired
  split
  · exact keepsMutex_now.bind fun _ => keepsMutex_pruneWith _ _
  · exact AllOps.pure _

theorem keepsMutex_pruneSurplus (query : PruneQuery) :
    AllOps Op.KeepsMutex (pruneSurplus query) := by
  unfold pruneSurplus
  split
  · exact keepsMutex_pruneWith _ _
  · exact AllOps.pure _

theorem prune_completes (query : PruneQuery) (hfree : c.locked = false) :
    Completes env (prune query) c := by
  apply withLock_completes ?_ hfree
  apply allOps_withTransaction keepsMutex_exec
  apply (keepsMutex_pruneExpired query).bind
  intro expired
  exact (keepsMutex_pruneSurplus query).bind fun _ => AllOps.pure _

theorem count_completes (hfree : c.locked = false) : Completes env count c := by
  apply withLock_completes ?_ hfree
  apply (keepsMutex_prepare _).bind
  intro _
  exact (keepsMutex_rows _ _ _).bind fun _ => AllOps.pure _

theorem search_completes (query : Bytes) (limit : UInt64) (hfree : c.locked = false) :
    Completes env (search query limit) c := by
  apply withLock_completes ?_ hfree
  apply (keepsMutex_prepare _).attempt.bind
  intro prepared
  cases prepared with
  | error e =>
      apply (keepsMutex_prepare _).bind
      intro _
      exact (keepsMutex_rows _ _ _).bind fun _ => AllOps.pure _
  | ok _ => exact (keepsMutex_rows _ _ _).bind fun _ => AllOps.pure _

theorem tags_completes (hfree : c.locked = false) : Completes env tags c := by
  apply withLock_completes ?_ hfree
  apply (keepsMutex_prepare _).bind
  intro _
  exact (keepsMutex_rows _ _ _).bind fun _ => AllOps.pure _

theorem maintenance_completes (hfree : c.locked = false) : Completes env maintenance c := by
  apply withLock_completes ?_ hfree
  exact (allOps_exec (keepsMutex_exec _)).bind fun _ => allOps_exec (keepsMutex_exec _)

/-! ### Updates of stored metadata -/

theorem updatedRow_admitted (metadata : SnapshotMetadata) (now : Timestamp) (row : Row) :
    ((schema .snapshots).columns.all fun column => !metadataColumns.contains column.name
      || column.admits (updatedRow metadataColumns (metadataValues metadata now) row column.name))
      = true := by
  cases hfavorite : metadata.favorite <;>
    simp [schema, snapshotColumns, textColumn, integerColumn, flagColumn, metadataColumns,
      metadataValues, updatedRow, List.lookup_cons, Column.admits, stored, SqlValue.ofBool, hfavorite]

/-- The UPDATE violates no constraint and changes the rows with the id. -/
theorem runDml_updateSnapshots (tables : Tables Table) (metadata : SnapshotMetadata)
    (now : Timestamp) :
    ∃ tables', runDml tables (metadataValues metadata now) updateSnapshots
      = .ok (tables', ((tables .snapshots).filter fun row => row "id" = .text metadata.id).length)
    := by
  have hupdate : ∀ matching : Row → Bool, updateRows schema tables .snapshots metadataColumns
      (metadataValues metadata now) matching = .ok _ := fun matching =>
    if_pos (List.all_eq_true.mpr fun row _ => updatedRow_admitted metadata now row)
  simp only [runDml, updateSnapshots, hupdate, bind, Except.bind]
  exact ⟨_, rfl⟩

/-- The load at the end of an update finds the mutex taken. -/
theorem refreshIndex_blocks (id : Bytes) (hheld : c.locked = true) :
    (refreshIndex id).run.run (handler env) c = none :=
  run_bind_none (attempt_none (withLock_blocks hheld))

/-- An update that finds its row, with nothing that goes wrong before. -/
def Relocks (env : Environment) (c : Connection) : Operation → Prop
  | .updateMetadata metadata =>
      env.fault c.calls = none ∧ env.fault (c.calls + 1) = none
        ∧ ∃ row ∈ c.tables .snapshots, row "id" = .text metadata.id
  | _ => False

theorem updateMetadata_completes_iff (metadata : SnapshotMetadata) (hfree : c.locked = false) :
    Completes env (updateMetadata metadata) c ↔ ¬ Relocks env c (.updateMetadata metadata) := by
  -- the connection at each statement of the body
  set c₁ : Connection := { c with locked := true } with hc₁
  set c₂ : Connection := { c₁.counted with readings := c.readings + 1 } with hc₂
  set now := env.clock c.readings
  have hnow : (ask .now).run.run (handler env) c₁.counted = some (.ok now, c₂) := ask_run rfl
  obtain ⟨tables, hdml⟩ := runDml_updateSnapshots c.tables metadata now
  set matched := (c.tables .snapshots).filter fun row => row "id" = .text metadata.id with hmatched
  set c₃ : Connection := { c₂.counted with tables, changes := matched.length } with hc₃
  have hstatement : runStatement updateSnapshots (metadataValues metadata now) c₂.counted
      = .ok ((), c₃) := by
    have htables : c₂.counted.tables = c.tables := rfl
    rw [runStatement, htables, hdml]
  have hchanges : (ask .changes).run.run (handler env) c₃ = some (.ok matched.length, c₃) :=
    ask_run rfl
  set body : Repo Unit := do
    prepare [.snapshots]
    let now ← ask .now
    execute updateSnapshots (metadataValues metadata now)
    if (← ask .changes) = 0 then throw (noSnapshot metadata.id) else refreshIndex metadata.id
    with hbody
  have hscope : updateMetadata metadata = withLock body := rfl
  have hreturns : ∀ result c', body.run.run (handler env) c₁ = some (result, c') →
      Completes env (updateMetadata metadata) c := by
    intro result c' hrun
    refine ⟨result, { c' with locked := false }, ?_, rfl⟩
    rw [hscope, withLock_run hfree, ← hc₁, hrun]
    rfl
  cases hprepare : env.fault c.calls with
  | some failure =>
      have hrun := hreturns _ _ (run_bind_error (prepare_fault [.snapshots] hprepare))
      simp [Relocks, hprepare, hrun]
  | none =>
      have hprepared := prepare_ok (c := c₁) [.snapshots] hprepare
      cases hexecute : env.fault (c.calls + 1) with
      | some failure =>
          have hrun := hreturns _ _ <| (run_bind_ok hprepared).trans <| (run_bind_ok hnow).trans <|
            run_bind_error (execute_fault _ _ hexecute)
          simp [Relocks, hexecute, hrun]
      | none =>
          have hupdated : body.run.run (handler env) c₁
              = (if matched.length = 0 then throw (noSnapshot metadata.id)
                  else refreshIndex metadata.id : Repo Unit).run.run (handler env) c₃ :=
            (run_bind_ok hprepared).trans <| (run_bind_ok hnow).trans <|
              (run_bind_ok (execute_ok hexecute hstatement)).trans (run_bind_ok hchanges)
          by_cases hfound : matched.length = 0
          · rw [if_pos hfound] at hupdated
            have hrun := hreturns _ _ hupdated
            rw [hmatched, List.length_eq_zero_iff, List.filter_eq_nil_iff] at hfound
            have hnone : ¬ ∃ row ∈ c.tables .snapshots, row "id" = .text metadata.id := by
              rintro ⟨row, hrow, hid⟩
              exact hfound row hrow (by simpa using hid)
            exact iff_of_true hrun fun hrelocks => hnone hrelocks.2.2
          · rw [if_neg hfound, refreshIndex_blocks metadata.id rfl] at hupdated
            obtain ⟨row, hrow⟩ := List.exists_mem_of_length_pos (Nat.pos_of_ne_zero hfound)
            obtain ⟨hmem, hid⟩ := List.mem_filter.mp hrow
            have hrelocks : Relocks env c (.updateMetadata metadata) :=
              ⟨hprepare, hexecute, row, hmem, by simpa using hid⟩
            refine iff_of_false ?_ (not_not_intro hrelocks)
            rintro ⟨result, c', hrun, -⟩
            rw [hscope, withLock_run hfree, ← hc₁, hupdated] at hrun
            cases hrun

/-- **Lock discipline.** An operation that finds the mutex free returns and leaves it free, except
for an update of the metadata of a stored snapshot, which waits for the mutex that it holds. -/
theorem operation_completes_iff (env : Environment) (operation : Operation) {c : Connection}
    (hfree : c.locked = false) :
    Completes env operation.program c ↔ ¬ Relocks env c operation := by
  cases operation with
  | updateMetadata metadata => exact updateMetadata_completes_iff metadata hfree
  | insert snapshot => exact iff_of_true (completes_discard (insert_completes snapshot hfree)) not_false
  | load id => exact iff_of_true (completes_discard (load_completes id hfree)) not_false
  | resolveIdPrefix idStart =>
      exact iff_of_true (completes_discard (resolveIdPrefix_completes idStart hfree)) not_false
  | list query => exact iff_of_true (completes_discard (list_completes query hfree)) not_false
  | latest => exact iff_of_true (completes_discard (latest_completes hfree)) not_false
  | remove id => exact iff_of_true (remove_completes id hfree) not_false
  | prune query => exact iff_of_true (completes_discard (prune_completes query hfree)) not_false
  | count => exact iff_of_true (completes_discard (count_completes hfree)) not_false
  | search query limit =>
      exact iff_of_true (completes_discard (search_completes query limit hfree)) not_false
  | tags => exact iff_of_true (completes_discard (tags_completes hfree)) not_false
  | maintenance => exact iff_of_true (maintenance_completes hfree) not_false

end Operations

def emptyConnection : Connection := { tables := fun _ => [] }

def deskSnapshot : Snapshot :=
  { metadata := { id := str "01J8Z2K3M4N5P6Q7R8S9T0V1W2", name := str "desk" } }

theorem insert_deskSnapshot :
    ∃ c, (insert deskSnapshot).run.run (handler {}) emptyConnection
        = some (.ok deskSnapshot.metadata.id, c)
      ∧ c.locked = false
      ∧ ∃ row ∈ c.tables .snapshots, row "id" = .text deskSnapshot.metadata.id := by
  have hinsert : (((insert deskSnapshot).run.run (handler {}) emptyConnection).any fun result =>
      result.1.toOption == some deskSnapshot.metadata.id && !result.2.locked
        && (result.2.tables .snapshots).any fun row =>
          row "id" = .text deskSnapshot.metadata.id) = true := by
    decide
  obtain ⟨⟨result, c⟩, hrun, hresult⟩ := (Option.any_eq_true _ _).mp hinsert
  simp only [Bool.and_eq_true, beq_iff_eq, Bool.not_eq_true', List.any_eq_true,
    decide_eq_true_eq] at hresult
  obtain ⟨⟨hid, hfree⟩, hrow⟩ := hresult
  cases result with
  | error e => exact absurd hid nofun
  | ok id =>
      cases hid
      exact ⟨c, hrun, hfree, hrow⟩

/-- An update of the only snapshot of a database and a listing of it. -/
theorem operations_after_insert_deskSnapshot :
    ∃ c, (insert deskSnapshot).run.run (handler {}) emptyConnection
        = some (.ok deskSnapshot.metadata.id, c)
      ∧ (Completes {} (Operation.updateMetadata deskSnapshot.metadata).program c
        ↔ ¬ Relocks {} c (.updateMetadata deskSnapshot.metadata))
      ∧ (Completes {} (Operation.list {}).program c ↔ ¬ Relocks {} c (.list {})) := by
  obtain ⟨c, hrun, hfree, -⟩ := insert_deskSnapshot
  exact ⟨c, hrun, operation_completes_iff {} _ hfree, operation_completes_iff {} _ hfree⟩

/-- The update after the insert never returns. -/
theorem not_all_operations_complete :
    ¬ ∀ (env : Environment) (operation : Operation) (c : Connection), c.locked = false →
      Completes env operation.program c := by
  intro h
  obtain ⟨c, -, hfree, hrow⟩ := insert_deskSnapshot
  have hcompletes := h {} (.updateMetadata deskSnapshot.metadata) c hfree
  exact (updateMetadata_completes_iff _ hfree).mp hcompletes ⟨rfl, rfl, hrow⟩

end ContextSnap.Storage
