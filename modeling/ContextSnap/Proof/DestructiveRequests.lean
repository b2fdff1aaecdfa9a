import ContextSnap.Daemon.Handlers
import ContextSnap.Proof.IdPrefixes
import ContextSnap.Proof.SearchIndex

/-!
# Requests without an id

A `snapshot_id` that is missing, empty or not a text becomes the pattern `%`, which every id
matches, so that the request goes through when there is just one snapshot.
-/

namespace ContextSnap.Storage

open Sql

/-! ### The mutex out of the way -/

section Mutex

variable {env : Environment} {α : Type} {c c' : Connection}

theorem call_set_locked {work : Connection → Except Failure (α × Connection)} (locked : Bool)
    (hwork : ∀ c, work { c with locked }
      = (work c).map fun result => (result.1, { result.2 with locked })) :
    call env { c with locked } work
      = ((call env c work).1, { (call env c work).2 with locked }) := by
  have hcounted : Connection.counted { c with locked } = { c.counted with locked } := rfl
  unfold call
  cases env.fault c.calls with
  | some failure => rfl
  | none =>
      simp only [hcounted, hwork]
      cases work c.counted <;> rfl

theorem runScript_set_locked (script : Script) (locked : Bool) (c : Connection) :
    runScript script { c with locked }
      = (runScript script c).map fun result => (result.1, { result.2 with locked }) := by
  obtain ⟨tables, saved, changes, held, calls, readings, ulids⟩ := c
  cases script <;> cases saved <;> rfl

theorem runStatement_set_locked (statement : Dml Table) (values : List SqlValue) (locked : Bool)
    (c : Connection) :
    runStatement statement values { c with locked }
      = (runStatement statement values c).map fun result =>
          (result.1, { result.2 with locked }) := by
  unfold runStatement
  cases runDml c.tables values statement <;> rfl

theorem runSelect_set_locked (statement : Select Table) (values : List SqlValue)
    (expression : Option Bytes) (locked : Bool) (c : Connection) :
    runSelect env statement values expression { c with locked }
      = (runSelect env statement values expression c).map fun result =>
          (result.1, { result.2 with locked }) := by
  unfold runSelect
  cases expression with
  | none => rfl
  | some expression =>
      cases hfound : env.fullText expression (c.tables .snapshotSearch) <;>
        simp only [hfound] <;> rfl

/-- Whether somebody has the mutex makes no difference to the other operations. -/
theorem handler_set_locked {op : Op} (h : op.KeepsMutex) (locked : Bool) (c : Connection) :
    handler env op { c with locked }
      = (handler env op c).map fun result => (result.1, { result.2 with locked }) := by
  cases op with
  | lock => exact absurd rfl h.1
  | unlock => exact absurd rfl h.2
  | prepare tables => exact congrArg some (call_set_locked locked fun _ => rfl)
  | exec script => exact congrArg some (call_set_locked locked (runScript_set_locked script locked))
  | dml statement values =>
      exact congrArg some (call_set_locked locked (runStatement_set_locked statement values locked))
  | select statement values expression =>
      exact congrArg some
        (call_set_locked locked (runSelect_set_locked statement values expression locked))
  | changes => rfl
  | now => rfl
  | generateUlid => rfl

theorem reentrant_of_handler {op : Op} {answer : Answer op} (locked : Bool)
    (h : handler env op c = some (answer, c')) :
    reentrantHandler env op { c with locked } = some (answer, { c' with locked }) := by
  by_cases hop : op.KeepsMutex
  · rw [reentrantHandler_eq hop, handler_set_locked hop, h]
    rfl
  · rcases Op.lock_or_unlock hop with rfl | rfl
    · change (if c.locked then none else some _) = _ at h
      split at h <;> cases h
      rfl
    · cases h
      rfl

/-- What returns with the mutex also returns without it. -/
theorem reentrant_of_run {program : Program Op Answer α} {value : α} (locked : Bool)
    (h : program.run (handler env) c = some (value, c')) :
    program.run (reentrantHandler env) { c with locked } = some (value, { c' with locked }) := by
  obtain ⟨d, hrun, rfl⟩ := Program.run_simulates (R := fun c d => d = { c with locked })
    (fun op c answer c' d hd hanswer =>
      ⟨{ c' with locked }, hd ▸ reentrant_of_handler locked hanswer, rfl⟩) rfl h
  exact hrun

theorem reentrant_of_free {program : Program Op Answer α} {value : α} (hfree : c.locked = false)
    (hfree' : c'.locked = false) (h : program.run (handler env) c = some (value, c')) :
    program.run (reentrantHandler env) c = some (value, c') := by
  have hsame := reentrant_of_run false h
  have hunlocked : ∀ d : Connection, d.locked = false → { d with locked := false } = d := by
    rintro ⟨⟩ hd
    cases hd
    rfl
  rwa [hunlocked c hfree, hunlocked c' hfree'] at hsame

end Mutex

/-! ### Lookups and deletions -/

section Calls

variable {env : Environment} {c c' : Connection}

/-- A lookup that succeeds found what there is to find. -/
theorem resolveIdPrefix_inv {idStart id : Bytes}
    (h : (resolveIdPrefix idStart).run.run (reentrantHandler env) c = some (.ok id, c')) :
    resolution idStart (foundIds idStart c.tables) = .ok id := by
  rw [resolveIdPrefix_eq, reentrant_withLock] at h
  obtain ⟨_, c₁, hprepare, h⟩ := Program.run_except_bind_inv h
  obtain ⟨found, c₂, hrows, h⟩ := Program.run_except_bind_inv h
  have hsame : c₁.tables = c.tables := tables_of_reads (allOps_prepare reads_plain _) hprepare
  have hfound := rows_inv hrows
  rw [hsame] at hfound
  rw [← resolution_take, ← rows_selectIdsLike, ← hfound]
  rcases found with _ | ⟨row, _ | ⟨other, rest⟩⟩
  · cases h
  · cases h
    rfl
  · cases h

theorem length_foundIds_nil (tables : Tables Table) :
    (foundIds [] tables).length = (tables .snapshots).length := by
  have hall : likeIds [] tables = storedIds tables :=
    List.filter_eq_self.mpr fun id _ => like_percent id
  rw [(foundIds_perm [] tables).length_eq, hall, storedIds, List.length_map]

/-- Without characters to look for, a lookup fails unless there is just one snapshot. -/
theorem lookup_fails (env : Environment) (hfree : c.locked = false)
    (hmany : (c.tables .snapshots).length ≠ 1) :
    ∃ e c', (resolveIdPrefix []).run.run (handler env) c = some (.error e, c')
      ∧ (resolveIdPrefix []).run.run (reentrantHandler env) c = some (.error e, c')
      ∧ c'.tables = c.tables := by
  have hcompletes : Completes env (resolveIdPrefix []) c := resolveIdPrefix_completes [] hfree
  obtain ⟨result, c', hrun, hfree'⟩ := hcompletes
  have hreentrant := reentrant_of_free hfree hfree' hrun
  have htables := tables_of_reads (reads_resolveIdPrefix []) hreentrant
  cases result with
  | error e => exact ⟨e, c', hrun, hreentrant, htables⟩
  | ok id =>
      have hfound := resolution_eq_ok.mp (resolveIdPrefix_inv hreentrant)
      refine absurd ?_ hmany
      rw [← length_foundIds_nil, hfound]
      rfl

theorem id_text {rows : List Row} (hrows : Constrained (schema .snapshots) rows) {row : Row}
    (hrow : row ∈ rows) : ∃ id, row "id" = .text id := by
  have hadmits := hrows.admitted row hrow (textColumn "id" none) (List.mem_cons_self ..)
  cases hvalue : row "id" with
  | text id => exact ⟨id, rfl⟩
  | _ => simp [Column.admits, textColumn, hvalue] at hadmits

/-- The rows that a DELETE by id is about. -/
def rowsNamed (id : Bytes) (tables : Tables Table) : List Row :=
  (tables .snapshots).filter fun row => row "id" = .text id

theorem runDml_deleteSnapshot (id : Bytes) (tables : Tables Table) :
    runDml tables [.text id] deleteSnapshot
      = .ok (afterStatement deleteSnapshot [.text id] tables, (rowsNamed id tables).length) := by
  rfl

theorem remove_inv {id : Bytes}
    (h : (remove id).run.run (reentrantHandler env) c = some (.ok (), c')) :
    rowsNamed id c.tables ≠ []
      ∧ c'.tables = afterStatement deleteSnapshot [.text id] c.tables := by
  rw [remove, reentrant_withLock] at h
  obtain ⟨_, c₁, hprepare, h⟩ := Program.run_except_bind_inv h
  have hsame : c₁.tables = c.tables := tables_of_reads (allOps_prepare reads_plain _) hprepare
  obtain ⟨_, c₂, hexecute, h⟩ := Program.run_except_bind_inv h
  obtain ⟨changes, c₃, hchanges, h⟩ := Program.run_except_bind_inv h
  rw [reentrant_keepsMutex (keepsMutex_execute _ _)] at hexecute
  rcases execute_cases env c₁ deleteSnapshot [.text id] with ⟨failure, hfail⟩ | ⟨_, _, hdml, hok⟩
  · rw [hfail] at hexecute
    cases hexecute
  · rw [runDml_deleteSnapshot, hsame] at hdml
    cases hdml
    rw [hok] at hexecute
    cases hexecute
    cases ask_inv hchanges
    split at h
    · cases h
    · rename_i hchanged
      cases h
      exact ⟨fun hnone => hchanged (by simp [hnone]), rfl⟩

/-- Where SQLite works, what is stored can be deleted. -/
theorem remove_run (hworks : ∀ n, env.fault n = none) {id : Bytes}
    (h : rowsNamed id c.tables ≠ []) :
    ∃ c', (remove id).run.run (reentrantHandler env) c = some (.ok (), c') := by
  set after : Connection := { c.counted.counted with
    tables := afterStatement deleteSnapshot [.text id] c.tables
    changes := (rowsNamed id c.tables).length }
  have hprepare : (prepare [.snapshots]).run.run (reentrantHandler env) c
      = some (.ok (), c.counted) := by
    rw [reentrant_keepsMutex (keepsMutex_prepare _), prepare_ok _ (hworks _)]
  have hstatement : runStatement deleteSnapshot [.text id] c.counted.counted
      = .ok ((), after) := rfl
  have hexecute : (execute deleteSnapshot [.text id]).run.run (reentrantHandler env) c.counted
      = some (.ok (), after) := by
    rw [reentrant_keepsMutex (keepsMutex_execute _ _), execute_ok (hworks _) hstatement]
  have hchanges : (ask .changes).run.run (reentrantHandler env) after
      = some (.ok after.changes, after) := rfl
  have hsome : after.changes ≠ 0 := fun hnone => h (List.length_eq_zero_iff.mp hnone)
  refine ⟨after, ?_⟩
  rw [remove, reentrant_withLock, Program.run_except_bind_ok hprepare,
    Program.run_except_bind_ok hexecute, Program.run_except_bind_ok hchanges, if_neg hsome]
  rfl

/-- Where SQLite works, what is stored can be loaded. -/
theorem load_run (hworks : ∀ n, env.fault n = none) {id : Bytes} (h : rowsNamed id c.tables ≠ []) :
    ∃ loaded c', (load id).run.run (reentrantHandler env) c = some (.ok loaded, c')
      ∧ loaded.metadata.id = id ∧ c'.tables = c.tables := by
  obtain ⟨row, hrow⟩ := List.exists_mem_of_ne_nil _ h
  obtain ⟨hmem, hid⟩ := List.mem_filter.mp hrow
  obtain ⟨loaded, c', hloadAll⟩ := loadAll_succeeds hworks ⟨row, hmem, of_decide_eq_true hid⟩
  have hload : (load id).run.run (reentrantHandler env) c = some (.ok loaded, c') := by
    rw [load, reentrant_withLock, reentrant_keepsMutex (allOps_loadAll plain_keepsMutex id),
      hloadAll]
  exact ⟨loaded, c', hload, metadata_id_of_current (load_metadata hload),
    tables_of_reads (reads_load id) hload⟩

/-- Where SQLite works, the metadata of what is stored can be updated. -/
theorem updateMetadata_run (hworks : ∀ n, env.fault n = none) {metadata : SnapshotMetadata}
    (h : rowsNamed metadata.id c.tables ≠ []) {result : Result Unit}
    (hrun : (updateMetadata metadata).run.run (reentrantHandler env) c = some (result, c')) :
    result = .ok () := by
  obtain ⟨row, hrow⟩ := List.exists_mem_of_ne_nil _ h
  obtain ⟨hmem, hid⟩ := List.mem_filter.mp hrow
  rcases updateMetadata_cases hrun with ⟨-, hrelocks, -⟩ | ⟨hok, -⟩
  · exact absurd ⟨hworks _, hworks _, row, hmem, of_decide_eq_true hid⟩ hrelocks
  · exact hok

end Calls

end ContextSnap.Storage

namespace ContextSnap.Daemon

open Json (Value)
open SnapshotManager (Action Answer Op Surroundings)
open Sql (Constrained Row)
open Storage (Connection foundIds resolution rowsNamed)

/-! ### Requests that name nothing -/

/-- Parameters without an id: it is missing, empty or not a text. -/
def NamesNothing (params : Value) : Prop :=
  ∀ text, params.find (str "snapshot_id") = some (.string text) → text = []

theorem stringParam_of_namesNothing {params : Value} (h : NamesNothing params) :
    stringParam params (str "snapshot_id") = [] := by
  unfold stringParam
  cases hfind : params.find (str "snapshot_id") with
  | none => rfl
  | some value =>
      cases value with
      | string text => exact h text hfind
      | _ => rfl

section Refused

variable {σ : Type} (handler : (op : Op) → σ × Connection → Option (Answer op × (σ × Connection)))

/-- A request that returns an error and leaves every table as it is. -/
def Refused (action : Action Reply) (s : σ) (c : Connection) : Prop :=
  ∃ e s' c', action.run.run handler (s, c) = some (.error e, (s', c')) ∧ c'.tables = c.tables

variable {handler} {params : Value} {s : σ} {c c' : Connection}

theorem repository_eq (operation : Storage.Operation) (state : σ × Connection) :
    (SnapshotManager.repository operation).run.run handler state
      = handler (.repository operation) state := by
  have hask : (SnapshotManager.repository operation).run
      = Program.ask (Op.repository operation) Program.done := rfl
  rw [hask]
  exact (Program.run_ask_eq _ _ _ _).trans (Option.bind_fun_some _)

/-- What a request does to the snapshot with the id that it finds. -/
def ChangeRequest.change (params : Value) : ChangeRequest → Bytes → Action Unit
  | .delete => SnapshotManager.remove
  | .rename => (SnapshotManager.rename · (stringParam params (str "name")))
  | .tag => (SnapshotManager.setTags · (stringList params (str "tags")))
  | .favorite => (SnapshotManager.setFavorite · (boolParam params (str "favorite") true))

/-- The event that a request publishes. -/
def ChangeRequest.event : ChangeRequest → Ipc.EventType
  | .delete => .snapshotDeleted
  | _ => .snapshotUpdated

theorem ChangeRequest.handler_eq (params : Value) (request : ChangeRequest) :
    ∃ result, request.handler params
      = changeSnapshot params (request.change params) request.event result := by
  cases request with
  | delete => exact ⟨_, rfl⟩
  | rename => exact ⟨_, rfl⟩
  | tag => exact ⟨_, rfl⟩
  | favorite => exact ⟨_, rfl⟩

/-- A request deletes the snapshot, or it edits its metadata and keeps their id. -/
theorem ChangeRequest.change_cases (params : Value) (request : ChangeRequest) :
    request = .delete ∧ request.change params = SnapshotManager.remove
      ∨ request ≠ .delete ∧ ∃ change : SnapshotMetadata → SnapshotMetadata,
        (∀ metadata, (change metadata).id = metadata.id)
          ∧ request.change params = (SnapshotManager.edit · change) := by
  cases request with
  | delete => exact .inl ⟨rfl, rfl⟩
  | rename =>
      exact .inr ⟨by decide, fun metadata =>
        { metadata with name := stringParam params (str "name") }, fun _ => rfl, rfl⟩
  | tag =>
      exact .inr ⟨by decide, fun metadata =>
        { metadata with tags := stringList params (str "tags") }, fun _ => rfl, rfl⟩
  | favorite =>
      exact .inr ⟨by decide, fun metadata =>
        { metadata with favorite := boolParam params (str "favorite") true }, fun _ => rfl, rfl⟩

/-- A request without an id fails when its change does, and only then. -/
theorem refused_iff_change (hparams : NamesNothing params) (request : ChangeRequest) :
    Refused handler (request.handler params) s c
      ↔ ∃ e s' c', (request.change params []).run.run handler (s, c) = some (.error e, (s', c'))
        ∧ c'.tables = c.tables := by
  obtain ⟨result, heq⟩ := request.handler_eq params
  rw [Refused, heq, changeSnapshot, stringParam_of_namesNothing hparams]
  constructor
  · rintro ⟨e, s', c', hrun, hsame⟩
    rcases Program.run_except_bind_cases hrun with ⟨_, herror, hchange⟩ | ⟨_, _, -, hdone⟩
    · cases herror
      exact ⟨e, s', c', hchange, hsame⟩
    · cases hdone
  · rintro ⟨e, s', c', hchange, hsame⟩
    exact ⟨e, s', c', Program.run_except_bind_error hchange, hsame⟩

/-- Whatever the request, it starts with the lookup of its id. -/
theorem change_error {e : Error} {id : Bytes} (request : ChangeRequest)
    (h : handler (.repository (.resolveIdPrefix id)) (s, c) = some (.error e, (s, c'))) :
    (request.change params id).run.run handler (s, c) = some (.error e, (s, c')) := by
  have hlookup := (repository_eq (.resolveIdPrefix id) (s, c)).trans h
  rcases request.change_cases params with ⟨-, hremove⟩ | ⟨-, change, -, hedit⟩
  · rw [hremove]
    exact Program.run_except_bind_error hlookup
  · rw [hedit]
    exact Program.run_except_bind_error (Program.run_except_bind_error
      (Program.run_except_bind_error hlookup))

end Refused

section Requests

variable {σ : Type} {around : Surroundings σ} {params : Value} {s : σ} {c : Connection}

theorem refused_of_many (hparams : NamesNothing params) (hfree : c.locked = false)
    (hmany : (c.tables .snapshots).length ≠ 1) (request : ChangeRequest) :
    Refused (SnapshotManager.handler around) (request.handler params) s c
      ∧ Refused (reentrantHandler around) (request.handler params) s c := by
  obtain ⟨e, c', hrun, hreentrant, hsame⟩ := Storage.lookup_fails around.storage hfree hmany
  rw [refused_iff_change hparams, refused_iff_change hparams]
  refine ⟨⟨e, s, c', change_error request ?_, hsame⟩, ⟨e, s, c', change_error request ?_, hsame⟩⟩
  · exact congrArg (Option.map _) hrun
  · exact congrArg (Option.map _) hreentrant

/-- What returns with the mutex also returns without it. -/
theorem reentrant_of_run {α : Type} {program : Program Op Answer α} {value : α} {s' : σ}
    {c' : Connection} (locked : Bool)
    (h : program.run (SnapshotManager.handler around) (s, c) = some (value, (s', c'))) :
    program.run (reentrantHandler around) (s, { c with locked })
      = some (value, (s', { c' with locked })) := by
  let R : σ × Connection → σ × Connection → Prop := fun state other =>
    other = (state.1, { state.2 with locked })
  have hstep : ∀ op state answer state' other, R state other →
      SnapshotManager.handler around op state = some (answer, state') →
        ∃ other', reentrantHandler around op other = some (answer, other') ∧ R state' other' := by
    rintro op ⟨s, c⟩ answer ⟨s', c'⟩ other rfl hanswer
    refine ⟨(s', { c' with locked }), ?_, rfl⟩
    cases op with
    | hal op =>
        obtain ⟨result, hresult, hdone⟩ := Option.map_eq_some_iff.mp hanswer
        cases hdone
        exact congrArg (Option.map _) hresult
    | getenv name =>
        cases hanswer
        rfl
    | repository operation =>
        obtain ⟨result, hresult, hdone⟩ := Option.map_eq_some_iff.mp hanswer
        cases hdone
        exact congrArg (Option.map _) (Storage.reentrant_of_run locked hresult)
    | direct op =>
        obtain ⟨result, hresult, hdone⟩ := Option.map_eq_some_iff.mp hanswer
        cases hdone
        exact congrArg (Option.map _) (Storage.reentrant_of_handler locked hresult)
  obtain ⟨other, hrun, rfl⟩ := Program.run_simulates hstep rfl h
  exact hrun

theorem reentrant_of_refused {action : Action Reply} (hfree : c.locked = false)
    (h : Refused (SnapshotManager.handler around) action s c) :
    Refused (reentrantHandler around) action s c := by
  obtain ⟨e, s', c', hrun, hsame⟩ := h
  have hreentrant := reentrant_of_run false hrun
  have hunlocked : { c with locked := false } = c := by rw [← hfree]
  rw [hunlocked] at hreentrant
  exact ⟨e, s', { c' with locked := false }, hreentrant, hsame⟩

/-- A request whose lookup finds a stored snapshot does not fail. -/
theorem change_succeeds (hworks : ∀ n, around.storage.fault n = none) {idStart id : Bytes}
    {c₁ : Connection}
    (hlookup : (Storage.resolveIdPrefix idStart).run.run (Storage.reentrantHandler around.storage) c
      = some (.ok id, c₁))
    (hstored : rowsNamed id c₁.tables ≠ []) (request : ChangeRequest) {result : Result Unit}
    {state : σ × Connection}
    (hrun : (request.change params idStart).run.run (reentrantHandler around) (s, c)
      = some (result, state)) : result = .ok () := by
  have hfinds : (SnapshotManager.repository (.resolveIdPrefix idStart)).run.run
      (reentrantHandler around) (s, c) = some (.ok id, (s, c₁)) :=
    (repository_eq _ _).trans (congrArg (Option.map _) hlookup)
  rcases request.change_cases params with ⟨-, hremove⟩ | ⟨-, change, hkeeps, hedit⟩
  · obtain ⟨c₂, hdeleted⟩ := Storage.remove_run hworks hstored
    have hdeletes : (SnapshotManager.repository (.remove id)).run.run (reentrantHandler around)
        (s, c₁) = some (.ok (), (s, c₂)) :=
      (repository_eq _ _).trans (congrArg (Option.map _) hdeleted)
    rw [hremove, SnapshotManager.remove, Program.run_except_bind_ok hfinds, hdeletes] at hrun
    cases hrun
    rfl
  · obtain ⟨loaded, c₂, hload, hid, hsame⟩ := Storage.load_run hworks hstored
    have hloads : (SnapshotManager.repository (.load id)).run.run (reentrantHandler around) (s, c₁)
        = some (.ok loaded, (s, c₂)) :=
      (repository_eq _ _).trans (congrArg (Option.map _) hload)
    have hget : (SnapshotManager.get idStart).run.run (reentrantHandler around) (s, c)
        = some (.ok loaded, (s, c₂)) := (Program.run_except_bind_ok hfinds).trans hloads
    have hcurrent : (SnapshotManager.currentMetadata idStart).run.run (reentrantHandler around)
        (s, c) = some (.ok loaded.metadata, (s, c₂)) := Program.run_except_bind_ok hget
    rw [hedit] at hrun
    change (SnapshotManager.edit idStart change).run.run _ _ = _ at hrun
    rw [SnapshotManager.edit, Program.run_except_bind_ok hcurrent] at hrun
    rcases Program.run_except_bind_cases hrun with ⟨e, -, hnow⟩ | ⟨now, ⟨s₃, c₃⟩, hnow, hupdate⟩
    · cases hnow
    cases hnow
    rw [repository_eq] at hupdate
    obtain ⟨updated, hupdated, hdone⟩ := Option.map_eq_some_iff.mp hupdate
    cases hdone
    refine Storage.updateMetadata_run hworks ?_ hupdated
    change rowsNamed (change loaded.metadata).id c₂.tables ≠ []
    rw [hkeeps, hid, hsame]
    exact hstored

/-- With one stored snapshot the lookup finds it. -/
theorem not_refused_of_one (hworks : ∀ n, around.storage.fault n = none)
    (hparams : NamesNothing params) (hfree : c.locked = false)
    (hrows : Constrained (Storage.schema .snapshots) (c.tables .snapshots))
    (hone : (c.tables .snapshots).length = 1) (request : ChangeRequest) :
    ¬ Refused (reentrantHandler around) (request.handler params) s c := by
  obtain ⟨row, hrow⟩ := List.length_eq_one_iff.mp hone
  have hmem : row ∈ c.tables .snapshots := by simp [hrow]
  obtain ⟨id, hid⟩ := Storage.id_text hrows hmem
  have hfound : foundIds [] c.tables = [id] := by
    have hlikes : Storage.likeIds [] c.tables = [id] := by
      simp [Storage.likeIds, Storage.storedIds, hrow, hid, Sql.SqlValue.toText, Storage.likePattern,
        Storage.like_percent]
    exact List.perm_singleton.mp (hlikes ▸ Storage.foundIds_perm [] c.tables)
  have hfree' : c.counted.counted.locked = false := hfree
  have hlookup := Storage.reentrant_of_free hfree hfree'
    (Storage.resolveIdPrefix_run hworks hfree [])
  rw [hfound] at hlookup
  have hstored : rowsNamed id c.tables ≠ [] := by simp [rowsNamed, hrow, hid]
  rw [refused_iff_change hparams]
  rintro ⟨e, s', c', hrun, -⟩
  cases change_succeeds hworks hlookup hstored request hrun

end Requests

/-! ### A deletion without an id -/

end ContextSnap.Daemon
