import ContextSnap.Daemon.Workers
import ContextSnap.Proof.RepositoryAtomic

/-!
# Concurrent edits of metadata

An edit loads the metadata of a snapshot, changes one field and writes all of them back. What other
clients wrote in between is lost unless it is what the edit writes itself.
-/

namespace ContextSnap.Storage

open Sql

/-! ### Repository calls one at a time -/

section Calls

variable {env : Environment} {α β : Type} {c c' : Connection}

theorem reentrantHandler_eq {op : Op} (h : op.KeepsMutex) (c : Connection) :
    reentrantHandler env op c = handler env op c := by
  cases op with
  | lock => exact absurd rfl h.1
  | unlock => exact absurd rfl h.2
  | _ => rfl

/-- An operation that changes no row. -/
def Op.Reads (op : Op) : Prop := op = .lock ∨ op = .unlock ∨ op.Plain

theorem reads_plain : ∀ op : Op, op.Plain → op.Reads := fun _ h => .inr (.inr h)

theorem reentrant_inside {op : Op} (h : op.Inside) {answer : Answer op}
    (hanswer : reentrantHandler env op c = some (answer, c')) : Changes op c.tables c'.tables := by
  rw [reentrantHandler_eq h.1] at hanswer
  exact (handler_inside h hanswer).2

theorem reentrant_reads {op : Op} (h : op.Reads) {answer : Answer op}
    (hanswer : reentrantHandler env op c = some (answer, c')) : c'.tables = c.tables := by
  rcases h with rfl | rfl | hplain
  · cases hanswer
    rfl
  · cases hanswer
    rfl
  · rcases reentrant_inside hplain.inside hanswer with hsame | ⟨statement, values, _, rfl, -⟩
    · exact hsame
    · exact hplain.elim

theorem tables_of_reads {program : Repo α} (h : AllOps Op.Reads program) {result : Result α}
    (hrun : program.run.run (reentrantHandler env) c = some (result, c')) :
    c'.tables = c.tables := by
  refine Program.All.run_invariant (I := fun now : Connection => now.tables = c.tables) ?_ h rfl hrun
  intro op now answer next hop hnow hanswer
  exact (reentrant_reads hop hanswer).trans hnow

theorem reads_load (id : Bytes) : AllOps Op.Reads (load id) :=
  allOps_withLock (.inl rfl) (.inr (.inl rfl)) (allOps_loadAll reads_plain id)

theorem reads_resolveIdPrefix (idStart : Bytes) : AllOps Op.Reads (resolveIdPrefix idStart) :=
  allOps_resolveIdPrefix reads_plain (.inl rfl) (.inr (.inl rfl)) idStart

theorem reentrant_withLock (body : Repo α) (c : Connection) :
    (withLock body).run.run (reentrantHandler env) c = body.run.run (reentrantHandler env) c := by
  have hscope : (withLock body).run
      = lock >>= fun _ => body.run >>= fun result => unlock >>= fun _ => pure result := rfl
  have hlock : reentrantHandler env .lock c = some ((), c) := rfl
  rw [hscope, lock, Program.operation_bind, Program.run_ask _ hlock, Program.run_bind]
  exact Option.bind_fun_some _

theorem ask_inv {op : Op} {answer : Answer op}
    (h : (ask op).run.run (reentrantHandler env) c = some (.ok answer, c')) :
    reentrantHandler env op c = some (answer, c') := by
  have hask : (ask op).run = .ask op fun answer => .done (.ok answer) := rfl
  rw [hask, Program.run_ask_eq] at h
  obtain ⟨result, hanswer, hdone⟩ := Option.bind_eq_some_iff.mp h
  cases hdone
  exact hanswer

theorem orFail_inv {what context : String} {answer : Except Failure α} {value : α}
    (h : (orFail what context answer).run.run (reentrantHandler env) c = some (.ok value, c')) :
    answer = .ok value ∧ c' = c := by
  cases answer with
  | error failure => cases h
  | ok found =>
      cases h
      exact ⟨rfl, rfl⟩

theorem rows_inv {statement : Select Table} {values : List SqlValue} {found : List (List SqlValue)}
    (h : (rows statement values).run.run (reentrantHandler env) c = some (.ok found, c')) :
    found = statement.rows c.tables values := by
  obtain ⟨answer, c₁, hask, horFail⟩ := Program.run_except_bind_inv h
  obtain ⟨rfl, -⟩ := orFail_inv horFail
  have hcall : call env c (runSelect env statement values none) = (.ok found, c₁) :=
    Option.some.inj (ask_inv hask)
  rcases call_cases env c (runSelect env statement values none) with
    ⟨failure, hfail⟩ | ⟨value, c₂, hwork, hdone⟩
  · rw [hfail] at hcall
    cases hcall
  · rw [hdone] at hcall
    cases hcall
    cases hwork
    rfl

/-- The metadata that a load reads from a row. -/
def metadataOf (row : Row) : SnapshotMetadata :=
  (snapshotFromRow (row.key selectSnapshot.columns)).metadata

/-- The metadata of a stored snapshot. -/
def current (id : Bytes) (tables : Tables Table) : Option SnapshotMetadata :=
  ((tables .snapshots).find? fun row => row "id" = .text id).map metadataOf

theorem load_metadata {id : Bytes} {snapshot : Snapshot}
    (h : (load id).run.run (reentrantHandler env) c = some (.ok snapshot, c')) :
    current id c.tables = some snapshot.metadata := by
  rw [load, reentrant_withLock] at h
  obtain ⟨_, c₁, hprepare, h⟩ := Program.run_except_bind_inv h
  obtain ⟨found, c₂, hrows, h⟩ := Program.run_except_bind_inv h
  have hsame : c₁.tables = c.tables := tables_of_reads (allOps_prepare reads_plain _) hprepare
  have hfound := rows_inv hrows
  rw [hsame, rows_selectSnapshot] at hfound
  rw [current, ← List.head?_filter]
  cases hmatching : (c.tables .snapshots).filter fun row => decide (row "id" = .text id) with
  | nil =>
      rw [hmatching] at hfound
      subst hfound
      cases h
  | cons row rest =>
      rw [hmatching] at hfound
      subst hfound
      obtain ⟨monitors, _, -, h⟩ := Program.run_except_bind_inv h
      obtain ⟨windows, _, -, h⟩ := Program.run_except_bind_inv h
      obtain ⟨windows, _, -, h⟩ := Program.run_except_bind_inv h
      obtain ⟨cursor, _, -, h⟩ := Program.run_except_bind_inv h
      cases h
      rfl

/-! ### The update of a row -/

theorem foldl_afterUpdate_snapshots (new : List Row) (tables : Tables Table) :
    new.foldl afterUpdate tables .snapshots = tables .snapshots := by
  induction new generalizing tables with
  | nil => rfl
  | cons row new ih =>
      rw [List.foldl_cons, ih]
      rfl

/-- The row of a snapshot with new metadata. -/
def editedRow (metadata : SnapshotMetadata) (now : Timestamp) (row : Row) : Row :=
  if row "id" = .text metadata.id then
    updatedRow metadataColumns (metadataValues metadata now) row
  else row

theorem runDml_updateSnapshots_eq {tables tables' : Tables Table} {metadata : SnapshotMetadata}
    {now : Timestamp} {changed : Nat}
    (h : runDml tables (metadataValues metadata now) updateSnapshots = .ok (tables', changed)) :
    tables' .snapshots = (tables .snapshots).map (editedRow metadata now)
      ∧ changed = ((tables .snapshots).filter fun row => row "id" = .text metadata.id).length := by
  have hupdate : ∀ matching : Row → Bool, updateRows schema tables .snapshots metadataColumns
      (metadataValues metadata now) matching = .ok _ := fun matching =>
    if_pos (List.all_eq_true.mpr fun row _ => updatedRow_admitted metadata now row)
  simp only [runDml, updateSnapshots, hupdate, bind, Except.bind] at h
  cases h
  refine ⟨?_, rfl⟩
  split
  · rw [foldl_afterUpdate_snapshots, Function.update_self]
    apply List.map_congr_left
    intro row _
    simp [editedRow, param, metadataValues]
  · rw [Function.update_self]
    apply List.map_congr_left
    intro row _
    simp [editedRow, param, metadataValues]

/-- What an update does behind its statement: it reads the row again and indexes it. -/
def Op.Refreshes (op : Op) : Prop :=
  op.Reads ∨ ∃ values, op = .dml insertSearchStatement values

theorem reentrant_refreshes {op : Op} (h : op.Refreshes) {answer : Answer op}
    (hanswer : reentrantHandler env op c = some (answer, c')) :
    c'.tables .snapshots = c.tables .snapshots := by
  rcases h with hreads | ⟨values, rfl⟩
  · rw [reentrant_reads hreads hanswer]
  · rcases reentrant_inside (inside_dml _ _) hanswer with hsame | ⟨statement, values', _, hop, hrun⟩
    · rw [hsame]
    · cases hop
      rw [runDml_insert hrun]
      exact Function.update_of_ne (by decide) _ _

theorem refreshes_refreshIndex (id : Bytes) : AllOps Op.Refreshes (refreshIndex id) := by
  have hplain : ∀ op : Op, op.Plain → op.Refreshes := fun op h => .inl (reads_plain op h)
  have hload : AllOps Op.Refreshes (load id) := Program.All.mono (fun _ h => .inl h) (reads_load id)
  apply hload.attempt.bind
  intro refreshed
  cases refreshed with
  | error e => exact AllOps.pure _
  | ok snapshot =>
      apply AllOps.discard
      apply AllOps.attempt
      apply (allOps_prepare hplain _).bind
      intro _
      exact allOps_execute (.inr ⟨_, rfl⟩)

theorem refreshIndex_ok {id : Bytes} {result : Result Unit}
    (h : (refreshIndex id).run.run (reentrantHandler env) c = some (result, c')) :
    result = .ok () := by
  rcases Program.run_except_bind_cases h with ⟨e, rfl, hattempt⟩ | ⟨refreshed, c₁, -, hrest⟩
  · obtain ⟨_, herror, -⟩ := Program.run_lift_inv hattempt
    cases herror
  · cases refreshed with
    | error e =>
        cases hrest
        rfl
    | ok snapshot =>
        have hindex : indexForSearch snapshot
            = attempt (do
                prepare [.snapshotSearch]
                execute insertSearchStatement (searchValues snapshot)) >>= fun _ => pure () := rfl
        change (indexForSearch snapshot).run.run (reentrantHandler env) c₁ = _ at hrest
        rw [hindex] at hrest
        rcases Program.run_except_bind_cases hrest with ⟨e, rfl, hattempt⟩ | ⟨_, _, -, hdone⟩
        · obtain ⟨_, herror, -⟩ := Program.run_lift_inv hattempt
          cases herror
        · cases hdone
          rfl

theorem snapshots_of_refreshes {program : Repo α} (h : AllOps Op.Refreshes program)
    {result : Result α} (hrun : program.run.run (reentrantHandler env) c = some (result, c')) :
    c'.tables .snapshots = c.tables .snapshots := by
  refine Program.All.run_invariant
    (I := fun now : Connection => now.tables .snapshots = c.tables .snapshots) ?_ h rfl hrun
  intro op now answer next hop hnow hanswer
  exact (reentrant_refreshes hop hanswer).trans hnow

theorem reentrant_keepsMutex {program : Repo α} (h : AllOps Op.KeepsMutex program)
    (c : Connection) :
    program.run.run (reentrantHandler env) c = program.run.run (handler env) c :=
  Program.All.run_congr (fun _ c hop => reentrantHandler_eq hop c) h c

theorem editedRow_unmatched {metadata : SnapshotMetadata} {now : Timestamp} {rows : List Row}
    (h : (rows.filter fun row => row "id" = .text metadata.id).length = 0) :
    rows.map (editedRow metadata now) = rows := by
  rw [List.length_eq_zero_iff, List.filter_eq_nil_iff] at h
  calc rows.map (editedRow metadata now) = rows.map id := by
        apply List.map_congr_left
        intro row hrow
        exact if_neg fun hid => h row hrow (by simpa using hid)
    _ = rows := List.map_id rows

theorem prepare_cases {tables : List Table} {result : Result Unit}
    (h : (prepare tables).run.run (reentrantHandler env) c = some (result, c')) :
    c' = c.counted ∧ ((∃ e, result = .error e) ∧ env.fault c.calls ≠ none
      ∨ result = .ok () ∧ env.fault c.calls = none) := by
  rw [reentrant_keepsMutex (keepsMutex_prepare tables)] at h
  cases hfault : env.fault c.calls with
  | some failure =>
      rw [prepare_fault tables hfault] at h
      cases h
      exact ⟨rfl, .inl ⟨⟨_, rfl⟩, nofun⟩⟩
  | none =>
      rw [prepare_ok tables hfault] at h
      cases h
      exact ⟨rfl, .inr ⟨rfl, rfl⟩⟩

theorem update_cases {metadata : SnapshotMetadata} {now : Timestamp} {result : Result Unit}
    (h : (execute updateSnapshots (metadataValues metadata now)).run.run (reentrantHandler env) c
      = some (result, c')) :
    (∃ e, result = .error e) ∧ env.fault c.calls ≠ none ∧ c'.tables = c.tables
      ∨ result = .ok () ∧ env.fault c.calls = none
        ∧ c'.tables .snapshots = (c.tables .snapshots).map (editedRow metadata now)
        ∧ c'.changes
          = ((c.tables .snapshots).filter fun row => row "id" = .text metadata.id).length := by
  rw [reentrant_keepsMutex (keepsMutex_execute _ _)] at h
  cases hfault : env.fault c.calls with
  | some failure =>
      rw [execute_fault _ _ hfault] at h
      cases h
      exact .inl ⟨⟨_, rfl⟩, nofun, rfl⟩
  | none =>
      obtain ⟨tables, hdml⟩ := runDml_updateSnapshots c.tables metadata now
      obtain ⟨hrows, -⟩ := runDml_updateSnapshots_eq hdml
      have hstatement : runStatement updateSnapshots (metadataValues metadata now) c.counted
          = .ok ((), { c.counted with
            tables
            changes := ((c.tables .snapshots).filter fun row =>
              row "id" = .text metadata.id).length }) := by
        have htables : c.counted.tables = c.tables := rfl
        rw [runStatement, htables, hdml]
      rw [execute_ok hfault hstatement] at h
      cases h
      exact .inr ⟨rfl, rfl, hrows, rfl⟩

/-- An update reports an error and leaves the rows alone, or it writes its own. -/
theorem updateMetadata_cases {metadata : SnapshotMetadata} {result : Result Unit}
    (h : (updateMetadata metadata).run.run (reentrantHandler env) c = some (result, c')) :
    (∃ e, result = .error e) ∧ ¬ Relocks env c (.updateMetadata metadata)
        ∧ c'.tables .snapshots = c.tables .snapshots
      ∨ result = .ok () ∧ Relocks env c (.updateMetadata metadata)
        ∧ ∃ now, c'.tables .snapshots = (c.tables .snapshots).map (editedRow metadata now) := by
  rw [updateMetadata, reentrant_withLock] at h
  rcases Program.run_except_bind_cases h with ⟨e, rfl, hprepare⟩ | ⟨_, c₁, hprepare, h⟩
  · obtain ⟨rfl, ⟨-, hfault⟩ | ⟨hok, -⟩⟩ := prepare_cases hprepare
    · exact .inl ⟨⟨e, rfl⟩, fun hrelocks => hfault hrelocks.1, rfl⟩
    · cases hok
  obtain ⟨rfl, ⟨⟨_, herror⟩, -⟩ | ⟨-, hfault⟩⟩ := prepare_cases hprepare
  · cases herror
  rcases Program.run_except_bind_cases h with ⟨e, rfl, hnow⟩ | ⟨now, c₂, hnow, h⟩
  · cases hnow
  cases hnow
  rcases Program.run_except_bind_cases h with ⟨e, rfl, hupdate⟩ | ⟨_, c₃, hupdate, h⟩
  · obtain ⟨-, hfault', hsame⟩ | ⟨hok, -⟩ := update_cases hupdate
    · exact .inl ⟨⟨e, rfl⟩, fun hrelocks => hfault' hrelocks.2.1, congrFun hsame _⟩
    · cases hok
  obtain ⟨⟨_, herror⟩, -⟩ | ⟨-, hfault', hrows, hchanged⟩ := update_cases hupdate
  · cases herror
  rcases Program.run_except_bind_cases h with ⟨e, rfl, hchanges⟩ | ⟨changes, c₄, hchanges, h⟩
  · cases hchanges
  cases hchanges
  rw [hchanged] at h
  split at h
  · rename_i hnone
    cases h
    refine .inl ⟨⟨_, rfl⟩, ?_, hrows.trans (editedRow_unmatched hnone)⟩
    rintro ⟨-, -, row, hrow, hid⟩
    rw [List.length_eq_zero_iff, List.filter_eq_nil_iff] at hnone
    exact hnone row hrow (by simpa using hid)
  · rename_i hsome
    obtain ⟨row, hrow⟩ := List.exists_mem_of_length_pos (Nat.pos_of_ne_zero hsome)
    obtain ⟨hmem, hid⟩ := List.mem_filter.mp hrow
    refine .inr ⟨refreshIndex_ok h, ⟨hfault, hfault', row, hmem, by simpa using hid⟩,
      env.clock c.readings, ?_⟩
    exact (snapshots_of_refreshes (refreshes_refreshIndex _) h).trans hrows

end Calls

/-! ### The metadata that edits are about -/

/-- What a client can edit. -/
def editable (metadata : SnapshotMetadata) : Bytes × List Bytes × Bool :=
  (metadata.name, metadata.tags, metadata.favorite)

section Current

variable {metadata : SnapshotMetadata} {now : Timestamp} {row : Row}

theorem editedRow_id : editedRow metadata now row "id" = row "id" := by
  unfold editedRow
  split
  · simp [updatedRow, metadataColumns, metadataValues, List.lookup_cons]
  · rfl

theorem editable_editedRow (h : row "id" = .text metadata.id) :
    editable (metadataOf (editedRow metadata now row)) = editable metadata := by
  rw [editedRow, if_pos h]
  simp [editable, metadataOf, snapshotFromRow, selectSnapshot, Row.key, columnText, columnBool,
    columnInt32, columnInt, column, updatedRow, metadataColumns, metadataValues, List.lookup_cons,
    tagsFromJson_tagsToJson]

theorem current_edited {tables tables' : Tables Table} {id : Bytes}
    (h : tables' .snapshots = (tables .snapshots).map (editedRow metadata now))
    {old : SnapshotMetadata} (hold : current id tables = some old) :
    ∃ new, current id tables' = some new
      ∧ editable new = if metadata.id = id then editable metadata else editable old := by
  obtain ⟨row, hfind, rfl⟩ := Option.map_eq_some_iff.mp hold
  have hid : row "id" = .text id := by simpa using List.find?_some hfind
  refine ⟨metadataOf (editedRow metadata now row), ?_, ?_⟩
  · have hsame : ((fun row : Row => decide (row "id" = .text id)) ∘ editedRow metadata now)
        = fun row : Row => decide (row "id" = .text id) := by
      funext other
      simp [editedRow_id]
    rw [current, h, List.find?_map, hsame, hfind]
    rfl
  · split
    · rename_i heq
      exact editable_editedRow (heq ▸ hid)
    · rename_i hne
      have hother : row "id" ≠ .text metadata.id := by
        rw [hid]
        rintro ⟨⟩
        exact hne rfl
      rw [editedRow, if_neg hother]

end Current

end ContextSnap.Storage

namespace ContextSnap.Daemon

open Interleaving (Always Throughout)
open SnapshotManager (Op Answer)
open Storage (Connection Environment Relocks current editable)

/-! ### What edits should leave behind -/

/-- The name that an edit sets, if that is what it does. -/
def Edit.name? : Edit → Option Bytes
  | .rename _ name => some name
  | _ => none

def Edit.tags? : Edit → Option (List Bytes)
  | .setTags _ tags => some tags
  | _ => none

def Edit.favorite? : Edit → Option Bool
  | .setFavorite _ favorite => some favorite
  | _ => none

/-- The value of a field after some edits: what the last of those that set it set it to. -/
def lastSet {α : Type} (field : Edit → Option α) (edits : List Edit) (initial : α) : α :=
  (edits.filterMap field).getLast?.getD initial

theorem lastSet_concat {α : Type} (field : Edit → Option α) (edits : List Edit) (edit : Edit)
    (initial : α) :
    lastSet field (edits ++ [edit]) initial = (field edit).getD (lastSet field edits initial) := by
  unfold lastSet
  rw [List.filterMap_append]
  cases hfield : field edit <;> simp [hfield]

/-- Every field as its last edit set it. -/
def expected (edits : List Edit) (initial : SnapshotMetadata) : Bytes × List Bytes × Bool :=
  (lastSet Edit.name? edits initial.name, lastSet Edit.tags? edits initial.tags,
    lastSet Edit.favorite? edits initial.favorite)

/-- Whether a call updates the metadata of the snapshot and succeeds, as its request then does. -/
def writes (id : Bytes) : (Σ op, Answer op) → Bool
  | ⟨.repository (.updateMetadata metadata), .ok _⟩ => metadata.id = id
  | _ => false

section Edits

variable {ι : Type} (requests : ι → Edit) (id : Bytes)

/-- The edits of the snapshot that succeeded, in the order of their updates. -/
def succeeded (log : List (ι × Σ op, Answer op)) : List Edit :=
  (log.filter fun entry => writes id entry.2).map fun entry => requests entry.1

/-- The stored row has the name of the last successful rename, and likewise the tags and the flag. -/
def KeepsEdits (initial : SnapshotMetadata) (s : EditState ι) : Prop :=
  ∃ metadata, current id s.shared.tables = some metadata
    ∧ editable metadata = expected (succeeded requests id s.log) initial

end Edits

/-- A thread that is about to update the metadata of a stored snapshot, with nothing that goes
wrong. -/
def Updates (env : Environment) (id : Bytes) (thread : EditThread) (c : Connection)
    (metadata : SnapshotMetadata) : Prop :=
  ∃ next, thread = .ask (.repository (.updateMetadata metadata)) next ∧ metadata.id = id
    ∧ Relocks env c (.updateMetadata metadata)

def Edit.snapshotId : Edit → Bytes
  | .rename snapshotId _ | .setTags snapshotId _ | .setFavorite snapshotId _ => snapshotId

/-- What a request does to the metadata that it has loaded. -/
def Edit.change : Edit → SnapshotMetadata → SnapshotMetadata
  | .rename _ name, metadata => { metadata with name }
  | .setTags _ tags, metadata => { metadata with tags }
  | .setFavorite _ favorite, metadata => { metadata with favorite }

/-- What thread `i` is about to write is its edit of the metadata as they are now: since its load
nobody changed a field that it does not set itself. -/
def Fresh {ι : Type} (env : Environment) (requests : ι → Edit) (id : Bytes) (i : ι)
    (s : EditState ι) : Prop :=
  ∀ metadata now, Updates env id (s.threads i) s.shared metadata →
    current id s.shared.tables = some now →
      editable metadata = editable ((requests i).change now)

/-! ### The turns of a request -/

theorem Edit.program_eq (edit : Edit) :
    edit.program = SnapshotManager.edit edit.snapshotId edit.change := by
  cases edit <;> rfl

theorem expected_concat {edits : List Edit} {edit : Edit} {initial now : SnapshotMetadata}
    (h : editable now = expected edits initial) :
    expected (edits ++ [edit]) initial = editable (edit.change now) := by
  obtain ⟨hname, htags, hfavorite⟩ : now.name = _ ∧ now.tags = _ ∧ now.favorite = _ := by
    simpa [editable, expected] using h
  rw [expected, lastSet_concat, lastSet_concat, lastSet_concat, ← hname, ← htags, ← hfavorite]
  cases edit <;> rfl

/-- The calls that an edit makes. -/
def EditCall : Op → Prop
  | .repository (.resolveIdPrefix _) | .repository (.load _) | .repository (.updateMetadata _)
  | .direct .now => True
  | _ => False

theorem allCalls_program (edit : Edit) : edit.program.run.All EditCall := by
  rw [edit.program_eq]
  have hget : (SnapshotManager.get edit.snapshotId).run.All EditCall :=
    Program.All.bind_except (Program.all_operation trivial)
      fun _ => Program.all_operation trivial
  have hload : (SnapshotManager.currentMetadata edit.snapshotId).run.All EditCall :=
    Program.All.bind_except hget fun _ => trivial
  apply Program.All.bind_except hload
  intro metadata
  have hnow : SnapshotManager.now.run.All EditCall := ⟨trivial, fun _ => trivial⟩
  exact Program.All.bind_except hnow fun _ => Program.all_operation trivial

/-- Every thread goes on with the calls of an edit. -/
def Calling {ι : Type} (s : EditState ι) : Prop := ∀ i, (s.threads i).All EditCall

section Turns

variable {env : Environment} {id : Bytes} {c c' : Connection}

theorem Updates.unique {thread : EditThread} {metadata other : SnapshotMetadata}
    (h : Updates env id thread c metadata) (hother : Updates env id thread c other) :
    metadata = other := by
  obtain ⟨next, rfl, -⟩ := h
  obtain ⟨next', heq, -⟩ := hother
  cases heq
  rfl

/-- A turn writes the metadata that the thread has in hand, or leaves them as they are. -/
theorem editTurn_cases {thread thread' : EditThread} {event : Σ op, Answer op}
    (hcalls : thread.All EditCall) (h : editTurn env thread c = some (event, thread', c'))
    {old : SnapshotMetadata} (hold : current id c.tables = some old) :
    thread'.All EditCall ∧ ∃ new, current id c'.tables = some new
      ∧ ((∃ metadata, Updates env id thread c metadata ∧ editable new = editable metadata)
          ∧ writes id event = true
        ∨ (∀ metadata, ¬ Updates env id thread c metadata) ∧ writes id event = false
          ∧ editable new = editable old) := by
  cases thread with
  | done result => cases h
  | ask op next =>
      obtain ⟨⟨answer, c₁⟩, hanswer, hdone⟩ := Option.map_eq_some_iff.mp h
      cases hdone
      refine ⟨hcalls.2 answer, ?_⟩
      have hcall := hcalls.1
      have hquiet : ∀ {event : Σ op, Answer op}, c₁.tables = c.tables →
          (∀ metadata, ¬ Updates env id (.ask op next) c metadata) → writes id event = false →
          ∃ new, current id c₁.tables = some new
            ∧ ((∃ metadata, Updates env id (.ask op next) c metadata
                  ∧ editable new = editable metadata) ∧ writes id event = true
              ∨ (∀ metadata, ¬ Updates env id (.ask op next) c metadata) ∧ writes id event = false
                ∧ editable new = editable old) :=
        fun hsame hnone hwrites => ⟨old, hsame ▸ hold, .inr ⟨hnone, hwrites, rfl⟩⟩
      cases op with
      | direct op =>
          cases op with
          | now =>
              cases hanswer
              exact hquiet rfl (fun _ ⟨_, heq, _⟩ => by cases heq) rfl
          | _ => exact hcall.elim
      | repository operation =>
          cases operation with
          | resolveIdPrefix idStart =>
              exact hquiet (Storage.tables_of_reads (Storage.reads_resolveIdPrefix idStart) hanswer)
                (fun _ ⟨_, heq, _⟩ => by cases heq) rfl
          | load loaded =>
              exact hquiet (Storage.tables_of_reads (Storage.reads_load loaded) hanswer)
                (fun _ ⟨_, heq, _⟩ => by cases heq) rfl
          | updateMetadata metadata =>
              rcases Storage.updateMetadata_cases hanswer with
                ⟨⟨e, rfl⟩, hfails, hsame⟩ | ⟨rfl, hworks, now, hedited⟩
              · refine ⟨old, ?_, .inr ⟨?_, rfl, rfl⟩⟩
                · rw [current, hsame]
                  exact hold
                · rintro other ⟨_, heq, -, hworks⟩
                  cases heq
                  exact hfails hworks
              · obtain ⟨new, hnew, hfields⟩ := Storage.current_edited hedited hold
                refine ⟨new, hnew, ?_⟩
                by_cases hid : metadata.id = id
                · rw [if_pos hid] at hfields
                  exact .inl ⟨⟨metadata, ⟨next, rfl, hid, hworks⟩, hfields⟩, decide_eq_true hid⟩
                · rw [if_neg hid] at hfields
                  refine .inr ⟨?_, decide_eq_false hid, hfields⟩
                  rintro other ⟨_, heq, hother, -⟩
                  cases heq
                  exact hid hother
          | _ => exact hcall.elim
      | _ => exact hcall.elim

end Turns

/-! ### Edits that are kept -/

/-- **Edits.** In every state of a run the stored row has the name, the tags and the flag that the
last successful edits of them set exactly when every update writes what its request does not edit
as it is stored at that moment. -/
theorem edits_kept_iff {ι : Type} [DecidableEq ι] (env : Environment) (requests : ι → Edit)
    (c : Connection) (id : Bytes) (initial : SnapshotMetadata)
    (h : current id c.tables = some initial) (schedule : List ι) :
    Throughout (editTurn env) (KeepsEdits requests id initial) schedule (editStart requests c)
      ↔ Always (editTurn env) (Fresh env requests id) schedule (editStart requests c) := by
  have hcalling : Calling (editStart requests c) := fun i => allCalls_program (requests i)
  refine Interleaving.throughout_iff_always ?_ ?_ hcalling ⟨initial, h, rfl⟩
  · rintro i s s' hcalls ⟨old, hold, hexpected⟩ hfresh hstep
    obtain ⟨event, thread, shared, hturn, rfl⟩ := Interleaving.step_eq_some hstep
    obtain ⟨hthread, new, hnew, hcases⟩ := editTurn_cases (hcalls i) hturn hold
    refine ⟨?_, new, hnew, ?_⟩
    · intro j
      by_cases hj : j = i
      · subst hj
        simpa using hthread
      · simpa [hj] using hcalls j
    · rcases hcases with ⟨⟨metadata, hupdates, hfields⟩, hwrites⟩ | ⟨-, hwrites, hfields⟩
      · have hlog : succeeded requests id (s.log ++ [(i, event)])
            = succeeded requests id s.log ++ [requests i] := by
          simp [succeeded, hwrites]
        rw [hlog, expected_concat hexpected, hfields]
        exact hfresh metadata old hupdates hold
      · have hlog : succeeded requests id (s.log ++ [(i, event)])
            = succeeded requests id s.log := by
          simp [succeeded, hwrites]
        rw [hlog, hfields, hexpected]
  · rintro i s s' hcalls ⟨old, hold, hexpected⟩ hstep ⟨new, hnew, hkept⟩ metadata now hupdates hnow
    obtain ⟨event, thread, shared, hturn, rfl⟩ := Interleaving.step_eq_some hstep
    obtain ⟨-, new', hnew', hcases⟩ := editTurn_cases (hcalls i) hturn hold
    cases hnew.symm.trans hnew'
    cases hold.symm.trans hnow
    rcases hcases with ⟨⟨other, hother, hfields⟩, hwrites⟩ | ⟨hnone, -⟩
    · have hlog : succeeded requests id (s.log ++ [(i, event)])
          = succeeded requests id s.log ++ [requests i] := by
        simp [succeeded, hwrites]
      rw [hupdates.unique hother, ← hfields, hkept, hlog]
      exact expected_concat hexpected
    · exact absurd hupdates (hnone metadata)

/-- One client renames the stored snapshot, another one tags it. -/
def renameAndTag : Bool → Edit
  | false => .rename Storage.deskSnapshot.metadata.id (str "work")
  | true => .setTags Storage.deskSnapshot.metadata.id [str "home"]

/-- Both have loaded the metadata before one of them writes. -/
def bothLoadFirst : List Bool := [false, false, true, true, false, false, true, true]

/-- A thread whose request reports success. -/
def reportsSuccess : EditThread → Bool
  | .done (.ok _) => true
  | _ => false

/-- The tagging writes back the name from before the renaming. -/
theorem renameAndTag_reverts :
    ∃ c initial s final, (Storage.insert Storage.deskSnapshot).run.run (Storage.handler {})
        Storage.emptyConnection = some (.ok Storage.deskSnapshot.metadata.id, c)
      ∧ current Storage.deskSnapshot.metadata.id c.tables = some initial
      ∧ Interleaving.run (editTurn {}) bothLoadFirst (editStart renameAndTag c) = some s
      ∧ (∀ i, reportsSuccess (s.threads i) = true)
      ∧ current Storage.deskSnapshot.metadata.id s.shared.tables = some final
      ∧ editable final
        ≠ expected (succeeded renameAndTag Storage.deskSnapshot.metadata.id s.log) initial := by
  have hruns : (((Storage.insert Storage.deskSnapshot).run.run (Storage.handler {})
      Storage.emptyConnection).any fun inserted =>
        inserted.1.toOption == some Storage.deskSnapshot.metadata.id
          && (current Storage.deskSnapshot.metadata.id inserted.2.tables).any fun initial =>
            (Interleaving.run (editTurn {}) bothLoadFirst
              (editStart renameAndTag inserted.2)).any fun s =>
                reportsSuccess (s.threads false) && reportsSuccess (s.threads true)
                  && (current Storage.deskSnapshot.metadata.id s.shared.tables).any fun final =>
                    editable final != expected
                      (succeeded renameAndTag Storage.deskSnapshot.metadata.id s.log) initial)
      = true := by
    decide +kernel
  obtain ⟨⟨result, c⟩, hinsert, hruns⟩ := (Option.any_eq_true _ _).mp hruns
  simp only [Bool.and_eq_true, Option.any_eq_true, beq_iff_eq, bne_iff_ne] at hruns
  obtain ⟨hid, initial, hinitial, s, hrun, ⟨hfirst, hsecond⟩, final, hfinal, hlost⟩ := hruns
  cases result with
  | error e => cases hid
  | ok id =>
      cases hid
      exact ⟨c, initial, s, final, hinsert, hinitial, hrun,
        fun i => by cases i <;> assumption, hfinal, hlost⟩

/-- The two edits of a snapshot that was stored before. -/
theorem edits_kept_iff_renameAndTag :
    ∃ c initial, (Storage.insert Storage.deskSnapshot).run.run (Storage.handler {})
        Storage.emptyConnection = some (.ok Storage.deskSnapshot.metadata.id, c)
      ∧ current Storage.deskSnapshot.metadata.id c.tables = some initial
      ∧ (Throughout (editTurn {})
          (KeepsEdits renameAndTag Storage.deskSnapshot.metadata.id initial) bothLoadFirst
          (editStart renameAndTag c)
        ↔ Always (editTurn {}) (Fresh {} renameAndTag Storage.deskSnapshot.metadata.id)
          bothLoadFirst (editStart renameAndTag c)) := by
  obtain ⟨c, initial, s, final, hinsert, hinitial, -⟩ := renameAndTag_reverts
  exact ⟨c, initial, hinsert, hinitial, edits_kept_iff {} renameAndTag c _ initial hinitial _⟩

/-- All requests of a run succeed, and an edit is gone. -/
theorem not_edits_kept :
    ¬ ∀ (requests : Bool → Edit) (c : Connection) (id : Bytes) (initial : SnapshotMetadata),
      current id c.tables = some initial → ∀ (schedule : List Bool) (s : EditState Bool),
        Interleaving.run (editTurn {}) schedule (editStart requests c) = some s →
          (∀ i, reportsSuccess (s.threads i) = true) → KeepsEdits requests id initial s := by
  intro h
  obtain ⟨c, initial, s, final, -, hinitial, hrun, hsucceeds, hfinal, hlost⟩ :=
    renameAndTag_reverts
  obtain ⟨metadata, hcurrent, hkept⟩ := h renameAndTag c _ initial hinitial _ s hrun hsucceeds
  cases hfinal.symm.trans hcurrent
  exact hlost hkept

end ContextSnap.Daemon
