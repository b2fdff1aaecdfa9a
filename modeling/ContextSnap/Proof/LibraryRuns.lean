import ContextSnap.Proof.CaptureRetention

/-!
# The ids of a library

Whatever captures and imports do, and wherever SQLite fails under them, the stored snapshots have
ULIDs for their ids, no two of them the same byte for byte.
-/

namespace ContextSnap.Storage

open Sql

/-- Rows of snapshots whose ids are different ULIDs. -/
structure Named (rows : List Row) : Prop where
  ulids : ∀ row ∈ rows, ∃ id, row "id" = .text id ∧ isValidUlid id = true
  distinct : (rows.map (· "id")).Nodup

theorem Named.sublist {rows fewer : List Row} (h : Named rows) (hfewer : fewer.Sublist rows) :
    Named fewer where
  ulids := fun row hrow => h.ulids row (hfewer.subset hrow)
  distinct := h.distinct.sublist (hfewer.map _)

theorem Named.append {rows : List Row} (h : Named rows) {row : Row} {id : Bytes}
    (hid : row "id" = .text id) (hvalid : isValidUlid id = true)
    (hfresh : ∀ other ∈ rows, other "id" ≠ .text id) : Named (rows ++ [row]) where
  ulids := by
    intro other hother
    rcases List.mem_append.mp hother with hold | hnew
    · exact h.ulids other hold
    · rw [List.mem_singleton.mp hnew]
      exact ⟨id, hid, hvalid⟩
  distinct := by
    rw [List.map_append, List.nodup_append]
    refine ⟨h.distinct, List.nodup_singleton _, ?_⟩
    intro old hold new hnew heq
    obtain ⟨other, hother, rfl⟩ := List.mem_map.mp hold
    rw [List.mem_singleton.mp hnew] at heq
    exact hfresh other hother (heq.trans hid)

/-! ### What statements keep -/

/-- A statement after which the tables are as they should be if they were before. -/
def Op.Keeps (I : Tables Table → Prop) : Op → Prop
  | .dml statement values => ∀ before after changed,
      runDml before values statement = .ok (after, changed) → I before → I after
  | _ => True

/-- The tables are as they should be, and so are those before the open transaction. -/
structure Holds (I : Tables Table → Prop) (c : Connection) : Prop where
  tables : I c.tables
  saved : ∀ tables, c.saved = some tables → I tables

section Keeps

variable {I : Tables Table → Prop} {env : Environment} {c c' : Connection}

theorem Holds.script (h : Holds I c) {script : Script} (hrun : runScript script c = .ok ((), c')) :
    Holds I c' := by
  cases hopen : c.saved with
  | none =>
      cases script <;> simp only [runScript, hopen] at hrun <;> cases hrun
      · exact ⟨h.tables, fun tables htables => Option.some.inj htables ▸ h.tables⟩
      · exact ⟨h.tables, fun tables htables => Option.some.inj htables ▸ h.tables⟩
      · exact h
  | some tables =>
      cases script <;> simp only [runScript, hopen] at hrun <;> cases hrun
      · exact ⟨h.tables, fun _ hnone => by cases hnone⟩
      · exact ⟨h.saved tables hopen, fun _ hnone => by cases hnone⟩
      · exact h

theorem Holds.handler {op : Op} (hop : op.Keeps I) {answer : Answer op} (h : Holds I c)
    (hanswer : handler env op c = some (answer, c')) : Holds I c' := by
  by_cases hkeeps : op.KeepsMutex
  · by_cases hscript : ∃ script, op = .exec script
    · obtain ⟨script, rfl⟩ := hscript
      have hcall := Option.some.inj hanswer
      rcases call_cases env c (runScript script) with ⟨failure, hfail⟩ | ⟨_, c₁, hwork, hdone⟩
      · rw [hfail] at hcall
        cases hcall
        exact ⟨h.tables, h.saved⟩
      · rw [hdone] at hcall
        cases hcall
        exact Holds.script (c := c.counted) ⟨h.tables, h.saved⟩ hwork
    · have hinside : op.Inside := ⟨hkeeps, fun script heq => hscript ⟨script, heq⟩⟩
      obtain ⟨hsaved, hchanges⟩ := handler_inside hinside hanswer
      refine ⟨?_, fun tables htables => h.saved tables (hsaved ▸ htables)⟩
      rcases hchanges with hsame | ⟨statement, values, changed, rfl, hrun⟩
      · rw [hsame]
        exact h.tables
      · exact hop _ _ changed hrun h.tables
  · rcases Op.lock_or_unlock hkeeps with rfl | rfl
    · change (if c.locked then none else some _) = _ at hanswer
      split at hanswer
      · cases hanswer
      · cases hanswer
        exact ⟨h.tables, h.saved⟩
    · cases hanswer
      exact ⟨h.tables, h.saved⟩

theorem Holds.run {α : Type} {program : Repo α} (hprogram : AllOps (Op.Keeps I) program)
    {result : Result α} (h : Holds I c)
    (hrun : program.run.run (Storage.handler env) c = some (result, c')) : Holds I c' :=
  Program.All.run_invariant (fun _ _ _ _ hop hnow hanswer => hnow.handler hop hanswer) hprogram h hrun

theorem keeps_plain : ∀ op : Op, op.Plain → op.Keeps I := by
  intro op hop
  cases op with
  | dml statement values => exact hop.elim
  | _ => trivial

theorem keeps_load (id : Bytes) : AllOps (Op.Keeps I) (load id) :=
  allOps_withLock trivial trivial (allOps_loadAll keeps_plain id)

theorem keeps_resolveIdPrefix (idStart : Bytes) : AllOps (Op.Keeps I) (resolveIdPrefix idStart) :=
  allOps_resolveIdPrefix keeps_plain trivial trivial idStart

/-- An insert keeps what its statements keep. -/
theorem keeps_insert {snapshot : Snapshot}
    (h : ∀ id statement values, isValidUlid id = true →
      Inserts (withId snapshot id) statement values → (Op.dml statement values).Keeps I) :
    AllOps (Op.Keeps I) (insert snapshot) := by
  have hid : AllOps (Op.Keeps I) (assignId snapshot) := by
    unfold assignId
    split
    · exact AllOps.ask trivial
    · exact AllOps.pure _
  apply hid.bind
  intro id
  split
  · rename_i hvalid
    apply allOps_withLock trivial trivial
    apply allOps_withTransaction fun _ => trivial
    exact allOps_insertAll keeps_plain fun statement values => h id statement values hvalid
  · exact AllOps.throw _

section Deletes

variable (h : ∀ condition values, (Op.dml (.delete .snapshots condition) values).Keeps I)

include h

theorem keeps_remove (id : Bytes) : AllOps (Op.Keeps I) (remove id) := by
  apply allOps_withLock trivial trivial
  apply (allOps_prepare keeps_plain _).bind
  intro _
  apply (allOps_execute (h _ _)).bind
  intro _
  apply AllOps.bind (AllOps.ask trivial)
  intro changed
  split
  · exact AllOps.throw _
  · exact AllOps.pure _

theorem keeps_prune (query : PruneQuery) : AllOps (Op.Keeps I) (prune query) := by
  have hwith : ∀ condition value,
      AllOps (Op.Keeps I) (pruneWith (.delete .snapshots condition) value) := by
    intro condition value
    apply (allOps_prepare keeps_plain _).bind
    intro _
    apply (allOps_execute (h _ _)).bind
    intro _
    exact (AllOps.ask trivial).bind fun _ => AllOps.pure _
  apply allOps_withLock trivial trivial
  apply allOps_withTransaction fun _ => trivial
  have hexpired : AllOps (Op.Keeps I) (pruneExpired query) := by
    unfold pruneExpired
    split
    · exact (AllOps.ask trivial).bind fun _ => hwith _ _
    · exact AllOps.pure _
  have hsurplus : AllOps (Op.Keeps I) (pruneSurplus query) := by
    unfold pruneSurplus
    split
    · exact hwith _ _
    · exact AllOps.pure _
  exact hexpired.bind fun _ => hsurplus.bind fun _ => AllOps.pure _

end Deletes

end Keeps

/-! ### Names -/

/-- A statement after which the snapshots are named if they were before. -/
def Op.KeepsNames : Op → Prop
  | .dml statement values => ∀ before after changed,
      runDml before values statement = .ok (after, changed) →
        Named (before .snapshots) → Named (after .snapshots)
  | _ => True

/-- The snapshots are named, and so are those before the open transaction. -/
structure NamedLibrary (c : Connection) : Prop where
  rows : Named (c.tables .snapshots)
  saved : ∀ tables, c.saved = some tables → Named (tables .snapshots)

section Statements

variable {env : Environment} {c c' : Connection}

theorem Op.keepsNames_iff (op : Op) :
    op.KeepsNames ↔ op.Keeps fun tables => Named (tables .snapshots) := by
  cases op <;> rfl

theorem NamedLibrary.run {α : Type} {program : Repo α} (hprogram : AllOps Op.KeepsNames program)
    {result : Result α} (h : NamedLibrary c)
    (hrun : program.run.run (Storage.handler env) c = some (result, c')) : NamedLibrary c' := by
  have hkeeps : AllOps (Op.Keeps fun tables => Named (tables .snapshots)) program :=
    Program.All.mono (fun op hop => op.keepsNames_iff.mp hop) hprogram
  obtain ⟨hrows, hsaved⟩ := Holds.run hkeeps ⟨h.rows, h.saved⟩ hrun
  exact ⟨hrows, hsaved⟩

theorem allOps_keepsNames {α : Type} {program : Repo α}
    (h : AllOps (Op.Keeps fun tables => Named (tables .snapshots)) program) :
    AllOps Op.KeepsNames program :=
  Program.All.mono (fun op hop => op.keepsNames_iff.mpr hop) h

end Statements

theorem keepsNames_inserts {snapshot : Snapshot} (hvalid : isValidUlid snapshot.metadata.id = true)
    {statement : Dml Table} {values : List SqlValue} (h : Inserts snapshot statement values) :
    (Op.dml statement values).KeepsNames := by
  intro before after changed hrun hnamed
  cases h with
  | snapshot =>
      have hfresh := runDml_insertSnapshots_fresh hrun
      rw [runDml_insert hrun, Function.update_self]
      exact hnamed.append (snapshotRow_id) hvalid hfresh
  | _ =>
      rw [runDml_insert hrun, Function.update_of_ne (by decide)]
      exact hnamed

theorem keepsNames_delete (condition : Condition Table) (values : List SqlValue) :
    (Op.dml (.delete .snapshots condition) values).KeepsNames := by
  intro before after changed hrun hnamed
  have hafter : after .snapshots = afterStatement (.delete .snapshots condition) values before
      .snapshots := by
    cases hrun
    rfl
  rw [hafter, afterStatement_delete_snapshots]
  exact hnamed.sublist List.filter_sublist

theorem keepsNames_insert (snapshot : Snapshot) : AllOps Op.KeepsNames (insert snapshot) :=
  allOps_keepsNames (keeps_insert fun _ _ _ hvalid hinserts => keepsNames_inserts hvalid hinserts)

theorem keepsNames_load (id : Bytes) : AllOps Op.KeepsNames (load id) :=
  allOps_keepsNames (keeps_load id)

theorem keepsNames_prune (query : PruneQuery) : AllOps Op.KeepsNames (prune query) :=
  allOps_keepsNames (keeps_prune keepsNames_delete query)

end ContextSnap.Storage

namespace ContextSnap.SnapshotManager

open Storage (AllOps Connection NamedLibrary emptyConnection)

/-! ### Captures and imports -/

/-- The calls of captures and imports. -/
def Op.Collects : Op → Prop
  | .hal _ | .getenv _ | .direct .now | .direct .generateUlid => True
  | .repository (.insert _) | .repository (.load _) | .repository (.prune _) => True
  | _ => False

section Collects

variable {α β : Type}

def Collecting (action : Action α) : Prop := action.run.All Op.Collects

theorem Collecting.bind {action : Action α} {next : α → Action β} (h : Collecting action)
    (hnext : ∀ value, Collecting (next value)) : Collecting (action >>= next) :=
  Program.All.bind_except h hnext

/-- The calls of a capture: none of them goes to the repository. -/
def Op.Outside : Op → Prop
  | .hal _ | .getenv _ | .direct .now | .direct .generateUlid => True
  | _ => False

theorem Op.Observes.outside {op : Op} (h : op.Observes) : op.Outside := by
  cases op with
  | direct op => cases op <;> trivial
  | repository operation => exact h.elim
  | _ => trivial

theorem outside_capture (manager : SnapshotManager) (options : CaptureOptions) :
    (manager.capture options).run.All Op.Outside := by
  have hobserving : ∀ {γ : Type} {action : Action γ}, Observing action →
      action.run.All Op.Outside := fun h => Program.All.mono (fun _ hop => hop.outside) h
  apply Program.All.bind_except (hobserving (observing_platformCall .steadyNow))
  intro started
  apply Program.All.bind_except (hobserving (observing_observe manager options))
  intro observed
  have hmetadata : manager.captureMetadata.run.All Op.Outside := by
    apply Program.All.bind_except (hobserving observing_freshUlid)
    intro id
    have hnow : now.run.All Op.Outside := ⟨trivial, fun _ => trivial⟩
    apply Program.All.bind_except hnow
    intro createdAt
    exact Program.All.bind_except (hobserving (observing_firstSet _)) fun _ => trivial
  apply Program.All.bind_except hmetadata
  intro metadata
  exact Program.All.bind_except (hobserving (observing_platformCall .steadyNow)) fun _ => trivial

theorem Op.Outside.collects {op : Op} (h : op.Outside) : op.Collects := by
  cases op with
  | direct op => cases op <;> first | exact h.elim | trivial
  | repository operation => exact h.elim
  | _ => trivial

theorem collecting_capture (manager : SnapshotManager) (options : CaptureOptions) :
    Collecting (manager.capture options) :=
  Program.All.mono (fun _ hop => hop.collects) (outside_capture manager options)

theorem all_attempt {good : Op → Prop} {action : Action α} (h : action.run.All good) :
    (attempt action).run.All good :=
  Program.All.bind h fun _ => trivial

theorem all_discard {good : Op → Prop} {action : Action α} (h : action.run.All good) :
    (discard action).run.All good :=
  Program.All.bind h fun result => by cases result <;> trivial

/-- What a capture does with its snapshot. -/
theorem all_insertAndPrune {good : Op → Prop} {manager : SnapshotManager} {snapshot : Snapshot}
    (hinsert : good (.repository (.insert snapshot)))
    (hprune : good (.repository (.prune manager.pruneQuery))) :
    (do discard (repository (.insert snapshot))
        discard (attempt manager.prune)
        return snapshot : Action Snapshot).run.All good := by
  apply Program.All.bind_except (all_discard (Program.all_operation hinsert))
  intro _
  have hpruned : manager.prune.run.All good := Program.all_operation hprune
  exact Program.All.bind_except (all_discard (all_attempt hpruned)) fun _ => trivial

theorem collecting_captureAndStore (manager : SnapshotManager) (options : CaptureOptions) :
    Collecting (manager.captureAndStore options) :=
  (collecting_capture manager options).bind fun _ => all_insertAndPrune trivial trivial

section Imports

variable {good : Op → Prop}

theorem all_orThrow_bind {result : Result α} {next : α → Action β}
    (h : ∀ value, result = .ok value → (next value).run.All good) :
    (orThrow result >>= next).run.All good := by
  cases result with
  | error e => trivial
  | ok value => exact h value rfl

/-- Nothing but the id of a snapshot is changed to make it free. -/
theorem all_withFreeId_bind (hfresh : freshUlid.run.All good)
    (hload : ∀ id, good (.repository (.load id))) {imported : Snapshot} {next : Snapshot → Action β}
    (hnext : ∀ id, (next (Storage.withId imported id)).run.All good) :
    (withFreeId imported >>= next).run.All good := by
  have hfound : (attempt (repository (.load imported.metadata.id))).run.All good :=
    Program.All.bind (Program.all_operation (hload _)) fun _ => trivial
  unfold withFreeId
  rw [bind_assoc]
  apply Program.All.bind_except hfound
  intro loaded
  cases loaded with
  | error e => exact hnext imported.metadata.id
  | ok _ =>
      rw [bind_assoc]
      exact Program.All.bind_except hfresh hnext

/-- The snapshot that goes into the library has the windows that the document holds. -/
theorem all_importSnapshot (houtside : ∀ op : Op, op.Outside → good op)
    (hload : ∀ id, good (.repository (.load id))) {serialized format renameTo : Bytes}
    (hinsert : ∀ parsed fresh read snapshot, Storage.formatFromString format = .ok parsed →
      Storage.deserialize fresh serialized parsed = .ok read → snapshot.windows = read.windows →
      good (.repository (.insert snapshot))) :
    (importSnapshot serialized format renameTo).run.All good := by
  have hfresh : freshUlid.run.All good :=
    ⟨houtside (.direct .generateUlid) trivial, fun _ => trivial⟩
  have hnow : now.run.All good := ⟨houtside (.direct .now) trivial, fun _ => trivial⟩
  apply all_orThrow_bind
  intro parsed hparsed
  apply Program.All.bind_except hfresh
  intro fresh
  apply all_orThrow_bind
  intro read hread
  apply all_withFreeId_bind hfresh hload
  intro id
  apply Program.All.bind_except hnow
  intro updatedAt
  have hstored : ∀ snapshot : Snapshot, snapshot.windows = read.windows →
      (discard (repository (.insert snapshot))).run.All good := fun snapshot hwindows =>
    Program.All.bind_except
      (Program.all_operation (hinsert parsed fresh read snapshot hparsed hread hwindows))
      fun _ => trivial
  exact Program.All.bind_except (hstored _ (by rfl)) fun _ => trivial

end Imports

theorem collecting_importSnapshot (serialized format renameTo : Bytes) :
    Collecting (importSnapshot serialized format renameTo) :=
  all_importSnapshot (fun _ hop => hop.collects) (fun _ => trivial) fun _ _ _ _ _ _ _ => trivial

end Collects

/-- What holds of the connection between requests. -/
def Tidy (c : Connection) : Prop := NamedLibrary c ∧ c.locked = false

section Runs

variable {σ : Type} {around : Surroundings σ} {s s' : σ} {c c' : Connection}

theorem Tidy.call {α : Type} {program : Storage.Repo α} {result : Result α} (h : Tidy c)
    (hnames : AllOps Storage.Op.KeepsNames program)
    (hcompletes : Storage.Completes around.storage program c)
    (hrun : program.run.run (Storage.handler around.storage) c = some (result, c')) : Tidy c' := by
  refine ⟨h.1.run hnames hrun, ?_⟩
  obtain ⟨result', c₁, hrun', hfree⟩ := hcompletes
  rw [hrun] at hrun'
  cases hrun'
  exact hfree

theorem Tidy.step {op : Op} (hop : op.Collects) {answer : Answer op} (h : Tidy c)
    (hanswer : handler around op (s, c) = some (answer, (s', c'))) : Tidy c' := by
  cases op with
  | hal op =>
      obtain ⟨result, -, hresult⟩ := Option.map_eq_some_iff.mp hanswer
      cases hresult
      exact h
  | getenv name =>
      cases hanswer
      exact h
  | direct op =>
      cases op <;> first | exact hop.elim | skip
      all_goals
        cases hanswer
        exact ⟨⟨h.1.rows, h.1.saved⟩, h.2⟩
  | repository operation =>
      obtain ⟨result, hrun, hresult⟩ := Option.map_eq_some_iff.mp hanswer
      cases hresult
      cases operation with
      | insert snapshot =>
          exact h.call (Storage.keepsNames_insert _) (Storage.insert_completes _ h.2) hrun
      | load id => exact h.call (Storage.keepsNames_load _) (Storage.load_completes _ h.2) hrun
      | prune query => exact h.call (Storage.keepsNames_prune _) (Storage.prune_completes _ h.2) hrun
      | _ => exact hop.elim

theorem Tidy.run {α : Type} {action : Action α} (haction : Collecting action) {result : Result α}
    (h : Tidy c) (hrun : action.run.run (handler around) (s, c) = some (result, (s', c'))) :
    Tidy c' := by
  refine Program.All.run_invariant (I := fun state : σ × Connection => Tidy state.2) ?_ haction h hrun
  rintro op ⟨s₁, c₁⟩ answer ⟨s₂, c₂⟩ hop hnow hanswer
  exact hnow.step hop hanswer

end Runs

/-- What captures and imports make of an empty database, each in surroundings of its own. -/
inductive Reachable : Connection → Prop where
  | empty : Reachable emptyConnection
  | capture {σ : Type} {around : Surroundings σ} {manager : SnapshotManager}
      {options : CaptureOptions} {result : Result Snapshot} {s s' : σ} {c c' : Connection}
      (h : Reachable c) (hrun : (manager.captureAndStore options).run.run (handler around) (s, c)
        = some (result, (s', c'))) : Reachable c'
  | importSnapshot {σ : Type} {around : Surroundings σ} {serialized format renameTo : Bytes}
      {result : Result Snapshot} {s s' : σ} {c c' : Connection}
      (h : Reachable c)
      (hrun : (importSnapshot serialized format renameTo).run.run (handler around) (s, c)
        = some (result, (s', c'))) : Reachable c'

/-- The ids of a reachable library are different ULIDs, and nobody holds its mutex. -/
theorem Reachable.tidy {c : Connection} (h : Reachable c) : Tidy c := by
  induction h with
  | empty =>
      have hnone : Storage.Named ([] : List Sql.Row) := ⟨fun _ hrow => (List.not_mem_nil hrow).elim,
        List.nodup_nil⟩
      exact ⟨⟨hnone, fun _ hsaved => by cases hsaved⟩, rfl⟩
  | capture h hrun ih => exact ih.run (collecting_captureAndStore _ _) hrun
  | importSnapshot h hrun ih => exact ih.run (collecting_importSnapshot _ _ _) hrun

end ContextSnap.SnapshotManager
