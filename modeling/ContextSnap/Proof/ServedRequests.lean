import ContextSnap.Proof.DestructiveRequests

/-!
# What served requests do to the rows of snapshots

Insertions and prunes with the calls of a transaction one by one, wherever SQLite fails under them,
and what deletions and updates leave of the transaction that is open.
-/

namespace ContextSnap.Storage

open Sql

/-! ### Rows by their ids -/

theorem Named.map {rows : List Row} (h : Named rows) {edit : Row → Row}
    (hedit : ∀ row, edit row "id" = row "id") : Named (rows.map edit) where
  ulids := by
    intro row hrow
    obtain ⟨old, hold, rfl⟩ := List.mem_map.mp hrow
    rw [hedit]
    exact h.ulids old hold
  distinct := by
    have hsame : (fun row : Row => row "id") ∘ edit = fun row : Row => row "id" := funext hedit
    rw [List.map_map, hsame]
    exact h.distinct

theorem mem_storedIds {tables : Tables Table} (h : Named (tables .snapshots)) {id : Bytes} :
    id ∈ storedIds tables ↔ ∃ row ∈ tables .snapshots, row "id" = .text id := by
  rw [storedIds, List.mem_map]
  constructor
  · rintro ⟨row, hrow, rfl⟩
    obtain ⟨id, hid, -⟩ := h.ulids row hrow
    exact ⟨row, hrow, by rw [hid]; rfl⟩
  · rintro ⟨row, hrow, hid⟩
    exact ⟨row, hrow, by rw [hid]; rfl⟩

/-- A stored id that a lookup is asked for is the one that it finds, if it finds one. -/
theorem mem_storedIds_iff_of_resolution {tables : Tables Table} (h : Named (tables .snapshots))
    {idStart id : Bytes} (hfound : resolution idStart (foundIds idStart tables) = .ok id) :
    idStart ∈ storedIds tables ↔ idStart = id := by
  obtain ⟨⟨hmem, -⟩, honly⟩ := (resolution_ok_iff h).mp hfound
  constructor
  · intro hstored
    have hordinary : ¬ HasWildcard idStart := fun hwild =>
      not_startsWith_of_wildcard hwild (valid_of_mem_storedIds h hstored) List.prefix_rfl
    exact honly idStart hstored ((like_likePattern hordinary).mpr List.prefix_rfl)
  · rintro rfl
    exact hmem

/-! ### Transactions call by call -/

section Transactions

variable {env : Environment} {α : Type} {c c' : Connection}

/-- The tables and what a ROLLBACK would make of them are the same. -/
def Settled (tables : Tables Table) (c : Connection) : Prop :=
  c.tables = tables ∧ ∀ saved, c.saved = some saved → saved = tables

def Op.Scripted (op : Op) : Prop := ∃ script, op = .exec script

theorem Settled.script {tables : Tables Table} (h : Settled tables c) {script : Script}
    (hrun : runScript script c = .ok ((), c')) : Settled tables c' := by
  obtain ⟨rfl, hsaved⟩ := h
  cases hopen : c.saved with
  | none =>
      cases script <;> simp only [runScript, hopen] at hrun <;> cases hrun
      · exact ⟨rfl, fun saved heq => (Option.some.inj heq).symm⟩
      · exact ⟨rfl, fun saved heq => (Option.some.inj heq).symm⟩
      · exact ⟨rfl, hsaved⟩
  | some saved =>
      cases script <;> simp only [runScript, hopen] at hrun <;> cases hrun
      · exact ⟨rfl, fun _ hnone => by cases hnone⟩
      · exact ⟨hsaved saved hopen, fun _ hnone => by cases hnone⟩
      · exact ⟨rfl, hsaved⟩

theorem Settled.run {tables : Tables Table} {program : Repo α}
    (hprogram : AllOps Op.Scripted program) (h : Settled tables c) {result : Result α}
    (hrun : program.run.run (handler env) c = some (result, c')) : Settled tables c' := by
  refine Program.All.run_invariant ?_ hprogram h hrun
  rintro op now answer next ⟨script, rfl⟩ hnow hanswer
  have hcall := Option.some.inj hanswer
  rcases call_cases env now (runScript script) with ⟨failure, hfail⟩ | ⟨_, c₁, hwork, hdone⟩
  · rw [hfail] at hcall
    cases hcall
    exact hnow
  · rw [hdone] at hcall
    cases hcall
    exact Settled.script (c := now.counted) hnow hwork

theorem scripted_exec (script : Script) : AllOps Op.Scripted (exec script) :=
  allOps_exec ⟨script, rfl⟩

/-- A transaction is a BEGIN, its body and an end. -/
theorem withTransaction_parts {body : Repo α} {result : Result α}
    (h : (withTransaction body).run.run (handler env) c = some (result, c')) :
    ∃ begun c₀ outcome c₁ ending, (exec .beginImmediate).run.run (handler env) c = some (begun, c₀)
      ∧ body.run.run (handler env) c₀ = some (outcome, c₁)
      ∧ AllOps Op.Scripted (ending : Repo α)
      ∧ ending.run.run (handler env) c₁ = some (result, c') := by
  rcases Program.run_except_bind_cases h with ⟨e, -, hattempt⟩ | ⟨begun, c₀, hbegin, h⟩
  · obtain ⟨_, herror, -⟩ := Program.run_lift_inv hattempt
    cases herror
  rcases Program.run_except_bind_cases h with ⟨e, -, hattempt⟩ | ⟨outcome, c₁, hbody, h⟩
  · obtain ⟨_, herror, -⟩ := Program.run_lift_inv hattempt
    cases herror
  obtain ⟨_, hbegun, hbegin⟩ := Program.run_lift_inv hbegin
  obtain ⟨_, houtcome, hbody⟩ := Program.run_lift_inv hbody
  cases hbegun
  cases houtcome
  refine ⟨begun, c₀, outcome, c₁, _, hbegin, hbody, ?_, h⟩
  cases outcome with
  | ok value =>
      apply AllOps.bind ?_ fun _ => AllOps.pure _
      unfold commit
      split
      · exact scripted_exec _
      · exact AllOps.throw _
  | error e =>
      apply AllOps.bind ?_ fun _ => AllOps.throw _
      unfold rollback
      split
      · exact (scripted_exec _).attempt.discard
      · exact AllOps.pure _

/-! ### Readings of the clock -/

def Op.Timeless (op : Op) : Prop := op ≠ .now

theorem call_readings {work : Connection → Except Failure (α × Connection)}
    {answer : Except Failure α} (h : some (call env c work) = some (answer, c'))
    (hwork : ∀ c value c', work c = .ok (value, c') → c'.readings = c.readings) :
    c'.readings = c.readings := by
  have hcall := Option.some.inj h
  rcases call_cases env c work with ⟨failure, hfail⟩ | ⟨value, c₁, hok, hdone⟩
  · rw [hfail] at hcall
    cases hcall
    rfl
  · rw [hdone] at hcall
    cases hcall
    exact hwork c.counted value _ hok

theorem handler_timeless {op : Op} (h : op.Timeless) {answer : Answer op}
    (hanswer : handler env op c = some (answer, c')) : c'.readings = c.readings := by
  cases op with
  | now => exact absurd rfl h
  | lock =>
      change (if c.locked then none else some _) = _ at hanswer
      split at hanswer <;> cases hanswer
      rfl
  | unlock => cases hanswer; rfl
  | changes => cases hanswer; rfl
  | generateUlid => cases hanswer; rfl
  | prepare tables =>
      apply call_readings hanswer
      intro c value c' hok
      cases hok
      rfl
  | exec script =>
      apply call_readings hanswer
      intro c value c' hok
      unfold runScript at hok
      split at hok <;> cases hok <;> rfl
  | dml statement values =>
      apply call_readings hanswer
      intro c value c' hok
      unfold runStatement at hok
      split at hok <;> cases hok
      rfl
  | select statement values expression =>
      apply call_readings hanswer
      intro c value c' hok
      rw [runSelect_eq hok]

theorem readings_of_timeless {program : Repo α} (h : AllOps Op.Timeless program)
    {result : Result α} (hrun : program.run.run (handler env) c = some (result, c')) :
    c'.readings = c.readings := by
  refine Program.All.run_invariant (I := fun now : Connection => now.readings = c.readings) ?_ h rfl
    hrun
  intro op now answer next hop hnow hanswer
  exact (handler_timeless hop hanswer).trans hnow

theorem timeless_pruneWith (statement : Dml Table) (value : Int64) :
    AllOps Op.Timeless (pruneWith statement value) := by
  apply AllOps.bind ((AllOps.ask (by rintro ⟨⟩)).bind fun _ => AllOps.orFail _ _ _)
  intro _
  apply AllOps.bind ((AllOps.ask (by rintro ⟨⟩)).bind fun _ => AllOps.orFail _ _ _)
  intro _
  exact (AllOps.ask (by rintro ⟨⟩)).bind fun _ => AllOps.pure _

/-- A prune for their age reads the clock once. -/
theorem pruneAll_readings {query : PruneQuery} (hdays : query.retentionDays > 0)
    {result : Result UInt32} (h : (pruneAll query).run.run (handler env) c = some (result, c')) :
    c'.readings = c.readings + 1 := by
  have hnow : (ask .now).run.run (handler env) c
      = some (.ok (env.clock c.readings), { c with readings := c.readings + 1 }) := rfl
  set cutoff := toUnixMillis (env.clock c.readings)
    - uint32ToInt64 query.retentionDays * 24 * 60 * 60 * 1000
  have hexpired : (pruneExpired query).run.run (handler env) c
      = (pruneWith (deleteExpired query) cutoff).run.run (handler env)
        { c with readings := c.readings + 1 } := by
    rw [pruneExpired, if_pos hdays, run_bind_ok hnow]
  have hsurplus : AllOps Op.Timeless (pruneSurplus query) := by
    unfold pruneSurplus
    split
    · exact timeless_pruneWith _ _
    · exact AllOps.pure _
  rcases Program.run_except_bind_cases h with ⟨e, -, hfails⟩ | ⟨expired, c₁, hworks, hrest⟩
  · rw [hexpired] at hfails
    exact readings_of_timeless (timeless_pruneWith _ _) hfails
  · rw [hexpired] at hworks
    have hrest' := readings_of_timeless (hsurplus.bind fun _ => AllOps.pure _) hrest
    exact hrest'.trans (readings_of_timeless (timeless_pruneWith _ _) hworks)

/-! ### Prunes and insertions -/

theorem prune_transaction {query : PruneQuery} {result : Result UInt32}
    (h : (prune query).run.run (reentrantHandler env) c = some (result, c')) :
    (withTransaction (pruneAll query)).run.run (handler env) c = some (result, c') := by
  have hscope : prune query = withLock (withTransaction (pruneAll query)) := rfl
  rwa [hscope, reentrant_withLock,
    reentrant_keepsMutex (keepsMutex_withTransaction (pruneAll_inside query))] at h

theorem timeless_of_scripted : ∀ op : Op, op.Scripted → op.Timeless := by
  rintro op ⟨script, rfl⟩ ⟨⟩

theorem prune_readings {query : PruneQuery} (hdays : query.retentionDays > 0)
    {result : Result UInt32}
    (h : (prune query).run.run (reentrantHandler env) c = some (result, c')) :
    c'.readings = c.readings + 1 := by
  obtain ⟨begun, c₀, outcome, c₁, ending, hbegin, hbody, hending, hend⟩ :=
    withTransaction_parts (prune_transaction h)
  have hbegun := readings_of_timeless
    (Program.All.mono timeless_of_scripted (scripted_exec _)) hbegin
  have hended := readings_of_timeless (Program.All.mono timeless_of_scripted hending) hend
  rw [hended, pruneAll_readings hdays hbody, hbegun]

/-- A prune with nothing to delete deletes nothing, wherever SQLite fails. -/
theorem prune_idle {query : PruneQuery} (hauto : c.saved = none)
    (hkept : ¬ Expires query (env.clock c.readings) c.tables) (hfits : ¬ Exceeds query c.tables)
    {result : Result UInt32}
    (h : (prune query).run.run (reentrantHandler env) c = some (result, c')) :
    c'.tables = c.tables := by
  obtain ⟨begun, c₀, outcome, c₁, ending, hbegin, hbody, hending, hend⟩ :=
    withTransaction_parts (prune_transaction h)
  have hsettled : Settled c.tables c := ⟨rfl, fun _ hsaved => by rw [hauto] at hsaved; cases hsaved⟩
  have hsettled₀ := hsettled.run (scripted_exec _) hbegin
  have hreadings := readings_of_timeless
    (Program.All.mono timeless_of_scripted (scripted_exec _)) hbegin
  have hexpired : expired query (env.clock c₀.readings) c₀.tables = c.tables := by
    rw [hreadings, hsettled₀.1]
    exact ((expired_cases query _ _).resolve_left fun hexpires => hkept hexpires.1).2
  have htrimmed : trimmed query c.tables = c.tables :=
    ((trimmed_cases query _).resolve_left fun hexceeds => hfits hexceeds.1).2
  have hsame : c₁.tables = c.tables := by
    rcases pruneAll_cases env c₀ query with
      ⟨-, e, c₂, hrun, htables⟩ | ⟨-, -, e, c₂, hrun, htables⟩ | ⟨-, -, count, c₂, hrun, htables⟩
    all_goals
      rw [hbody] at hrun
      cases hrun
    · exact htables.trans hsettled₀.1
    · exact htables.trans hexpired
    · rw [htables, hexpired, htrimmed]
  have hsaved := saved_of_inside (pruneAll_inside query) hbody
  have hsettled₁ : Settled c.tables c₁ := ⟨hsame, fun saved heq => hsettled₀.2 saved (hsaved ▸ heq)⟩
  exact (hsettled₁.run hending hend).1

/-- Where SQLite works, a prune deletes what there is to delete. -/
theorem prune_works (hworks : ∀ n, env.fault n = none) {query : PruneQuery} (hauto : c.saved = none)
    {result : Result UInt32}
    (h : (prune query).run.run (reentrantHandler env) c = some (result, c')) :
    c'.saved = none
      ∧ c'.tables = trimmed query (expired query (env.clock c.readings) c.tables) := by
  have hnever : ∀ n, ¬ Fails env n := fun n hfails =>
    hfails.elim (fun hfault => hfault (hworks n)) fun hfault => hfault (hworks (n + 1))
  have hbody : ∃ count c₁, (pruneAll query).run.run (handler env) c.begun = some (.ok count, c₁)
      ∧ c₁.tables = trimmed query (expired query (env.clock c.readings) c.tables) := by
    rcases pruneAll_cases env c.begun query with ⟨hfails, -⟩ | ⟨-, hfails, -⟩ | ⟨-, -, hruns⟩
    · exact absurd hfails.2 (hnever _)
    · exact absurd hfails.2 (hnever _)
    · exact hruns
  obtain ⟨count, c₁, hrun, htables⟩ := hbody
  have hsaved : c₁.saved = some c.tables := saved_of_inside (pruneAll_inside query) hrun
  have hdone := (withTransaction_committed hauto (hworks _) hsaved hrun).1 (hworks _)
  rw [prune_transaction h] at hdone
  cases hdone
  exact ⟨rfl, htables⟩

/-- An insertion that succeeds added the row of the snapshot. -/
theorem insert_served {original : Snapshot} {id : Bytes} (hid : original.metadata.id ≠ [])
    (h : (insert original).run.run (reentrantHandler env) c = some (.ok id, c')) :
    c'.saved = none ∧ isValidUlid original.metadata.id = true
      ∧ c'.tables .snapshots = c.tables .snapshots ++ [snapshotRow original]
      ∧ ∀ row ∈ c.tables .snapshots, row "id" ≠ .text original.metadata.id := by
  have hassigned : assigned env c original = (original.metadata.id, c) := if_neg hid
  rw [insert, Program.run_except_bind_ok (assignId_reentrant c original), hassigned] at h
  have hsame : withId original original.metadata.id = original := rfl
  rw [hsame] at h
  by_cases hvalid : isValidUlid original.metadata.id = true
  · rw [if_pos hvalid, reentrant_withLock,
      reentrant_keepsMutex (keepsMutex_withTransaction (insertAll_inside _))] at h
    obtain ⟨-, c₁, hbody, hcommitted⟩ := withTransaction_inv h
    obtain ⟨hrows, hfresh, -⟩ := insertAll_inv hbody
    rw [hcommitted]
    exact ⟨rfl, hvalid, hrows, hfresh⟩
  · rw [if_neg hvalid] at h
    cases h

/-- Where SQLite works, an insertion that fails leaves everything as it is. -/
theorem insert_failed (hworks : ∀ n, env.fault n = none) (hauto : c.saved = none)
    {original : Snapshot} {e : Error}
    (h : (insert original).run.run (reentrantHandler env) c = some (.error e, c')) :
    c'.saved = none ∧ c'.tables = c.tables := by
  rw [insert, Program.run_except_bind_ok (assignId_reentrant c original)] at h
  have hassigned : (assigned env c original).2.tables = c.tables
      ∧ (assigned env c original).2.saved = none := by
    unfold assigned
    split <;> exact ⟨rfl, hauto⟩
  split at h
  · rw [reentrant_withLock,
      reentrant_keepsMutex (keepsMutex_withTransaction (insertAll_inside _))] at h
    obtain ⟨hsaved, ⟨_, -, hsame⟩ | ⟨_, _, hok, -⟩⟩ :=
      withTransaction_works hworks hassigned.2 (insertAll_inside _) h
    · exact ⟨hsaved, hsame.trans hassigned.1⟩
    · cases hok
  · cases h
    exact ⟨hassigned.2, hassigned.1⟩

/-! ### Calls that leave a transaction alone -/

def Op.Unscripted (op : Op) : Prop := ∀ script, op ≠ .exec script

theorem unscripted_plain : ∀ op : Op, op.Plain → op.Unscripted := fun _ h => h.inside.2

theorem reads_unscripted : ∀ op : Op, op.Reads → op.Unscripted := by
  rintro op (rfl | rfl | hplain)
  · rintro script ⟨⟩
  · rintro script ⟨⟩
  · exact hplain.inside.2

theorem saved_of_unscripted {program : Repo α} (h : AllOps Op.Unscripted program)
    {result : Result α} (hrun : program.run.run (reentrantHandler env) c = some (result, c')) :
    c'.saved = c.saved := by
  refine Program.All.run_invariant (I := fun now : Connection => now.saved = c.saved) ?_ h rfl hrun
  intro op now answer next hop hnow hanswer
  by_cases hkeeps : op.KeepsMutex
  · rw [reentrantHandler_eq hkeeps] at hanswer
    exact (handler_inside ⟨hkeeps, hop⟩ hanswer).1.trans hnow
  · rcases Op.lock_or_unlock hkeeps with rfl | rfl <;> cases hanswer <;> exact hnow

theorem unscripted_withLock {body : Repo α} (h : AllOps Op.Unscripted body) :
    AllOps Op.Unscripted (withLock body) :=
  allOps_withLock (by rintro script ⟨⟩) (by rintro script ⟨⟩) h

theorem unscripted_remove (id : Bytes) : AllOps Op.Unscripted (remove id) := by
  apply unscripted_withLock
  apply (allOps_prepare unscripted_plain _).bind
  intro _
  apply (allOps_execute (inside_dml _ _).2).bind
  intro _
  apply (AllOps.ask (unscripted_plain .changes trivial)).bind
  intro changes
  split
  · exact AllOps.throw _
  · exact AllOps.pure _

theorem unscripted_updateMetadata (metadata : SnapshotMetadata) :
    AllOps Op.Unscripted (updateMetadata metadata) := by
  apply unscripted_withLock
  apply (allOps_prepare unscripted_plain _).bind
  intro _
  apply (AllOps.ask (unscripted_plain .now trivial)).bind
  intro now
  apply (allOps_execute (inside_dml _ _).2).bind
  intro _
  apply (AllOps.ask (unscripted_plain .changes trivial)).bind
  intro changes
  split
  · exact AllOps.throw _
  · refine Program.All.mono ?_ (refreshes_refreshIndex metadata.id)
    rintro op (hreads | ⟨values, rfl⟩)
    · exact reads_unscripted op hreads
    · exact (inside_dml _ _).2

/-- An update that succeeds edits the row with the id. -/
theorem updateMetadata_served {metadata : SnapshotMetadata} {id : Bytes}
    (h : (updateMetadata metadata).run.run (reentrantHandler env) c = some (.ok (), c'))
    (hid : metadata.id = id) :
    c'.saved = c.saved ∧ ∃ edit : Row → Row, (∀ row, edit row "id" = row "id")
      ∧ (∀ row, row "id" ≠ .text id → edit row = row)
      ∧ c'.tables .snapshots = (c.tables .snapshots).map edit := by
  refine ⟨saved_of_unscripted (unscripted_updateMetadata metadata) h, ?_⟩
  rcases updateMetadata_cases h with ⟨⟨_, herror⟩, -⟩ | ⟨-, -, now, hrows⟩
  · cases herror
  · refine ⟨editedRow metadata now, fun row => editedRow_id, fun row hne => ?_, hrows⟩
    exact if_neg (hid ▸ hne)

end Transactions

/-! ### Retention with nothing to delete -/

section Retention

variable {query : PruneQuery} {now : Timestamp} {tables : Tables Table}

theorem expires_iff :
    Expires query now tables ↔ ∃ row ∈ tables .snapshots, tooOld query now row = true := by
  constructor
  · rintro ⟨hdays, row, hrow, hold⟩
    exact ⟨row, hrow, Bool.and_eq_true_iff.mpr ⟨decide_eq_true hdays, hold⟩⟩
  · rintro ⟨row, hrow, hold⟩
    obtain ⟨hdays, hold⟩ := Bool.and_eq_true_iff.mp hold
    exact ⟨of_decide_eq_true hdays, row, hrow, hold⟩

theorem exceeds_iff :
    Exceeds query tables ↔ query.maxSnapshots > 0
      ∧ query.maxSnapshots.toNat < (tables .snapshots).countP (prunable query) := by
  have hdeletes : Deletes (deleteSurplus query) [.integer (uint32ToInt64 query.maxSnapshots)] tables
      ↔ surplus query (tables .snapshots) ≠ [] := by
    unfold Deletes deleteSurplus deletedBy
    simp only [rows_selectSurplus, List.contains_eq_any_beq, List.any_map, List.any_eq_true]
    constructor
    · rintro ⟨row, -, other, hother, -⟩
      exact List.ne_nil_of_mem hother
    · intro hne
      obtain ⟨row, hrow⟩ := List.exists_mem_of_ne_nil _ hne
      exact ⟨row, surplus_subset query hrow, row, hrow, by simp [Row.key]⟩
  rw [Exceeds, hdeletes, surplus, ne_eq, List.drop_eq_nil_iff, not_le, List.length_mergeSort,
    List.countP_eq_length_filter]

/-- Retention at `now` deletes nothing behind a capture at `created`. -/
def RetainsAll (query : PruneQuery) (now created : Timestamp) (rows : List Row) : Prop :=
  (query.retentionDays = 0 ∨ pruneCutoff query now ≤ toUnixMillis created)
    ∧ (∀ row ∈ rows, tooOld query now row = false)
    ∧ (query.maxSnapshots = 0 ∨ rows.countP (prunable query) < query.maxSnapshots.toNat)

theorem retainsAll_iff {rows : List Row} {snapshot : Snapshot}
    (hrows : tables .snapshots = rows ++ [snapshotRow snapshot])
    (hprunable : prunable query (snapshotRow snapshot) = true) :
    RetainsAll query now snapshot.metadata.createdAt rows
      ↔ ¬ Expires query now tables ∧ ¬ Exceeds query tables := by
  have hexpires : ¬ Expires query now tables
      ↔ tooOld query now (snapshotRow snapshot) = false
        ∧ ∀ row ∈ rows, tooOld query now row = false := by
    rw [expires_iff, hrows]
    simp only [List.mem_append, List.mem_singleton, not_exists, not_and, Bool.not_eq_true]
    constructor
    · exact fun h => ⟨h _ (.inr rfl), fun row hrow => h row (.inl hrow)⟩
    · rintro ⟨hnew, hold⟩ row (hrow | rfl)
      · exact hold row hrow
      · exact hnew
  have hexceeds : ¬ Exceeds query tables
      ↔ query.maxSnapshots = 0 ∨ rows.countP (prunable query) < query.maxSnapshots.toNat := by
    have hcount : (tables .snapshots).countP (prunable query)
        = rows.countP (prunable query) + 1 := by
      simp [hrows, hprunable]
    have hzero : ¬ query.maxSnapshots > 0 ↔ query.maxSnapshots = 0 := by
      rw [gt_iff_lt, UInt32.not_lt, UInt32.le_zero_iff]
    rw [exceeds_iff, hcount, not_and_or, hzero]
    exact or_congr_right (by omega)
  rw [hexpires, hexceeds, tooOld_snapshotRow hprunable, RetainsAll, and_assoc]

end Retention

/-! ### The id of a document -/

theorem except_bind_ok {α β : Type} {first : Result α} {next : α → Result β} {value : β}
    (h : first >>= next = .ok value) : ∃ middle, first = .ok middle ∧ next middle = .ok value := by
  cases first with
  | error e => cases h
  | ok middle => exact ⟨middle, rfl, h⟩

/-- What is behind a check that throws. -/
theorem guard_ok_iff {α : Type} {condition : Prop} [Decidable condition] {e : Error}
    {next : Unit → Result α} {value : α} :
    (if condition then (throw e : Result Unit) >>= next else next ()) = .ok value
      ↔ ¬ condition ∧ next () = .ok value := by
  by_cases hcondition : condition
  · rw [if_pos hcondition]
    exact iff_of_false (fun h => by cases h) fun h => h.1 hcondition
  · rw [if_neg hcondition]
    exact (and_iff_right hcondition).symm

theorem metadataFromJson_id {fresh : Bytes} {value : Json.Value} {metadata : SnapshotMetadata}
    (hfresh : fresh ≠ []) (h : metadataFromJson fresh value = .ok metadata) :
    metadata.id ≠ [] := by
  rw [metadataFromJson, guard_ok_iff, guard_ok_iff] at h
  obtain ⟨-, -, hdone⟩ := h
  cases hdone
  change (if (readString value "id").isEmpty then fresh else readString value "id") ≠ []
  split
  · exact hfresh
  · rename_i hempty
    exact fun hnil => hempty (List.isEmpty_iff.mpr hnil)

theorem snapshotFromJson_id {fresh : Bytes} {value : Json.Value} {snapshot : Snapshot}
    (hfresh : fresh ≠ []) (h : snapshotFromJson fresh value = .ok snapshot) :
    snapshot.metadata.id ≠ [] := by
  rw [snapshotFromJson, guard_ok_iff] at h
  obtain ⟨-, h⟩ := h
  split at h
  · cases h
  · obtain ⟨metadata, hmetadata, h⟩ := except_bind_ok h
    obtain ⟨windows, -, hdone⟩ := except_bind_ok h
    cases hdone
    exact metadataFromJson_id hfresh hmetadata

/-- A document without an id gets a fresh one. -/
theorem deserialize_id {fresh payload : Bytes} {format : Format} {snapshot : Snapshot}
    (hfresh : fresh ≠ []) (h : deserialize fresh payload format = .ok snapshot) :
    snapshot.metadata.id ≠ [] := by
  rw [deserialize, guard_ok_iff] at h
  obtain ⟨parsed, -, h⟩ := except_bind_ok h.2
  split at h
  · obtain ⟨document, -, hsnapshot⟩ := except_bind_ok h
    exact snapshotFromJson_id hfresh hsnapshot
  · exact snapshotFromJson_id hfresh h

end ContextSnap.Storage

namespace ContextSnap.Daemon

open Json (Value)
open SnapshotManager (Action Answer Captured Op Surroundings)
open Storage (AllOps Connection foundIds resolution)

/-! ### Requests call by call -/

section Calls

variable {σ : Type} {around : Surroundings σ} {s s' : σ} {c c' : Connection}

/-- The tables and the open transaction are as they were. -/
def Unwritten (before after : Connection) : Prop :=
  after.tables = before.tables ∧ after.saved = before.saved

theorem Unwritten.refl (c : Connection) : Unwritten c c := ⟨rfl, rfl⟩

theorem Unwritten.trans {first second third : Connection} (h : Unwritten first second)
    (h' : Unwritten second third) : Unwritten first third :=
  ⟨h'.1.trans h.1, h'.2.trans h.2⟩

theorem reentrantHandler_outside {op : Op} (h : op.Outside) (state : σ × Connection) :
    reentrantHandler around op state = SnapshotManager.handler around op state := by
  cases op with
  | direct op => cases op <;> first | exact h.elim | rfl
  | repository operation => exact h.elim
  | _ => rfl

theorem unwritten_of_outside {op : Op} (h : op.Outside) {answer : Answer op}
    (hanswer : SnapshotManager.handler around op (s, c) = some (answer, (s', c'))) :
    Unwritten c c' := by
  cases op with
  | hal op =>
      obtain ⟨result, -, hdone⟩ := Option.map_eq_some_iff.mp hanswer
      cases hdone
      exact .refl _
  | getenv name =>
      cases hanswer
      exact .refl _
  | direct op =>
      cases op <;> first | exact h.elim | skip
      all_goals
        cases hanswer
        exact ⟨rfl, rfl⟩
  | repository operation => exact h.elim

theorem run_outside {α : Type} {action : Action α} (h : action.run.All Op.Outside)
    {result : Result α}
    (hrun : action.run.run (reentrantHandler around) (s, c) = some (result, (s', c'))) :
    action.run.run (SnapshotManager.handler around) (s, c) = some (result, (s', c'))
      ∧ Unwritten c c' := by
  rw [Program.All.run_congr (fun _ state hop => reentrantHandler_outside hop state) h] at hrun
  refine ⟨hrun, ?_⟩
  refine Program.All.run_invariant (I := fun state : σ × Connection => Unwritten c state.2) ?_ h
    (Unwritten.refl c) hrun
  rintro op ⟨s₁, c₁⟩ answer ⟨s₂, c₂⟩ hop hnow hanswer
  exact hnow.trans (unwritten_of_outside hop hanswer)

theorem unwritten_of_reads {α : Type} {program : Storage.Repo α}
    (h : AllOps Storage.Op.Reads program) {result : Result α}
    (hrun : program.run.run (Storage.reentrantHandler around.storage) c = some (result, c')) :
    Unwritten c c' :=
  ⟨Storage.tables_of_reads h hrun,
    Storage.saved_of_unscripted (Program.All.mono Storage.reads_unscripted h) hrun⟩

theorem reentrant_repository_inv {operation : Storage.Operation}
    {result : Result operation.Output}
    (h : (SnapshotManager.repository operation).run.run (reentrantHandler around) (s, c)
      = some (result, (s', c'))) :
    s' = s ∧ operation.call.run.run (Storage.reentrantHandler around.storage) c
      = some (result, c') := by
  rw [repository_eq] at h
  obtain ⟨found, hfound, hdone⟩ := Option.map_eq_some_iff.mp h
  cases hdone
  exact ⟨rfl, hfound⟩

/-- A change that succeeds deleted or edited the row that its lookup found. -/
theorem change_served {params : Value} {idStart : Bytes} (request : ChangeRequest)
    (h : (request.change params idStart).run.run (reentrantHandler around) (s, c)
      = some (.ok (), (s', c'))) :
    ∃ id, resolution idStart (foundIds idStart c.tables) = .ok id ∧ c'.saved = c.saved
      ∧ (request = .delete ∧ c'.tables .snapshots
            = (c.tables .snapshots).filter (fun row => row "id" ≠ .text id)
        ∨ request ≠ .delete ∧ ∃ edit : Sql.Row → Sql.Row, (∀ row, edit row "id" = row "id")
          ∧ (∀ row, row "id" ≠ .text id → edit row = row)
          ∧ c'.tables .snapshots = (c.tables .snapshots).map edit) := by
  rcases request.change_cases params with ⟨rfl, hremove⟩ | ⟨hedits, change, hkeeps, hedit⟩
  · rw [hremove] at h
    obtain ⟨id, ⟨s₁, c₁⟩, hfind, hrest⟩ := Program.run_except_bind_inv h
    obtain ⟨-, hlookup⟩ := reentrant_repository_inv hfind
    obtain ⟨-, hdelete⟩ := reentrant_repository_inv hrest
    obtain ⟨htables, hsaved⟩ := unwritten_of_reads (Storage.reads_resolveIdPrefix _) hlookup
    obtain ⟨-, hdeleted⟩ := Storage.remove_inv hdelete
    refine ⟨id, Storage.resolveIdPrefix_inv hlookup,
      (Storage.saved_of_unscripted (Storage.unscripted_remove id) hdelete).trans hsaved,
      .inl ⟨rfl, ?_⟩⟩
    rw [hdeleted, Storage.deleteSnapshot, Storage.afterStatement_delete_snapshots, htables]
    apply List.filter_congr
    intro row _
    simp [Storage.whereEqual, Sql.param]
  · rw [hedit] at h
    obtain ⟨metadata, ⟨s₂, c₂⟩, hcurrent, hrest⟩ := Program.run_except_bind_inv h
    obtain ⟨loaded, ⟨s₃, c₃⟩, hget, hmetadata⟩ := Program.run_except_bind_inv hcurrent
    obtain ⟨id, ⟨s₁, c₁⟩, hfind, hread⟩ := Program.run_except_bind_inv hget
    obtain ⟨now, ⟨s₄, c₄⟩, hnow, hwrite⟩ := Program.run_except_bind_inv hrest
    cases hmetadata
    cases hnow
    obtain ⟨-, hlookup⟩ := reentrant_repository_inv hfind
    obtain ⟨-, hload⟩ := reentrant_repository_inv hread
    obtain ⟨-, hupdate⟩ := reentrant_repository_inv hwrite
    obtain ⟨htables, hsaved⟩ := (unwritten_of_reads (Storage.reads_resolveIdPrefix _) hlookup).trans
      (unwritten_of_reads (Storage.reads_load _) hload)
    have hid : loaded.metadata.id = id :=
      Storage.metadata_id_of_current (Storage.load_metadata hload)
    obtain ⟨hsaved', edit, hids, hothers, hrows⟩ :=
      Storage.updateMetadata_served hupdate ((hkeeps _).trans hid)
    refine ⟨id, Storage.resolveIdPrefix_inv hlookup, hsaved'.trans hsaved,
      .inr ⟨hedits, edit, hids, hothers, ?_⟩⟩
    rw [hrows]
    exact congrArg (fun tables : Sql.Tables Storage.Table => (tables .snapshots).map edit) htables

theorem returns_of_bind {α β : Type} {action : Action α} {next : α → Action β}
    {result : Result β} {state state' : σ × Connection}
    (h : (action >>= next).run.run (reentrantHandler around) state = some (result, state')) :
    ∃ first middle, action.run.run (reentrantHandler around) state = some (first, middle) := by
  rcases Program.run_except_bind_cases h with ⟨e, -, hfirst⟩ | ⟨value, middle, hfirst, -⟩
  · exact ⟨_, _, hfirst⟩
  · exact ⟨_, _, hfirst⟩

/-- Where SQLite works, a change that fails leaves everything as it is. -/
theorem change_failed (hworks : ∀ n, around.storage.fault n = none)
    (hnamed : Storage.Named (c.tables .snapshots)) {params : Value} {idStart : Bytes}
    (request : ChangeRequest) {e : Error}
    (h : (request.change params idStart).run.run (reentrantHandler around) (s, c)
      = some (.error e, (s', c'))) : Unwritten c c' := by
  have hstarts : ∃ found state, (SnapshotManager.repository (.resolveIdPrefix idStart)).run.run
      (reentrantHandler around) (s, c) = some (found, state) := by
    rcases request.change_cases params with ⟨-, hremove⟩ | ⟨-, change, -, hedit⟩
    · rw [hremove] at h
      exact returns_of_bind h
    · rw [hedit] at h
      obtain ⟨_, _, hcurrent⟩ := returns_of_bind h
      obtain ⟨_, _, hget⟩ := returns_of_bind hcurrent
      exact returns_of_bind hget
  obtain ⟨found, ⟨s₁, c₁⟩, hfind⟩ := hstarts
  obtain ⟨-, hlookup⟩ := reentrant_repository_inv hfind
  have hsame := unwritten_of_reads (Storage.reads_resolveIdPrefix idStart) hlookup
  cases found with
  | error e' =>
      have hanswer : reentrantHandler around (.repository (.resolveIdPrefix idStart)) (s, c)
          = some (.error e', (s, c₁)) := congrArg (Option.map _) hlookup
      have hfails := @change_error _ _ params s c c₁ e' idStart request hanswer
      rw [h] at hfails
      cases hfails
      exact hsame
  | ok id =>
      have hfound := (Storage.resolution_ok_iff hnamed).mp (Storage.resolveIdPrefix_inv hlookup)
      obtain ⟨row, hrow, hid⟩ := (Storage.mem_storedIds hnamed).mp hfound.1.1
      have hstored : Storage.rowsNamed id c₁.tables ≠ [] := by
        rw [hsame.1]
        exact List.ne_nil_of_mem (List.mem_filter.mpr ⟨hrow, decide_eq_true hid⟩)
      cases change_succeeds hworks hlookup hstored request h

/-- A request that fails before its insertion or in it. -/
def Stops (env : Storage.Environment) (c : Connection) (e : Error) (c' : Connection) : Prop :=
  ∃ c₁, Unwritten c c₁ ∧ (c' = c₁ ∨ ∃ snapshot,
    (Storage.insert snapshot).run.run (Storage.reentrantHandler env) c₁ = some (.error e, c'))

theorem Stops.unwritten {env : Storage.Environment} (hworks : ∀ n, env.fault n = none)
    (hauto : c.saved = none) {e : Error} (h : Stops env c e c') : Unwritten c c' := by
  obtain ⟨c₁, hsame, rfl | ⟨snapshot, hinsert⟩⟩ := h
  · exact hsame
  · have hauto₁ : c₁.saved = none := hsame.2.trans hauto
    obtain ⟨hsaved, htables⟩ := Storage.insert_failed hworks hauto₁ hinsert
    exact hsame.trans ⟨htables, hsaved.trans hauto₁.symm⟩

theorem discard_cases {α : Type} {action : Action α} {result : Result Unit}
    {state state' : σ × Connection}
    (h : (discard action).run.run (reentrantHandler around) state = some (result, state')) :
    (∃ e, result = .error e
        ∧ action.run.run (reentrantHandler around) state = some (.error e, state'))
      ∨ ∃ value, result = .ok ()
        ∧ action.run.run (reentrantHandler around) state = some (.ok value, state') := by
  have hdiscard : discard action = action >>= fun _ => pure () := rfl
  rw [hdiscard] at h
  rcases Program.run_except_bind_cases h with ⟨e, rfl, hrun⟩ | ⟨value, middle, hrun, hdone⟩
  · exact .inl ⟨e, rfl, hrun⟩
  · cases hdone
    exact .inr ⟨value, rfl, hrun⟩

/-- A capture is stored and then pruned, or it stops. -/
theorem captureAndStore_cases {manager : SnapshotManager} {options : CaptureOptions}
    {result : Result Snapshot}
    (h : (manager.captureAndStore options).run.run (reentrantHandler around) (s, c)
      = some (result, (s', c'))) :
    (∃ e, result = .error e ∧ Stops around.storage c e c')
      ∨ ∃ snapshot c₁ c₂ id pruned, result = .ok snapshot ∧ Captured around c snapshot c₁
        ∧ (Storage.insert snapshot).run.run (Storage.reentrantHandler around.storage) c₁
          = some (.ok id, c₂)
        ∧ (Storage.prune manager.pruneQuery).run.run (Storage.reentrantHandler around.storage) c₂
          = some (pruned, c') := by
  have houtside := SnapshotManager.outside_capture manager options
  rcases Program.run_except_bind_cases h with ⟨e, rfl, hcapture⟩ | ⟨snapshot, ⟨s₁, c₁⟩, hcapture, h⟩
  · exact .inl ⟨e, rfl, c', (run_outside houtside hcapture).2, .inl rfl⟩
  obtain ⟨hrun, hsame⟩ := run_outside houtside hcapture
  rcases Program.run_except_bind_cases h with ⟨e, rfl, hinsert⟩ | ⟨_, ⟨s₂, c₂⟩, hinsert, hrest⟩
  · obtain ⟨_, herror, hstore⟩ | ⟨_, hok, -⟩ := discard_cases hinsert
    · cases herror
      exact .inl ⟨e, rfl, c₁, hsame, .inr ⟨snapshot, (reentrant_repository_inv hstore).2⟩⟩
    · cases hok
  obtain ⟨_, herror, -⟩ | ⟨id, -, hstore⟩ := discard_cases hinsert
  · cases herror
  rcases Program.run_except_bind_cases hrest with ⟨e, -, hprune⟩ | ⟨_, ⟨s₃, c₃⟩, hprune, hdone⟩
  · obtain ⟨_, -, hattempt⟩ | ⟨_, hok, -⟩ := discard_cases hprune
    · obtain ⟨_, herror, -⟩ := Program.run_lift_inv hattempt
      cases herror
    · cases hok
  obtain ⟨_, herror, -⟩ | ⟨pruned, -, hattempt⟩ := discard_cases hprune
  · cases herror
  obtain ⟨_, -, hpruned⟩ := Program.run_lift_inv hattempt
  cases hdone
  exact .inr ⟨snapshot, c₁, c₂, id, _, rfl, SnapshotManager.capture_inv hrun,
    (reentrant_repository_inv hstore).2, (reentrant_repository_inv hpruned).2⟩

theorem orThrow_cases {α : Type} {answer result : Result α} {state state' : σ × Connection}
    (h : (SnapshotManager.orThrow answer).run.run (reentrantHandler around) state
      = some (result, state')) : result = answer ∧ state' = state := by
  cases answer <;> cases h <;> exact ⟨rfl, rfl⟩

theorem withFreeId_inv (hulids : SnapshotManager.MakesUlids around.storage) {imported : Snapshot}
    (hid : imported.metadata.id ≠ []) {result : Result Snapshot}
    (h : (SnapshotManager.withFreeId imported).run.run (reentrantHandler around) (s, c)
      = some (result, (s', c'))) :
    ∃ named, result = .ok named ∧ named.metadata.id ≠ [] ∧ Unwritten c c' := by
  rcases Program.run_except_bind_cases h with ⟨e, -, hattempt⟩ | ⟨loaded, ⟨s₁, c₁⟩, hattempt, hrest⟩
  · obtain ⟨_, herror, -⟩ := Program.run_lift_inv hattempt
    cases herror
  obtain ⟨_, -, hload⟩ := Program.run_lift_inv hattempt
  have hsame := unwritten_of_reads (Storage.reads_load _) (reentrant_repository_inv hload).2
  cases loaded with
  | ok _ =>
      cases hrest
      exact ⟨_, rfl, hulids.ne_nil _, hsame⟩
  | error e =>
      cases hrest
      exact ⟨_, rfl, hid, hsame⟩

/-- An import is stored under an id that is not empty, or it stops. -/
theorem importSnapshot_cases (hulids : SnapshotManager.MakesUlids around.storage)
    {serialized format renameTo : Bytes} {result : Result Snapshot}
    (h : (SnapshotManager.importSnapshot serialized format renameTo).run.run
      (reentrantHandler around) (s, c) = some (result, (s', c'))) :
    (∃ e, result = .error e ∧ Stops around.storage c e c')
      ∨ ∃ imported c₁ id, result = .ok imported ∧ imported.metadata.id ≠ [] ∧ Unwritten c c₁
        ∧ (Storage.insert imported).run.run (Storage.reentrantHandler around.storage) c₁
          = some (.ok id, c') := by
  rcases Program.run_except_bind_cases h with ⟨e, rfl, hformat⟩ | ⟨format, _, hformat, h⟩
  · cases (orThrow_cases hformat).2
    exact .inl ⟨e, rfl, _, .refl _, .inl rfl⟩
  cases (orThrow_cases hformat).2
  rcases Program.run_except_bind_cases h with ⟨e, -, hfresh⟩ | ⟨fresh, _, hfresh, h⟩
  · cases hfresh
  cases hfresh
  rcases Program.run_except_bind_cases h with ⟨e, rfl, hdocument⟩ | ⟨document, _, hdocument, h⟩
  · cases (orThrow_cases hdocument).2
    exact .inl ⟨e, rfl, { c with ulids := c.ulids + 1 }, ⟨rfl, rfl⟩, .inl rfl⟩
  obtain ⟨hdeserialize, hstate⟩ := orThrow_cases hdocument
  cases hstate
  have hid : document.metadata.id ≠ [] :=
    Storage.deserialize_id (hulids.ne_nil _) hdeserialize.symm
  rcases Program.run_except_bind_cases h with ⟨e, -, hfree⟩ | ⟨named, ⟨s₁, c₁⟩, hfree, h⟩
  · obtain ⟨_, herror, -⟩ := withFreeId_inv hulids (by exact hid) hfree
    cases herror
  obtain ⟨_, hnamed, hnamedId, hsame⟩ := withFreeId_inv hulids (by exact hid) hfree
  cases hnamed
  rcases Program.run_except_bind_cases h with ⟨e, -, hnow⟩ | ⟨updatedAt, _, hnow, h⟩
  · cases hnow
  cases hnow
  rcases Program.run_except_bind_cases h with ⟨e, rfl, hinsert⟩ | ⟨_, ⟨s₂, c₂⟩, hinsert, hdone⟩
  · obtain ⟨_, herror, hstore⟩ | ⟨_, hok, -⟩ := discard_cases hinsert
    · cases herror
      exact .inl ⟨e, rfl, { c₁ with readings := c₁.readings + 1 }, hsame,
        .inr ⟨_, (reentrant_repository_inv hstore).2⟩⟩
    · cases hok
  · obtain ⟨_, herror, -⟩ | ⟨id, -, hstore⟩ := discard_cases hinsert
    · cases herror
    cases hdone
    exact .inr ⟨_, { c₁ with readings := c₁.readings + 1 }, id, rfl, hnamedId, hsame,
      (reentrant_repository_inv hstore).2⟩

end Calls

end ContextSnap.Daemon
