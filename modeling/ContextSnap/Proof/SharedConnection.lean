import ContextSnap.Daemon.Workers
import ContextSnap.Proof.CaptureRetention

/-!
# One connection for all workers

The statements of a repository call are kept apart from those of other requests by the mutex, as long
as nobody goes around the repository while it is taken. What a call then reports is true of the
database as it found it.
-/

namespace ContextSnap.Storage

open Interleaving (Ensures ensures_of_all)
open Sql

/-! ### What a call ensures while others only read the clock -/

/-- Operations that reach SQLite. -/
def Op.isStatement : Op → Bool
  | .lock | .unlock | .now | .generateUlid => false
  | _ => true

/-- The database is the same, and the clock and the ids may have moved on. -/
def SameDatabase (c c' : Connection) : Prop :=
  ∃ readings ulids, c' = { c with readings, ulids }

theorem SameDatabase.refl (c : Connection) : SameDatabase c c := ⟨c.readings, c.ulids, rfl⟩

/-- What reaches neither SQLite nor the mutex. -/
theorem handler_sameDatabase {env : Environment} {op : Op} (hop : op.KeepsMutex)
    (h : op.isStatement = false) {c c' : Connection} {answer : Answer op}
    (hanswer : handler env op c = some (answer, c')) : SameDatabase c c' := by
  cases op with
  | lock => exact absurd rfl hop.1
  | unlock => exact absurd rfl hop.2
  | now =>
      cases hanswer
      exact ⟨_, _, rfl⟩
  | generateUlid =>
      cases hanswer
      exact ⟨_, _, rfl⟩
  | _ => cases h

/-- Whoever takes the mutex finds it free. -/
theorem handler_lock {env : Environment} {c c' : Connection} {answer : Answer .lock}
    (h : handler env .lock c = some (answer, c')) :
    c.locked = false ∧ c' = { c with locked := true } := by
  have htaken : (if c.locked = true then none else some ((), { c with locked := true }))
      = some (answer, c') := h
  by_cases hmutex : c.locked = true
  · rw [if_pos hmutex] at htaken
    cases htaken
  · rw [if_neg hmutex] at htaken
    cases htaken
    exact ⟨(Bool.not_eq_true _).mp hmutex, rfl⟩

theorem handler_locked {env : Environment} {op : Op} (hop : op.KeepsMutex) {c c' : Connection}
    {answer : Answer op} (hanswer : handler env op c = some (answer, c')) :
    c'.locked = c.locked := by
  obtain ⟨answer', c₁, hanswer', hlocked⟩ := handler_keepsMutex env hop c
  cases hanswer.symm.trans hanswer'
  exact hlocked

theorem SameDatabase.trans {c c₁ c₂ : Connection} (h : SameDatabase c c₁)
    (h' : SameDatabase c₁ c₂) : SameDatabase c c₂ := by
  obtain ⟨_, _, rfl⟩ := h
  obtain ⟨readings, ulids, rfl⟩ := h'
  exact ⟨readings, ulids, rfl⟩

/-- The end of a transaction that SQLite refuses is ruled out. -/
def EndWorks (env : Environment) (op : Op) (c : Connection) : Prop :=
  op = .exec .commit ∨ op = .exec .rollback → env.fault c.calls = none

section Calls

variable (env : Environment) {α : Type}

/-- The rest of a call that has the mutex: it gives the mutex back outside any transaction, with a
result as it should be, unless it waits for itself. -/
def Holding (good : α → Prop) : Program Op Answer α → Connection → Prop
  | .done _, _ => False
  | .ask .unlock next, c => c.saved = none ∧ ∃ value, next () = .done value ∧ good value
  | .ask .lock _, _ => True
  | .ask op next, c => ∀ c₁ answer c', SameDatabase c c₁ → EndWorks env op c₁ →
      handler env op c₁ = some (answer, c') → Holding good (next answer) c'

/-- A call before it takes the mutex. Its result has to suit the tables at that moment. -/
def Waiting (good : Tables Table → α → Prop) : Program Op Answer α → Prop
  | .done value => ∀ tables, good tables value
  | .ask .lock next =>
      ∀ c : Connection, c.saved = none →
        Holding env (good c.tables) (next ()) { c with locked := true }
  | .ask .generateUlid next => ∀ answer, Waiting good (next answer)
  | .ask _ _ => False

variable {env} {good : α → Prop} {c c' : Connection}

theorem holding_ask {op : Op} (h : op.KeepsMutex) (next : Answer op → Program Op Answer α) :
    Holding env good (.ask op next) c ↔ ∀ c₁ answer c', SameDatabase c c₁ → EndWorks env op c₁ →
      handler env op c₁ = some (answer, c') → Holding env good (next answer) c' := by
  cases op with
  | lock => exact absurd rfl h.1
  | unlock => exact absurd rfl h.2
  | _ => rfl

theorem Holding.rely {program : Program Op Answer α} (h : Holding env good program c)
    (hsame : SameDatabase c c') : Holding env good program c' := by
  cases program with
  | done value => exact h
  | ask op next =>
      by_cases hop : op.KeepsMutex
      · rw [holding_ask hop] at h ⊢
        intro c₁ answer c₂ hrely
        exact h c₁ answer c₂ (hsame.trans hrely)
      · rcases op.lock_or_unlock hop with rfl | rfl
        · trivial
        · obtain ⟨readings, ulids, rfl⟩ := hsame
          exact h

/-- The calls of this environment, one after the other with readings of the clock between them. -/
abbrev Leads (env : Environment) (program : Program Op Answer α) (c : Connection)
    (post : α → Connection → Prop) : Prop :=
  Ensures (handler env) SameDatabase (EndWorks env) program c post

theorem holding_bind {β : Type} {good : β → Prop} {program : Program Op Answer α}
    {next : α → Program Op Answer β} (hkeeps : program.All Op.KeepsMutex)
    (h : Leads env program c fun value c' => Holding env good (next value) c') :
    Holding env good (program >>= next) c := by
  induction program generalizing c with
  | done value => exact h
  | ask op rest ih =>
      rw [Program.ask_bind, holding_ask hkeeps.1]
      intro c₁ answer c₂ hrely hworks hanswer
      exact ih answer (hkeeps.2 answer) (h c₁ answer c₂ hrely hworks hanswer)

theorem holding_bind_except {β γ : Type} {good : γ → Prop} {program : Repo α} {next : α → Repo β}
    {rest : Result β → Program Op Answer γ} (hkeeps : AllOps Op.KeepsMutex program)
    (h : Leads env program.run c fun result c' =>
      (∀ e, result = .error e → Holding env good (rest (.error e)) c')
        ∧ ∀ value, result = .ok value → Holding env good ((next value).run >>= rest) c') :
    Holding env good ((program >>= next).run >>= rest) c := by
  have hbind : (program >>= next).run >>= rest
      = program.run >>= fun result => ExceptT.bindCont next result >>= rest :=
    Program.bind_bind _ _ _
  rw [hbind]
  apply holding_bind hkeeps
  refine h.mono fun result c' hresult => ?_
  cases result with
  | error e => exact hresult.1 e rfl
  | ok value => exact hresult.2 value rfl

/-- The end of a scope that holds the mutex. -/
def release {α : Type} (result : Result α) : Program Op Answer (Result α) :=
  unlock >>= fun _ => pure result

theorem holding_release {good : Result α → Prop} {result : Result α} (hclosed : c.saved = none)
    (hgood : good result) : Holding env good (release result) c :=
  ⟨hclosed, result, rfl, hgood⟩

theorem waiting_of_holding {good : Tables Table → Result α → Prop} {body : Repo α}
    (h : ∀ c : Connection, c.saved = none →
      Holding env (good c.tables) (body.run >>= release) c) :
    Waiting env good (withLock body).run :=
  fun c hauto => h { c with locked := true } hauto

/-- A scope that holds the mutex, around statements that end outside a transaction. -/
theorem waiting_withLock {good : Tables Table → Result α → Prop} {body : Repo α}
    (hkeeps : AllOps Op.KeepsMutex body)
    (hbody : ∀ c : Connection, c.saved = none →
      Leads env body.run c fun result c' => c'.saved = none ∧ good c.tables result) :
    Waiting env good (withLock body).run := by
  apply waiting_of_holding
  intro c hauto
  apply holding_bind hkeeps
  refine (hbody c hauto).mono ?_
  rintro result c' ⟨hclosed, hgood⟩
  exact holding_release hclosed hgood

end Calls

/-! ### Statements and transactions -/

section Bodies

variable {env : Environment} {α : Type} {c : Connection} {body : Repo α}

/-- Statements leave the transaction open, or closed, as it is. -/
theorem leads_saved (h : AllOps Op.Inside body) (c : Connection) :
    Leads env body.run c fun _ c' => c'.saved = c.saved := by
  refine ensures_of_all (I := fun now : Connection => now.saved = c.saved) ?_ ?_ h rfl
  · rintro c₁ _ ⟨_, _, rfl⟩ hnow
    exact hnow
  · intro op c₁ answer c₂ hop hnow hanswer
    exact (handler_inside hop hanswer).1.trans hnow

theorem leads_attempt {post : Result (Result α) → Connection → Prop}
    (h : Leads env body.run c fun result c' => post (.ok result) c') :
    Leads env (attempt body).run c post :=
  Ensures.bind h

theorem leads_exec {script : Script} {post : Result Unit → Connection → Prop}
    (hfail : ∀ c₁ e, SameDatabase c c₁ → env.fault c₁.calls ≠ none → EndWorks env (.exec script) c₁ →
      post (.error e) c₁.counted)
    (hwork : ∀ c₁, SameDatabase c c₁ →
      match runScript script c₁.counted with
      | .ok (_, c') => post (.ok ()) c'
      | .error _ => ∀ e, post (.error e) c₁.counted) :
    Leads env (exec script).run c post := by
  apply Ensures.bind_except
  intro c₁ answer c' hrely hworks hanswer
  refine ⟨nofun, ?_⟩
  rintro _ ⟨⟩
  have hcall : call env c₁ (runScript script) = (answer, c') := Option.some.inj hanswer
  have hscript := hwork c₁ hrely
  unfold call at hcall
  cases hfault : env.fault c₁.calls with
  | some failure =>
      rw [hfault] at hcall
      cases hcall
      exact hfail c₁ _ hrely (by simp [hfault]) hworks
  | none =>
      rw [hfault] at hcall
      cases hrun : runScript script c₁.counted with
      | ok result =>
          rw [hrun] at hcall hscript
          cases hcall
          exact hscript
      | error failure =>
          rw [hrun] at hcall hscript
          cases hcall
          exact hscript _

theorem leads_begin (hauto : c.saved = none) :
    Leads env (attempt (exec .beginImmediate)).run c fun result c' =>
      ∃ begun, result = .ok begun ∧ c'.saved.isSome = begun.toBool := by
  apply leads_attempt
  apply leads_exec
  · rintro _ e ⟨_, _, rfl⟩ - -
    exact ⟨_, rfl, by simp [Connection.counted, hauto]; rfl⟩
  · rintro _ ⟨_, _, rfl⟩
    simp only [runScript, Connection.counted, hauto]
    exact ⟨_, rfl, rfl⟩

theorem leads_commit {active : Bool} (hactive : c.saved.isSome = active) :
    Leads env (commit active).run c fun _ c' => c'.saved = none := by
  cases active with
  | false => exact Option.not_isSome_iff_eq_none.mp (by simp [hactive])
  | true =>
      obtain ⟨tables, hsaved⟩ := Option.isSome_iff_exists.mp hactive
      apply leads_exec
      · intro c₁ e _ hfault hworks
        exact absurd (hworks (.inl rfl)) hfault
      · rintro _ ⟨_, _, rfl⟩
        simp only [runScript, Connection.counted, hsaved]

theorem leads_rollback {active : Bool} (hactive : c.saved.isSome = active) :
    Leads env (rollback active).run c fun _ c' => c'.saved = none := by
  cases active with
  | false => exact Option.not_isSome_iff_eq_none.mp (by simp [hactive])
  | true =>
      obtain ⟨tables, hsaved⟩ := Option.isSome_iff_exists.mp hactive
      have hexec : Leads env (attempt (exec .rollback)).run c fun _ c' => c'.saved = none := by
        apply leads_attempt
        apply leads_exec
        · intro c₁ e _ hfault hworks
          exact absurd (hworks (.inr rfl)) hfault
        · rintro _ ⟨_, _, rfl⟩
          simp only [runScript, Connection.counted, hsaved]
      exact Ensures.bind_except (hexec.mono fun _ _ h => ⟨fun _ _ => h, fun _ _ => h⟩)

/-- A transaction is over when its scope is left. -/
theorem leads_withTransaction (h : AllOps Op.Inside body) (hauto : c.saved = none) :
    Leads env (withTransaction body).run c fun _ c' => c'.saved = none := by
  apply Ensures.bind_except
  refine (leads_begin hauto).mono ?_
  rintro _ c₁ ⟨begun, rfl, hactive⟩
  refine ⟨nofun, ?_⟩
  rintro _ ⟨⟩
  apply Ensures.bind_except
  have hbody : Leads env (attempt body).run c₁ fun result c' =>
      (∃ value, result = .ok value) ∧ c'.saved = c₁.saved :=
    leads_attempt ((leads_saved h c₁).mono fun value _ hsame => ⟨⟨value, rfl⟩, hsame⟩)
  refine hbody.mono ?_
  rintro _ c₂ ⟨⟨value, rfl⟩, hsame⟩
  refine ⟨nofun, ?_⟩
  rintro _ ⟨⟩
  rw [← hsame] at hactive
  cases value with
  | ok value =>
      exact Ensures.bind_except
        ((leads_commit hactive).mono fun _ _ h => ⟨fun _ _ => h, fun _ _ => h⟩)
  | error e =>
      exact Ensures.bind_except
        ((leads_rollback hactive).mono fun _ _ h => ⟨fun _ _ => h, fun _ _ => h⟩)

end Bodies

/-! ### What calls report -/

/-- An answer that is not SQLite's own says NotFound exactly when there is no row with the id. -/
def NotFoundIffMissing (id : Bytes) (tables : Tables Table) (result : Result Unit) : Prop :=
  (∀ e, result = .error e → e.code ≠ .databaseError) →
    ((∃ e, result = .error e ∧ e.code = .notFound)
      ↔ ∀ row ∈ tables .snapshots, row "id" ≠ .text id)

/-- What a result says about the tables that the call found. -/
def Reports : (operation : Operation) → Tables Table → Result operation.Output → Prop
  | .remove id, tables, result => NotFoundIffMissing id tables result
  | .updateMetadata metadata, tables, result => NotFoundIffMissing metadata.id tables result
  | _, _, _ => True

section Reports

variable {env : Environment} {c : Connection}

theorem plain_inside : ∀ op : Op, op.Plain → op.Inside := fun _ h => h.inside

theorem AllOps.keepsMutex {α : Type} {body : Repo α} (h : AllOps Op.Inside body) :
    AllOps Op.KeepsMutex body :=
  Program.All.mono (fun _ hop => hop.1) h

/-- Statements without a transaction of their own, and nothing to report. -/
theorem waiting_of_inside {α : Type} {good : Tables Table → Result α → Prop} {body : Repo α}
    (h : AllOps Op.Inside body) (hgood : ∀ tables result, good tables result) :
    Waiting env good (withLock body).run := by
  apply waiting_withLock h.keepsMutex
  intro c hauto
  exact (leads_saved h c).mono fun result _ hsame => ⟨hsame.trans hauto, hgood _ result⟩

theorem waiting_load (id : Bytes) : Waiting env (Reports (.load id)) (load id).run :=
  waiting_of_inside (allOps_loadAll plain_inside id) fun _ _ => trivial

theorem waiting_resolveIdPrefix (idStart : Bytes) :
    Waiting env (Reports (.resolveIdPrefix idStart)) (resolveIdPrefix idStart).run := by
  refine waiting_of_inside ?_ fun _ _ => trivial
  apply (allOps_prepare plain_inside _).bind
  intro _
  apply (allOps_rows plain_inside _ _ _).bind
  intro found
  match found with
  | [] => exact AllOps.throw _
  | [row] => exact AllOps.pure _
  | _ :: _ :: _ => exact AllOps.throw _

theorem waiting_count : Waiting env (Reports .count) count.run := by
  refine waiting_of_inside ?_ fun _ _ => trivial
  apply (allOps_prepare plain_inside _).bind
  intro _
  exact (allOps_rows plain_inside _ _ _).bind fun _ => AllOps.pure _

/-- A transaction under the mutex, and nothing to report. -/
theorem waiting_transaction {α : Type} {good : Tables Table → Result α → Prop} {body : Repo α}
    (h : AllOps Op.Inside body) (hgood : ∀ tables result, good tables result) :
    Waiting env good (withLock (withTransaction body)).run := by
  apply waiting_withLock (allOps_withTransaction keepsMutex_exec h.keepsMutex)
  intro c hauto
  exact (leads_withTransaction h hauto).mono fun result _ hclosed => ⟨hclosed, hgood _ result⟩

theorem waiting_prune (query : PruneQuery) : Waiting env (Reports (.prune query)) (prune query).run :=
  waiting_transaction (pruneAll_inside query) fun _ _ => trivial

theorem waiting_insert (snapshot : Snapshot) :
    Waiting env (Reports (.insert snapshot)) (insert snapshot).run := by
  have hrest : ∀ id, Waiting env (Reports (.insert snapshot))
      (if isValidUlid id then withLock (withTransaction (insertAll (withId snapshot id)))
        else throw (Err.invalid (str "snapshot id must be a ULID") (str "storage.repository"))
        : Repo Bytes).run := by
    intro id
    split
    · exact waiting_transaction (insertAll_inside _) fun _ _ => trivial
    · exact fun _ => trivial
  unfold insert assignId
  split
  · exact hrest
  · exact hrest _

/-! ### Removals and updates -/

theorem leads_prepare (tables : List Table) :
    Leads env (prepare tables).run c fun result c' =>
      c'.tables = c.tables ∧ ∀ e, result = .error e → e.code = .databaseError := by
  apply Ensures.bind_except
  rintro _ answer c' ⟨_, _, rfl⟩ - hanswer
  refine ⟨nofun, ?_⟩
  rintro _ ⟨⟩
  rcases call_cases env _ fun c => (.ok ((), c) : Except Failure (Unit × Connection)) with
    ⟨failure, hfail⟩ | ⟨value, c₁, hwork, hdone⟩
  · cases (congrArg some hfail).symm.trans hanswer
    exact ⟨rfl, by rintro _ ⟨⟩; rfl⟩
  · cases hwork
    cases (congrArg some hdone).symm.trans hanswer
    exact ⟨rfl, nofun⟩

/-- The number of changed rows is the one that the statement says. -/
theorem leads_execute {statement : Dml Table} {values : List SqlValue} {count : Nat}
    (hcount : ∀ tables changed, runDml c.tables values statement = .ok (tables, changed) →
      changed = count) :
    Leads env (execute statement values).run c fun result c' =>
      (∀ e, result = .error e → e.code = .databaseError) ∧ (result = .ok () → c'.changes = count) := by
  apply Ensures.bind_except
  rintro _ answer c' ⟨readings, ulids, rfl⟩ - hanswer
  refine ⟨nofun, ?_⟩
  rintro _ ⟨⟩
  rcases call_cases env { c with readings, ulids } (runStatement statement values) with
    ⟨failure, hfail⟩ | ⟨value, c₁, hwork, hdone⟩
  · cases (congrArg some hfail).symm.trans hanswer
    exact ⟨by rintro _ ⟨⟩; rfl, nofun⟩
  · cases (congrArg some hdone).symm.trans hanswer
    unfold runStatement at hwork
    split at hwork
    · rename_i tables changed hrun
      cases hwork
      exact ⟨nofun, fun _ => hcount tables changed hrun⟩
    · cases hwork

/-- The rows with an id. -/
def matching (id : Bytes) (tables : Tables Table) : List Row :=
  (tables .snapshots).filter fun row => row "id" = .text id

variable {id : Bytes} {tables : Tables Table}

theorem matching_length_eq_zero :
    (matching id tables).length = 0 ↔ ∀ row ∈ tables .snapshots, row "id" ≠ .text id := by
  rw [List.length_eq_zero_iff, matching, List.filter_eq_nil_iff]
  simp

theorem notFoundIffMissing_database {e : Error} (h : e.code = .databaseError) :
    NotFoundIffMissing id tables (.error e) :=
  fun hother => absurd h (hother e rfl)

theorem notFoundIffMissing_noSnapshot (h : (matching id tables).length = 0) :
    NotFoundIffMissing id tables (.error (noSnapshot id)) :=
  fun _ => iff_of_true ⟨_, rfl, rfl⟩ (matching_length_eq_zero.mp h)

theorem notFoundIffMissing_ok (h : (matching id tables).length ≠ 0) :
    NotFoundIffMissing id tables (.ok ()) :=
  fun _ => iff_of_false (by rintro ⟨_, ⟨⟩, -⟩) fun hnone => h (matching_length_eq_zero.mpr hnone)

/-- The end of `remove` and of `update_metadata`, which look at the number of changed rows. -/
theorem holding_changes {found : Repo Unit} (hauto : c.saved = none)
    (hchanges : c.changes = (matching id tables).length)
    (hfound : ∀ c' : Connection, c'.saved = none → (matching id tables).length ≠ 0 →
      Holding env (NotFoundIffMissing id tables) (found.run >>= release) c') :
    Holding env (NotFoundIffMissing id tables)
      ((ask .changes >>= fun changes =>
        if changes = 0 then throw (noSnapshot id) else found : Repo Unit).run >>= release) c := by
  apply holding_bind_except keepsMutex_changes
  rintro _ answer c' ⟨_, _, rfl⟩ - hanswer
  cases hanswer
  refine ⟨nofun, ?_⟩
  rintro _ ⟨⟩
  split
  · rename_i hnone
    exact holding_release hauto (notFoundIffMissing_noSnapshot (hchanges.symm.trans hnone))
  · rename_i hsome
    exact hfound _ hauto (hchanges ▸ hsome)

/-- The statement before that end. -/
theorem holding_execute {statement : Dml Table} {values : List SqlValue} {rest : Unit → Repo Unit}
    (hauto : c.saved = none)
    (hcount : ∀ tables' changed, runDml c.tables values statement = .ok (tables', changed) →
      changed = (matching id tables).length)
    (hrest : ∀ c' : Connection, c'.saved = none → c'.changes = (matching id tables).length →
      Holding env (NotFoundIffMissing id tables) ((rest ()).run >>= release) c') :
    Holding env (NotFoundIffMissing id tables)
      ((execute statement values >>= rest).run >>= release) c := by
  apply holding_bind_except (keepsMutex_execute _ _)
  have hsaved : Leads env (execute statement values).run c fun _ c' => c'.saved = c.saved :=
    leads_saved (allOps_execute (inside_dml statement values)) c
  refine ((leads_execute hcount).and hsaved).mono ?_
  rintro result c' ⟨⟨hfails, hworks⟩, hsame⟩
  constructor
  · intro e he
    exact holding_release (hsame.trans hauto) (notFoundIffMissing_database (hfails e he))
  · rintro ⟨⟩ hok
    exact hrest c' (hsame.trans hauto) (hworks hok)

theorem holding_prepare {names : List Table} {rest : Unit → Repo Unit} (hauto : c.saved = none)
    (hrest : ∀ c' : Connection, c'.saved = none → c'.tables = c.tables →
      Holding env (NotFoundIffMissing id tables) ((rest ()).run >>= release) c') :
    Holding env (NotFoundIffMissing id tables) ((prepare names >>= rest).run >>= release) c := by
  apply holding_bind_except (keepsMutex_prepare _)
  have hsaved : Leads env (prepare names).run c fun _ c' => c'.saved = c.saved :=
    leads_saved (allOps_prepare plain_inside names) c
  refine ((leads_prepare names).and hsaved).mono ?_
  rintro result c' ⟨⟨htables, hfails⟩, hsame⟩
  constructor
  · intro e he
    exact holding_release (hsame.trans hauto) (notFoundIffMissing_database (hfails e he))
  · rintro ⟨⟩ -
    exact hrest c' (hsame.trans hauto) htables

theorem waiting_remove (id : Bytes) : Waiting env (Reports (.remove id)) (remove id).run := by
  apply waiting_of_holding
  intro c hauto
  change Holding env (NotFoundIffMissing id c.tables) _ c
  apply holding_prepare hauto
  intro c₁ hauto₁ htables
  apply holding_execute hauto₁
  · intro tables' changed hdelete
    cases hdelete
    rw [htables]
    rfl
  · intro c₂ hauto₂ hchanges
    apply holding_changes hauto₂ hchanges
    intro c₃ hauto₃ hsome
    exact holding_release hauto₃ (notFoundIffMissing_ok hsome)

/-- An update that finds its row waits for itself and reports nothing. -/
theorem waiting_updateMetadata (metadata : SnapshotMetadata) :
    Waiting env (Reports (.updateMetadata metadata)) (updateMetadata metadata).run := by
  apply waiting_of_holding
  intro c hauto
  change Holding env (NotFoundIffMissing metadata.id c.tables) _ c
  apply holding_prepare hauto
  intro c₁ hauto₁ htables
  apply holding_bind_except keepsMutex_now
  rintro _ now c₂ ⟨_, _, rfl⟩ - hanswer
  cases hanswer
  refine ⟨nofun, ?_⟩
  rintro _ ⟨⟩
  apply holding_execute hauto₁
  · intro tables' changed hupdate
    obtain ⟨tables'', hrows⟩ := runDml_updateSnapshots c₁.tables metadata (env.clock _)
    cases hrows.symm.trans hupdate
    exact congrArg (fun tables => (matching metadata.id tables).length) htables
  · intro c₃ hauto₃ hchanges
    apply holding_changes hauto₃ hchanges
    intro c₄ _ _
    exact trivial

end Reports

end ContextSnap.Storage

namespace ContextSnap.Daemon

open Interleaving (Always Throughout)
open SnapshotManager (Action Op Answer Surroundings)
open Storage (AllOps Connection Environment Operation Reports Waiting Holding SameDatabase)

/-! ### The calls of a request -/

/-- A repository call that keeps to the mutex, or a statement that leaves transactions alone. -/
def Asks (env : Environment) : Op → Prop
  | .hal _ | .getenv _ => True
  | .direct op => op.Inside
  | .repository operation => Waiting env (Reports operation) operation.call.run

section Requests

variable {env : Environment} {α β : Type}

/-- Every operation of an action is one of these. -/
def AllAsks (env : Environment) (action : Action α) : Prop := action.run.All (Asks env)

theorem AllAsks.pure (value : α) : AllAsks env (Pure.pure value : Action α) := trivial

theorem AllAsks.throw (e : Error) : AllAsks env (MonadExcept.throw e : Action α) := trivial

theorem AllAsks.bind {action : Action α} {next : α → Action β} (h : AllAsks env action)
    (hnext : ∀ value, AllAsks env (next value)) : AllAsks env (action >>= next) :=
  Program.All.bind_except h hnext

theorem AllAsks.attempt {action : Action α} (h : AllAsks env action) :
    AllAsks env (SnapshotManager.attempt action) :=
  Program.All.bind h fun _ => trivial

theorem AllAsks.discard {action : Action α} (h : AllAsks env action) :
    AllAsks env (discard action) :=
  Program.All.bind h fun result => by cases result <;> trivial

theorem asks_repository {operation : Operation}
    (h : Waiting env (Reports operation) operation.call.run) :
    AllAsks env (SnapshotManager.repository operation) :=
  Program.all_operation h

theorem asks_observing {action : Action α} (h : SnapshotManager.Observing action) :
    AllAsks env action := by
  refine Program.All.mono ?_ h
  intro op hop
  cases op with
  | hal op => trivial
  | getenv name => trivial
  | repository operation => exact hop.elim
  | direct op =>
      cases op with
      | generateUlid => exact ⟨⟨nofun, nofun⟩, nofun⟩
      | _ => exact hop.elim

theorem asks_now : AllAsks env SnapshotManager.now := ⟨⟨⟨nofun, nofun⟩, nofun⟩, fun _ => trivial⟩

theorem asks_platformCall (call : Hal.Call α) : AllAsks env (SnapshotManager.platformCall call) := by
  have hcall : (Program.embed Op.hal call : Program Op Answer α).All (Asks env) := by
    induction call with
    | done value => trivial
    | ask op next ih => exact ⟨trivial, fun answer => ih answer⟩
  exact Program.All.bind hcall fun _ => trivial

theorem asks_orThrow (result : Result α) : AllAsks env (SnapshotManager.orThrow result) := by
  cases result <;> exact trivial

/-- Statements on the connection that are not a transaction. -/
theorem asks_database {program : Storage.Repo α} (h : AllOps Storage.Op.Inside program) :
    AllAsks env (SnapshotManager.database program) :=
  Program.all_embed h

theorem asks_get (snapshotId : Bytes) : AllAsks env (SnapshotManager.get snapshotId) := by
  apply (asks_repository (Storage.waiting_resolveIdPrefix snapshotId)).bind
  intro id
  exact asks_repository (Storage.waiting_load id)

theorem asks_remove (snapshotId : Bytes) : AllAsks env (SnapshotManager.remove snapshotId) := by
  apply (asks_repository (Storage.waiting_resolveIdPrefix snapshotId)).bind
  intro id
  exact asks_repository (Storage.waiting_remove id)

theorem asks_edit (snapshotId : Bytes) (change : SnapshotMetadata → SnapshotMetadata) :
    AllAsks env (SnapshotManager.edit snapshotId change) := by
  apply ((asks_get snapshotId).bind fun _ => AllAsks.pure _).bind
  intro metadata
  apply asks_now.bind
  intro updatedAt
  exact asks_repository (Storage.waiting_updateMetadata _)

theorem asks_captureMetadata (manager : SnapshotManager) :
    AllAsks env manager.captureMetadata := by
  apply (asks_observing SnapshotManager.observing_freshUlid).bind
  intro id
  apply asks_now.bind
  intro createdAt
  exact (asks_observing (SnapshotManager.observing_firstSet _)).bind fun _ => AllAsks.pure _

theorem asks_capture (manager : SnapshotManager) (options : CaptureOptions) :
    AllAsks env (manager.capture options) := by
  apply (asks_platformCall _).bind
  intro started
  apply (asks_observing (SnapshotManager.observing_observe manager options)).bind
  intro observed
  apply (asks_captureMetadata manager).bind
  intro metadata
  exact (asks_platformCall _).bind fun _ => AllAsks.pure _

theorem asks_captureAndStore (manager : SnapshotManager) (options : CaptureOptions) :
    AllAsks env (manager.captureAndStore options) := by
  apply (asks_capture manager options).bind
  intro snapshot
  apply (asks_repository (Storage.waiting_insert snapshot)).discard.bind
  intro _
  apply (asks_repository (Storage.waiting_prune manager.pruneQuery)).attempt.discard.bind
  exact fun _ => AllAsks.pure _

theorem asks_recordRestore (report : RestoreReport) :
    AllAsks env (SnapshotManager.recordRestore report) := by
  apply asks_database
  apply AllOps.discard
  apply AllOps.attempt
  apply (Storage.allOps_prepare Storage.plain_inside _).bind
  intro _
  apply (AllOps.ask (Storage.plain_inside .now trivial)).bind
  intro now
  exact Storage.allOps_execute (Storage.inside_dml _ _)

theorem asks_restore (manager : SnapshotManager) (snapshotId : Bytes) (options : RestoreOptions) :
    AllAsks env (manager.restore snapshotId options) := by
  apply (asks_get snapshotId).bind
  intro snapshot
  apply ((asks_get snapshot.metadata.id).bind fun _ => asks_platformCall _).bind
  intro plan
  split
  · exact AllAsks.pure _
  · apply (asks_platformCall _).bind
    intro answer
    apply (asks_orThrow answer).bind
    intro report
    exact (asks_recordRestore _).bind fun _ => AllAsks.pure _

theorem asks_databaseHealth : AllAsks env SnapshotManager.databaseHealth := by
  have hintegrity : AllOps Storage.Op.Inside SnapshotManager.integrityCheck := by
    apply (Storage.allOps_prepare Storage.plain_inside _).bind
    intro _
    apply (Storage.allOps_rows Storage.plain_inside _ _ _).bind
    intro found
    cases found <;> exact AllOps.pure _
  apply (asks_database hintegrity).attempt.bind
  intro intact
  exact (asks_repository Storage.waiting_count).attempt.bind fun _ => AllAsks.pure _

theorem asks_request (manager : SnapshotManager) (request : Request) :
    AllAsks env (request.program manager) := by
  cases request with
  | capture options => exact (asks_captureAndStore manager options).discard
  | delete snapshotId => exact asks_remove snapshotId
  | edit request => cases request <;> exact asks_edit _ _
  | prune => exact (asks_repository (Storage.waiting_prune manager.pruneQuery)).discard
  | restore snapshotId options => exact (asks_restore manager snapshotId options).discard
  | health => exact asks_databaseHealth.discard

end Requests

/-! ### Isolation -/

def Event.isStatement : Event → Bool
  | .stepped op _ | .direct op _ => op.isStatement
  | _ => false

/-- The statements of repository calls. -/
def Event.isCallStatement : Event → Bool
  | .stepped op _ => op.isStatement
  | _ => false

def Event.returns : Event → Bool
  | .returned _ _ => true
  | _ => false

/-- The connection that a call finds when it takes the mutex. -/
def Event.takes : Event → Option Connection
  | .stepped .lock before => some before
  | _ => none

section Log

variable {ι : Type} [DecidableEq ι]

/-- Whose statement was the last one. -/
def lastStatement (log : List (ι × Event)) : Option ι :=
  (log.filter (·.2.isStatement)).getLast?.map (·.1)

/-- Whether thread `i` has made a statement in the call that it is in. -/
def begun (i : ι) (log : List (ι × Event)) : Bool :=
  ((log.filter (·.1 = i)).reverse.takeWhile (!·.2.returns)).any (·.2.isCallStatement)

/-- The connection that thread `i` found when it last took the mutex. -/
def found (i : ι) (log : List (ι × Event)) : Option Connection :=
  ((log.filter (·.1 = i)).filterMap (·.2.takes)).getLast?

/-- What has to be true of an event of thread `i` after those before it: a statement of a call comes
right behind another of the same call if it is not the first; a statement that goes around the
repository is not inside a transaction; a result is true of what the call found. -/
def Event.Sound (i : ι) (log : List (ι × Event)) : Event → Prop
  | .stepped op _ => op.isStatement = true → begun i log = true → lastStatement log = some i
  | .direct op before => op.isStatement = true → before.saved = none
  | .returned operation result =>
      ∀ before, found i log = some before → Reports operation before.tables result
  | .called _ | .other => True

/-- All events of a run are as they should be. -/
def Isolated (log : List (ι × Event)) : Prop :=
  ∀ before i event after, log = before ++ (i, event) :: after → event.Sound i before

variable {i j : ι} {event : Event} {log : List (ι × Event)}

theorem isolated_nil : Isolated ([] : List (ι × Event)) := by
  intro before i event after h
  simp at h

theorem Isolated.concat (h : Isolated log) (hevent : event.Sound i log) :
    Isolated (log ++ [(i, event)]) := by
  intro before j earlier after heq
  rcases List.eq_nil_or_concat' after with rfl | ⟨after, last, rfl⟩
  · obtain ⟨rfl, hlast⟩ := List.append_inj' heq rfl
    cases hlast
    exact hevent
  · rw [← List.cons_append, ← List.append_assoc] at heq
    obtain ⟨rfl, -⟩ := List.append_inj' heq rfl
    exact h before j earlier after rfl

omit [DecidableEq ι] in
theorem lastStatement_concat : lastStatement (log ++ [(i, event)])
    = if event.isStatement then some i else lastStatement log := by
  cases hstatement : event.isStatement <;> simp [lastStatement, hstatement]

theorem begun_concat : begun i (log ++ [(i, event)])
    = (!event.returns && (event.isCallStatement || begun i log)) := by
  cases hreturns : event.returns <;> simp [begun, hreturns]

theorem begun_other (h : j ≠ i) : begun i (log ++ [(j, event)]) = begun i log := by
  simp [begun, h]

theorem found_concat : found i (log ++ [(i, event)]) = event.takes.or (found i log) := by
  cases htakes : event.takes <;> simp [found, htakes]

theorem found_other (h : j ≠ i) : found i (log ++ [(j, event)]) = found i log := by
  simp [found, h]

end Log

/-! ### Threads that keep to the mutex -/

section Sharing

variable {ι σ : Type} [DecidableEq ι] {around : Surroundings σ}

/-- Nobody goes around the repository while its mutex is taken, and SQLite does not refuse to end a
transaction. -/
def guarded (around : Surroundings σ) : Worker → Connection → Bool
  | .outside (.ask (.direct op) _), c => !op.isStatement || !c.locked
  | .inside _ (.ask (.exec .commit) _) _, c | .inside _ (.ask (.exec .rollback) _) _, c =>
      (around.storage.fault c.calls).isNone
  | _, _ => true

/-- Where thread `i` is, when `holder` has the mutex. -/
def WorkerOk (env : Environment) (log : List (ι × Event)) (c : Connection) (holder : Option ι)
    (i : ι) : Worker → Prop
  | .outside rest => holder ≠ some i ∧ rest.All (Asks env) ∧ begun i log = false
  | .inside operation rest next => (∀ result, (next result).All (Asks env))
      ∧ (holder ≠ some i ∧ begun i log = false ∧ Waiting env (Reports operation) rest
        ∨ holder = some i ∧ (begun i log = true → lastStatement log = some i)
          ∧ (∃ before, found i log = some before
            ∧ Holding env (Reports operation before.tables) rest c)
        ∨ holder ≠ some i ∧ ∃ before result, rest = .done result ∧ found i log = some before
          ∧ Reports operation before.tables result)

/-- What a turn leaves to the other threads: whoever has the mutex keeps it and its database. -/
theorem WorkerOk.frame {env : Environment} {log : List (ι × Event)} {c c' : Connection}
    {holder holder' : Option ι} {i j : ι} {worker : Worker} {event : Event}
    (h : WorkerOk env log c holder j worker) (hne : i ≠ j)
    (hholder : holder' = some j ↔ holder = some j)
    (hkept : holder = some j → SameDatabase c c' ∧ event.isStatement = false) :
    WorkerOk env (log ++ [(i, event)]) c' holder' j worker := by
  cases worker with
  | outside rest =>
      obtain ⟨hfree, hasks, hbegun⟩ := h
      exact ⟨fun hheld => hfree (hholder.mp hheld), hasks, by rw [begun_other hne, hbegun]⟩
  | inside operation rest next =>
      obtain ⟨hnext, hstage⟩ := h
      refine ⟨hnext, ?_⟩
      have hfree : holder' ≠ some j ↔ holder ≠ some j := not_congr hholder
      rw [begun_other hne, found_other hne, lastStatement_concat, hholder, hfree]
      rcases hstage with hwaiting | ⟨hheld, hlast, before, hfound, hholding⟩ | hdone
      · exact .inl hwaiting
      · obtain ⟨hsame, hstatement⟩ := hkept hheld
        rw [hstatement, if_neg Bool.false_ne_true]
        exact .inr (.inl ⟨hheld, hlast, before, hfound, hholding.rely hsame⟩)
      · exact .inr (.inr hdone)

/-- Every thread keeps to the mutex, and there is no transaction while it is free. -/
def Sharing (around : Surroundings σ) (s : WorkerState ι σ) : Prop :=
  ∃ holder : Option ι, s.shared.2.locked = holder.isSome
    ∧ (holder = none → s.shared.2.saved = none)
    ∧ ∀ i, WorkerOk around.storage s.log s.shared.2 holder i (s.threads i)

/-- A turn of thread `i` that disturbs nobody else, with `holder` before it and `holder'` behind. -/
structure TurnOk (env : Environment) (log : List (ι × Event)) (c : Connection)
    (holder : Option ι) (i : ι) (event : Event) (worker : Worker) (c' : Connection)
    (holder' : Option ι) : Prop where
  locked : c'.locked = holder'.isSome
  closed : holder' = none → c'.saved = none
  holders : ∀ j, i ≠ j → (holder' = some j ↔ holder = some j)
  kept : ∀ j, i ≠ j → holder = some j → SameDatabase c c' ∧ event.isStatement = false
  worker : WorkerOk env (log ++ [(i, event)]) c' holder' i worker
  sound : event.Sound i log

theorem Sharing.turn {s : WorkerState ι σ} {holder holder' : Option ι} {i : ι} {worker : Worker}
    {event : Event} {state : σ} {c' : Connection}
    (hthreads : ∀ j, WorkerOk around.storage s.log s.shared.2 holder j (s.threads j))
    (hturn : TurnOk around.storage s.log s.shared.2 holder i event worker c' holder') :
    Sharing around { shared := (state, c'), threads := Function.update s.threads i worker
                     log := s.log ++ [(i, event)] } := by
  refine ⟨holder', hturn.locked, hturn.closed, ?_⟩
  intro j
  by_cases hj : j = i
  · subst hj
    simpa using hturn.worker
  · have hthread : Function.update s.threads i worker j = s.threads j :=
      Function.update_of_ne hj _ _
    have hne : i ≠ j := fun h => hj h.symm
    simpa only [hthread] using (hthreads j).frame hne (hturn.holders j hne) (hturn.kept j hne)

section Turn

variable {log : List (ι × Event)} {c c' : Connection} {holder : Option ι} {i : ι} {event : Event}
  {worker : Worker} {state state' : σ} (hlocked : c.locked = holder.isSome)
  (hauto : holder = none → c.saved = none)

include hlocked hauto

/-- A turn that makes no statement and leaves the mutex alone. -/
theorem turnOk_quiet {env : Environment} (hsame : SameDatabase c c')
    (hstatement : event.isStatement = false)
    (hworker : WorkerOk env (log ++ [(i, event)]) c' holder i worker)
    (hsound : event.Sound i log) : TurnOk env log c holder i event worker c' holder := by
  have hkept := hsame
  obtain ⟨readings, ulids, rfl⟩ := hsame
  exact ⟨hlocked, hauto, fun _ _ => Iff.rfl, fun _ _ _ => ⟨hkept, hstatement⟩, hworker, hsound⟩

theorem outside_turn {rest : Program Op Answer (Result Unit)}
    (hi : WorkerOk around.storage log c holder i (.outside rest))
    (hguarded : guarded around (.outside rest) c = true)
    (hturn : workerTurn around (.outside rest) (state, c) = some (event, worker, (state', c'))) :
    TurnOk around.storage log c holder i event worker c' holder := by
  obtain ⟨hfree, hasks, hbegun⟩ := hi
  match rest with
  | .done _ => cases hturn
  | .ask (.hal op) next =>
      obtain ⟨result, -, hdone⟩ := Option.map_eq_some_iff.mp hturn
      cases hdone
      refine turnOk_quiet hlocked hauto (SameDatabase.refl c) rfl ?_ trivial
      exact ⟨hfree, hasks.2 _, by rw [begun_concat, hbegun]; rfl⟩
  | .ask (.getenv name) next =>
      cases hturn
      refine turnOk_quiet hlocked hauto (SameDatabase.refl c) rfl ?_ trivial
      exact ⟨hfree, hasks.2 _, by rw [begun_concat, hbegun]; rfl⟩
  | .ask (.repository operation) next =>
      cases hturn
      refine turnOk_quiet hlocked hauto (SameDatabase.refl c) rfl ?_ trivial
      exact ⟨hasks.2, .inl ⟨hfree, by rw [begun_concat, hbegun]; rfl, hasks.1⟩⟩
  | .ask (.direct op) next =>
      obtain ⟨⟨answer, c₁⟩, hanswer, hdone⟩ := Option.map_eq_some_iff.mp hturn
      cases hdone
      have hinside : op.Inside := hasks.1
      have hworker : WorkerOk around.storage (log ++ [(i, .direct op c)]) c₁ holder i
          (.outside (next answer)) :=
        ⟨hfree, hasks.2 answer, by rw [begun_concat, hbegun]; rfl⟩
      by_cases hstatement : op.isStatement = true
      · -- the mutex is free, so there is no transaction
        have hmutex : c.locked = false := by simpa [guarded, hstatement] using hguarded
        have hnone : holder = none := by simpa [hmutex] using hlocked.symm
        have hsaved := (Storage.handler_inside hinside hanswer).1
        refine ⟨?_, ?_, fun _ _ => Iff.rfl, ?_, hworker, fun _ => hauto hnone⟩
        · exact (Storage.handler_locked hinside.1 hanswer).trans hlocked
        · exact fun _ => hsaved.trans (hauto hnone)
        · intro j _ hheld
          rw [hnone] at hheld
          cases hheld
      · have hquiet : op.isStatement = false := by simpa using hstatement
        exact turnOk_quiet hlocked hauto (Storage.handler_sameDatabase hinside.1 hquiet hanswer)
          hquiet hworker fun h => absurd h hstatement

/-- A call that has not taken the mutex. -/
theorem waiting_turn {operation : Operation} {op : Storage.Op}
    {rest : Storage.Answer op → Program Storage.Op Storage.Answer (Result operation.Output)}
    {next : Result operation.Output → Program Op Answer (Result Unit)} {answer : Storage.Answer op}
    (hnext : ∀ result, (next result).All (Asks around.storage)) (hfree : holder ≠ some i)
    (hbegun : begun i log = false)
    (hwaiting : Waiting around.storage (Reports operation) (.ask op rest))
    (hanswer : Storage.handler around.storage op c = some (answer, c')) :
    ∃ holder', TurnOk around.storage log c holder i (.stepped op c)
      (.inside operation (rest answer) next) c' holder' := by
  cases op with
  | lock =>
      obtain ⟨hmutex, rfl⟩ := Storage.handler_lock hanswer
      have hnone : holder = none := by simpa [hmutex] using hlocked.symm
      subst hnone
      refine ⟨some i, rfl, fun h => ?_, ?_, fun j _ h => ?_, ?_, fun h => ?_⟩
      · cases h
      · intro j hne
        simp [hne]
      · cases h
      · refine ⟨hnext, .inr (.inl ⟨rfl, ?_, c, ?_, hwaiting c (hauto rfl)⟩)⟩
        · rw [begun_concat, hbegun]
          intro h
          cases h
        · rw [found_concat]
          rfl
      · cases h
  | generateUlid =>
      cases hanswer
      refine ⟨holder, turnOk_quiet hlocked hauto ⟨_, _, rfl⟩ rfl ?_ ?_⟩
      · exact ⟨hnext, .inl ⟨hfree, by rw [begun_concat, hbegun]; rfl, hwaiting _⟩⟩
      · intro h
        cases h
  | _ => exact hwaiting.elim

/-- A call that has the mutex. -/
theorem holding_turn {operation : Operation} {op : Storage.Op}
    {rest : Storage.Answer op → Program Storage.Op Storage.Answer (Result operation.Output)}
    {next : Result operation.Output → Program Op Answer (Result Unit)} {answer : Storage.Answer op}
    {before : Connection} (hnext : ∀ result, (next result).All (Asks around.storage))
    (hheld : holder = some i) (hlast : begun i log = true → lastStatement log = some i)
    (hfound : found i log = some before)
    (hholding : Holding around.storage (Reports operation before.tables) (.ask op rest) c)
    (hguarded : guarded around (.inside operation (.ask op rest) next) c = true)
    (hanswer : Storage.handler around.storage op c = some (answer, c')) :
    ∃ holder', TurnOk around.storage log c holder i (.stepped op c)
      (.inside operation (rest answer) next) c' holder' := by
  subst hheld
  have hothers : ∀ j, i ≠ j → some i = some j → SameDatabase c c'
      ∧ (Event.stepped op c).isStatement = false := by
    rintro j hne ⟨⟩
    exact absurd rfl hne
  by_cases hop : op.KeepsMutex
  · have hworks : Storage.EndWorks around.storage op c := by
      rintro (rfl | rfl) <;> simpa [guarded] using hguarded
    have hrest := (Storage.holding_ask hop rest).mp hholding c answer c' (SameDatabase.refl c)
      hworks hanswer
    refine ⟨some i, ?_, fun h => ?_, fun _ _ => Iff.rfl, hothers, ?_, fun _ => hlast⟩
    · exact (Storage.handler_locked hop hanswer).trans hlocked
    · cases h
    · refine ⟨hnext, .inr (.inl ⟨rfl, ?_, before, ?_, hrest⟩)⟩
      · rw [begun_concat, lastStatement_concat]
        intro hbegun
        split
        · rfl
        · rename_i hstatement
          have hquiet : (Event.stepped op c).isCallStatement = false :=
            (Bool.not_eq_true _).mp hstatement
          rw [hquiet] at hbegun
          exact hlast (by simpa [Event.returns] using hbegun)
      · rw [found_concat, hfound]
        cases op with
        | lock => exact absurd rfl hop.1
        | _ => rfl
  · rcases op.lock_or_unlock hop with rfl | rfl
    · obtain ⟨hmutex, -⟩ := Storage.handler_lock hanswer
      rw [hmutex] at hlocked
      cases hlocked
    · cases hanswer
      obtain ⟨hclosed, result, hdone, hreports⟩ := hholding
      refine ⟨none, rfl, fun _ => hclosed, ?_, hothers, ?_, fun hstatement => ?_⟩
      · intro j hne
        simp [hne]
      · have hreleased : (none : Option ι) ≠ some i := Option.some_ne_none i |>.symm
        refine ⟨hnext, .inr (.inr ⟨hreleased, before, result, hdone, ?_, hreports⟩)⟩
        rw [found_concat, hfound]
        rfl
      · cases hstatement

theorem inside_turn {operation : Operation}
    {rest : Program Storage.Op Storage.Answer (Result operation.Output)}
    {next : Result operation.Output → Program Op Answer (Result Unit)}
    (hi : WorkerOk around.storage log c holder i (.inside operation rest next))
    (hguarded : guarded around (.inside operation rest next) c = true)
    (hturn : workerTurn around (.inside operation rest next) (state, c)
      = some (event, worker, (state', c'))) :
    ∃ holder', TurnOk around.storage log c holder i event worker c' holder' := by
  obtain ⟨hnext, hstage⟩ := hi
  cases rest with
  | done result =>
      cases hturn
      have hafter : holder ≠ some i
          ∧ ∀ before, found i log = some before → Reports operation before.tables result := by
        rcases hstage with ⟨hfree, -, hwaiting⟩ | ⟨_, _, _, _, hholding⟩
          | ⟨hfree, before, _, ⟨⟩, hfound, hreports⟩
        · exact ⟨hfree, fun before _ => hwaiting before.tables⟩
        · exact hholding.elim
        · refine ⟨hfree, fun other hother => ?_⟩
          cases hfound.symm.trans hother
          exact hreports
      refine ⟨holder, turnOk_quiet hlocked hauto (SameDatabase.refl c) rfl ?_ hafter.2⟩
      exact ⟨hafter.1, hnext result, by rw [begun_concat]; rfl⟩
  | ask op rest =>
      obtain ⟨⟨answer, c₁⟩, hanswer, hdone⟩ := Option.map_eq_some_iff.mp hturn
      cases hdone
      rcases hstage with ⟨hfree, hbegun, hwaiting⟩ | ⟨hheld, hlast, before, hfound, hholding⟩
        | ⟨-, _, _, hdone, -⟩
      · exact waiting_turn hlocked hauto hnext hfree hbegun hwaiting hanswer
      · exact holding_turn hlocked hauto hnext hheld hlast hfound hholding hguarded hanswer
      · cases hdone

end Turn

theorem sharing_step {s s' : WorkerState ι σ} {i : ι} (hsharing : Sharing around s)
    (hisolated : Isolated s.log) (hguarded : guarded around (s.threads i) s.shared.2 = true)
    (hstep : Interleaving.step (workerTurn around) i s = some s') :
    Sharing around s' ∧ Isolated s'.log := by
  obtain ⟨event, worker, ⟨state', c'⟩, hturn, rfl⟩ := Interleaving.step_eq_some hstep
  obtain ⟨holder, hlocked, hauto, hthreads⟩ := hsharing
  have hi := hthreads i
  have hturned : ∃ holder', TurnOk around.storage s.log s.shared.2 holder i event worker c' holder' := by
    cases hworker : s.threads i with
    | outside rest =>
        rw [hworker] at hi hguarded hturn
        exact ⟨holder, outside_turn hlocked hauto hi hguarded hturn⟩
    | inside operation rest next =>
        rw [hworker] at hi hguarded hturn
        exact inside_turn hlocked hauto hi hguarded hturn
  obtain ⟨holder', hturned⟩ := hturned
  exact ⟨Sharing.turn hthreads hturned, hisolated.concat hturned.sound⟩

theorem sharing_start (manager : SnapshotManager) (requests : ι → Request) (state : σ)
    (tables : Sql.Tables Storage.Table) :
    Sharing around (workerStart manager requests state tables) := by
  refine ⟨none, rfl, fun _ => rfl, ?_⟩
  intro i
  exact ⟨nofun, asks_request manager (requests i), rfl⟩

/-- **Isolation.** In a run where nobody goes around the repository while its mutex is taken, and
where SQLite does not refuse to end a transaction, the statements of a repository call stay together,
no statement outside the repository is part of a transaction, and removals and updates report
NotFound exactly when there was no such row. -/
theorem isolated_of_guarded (manager : SnapshotManager) (around : Surroundings σ)
    (requests : ι → Request) (state : σ) (tables : Sql.Tables Storage.Table) (schedule : List ι)
    (h : Always (workerTurn around) (fun i s => guarded around (s.threads i) s.shared.2 = true)
      schedule (workerStart manager requests state tables)) :
    Throughout (workerTurn around) (fun s => Isolated s.log) schedule
      (workerStart manager requests state tables) := by
  have hsharing : Sharing around (workerStart manager requests state tables) :=
    sharing_start manager requests state tables
  refine Interleaving.throughout_of_always ?_ hsharing isolated_nil h
  intro i s s' hsharing hisolated hguarded hstep
  exact sharing_step hsharing hisolated hguarded hstep

end Sharing

/-! ### A restore and a prune -/

open SnapshotManager (importedLibrary keepsOne oneSecond)

/-- One client restores the only snapshot while another one prunes. -/
def restoreAndPrune : Bool → Request
  | false => .restore (str "01ARZ3NDEKTSV4RRFFQ69G5FAV") {}
  | true => .prune

/-- The restore is at its end before the prune starts. -/
def oneAfterTheOther : List Bool := List.replicate 49 false ++ List.replicate 13 true

theorem isolated_restoreAndPrune :
    Throughout (workerTurn oneSecond) (fun s => Isolated s.log) oneAfterTheOther
      (workerStart keepsOne restoreAndPrune () importedLibrary.tables) := by
  apply isolated_of_guarded
  apply Interleaving.always_of_check
  decide +kernel

/-- The prune begins its transaction before the restore records its event. -/
def recordedInside : List Bool :=
  List.replicate 46 false ++ List.replicate 3 true ++ List.replicate 3 false

/-- A statement that goes around the repository, inside a transaction. -/
def Event.intrudes : Event → Bool
  | .direct op before => op.isStatement && before.saved.isSome
  | _ => false

/-- The event of the restore becomes part of the prune's transaction. -/
theorem not_isolated_restoreAndPrune :
    ¬ ∀ (manager : SnapshotManager) (around : Surroundings Unit) (requests : Bool → Request)
      (tables : Sql.Tables Storage.Table) (schedule : List Bool),
      Throughout (workerTurn around) (fun s => Isolated s.log) schedule
        (workerStart manager requests () tables) := by
  intro h
  have hruns : ((Interleaving.run (workerTurn oneSecond) recordedInside
      (workerStart keepsOne restoreAndPrune () importedLibrary.tables)).any fun s =>
        s.log.any fun entry => entry.2.intrudes) = true := by
    decide +kernel
  obtain ⟨s, hrun, hlog⟩ := (Option.any_eq_true _ _).mp hruns
  obtain ⟨⟨i, event⟩, hmem, hintrudes⟩ := List.any_eq_true.mp hlog
  obtain ⟨before, after, heq⟩ := List.append_of_mem hmem
  have hsound := (h keepsOne oneSecond restoreAndPrune importedLibrary.tables recordedInside).last
    hrun before i event after heq
  cases event with
  | direct op found =>
      obtain ⟨hstatement, hsaved⟩ := Bool.and_eq_true_iff.mp hintrudes
      rw [hsound hstatement] at hsaved
      cases hsaved
  | _ => cases hintrudes

end ContextSnap.Daemon
