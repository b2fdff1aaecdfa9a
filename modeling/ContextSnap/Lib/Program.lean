import Mathlib.Tactic

/-!
# Programs over an interface

A program asks its environment operations and goes on with the answers. A handler gives the answers
and carries the state of the environment; an operation it has no answer for never returns. What all
operations of a program have in common is stated without a handler, and holds along every run.
-/

namespace ContextSnap

/-- A program over the operations `Op` with the answers `Answer`. -/
inductive Program (Op : Type) (Answer : Op → Type) (α : Type) where
  | done (value : α)
  | ask (op : Op) (next : Answer op → Program Op Answer α)

namespace Program

variable {Op : Type} {Answer : Op → Type} {α β σ : Type}

protected def bind : Program Op Answer α → (α → Program Op Answer β) → Program Op Answer β
  | .done value, f => f value
  | .ask op next, f => .ask op fun answer => (next answer).bind f

instance : Monad (Program Op Answer) where
  pure := .done
  bind := Program.bind

/-- The program that asks one operation. -/
def operation (op : Op) : Program Op Answer (Answer op) := .ask op .done

@[simp]
theorem pure_eq (value : α) : (pure value : Program Op Answer α) = .done value := rfl

@[simp]
theorem done_bind (value : α) (f : α → Program Op Answer β) : (.done value >>= f) = f value := rfl

@[simp]
theorem ask_bind (op : Op) (next : Answer op → Program Op Answer α) (f : α → Program Op Answer β) :
    (.ask op next >>= f) = .ask op fun answer => next answer >>= f := rfl

@[simp]
theorem operation_bind (op : Op) (f : Answer op → Program Op Answer β) :
    (operation op >>= f) = .ask op f := rfl

theorem bind_done (p : Program Op Answer α) : (p >>= .done) = p := by
  induction p with
  | done value => rfl
  | ask op next ih =>
      rw [ask_bind]
      exact congrArg (Program.ask op) (funext ih)

theorem bind_bind {γ : Type} (p : Program Op Answer α) (f : α → Program Op Answer β)
    (g : β → Program Op Answer γ) : ((p >>= f) >>= g) = p >>= fun value => f value >>= g := by
  induction p with
  | done value => rfl
  | ask op next ih =>
      simp only [ask_bind]
      exact congrArg (Program.ask op) (funext ih)

instance : LawfulMonad (Program Op Answer) := 
  LawfulMonad.mk' _ bind_done (fun _ _ => rfl) bind_bind

/-! ### Runs -/

section Run

variable (handler : (op : Op) → σ → Option (Answer op × σ))

/-- The result and the last state of a run, if it returns. -/
def run : Program Op Answer α → σ → Option (α × σ)
  | .done value, s => some (value, s)
  | .ask op next, s =>
      match handler op s with
      | none => none
      | some (answer, s') => (next answer).run s'

@[simp]
theorem run_done (value : α) (s : σ) :
    (done value : Program Op Answer α).run handler s = some (value, s) := rfl

theorem run_ask {op : Op} {s s' : σ} {answer : Answer op} (h : handler op s = some (answer, s'))
    (next : Answer op → Program Op Answer α) :
    (ask op next).run handler s = (next answer).run handler s' := by
  rw [run, h]

theorem run_ask_eq (op : Op) (next : Answer op → Program Op Answer α) (s : σ) :
    (ask op next).run handler s
      = (handler op s).bind fun result => (next result.1).run handler result.2 := by
  rw [run]
  cases handler op s <;> rfl

theorem run_bind (p : Program Op Answer α) (f : α → Program Op Answer β) (s : σ) :
    (p >>= f).run handler s
      = (p.run handler s).bind fun result => (f result.1).run handler result.2 := by
  induction p generalizing s with
  | done value => rfl
  | ask op next ih =>
      rw [ask_bind, run, run]
      cases handler op s with
      | none => rfl
      | some result => exact ih result.1 result.2

end Run

/-! ### What all operations of a program have in common -/

/-- Every operation that `p` may ask, whatever the answers before, is in `good`. -/
def All (good : Op → Prop) : Program Op Answer α → Prop
  | .done _ => True
  | .ask op next => good op ∧ ∀ answer, (next answer).All good

variable {good : Op → Prop}

@[simp]
theorem all_done (value : α) : (done value : Program Op Answer α).All good := trivial

theorem all_operation {op : Op} (h : good op) :
    (operation op : Program Op Answer (Answer op)).All good :=
  ⟨h, fun _ => trivial⟩

theorem All.bind {p : Program Op Answer α} {f : α → Program Op Answer β} (hp : p.All good)
    (hf : ∀ value, (f value).All good) : (p >>= f).All good := by
  induction p with
  | done value => exact hf value
  | ask op next ih => exact ⟨hp.1, fun answer => ih answer (hp.2 answer)⟩

theorem All.mono {good' : Op → Prop} (h : ∀ op, good op → good' op) {p : Program Op Answer α}
    (hp : p.All good) : p.All good' := by
  induction p with
  | done value => trivial
  | ask op next ih => exact ⟨h op hp.1, fun answer => ih answer (hp.2 answer)⟩

section Rules

variable {handler : (op : Op) → σ → Option (Answer op × σ)} {I : σ → Prop}

/-- **Invariants.** What every good operation preserves, a program of good operations preserves. -/
theorem All.run_invariant
    (hstep : ∀ op s answer s', good op → I s → handler op s = some (answer, s') → I s')
    {p : Program Op Answer α} (hp : p.All good) {s s' : σ} {value : α} (hs : I s)
    (hrun : p.run handler s = some (value, s')) : I s' := by
  induction p generalizing s with
  | done value =>
      rw [run_done] at hrun
      cases hrun
      exact hs
  | ask op next ih =>
      rw [run] at hrun
      cases hanswer : handler op s with
      | none => simp [hanswer] at hrun
      | some result =>
          rw [hanswer] at hrun
          exact ih result.1 (hp.2 result.1) (hstep op s result.1 result.2 hp.1 hs hanswer) hrun

/-- **Progress.** A program of operations that are answered in `I` and preserve it returns. -/
theorem All.run_returns
    (hstep : ∀ op s, good op → I s → ∃ answer s', handler op s = some (answer, s') ∧ I s')
    {p : Program Op Answer α} (hp : p.All good) {s : σ} (hs : I s) :
    ∃ value s', p.run handler s = some (value, s') ∧ I s' := by
  induction p generalizing s with
  | done value => exact ⟨value, s, rfl, hs⟩
  | ask op next ih =>
      obtain ⟨answer, s', hanswer, hs'⟩ := hstep op s hp.1 hs
      rw [run_ask handler hanswer]
      exact ih answer (hp.2 answer) hs'

/-- **Simulation.** A run carries over to a handler that answers alike in related states. -/
theorem run_simulates {τ : Type} {handler' : (op : Op) → τ → Option (Answer op × τ)}
    {R : σ → τ → Prop}
    (hstep : ∀ op s answer s' t, R s t → handler op s = some (answer, s') →
      ∃ t', handler' op t = some (answer, t') ∧ R s' t')
    {p : Program Op Answer α} {s s' : σ} {t : τ} {value : α} (h : R s t)
    (hrun : p.run handler s = some (value, s')) :
    ∃ t', p.run handler' t = some (value, t') ∧ R s' t' := by
  induction p generalizing s t with
  | done value =>
      rw [run_done] at hrun
      cases hrun
      exact ⟨t, rfl, h⟩
  | ask op next ih =>
      rw [run_ask_eq] at hrun
      obtain ⟨⟨answer, s₁⟩, hanswer, hrest⟩ := Option.bind_eq_some_iff.mp hrun
      obtain ⟨t₁, hanswer', h₁⟩ := hstep op s answer s₁ t h hanswer
      rw [run_ask handler' hanswer']
      exact ih answer h₁ hrest

/-- Handlers that agree on the good operations run a program of them alike. -/
theorem All.run_congr {handler' : (op : Op) → σ → Option (Answer op × σ)}
    (h : ∀ op s, good op → handler op s = handler' op s) {p : Program Op Answer α}
    (hp : p.All good) (s : σ) : p.run handler s = p.run handler' s := by
  induction p generalizing s with
  | done value => rfl
  | ask op next ih =>
      rw [run_ask_eq, run_ask_eq, h op s hp.1]
      apply Option.bind_congr
      intro result _
      exact ih result.1 (hp.2 result.1) result.2

end Rules

/-! ### Programs whose environment is known in part -/

section Leads

variable (allowed : Op → σ → Prop) (acts : (op : Op) → σ → Answer op → σ → Prop)

/-- Only allowed operations are asked, and whatever they answer and do, the outcome is as it should
be. -/
def Leads : Program Op Answer α → σ → (α → σ → Prop) → Prop
  | .done value, s, post => post value s
  | .ask op next, s, post =>
      allowed op s ∧ ∀ answer s', acts op s answer s' → (next answer).Leads s' post

variable {allowed acts} {s : σ} {post : α → σ → Prop}

theorem Leads.mono {p : Program Op Answer α} {post' : α → σ → Prop}
    (h : p.Leads allowed acts s post) (hpost : ∀ value s', post value s' → post' value s') :
    p.Leads allowed acts s post' := by
  induction p generalizing s with
  | done value => exact hpost value s h
  | ask op next ih =>
      exact ⟨h.1, fun answer s' hacts => ih answer (h.2 answer s' hacts)⟩

theorem Leads.bind {p : Program Op Answer α} {next : α → Program Op Answer β}
    {post : β → σ → Prop}
    (h : p.Leads allowed acts s fun value s' => (next value).Leads allowed acts s' post) :
    (p >>= next).Leads allowed acts s post := by
  induction p generalizing s with
  | done value => exact h
  | ask op rest ih =>
      exact ⟨h.1, fun answer s' hacts => ih answer (h.2 answer s' hacts)⟩

/-- A loop whose rounds take the invariant from what is behind them to one item more. -/
theorem Leads.foldlM {ι τ : Type} {body : τ → ι → Program Op Answer τ}
    {I : List ι → τ → σ → Prop}
    (hbody : ∀ behind item state s, I behind state s →
      (body state item).Leads allowed acts s (I (behind ++ [item])))
    {items behind : List ι} {state : τ} (h : I behind state s) :
    (items.foldlM body state).Leads allowed acts s (I (behind ++ items)) := by
  induction items generalizing behind state s with
  | nil => simpa [List.foldlM_nil, Leads] using h
  | cons item items ih =>
      rw [List.foldlM_cons]
      refine ((hbody behind item state s h).mono fun state' s' h' => ?_).bind
      rw [List.append_cons]
      exact ih h'

end Leads

/-! ### Programs over a part of an interface -/

/-- A program as one over a larger interface, whose answers to these operations are the same. -/
def embed {Op' : Type} {Answer' : Op' → Type} (f : Op → Op') :
    Program Op (fun op => Answer' (f op)) α → Program Op' Answer' α
  | .done value => .done value
  | .ask op next => .ask (f op) fun answer => (next answer).embed f

section Embed

variable {Op' σ' : Type} {Answer' : Op' → Type} {f : Op → Op'}

theorem all_embed {good' : Op' → Prop} {p : Program Op (fun op => Answer' (f op)) α}
    (h : p.All fun op => good' (f op)) : (p.embed f).All good' := by
  induction p with
  | done value => trivial
  | ask op next ih => exact ⟨h.1, fun answer => ih answer (h.2 answer)⟩

/-- The larger interface answers these operations from the part of its state that is theirs. -/
theorem run_embed {handler : (op : Op) → σ → Option (Answer' (f op) × σ)}
    {handler' : (op : Op') → σ' → Option (Answer' op × σ')} (put : σ → σ')
    (h : ∀ op s, handler' (f op) (put s)
      = (handler op s).map fun result => (result.1, put result.2))
    (p : Program Op (fun op => Answer' (f op)) α) (s : σ) :
    (p.embed f).run handler' (put s)
      = (p.run handler s).map fun result => (result.1, put result.2) := by
  induction p generalizing s with
  | done value => rfl
  | ask op next ih =>
      rw [embed, run, run, h]
      cases handler op s with
      | none => rfl
      | some result => exact ih result.1 result.2

end Embed

/-! ### Programs that may fail -/

section Fallible

variable {ε : Type} {handler : (op : Op) → σ → Option (Answer op × σ)}
  {program : ExceptT ε (Program Op Answer) α} {next : α → ExceptT ε (Program Op Answer) β}

theorem All.bind_except (hp : program.run.All good) (hnext : ∀ value, (next value).run.All good) :
    (program >>= next).run.All good := by
  apply All.bind hp
  intro result
  cases result with
  | error e => trivial
  | ok value => exact hnext value

theorem run_except_bind (s : σ) :
    (program >>= next).run.run handler s = (program.run.run handler s).bind fun result =>
      match result.1 with
      | .ok value => (next value).run.run handler result.2
      | .error e => some (.error e, result.2) := by
  have hbind : (program >>= next).run = program.run >>= ExceptT.bindCont next := rfl
  rw [hbind, run_bind]
  apply Option.bind_congr
  rintro ⟨result, s'⟩ -
  cases result <;> rfl

theorem run_except_bind_ok {s s' : σ} {value : α}
    (h : program.run.run handler s = some (.ok value, s')) :
    (program >>= next).run.run handler s = (next value).run.run handler s' := by
  rw [run_except_bind, h]
  rfl

theorem run_except_bind_error {s s' : σ} {e : ε}
    (h : program.run.run handler s = some (.error e, s')) :
    (program >>= next).run.run handler s = some (.error e, s') := by
  rw [run_except_bind, h]
  rfl

/-- What returns failed in its first part, or went on from a success of it. -/
theorem run_except_bind_cases {s s' : σ} {result : Except ε β}
    (h : (program >>= next).run.run handler s = some (result, s')) :
    (∃ e, result = .error e ∧ program.run.run handler s = some (.error e, s'))
      ∨ ∃ middle s₁, program.run.run handler s = some (.ok middle, s₁)
        ∧ (next middle).run.run handler s₁ = some (result, s') := by
  rw [run_except_bind] at h
  obtain ⟨⟨answer, s₁⟩, hprogram, hrest⟩ := Option.bind_eq_some_iff.mp h
  cases answer with
  | error e =>
      cases hrest
      exact .inl ⟨e, rfl, hprogram⟩
  | ok middle => exact .inr ⟨middle, s₁, hprogram, hrest⟩

/-- What succeeds went on from a success. -/
theorem run_except_bind_inv {s s' : σ} {value : β}
    (h : (program >>= next).run.run handler s = some (.ok value, s')) :
    ∃ middle s₁, program.run.run handler s = some (.ok middle, s₁)
      ∧ (next middle).run.run handler s₁ = some (.ok value, s') := by
  rcases run_except_bind_cases h with ⟨e, herror, -⟩ | hok
  · cases herror
  · exact hok

theorem run_except_bind_iff {s s' : σ} {value : β} :
    (program >>= next).run.run handler s = some (.ok value, s')
      ↔ ∃ middle s₁, program.run.run handler s = some (.ok middle, s₁)
        ∧ (next middle).run.run handler s₁ = some (.ok value, s') := by
  constructor
  · exact run_except_bind_inv
  · rintro ⟨middle, s₁, hprogram, hrest⟩
    rw [run_except_bind, hprogram]
    exact hrest

/-- A program that cannot fail itself succeeds. -/
theorem run_lift_inv {inner : Program Op Answer α} {s s' : σ} {result : Except ε α}
    (h : (ExceptT.lift inner : ExceptT ε (Program Op Answer) α).run.run handler s
      = some (result, s')) :
    ∃ value, result = .ok value ∧ inner.run handler s = some (value, s') := by
  have hlift : (ExceptT.lift inner : ExceptT ε (Program Op Answer) α).run
      = inner >>= fun value => .done (.ok value) := rfl
  rw [hlift, run_bind] at h
  obtain ⟨⟨value, s₁⟩, hinner, hdone⟩ := Option.bind_eq_some_iff.mp h
  cases hdone
  exact ⟨value, rfl, hinner⟩

end Fallible

end Program

end ContextSnap
