import ContextSnap.Lib.Program

/-!
# Interleavings

Threads that share a state and take turns in any order. A schedule says whose turn it is; a thread
that is blocked cannot be scheduled. A property of all states of a run and a condition on all its
steps are the same when one step shows that they are.
-/

namespace ContextSnap.Interleaving

/-- What the threads share, where each of them is, and what happened so far. -/
structure State (ι τ σ ε : Type) where
  shared : σ
  threads : ι → τ
  log : List (ι × ε) := []

section Runs

variable {ι τ σ ε : Type} [DecidableEq ι] (advance : τ → σ → Option (ε × τ × σ))

/-- The turn of thread `i`. -/
def step (i : ι) (s : State ι τ σ ε) : Option (State ι τ σ ε) :=
  (advance (s.threads i) s.shared).map fun result =>
    { shared := result.2.2
      threads := Function.update s.threads i result.2.1
      log := s.log ++ [(i, result.1)] }

def run : List ι → State ι τ σ ε → Option (State ι τ σ ε)
  | [], s => some s
  | i :: schedule, s => (step advance i s).bind (run schedule)

/-- Every step of a schedule is taken in a state that meets the condition. -/
def Always (condition : ι → State ι τ σ ε → Prop) : List ι → State ι τ σ ε → Prop
  | [], _ => True
  | i :: schedule, s =>
      ∀ s', step advance i s = some s' → condition i s ∧ Always condition schedule s'

/-- A condition on what a step does, in the state before it. -/
def OnEvent (condition : State ι τ σ ε → ι × ε → Prop) (i : ι) (s : State ι τ σ ε) : Prop :=
  ∀ event thread shared, advance (s.threads i) s.shared = some (event, thread, shared) →
    condition s (i, event)

/-- `Always` as a computation. -/
def check (condition : ι → State ι τ σ ε → Bool) : List ι → State ι τ σ ε → Bool
  | [], _ => true
  | i :: schedule, s =>
      (step advance i s).all fun s' => condition i s && check condition schedule s'

/-- Every state that a schedule reaches has the property. -/
def Throughout (property : State ι τ σ ε → Prop) : List ι → State ι τ σ ε → Prop
  | [], s => property s
  | i :: schedule, s =>
      property s ∧ ∀ s', step advance i s = some s' → Throughout property schedule s'

variable {advance} {property invariant : State ι τ σ ε → Prop}
  {condition : ι → State ι τ σ ε → Prop} {schedule : List ι} {s s' : State ι τ σ ε}

theorem step_eq_some {i : ι} (h : step advance i s = some s') :
    ∃ event thread shared, advance (s.threads i) s.shared = some (event, thread, shared)
      ∧ s' = { shared, threads := Function.update s.threads i thread
               log := s.log ++ [(i, event)] } := by
  obtain ⟨⟨event, thread, shared⟩, hadvance, rfl⟩ := Option.map_eq_some_iff.mp h
  exact ⟨event, thread, shared, hadvance, rfl⟩

theorem Always.mono {condition' : ι → State ι τ σ ε → Prop}
    (h : ∀ i s, condition i s → condition' i s) (halways : Always advance condition schedule s) :
    Always advance condition' schedule s := by
  induction schedule generalizing s with
  | nil => trivial
  | cons i schedule ih =>
      intro s₁ hstep
      obtain ⟨hcondition, hrest⟩ := halways s₁ hstep
      exact ⟨h i s hcondition, ih hrest⟩

theorem always_of_check {condition : ι → State ι τ σ ε → Bool}
    (h : check advance condition schedule s = true) :
    Always advance (fun i s => condition i s = true) schedule s := by
  induction schedule generalizing s with
  | nil => trivial
  | cons i schedule ih =>
      intro s₁ hstep
      rw [check, hstep, Option.all_some, Bool.and_eq_true] at h
      exact ⟨h.1, ih h.2⟩

theorem always_of_checkEvent {condition : State ι τ σ ε → ι × ε → Prop}
    [∀ s entry, Decidable (condition s entry)]
    (h : check advance (fun i s => (advance (s.threads i) s.shared).all
      fun result => decide (condition s (i, result.1))) schedule s = true) :
    Always advance (OnEvent advance condition) schedule s := by
  refine (always_of_check h).mono fun i s hcheck event thread shared hadvance => ?_
  rw [hadvance] at hcheck
  exact of_decide_eq_true hcheck

theorem run_append (schedule later : List ι) (s : State ι τ σ ε) :
    run advance (schedule ++ later) s = (run advance schedule s).bind (run advance later) := by
  induction schedule generalizing s with
  | nil => rfl
  | cons i schedule ih =>
      rw [List.cons_append, run, run]
      cases step advance i s with
      | none => rfl
      | some s₁ => exact ih s₁

theorem run_trans {later : List ι} {s'' : State ι τ σ ε} (h : run advance schedule s = some s')
    (hlater : run advance later s' = some s'') :
    run advance (schedule ++ later) s = some s'' := by
  rw [run_append, h]
  exact hlater

/-- What every step preserves, a run preserves. -/
theorem run_invariant (hstep : ∀ i s s', invariant s → step advance i s = some s' → invariant s')
    (hs : invariant s) (hrun : run advance schedule s = some s') : invariant s' := by
  induction schedule generalizing s with
  | nil =>
      cases hrun
      exact hs
  | cons i schedule ih =>
      obtain ⟨s₁, hfirst, hrest⟩ := Option.bind_eq_some_iff.mp hrun
      exact ih (hstep i s s₁ hs hfirst) hrest

theorem Throughout.here (h : Throughout advance property schedule s) : property s := by
  cases schedule with
  | nil => exact h
  | cons i schedule => exact h.1

/-- The last state of a run is one that it reaches. -/
theorem Throughout.last (h : Throughout advance property schedule s)
    (hrun : run advance schedule s = some s') : property s' := by
  induction schedule generalizing s with
  | nil =>
      cases hrun
      exact h
  | cons i schedule ih =>
      obtain ⟨s₁, hstep, hrest⟩ := Option.bind_eq_some_iff.mp hrun
      exact ih (h.2 s₁ hstep) hrest

/-- Where a step that meets the condition preserves the property and the invariant, the property
holds throughout a run whose steps all meet it. -/
theorem throughout_of_always
    (hgood : ∀ i s s', invariant s → property s → condition i s → step advance i s = some s' →
      invariant s' ∧ property s')
    (hinvariant : invariant s) (hproperty : property s)
    (halways : Always advance condition schedule s) : Throughout advance property schedule s := by
  induction schedule generalizing s with
  | nil => exact hproperty
  | cons i schedule ih =>
      refine ⟨hproperty, fun s₁ hstep => ?_⟩
      obtain ⟨hcondition, hrest⟩ := halways s₁ hstep
      obtain ⟨hinvariant₁, hproperty₁⟩ := hgood i s s₁ hinvariant hproperty hcondition hstep
      exact ih hinvariant₁ hproperty₁ hrest

/-- **Runs.** Where a step that meets the condition preserves the property and the invariant, and
one that preserves the property meets the condition, the property holds throughout a run exactly
when all its steps meet the condition. -/
theorem throughout_iff_always
    (hgood : ∀ i s s', invariant s → property s → condition i s → step advance i s = some s' →
      invariant s' ∧ property s')
    (hexact : ∀ i s s', invariant s → property s → step advance i s = some s' → property s' →
      condition i s)
    (hinvariant : invariant s) (hproperty : property s) :
    Throughout advance property schedule s ↔ Always advance condition schedule s := by
  refine ⟨fun hthroughout => ?_, throughout_of_always hgood hinvariant hproperty⟩
  induction schedule generalizing s with
  | nil => trivial
  | cons i schedule ih =>
      intro s₁ hstep
      have hproperty₁ := (hthroughout.2 s₁ hstep).here
      have hcondition := hexact i s s₁ hinvariant hproperty hstep hproperty₁
      obtain ⟨hinvariant₁, -⟩ := hgood i s s₁ hinvariant hproperty hcondition hstep
      exact ⟨hcondition, ih hinvariant₁ hproperty₁ (hthroughout.2 s₁ hstep)⟩

end Runs

/-- What holds of every entry of a log, with what is in front of it and behind it. -/
theorem forall_split_concat {α : Type} {P : List α → α → List α → Prop} {log : List α} {last : α} :
    (∀ before entry after, log ++ [last] = before ++ entry :: after → P before entry after)
      ↔ P log last [] ∧
        ∀ before entry after, log = before ++ entry :: after →
          P before entry (after ++ [last]) := by
  constructor
  · intro h
    refine ⟨h log last [] rfl, fun before entry after hlog => ?_⟩
    apply h
    rw [hlog, List.append_assoc, List.cons_append]
  · rintro ⟨hlast, hrest⟩ before entry after hlog
    rcases List.eq_nil_or_concat after with rfl | ⟨front, x, rfl⟩
    · obtain ⟨rfl, hentry⟩ := List.append_inj' hlog rfl
      cases hentry
      exact hlast
    · rw [List.concat_eq_append, ← List.cons_append, ← List.append_assoc] at hlog
      obtain ⟨hfront, hx⟩ := List.append_inj' hlog rfl
      cases hx
      rw [List.concat_eq_append]
      exact hrest before entry front hfront

theorem forall_split_cons {α : Type} {P : List α → α → List α → Prop} {log : List α} {first : α} :
    (∀ before entry after, first :: log = before ++ entry :: after → P before entry after)
      ↔ P [] first log ∧
        ∀ before entry after, log = before ++ entry :: after →
          P (first :: before) entry after := by
  constructor
  · intro h
    refine ⟨h [] first log rfl, fun before entry after hlog => ?_⟩
    exact h (first :: before) entry after (congrArg (first :: ·) hlog)
  · rintro ⟨hfirst, hrest⟩ before entry after hlog
    cases before with
    | nil =>
        obtain ⟨rfl, rfl⟩ := List.cons.inj hlog
        exact hfirst
    | cons head before =>
        obtain ⟨rfl, htail⟩ := List.cons.inj hlog
        exact hrest before entry after htail

/-- One entry of a log, and another one behind it. -/
def Follows {α : Type} (first second : α) (log : List α) : Prop :=
  ∃ before after, log = before ++ first :: after ∧ second ∈ after

theorem Follows.mem {α : Type} {first second : α} {log : List α} (h : Follows first second log) :
    first ∈ log := by
  obtain ⟨before, after, rfl, -⟩ := h
  simp

theorem follows_concat {α : Type} {first second last : α} {log : List α} :
    Follows first second (log ++ [last])
      ↔ Follows first second log ∨ last = second ∧ first ∈ log := by
  constructor
  · rintro ⟨before, after, hlog, hmem⟩
    rcases List.eq_nil_or_concat after with rfl | ⟨front, x, rfl⟩
    · exact absurd hmem List.not_mem_nil
    · rw [List.concat_eq_append] at hlog hmem
      rw [← List.cons_append, ← List.append_assoc] at hlog
      obtain ⟨rfl, hx⟩ := List.append_inj' hlog rfl
      cases hx
      rcases List.mem_append.mp hmem with hmem | hmem
      · exact .inl ⟨before, front, rfl, hmem⟩
      · exact .inr ⟨(List.mem_singleton.mp hmem).symm, by simp⟩
  · rintro (⟨before, after, rfl, hmem⟩ | ⟨rfl, hmem⟩)
    · exact ⟨before, after ++ [last], by simp, List.mem_append_left _ hmem⟩
    · obtain ⟨before, after, rfl⟩ := List.append_of_mem hmem
      exact ⟨before, after ++ [last], by simp, by simp⟩

/-- The turn of a thread that runs a program: one operation with its answer. -/
def programTurn {Op σ α : Type} {Answer : Op → Type}
    (handler : (op : Op) → σ → Option (Answer op × σ)) :
    Program Op Answer α → σ → Option ((Σ op, Answer op) × Program Op Answer α × σ)
  | .done _, _ => none
  | .ask op next, s =>
      (handler op s).map fun result => (⟨op, result.1⟩, next result.1, result.2)

/-! ### Programs under interference -/

section Ensures

variable {Op σ α β : Type} {Answer : Op → Type}
  (handler : (op : Op) → σ → Option (Answer op × σ)) (rely : σ → σ → Prop) (works : Op → σ → Prop)

/-- What holds behind a program, where others act between its operations as `rely` has it, and
operations are asked in states where they work. -/
def Ensures : Program Op Answer α → σ → (α → σ → Prop) → Prop
  | .done value, s, post => post value s
  | .ask op next, s, post => ∀ s₁ answer s', rely s s₁ → works op s₁ →
      handler op s₁ = some (answer, s') → Ensures (next answer) s' post

variable {handler rely works} {program : Program Op Answer α} {s : σ}

theorem Ensures.mono {post post' : α → σ → Prop} (h : Ensures handler rely works program s post)
    (hpost : ∀ value s', post value s' → post' value s') :
    Ensures handler rely works program s post' := by
  induction program generalizing s with
  | done value => exact hpost value s h
  | ask op next ih =>
      intro s₁ answer s' hrely hworks hanswer
      exact ih answer (h s₁ answer s' hrely hworks hanswer)

theorem Ensures.and {post post' : α → σ → Prop} (h : Ensures handler rely works program s post)
    (h' : Ensures handler rely works program s post') :
    Ensures handler rely works program s fun value s' => post value s' ∧ post' value s' := by
  induction program generalizing s with
  | done value => exact ⟨h, h'⟩
  | ask op next ih =>
      intro s₁ answer s' hrely hworks hanswer
      exact ih answer (h s₁ answer s' hrely hworks hanswer) (h' s₁ answer s' hrely hworks hanswer)

theorem Ensures.bind {next : α → Program Op Answer β} {post : β → σ → Prop}
    (h : Ensures handler rely works program s
      fun value s' => Ensures handler rely works (next value) s' post) :
    Ensures handler rely works (program >>= next) s post := by
  induction program generalizing s with
  | done value => exact h
  | ask op rest ih =>
      intro s₁ answer s' hrely hworks hanswer
      exact ih answer (h s₁ answer s' hrely hworks hanswer)

/-- What others and all operations of a program preserve holds behind it. -/
theorem ensures_of_all {good : Op → Prop} {I : σ → Prop} (hrely : ∀ s s', rely s s' → I s → I s')
    (hstep : ∀ op s answer s', good op → I s → handler op s = some (answer, s') → I s')
    (hprogram : program.All good) (hs : I s) :
    Ensures handler rely works program s fun _ s' => I s' := by
  induction program generalizing s with
  | done value => exact hs
  | ask op next ih =>
      intro s₁ answer s' hs₁ _ hanswer
      exact ih answer (hprogram.2 answer)
        (hstep op s₁ answer s' hprogram.1 (hrely s s₁ hs₁ hs) hanswer)

theorem Ensures.bind_except {ε : Type} {program : ExceptT ε (Program Op Answer) α}
    {next : α → ExceptT ε (Program Op Answer) β} {post : Except ε β → σ → Prop}
    (h : Ensures handler rely works program.run s fun result s' =>
      (∀ e, result = .error e → post (.error e) s')
        ∧ ∀ value, result = .ok value → Ensures handler rely works (next value).run s' post) :
    Ensures handler rely works (program >>= next).run s post := by
  apply Ensures.bind
  refine h.mono fun result s' hresult => ?_
  cases result with
  | error e => exact hresult.1 e rfl
  | ok value => exact hresult.2 value rfl

end Ensures

end ContextSnap.Interleaving
