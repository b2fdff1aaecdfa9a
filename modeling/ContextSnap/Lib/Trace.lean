import ContextSnap.Lib.Program

/-!
# Traces

What a program asked of an environment that answers everything, in order and with the answers. The
journal of a loop keeps the trace of each round apart, together with the state before and after it.
-/

namespace ContextSnap.Program

variable {Op : Type} {Answer : Op → Type} {α β σ ι τ : Type}

/-- An operation with the answer it got. -/
structure Event (Op : Type) (Answer : Op → Type) where
  op : Op
  answer : Answer op

section

variable (handler : (op : Op) → σ → Answer op × σ)

/-- The events of a run, with its result and the last state of the environment. -/
def trace : Program Op Answer α → σ → List (Event Op Answer) × α × σ
  | .done value, s => ([], value, s)
  | .ask op next, s =>
      let (answer, s') := handler op s
      let (events, result) := (next answer).trace s'
      (⟨op, answer⟩ :: events, result)

@[simp]
theorem trace_done (value : α) (s : σ) :
    (done value : Program Op Answer α).trace handler s = ([], value, s) := rfl

@[simp]
theorem trace_ask (op : Op) (next : Answer op → Program Op Answer α) (s : σ) :
    (ask op next).trace handler s
      = (⟨op, (handler op s).1⟩ :: ((next (handler op s).1).trace handler (handler op s).2).1,
          ((next (handler op s).1).trace handler (handler op s).2).2) := rfl

/-- The events of a program that asks once. -/
theorem trace_ask_once {op : Op} {next : Answer op → Program Op Answer α}
    (h : ∀ answer, ∃ value, next answer = .done value) (s : σ) :
    ((ask op next).trace handler s).1 = [⟨op, (handler op s).1⟩] := by
  obtain ⟨value, hvalue⟩ := h (handler op s).1
  rw [trace_ask, hvalue]
  rfl

/-- What the answer of a program that asks once says about its result. -/
theorem trace_ask_value {op : Op} {next : Answer op → Program Op Answer α}
    {P : Answer op → α → Prop} (h : ∀ answer, ∃ value, next answer = .done value ∧ P answer value)
    (s : σ) : P (handler op s).1 ((ask op next).trace handler s).2.1 := by
  obtain ⟨value, hvalue, hP⟩ := h (handler op s).1
  rw [trace_ask, hvalue]
  exact hP

theorem trace_bind (p : Program Op Answer α) (f : α → Program Op Answer β) (s : σ) :
    (p >>= f).trace handler s
      = ((p.trace handler s).1 ++ ((f (p.trace handler s).2.1).trace handler (p.trace handler s).2.2).1,
          ((f (p.trace handler s).2.1).trace handler (p.trace handler s).2.2).2) := by
  induction p generalizing s with
  | done value => simp
  | ask op next ih =>
      rw [ask_bind, trace_ask, trace_ask, ih]
      rfl

theorem trace_bind_of_eq {p : Program Op Answer α} {s s' : σ} {a : α}
    {events : List (Event Op Answer)} (h : p.trace handler s = (events, a, s'))
    (f : α → Program Op Answer β) :
    (p >>= f).trace handler s
      = (events ++ ((f a).trace handler s').1, ((f a).trace handler s').2) := by
  rw [trace_bind, h]

/-- What all operations of a program have in common, every event of its traces has. -/
theorem All.of_mem_trace {good : Op → Prop} {p : Program Op Answer α} (hp : p.All good) (s : σ) :
    ∀ event ∈ (p.trace handler s).1, good event.op := by
  induction p generalizing s with
  | done value => simp
  | ask op next ih =>
      intro event hevent
      rw [trace_ask] at hevent
      rcases List.mem_cons.mp hevent with rfl | hevent
      · exact hp.1
      · exact ih _ (hp.2 _) _ event hevent

/-- What every good operation preserves, a program of good operations preserves. -/
theorem All.trace_invariant {good : Op → Prop} {I : σ → Prop}
    (hstep : ∀ op s, good op → I s → I (handler op s).2) {p : Program Op Answer α}
    (hp : p.All good) {s : σ} (hs : I s) : I (p.trace handler s).2.2 := by
  induction p generalizing s with
  | done value => exact hs
  | ask op next ih => exact ih _ (hp.2 _) (hstep op s hp.1 hs)

/-- Every answer in a trace is one of the environment's. -/
theorem answer_of_mem_trace {p : Program Op Answer α} {s : σ} {event : Event Op Answer}
    (h : event ∈ (p.trace handler s).1) : ∃ s', event.answer = (handler event.op s').1 := by
  induction p generalizing s with
  | done value => simp at h
  | ask op next ih =>
      rw [trace_ask] at h
      rcases List.mem_cons.mp h with rfl | h
      · exact ⟨s, rfl⟩
      · exact ih _ h

/-! ### Journals -/

/-- One round of a loop. -/
structure Entry (Op : Type) (Answer : Op → Type) (ι τ : Type) where
  item : ι
  before : τ
  events : List (Event Op Answer)
  after : τ

variable (body : τ → ι → Program Op Answer τ)

/-- The entry of one round. -/
def entry (state : τ) (item : ι) (s : σ) : Entry Op Answer ι τ :=
  { item, before := state, events := ((body state item).trace handler s).1
    after := ((body state item).trace handler s).2.1 }

/-- The rounds of a loop over `items`. -/
def journal : List ι → τ → σ → List (Entry Op Answer ι τ)
  | [], _, _ => []
  | item :: items, state, s =>
      entry handler body state item s
        :: journal items (entry handler body state item s).after
          ((body state item).trace handler s).2.2

/-- The states behind a loop over `items`: the loop's own and the environment's. -/
def outcome : List ι → τ → σ → τ × σ
  | [], state, s => (state, s)
  | item :: items, state, s =>
      outcome items ((body state item).trace handler s).2.1 ((body state item).trace handler s).2.2

/-- **The journal is the trace of the loop**, cut into rounds. -/
theorem trace_foldlM (items : List ι) (state : τ) (s : σ) :
    (items.foldlM body state).trace handler s
      = ((journal handler body items state s).flatMap (·.events),
          outcome handler body items state s) := by
  induction items generalizing state s with
  | nil => rfl
  | cons item items ih =>
      rw [List.foldlM_cons, trace_bind, ih]
      rfl

theorem journal_append (front back : List ι) (state : τ) (s : σ) :
    journal handler body (front ++ back) state s
      = journal handler body front state s
        ++ journal handler body back (outcome handler body front state s).1
            (outcome handler body front state s).2 := by
  induction front generalizing state s with
  | nil => rfl
  | cons item front ih =>
      rw [List.cons_append, journal, journal, outcome, ih]
      rfl

theorem outcome_append (front back : List ι) (state : τ) (s : σ) :
    outcome handler body (front ++ back) state s
      = outcome handler body back (outcome handler body front state s).1
          (outcome handler body front state s).2 := by
  induction front generalizing state s with
  | nil => rfl
  | cons item front ih => exact ih _ _

end

/-! ### Rules -/

section Rules

variable {handler : (op : Op) → σ → Answer op × σ} {body : τ → ι → Program Op Answer τ}

/-- **Loop invariants.** What every round over one of the items preserves holds before and after
every round. -/
theorem journal_invariant {I : τ → Prop} {items : List ι}
    (hstep : ∀ item ∈ items, ∀ state s, I state → I ((body state item).trace handler s).2.1)
    {state : τ} (s : σ) (hstate : I state) :
    (∀ round ∈ journal handler body items state s, I round.before ∧ I round.after)
      ∧ I (outcome handler body items state s).1 := by
  induction items generalizing state s with
  | nil => exact ⟨by simp [journal], hstate⟩
  | cons item items ih =>
      have hafter := hstep item (by simp) state s hstate
      obtain ⟨hrounds, hlast⟩ := ih (fun i hi => hstep i (List.mem_cons_of_mem _ hi))
        ((body state item).trace handler s).2.2 hafter
      refine ⟨?_, hlast⟩
      intro round hround
      rcases List.mem_cons.mp hround with rfl | hround
      · exact ⟨hstate, hafter⟩
      · exact hrounds round hround

/-- What every round of a run preserves, if it holds before it, holds throughout the run. -/
theorem journal_of_rounds {I : τ → Prop} {items : List ι} {state : τ} {s : σ}
    (hrounds : ∀ round ∈ journal handler body items state s, I round.before → I round.after)
    (hstate : I state) :
    (∀ round ∈ journal handler body items state s, I round.before ∧ I round.after)
      ∧ I (outcome handler body items state s).1 := by
  induction items generalizing state s with
  | nil => exact ⟨by simp [journal], hstate⟩
  | cons item items ih =>
      have hafter := hrounds (entry handler body state item s) (by simp [journal]) hstate
      obtain ⟨htail, hlast⟩ := ih (s := ((body state item).trace handler s).2.2)
        (fun round hround => hrounds round (List.mem_cons_of_mem _ hround)) hafter
      refine ⟨?_, hlast⟩
      intro round hround
      rcases List.mem_cons.mp hround with rfl | hround
      · exact ⟨hstate, hafter⟩
      · exact htail round hround

/-- **Progress.** What the rounds preserve, and the round over one of the items brings about, holds
behind the loop. -/
theorem outcome_of_mem {I : τ → Prop} {items : List ι}
    (hstep : ∀ item ∈ items, ∀ state s, I state → I ((body state item).trace handler s).2.1)
    {item : ι} (hitem : item ∈ items) (hbrings : ∀ state s, I ((body state item).trace handler s).2.1)
    (state : τ) (s : σ) : I (outcome handler body items state s).1 := by
  obtain ⟨front, back, rfl⟩ := List.append_of_mem hitem
  rw [outcome_append]
  exact (journal_invariant (fun i hi => hstep i (by simp [hi])) _ (hbrings _ _)).2

/-- Every round is a run of the body on one of the items. -/
theorem mem_journal {items : List ι} {state : τ} {s : σ} {round : Entry Op Answer ι τ}
    (h : round ∈ journal handler body items state s) :
    round.item ∈ items ∧ ∃ s', round = entry handler body round.before round.item s' := by
  induction items generalizing state s with
  | nil => simp [journal] at h
  | cons item items ih =>
      rcases List.mem_cons.mp h with rfl | h
      · exact ⟨by simp [entry], s, rfl⟩
      · obtain ⟨hitem, hentry⟩ := ih h
        exact ⟨List.mem_cons_of_mem _ hitem, hentry⟩

/-- A round with the items that were there before it. -/
theorem mem_journal_split {items : List ι} {state : τ} {s : σ} {round : Entry Op Answer ι τ}
    (h : round ∈ journal handler body items state s) :
    ∃ front back, items = front ++ round.item :: back
      ∧ round = entry handler body (outcome handler body front state s).1 round.item
          (outcome handler body front state s).2 := by
  induction items generalizing state s with
  | nil => simp [journal] at h
  | cons item items ih =>
      rcases List.mem_cons.mp h with rfl | h
      · exact ⟨[], items, rfl, rfl⟩
      · obtain ⟨front, back, hitems, hround⟩ := ih h
        exact ⟨item :: front, back, by rw [hitems]; rfl, hround⟩

variable (handler body) in
/-- Every item has its round. -/
theorem entry_mem_journal (front back : List ι) (item : ι) (state : τ) (s : σ) :
    entry handler body (outcome handler body front state s).1 item
        (outcome handler body front state s).2
      ∈ journal handler body (front ++ item :: back) state s := by
  rw [journal_append]
  exact List.mem_append_right _ (List.mem_cons_self ..)

end Rules

/-! ### Records -/

section Records

variable (handler : (op : Op) → σ → Option (Answer op × σ))

/-- A run in an environment that may not answer, with its events. -/
def record : Program Op Answer α → σ → Option (List (Event Op Answer) × α × σ)
  | .done value, s => some ([], value, s)
  | .ask op next, s =>
      (handler op s).bind fun result =>
        ((next result.1).record result.2).map fun rest => (⟨op, result.1⟩ :: rest.1, rest.2)

/-- A record is one of a run. -/
theorem run_eq_record (p : Program Op Answer α) (s : σ) :
    p.run handler s = (p.record handler s).map (·.2) := by
  induction p generalizing s with
  | done value => rfl
  | ask op next ih =>
      rw [run_ask_eq, record, Option.map_bind]
      apply Option.bind_congr
      intro result _
      rw [ih, Function.comp_apply, Option.map_map]
      rfl

variable {handler}

theorem record_bind_inv {p : Program Op Answer α} {f : α → Program Op Answer β} {s s' : σ}
    {events : List (Event Op Answer)} {value : β}
    (h : (p >>= f).record handler s = some (events, value, s')) :
    ∃ front middle s₁ back, p.record handler s = some (front, middle, s₁)
      ∧ (f middle).record handler s₁ = some (back, value, s') ∧ events = front ++ back := by
  induction p generalizing s events with
  | done first => exact ⟨[], first, s, events, rfl, h, rfl⟩
  | ask op next ih =>
      obtain ⟨⟨answer, s₁⟩, hanswer, hnext⟩ := Option.bind_eq_some_iff.mp h
      obtain ⟨⟨rest, result⟩, hrest, hevents⟩ := Option.map_eq_some_iff.mp hnext
      cases hevents
      obtain ⟨front, middle, s₂, back, hfront, hback, rfl⟩ := ih answer hrest
      refine ⟨⟨op, answer⟩ :: front, middle, s₂, back, ?_, hback, rfl⟩
      rw [record, hanswer, Option.bind_some, hfront]
      rfl

/-- What succeeds went on from a success. -/
theorem record_except_bind_inv {ε : Type} {p : ExceptT ε (Program Op Answer) α}
    {f : α → ExceptT ε (Program Op Answer) β} {s s' : σ} {events : List (Event Op Answer)} {value : β}
    (h : (p >>= f).run.record handler s = some (events, .ok value, s')) :
    ∃ front middle s₁ back, p.run.record handler s = some (front, .ok middle, s₁)
      ∧ (f middle).run.record handler s₁ = some (back, .ok value, s') ∧ events = front ++ back := by
  obtain ⟨front, middle, s₁, back, hfront, hback, hevents⟩ := record_bind_inv h
  cases middle with
  | error e => cases hback
  | ok middle => exact ⟨front, middle, s₁, back, hfront, hback, hevents⟩

/-- What all operations of a program have in common, every event of its records has. -/
theorem All.of_mem_record {good : Op → Prop} {p : Program Op Answer α} (hp : p.All good) {s s' : σ}
    {events : List (Event Op Answer)} {value : α} (h : p.record handler s = some (events, value, s')) :
    ∀ event ∈ events, good event.op := by
  induction p generalizing s events with
  | done first =>
      cases h
      simp
  | ask op next ih =>
      obtain ⟨⟨answer, s₁⟩, -, hnext⟩ := Option.bind_eq_some_iff.mp h
      obtain ⟨⟨rest, result⟩, hrest, hevents⟩ := Option.map_eq_some_iff.mp hnext
      cases hevents
      intro event hevent
      rcases List.mem_cons.mp hevent with rfl | hevent
      · exact hp.1
      · exact ih answer (hp.2 answer) hrest event hevent

/-- The answer of an event is one that the environment gave. -/
theorem handler_of_mem_record {p : Program Op Answer α} {s s' : σ} {events : List (Event Op Answer)}
    {value : α} (h : p.record handler s = some (events, value, s')) :
    ∀ event ∈ events, ∃ before after, handler event.op before = some (event.answer, after) := by
  induction p generalizing s events with
  | done first =>
      cases h
      simp
  | ask op next ih =>
      obtain ⟨⟨answer, s₁⟩, hanswer, hnext⟩ := Option.bind_eq_some_iff.mp h
      obtain ⟨⟨rest, result⟩, hrest, hevents⟩ := Option.map_eq_some_iff.mp hnext
      cases hevents
      intro event hevent
      rcases List.mem_cons.mp hevent with rfl | hevent
      · exact ⟨s, s₁, hanswer⟩
      · exact ih answer hrest event hevent

end Records

/-! ### Histories

A rule for what a program may ask, by what it was answered before, holds of its traces. -/

section History

/-- The calls so far with their answers are the state. -/
def Records (op : Op) (history : List (Event Op Answer)) (answer : Answer op)
    (history' : List (Event Op Answer)) : Prop :=
  history' = history ++ [⟨op, answer⟩]

variable {allowed : Op → List (Event Op Answer) → Prop} {history : List (Event Op Answer)}

theorem leads_operation {op : Op} {post : Answer op → List (Event Op Answer) → Prop}
    (hallowed : allowed op history) (h : ∀ answer, post answer (history ++ [⟨op, answer⟩])) :
    (operation op : Program Op Answer (Answer op)).Leads allowed Records history post :=
  ⟨hallowed, fun answer _ hrecords => hrecords ▸ h answer⟩

theorem Leads.of_trace {p : Program Op Answer α} {post : α → List (Event Op Answer) → Prop}
    (h : p.Leads allowed Records history post) (handler : (op : Op) → σ → Answer op × σ) (s : σ) :
    post (p.trace handler s).2.1 (history ++ (p.trace handler s).1)
      ∧ ∀ front event back, (p.trace handler s).1 = front ++ event :: back →
        allowed event.op (history ++ front) := by
  induction p generalizing history s with
  | done value =>
      refine ⟨by simpa [Leads] using h, fun front event back heq => ?_⟩
      simp at heq
  | ask op next ih =>
      obtain ⟨hpost, hrest⟩ := ih _ (h.2 (handler op s).1 _ rfl) (handler op s).2
      rw [List.append_assoc] at hpost
      refine ⟨hpost, fun front event back heq => ?_⟩
      rw [trace_ask] at heq
      rcases List.cons_eq_append_iff.mp heq with ⟨rfl, hevent⟩ | ⟨front, rfl, hfront⟩
      · rw [List.append_nil, (List.cons.inj hevent).1]
        exact h.1
      · rw [List.append_cons]
        exact hrest front event back hfront

end History

end ContextSnap.Program
