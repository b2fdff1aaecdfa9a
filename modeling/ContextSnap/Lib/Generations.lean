import Mathlib.Tactic

/-!
# Generations

A log in a bounded number of parts. An entry goes to the newest part; when that is full it becomes
the first of the older ones, and the oldest part is dropped when there are too many of them. What
the parts hold is always the end of what was written.
-/

namespace ContextSnap

/-- The parts of a log, the newest of the older ones first. -/
structure Generations (α : Type) where
  newest : List α := []
  older : List (List α) := []

namespace Generations

variable {α : Type}

/-- What the parts hold, in the order in which it was written. -/
def entries (log : Generations α) : List α := log.older.reverse.flatten ++ log.newest

/-- A part that ends with an entry that it had room for. -/
def Fitting (full : List α → Prop) (part : List α) : Prop :=
  ∀ front last, part = front ++ [last] → ¬ full front

section Log

variable (limit : ℕ) (full : List α → Prop)

/-- The newest part is put away. -/
def turn (log : Generations α) : Generations α :=
  { newest := [], older := (log.newest :: log.older).take limit }

/-- A log that holds the end of `written`, and all of it unless its parts are many and full. -/
structure Keeps (written : List α) (log : Generations α) : Prop where
  suffix : log.entries <:+ written
  complete : log.older.length < limit → log.entries = written
  bounded : log.older.length ≤ limit
  filled : ∀ part ∈ log.older, full part
  fitting : Fitting full log.newest ∧ ∀ part ∈ log.older, Fitting full part

variable [DecidablePred full]

/-- One more entry. -/
def add (log : Generations α) (entry : α) : Generations α :=
  let log := if full log.newest then log.turn limit else log
  { log with newest := log.newest ++ [entry] }

end Log

variable {limit : ℕ} {full : List α → Prop} {log : Generations α} {written : List α}

theorem entries_turn (log : Generations α) :
    (log.turn limit).entries <:+ log.entries ∧
      (log.older.length < limit → (log.turn limit).entries = log.entries) := by
  have hall : log.entries = (log.newest :: log.older).reverse.flatten := by
    rw [entries, List.reverse_cons, List.flatten_append, List.flatten_singleton]
  have hturn : (log.turn limit).entries = ((log.newest :: log.older).take limit).reverse.flatten :=
    List.append_nil _
  rw [hall, hturn]
  constructor
  · conv => rhs; rw [← List.take_append_drop limit (log.newest :: log.older)]
    rw [List.reverse_append, List.flatten_append]
    exact List.suffix_append _ _
  · intro hroom
    rw [List.take_of_length_le (by rw [List.length_cons]; exact hroom)]

/-- What is kept after a turn is still the end of what was written. -/
theorem Keeps.turn (h : Keeps limit full written log) (hfull : full log.newest) :
    Keeps limit full written (log.turn limit) where
  suffix := (entries_turn log).1.trans h.suffix
  complete hroom := by
    have hlength : log.older.length < limit := by
      rw [Generations.turn, List.length_take, List.length_cons] at hroom
      omega
    rw [(entries_turn log).2 hlength, h.complete hlength]
  bounded := List.length_take_le _ _
  filled part hpart := by
    rcases List.mem_cons.mp (List.mem_of_mem_take hpart) with rfl | hpart
    · exact hfull
    · exact h.filled part hpart
  fitting := by
    refine ⟨fun front last heq => ?_, fun part hpart => ?_⟩
    · exact absurd heq.symm (List.append_ne_nil_of_right_ne_nil _ (List.cons_ne_nil _ _))
    · rcases List.mem_cons.mp (List.mem_of_mem_take hpart) with rfl | hpart
      · exact h.fitting.1
      · exact h.fitting.2 part hpart

/-- An entry that the newest part has room for. -/
theorem Keeps.append (h : Keeps limit full written log) (hroom : ¬ full log.newest) (entry : α) :
    Keeps limit full (written ++ [entry]) { log with newest := log.newest ++ [entry] } := by
  have hentries : entries { log with newest := log.newest ++ [entry] } = log.entries ++ [entry] :=
    (List.append_assoc _ _ _).symm
  refine ⟨?_, fun hlength => ?_, h.bounded, h.filled, ?_, h.fitting.2⟩
  · obtain ⟨dropped, hwritten⟩ := h.suffix
    rw [hentries, ← hwritten, List.append_assoc]
    exact List.suffix_append _ _
  · rw [hentries, h.complete hlength]
  · intro front last heq
    obtain ⟨rfl, -⟩ := List.append_inj' heq rfl
    exact hroom

variable [DecidablePred full]

theorem Keeps.add (hempty : ¬ full []) (h : Keeps limit full written log) (entry : α) :
    Keeps limit full (written ++ [entry]) (log.add limit full entry) := by
  unfold Generations.add
  by_cases hfull : full log.newest
  · rw [if_pos hfull]
    exact (h.turn hfull).append hempty entry
  · rw [if_neg hfull]
    exact h.append hfull entry

theorem Keeps.foldl (hempty : ¬ full []) (h : Keeps limit full written log) (later : List α) :
    Keeps limit full (written ++ later) (later.foldl (·.add limit full ·) log) := by
  induction later generalizing written log with
  | nil => simpa using h
  | cons entry later ih =>
      rw [List.foldl_cons, ← List.singleton_append, ← List.append_assoc]
      exact ih (h.add hempty entry)

omit [DecidablePred full] in
theorem keeps_nil : Keeps limit full [] ({} : Generations α) where
  suffix := List.suffix_refl _
  complete _ := rfl
  bounded := Nat.zero_le _
  filled _ hpart := absurd hpart List.not_mem_nil
  fitting := ⟨fun _ _ heq => absurd heq.symm (by simp), fun _ hpart => absurd hpart List.not_mem_nil⟩

/-- **Retention.** A log that starts empty keeps the end of what is written to it. -/
theorem keeps_foldl (hempty : ¬ full []) (later : List α) :
    Keeps limit full later (later.foldl (·.add limit full ·) ({} : Generations α)) :=
  keeps_nil.foldl hempty later

omit [DecidablePred full] in
theorem Keeps.mem_written (h : Keeps limit full written log) {part : List α}
    (hpart : part ∈ log.newest :: log.older) {entry : α} (hentry : entry ∈ part) :
    entry ∈ written := by
  apply h.suffix.subset
  rcases List.mem_cons.mp hpart with rfl | hpart
  · exact List.mem_append_right _ hentry
  · exact List.mem_append_left _ (List.mem_flatten.mpr ⟨part, List.mem_reverse.mpr hpart, hentry⟩)

end Generations

end ContextSnap
