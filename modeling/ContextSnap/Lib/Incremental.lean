import Mathlib.Tactic

/-!
# Incremental decoding

A stream decoder looks at the front of what it has received so far and either takes an item off it,
asks for more, or gives up. If its answer, once it is not "more", never changes when further input
arrives, then it does not matter how the input was cut into chunks or when the reader was polled:
the items read are those of the whole input. `run_items` is that statement, and it is what a reader
over such a decoder inherits.
-/

namespace ContextSnap.Incremental

variable {β α ε : Type}

/-- A decoder whose answers are stable under further input. An answer `some (a, n)` is the item `a`,
taking the first `n` symbols. -/
structure Decoder (β α ε : Type) where
  decode : List β → Except ε (Option (α × Nat))
  take_pos : ∀ {input a n}, decode input = .ok (some (a, n)) → 0 < n
  take_le : ∀ {input a n}, decode input = .ok (some (a, n)) → n ≤ input.length
  stable_item : ∀ {input a n} more,
    decode input = .ok (some (a, n)) → decode (input ++ more) = .ok (some (a, n))
  stable_error : ∀ {input e} more, decode input = .error e → decode (input ++ more) = .error e

namespace Decoder

variable (decoder : Decoder β α ε)

/-- The items complete at the front of the input, and what is left after them. -/
def split (input : List β) : List α × List β :=
  match _h : decoder.decode input with
  | .ok (some (a, n)) =>
      let rest := split (input.drop n)
      (a :: rest.1, rest.2)
  | _ => ([], input)
termination_by input.length
decreasing_by
  have hpos := decoder.take_pos _h
  have hle := decoder.take_le _h
  simp only [List.length_drop]
  omega

theorem split_of_item {input : List β} {a : α} {n : Nat}
    (h : decoder.decode input = .ok (some (a, n))) :
    decoder.split input
      = (a :: (decoder.split (input.drop n)).1, (decoder.split (input.drop n)).2) := by
  rw [split]
  split
  · rename_i a' n' h'
    simp only [h, Except.ok.injEq, Option.some.injEq, Prod.mk.injEq] at h'
    obtain ⟨rfl, rfl⟩ := h'
    rfl
  · rename_i h'
    exact absurd h (h' a n)

theorem split_of_not_item {input : List β}
    (h : ∀ a n, decoder.decode input ≠ .ok (some (a, n))) : decoder.split input = ([], input) := by
  rw [split]
  split
  · rename_i a n h'
    exact absurd h' (h a n)
  · rfl

/-- What the front of an input leaves is split together with the rest of it. -/
theorem split_append (input more : List β) :
    decoder.split (input ++ more)
      = ((decoder.split input).1 ++ (decoder.split ((decoder.split input).2 ++ more)).1,
          (decoder.split ((decoder.split input).2 ++ more)).2) := by
  induction hlength : input.length using Nat.strong_induction_on generalizing input with
  | _ length ih =>
      by_cases hitem : ∃ a n, decoder.decode input = .ok (some (a, n))
      · obtain ⟨a, n, hdecode⟩ := hitem
        have hpos := decoder.take_pos hdecode
        have hle := decoder.take_le hdecode
        have hrest := ih (input.drop n).length (by rw [List.length_drop]; omega) _ rfl
        rw [decoder.split_of_item (decoder.stable_item more hdecode),
          List.drop_append_of_le_length hle, hrest, decoder.split_of_item hdecode]
        rfl
      · rw [decoder.split_of_not_item fun a n h => hitem ⟨a, n, h⟩]
        rfl

/-- What was left is not split further. -/
theorem split_remainder (input : List β) :
    decoder.split (decoder.split input).2 = ([], (decoder.split input).2) := by
  have h := decoder.split_append input []
  rw [List.append_nil, List.append_nil] at h
  obtain ⟨hitems, hrest⟩ := Prod.mk.inj h
  exact Prod.ext (List.self_eq_append_right.mp hitems) hrest.symm

/-- One poll of a reader: an item leaves the buffer, any other answer leaves it alone. -/
def next (buffer : List β) : Except ε (Option α) × List β :=
  match decoder.decode buffer with
  | .ok (some (a, n)) => (.ok (some a), buffer.drop n)
  | .ok none => (.ok none, buffer)
  | .error e => (.error e, buffer)

theorem next_of_item {buffer : List β} {a : α} {n : Nat}
    (h : decoder.decode buffer = .ok (some (a, n))) :
    decoder.next buffer = (.ok (some a), buffer.drop n) := by
  simp [next, h]

theorem next_of_more {buffer : List β} (h : decoder.decode buffer = .ok none) :
    decoder.next buffer = (.ok none, buffer) := by
  simp [next, h]

theorem next_of_error {buffer : List β} {e : ε} (h : decoder.decode buffer = .error e) :
    decoder.next buffer = (.error e, buffer) := by
  simp [next, h]

end Decoder

/-- What the owner of a reader does with it. -/
inductive Call (β : Type) where
  | feed (chunk : List β)
  | next

/-- The symbols a sequence of calls hands over. -/
def fed : List (Call β) → List β
  | [] => []
  | .feed chunk :: calls => chunk ++ fed calls
  | .next :: calls => fed calls

/-- The items among a sequence of answers. -/
def items (answers : List (Except ε (Option α))) : List α :=
  answers.filterMap fun
    | .ok found => found
    | .error _ => none

@[simp]
theorem items_append (left right : List (Except ε (Option α))) :
    items (left ++ right) = items left ++ items right := by
  simp [items]

section Run

variable (decoder : Decoder β α ε)

/-- The answers of the polls, in order, and the buffer at the end. -/
def run : List (Call β) → List β → List (Except ε (Option α)) × List β
  | [], buffer => ([], buffer)
  | .feed chunk :: calls, buffer => run calls (buffer ++ chunk)
  | .next :: calls, buffer =>
      let answer := decoder.next buffer
      let rest := run calls answer.2
      (answer.1 :: rest.1, rest.2)

theorem run_append (left right : List (Call β)) (buffer : List β) :
    run decoder (left ++ right) buffer
      = ((run decoder left buffer).1 ++ (run decoder right (run decoder left buffer).2).1,
          (run decoder right (run decoder left buffer).2).2) := by
  induction left generalizing buffer with
  | nil => rfl
  | cons call left ih =>
      cases call with
      | feed chunk => exact ih (buffer ++ chunk)
      | next => simp [run, ih]

/-- **Chunk invariance.** However the input was fed and polled, the items returned so far followed
by those still complete in the buffer are the items of the whole input, and the remainder of the
buffer is the remainder of the input. -/
theorem run_split (calls : List (Call β)) (buffer : List β) :
    items (run decoder calls buffer).1 ++ (decoder.split (run decoder calls buffer).2).1
        = (decoder.split (buffer ++ fed calls)).1
      ∧ (decoder.split (run decoder calls buffer).2).2
        = (decoder.split (buffer ++ fed calls)).2 := by
  induction calls generalizing buffer with
  | nil => simp [run, fed, items]
  | cons call calls ih =>
      cases call with
      | feed chunk => simpa [run, fed, List.append_assoc] using ih (buffer ++ chunk)
      | next =>
          cases hdecode : decoder.decode buffer with
          | error e =>
              simpa [run, fed, decoder.next_of_error hdecode, items] using ih buffer
          | ok found =>
              cases found with
              | none =>
                  simpa [run, fed, decoder.next_of_more hdecode, items] using ih buffer
              | some item =>
                  obtain ⟨a, n⟩ := item
                  have hle := decoder.take_le hdecode
                  have hwhole := decoder.split_of_item (decoder.stable_item (fed calls) hdecode)
                  rw [List.drop_append_of_le_length hle] at hwhole
                  have hrest := ih (buffer.drop n)
                  simp only [run, fed, decoder.next_of_item hdecode, hwhole, items, List.filterMap_cons] at hrest ⊢
                  exact ⟨by simpa using hrest.1, hrest.2⟩

/-- A reader that was polled until it had nothing complete left has returned exactly the items of
its input and holds exactly the remainder. -/
theorem run_items (calls : List (Call β)) (buffer : List β)
    (hdrained : ∀ a n, decoder.decode (run decoder calls buffer).2 ≠ .ok (some (a, n))) :
    items (run decoder calls buffer).1 = (decoder.split (buffer ++ fed calls)).1
      ∧ (run decoder calls buffer).2 = (decoder.split (buffer ++ fed calls)).2 := by
  have h := run_split decoder calls buffer
  rw [decoder.split_of_not_item hdrained] at h
  simpa using h

/-- Once the front of the buffer is beyond repair, every poll fails the same way and only feeding
changes the buffer. -/
theorem run_of_error {buffer : List β} {e : ε} (h : decoder.decode buffer = .error e)
    (calls : List (Call β)) :
    (∀ answer ∈ (run decoder calls buffer).1, answer = .error e)
      ∧ (run decoder calls buffer).2 = buffer ++ fed calls := by
  induction calls generalizing buffer with
  | nil => simp [run, fed]
  | cons call calls ih =>
      cases call with
      | feed chunk =>
          simpa [run, fed, List.append_assoc] using ih (decoder.stable_error chunk h)
      | next => simpa [run, fed, decoder.next_of_error h] using ih h

/-- The answers before the first failure are not failures, and from it on all are. Nothing failed
if the buffer at the end can still be polled. -/
theorem run_answers (calls : List (Call β)) (buffer : List β) :
    ∃ good bad, (run decoder calls buffer).1 = good ++ bad
      ∧ (∀ answer ∈ good, ∃ found, answer = .ok found)
      ∧ (∀ answer ∈ bad, ∃ e, answer = .error e)
      ∧ (bad = [] ∨ ∃ e, decoder.decode (run decoder calls buffer).2 = .error e) := by
  induction calls generalizing buffer with
  | nil => exact ⟨[], [], by simp [run]⟩
  | cons call calls ih =>
      cases call with
      | feed chunk => exact ih (buffer ++ chunk)
      | next =>
          cases hdecode : decoder.decode buffer with
          | error e =>
              obtain ⟨hall, hbuffer⟩ := run_of_error decoder hdecode (.next :: calls)
              refine ⟨[], (run decoder (.next :: calls) buffer).1, rfl, by simp,
                fun answer hmem => ⟨e, hall answer hmem⟩, .inr ⟨e, ?_⟩⟩
              rw [hbuffer]
              exact decoder.stable_error _ hdecode
          | ok found =>
              obtain ⟨good, bad, hrun, hgood, hbad, hend⟩ := ih (decoder.next buffer).2
              have hok : ∃ found, (decoder.next buffer).1 = .ok found := by
                cases found <;> simp [Decoder.next, hdecode]
              refine ⟨(decoder.next buffer).1 :: good, bad, by simp [run, hrun], ?_, hbad, hend⟩
              intro answer hmem
              rcases List.mem_cons.mp hmem with rfl | hmem
              · exact hok
              · exact hgood answer hmem

end Run

end ContextSnap.Incremental
