import Mathlib.Tactic

/-!
# Pieces of a list

What stands between the occurrences of a delimiter. As `std::getline` has it, a delimiter at the end
closes the last piece and opens no further one.
-/

namespace ContextSnap

variable {α : Type} [DecidableEq α] {delimiter : α}

def pieces (delimiter : α) : List α → List (List α)
  | [] => []
  | c :: rest =>
      if c = delimiter then [] :: pieces delimiter rest
      else
        match pieces delimiter rest with
        | [] => [[c]]
        | piece :: later => (c :: piece) :: later

theorem pieces_cons_of_ne {c : α} (h : c ≠ delimiter) {rest piece : List α}
    {later : List (List α)} (hrest : pieces delimiter rest = piece :: later) :
    pieces delimiter (c :: rest) = (c :: piece) :: later := by
  rw [pieces, if_neg h, hrest]

/-- The front up to a delimiter is the first piece. -/
theorem pieces_append_cons {piece : List α} (h : delimiter ∉ piece) (rest : List α) :
    pieces delimiter (piece ++ delimiter :: rest) = piece :: pieces delimiter rest := by
  induction piece with
  | nil => rw [List.nil_append, pieces, if_pos rfl]
  | cons c piece ih =>
      rw [List.mem_cons, not_or] at h
      obtain ⟨hc, hpiece⟩ := h
      exact pieces_cons_of_ne (Ne.symm hc) (ih hpiece)

theorem pieces_of_not_mem {piece : List α} (hne : piece ≠ []) (h : delimiter ∉ piece) :
    pieces delimiter piece = [piece] := by
  induction piece with
  | nil => exact absurd rfl hne
  | cons c piece ih =>
      rw [List.mem_cons, not_or] at h
      obtain ⟨hc, hpiece⟩ := h
      cases piece with
      | nil => rw [pieces, if_neg (Ne.symm hc), pieces]
      | cons c' piece => exact pieces_cons_of_ne (Ne.symm hc) (ih (List.cons_ne_nil _ _) hpiece)

theorem pieces_append (left right : List α) :
    pieces delimiter (left ++ delimiter :: right)
      = pieces delimiter (left ++ [delimiter]) ++ pieces delimiter right := by
  induction left with
  | nil => simp [pieces]
  | cons c left ih =>
      rw [List.cons_append, List.cons_append, pieces, pieces, ih]
      by_cases hc : c = delimiter
      · rw [if_pos hc, if_pos hc, List.cons_append]
      · rw [if_neg hc, if_neg hc]
        have hne : pieces delimiter (left ++ [delimiter]) ≠ [] := by
          cases left with
          | nil => simp [pieces]
          | cons c' left =>
              rw [List.cons_append, pieces]
              split_ifs
              · exact List.cons_ne_nil _ _
              · split <;> exact List.cons_ne_nil _ _
        obtain ⟨piece, later, hpieces⟩ := List.exists_cons_of_ne_nil hne
        rw [hpieces]
        rfl

/-- Lines that are closed one by one are cut one by one. -/
theorem pieces_flatMap (lines : List (List α)) :
    pieces delimiter (lines.flatMap (· ++ [delimiter]))
      = lines.flatMap fun line => pieces delimiter (line ++ [delimiter]) := by
  induction lines with
  | nil => rfl
  | cons line lines ih =>
      rw [List.flatMap_cons, List.flatMap_cons, List.append_assoc, List.singleton_append,
        pieces_append, ih]

theorem pieces_flatMap_of_not_mem {lines : List (List α)} (h : ∀ line ∈ lines, delimiter ∉ line) :
    pieces delimiter (lines.flatMap (· ++ [delimiter])) = lines := by
  induction lines with
  | nil => rfl
  | cons line lines ih =>
      rw [List.forall_mem_cons] at h
      rw [List.flatMap_cons, List.append_assoc, List.singleton_append, pieces_append_cons h.1,
        ih h.2]

/-- The first piece begins as the text does. -/
theorem exists_pieces_append {front : List α} (hne : front ≠ []) (h : delimiter ∉ front)
    (rest : List α) :
    ∃ piece later, pieces delimiter (front ++ rest) = (front ++ piece) :: later := by
  induction front with
  | nil => exact absurd rfl hne
  | cons c front ih =>
      rw [List.mem_cons, not_or] at h
      obtain ⟨hc, hfront⟩ := h
      by_cases hlast : front = []
      · subst hlast
        cases hrest : pieces delimiter rest with
        | nil => exact ⟨[], [], by simp [pieces, Ne.symm hc, hrest]⟩
        | cons piece later => exact ⟨piece, later, pieces_cons_of_ne (Ne.symm hc) hrest⟩
      · obtain ⟨piece, later, hpieces⟩ := ih hlast hfront
        exact ⟨piece, later, pieces_cons_of_ne (Ne.symm hc) hpieces⟩

theorem not_mem_of_mem_pieces {text piece : List α} (h : piece ∈ pieces delimiter text) :
    delimiter ∉ piece := by
  induction text generalizing piece with
  | nil => exact absurd h (List.not_mem_nil)
  | cons c text ih =>
      rw [pieces] at h
      by_cases hc : c = delimiter
      · rw [if_pos hc] at h
        obtain rfl | h := List.mem_cons.mp h
        · exact List.not_mem_nil
        · exact ih h
      · rw [if_neg hc] at h
        cases hrest : pieces delimiter text with
        | nil =>
            rw [hrest] at h
            rw [List.mem_singleton.mp h]
            simpa using Ne.symm hc
        | cons first later =>
            rw [hrest] at h
            obtain rfl | h := List.mem_cons.mp h
            · have hfirst := ih (hrest ▸ List.mem_cons_self)
              rw [List.mem_cons, not_or]
              exact ⟨Ne.symm hc, hfirst⟩
            · exact ih (hrest ▸ List.mem_cons_of_mem _ h)

theorem mem_of_mem_pieces {text piece : List α} (h : piece ∈ pieces delimiter text) {c : α}
    (hc : c ∈ piece) : c ∈ text := by
  induction text generalizing piece with
  | nil => exact absurd h List.not_mem_nil
  | cons first text ih =>
      rw [pieces] at h
      split_ifs at h with hfirst
      · obtain rfl | h := List.mem_cons.mp h
        · exact absurd hc List.not_mem_nil
        · exact List.mem_cons_of_mem _ (ih h hc)
      · cases hrest : pieces delimiter text with
        | nil =>
            rw [hrest] at h
            rw [List.mem_singleton.mp h] at hc
            exact List.mem_cons.mpr (.inl (List.mem_singleton.mp hc))
        | cons next later =>
            rw [hrest] at h ih
            obtain rfl | h := List.mem_cons.mp h
            · obtain rfl | hc := List.mem_cons.mp hc
              · exact List.mem_cons_self
              · exact List.mem_cons_of_mem _ (ih List.mem_cons_self hc)
            · exact List.mem_cons_of_mem _ (ih (List.mem_cons_of_mem _ h) hc)

end ContextSnap
