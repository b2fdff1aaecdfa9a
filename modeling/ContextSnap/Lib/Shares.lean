import Mathlib.Tactic

/-!
# Shares

What the members of a group have together, and how it changes with the share of one of them.
-/

namespace ContextSnap

variable {ι α : Type} [DecidableEq ι] {members : List ι} {k : ι} (share : ι → List α)

/-- One member's share, and those of the others. -/
theorem flatMap_perm_erase (hk : k ∈ members) :
    (members.flatMap share).Perm (share k ++ (members.erase k).flatMap share) := by
  rw [← List.flatMap_cons]
  exact (List.perm_cons_erase hk).flatMap_right share

theorem flatMap_erase_update (hnodup : members.Nodup) (value : List α) :
    (members.erase k).flatMap (Function.update share k value)
      = (members.erase k).flatMap share := by
  apply List.flatMap_congr
  intro i hi
  have hne : i ≠ k := fun heq => hnodup.not_mem_erase (heq ▸ hi)
  exact Function.update_of_ne hne value share

theorem flatMap_update_perm (hnodup : members.Nodup) (hk : k ∈ members) (value : List α) :
    (members.flatMap (Function.update share k value)).Perm
      (value ++ (members.erase k).flatMap share) := by
  have h := flatMap_perm_erase (Function.update share k value) hk
  rwa [Function.update_self, flatMap_erase_update share hnodup] at h

theorem mem_flatMap_erase (hnodup : members.Nodup) {x : α} :
    x ∈ (members.erase k).flatMap share ↔ ∃ i ∈ members, i ≠ k ∧ x ∈ share i := by
  simp only [List.mem_flatMap, hnodup.mem_erase_iff]
  constructor
  · rintro ⟨i, ⟨hne, hi⟩, hx⟩
    exact ⟨i, hi, hne, hx⟩
  · rintro ⟨i, hi, hne, hx⟩
    exact ⟨i, ⟨hne, hi⟩, hx⟩

/-- A filter takes exactly one of two parts away. -/
theorem filter_append_perm_iff {p : α → Bool} {whole own others : List α}
    (h : whole.Perm (own ++ others)) (new : List α) :
    (whole.filter p ++ new).Perm (new ++ others)
      ↔ (∀ x ∈ own, p x = false) ∧ ∀ x ∈ others, p x = true := by
  have hfilter : (whole.filter p).Perm (own.filter p ++ others.filter p) := by
    rw [← List.filter_append]
    exact h.filter p
  constructor
  · intro hperm
    have hrest : (whole.filter p).Perm others :=
      (List.perm_append_left_iff new).mp (List.perm_append_comm.trans hperm)
    have hothers : ∀ x ∈ others, p x = true :=
      fun x hx => (List.mem_filter.mp (hrest.mem_iff.mpr hx)).2
    have hlength := (hfilter.symm.trans hrest).length_eq
    rw [List.length_append, List.filter_eq_self.mpr hothers] at hlength
    have hnone : own.filter p = [] := List.length_eq_zero_iff.mp (by omega)
    exact ⟨fun x hx => Bool.eq_false_iff.mpr (List.filter_eq_nil_iff.mp hnone x hx), hothers⟩
  · rintro ⟨hown, hothers⟩
    have hnone : own.filter p = [] :=
      List.filter_eq_nil_iff.mpr fun x hx => Bool.eq_false_iff.mp (hown x hx)
    rw [hnone, List.filter_eq_self.mpr hothers, List.nil_append] at hfilter
    exact (hfilter.append_right new).trans List.perm_append_comm

/-- What goes in and comes out of a whole, where one part of it changes. -/
theorem append_perm_append_iff {whole gone own others : List α}
    (h : whole.Perm (gone ++ (own ++ others))) (came went own' : List α) :
    (whole ++ came).Perm ((gone ++ went) ++ (own' ++ others))
      ↔ (own ++ came).Perm (went ++ own') := by
  classical
  simp only [List.perm_iff_count, List.count_append] at h ⊢
  constructor
  · intro hall x
    have hbefore := h x
    have hafter := hall x
    omega
  · intro hpart x
    have hbefore := h x
    have hafter := hpart x
    omega

end ContextSnap
