import ContextSnap.Core.Matching
import ContextSnap.Lib.Sweep

/-!
# Stable greedy assignment

The candidates stand in a strict order, by score and then by their places. The sweep over them with
two bitmaps keeps what does not share a window with anything kept before, so no pair of windows that
is good enough is left out unless one of the two has a partner that comes first.
-/

namespace ContextSnap.Matching

open Sweep

variable {L : Type} [LinearOrder L]

/-! ### The order of the candidates -/

/-- The order by score, best first, and then by places. -/
def Match.rank (m : Match L) : Lᵒᵈ ×ₗ ℕ ×ₗ ℕ :=
  toLex (OrderDual.toDual m.score, toLex (m.snapshotIndex, m.liveIndex))

theorem before_iff_rank (a b : Match L) : a.before b ↔ a.rank < b.rank := by
  unfold Match.before Match.rank
  rw [Prod.Lex.toLex_lt_toLex, Prod.Lex.toLex_lt_toLex]
  by_cases hscore : a.score = b.score
  · by_cases hsnapshot : a.snapshotIndex = b.snapshotIndex
    · simp [hscore, hsnapshot]
    · simp [hscore, hsnapshot]
  · have hdual : OrderDual.toDual a.score ≠ OrderDual.toDual b.score := by simpa using hscore
    simp [hscore]

omit [LinearOrder L] in
theorem rank_injective : Function.Injective (Match.rank (L := L)) := by
  intro a b h
  obtain ⟨i, j, value⟩ := a
  obtain ⟨i', j', value'⟩ := b
  obtain ⟨rfl, rfl, rfl⟩ : value = value' ∧ i = i' ∧ j = j' := by simpa [Match.rank] using h
  rfl

theorem not_before_iff (a b : Match L) : ¬b.before a ↔ a.rank ≤ b.rank := by
  rw [before_iff_rank, not_lt]

theorem pairwise_sorted (candidates : List (Match L)) :
    (candidates.insertionSort fun a b => ¬b.before a).Pairwise fun a b => ¬b.before a := by
  have : Std.Total fun a b : Match L => ¬b.before a :=
    ⟨fun a b => by simpa only [not_before_iff] using le_total a.rank b.rank⟩
  have : IsTrans (Match L) fun a b => ¬b.before a :=
    ⟨fun a b c hab hbc => by
      rw [not_before_iff] at hab hbc ⊢
      exact le_trans hab hbc⟩
  exact List.pairwise_insertionSort _ _

/-- Two candidates that cannot both be kept. -/
def Shares (a b : Match L) : Prop :=
  a.snapshotIndex = b.snapshotIndex ∨ a.liveIndex = b.liveIndex

instance : DecidableRel (Shares (L := L)) := fun a b =>
  inferInstanceAs (Decidable (a.snapshotIndex = b.snapshotIndex ∨ a.liveIndex = b.liveIndex))

/-! ### The bitmaps -/

/-- A bitmap shows which of the first `n` places are among `places`. -/
def Marks (taken : List Bool) (n : Nat) (places : List Nat) : Prop :=
  taken.length = n ∧ ∀ i < n, taken.getD i false = decide (i ∈ places)

theorem marks_replicate (n : Nat) : Marks (List.replicate n false) n [] := by
  refine ⟨List.length_replicate, ?_⟩
  intro i hi
  simp [List.getD_eq_getElem?_getD, hi]

theorem Marks.set {taken : List Bool} {n : Nat} {places : List Nat} (h : Marks taken n places)
    (k : Nat) : Marks (taken.set k true) n (places ++ [k]) := by
  obtain ⟨hlength, htaken⟩ := h
  refine ⟨by rw [List.length_set, hlength], ?_⟩
  intro i hi
  have hold := htaken i hi
  rw [List.getD_eq_getElem?_getD] at hold ⊢
  by_cases hik : k = i
  · subst hik
    simp [hlength, hi]
  · have hki : i ≠ k := fun h => hik h.symm
    rw [List.getElem?_set_ne hik, hold]
    simp [hki]

theorem untaken_of_marks {taken : List Bool} {n : Nat} {places : List Nat}
    (h : Marks taken n places) :
    untaken taken = (List.range n).filter fun i => decide (i ∉ places) := by
  rw [untaken, h.1]
  apply List.filter_congr
  intro i hi
  rw [h.2 i (List.mem_range.mp hi)]
  simp

omit [LinearOrder L] in
/-- The sweep with bitmaps is the sweep over clashes. -/
theorem foldl_consider {n m : Nat} (candidates : List (Match L))
    (hrange : ∀ c ∈ candidates, c.snapshotIndex < n ∧ c.liveIndex < m) :
    let assignment := candidates.foldl Assignment.consider
      { snapshotTaken := List.replicate n false, liveTaken := List.replicate m false }
    assignment.matched = sweep Shares candidates
      ∧ Marks assignment.snapshotTaken n ((sweep Shares candidates).map (·.snapshotIndex))
      ∧ Marks assignment.liveTaken m ((sweep Shares candidates).map (·.liveIndex)) := by
  induction candidates using List.reverseRecOn with
  | nil => exact ⟨rfl, marks_replicate n, marks_replicate m⟩
  | append_singleton front c ih =>
      obtain ⟨hmatched, hsnapshot, hlive⟩ := ih fun d hd => hrange d (List.mem_append_left _ hd)
      obtain ⟨hn, hm⟩ := hrange c (by simp)
      rw [List.foldl_append, sweep_concat, List.foldl_cons, List.foldl_nil]
      generalize front.foldl Assignment.consider _ = assignment at hmatched hsnapshot hlive ⊢
      have hclash : (assignment.snapshotTaken.getD c.snapshotIndex false
            || assignment.liveTaken.getD c.liveIndex false) = true
          ↔ ∃ k ∈ sweep Shares front, Shares k c := by
        rw [hsnapshot.2 _ hn, hlive.2 _ hm]
        simp [Shares, and_or_left, exists_or]
      rw [Assignment.consider, keep]
      by_cases h : ∃ k ∈ sweep Shares front, Shares k c
      · rw [if_pos h, if_pos (hclash.mpr h)]
        exact ⟨hmatched, hsnapshot, hlive⟩
      · rw [if_neg h, if_neg fun hbits => h (hclash.mp hbits), List.map_append, List.map_append]
        refine ⟨?_, hsnapshot.set _, hlive.set _⟩
        rw [hmatched]

/-! ### The assignment -/

section Windows

variable (score : WindowInfo → WindowInfo → L) (threshold : L) (saved live : List WindowInfo)

/-- The candidates are the pairs of windows that reach the threshold. -/
theorem mem_matchCandidates {c : Match L} :
    c ∈ matchCandidates score threshold saved live
      ↔ ∃ target candidate, saved[c.snapshotIndex]? = some target
        ∧ live[c.liveIndex]? = some candidate ∧ c.score = score target candidate
        ∧ threshold ≤ c.score := by
  simp only [matchCandidates, List.mem_flatMap, List.mem_filterMap, Prod.exists,
    List.mk_mem_zipIdx_iff_getElem?]
  constructor
  · rintro ⟨target, i, htarget, candidate, j, hcandidate, hc⟩
    by_cases hreaches : score target candidate ≥ threshold
    · rw [if_pos hreaches] at hc
      obtain rfl := Option.some.inj hc
      exact ⟨target, candidate, htarget, hcandidate, rfl, hreaches⟩
    · rw [if_neg hreaches] at hc
      cases hc
  · rintro ⟨target, candidate, htarget, hcandidate, hvalue, hreaches⟩
    rw [hvalue] at hreaches
    refine ⟨target, c.snapshotIndex, htarget, candidate, c.liveIndex, hcandidate, ?_⟩
    rw [if_pos hreaches, ← hvalue]

/-- What an assignment of windows is to be. -/
structure StableAssignment (result : MatchResult L) : Prop where
  snapshot_once : (result.matched.map (·.snapshotIndex)).Nodup
  live_once : (result.matched.map (·.liveIndex)).Nodup
  scored : ∀ m ∈ result.matched, ∃ target candidate, saved[m.snapshotIndex]? = some target
    ∧ live[m.liveIndex]? = some candidate ∧ m.score = score target candidate
    ∧ threshold ≤ m.score
  snapshot_rest : result.unmatchedSnapshot = (List.range saved.length).filter fun i =>
    decide (i ∉ result.matched.map (·.snapshotIndex))
  live_rest : result.unmatchedLive = (List.range live.length).filter fun j =>
    decide (j ∉ result.matched.map (·.liveIndex))
  stable : ∀ i j target candidate, saved[i]? = some target → live[j]? = some candidate →
    threshold ≤ score target candidate →
    (∀ m ∈ result.matched, ¬(m.snapshotIndex = i ∧ m.liveIndex = j)) →
    ∃ m ∈ result.matched, (m.snapshotIndex = i ∨ m.liveIndex = j)
      ∧ m.before { snapshotIndex := i, liveIndex := j, score := score target candidate }

/-- **Stable assignment.** -/
theorem stableAssignment_matchWindows :
    StableAssignment score threshold saved live (matchWindows score threshold saved live) := by
  let candidates := (matchCandidates score threshold saved live).insertionSort
    fun a b => ¬b.before a
  have hmem : ∀ c, c ∈ candidates ↔ c ∈ matchCandidates score threshold saved live :=
    fun c => List.mem_insertionSort _
  have hrange : ∀ c ∈ candidates, c.snapshotIndex < saved.length ∧ c.liveIndex < live.length := by
    intro c hc
    obtain ⟨target, candidate, htarget, hcandidate, -⟩ :=
      (mem_matchCandidates score threshold saved live).mp ((hmem c).mp hc)
    exact ⟨(List.getElem?_eq_some_iff.mp htarget).1, (List.getElem?_eq_some_iff.mp hcandidate).1⟩
  obtain ⟨hmatched, hsnapshot, hlive⟩ := foldl_consider candidates hrange
  have hkept : (matchWindows score threshold saved live).matched = sweep Shares candidates :=
    hmatched
  have hfree : (sweep Shares candidates).Pairwise fun a b => ¬Shares a b := pairwise_sweep
  constructor
  · rw [hkept, List.Nodup, List.pairwise_map]
    exact hfree.imp fun h heq => h (.inl heq)
  · rw [hkept, List.Nodup, List.pairwise_map]
    exact hfree.imp fun h heq => h (.inr heq)
  · intro m hm
    rw [hkept] at hm
    exact (mem_matchCandidates score threshold saved live).mp
      ((hmem m).mp (sweep_sublist.subset hm))
  · rw [hkept]
    exact untaken_of_marks hsnapshot
  · rw [hkept]
    exact untaken_of_marks hlive
  · intro i j target candidate htarget hcandidate hreaches hunmatched
    rw [hkept] at hunmatched ⊢
    let c : Match L := { snapshotIndex := i, liveIndex := j, score := score target candidate }
    have hc : c ∈ candidates := (hmem c).mpr
      ((mem_matchCandidates score threshold saved live).mpr
        ⟨target, candidate, htarget, hcandidate, rfl, hreaches⟩)
    have hpassed : c ∉ sweep Shares candidates := fun h => hunmatched c h ⟨rfl, rfl⟩
    obtain ⟨k, hk, hshares, hbefore⟩ :=
      exists_clash_of_not_mem_sweep (pairwise_sorted _) hc hpassed
    refine ⟨k, hk, hshares, ?_⟩
    rw [not_before_iff] at hbefore
    rw [before_iff_rank]
    apply lt_of_le_of_ne hbefore
    intro hrank
    have heq : k = c := rank_injective hrank
    exact hpassed (heq ▸ hk)

end Windows

end ContextSnap.Matching
