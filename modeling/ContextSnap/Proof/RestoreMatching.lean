import ContextSnap.Core.Restore
import ContextSnap.Lib.FloatOrder
import ContextSnap.Lib.Greedy
import ContextSnap.Lib.Int32Ops

/-!
# Correlating saved and live windows

The matcher of the restore engine is a stable choice in the order of its double scores, so planner
and executor, which give live windows away greedily, can be compared although they run over
different lists of windows.
-/

namespace ContextSnap.Matching

open FloatOrder

/-! ### The words of a title -/

theorem length_collapseSpaces_le (text : Bytes) : (collapseSpaces text).length ≤ text.length := by
  rw [collapseSpaces]
  suffices h : ∀ state : Bytes × Bool, state = text.foldl (fun (out, pendingSpace) c =>
      if c = 32 then (out, !out.isEmpty)
      else if pendingSpace then (out ++ [32, c], false)
      else (out ++ [c], false)) ([], false) →
      state.1.length + state.2.toNat ≤ text.length from
    (Nat.le_add_right _ _).trans (h _ rfl)
  induction text using List.reverseRecOn with
  | nil =>
      rintro state rfl
      exact le_rfl
  | append_singleton text c ih =>
      rintro state rfl
      have hfront := ih _ rfl
      rw [List.foldl_concat, List.length_append, List.length_singleton]
      generalize text.foldl _ _ = front at hfront ⊢
      obtain ⟨out, pending⟩ := front
      have hbit := Bool.toNat_le (!out.isEmpty)
      cases pending <;> simp only at hfront ⊢ <;> split <;>
        simp_all <;> omega

/-- A split that adds no more than a byte or a token at a time. -/
theorem length_foldl_split_le {split : List Bytes × Bytes → UInt8 → List Bytes × Bytes}
    (h : ∀ state c, (split state c).1.length + (split state c).2.length
      ≤ state.1.length + state.2.length + 1)
    (text : Bytes) (state : List Bytes × Bytes) :
    (text.foldl split state).1.length + (text.foldl split state).2.length
      ≤ state.1.length + state.2.length + text.length := by
  induction text generalizing state with
  | nil => exact le_rfl
  | cons c text ih =>
      have hfirst := h state c
      have hrest := ih (split state c)
      rw [List.foldl_cons, List.length_cons]
      omega

theorem length_tokenize_le (text : Bytes) : (tokenize text).length ≤ text.length := by
  rw [tokenize]
  generalize hsplit : text.foldl _ _ = state
  have hstate : state.1.length + state.2.length ≤ text.length := by
    rw [← hsplit]
    refine (length_foldl_split_le (fun state c => ?_) text _).trans (by simp)
    obtain ⟨tokens, current⟩ := state
    by_cases hblank : c = 32
    · cases current <;> simp [hblank]
    · simp [hblank]
      omega
  obtain ⟨tokens, current⟩ := state
  cases current <;> simp at hstate ⊢ <;> omega

theorem length_replaceMarker_le (marker : Bytes) (skip : ℕ) (text : Bytes) :
    (replaceMarker marker skip text).length ≤ text.length := by
  induction text generalizing skip with
  | nil => cases skip <;> exact le_rfl
  | cons c rest ih =>
      cases skip with
      | succ skip => exact (ih skip).trans (Nat.le_succ _)
      | zero =>
          rw [replaceMarker]
          split
          · exact Nat.succ_le_succ (ih _)
          · exact Nat.succ_le_succ (ih _)

theorem length_normalizeTitle_le (raw : Bytes) : (normalizeTitle raw).length ≤ raw.length := by
  have hmarkers : ∀ (markers : List Bytes) (text : Bytes),
      (markers.foldl (fun value marker => replaceMarker marker 0 value) text).length
        ≤ text.length := by
    intro markers
    induction markers with
    | nil => exact fun _ => le_rfl
    | cons marker markers ih => exact fun text => (ih _).trans (length_replaceMarker_le ..)
  have hcounter : ∀ text, (dropCounter text).length ≤ text.length := by
    intro text
    unfold dropCounter
    split
    · split
      · split
        · rw [List.length_drop]
          exact Nat.sub_le ..
        · exact le_rfl
      · exact le_rfl
    · exact le_rfl
  calc
    (normalizeTitle raw).length ≤ _ := length_collapseSpaces_le _
    _ = _ := List.length_map ..
    _ ≤ _ := List.length_filter_le ..
    _ ≤ _ := hcounter _
    _ ≤ (lower raw).length := hmarkers ..
    _ = raw.length := List.length_map ..

theorem titleSimilarity_self {title : Bytes} (h : title.length < 2 ^ 64) :
    titleSimilarity title title = 1.0 := by
  have hwords : (tokenize (normalizeTitle title)).dedup.length < 2 ^ 64 :=
    calc
      (tokenize (normalizeTitle title)).dedup.length ≤ (tokenize (normalizeTitle title)).length :=
        (List.dedup_sublist _).length_le
      _ ≤ (normalizeTitle title).length := length_tokenize_le _
      _ ≤ title.length := length_normalizeTitle_le _
      _ < 2 ^ 64 := h
  unfold titleSimilarity
  generalize (tokenize (normalizeTitle title)).dedup = words at hwords
  have hall : words.filter (· ∈ words) = words :=
    List.filter_eq_self.mpr fun _ h => decide_eq_true h
  by_cases hnone : words = []
  · simp [hnone]
  · obtain ⟨f, hf⟩ := isNormal_ofNat (mt List.length_eq_zero_iff.mp hnone) hwords
    simp only [hnone, and_self, or_self, if_false, hall, Nat.add_sub_cancel, hf.div_self]
    rw [stringSimilarity, if_pos rfl]
    rfl

/-! ### The frames of two windows -/

theorem toInt_add_le (start : Int32) {size : Int32} (hsize : 0 ≤ size.toInt) :
    (start + size).toInt ≤ start.toInt + size.toInt := by
  have hlow := start.le_toInt
  have hhigh := size.toInt_lt
  have hstart := start.toInt_lt
  rw [Int32.toInt_add]
  rw [Int.bmod_def]
  norm_num at *
  omega

/-- What two edges leave between them is no larger than what they belong to, also when an edge
overflows. -/
theorem toInt_edges {start size low high : Int32} (hsize : 0 ≤ size.toInt)
    (hlow : start.toInt ≤ low.toInt) (hhigh : high.toInt ≤ (start + size).toInt)
    (hlt : low < high) : 0 ≤ (high - low).toInt := by
  have hle := toInt_add_le start hsize
  have hlt := Int32.lt_iff_toInt_lt.mp hlt
  have hsmall := size.toInt_lt
  have hrange : (Int32Op.sub high low).InRange := by
    simp only [Int32Op.InRange, Int32Op.exact]
    omega
  have hvalue : (high - low).toInt = high.toInt - low.toInt := Int32Op.toInt_value hrange
  omega

theorem toInt_area_nonneg {width height : Int32} (hwidth : 0 ≤ width.toInt)
    (hheight : 0 ≤ height.toInt) :
    0 ≤ (width.toInt64 * height.toInt64).toInt
      ∧ (width.toInt64 * height.toInt64).toInt < 2 ^ 62 := by
  rw [toInt_mul_toInt64]
  have hw := width.toInt_lt
  have hh := height.toInt_lt
  constructor
  · positivity
  · nlinarith

theorem size_nonneg {rect : Rect} (h : rect.empty = false) :
    0 ≤ rect.width.toInt ∧ 0 ≤ rect.height.toInt := by
  simp only [Rect.empty, Bool.or_eq_false_iff, decide_eq_false_iff_not, Int32.not_le,
    Int32.lt_iff_toInt_lt] at h
  exact ⟨h.1.le, h.2.le⟩

theorem intersectionArea_nonneg {a : Rect} (ha : a.empty = false) (b : Rect) :
    0 ≤ (intersectionArea a b).toInt := by
  rw [intersectionArea, intersection]
  split
  · decide
  · rename_i hsome
    rw [not_or, Int32.not_le, Int32.not_le] at hsome
    obtain ⟨hwidth, hheight⟩ := size_nonneg ha
    refine (toInt_area_nonneg ?_ ?_).1
    · refine @toInt_edges a.x a.width _ _ hwidth ?_ ?_ hsome.1
      · rw [toInt_max]; exact le_max_left _ _
      · rw [toInt_min]; exact min_le_left _ _
    · refine @toInt_edges a.y a.height _ _ hheight ?_ ?_ hsome.2
      · rw [toInt_max]; exact le_max_left _ _
      · rw [toInt_min]; exact min_le_left _ _

theorem isFinite_ofInt64 {i : Int64} (h : 0 ≤ i.toInt) : IsFinite (ofInt64 i) := by
  obtain ⟨n, hn⟩ := Int.eq_ofNat_of_zero_le h
  have hsmall := i.toInt_lt
  rw [ofInt64, hn]
  change IsFinite (Float.ofNat n)
  by_cases hzero : n = 0
  · rw [hzero]
    exact isFinite_zero
  · obtain ⟨f, hf⟩ := isNormal_ofNat hzero (by omega)
    exact hf.finite


theorem nonneg_stdMax (x : Float) : IsNonneg (geometryProximity.stdMax 0.0 x) := by
  unfold geometryProximity.stdMax
  split
  · rename_i hpos
    exact nonneg_of_pos hpos
  · exact isFinite_zero.nonneg

theorem isNormal_weights : IsNormal (-53) 0.6 ∧ IsNormal (-54) 0.4 ∧ IsNormal (-54) 0.3 :=
  ⟨⟨_, _, rfl, by decide⟩, ⟨_, _, rfl, by decide⟩, ⟨_, _, rfl, by decide⟩⟩

theorem geometryProximity_nonneg (a b : Rect) : IsNonneg (geometryProximity a b) := by
  unfold geometryProximity
  split
  · exact isFinite_zero.nonneg
  · rename_i hempty
    simp only [Bool.or_eq_true, not_or, Bool.not_eq_true] at hempty
    have harea : ∀ rect : Rect, rect.empty = false →
        0 ≤ rect.area.toInt ∧ rect.area.toInt < 2 ^ 62 :=
      fun rect h => toInt_area_nonneg (size_nonneg h).1 (size_nonneg h).2
    have hsum : (a.area + b.area).toInt = a.area.toInt + b.area.toInt := by
      obtain ⟨ha, ha'⟩ := harea a hempty.1
      obtain ⟨hb, hb'⟩ := harea b hempty.2
      rw [Int64.toInt_add]
      exact Int.bmod_eq_of_le (by norm_num at *; omega) (by norm_num at *; omega)
    have hoverlap := isFinite_ofInt64 (intersectionArea_nonneg hempty.1 b)
    have htotal : IsFinite (ofInt64 (a.area + b.area)) := isFinite_ofInt64 (by
      rw [hsum]
      exact Int.add_nonneg (harea a hempty.1).1 (harea b hempty.2).1)
    dsimp only
    split
    · exact isFinite_zero.nonneg
    · rename_i hpositive
      have hunion := pos_of_not_le (isNumber_sub htotal hoverlap) hpositive
      refine IsNonneg.add (isNormal_weights.1.mul_nonneg (hoverlap.div_nonneg hunion))
        (isNormal_weights.2.1.mul_nonneg ?_)
      split
      · exact nonneg_stdMax _
      · exact isFinite_zero.nonneg

end ContextSnap.Matching

namespace ContextSnap.Restore

open FloatOrder Greedy
open Matching (normalizeAppId)

def sameApp (saved candidate : WindowInfo) : Bool :=
  normalizeAppId candidate.process.appId = normalizeAppId saved.process.appId

def scoreRank (saved candidate : WindowInfo) : WithBot Magnitude :=
  rank (matchScore saved candidate)

theorem isNumber_zero : IsNumber 0.0 := isNumber_iff.mpr (by decide)

theorem isNumber_threshold : IsNumber 0.35 := isNumber_iff.mpr (by decide)

theorem isNumber_of_lt {x y : Float} (hx : IsNumber x) (h : x < y) : IsNumber y :=
  (lt_of_le_of_lt bot_le ((lt_iff hx).mp h)).ne'

/-- The scan over doubles is the scan over ranks. -/
theorem foldl_considerCandidate (saved : WindowInfo) (used : List UInt64) (live : List WindowInfo)
    (best : Option WindowInfo × Float) (hbest : IsNumber best.2) :
    IsNumber (live.foldl (considerCandidate saved used) best).2
      ∧ ((live.foldl (considerCandidate saved used) best).1,
          rank (live.foldl (considerCandidate saved used) best).2)
        = ((live.filter (sameApp saved)).filter fun c => decide (c.nativeHandle ∉ used)).foldl
            (challenge (scoreRank saved)) (best.1, rank best.2) := by
  induction live generalizing best with
  | nil => exact ⟨hbest, rfl⟩
  | cons c live ih =>
      rw [List.foldl_cons, List.filter_cons]
      by_cases hused : c.nativeHandle ∈ used
      · have hstep : considerCandidate saved used best c = best := by
          simp [considerCandidate, hused]
        rw [hstep]
        by_cases happ : sameApp saved c = true
        · simpa [happ, hused] using ih best hbest
        · simpa [happ] using ih best hbest
      · by_cases happ : sameApp saved c = true
        · have hkept : decide (c.nativeHandle ∉ used) = true := by simpa using hused
          rw [if_pos happ, List.filter_cons, if_pos hkept, List.foldl_cons, challenge]
          by_cases hlt : best.2 < matchScore saved c
          · have hstep : considerCandidate saved used best c = (some c, matchScore saved c) := by
              simp only [sameApp, decide_eq_true_eq] at happ
              simp [considerCandidate, hused, happ, hlt]
            have hrank : rank best.2 < scoreRank saved c := (lt_iff hbest).mp hlt
            rw [hstep, if_pos hrank]
            exact ih _ (isNumber_of_lt hbest hlt)
          · have hstep : considerCandidate saved used best c = best := by
              simp [considerCandidate, hused, hlt]
            have hrank : ¬ rank best.2 < scoreRank saved c := fun h => hlt ((lt_iff hbest).mpr h)
            rw [hstep, if_neg hrank]
            exact ih best hbest
        · have hstep : considerCandidate saved used best c = best := by
            simp only [sameApp, decide_eq_true_eq] at happ
            simp [considerCandidate, hused, happ]
          rw [hstep, if_neg happ]
          exact ih best hbest

theorem bestLiveMatch_eq (saved : WindowInfo) (live : List WindowInfo) (used : List UInt64) :
    bestLiveMatch saved live used
      = choose (scoreRank saved) (rank 0.0) (rank 0.35)
          ((live.filter (sameApp saved)).filter fun c => decide (c.nativeHandle ∉ used)) := by
  obtain ⟨hnumber, hscan⟩ := foldl_considerCandidate saved used live (none, 0.0) isNumber_zero
  rw [choose, champion, ← hscan, bestLiveMatch]
  exact if_congr (le_iff isNumber_threshold hnumber) rfl rfl

/-- **The matcher is a stable choice.** -/
theorem stable_bestLiveMatch (live : List WindowInfo) :
    Stable (·.nativeHandle) fun saved used => bestLiveMatch saved live used := by
  have h := stable_choose (·.nativeHandle) scoreRank (rank 0.0) (rank 0.35) sameApp live
  simpa only [bestLiveMatch_eq] using h

/-! ### Planner and executor -/

section Used

variable (capabilities : Hal.Capabilities) (options : RestoreOptions) (live : List WindowInfo)

/-- The live windows that are given away to `windows`, one after another. -/
def taken (windows : List WindowInfo) (used : List UInt64) : List UInt64 :=
  takeAll (·.nativeHandle) (fun saved used => bestLiveMatch saved live used) windows used

theorem planWindows_used (windows : List WindowInfo) (planner : Planner) :
    (windows.foldl (planWindow capabilities options live) planner).used
      = taken live (windows.filter (selectorMatches · options.selectors)) planner.used := by
  induction windows generalizing planner with
  | nil => rfl
  | cons window windows ih =>
      rw [List.foldl_cons, ih, List.filter_cons]
      by_cases h : selectorMatches window options.selectors = true
      · rw [if_pos h, planWindow, if_pos h]
        rfl
      · rw [if_neg h, planWindow, if_neg h]

theorem prematch_used (windows : List WindowInfo) (state : Handles × List UInt64) :
    (windows.foldl (prematchWindow live) state).2 = taken live windows state.2 := by
  induction windows generalizing state with
  | nil => rfl
  | cons window windows ih =>
      rw [List.foldl_cons, ih, prematchWindow, taken, taken, takeAll_cons, take]
      cases bestLiveMatch window live state.2 with
      | none => simp
      | some found => rfl

end Used

/-- A window of the same app with the same title is recognized wherever it is. -/
theorem threshold_le_matchScore {saved candidate : WindowInfo}
    (htitle : candidate.title = saved.title) (hlength : saved.title.length < 2 ^ 64) :
    rank 0.35 ≤ scoreRank saved candidate := by
  rw [scoreRank, matchScore, htitle, Matching.titleSimilarity_self hlength]
  have hnormal : IsNormal (-53) (0.7 * 1.0) := ⟨_, _, rfl, by decide⟩
  refine le_trans ?_ (hnormal.rank_add (by norm_num)
    (Matching.isNormal_weights.2.2.mul_nonneg (Matching.geometryProximity_nonneg _ _)))
  have hthreshold : rank 0.35 = (magnitude 1 (-54) 6305039478318694 : Magnitude) := rfl
  rw [hthreshold]
  exact (WithBot.coe_lt_coe.mpr (magnitude_lt.mpr (.inr ⟨rfl, .inl (by norm_num)⟩))).le

end ContextSnap.Restore
