import ContextSnap.Core.Matching
import ContextSnap.Lib.Alignment

/-!
# Edit distance

The two rolling rows of `string_similarity` are rows of the table of the alignment distance. From
its symmetry and its bounds follow those of the similarity, once doubles are taken for the numbers
they stand for.
-/

namespace ContextSnap.Matching

/-- A byte of a text by its place. -/
def byteAt (text : Bytes) (i : ℕ) : Option UInt8 := text[i]?

/-- The optimal string alignment distance of two texts. -/
def alignmentDistance (a b : Bytes) : ℕ :=
  Alignment.distance (byteAt a) (byteAt b) a.length b.length

section Rows

variable {a b : Bytes}

/-- One row of the source is the next row of the table. -/
theorem distanceRow_row {i : ℕ} {before : List ℕ}
    (hbefore : 1 ≤ i → before = Alignment.row (byteAt a) (byteAt b) (b.length + 1) (i - 1)) :
    distanceRow a b (i + 1) (Alignment.row (byteAt a) (byteAt b) (b.length + 1) i) before
      = Alignment.row (byteAt a) (byteAt b) (b.length + 1) (i + 1) := by
  refine Alignment.foldl_cells fun j hj => ?_
  have hleft := Alignment.getD_row (a := byteAt a) (b := byteAt b) (i := i + 1) (Nat.lt_succ_self j)
  have habove := Alignment.getD_row (a := byteAt a) (b := byteAt b) (i := i)
    (Nat.succ_lt_succ hj)
  have hdiagonal := Alignment.getD_row (a := byteAt a) (b := byteAt b) (i := i)
    (hj.trans (Nat.lt_succ_self b.length))
  have hswapped : 1 ≤ i → before.getD (j - 1) 0
      = Alignment.distance (byteAt a) (byteAt b) (i - 1) (j - 1) := by
    intro hi
    rw [hbefore hi]
    exact Alignment.getD_row (by omega)
  rw [Alignment.distance]
  simp only [Nat.add_sub_cancel, hleft, habove, hdiagonal]
  by_cases hi : 1 ≤ i
  · simp only [show j + 1 - 2 = j - 1 by omega, show i + 1 - 2 = i - 1 by omega, hswapped hi,
      show 1 < i + 1 ↔ 1 ≤ i by omega, show 1 < j + 1 ↔ 1 ≤ j by omega]
    rfl
  · simp only [show ¬1 < i + 1 by omega, hi, false_and, if_false]
    rfl

/-- **The rolling rows** end with the distance of the whole texts. -/
theorem editDistance_eq_alignmentDistance (a b : Bytes) :
    editDistance a b = alignmentDistance a b := by
  have hnext : ∀ i before,
      (1 ≤ i → before = Alignment.row (byteAt a) (byteAt b) (b.length + 1) (i - 1)) →
        distanceRow a b (i + 1) (Alignment.row (byteAt a) (byteAt b) (b.length + 1) i) before
          = Alignment.row (byteAt a) (byteAt b) (b.length + 1) (i + 1) :=
    fun i before hbefore => distanceRow_row hbefore
  have hrows := @Alignment.foldl_rows _ _ _ _ (fun i => distanceRow a b (i + 1)) _ hnext
    (List.replicate (b.length + 1) 0) a.length
  rw [Alignment.row_zero] at hrows
  calc editDistance a b
      = (Alignment.row (byteAt a) (byteAt b) (b.length + 1) a.length).getD b.length 0 := by
        rw [← hrows.1]
        rfl
    _ = alignmentDistance a b := Alignment.getD_row (Nat.lt_succ_self b.length)

end Rows

/-! ### The distance of texts -/

section Distance

variable (a b : Bytes)

theorem alignmentDistance_comm : alignmentDistance a b = alignmentDistance b a :=
  Alignment.distance_comm _ _

theorem alignmentDistance_le : alignmentDistance a b ≤ max a.length b.length :=
  Alignment.distance_le_max _ _

theorem alignmentDistance_eq_zero_iff : alignmentDistance a b = 0 ↔ a = b := by
  rw [alignmentDistance, Alignment.distance_eq_zero_iff]
  constructor
  · rintro ⟨hlength, hbytes⟩
    refine List.ext_getElem? fun i => ?_
    by_cases hi : i < a.length
    · exact hbytes i hi
    · rw [List.getElem?_eq_none (not_lt.mp hi), List.getElem?_eq_none (hlength ▸ not_lt.mp hi)]
  · rintro rfl
    exact ⟨rfl, fun _ _ => rfl⟩

end Distance

/-! ### The similarity -/

/-- `string_similarity` with the numbers of `R` in place of doubles. -/
def similarityIn {R : Type} [OfScientific R] [Sub R] [Div R] (ofNat : ℕ → R) (a b : Bytes) : R :=
  if a = b then 1.0
  else if a = [] ∨ b = [] then 0.0
  else 1.0 - ofNat (editDistance a b) / ofNat (max a.length b.length)

theorem stringSimilarity_eq : stringSimilarity = similarityIn Float.ofNat := rfl

/-- The similarity in exact arithmetic. -/
def exactSimilarity (a b : Bytes) : ℚ := similarityIn Nat.cast a b

section Similarity

variable {a b : Bytes}

/-- The part of the longer text that is to be edited. -/
def editedShare (a b : Bytes) : ℚ := (alignmentDistance a b : ℚ) / (max a.length b.length : ℕ)

theorem exactSimilarity_of_nonempty (ha : a ≠ []) (hb : b ≠ []) :
    exactSimilarity a b = 1 - editedShare a b := by
  rw [exactSimilarity, similarityIn, editDistance_eq_alignmentDistance, editedShare]
  split
  · next hsame =>
      rw [(alignmentDistance_eq_zero_iff a b).mpr hsame]
      norm_num
  · rw [if_neg (by simp [ha, hb])]
    norm_num

theorem exactSimilarity_self (a : Bytes) : exactSimilarity a a = 1 := by
  rw [exactSimilarity, similarityIn, if_pos rfl]
  norm_num

theorem exactSimilarity_of_empty (hne : a ≠ b) (hempty : a = [] ∨ b = []) :
    exactSimilarity a b = 0 := by
  rw [exactSimilarity, similarityIn, if_neg hne, if_pos hempty]
  norm_num

theorem editedShare_comm : editedShare a b = editedShare b a := by
  rw [editedShare, editedShare, alignmentDistance_comm, max_comm]

theorem editedShare_nonneg : 0 ≤ editedShare a b :=
  div_nonneg (Nat.cast_nonneg _) (Nat.cast_nonneg _)

theorem editedShare_le_one : editedShare a b ≤ 1 :=
  div_le_one_of_le₀ (Nat.cast_le.mpr (alignmentDistance_le a b)) (Nat.cast_nonneg _)

theorem editedShare_eq_zero_iff (ha : a ≠ []) : editedShare a b = 0 ↔ a = b := by
  have hlength : ((max a.length b.length : ℕ) : ℚ) ≠ 0 := by
    have hpos := List.length_pos_of_ne_nil ha
    exact Nat.cast_ne_zero.mpr (by omega)
  rw [editedShare, div_eq_zero_iff, or_iff_left hlength, Nat.cast_eq_zero,
    alignmentDistance_eq_zero_iff]

theorem exactSimilarity_comm (a b : Bytes) : exactSimilarity a b = exactSimilarity b a := by
  by_cases hsame : a = b
  · rw [hsame]
  by_cases hempty : a = [] ∨ b = []
  · rw [exactSimilarity_of_empty hsame hempty, exactSimilarity_of_empty (Ne.symm hsame) hempty.symm]
  · obtain ⟨ha, hb⟩ := not_or.mp hempty
    rw [exactSimilarity_of_nonempty ha hb, exactSimilarity_of_nonempty hb ha, editedShare_comm]

theorem exactSimilarity_mem_unit (a b : Bytes) :
    0 ≤ exactSimilarity a b ∧ exactSimilarity a b ≤ 1 := by
  by_cases hsame : a = b
  · rw [hsame, exactSimilarity_self]
    exact ⟨zero_le_one, le_rfl⟩
  by_cases hempty : a = [] ∨ b = []
  · rw [exactSimilarity_of_empty hsame hempty]
    exact ⟨le_rfl, zero_le_one⟩
  · obtain ⟨ha, hb⟩ := not_or.mp hempty
    rw [exactSimilarity_of_nonempty ha hb]
    exact ⟨sub_nonneg.mpr editedShare_le_one, sub_le_self 1 editedShare_nonneg⟩

theorem exactSimilarity_eq_one_iff (a b : Bytes) : exactSimilarity a b = 1 ↔ a = b := by
  constructor
  · intro hone
    by_contra hsame
    by_cases hempty : a = [] ∨ b = []
    · rw [exactSimilarity_of_empty hsame hempty] at hone
      exact zero_ne_one hone
    · obtain ⟨ha, hb⟩ := not_or.mp hempty
      rw [exactSimilarity_of_nonempty ha hb, sub_eq_self] at hone
      exact hsame ((editedShare_eq_zero_iff ha).mp hone)
  · rintro rfl
    exact exactSimilarity_self a

end Similarity

/-- **The textbook distance.** What `string_similarity` computes is the optimal string alignment
distance, so that in exact arithmetic it is symmetric, lies between 0 and 1, and is 1 for nothing
but equal texts. -/
theorem stringSimilarity_textbook (a b : Bytes) :
    editDistance a b = Alignment.distance (byteAt a) (byteAt b) a.length b.length
      ∧ stringSimilarity a b = similarityIn Float.ofNat a b
      ∧ exactSimilarity a b = exactSimilarity b a
      ∧ (0 ≤ exactSimilarity a b ∧ exactSimilarity a b ≤ 1)
      ∧ (exactSimilarity a b = 1 ↔ a = b) :=
  ⟨editDistance_eq_alignmentDistance a b, congrFun₂ stringSimilarity_eq a b,
    exactSimilarity_comm a b, exactSimilarity_mem_unit a b, exactSimilarity_eq_one_iff a b⟩

/-- Two swapped letters and one inserted between them are three edits, as no letter moves twice. -/
example : editDistance (str "ca") (str "abc") = 3 := by decide

end ContextSnap.Matching
