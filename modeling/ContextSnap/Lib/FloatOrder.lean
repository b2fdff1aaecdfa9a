import Mathlib

/-!
# The order of doubles

Doubles that are numbers are ordered by class and sign, then by exponent and mantissa. A `NaN` is
less than nothing and greater than nothing, so it is given the least rank: against a number on the
left, the comparison of doubles is the comparison of ranks.

Of the results of the operations only the sign and a bound on the exponent are followed, which is
enough to compare sums of weighted scores with a threshold.
-/

namespace ContextSnap.FloatOrder

open Float.Model Float.Model.UnpackedFloat

/-- Class and sign first, then exponent and mantissa. -/
abbrev Magnitude := ℤ ×ₗ (ℤ ×ₗ ℤ)

def magnitude (rank exponent mantissa : ℤ) : Magnitude := toLex (rank, toLex (exponent, mantissa))

theorem magnitude_lt {r e m r' e' m' : ℤ} :
    magnitude r e m < magnitude r' e' m' ↔ r < r' ∨ r = r' ∧ (e < e' ∨ e = e' ∧ m < m') := by
  simp [magnitude, Prod.Lex.toLex_lt_toLex]

def unpackedRank : UnpackedFloat → WithBot Magnitude
  | .notANumber => ⊥
  | .infinity .negative => magnitude (-2) 0 0
  | .finite .negative m e _ => magnitude (-1) (-e) (-m)
  | .zero _ => magnitude 0 0 0
  | .finite .positive m e _ => magnitude 1 e m
  | .infinity .positive => magnitude 2 0 0

def rank (x : Float) : WithBot Magnitude := unpackedRank x.toModel.unpack

def IsNumber (x : Float) : Prop := rank x ≠ ⊥

theorem unpackedRank_ne_bot {a : UnpackedFloat} : unpackedRank a ≠ ⊥ ↔ a ≠ .notANumber := by
  cases a with
  | notANumber => exact iff_of_false (fun h => h rfl) fun h => h rfl
  | infinity s => cases s <;> exact iff_of_true WithBot.coe_ne_bot fun h => by cases h
  | zero s => exact iff_of_true WithBot.coe_ne_bot fun h => by cases h
  | finite s m e h => cases s <;> exact iff_of_true WithBot.coe_ne_bot fun h => by cases h

theorem compares_then {e f m n : ℤ} (r : ℤ) :
    ((compare e f).then (compare m n)).Compares (magnitude r e m) (magnitude r f n) := by
  rcases lt_trichotomy e f with he | he | he
  · simp [compare_lt_iff_lt.mpr he, Ordering.Compares, magnitude_lt, he]
  · rcases lt_trichotomy m n with hm | hm | hm
    · simp [he, compare_lt_iff_lt.mpr hm, Ordering.Compares, magnitude_lt, hm]
    · simp [he, hm, Ordering.Compares]
    · simp [he, compare_gt_iff_gt.mpr hm, Ordering.Compares, magnitude_lt, hm]
  · simp [compare_gt_iff_gt.mpr he, Ordering.Compares, magnitude_lt, he]

theorem compare_natCast (m n : ℕ) : compare (m : ℤ) (n : ℤ) = compare m n := by
  rcases lt_trichotomy m n with h | h | h
  · rw [compare_lt_iff_lt.mpr h, compare_lt_iff_lt.mpr (by exact_mod_cast h)]
  · simp [h]
  · rw [compare_gt_iff_gt.mpr h, compare_gt_iff_gt.mpr (by exact_mod_cast h)]

theorem compares_coe {o : Ordering} {x y : Magnitude} :
    o.Compares (x : WithBot Magnitude) (y : WithBot Magnitude) ↔ o.Compares x y := by
  cases o <;> simp [Ordering.Compares]

/-- Of two negative numbers the one with the greater magnitude is the less. -/
theorem compares_swap_neg {e f : ℤ} {m n : ℕ} :
    ((compare e f).then (compare m n)).swap.Compares
      ((magnitude (-1) (-e) (-m) : Magnitude) : WithBot Magnitude)
      (magnitude (-1) (-f) (-n) : Magnitude) := by
  rw [compares_coe]
  rcases lt_trichotomy e f with he | he | he
  · simp [compare_lt_iff_lt.mpr he, Ordering.Compares, magnitude_lt, he]
  · rcases lt_trichotomy m n with hm | hm | hm
    · simp [he, compare_lt_iff_lt.mpr hm, Ordering.Compares, magnitude_lt, hm]
    · simp [he, hm, Ordering.Compares]
    · simp [he, compare_gt_iff_gt.mpr hm, Ordering.Compares, magnitude_lt, hm]
  · simp [compare_gt_iff_gt.mpr he, Ordering.Compares, magnitude_lt, he]

/-- The comparison of two numbers is that of their ranks. -/
theorem compare_eq {a b : UnpackedFloat} (ha : a ≠ .notANumber) (hb : b ≠ .notANumber) :
    ∃ o, a.compare b = some o ∧ o.Compares (unpackedRank a) (unpackedRank b) := by
  have hclass : ∀ {r r' e e' m m' : ℤ}, r < r' → Ordering.lt.Compares
      ((magnitude r e m : Magnitude) : WithBot Magnitude) (magnitude r' e' m' : Magnitude) :=
    fun h => WithBot.coe_lt_coe.mpr (magnitude_lt.mpr (.inl h))
  have hclass' : ∀ {r r' e e' m m' : ℤ}, r' < r → Ordering.gt.Compares
      ((magnitude r e m : Magnitude) : WithBot Magnitude) (magnitude r' e' m' : Magnitude) :=
    fun h => WithBot.coe_lt_coe.mpr (magnitude_lt.mpr (.inl h))
  cases a with
  | notANumber => exact absurd rfl ha
  | infinity s =>
      cases b with
      | notANumber => exact absurd rfl hb
      | infinity t | zero t | finite t n f k =>
          -- Classes and signs decide, or both are the same infinity.
          cases s <;> cases t <;> first
            | exact ⟨.eq, rfl, rfl⟩
            | exact ⟨.lt, rfl, hclass (by norm_num)⟩
            | exact ⟨.gt, rfl, hclass' (by norm_num)⟩
  | zero s =>
      cases b with
      | notANumber => exact absurd rfl hb
      | infinity t | zero t | finite t n f k =>
          cases s <;> cases t <;> first
            | exact ⟨.eq, rfl, rfl⟩
            | exact ⟨.lt, rfl, hclass (by norm_num)⟩
            | exact ⟨.gt, rfl, hclass' (by norm_num)⟩
  | finite s m e h =>
      cases b with
      | notANumber => exact absurd rfl hb
      | infinity t | zero t =>
          cases s <;> cases t <;> first
            | exact ⟨.lt, rfl, hclass (by norm_num)⟩
            | exact ⟨.gt, rfl, hclass' (by norm_num)⟩
      | finite t n f k =>
          cases s <;> cases t
          · exact ⟨_, rfl, compares_swap_neg⟩
          · exact ⟨.lt, rfl, hclass (by norm_num)⟩
          · exact ⟨.gt, rfl, hclass' (by norm_num)⟩
          · refine ⟨_, rfl, ?_⟩
            rw [← compare_natCast]
            exact compares_coe.mpr (compares_then 1)

theorem isNumber_iff {x : Float} : IsNumber x ↔ x.isNaN = false := by
  rw [IsNumber, rank, unpackedRank_ne_bot]
  change _ ↔ x.toModel.unpack.isNaN = false
  cases x.toModel.unpack with
  | notANumber => exact iff_of_false (fun h => h rfl) fun h => by cases h
  | _ => exact iff_of_true (fun h => by cases h) rfl

theorem lt_iff {x y : Float} (hx : IsNumber x) : x < y ↔ rank x < rank y := by
  have hx' := unpackedRank_ne_bot.mp hx
  change decide (x.toModel.unpack.lt y.toModel.unpack = true) = true
    ↔ unpackedRank x.toModel.unpack < unpackedRank y.toModel.unpack
  rw [decide_eq_true_iff]
  by_cases hy : y.toModel.unpack = .notANumber
  · have hnever : x.toModel.unpack.lt .notANumber = false := by
      cases x.toModel.unpack <;> rfl
    rw [hy, hnever]
    exact iff_of_false Bool.false_ne_true not_lt_bot
  · obtain ⟨o, ho, hcompares⟩ := compare_eq hx' hy
    rw [UnpackedFloat.lt, ho, ← hcompares.eq_lt]
    simp

theorem le_iff {x y : Float} (hx : IsNumber x) (hy : IsNumber y) : x ≤ y ↔ rank x ≤ rank y := by
  change decide (x.toModel.unpack.le y.toModel.unpack = true) = true
    ↔ unpackedRank x.toModel.unpack ≤ unpackedRank y.toModel.unpack
  rw [decide_eq_true_iff]
  obtain ⟨o, ho, hcompares⟩ := compare_eq (unpackedRank_ne_bot.mp hx) (unpackedRank_ne_bot.mp hy)
  rw [UnpackedFloat.le, ho, ← hcompares.ne_gt]
  cases o <;> simp

/-! ### Rounding -/

/-- A positive number with a full mantissa. -/
def IsFull (e : ℤ) (u : UnpackedFloat) : Prop :=
  ∃ m h, u = .finite .positive m e h ∧ m.log2 = 52

theorem mantissa_shiftRight (mantissa : ExtendedMantissa) (n : ℕ) :
    (mantissa >>> n).mantissa = mantissa.mantissa / 2 ^ n := by
  induction n with
  | zero => exact (Nat.div_one _).symm
  | succ n ih =>
      have hstep : (mantissa >>> (n + 1)).mantissa = (mantissa >>> n).mantissa / 2 := rfl
      rw [hstep, ih, Nat.div_div_eq_div_mul, pow_succ]

theorem mantissa_ofMantissaAndAccuracy (m : ℕ) (accuracy : Accuracy) :
    (ExtendedMantissa.ofMantissaAndAccuracy m accuracy).mantissa = m := by
  rcases accuracy with _ | (_ | _ | _) <;> rfl

theorem roundedMantissa_bounds (mantissa : ExtendedMantissa) :
    mantissa.mantissa ≤ mantissa.roundedMantissa
      ∧ mantissa.roundedMantissa ≤ mantissa.mantissa + 1 := by
  obtain ⟨m, roundBit, stickyBit⟩ := mantissa
  have hodd := Nat.mod_lt m (y := 2) (by decide)
  cases roundBit <;> cases stickyBit <;>
    simp only [ExtendedMantissa.roundedMantissa, ExtendedMantissa.accuracy,
      Accuracy.roundToNearestEven] <;> omega

theorem targetExponent_totalExponent {m : ℕ} {e t : ℤ} (ht : t = m.log2 - 52 + e)
    (hnormal : -1074 ≤ t) :
    Format.binary64.targetExponent (totalExponent m e) = t := by
  simp only [Format.targetExponent, totalExponent, Format.mantissaBits, Format.minExponent]
  norm_num
  omega

/-- A mantissa that is wide enough is rounded to a full one. -/
theorem isFull_roundWithAccuracy {m : ℕ} {e t : ℤ} {accuracy : Accuracy} (hwide : 52 ≤ m.log2)
    (ht : t = m.log2 - 52 + e) (hnormal : -1074 ≤ t) :
    ∃ f, (f = t ∨ f = t + 1)
      ∧ IsFull f (roundWithAccuracy Format.binary64 .positive m e accuracy) := by
  have hfirst : shiftToTargetExponent Format.binary64 m e accuracy
      = (ExtendedMantissa.ofMantissaAndAccuracy m accuracy >>> (m.log2 - 52), t) := by
    rw [shiftToTargetExponent, targetExponent_totalExponent ht hnormal, shiftToExponent]
    have hshift : (t - e).toNat = m.log2 - 52 := by omega
    rw [hshift]
    congr 1
    omega
  have hlog : (m / 2 ^ (m.log2 - 52)).log2 = 52 := by
    rw [Nat.log2_eq_log_two, Nat.log2_eq_log_two, Nat.log_div_base_pow, ← Nat.log2_eq_log_two]
    omega
  have hbounds := roundedMantissa_bounds
    (ExtendedMantissa.ofMantissaAndAccuracy m accuracy >>> (m.log2 - 52))
  rw [mantissa_shiftRight, mantissa_ofMantissaAndAccuracy] at hbounds
  have hne : m / 2 ^ (m.log2 - 52) ≠ 0 := fun h => by simp [h] at hlog
  obtain ⟨hlow, hhigh⟩ := (Nat.log2_eq_iff hne).mp hlog
  generalize hrounded : (ExtendedMantissa.ofMantissaAndAccuracy m accuracy
    >>> (m.log2 - 52)).roundedMantissa = r at hbounds
  have hsecond : ∀ k : ℕ, r.log2 = 52 + k → (r / 2 ^ k).log2 = 52 →
      IsFull (t + k) (roundWithAccuracy Format.binary64 .positive m e accuracy) := by
    intro k hk hresult
    have hshift : shiftToTargetExponent Format.binary64 r t .exact
        = (ExtendedMantissa.ofMantissaAndAccuracy r .exact >>> k, t + k) := by
      rw [shiftToTargetExponent, targetExponent_totalExponent (t := t + k) (by omega) (by omega),
        shiftToExponent]
      have hshift : (t + k - t).toNat = k := by omega
      rw [hshift]
    have hmantissa : (ExtendedMantissa.ofMantissaAndAccuracy r .exact >>> k).mantissa
        = r / 2 ^ k := by
      rw [mantissa_shiftRight, mantissa_ofMantissaAndAccuracy]
    have hpos : r / 2 ^ k ≠ 0 := fun h => by simp [h] at hresult
    unfold roundWithAccuracy
    simp only [hfirst, hrounded, hshift, hmantissa, dif_neg hpos]
    exact ⟨_, _, rfl, hresult⟩
  have hr : r ≠ 0 := by omega
  by_cases hcarry : r < 2 ^ 53
  · have hlog2 : r.log2 = 52 := (Nat.log2_eq_iff hr).mpr ⟨by omega, hcarry⟩
    refine ⟨t, .inl rfl, ?_⟩
    simpa using hsecond 0 hlog2 (by simpa using hlog2)
  · obtain rfl : r = 2 ^ 53 := by omega
    refine ⟨t + 1, .inr rfl, ?_⟩
    exact hsecond 1 Nat.log2_two_pow (Nat.log2_two_pow (n := 52))

/-! ### Packing -/

theorem unpack_pack (u : UnpackedFloat) :
    (Float.Model.pack u).unpack
      = UnpackedFloat.unpack Format.binary64 (UnpackedFloat.pack Format.binary64 u) := rfl

theorem toNat_implicit_append {m : ℕ} (hlog : m.log2 = 52) :
    (1#1 ++ BitVec.ofNat 52 m).toNat = m := by
  have hne : m ≠ 0 := fun h => by simp [h] at hlog
  obtain ⟨hlow, hhigh⟩ := (Nat.log2_eq_iff hne).mp hlog
  rw [BitVec.toNat_append, BitVec.toNat_ofNat, BitVec.toNat_ofNat,
    ← Nat.shiftLeft_add_eq_or_of_lt (Nat.mod_lt _ (by decide)), Nat.shiftLeft_eq]
  omega

/-- A full mantissa is packed without loss, unless the exponent overflows. -/
theorem unpack_pack_full {u : UnpackedFloat} {e : ℤ} (h : IsFull e u) (hnormal : -1074 ≤ e) :
    (Float.Model.pack u).unpack = if e ≤ 971 then u else .infinity .positive := by
  obtain ⟨m, hm, rfl, hlog⟩ := h
  have hbiased : e + Format.binary64.exponentBias + Format.binary64.mantissaBitsWithoutImplicit
      = e + 1075 := by
    rw [add_assoc]
    rfl
  rw [unpack_pack, UnpackedFloat.pack, hbiased]
  by_cases he : e ≤ 971
  · have hroom : ¬ 2 ^ Format.binary64.exponentBits ≤ (e + 1075).toNat + 1 := by
      simp only [not_le]
      omega
    have hbits : m.log2 + 1 = Format.binary64.mantissaBits := by rw [hlog]; rfl
    rw [if_pos he, if_neg hroom, if_pos hbits, UnpackedFloat.unpack]
    simp only [unpackMantissa_packComponents, unpackExponent_packComponents,
      unpackSign_packComponents, Sign.ofBitVec_toBitVec]
    have hinner : BitVec.ofNat Format.binary64.exponentBits (e + 1075).toNat ≠ -1#_ := by
      intro h
      have hones : (e + 1075).toNat % 2048 = 2047 := congrArg BitVec.toNat h
      omega
    have hpos : BitVec.ofNat Format.binary64.exponentBits (e + 1075).toNat ≠ 0#_ := by
      intro h
      have hzeros : (e + 1075).toNat % 2048 = 0 := congrArg BitVec.toNat h
      omega
    rw [if_neg hinner, if_neg hpos]
    have hm : (1#1 ++ BitVec.ofNat Format.binary64.mantissaBitsWithoutImplicit m).toNat = m :=
      toNat_implicit_append hlog
    have hexponent : ((BitVec.ofNat Format.binary64.exponentBits (e + 1075).toNat).toNat : ℤ)
      - (Format.binary64.exponentBias + Format.binary64.mantissaBitsWithoutImplicit) = e := by
      rw [BitVec.toNat_ofNat]
      change (((e + 1075).toNat % 2048 : ℕ) : ℤ) - 1075 = e
      omega
    simp only [hm, hexponent]
  · have hroom : 2 ^ Format.binary64.exponentBits ≤ (e + 1075).toNat + 1 := by
      change 2048 ≤ _
      omega
    rw [if_neg he, if_pos hroom]
    rfl

theorem log2_shiftLeft {m : ℕ} (hm : m ≠ 0) (k : ℕ) : (m <<< k).log2 = m.log2 + k := by
  rw [Nat.shiftLeft_eq]
  refine (Nat.log2_eq_iff (by positivity)).mpr ?_
  obtain ⟨hlow, hhigh⟩ := (Nat.log2_eq_iff hm).mp rfl
  rw [pow_add, show m.log2 + k + 1 = m.log2 + 1 + k by omega, pow_add]
  exact ⟨Nat.mul_le_mul_right _ hlow, Nat.mul_lt_mul_of_pos_right hhigh (by positivity)⟩

/-- A number that is not too small is rounded to one with a full mantissa. -/
theorem isFull_round {m : ℕ} {e t : ℤ} (hm : m ≠ 0) (ht : t = m.log2 - 52 + e)
    (hnormal : -1074 ≤ t) :
    ∃ f, (f = t ∨ f = t + 1) ∧ IsFull f (UnpackedFloat.round Format.binary64 .positive m e) := by
  rw [UnpackedFloat.round, targetExponent_totalExponent ht hnormal, decreaseExponent]
  have hlog := log2_shiftLeft hm (e - t).toNat
  exact isFull_roundWithAccuracy (by omega) (by omega) hnormal

/-! ### Signs -/

/-- A number with this sign, perhaps zero or infinite. A zero has either sign. -/
def HasSign (sign : Sign) : UnpackedFloat → Prop
  | .zero _ => True
  | .infinity s | .finite s _ _ _ => s = sign
  | .notANumber => False

theorem hasSign_roundWithAccuracy (sign : Sign) (m : ℕ) (e : ℤ) (accuracy : Accuracy) :
    HasSign sign (roundWithAccuracy Format.binary64 sign m e accuracy) := by
  unfold roundWithAccuracy
  dsimp only
  split
  · trivial
  · rfl

theorem hasSign_round (sign : Sign) (m : ℕ) (e : ℤ) :
    HasSign sign (UnpackedFloat.round Format.binary64 sign m e) := hasSign_roundWithAccuracy ..

theorem hasSign_unpack (sign : Sign) {exponent : BitVec 11} (h : exponent ≠ -1#11)
    (mantissa : BitVec 52) :
    HasSign sign (UnpackedFloat.unpack Format.binary64
      (packComponents Format.binary64 sign exponent mantissa)) := by
  simp only [UnpackedFloat.unpack, unpackMantissa_packComponents, unpackExponent_packComponents,
    unpackSign_packComponents, Sign.ofBitVec_toBitVec, if_neg h]
  split
  · split
    · trivial
    · rfl
  · rfl

/-- Packing may overflow or lose the number, but it keeps the sign. -/
theorem hasSign_unpack_pack {sign : Sign} {u : UnpackedFloat} (h : HasSign sign u) :
    HasSign sign (Float.Model.pack u).unpack := by
  rw [unpack_pack]
  cases u with
  | notANumber => exact h.elim
  | zero s => cases s <;> trivial
  | infinity s =>
      obtain rfl : s = sign := h
      cases s <;> rfl
  | finite s m e hm =>
      obtain rfl : s = sign := h
      simp only [UnpackedFloat.pack]
      split
      · cases s <;> rfl
      · rename_i hroom
        split
        · apply hasSign_unpack
          intro hones
          have hones := congrArg BitVec.toNat hones
          have hall : (-1#11).toNat = 2047 := by decide
          rw [hall, BitVec.toNat_ofNat] at hones
          change ¬ 2048 ≤ _ + 1 at hroom
          change _ % 2048 = 2047 at hones
          omega
        · exact hasSign_unpack s (by decide) _

theorem ne_notANumber_of_hasSign {sign : Sign} {u : UnpackedFloat} (h : HasSign sign u) :
    u ≠ .notANumber := fun hu => by rw [hu] at h; exact h

/-- Zero or positive, perhaps infinite. -/
def IsNonneg (x : Float) : Prop := HasSign .positive x.toModel.unpack

/-- Positive with a full mantissa. -/
def IsNormal (e : ℤ) (x : Float) : Prop := IsFull e x.toModel.unpack

/-- Not negative and not infinite. -/
def IsFinite (x : Float) : Prop :=
  (∃ s, x.toModel.unpack = .zero s) ∨ ∃ m e h, x.toModel.unpack = .finite .positive m e h

variable {x y : Float} {e : ℤ}

theorem IsNormal.finite (h : IsNormal e x) : IsFinite x := by
  obtain ⟨m, hm, hx, -⟩ := h
  exact .inr ⟨m, e, hm, hx⟩

theorem IsFinite.nonneg (h : IsFinite x) : IsNonneg x := by
  rw [IsNonneg]
  rcases h with ⟨s, hx⟩ | ⟨m, e, hm, hx⟩
  · rw [hx]
    trivial
  · rw [hx]
    rfl

theorem IsNonneg.isNumber (h : IsNonneg x) : IsNumber x :=
  unpackedRank_ne_bot.mpr (ne_notANumber_of_hasSign h)

theorem rank_zero : rank 0.0 = (magnitude 0 0 0 : Magnitude) := by
  have hzero : (0.0 : Float).toModel.unpack = .zero .positive := rfl
  rw [rank, hzero]
  rfl

theorem isFinite_zero : IsFinite 0.0 := .inl ⟨.positive, rfl⟩

/-- What is above zero is positive. -/
theorem unpack_of_pos (h : 0.0 < x) :
    x.toModel.unpack = .infinity .positive
      ∨ ∃ m e h, x.toModel.unpack = .finite .positive m e h := by
  have hrank := (lt_iff isFinite_zero.nonneg.isNumber).mp h
  rw [rank_zero, rank] at hrank
  generalize x.toModel.unpack = u at hrank ⊢
  have hnever : ∀ {r e m : ℤ}, r < 0 →
      ¬ ((magnitude 0 0 0 : Magnitude) : WithBot Magnitude) < (magnitude r e m : Magnitude) :=
    fun hr h => by
      have h := magnitude_lt.mp (WithBot.coe_lt_coe.mp h)
      omega
  cases u with
  | notANumber => exact absurd hrank not_lt_bot
  | zero s => exact absurd hrank (lt_irrefl _)
  | infinity s =>
      cases s with
      | negative => exact absurd hrank (hnever (by norm_num))
      | positive => exact .inl rfl
  | finite s m e hm =>
      cases s with
      | negative => exact absurd hrank (hnever (by norm_num))
      | positive => exact .inr ⟨m, e, hm, rfl⟩

theorem nonneg_of_pos (h : 0.0 < x) : IsNonneg x := by
  rw [IsNonneg]
  rcases unpack_of_pos h with hx | ⟨m, e, hm, hx⟩ <;> rw [hx] <;> rfl

theorem pos_of_not_le {x : Float} (hx : IsNumber x) (h : ¬ x ≤ 0.0) : 0.0 < x := by
  rw [le_iff hx isFinite_zero.nonneg.isNumber, not_le] at h
  exact (lt_iff isFinite_zero.nonneg.isNumber).mpr h

/-! ### Sums -/

theorem normalize_natCast {s : ℕ} (hs : s ≠ 0) (e : ℤ) :
    UnpackedFloat.normalize Format.binary64 s e .positive
      = UnpackedFloat.round Format.binary64 .positive s e := by
  have hpos : compare (s : ℤ) 0 = .gt := by
    rw [compare_gt_iff_gt]
    omega
  rw [UnpackedFloat.normalize, hpos]
  rfl

/-- The sum of two positive numbers is rounded once, and its mantissa is at least as wide as that of
the first. -/
theorem add_finite {m n : ℕ} {f : ℤ} (hm : 0 < m) (hn : 0 < n) :
    ∃ s : ℕ, s ≠ 0 ∧ m.log2 + (e - min e f).toNat ≤ s.log2
      ∧ UnpackedFloat.add Format.binary64 (.finite .positive m e hm) (.finite .positive n f hn)
        = UnpackedFloat.round Format.binary64 .positive s (min e f) := by
  have hwide := log2_shiftLeft hm.ne' (e - min e f).toNat
  have hleft : m <<< (e - min e f).toNat ≠ 0 := by
    rw [Nat.shiftLeft_eq]
    positivity
  have hsum : ∀ k, m <<< (e - min e f).toNat + k ≠ 0 :=
    fun k h => hleft (Nat.eq_zero_of_add_eq_zero_right h)
  refine ⟨_, hsum (n <<< (f - min e f).toNat), ?_, ?_⟩
  · rw [← hwide, Nat.le_log2 (hsum _)]
    exact (Nat.log2_self_le hleft).trans (Nat.le_add_right _ _)
  · rw [← normalize_natCast (hsum _), Int.natCast_add]
    rfl

theorem IsNonneg.add (hx : IsNonneg x) (hy : IsNonneg y) : IsNonneg (x + y) := by
  apply hasSign_unpack_pack
  rw [IsNonneg] at hx hy
  generalize x.toModel.unpack = u at hx
  generalize y.toModel.unpack = v at hy
  cases u with
  | notANumber => exact hx.elim
  | infinity s =>
      obtain rfl : s = .positive := hx
      cases v with
      | notANumber => exact hy.elim
      | infinity s' =>
          obtain rfl : s' = .positive := hy
          rfl
      | zero s' => rfl
      | finite s' n f hn => rfl
  | zero s =>
      cases v with
      | notANumber => exact hy.elim
      | infinity s' => exact hy
      | zero s' => cases s <;> cases s' <;> trivial
      | finite s' n f hn => exact hy
  | finite s m e hm =>
      obtain rfl : s = .positive := hx
      cases v with
      | notANumber => exact hy.elim
      | infinity s' => exact hy
      | zero s' => rfl
      | finite s' n f hn =>
          obtain rfl : s' = .positive := hy
          obtain ⟨s, -, -, hsum⟩ := @add_finite e m n f hm hn
          rw [hsum]
          exact hasSign_round ..

theorem magnitude_le_infinity (e : ℤ) :
    ((magnitude 1 e 0 : Magnitude) : WithBot Magnitude)
      ≤ unpackedRank (.infinity .positive) :=
  (WithBot.coe_lt_coe.mpr (magnitude_lt.mpr (.inl (by norm_num)))).le

/-- Adding what is not negative does not lead below the power of two of a number. -/
theorem IsNormal.rank_add (hx : IsNormal e x) (hnormal : -1074 ≤ e) (hy : IsNonneg y) :
    ((magnitude 1 e 0 : Magnitude) : WithBot Magnitude) ≤ rank (x + y) := by
  have hresult : ∀ {g u}, IsFull g u → e ≤ g →
      ((magnitude 1 e 0 : Magnitude) : WithBot Magnitude)
        ≤ unpackedRank (Float.Model.pack u).unpack := by
    intro g u hu hg
    rw [unpack_pack_full hu (hnormal.trans hg)]
    obtain ⟨m, hm, rfl, -⟩ := hu
    split
    · exact (WithBot.coe_lt_coe.mpr (magnitude_lt.mpr (.inr ⟨rfl, by omega⟩))).le
    · exact magnitude_le_infinity e
  change _ ≤ unpackedRank (Float.Model.pack (UnpackedFloat.add Format.binary64 x.toModel.unpack
    y.toModel.unpack)).unpack
  obtain ⟨m, hm, hx, hlog⟩ := hx
  rw [IsNonneg] at hy
  rw [hx]
  generalize y.toModel.unpack = v at hy
  cases v with
  | notANumber => exact hy.elim
  | infinity s =>
      obtain rfl : s = .positive := hy
      have hsum : UnpackedFloat.add Format.binary64 (.finite .positive m e hm) (.infinity .positive)
          = .infinity .positive := rfl
      have hpack : (Float.Model.pack (.infinity .positive)).unpack = .infinity .positive := rfl
      rw [hsum, hpack]
      exact magnitude_le_infinity e
  | zero s => exact hresult ⟨m, hm, rfl, hlog⟩ le_rfl
  | finite s n f hn =>
      obtain rfl : s = .positive := hy
      obtain ⟨s, hs, hwide, hsum⟩ := @add_finite e m n f hm hn
      obtain ⟨g, hg, hround⟩ := isFull_round (t := s.log2 - 52 + min e f) hs rfl (by omega)
      exact hresult (hsum ▸ hround) (by omega)

/-- The difference of two numbers that are not negative has one sign or the other. -/
theorem isNumber_sub {x y : Float} (hx : IsFinite x) (hy : IsFinite y) : IsNumber (x - y) := by
  have hsign : ∃ sign, HasSign sign (UnpackedFloat.sub Format.binary64 x.toModel.unpack
      y.toModel.unpack) := by
    rcases hx with ⟨s, hx⟩ | ⟨m, e, hm, hx⟩ <;> rcases hy with ⟨s', hy⟩ | ⟨n, f, hn, hy⟩
      <;> rw [hx, hy]
    · refine ⟨.positive, ?_⟩
      cases s <;> cases s' <;> trivial
    · exact ⟨_, rfl⟩
    · exact ⟨_, rfl⟩
    · change ∃ sign, HasSign sign (UnpackedFloat.normalize Format.binary64 _ _ .positive)
      unfold UnpackedFloat.normalize
      split
      · exact ⟨_, hasSign_round ..⟩
      · exact ⟨.positive, trivial⟩
      · exact ⟨_, hasSign_round ..⟩
  obtain ⟨sign, hsign⟩ := hsign
  exact unpackedRank_ne_bot.mpr (ne_notANumber_of_hasSign (hasSign_unpack_pack hsign))

/-! ### Products and quotients -/

theorem IsNormal.mul_nonneg (hx : IsNormal e x) (hy : IsNonneg y) : IsNonneg (x * y) := by
  apply hasSign_unpack_pack
  obtain ⟨m, hm, hx, -⟩ := hx
  rw [IsNonneg] at hy
  rw [hx]
  generalize y.toModel.unpack = v at hy
  cases v with
  | notANumber => exact hy.elim
  | infinity s =>
      obtain rfl : s = .positive := hy
      rfl
  | zero s => trivial
  | finite s n f hn =>
      obtain rfl : s = .positive := hy
      exact hasSign_roundWithAccuracy ..

theorem IsFinite.div_nonneg (hx : IsFinite x) (hy : 0.0 < y) : IsNonneg (x / y) := by
  apply hasSign_unpack_pack
  rcases hx with ⟨s, hx⟩ | ⟨m, e, hm, hx⟩ <;> rcases unpack_of_pos hy with hy | ⟨n, f, hn, hy⟩ <;>
    rw [hx, hy]
  · trivial
  · trivial
  · trivial
  · exact hasSign_roundWithAccuracy ..

/-- What is divided by itself is one. -/
theorem IsNormal.div_self (hx : IsNormal e x) : x / x = 1.0 := by
  obtain ⟨m, hm, hx, -⟩ := hx
  have htarget : Format.binary64.targetExponent 0 = -53 := rfl
  have hcore : divCore Format.binary64 m e m e = (2 ^ 53, -53, .exact) := by
    simp only [divCore, sub_self, htarget, accuracyOfFraction]
    have hshift : (0 - min 0 (-53) : ℤ).toNat = 53 := rfl
    rw [hshift, Nat.shiftLeft_eq, Nat.mul_div_cancel_left _ hm, Nat.mul_mod_right]
    rfl
  have hdiv : UnpackedFloat.div Format.binary64 x.toModel.unpack x.toModel.unpack
      = roundWithAccuracy Format.binary64 .positive (2 ^ 53) (-53) .exact := by
    rw [hx]
    change (match divCore Format.binary64 m e m e with
      | (m, e, accuracy) => roundWithAccuracy Format.binary64 .positive m e accuracy) = _
    rw [hcore]
  exact (congrArg (fun u => Float.ofModel (Float.Model.pack u)) hdiv).trans rfl

/-- The natural numbers of a machine are doubles with a full mantissa. -/
theorem isNormal_ofNat {n : ℕ} (hn : n ≠ 0) (hsmall : n < 2 ^ 64) :
    ∃ f, IsNormal f (Float.ofNat n) := by
  have hlog : n.log2 < 64 := (Nat.log2_lt hn).mpr hsmall
  have hkeep : ∀ {f u}, IsFull f u → -1074 ≤ f → f ≤ 971 →
      IsFull f (Float.Model.pack u).unpack := by
    intro f u hu hlow hhigh
    rwa [unpack_pack_full hu hlow, if_pos hhigh]
  by_cases hfast : n < 2 ^ 53
  · have hofNat : Float.ofNat n = n.toUInt64.toFloat * 1.0 := by
      change Float.ofScientific n false 0 = _
      rw [Float.ofScientific, dif_pos ⟨hfast, by decide⟩]
      rfl
    have htoNat : n.toUInt64.toNat = n := by
      rw [Nat.toUInt64, UInt64.toNat_ofNat']
      omega
    obtain ⟨f, hf, hround⟩ := isFull_round (t := n.log2 - 52 + 0) hn rfl (by omega)
    have hleft : IsFull f n.toUInt64.toFloat.toModel.unpack := by
      apply hkeep _ (by omega) (by omega)
      change IsFull f (UnpackedFloat.normalize Format.binary64 (n.toUInt64.toNat : ℤ) 0 .positive)
      rw [htoNat, normalize_natCast hn]
      exact hround
    obtain ⟨m, hm, hunpack, hwide⟩ := hleft
    have hone : (1.0 : Float).toModel.unpack = .finite .positive (2 ^ 52) (-52) (by decide) := rfl
    have hproduct : (m * 2 ^ 52).log2 = 104 := by
      rw [← Nat.shiftLeft_eq, log2_shiftLeft hm.ne', hwide]
    obtain ⟨g, hg, hresult⟩ := @isFull_roundWithAccuracy (m * 2 ^ 52) (f + -52) f .exact
      (by omega) (by omega) (by omega)
    refine ⟨g, ?_⟩
    rw [hofNat]
    apply hkeep _ (by omega) (by omega)
    rw [hunpack, hone]
    exact hresult
  · have hofNat : Float.ofNat n
        = Float.ofModel (.pack (UnpackedFloat.ofScientific Format.binary64 n 0)) := by
      change Float.ofScientific n false 0 = _
      rw [Float.ofScientific, dif_neg fun h => hfast h.1]
      rfl
    have hwide : ((n <<< 53) * 10 ^ 0).log2 = n.log2 + 53 := by
      rw [pow_zero, mul_one, log2_shiftLeft hn]
    obtain ⟨g, hg, hresult⟩ := @isFull_roundWithAccuracy ((n <<< 53) * 10 ^ 0) (-53 + 0)
      (n.log2 - 52) .exact (by omega) (by omega) (by omega)
    refine ⟨g, ?_⟩
    rw [hofNat]
    apply hkeep _ (by omega) (by omega)
    have hsmallest : ¬ (0 : ℤ) < -((2 ^ Format.binary64.exponentBits : ℤ) + n.log2) := by
      have : (0 : ℤ) ≤ 2 ^ Format.binary64.exponentBits := by positivity
      omega
    rw [UnpackedFloat.ofScientific, dif_neg hn, if_neg (by decide), if_neg hsmallest,
      if_pos (le_refl 0)]
    exact hresult

end ContextSnap.FloatOrder
