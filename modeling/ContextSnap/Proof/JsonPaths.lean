import ContextSnap.Core.Json

/-!
# Paths as folds

A dotted path is followed segment by segment. The number of a segment is computed modulo `2 ^ 64`,
which is not seen unless a number that is too large for an array comes down to one of its indices.
-/

namespace ContextSnap.Json.Value

/-- A single step: a member by its name, an element by what `read` makes of its number. -/
def stepBy (read : ℕ → ℕ) (value : Value) (segment : Bytes) : Option Value :=
  if segment = [] then none
  else
    match value with
    | .array items => if segment.all isDigit then items[read (digitsValue segment)]? else none
    | .object members => (members.find? (·.1 == segment)).map (·.2)
    | _ => none

/-- The step with the number that the digits spell. -/
def step : Value → Bytes → Option Value := stepBy id

/-- The step of the source. -/
def wrappedStep : Value → Bytes → Option Value := stepBy (· % 2 ^ 64)

/-! ### The loop -/

theorem isDigit_eq_false_iff {c : UInt8} : isDigit c = false ↔ c < 48 ∨ c > 57 := by
  rw [isDigit, Bool.and_eq_false_iff, decide_eq_false_iff_not, decide_eq_false_iff_not,
    UInt8.not_le, UInt8.not_le]

theorem toNat_pushDigit {index : UInt64} {value : ℕ} {c : UInt8}
    (hindex : index.toNat = value % 2 ^ 64) (hdigit : isDigit c = true) :
    (index * 10 + (c - 48).toUInt64).toNat = (10 * value + (c.toNat - 48)) % 2 ^ 64 := by
  have hle : (48 : UInt8) ≤ c := of_decide_eq_true (Bool.and_eq_true_iff.mp hdigit).1
  have hten : (10 : UInt64).toNat = 10 := rfl
  have hzero : (48 : UInt8).toNat = 48 := rfl
  rw [UInt64.toNat_add, UInt64.toNat_mul, hindex, hten, UInt8.toNat_toUInt64,
    UInt8.toNat_sub_of_le _ _ hle, hzero]
  omega

/-- The digits of a segment are read modulo `2 ^ 64`. -/
theorem segmentIndex_map (segment : Bytes) :
    (segmentIndex segment).map UInt64.toNat
      = if segment.all isDigit then some (digitsValue segment % 2 ^ 64) else none := by
  have hfold : ∀ (index : UInt64) (value : ℕ), index.toNat = value % 2 ^ 64 →
      (segment.foldlM (fun index c =>
        if c < 48 ∨ c > 57 then none else some (index * 10 + (c - 48).toUInt64)) index).map
          UInt64.toNat
        = if segment.all isDigit then
            some (segment.foldl (fun value c => 10 * value + (c.toNat - 48)) value % 2 ^ 64)
          else none := by
    induction segment with
    | nil =>
        intro index value hindex
        simpa using hindex
    | cons c segment ih =>
        intro index value hindex
        rw [List.foldlM_cons, List.all_cons, List.foldl_cons]
        cases hdigit : isDigit c with
        | false =>
            rw [if_pos (isDigit_eq_false_iff.mp hdigit)]
            rfl
        | true =>
            have hin : ¬(c < 48 ∨ c > 57) := fun h =>
              Bool.false_ne_true ((isDigit_eq_false_iff.mpr h).symm.trans hdigit)
            rw [if_neg hin, Bool.true_and]
            exact ih _ _ (toNat_pushDigit hindex hdigit)
  exact hfold 0 0 rfl

section Steps

variable {read : ℕ → ℕ} {value next : Value} {segment : Bytes}

theorem stepBy_nil (read : ℕ → ℕ) (value : Value) : value.stepBy read [] = none := if_pos rfl

theorem stepBy_array (h : segment ≠ []) (items : List Value) :
    (array items).stepBy read segment
      = if segment.all isDigit then items[read (digitsValue segment)]? else none := if_neg h

theorem stepBy_object (h : segment ≠ []) (members : List (Bytes × Value)) :
    (object members).stepBy read segment = (members.find? (·.1 == segment)).map (·.2) := if_neg h

/-- Where a step leads from. -/
theorem stepBy_cases (h : value.stepBy read segment = some next) : segment ≠ [] ∧
    ((∃ items, value = .array items ∧ segment.all isDigit = true
        ∧ items[read (digitsValue segment)]? = some next)
      ∨ ∃ members entry, value = .object members
        ∧ members.find? (·.1 == segment) = some entry ∧ entry.2 = next) := by
  have hne : segment ≠ [] := by
    rintro rfl
    rw [stepBy_nil] at h
    cases h
  refine ⟨hne, ?_⟩
  cases value with
  | array items =>
      rw [stepBy_array hne] at h
      split at h
      · next hdigits => exact .inl ⟨items, rfl, hdigits, h⟩
      · cases h
  | object members =>
      rw [stepBy_object hne] at h
      obtain ⟨entry, hentry, hnext⟩ := Option.map_eq_some_iff.mp h
      exact .inr ⟨members, entry, rfl, hentry, hnext⟩
  | _ =>
      rw [stepBy, if_neg hne] at h
      · cases h
      all_goals exact fun _ heq => by cases heq

end Steps

theorem child_array (segment : Bytes) (items : List Value) :
    (array items).child segment
      = if segment.all isDigit then items[digitsValue segment % 2 ^ 64]? else none := by
  have hchild : (array items).child segment = (segmentIndex segment).bind fun index =>
      if index.toNat < items.length then items[index.toNat]? else none := rfl
  have hbound : ∀ n : ℕ, (if n < items.length then items[n]? else none) = items[n]? := by
    intro n
    split
    · rfl
    · next hout => exact (List.getElem?_eq_none (not_lt.mp hout)).symm
  calc (array items).child segment
      = ((segmentIndex segment).map UInt64.toNat).bind fun n => items[n]? := by
        rw [hchild, Option.bind_map]
        exact congrArg _ (funext fun index => hbound index.toNat)
    _ = if segment.all isDigit then items[digitsValue segment % 2 ^ 64]? else none := by
        rw [segmentIndex_map]
        split <;> rfl

theorem child_eq_wrappedStep {segment : Bytes} (h : segment ≠ []) (value : Value) :
    value.child segment = value.wrappedStep segment := by
  cases value with
  | array items => rw [child_array, wrappedStep, stepBy_array h]
  | _ => exact (if_neg h).symm

/-- A round, by the segment in front of what is left. -/
theorem atPathFrom_succ {segment : Bytes} (hsegment : 46 ∉ segment) (rounds : ℕ) (value : Value)
    {more : Bytes} (hmore : more.head? = none ∨ more.head? = some 46) :
    atPathFrom (rounds + 1) value (segment ++ more)
      = (value.wrappedStep segment).bind fun next =>
          match more with
          | [] => some next
          | _ :: rest => atPathFrom rounds next rest := by
  have htake : (segment ++ more).takeWhile (· ≠ 46) = segment := by
    have hall : ∀ c ∈ segment, decide (c ≠ 46) = true := fun c hc =>
      decide_eq_true fun heq => hsegment (heq ▸ hc)
    have hstop : more.takeWhile (· ≠ 46) = [] := by
      cases more with
      | nil => rfl
      | cons c more =>
          obtain rfl : c = 46 := by simpa using hmore
          rfl
    rw [List.takeWhile_append_of_pos hall, hstop, List.append_nil]
  rw [atPathFrom]
  simp only [htake, List.drop_left]
  by_cases hnil : segment = []
  · rw [if_pos hnil, hnil, wrappedStep, stepBy_nil]
    rfl
  · rw [if_neg hnil, child_eq_wrappedStep hnil]
    cases value.wrappedStep segment with
    | none => rfl
    | some next => rfl

/-- **The loop** is a fold over the segments. -/
theorem atPathFrom_eq {rounds : ℕ} (value : Value) {rest : Bytes} (h : rest.length < rounds) :
    atPathFrom rounds value rest = (rest.splitOn 46).foldlM wrappedStep value := by
  induction rounds generalizing value rest with
  | zero => exact absurd h (Nat.not_lt_zero _)
  | succ rounds ih =>
      by_cases hdot : 46 ∈ rest
      · obtain ⟨segment, more, rfl, hsegment⟩ := List.eq_append_cons_of_mem hdot
        have hlength : more.length < rounds := by
          rw [List.length_append, List.length_cons] at h
          omega
        rw [atPathFrom_succ hsegment rounds value (.inr rfl),
          List.splitOn_append_cons_self_of_not_mem hsegment, List.foldlM_cons]
        exact congrArg _ (funext fun next => ih next hlength)
      · have hround := @atPathFrom_succ rest hdot rounds value [] (.inl rfl)
        rw [List.append_nil] at hround
        rw [hround, List.splitOn_eq_singleton hdot, List.foldlM_cons]
        rfl

theorem atPath_eq (path : Bytes) (value : Value) :
    value.atPath path = (path.splitOn 46).foldlM wrappedStep value :=
  atPathFrom_eq value (Nat.lt_succ_self path.length)

/-! ### Numbers that come down -/

/-- A value in a document. -/
inductive PartOf : Value → Value → Prop where
  | refl (value : Value) : PartOf value value
  | element {part item : Value} {items : List Value} (hitem : item ∈ items)
      (hpart : PartOf part item) : PartOf part (.array items)
  | member {part : Value} {entry : Bytes × Value} {members : List (Bytes × Value)}
      (hentry : entry ∈ members) (hpart : PartOf part entry.2) : PartOf part (.object members)

/-- The elements of every array of a document can be numbered in `size_t`. -/
def Addressable (value : Value) : Prop :=
  ∀ items, PartOf (.array items) value → items.length ≤ 2 ^ 64

/-- The rest of a path exists in a document when numbers are taken modulo `2 ^ 64`. -/
inductive Leads : Value → List Bytes → Prop where
  | here (value : Value) : Leads value []
  | element {items : List Value} {segment : Bytes} {rest : List Bytes} {next : Value}
      (hne : segment ≠ []) (hdigits : segment.all isDigit = true)
      (hnext : items[digitsValue segment % 2 ^ 64]? = some next) (hrest : Leads next rest) :
      Leads (.array items) (segment :: rest)
  | member {members : List (Bytes × Value)} {segment : Bytes} {rest : List Bytes}
      {entry : Bytes × Value} (hne : segment ≠ [])
      (hentry : members.find? (·.1 == segment) = some entry) (hrest : Leads entry.2 rest) :
      Leads (.object members) (segment :: rest)

/-- The path comes to an array with a number that is not below its size, but is so modulo `2 ^ 64`,
and the rest of it exists from the element with the smaller number on. -/
inductive Misled : Value → List Bytes → Prop where
  | here {items : List Value} {segment : Bytes} {rest : List Bytes} {next : Value}
      (hne : segment ≠ []) (hdigits : segment.all isDigit = true)
      (hlarge : items.length ≤ digitsValue segment)
      (hnext : items[digitsValue segment % 2 ^ 64]? = some next) (hrest : Leads next rest) :
      Misled (.array items) (segment :: rest)
  | further {value next : Value} {segment : Bytes} {rest : List Bytes}
      (hstep : value.step segment = some next) (hrest : Misled next rest) :
      Misled value (segment :: rest)

section Walks

variable {value next : Value} {segment : Bytes} {rest : List Bytes}

theorem Addressable.step (h : value.Addressable) (hstep : value.step segment = some next) :
    next.Addressable := by
  intro items hpart
  obtain ⟨-, ⟨all, rfl, -, hnext⟩ | ⟨members, entry, rfl, hentry, rfl⟩⟩ := stepBy_cases hstep
  · exact h items (.element (List.mem_of_getElem? hnext) hpart)
  · exact h items (.member (List.mem_of_find?_eq_some hentry) hpart)

/-- A number that is an index is read as it is. -/
theorem wrappedStep_of_step (h : value.Addressable) (hstep : value.step segment = some next) :
    value.wrappedStep segment = some next := by
  obtain ⟨hne, ⟨items, rfl, hdigits, hnext⟩ | ⟨members, entry, rfl, hentry, rfl⟩⟩ :=
    stepBy_cases hstep
  · have hindex : digitsValue segment < items.length := (List.getElem?_eq_some_iff.mp hnext).1
    have hsize : items.length ≤ 2 ^ 64 := h items (.refl _)
    rw [wrappedStep, stepBy_array hne, if_pos hdigits, Nat.mod_eq_of_lt (hindex.trans_le hsize)]
    exact hnext
  · rw [wrappedStep, stepBy_object hne, hentry]
    rfl

theorem leads_cons_iff : Leads value (segment :: rest)
    ↔ ∃ next, value.wrappedStep segment = some next ∧ Leads next rest := by
  constructor
  · intro hleads
    cases hleads with
    | element hne hdigits hnext hrest =>
        exact ⟨_, by rw [wrappedStep, stepBy_array hne, if_pos hdigits, hnext], hrest⟩
    | member hne hentry hrest =>
        exact ⟨_, by rw [wrappedStep, stepBy_object hne, hentry]; rfl, hrest⟩
  · rintro ⟨next, hstep, hrest⟩
    obtain ⟨hne, ⟨items, rfl, hdigits, hnext⟩ | ⟨members, entry, rfl, hentry, rfl⟩⟩ :=
      stepBy_cases hstep
    · exact .element hne hdigits hnext hrest
    · exact .member hne hentry hrest

theorem leads_iff (value : Value) (segments : List Bytes) :
    Leads value segments ↔ segments.foldlM wrappedStep value ≠ none := by
  induction segments generalizing value with
  | nil => exact iff_of_true (.here value) (Option.some_ne_none value)
  | cons segment rest ih =>
      rw [leads_cons_iff, List.foldlM_cons]
      cases value.wrappedStep segment with
      | none => simp
      | some next =>
          simp only [Option.some.injEq, exists_eq_left']
          exact ih next

/-- A path is misled at a step exactly if it is the source alone that goes on, and to an end. -/
theorem misled_cons_iff (hstep : value.step segment = none)
    (hwrapped : value.wrappedStep segment = some next) :
    Misled value (segment :: rest) ↔ Leads next rest := by
  constructor
  · intro hmisled
    cases hmisled with
    | here hne hdigits hlarge hnext hrest =>
        rw [wrappedStep, stepBy_array hne, if_pos hdigits, hnext] at hwrapped
        exact Option.some.inj hwrapped ▸ hrest
    | further hstep' hrest =>
        rw [hstep] at hstep'
        cases hstep'
  · intro hleads
    obtain ⟨hne, ⟨items, rfl, hdigits, hnext⟩ | ⟨members, entry, rfl, hentry, rfl⟩⟩ :=
      stepBy_cases hwrapped
    · rw [step, stepBy_array hne, if_pos hdigits] at hstep
      exact .here hne hdigits (List.getElem?_eq_none_iff.mp hstep) hnext hleads
    · rw [step, stepBy_object hne, hentry] at hstep
      cases hstep

theorem misled_cons_of_step (hstep : value.step segment = some next) :
    Misled value (segment :: rest) ↔ Misled next rest := by
  constructor
  · intro hmisled
    cases hmisled with
    | here hne hdigits hlarge hnext hrest =>
        rw [step, stepBy_array hne, if_pos hdigits, id, List.getElem?_eq_none hlarge] at hstep
        cases hstep
    | further hstep' hrest =>
        rw [hstep] at hstep'
        exact Option.some.inj hstep' ▸ hrest
  · exact .further hstep

theorem not_misled_of_none (hstep : value.step segment = none)
    (hwrapped : value.wrappedStep segment = none) : ¬Misled value (segment :: rest) := by
  intro hmisled
  cases hmisled with
  | here hne hdigits hlarge hnext hrest =>
      rw [wrappedStep, stepBy_array hne, if_pos hdigits, hnext] at hwrapped
      cases hwrapped
  | further hstep' hrest =>
      rw [hstep] at hstep'
      cases hstep'

/-- Numbers below `2 ^ 64` mislead nobody. -/
theorem not_misled_of_lt {segments : List Bytes}
    (h : ∀ segment ∈ segments, digitsValue segment < 2 ^ 64) : ¬Misled value segments := by
  intro hmisled
  induction hmisled with
  | here hne hdigits hlarge hnext hrest =>
      rw [Nat.mod_eq_of_lt (h _ (List.mem_cons_self ..)), List.getElem?_eq_none hlarge] at hnext
      cases hnext
  | further hstep hrest ih => exact ih fun segment hmem => h segment (List.mem_cons_of_mem _ hmem)

/-- **Paths.** `at_path` is the fold of single steps exactly if no number on the way that is too
large for its array comes down to an index from which the rest of the path exists. -/
theorem atPath_eq_fold_iff (path : Bytes) (value : Value) (hsize : value.Addressable) :
    value.atPath path = (path.splitOn 46).foldlM step value ↔ ¬Misled value (path.splitOn 46) := by
  rw [atPath_eq]
  generalize path.splitOn 46 = segments
  induction segments generalizing value with
  | nil =>
      refine iff_of_true rfl fun hmisled => ?_
      cases hmisled
  | cons segment rest ih =>
      rw [List.foldlM_cons, List.foldlM_cons]
      cases hstep : value.step segment with
      | some next =>
          rw [wrappedStep_of_step hsize hstep, misled_cons_of_step hstep]
          exact ih next (hsize.step hstep)
      | none =>
          cases hwrapped : value.wrappedStep segment with
          | none => exact iff_of_true rfl (not_misled_of_none hstep hwrapped)
          | some next =>
              rw [misled_cons_iff hstep hwrapped, leads_iff, not_not]
              exact Iff.rfl

/-- The second of two titles. -/
theorem atPath_eq_fold_iff_title :
    let titles : Value := .array [.string (str "editor"), .string (str "browser")]
    titles.atPath (str "1") = ((str "1").splitOn 46).foldlM step titles := by
  refine (atPath_eq_fold_iff (str "1") _ ?_).mpr (not_misled_of_lt ?_)
  · intro items hpart
    cases hpart with
    | refl => decide
    | element hitem hpart =>
        rcases List.mem_cons.mp hitem with rfl | hitem
        · cases hpart
        · obtain rfl := List.mem_singleton.mp hitem
          cases hpart
  · intro segment hsegment
    obtain rfl := List.mem_singleton.mp hsegment
    decide

/-- Element 2 ^ 64 of an array of one. -/
theorem atPath_wraps : ¬∀ (path : Bytes) (value : Value),
    value.atPath path = (path.splitOn 46).foldlM step value := by
  intro hfold
  have hwrong := hfold (str "18446744073709551616") (.array [.null])
  have hfound : (array [.null]).atPath (str "18446744073709551616") = some .null := rfl
  have hnone : ((str "18446744073709551616").splitOn 46).foldlM step (.array [.null]) = none := rfl
  rw [hfound, hnone] at hwrong
  cases hwrong

end Walks

end ContextSnap.Json.Value
