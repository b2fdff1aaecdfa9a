import Mathlib.Tactic

/-!
# Greedy assignment

A scan keeps the first candidate that scores better than everything before it. Such a choice is
stable: candidates that lose may leave without changing the winner. A greedy assignment gives each
item in turn the best of what is left, and stability is what makes the assignments for two lists of
items comparable.
-/

namespace ContextSnap.Greedy

/-! ### The best candidate -/

section Champion

variable {β L : Type} [LinearOrder L] (score : β → L)

/-- One candidate against the best so far. -/
def challenge (best : Option β × L) (candidate : β) : Option β × L :=
  if best.2 < score candidate then (some candidate, score candidate) else best

def champion (start : L) (candidates : List β) : Option β × L :=
  candidates.foldl (challenge score) (none, start)

variable {score} {start : L} {candidates : List β}

/-- What a scan ends with. -/
structure IsChampion (score : β → L) (start : L) (candidates : List β) (best : Option β × L) :
    Prop where
  start_le : start ≤ best.2
  le_best : ∀ c ∈ candidates, score c ≤ best.2
  of_none : best.1 = none → best.2 = start
  of_some : ∀ m, best.1 = some m → best.2 = score m ∧ start < score m
    ∧ ∃ front back, candidates = front ++ m :: back ∧ ∀ c ∈ front, score c < score m

variable (score start candidates) in
theorem isChampion_champion :
    IsChampion score start candidates (champion score start candidates) := by
  induction candidates using List.reverseRecOn with
  | nil => exact ⟨le_refl _, by simp, fun _ => rfl, by simp [champion]⟩
  | append_singleton front c ih =>
      have hstep : champion score start (front ++ [c])
          = challenge score (champion score start front) c := by
        simp [champion, List.foldl_append]
      rw [hstep, challenge]
      by_cases hlt : (champion score start front).2 < score c
      · rw [if_pos hlt]
        refine ⟨le_of_lt (lt_of_le_of_lt ih.start_le hlt), ?_, by simp, ?_⟩
        · intro d hd
          rcases List.mem_append.mp hd with hd | hd
          · exact le_of_lt (lt_of_le_of_lt (ih.le_best d hd) hlt)
          · rw [List.mem_singleton.mp hd]
        · intro m hm
          obtain rfl := Option.some.inj hm
          refine ⟨rfl, lt_of_le_of_lt ih.start_le hlt, front, [], rfl, ?_⟩
          exact fun d hd => lt_of_le_of_lt (ih.le_best d hd) hlt
      · rw [if_neg hlt]
        refine ⟨ih.start_le, ?_, ih.of_none, ?_⟩
        · intro d hd
          rcases List.mem_append.mp hd with hd | hd
          · exact ih.le_best d hd
          · rw [List.mem_singleton.mp hd]
            exact not_lt.mp hlt
        · intro m hm
          obtain ⟨heq, hstart, before, behind, hsplit, hbefore⟩ := ih.of_some m hm
          exact ⟨heq, hstart, before, behind ++ [c], by simp [hsplit], hbefore⟩

/-- The winner is the only candidate with the properties of one. -/
theorem champion_eq_some {m : β} {front back : List β} (hsplit : candidates = front ++ m :: back)
    (hstart : start < score m) (hfront : ∀ c ∈ front, score c < score m)
    (hback : ∀ c ∈ back, score c ≤ score m) :
    champion score start candidates = (some m, score m) := by
  have hfronts : (champion score start front).2 < score m := by
    have h := isChampion_champion score start front
    cases hbest : (champion score start front).1 with
    | none =>
        rw [h.of_none hbest]
        exact hstart
    | some d =>
        obtain ⟨heq, -, before, behind, hd, -⟩ := h.of_some d hbest
        rw [heq]
        exact hfront d (by simp [hd])
  have hkeep : ∀ behind : List β, (∀ c ∈ behind, score c ≤ score m) →
      behind.foldl (challenge score) (some m, score m) = (some m, score m) := by
    intro behind
    induction behind with
    | nil => exact fun _ => rfl
    | cons c behind ih =>
        intro h
        rw [List.foldl_cons, challenge, if_neg (not_lt.mpr (h c (by simp)))]
        exact ih fun d hd => h d (List.mem_cons_of_mem _ hd)
  have hwin : challenge score (champion score start front) m = (some m, score m) := if_pos hfronts
  rw [champion, hsplit, List.foldl_append, List.foldl_cons]
  change back.foldl _ (challenge score (champion score start front) m) = _
  rw [hwin]
  exact hkeep back hback

/-- **Losers may leave.** -/
theorem champion_filter {keep : β → Bool} {m : β}
    (hbest : (champion score start candidates).1 = some m) (hm : keep m = true) :
    champion score start (candidates.filter keep) = (some m, score m) := by
  have h := isChampion_champion score start candidates
  obtain ⟨heq, hstart, front, back, hsplit, hfront⟩ := h.of_some m hbest
  refine champion_eq_some (?_ : _ = front.filter keep ++ m :: back.filter keep) hstart ?_ ?_
  · rw [hsplit, List.filter_append, List.filter_cons, if_pos hm]
  · exact fun c hc => hfront c (List.mem_of_mem_filter hc)
  · intro c hc
    have hmem : c ∈ candidates := by
      rw [hsplit]
      exact List.mem_append_right _ (List.mem_cons_of_mem _ (List.mem_of_mem_filter hc))
    exact heq ▸ h.le_best c hmem

variable (score start candidates) in
/-- With fewer candidates nothing better is found. -/
theorem champion_filter_le (keep : β → Bool) :
    (champion score start (candidates.filter keep)).2 ≤ (champion score start candidates).2 := by
  have h := isChampion_champion score start candidates
  have hkept := isChampion_champion score start (candidates.filter keep)
  cases hbest : (champion score start (candidates.filter keep)).1 with
  | none =>
      rw [hkept.of_none hbest]
      exact h.start_le
  | some m =>
      obtain ⟨heq, -, front, back, hsplit, -⟩ := hkept.of_some m hbest
      rw [heq]
      apply h.le_best
      have hmem : m ∈ candidates.filter keep := by simp [hsplit]
      exact List.mem_of_mem_filter hmem

/-- No candidate scores better, and none in front of it as well. -/
def IsFirstBest (score : β → L) (candidates : List β) (m : β) : Prop :=
  ∃ front back, candidates = front ++ m :: back ∧ (∀ c ∈ front, score c < score m)
    ∧ ∀ c ∈ back, score c ≤ score m

namespace IsFirstBest

variable {m m' c : β}

theorem mem (h : IsFirstBest score candidates m) : m ∈ candidates := by
  obtain ⟨front, back, hsplit, -, -⟩ := h
  rw [hsplit]
  exact List.mem_append_right _ (List.mem_cons_self ..)

theorem le_best (h : IsFirstBest score candidates m) (hc : c ∈ candidates) :
    score c ≤ score m := by
  obtain ⟨front, back, hsplit, hfront, hback⟩ := h
  rw [hsplit] at hc
  rcases List.mem_append.mp hc with hc | hc
  · exact (hfront c hc).le
  · rcases List.mem_cons.mp hc with rfl | hc
    · exact le_rfl
    · exact hback c hc

theorem singleton (score : β → L) (m : β) : IsFirstBest score [m] m :=
  ⟨[], [], rfl, by simp, by simp⟩

/-- A better candidate takes the place. -/
theorem concat_of_lt (h : IsFirstBest score candidates m) (hlt : score m < score c) :
    IsFirstBest score (candidates ++ [c]) c :=
  ⟨candidates, [], rfl, fun _ hd => (h.le_best hd).trans_lt hlt, by simp⟩

theorem concat_of_le (h : IsFirstBest score candidates m) (hle : score c ≤ score m) :
    IsFirstBest score (candidates ++ [c]) m := by
  obtain ⟨front, back, hsplit, hfront, hback⟩ := h
  refine ⟨front, back ++ [c], by simp [hsplit], hfront, fun d hd => ?_⟩
  rcases List.mem_append.mp hd with hd | hd
  · exact hback d hd
  · rw [List.mem_singleton.mp hd]
    exact hle

theorem eq (h : IsFirstBest score candidates m) (h' : IsFirstBest score candidates m') :
    m = m' := by
  have hle := h.le_best h'.mem
  have hle' := h'.le_best h.mem
  obtain ⟨front, back, hsplit, hfront, -⟩ := h
  obtain ⟨front', back', hsplit', hfront', -⟩ := h'
  -- The one that stands further behind would have a better one in front of it.
  rcases List.append_eq_append_iff.mp (hsplit.symm.trans hsplit') with
    ⟨gap, hgap, hrest⟩ | ⟨gap, hgap, hrest⟩
  · cases gap with
    | nil => exact (List.cons.inj hrest).1
    | cons d gap =>
        obtain ⟨rfl, -⟩ := List.cons.inj hrest
        exact absurd hle (not_le.mpr (hfront' m (by simp [hgap])))
  · cases gap with
    | nil => exact (List.cons.inj hrest).1.symm
    | cons d gap =>
        obtain ⟨rfl, -⟩ := List.cons.inj hrest
        exact absurd hle' (not_le.mpr (hfront m' (by simp [hgap])))

/-- Only the scores of the candidates count. -/
theorem congr {score' : β → L} (h : IsFirstBest score candidates m)
    (heq : ∀ c ∈ candidates, score c = score' c) : IsFirstBest score' candidates m := by
  have hm := heq m h.mem
  obtain ⟨front, back, rfl, hfront, hback⟩ := h
  refine ⟨front, back, rfl, fun c hc => ?_, fun c hc => ?_⟩
  · rw [← hm, ← heq c (List.mem_append_left _ hc)]
    exact hfront c hc
  · rw [← hm, ← heq c (List.mem_append_right _ (List.mem_cons_of_mem _ hc))]
    exact hback c hc

/-- A scan that changes over to every better candidate, and to no other one, ends with the first of
the best. -/
theorem foldl {σ : Type} {step : σ → β → σ} (Keeps : σ → β → Prop) {behind : List β}
    (hlt : ∀ s m, ∀ c ∈ behind, Keeps s m → score m < score c → Keeps (step s c) c)
    (hle : ∀ s m, ∀ c ∈ behind, Keeps s m → score c ≤ score m → Keeps (step s c) m) {s : σ}
    (h : IsFirstBest score candidates m) (hkeeps : Keeps s m) :
    ∃ m', IsFirstBest score (candidates ++ behind) m' ∧ Keeps (behind.foldl step s) m' := by
  induction behind generalizing candidates s m with
  | nil => exact ⟨m, by simpa using h, hkeeps⟩
  | cons c behind ih =>
      have hc : c ∈ c :: behind := List.mem_cons_self ..
      have hlts := fun s m d (hd : d ∈ behind) => hlt s m d (List.mem_cons_of_mem c hd)
      have hles := fun s m d (hd : d ∈ behind) => hle s m d (List.mem_cons_of_mem c hd)
      rw [List.append_cons, List.foldl_cons]
      rcases lt_or_ge (score m) (score c) with hbetter | hworse
      · exact ih hlts hles (h.concat_of_lt hbetter) (hlt s m c hc hkeeps hbetter)
      · exact ih hlts hles (h.concat_of_le hworse) (hle s m c hc hkeeps hworse)

end IsFirstBest

theorem exists_isFirstBest (score : β → L) (h : candidates ≠ []) :
    ∃ m, IsFirstBest score candidates m := by
  induction candidates using List.reverseRecOn with
  | nil => exact absurd rfl h
  | append_singleton front c ih =>
      rcases front.eq_nil_or_concat with rfl | ⟨_, _, hfront⟩
      · exact ⟨c, .singleton score c⟩
      · obtain ⟨m, hm⟩ := ih (by simp [hfront])
        rcases lt_or_ge (score m) (score c) with hlt | hle
        · exact ⟨c, hm.concat_of_lt hlt⟩
        · exact ⟨m, hm.concat_of_le hle⟩

/-- The winner, if its score reaches the threshold. -/
def choose (score : β → L) (start threshold : L) (candidates : List β) : Option β :=
  let best := champion score start candidates
  if threshold ≤ best.2 then best.1 else none

theorem choose_eq_some {threshold : L} {m : β}
    (h : choose score start threshold candidates = some m) :
    (champion score start candidates).1 = some m ∧ threshold ≤ score m := by
  unfold choose at h
  by_cases hle : threshold ≤ (champion score start candidates).2
  · rw [if_pos hle] at h
    exact ⟨h, ((isChampion_champion score start candidates).of_some m h).1 ▸ hle⟩
  · simp [hle] at h

theorem mem_of_choose {threshold : L} {m : β}
    (h : choose score start threshold candidates = some m) : m ∈ candidates := by
  obtain ⟨hbest, -⟩ := choose_eq_some h
  obtain ⟨-, -, front, back, hsplit, -⟩ :=
    (isChampion_champion score start candidates).of_some m hbest
  simp [hsplit]

theorem choose_filter {threshold : L} {keep : β → Bool} {m : β}
    (h : choose score start threshold candidates = some m) (hm : keep m = true) :
    choose score start threshold (candidates.filter keep) = some m := by
  obtain ⟨hbest, hthreshold⟩ := choose_eq_some h
  simp [choose, champion_filter hbest hm, hthreshold]

theorem choose_filter_none {threshold : L} (keep : β → Bool)
    (h : choose score start threshold candidates = none) :
    choose score start threshold (candidates.filter keep) = none := by
  by_contra hne
  obtain ⟨m, hm⟩ := Option.ne_none_iff_exists'.mp hne
  obtain ⟨hbest, hthreshold⟩ := choose_eq_some hm
  have hkept := isChampion_champion score start (candidates.filter keep)
  have hwhole := isChampion_champion score start candidates
  obtain ⟨heq, hstart, -⟩ := hkept.of_some m hbest
  have hle := champion_filter_le score start candidates keep
  rw [heq] at hle
  cases hwinner : (champion score start candidates).1 with
  | none =>
      rw [hwhole.of_none hwinner] at hle
      exact absurd hstart (not_lt.mpr hle)
  | some w => simp [choose, hwinner, le_trans hthreshold hle] at h

end Champion

/-! ### Assignments -/

variable {α β κ : Type}

/-- A choice from what is not taken yet that does not depend on losers. -/
structure Stable (key : β → κ) (pick : α → List κ → Option β) : Prop where
  fresh : ∀ {a taken b}, pick a taken = some b → key b ∉ taken
  stays : ∀ {a taken more b}, pick a taken = some b → taken ⊆ more → key b ∉ more →
    pick a more = some b
  none_of_none : ∀ {a taken more}, pick a taken = none → taken ⊆ more → pick a more = none

theorem filter_free_of_subset [DecidableEq κ] (key : β → κ) {taken more : List κ}
    (hsub : taken ⊆ more) (candidates : List β) :
    candidates.filter (fun c => decide (key c ∉ more))
      = (candidates.filter fun c => decide (key c ∉ taken)).filter
          fun c => decide (key c ∉ more) := by
  rw [List.filter_filter]
  apply List.filter_congr
  intro c _
  by_cases hc : key c ∈ more
  · simp [hc]
  · have hfree : key c ∉ taken := fun h => hc (hsub h)
    simp [hc, hfree]

/-- The best candidate that fits and is not taken is a stable choice. -/
theorem stable_choose {L : Type} [LinearOrder L] [DecidableEq κ] (key : β → κ)
    (score : α → β → L) (start threshold : L) (fits : α → β → Bool) (candidates : List β) :
    Stable key fun a taken => choose (score a) start threshold
      ((candidates.filter (fits a)).filter fun c => decide (key c ∉ taken)) where
  fresh h := by simpa using (List.mem_filter.mp (mem_of_choose h)).2
  stays {a taken more b} h hsub hb := by
    rw [filter_free_of_subset key hsub]
    exact choose_filter h (by simpa using hb)
  none_of_none {a taken more} h hsub := by
    rw [filter_free_of_subset key hsub]
    exact choose_filter_none _ h

section Take

variable (key : β → κ) (pick : α → List κ → Option β)

/-- One item takes what it is offered. -/
def take (taken : List κ) (a : α) : List κ := taken ++ ((pick a taken).map key).toList

/-- What is taken once every item had its turn. -/
def takeAll (items : List α) (taken : List κ) : List κ := items.foldl (take key pick) taken

variable {key pick} {taken more : List κ} {items front back : List α} {a : α} {b : β}

@[simp]
theorem takeAll_nil : takeAll key pick [] taken = taken := rfl

theorem takeAll_cons :
    takeAll key pick (a :: items) taken = takeAll key pick items (take key pick taken a) := rfl

theorem subset_take : taken ⊆ take key pick taken a := List.subset_append_left _ _

theorem mem_take {k : κ} :
    k ∈ take key pick taken a ↔ k ∈ taken ∨ ∃ b, pick a taken = some b ∧ key b = k := by
  simp [take, Option.map_eq_some_iff]

/-- More is taken by more items: what the items that `keep` keeps take among themselves is also
taken when the others have their turn in between. -/
theorem Stable.takeAll_filter_subset (hstable : Stable key pick) (keep : α → Bool)
    (hsub : taken ⊆ more) :
    takeAll key pick (items.filter keep) taken ⊆ takeAll key pick items more := by
  induction items generalizing taken more with
  | nil => exact hsub
  | cons a items ih =>
      rw [List.filter_cons, takeAll_cons]
      by_cases hkeep : keep a = true
      · rw [if_pos hkeep, takeAll_cons]
        apply ih
        intro k hk
        rcases mem_take.mp hk with hk | ⟨b, hb, hkey⟩
        · exact subset_take (hsub hk)
        · by_cases hmem : key b ∈ more
          · exact subset_take (hkey ▸ hmem)
          · exact mem_take.mpr (.inr ⟨b, hstable.stays hb hsub hmem, hkey⟩)
      · rw [if_neg hkeep]
        exact ih (List.Subset.trans hsub subset_take)

/-- **Agreement.** What an item is given among the kept items it is given among all of them, unless
an earlier item took it. -/
theorem Stable.pick_filter_iff (hstable : Stable key pick) (keep : α → Bool)
    (hpick : pick a (takeAll key pick (front.filter keep) []) = some b) :
    pick a (takeAll key pick front []) = some b ↔ key b ∉ takeAll key pick front [] := by
  constructor
  · exact hstable.fresh
  · exact hstable.stays hpick
      (hstable.takeAll_filter_subset keep (List.Subset.refl []))

end Take

end ContextSnap.Greedy
