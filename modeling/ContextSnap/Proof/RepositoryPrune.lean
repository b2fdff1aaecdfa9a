import ContextSnap.Proof.RepositoryRetention

/-!
# What a prune keeps

Two deletions from the snapshots, one by age and one by number. The second one keeps the front of
the rows in the order of their creation, and both take their children along.
-/

namespace ContextSnap.Storage

open Sql

/-! ### Deleted snapshots and their children -/

/-- The snapshot with this id was there and is not any more. -/
def Gone (before after : Tables Table) (id : SqlValue) : Prop :=
  (∃ row ∈ before .snapshots, row "id" = id) ∧ ∀ row ∈ after .snapshots, row "id" ≠ id

instance (before after : Tables Table) : DecidablePred (Gone before after) := fun _ =>
  inferInstanceAs (Decidable (_ ∧ _))

/-- The rows of the other tables go with their snapshot, and only with it. -/
def Cascades (before after : Tables Table) : Prop :=
  ∀ table, table ≠ .snapshots →
    after table = (before table).filter fun row => !decide (Gone before after (row "snapshot_id"))

theorem Cascades.refl (tables : Tables Table) : Cascades tables tables := by
  intro table _
  symm
  apply List.filter_eq_self.mpr
  intro row _
  rw [Bool.not_eq_true', decide_eq_false_iff_not]
  rintro ⟨⟨snapshot, hsnapshot, hid⟩, hnone⟩
  exact hnone snapshot hsnapshot hid

theorem gone_iff {before middle after : Tables Table} (hmiddle : middle .snapshots ⊆ before .snapshots)
    (hafter : after .snapshots ⊆ middle .snapshots) (id : SqlValue) :
    Gone before after id ↔ Gone before middle id ∨ Gone middle after id := by
  constructor
  · rintro ⟨hbefore, hnone⟩
    by_cases hkept : ∃ row ∈ middle .snapshots, row "id" = id
    · exact .inr ⟨hkept, hnone⟩
    · push Not at hkept
      exact .inl ⟨hbefore, hkept⟩
  · rintro (⟨hbefore, hnone⟩ | ⟨⟨row, hrow, hid⟩, hnone⟩)
    · exact ⟨hbefore, fun row hrow => hnone row (hafter hrow)⟩
    · exact ⟨⟨row, hmiddle hrow, hid⟩, hnone⟩

theorem Cascades.trans {before middle after : Tables Table}
    (hmiddle : middle .snapshots ⊆ before .snapshots)
    (hafter : after .snapshots ⊆ middle .snapshots) (h : Cascades before middle)
    (h' : Cascades middle after) : Cascades before after := by
  intro table htable
  rw [h' table htable, h table htable, List.filter_filter]
  apply List.filter_congr
  intro row _
  rw [← Bool.not_or, ← Bool.decide_or, Bool.not_inj_iff, decide_eq_decide,
    gone_iff hmiddle hafter, or_comm]

section Delete

variable (condition : Condition Table) (values : List SqlValue) (tables : Tables Table)

/-- What a DELETE of snapshots names, in the form of the cascade. -/
def goneRows (table : Table) (row : Row) : Bool :=
  decide (table = .snapshots) && condition tables values row

theorem doomed_snapshots (depth : Nat) (row : Row) :
    doomed schema tables (goneRows condition values tables) depth .snapshots row
      = condition tables values row := by
  cases depth <;> simp [doomed, goneRows, schema]

theorem refersTo_snapshotKey (row snapshot : Row) :
    refersTo snapshotKey row snapshot = decide (snapshot "id" = row "snapshot_id") := by
  simp [refersTo, snapshotKey, Row.key, Bool.beq_eq_decide_eq, eq_comm]

/-- The snapshot that a row belongs to goes. -/
def orphaned (row : Row) : Bool :=
  ((tables .snapshots).filter (condition tables values)).any fun old =>
    decide (old "id" = row "snapshot_id")

theorem any_refersTo_snapshotKey (depth : Nat) (row : Row) :
    ((tables .snapshots).any fun parent => refersTo snapshotKey row parent
        && doomed schema tables (goneRows condition values tables) depth .snapshots parent)
      = orphaned condition values tables row := by
  rw [orphaned, List.any_filter]
  congr 1
  funext parent
  rw [doomed_snapshots, refersTo_snapshotKey, Bool.and_comm]

/-- A row whose table only refers to snapshots. -/
theorem doomed_child {table : Table} (htable : table ≠ .snapshots)
    (hkeys : (schema table).foreignKeys = [snapshotKey]) (depth : Nat) (row : Row) :
    doomed schema tables (goneRows condition values tables) (depth + 1) table row
      = orphaned condition values tables row := by
  rw [doomed, hkeys, List.any_cons, List.any_nil, Bool.or_false]
  simp only [goneRows, htable, decide_false, Bool.false_and, Bool.false_or]
  exact any_refersTo_snapshotKey condition values tables depth row

/-- The window of a tab belongs to the snapshot of the tab. -/
theorem doomed_tab (row : Row) :
    doomed schema tables (goneRows condition values tables) cascadeDepth .tabs row
      = orphaned condition values tables row := by
  have hkeys : (schema .tabs).foreignKeys = [snapshotKey, windowKey] := rfl
  have hwindow : ∀ parent, refersTo windowKey row parent = true →
      parent "snapshot_id" = row "snapshot_id" := by
    intro parent hrefers
    have hkey : row.key ["snapshot_id", "window_id"] = parent.key ["snapshot_id", "window_id"] :=
      beq_iff_eq.mp hrefers
    exact (List.cons.inj hkey).1.symm
  rw [cascadeDepth, doomed, hkeys, List.any_cons, List.any_cons, List.any_nil, Bool.or_false]
  simp only [goneRows, reduceCtorEq, decide_false, Bool.false_and, Bool.false_or]
  have hsnapshots := any_refersTo_snapshotKey condition values tables 1 row
  rw [Bool.eq_iff_iff, Bool.or_eq_true]
  constructor
  · rintro (hdirect | hindirect)
    · exact hsnapshots ▸ hdirect
    · obtain ⟨parent, hparent, hboth⟩ := List.any_eq_true.mp hindirect
      obtain ⟨hrefers, hdoomed⟩ := Bool.and_eq_true _ _ ▸ hboth
      have horphaned := @doomed_child condition values tables .windows (by decide) rfl 0 parent
      rw [orphaned, ← hwindow parent hrefers]
      exact horphaned.symm.trans hdoomed
  · intro horphaned
    exact .inl (hsnapshots.trans horphaned)

theorem foldl_afterDelete_search (gone : List Row) (tables : Tables Table) :
    gone.foldl afterDelete tables .snapshotSearch
      = (tables .snapshotSearch).filter fun row =>
          !gone.any fun old => decide (old "id" = row "snapshot_id") := by
  induction gone generalizing tables with
  | nil => simp
  | cons old gone ih =>
      rw [List.foldl_cons, ih]
      change ((tables .snapshotSearch).filter fun row => row "snapshot_id" != old "id").filter _ = _
      rw [List.filter_filter]
      apply List.filter_congr
      intro row _
      rw [List.any_cons, Bool.not_or, Bool.and_comm]
      simp [bne, Bool.beq_eq_decide_eq, eq_comm]

/-- The children that a DELETE of snapshots leaves. -/
theorem afterStatement_delete_child {table : Table} (htable : table ≠ .snapshots) :
    afterStatement (.delete .snapshots condition) values tables table
      = (tables table).filter fun row => !orphaned condition values tables row := by
  have hdoomed : ∀ child, child ≠ .snapshots → child ≠ .snapshotSearch → ∀ row,
      doomed schema tables (goneRows condition values tables) cascadeDepth child row
        = orphaned condition values tables row := by
    intro child hchild hsearch row
    by_cases htabs : child = .tabs
    · subst htabs
      exact doomed_tab condition values tables row
    · apply doomed_child condition values tables hchild
      cases child
      case snapshots => exact absurd rfl hchild
      case snapshotSearch => exact absurd rfl hsearch
      case tabs => exact absurd rfl htabs
      all_goals rfl
  rw [afterStatement_delete]
  by_cases hsearch : table = .snapshotSearch
  · subst hsearch
    have hkept : deleteRows schema cascadeDepth tables .snapshots (condition tables values)
        .snapshotSearch = tables .snapshotSearch := by
      apply List.filter_eq_self.mpr
      intro row _
      simp [doomed, cascadeDepth, schema]
    rw [foldl_afterDelete_search, hkept]
    rfl
  · rw [foldl_afterDelete _ _ hsearch]
    apply List.filter_congr
    intro row _
    exact congrArg (!·) (hdoomed table htable hsearch row)

/-- **Cascades.** A DELETE of snapshots deletes the rows that belong to the deleted snapshots, and no
others. -/
theorem cascades_delete (hids : ((tables .snapshots).map (· "id")).Nodup) :
    Cascades tables (afterStatement (.delete .snapshots condition) values tables) := by
  intro table htable
  rw [afterStatement_delete_child condition values tables htable]
  apply List.filter_congr
  intro row _
  rw [Bool.not_inj_iff, Bool.eq_iff_iff, decide_eq_true_eq, orphaned, List.any_eq_true]
  unfold Gone
  rw [afterStatement_delete_snapshots]
  constructor
  · rintro ⟨old, hold, hid⟩
    obtain ⟨hmem, hgone⟩ := List.mem_filter.mp hold
    refine ⟨⟨old, hmem, of_decide_eq_true hid⟩, ?_⟩
    intro kept hkept hsame
    obtain ⟨hkeptMem, hstays⟩ := List.mem_filter.mp hkept
    have heq : kept = old := List.inj_on_of_nodup_map hids hkeptMem hmem
      (hsame.trans (of_decide_eq_true hid).symm)
    rw [heq, hgone] at hstays
    cases hstays
  · rintro ⟨⟨old, hold, hid⟩, hnone⟩
    refine ⟨old, List.mem_filter.mpr ⟨hold, ?_⟩, decide_eq_true hid⟩
    by_contra hstays
    exact hnone old (List.mem_filter.mpr ⟨hold, by simpa using hstays⟩) hid

end Delete

/-! ### The rows of the snapshots -/

/-- `now - retention_days`, in milliseconds. -/
def cutoff (query : PruneQuery) (now : Timestamp) : Int :=
  (toUnixMillis now).toInt - query.retentionDays.toNat * 86400000

def createdAt (row : Row) : Int := (row "created_at").toInt64.toInt

/-- A row that a prune may delete: not a favorite, unless favorites are not kept. -/
def Prunable (query : PruneQuery) (row : Row) : Prop :=
  query.keepFavorites = false ∨ row "favorite" = .integer 0

instance (query : PruneQuery) : DecidablePred (Prunable query) := fun _ =>
  inferInstanceAs (Decidable (_ ∨ _))

section Snapshots

variable {query : PruneQuery} {now : Timestamp} {rows : List Row}

theorem prunable_iff {row : Row} : prunable query row = true ↔ Prunable query row := by
  simp [prunable, Prunable]

/-- The milliseconds of a time are far from the bounds of the type. -/
theorem toInt_toUnixMillis_bounds (timestamp : Timestamp) :
    -9223372036855 ≤ (toUnixMillis timestamp).toInt
      ∧ (toUnixMillis timestamp).toInt ≤ 9223372036855 := by
  have hlow := timestamp.le_toInt
  have hhigh := timestamp.toInt_lt
  have hmillion : (1000000 : Int64).toInt = 1000000 := by decide
  have hsign : Int.sign 1000000 = 1 := rfl
  have hquotient : -9223372036855 ≤ timestamp.toInt.tdiv 1000000
      ∧ timestamp.toInt.tdiv 1000000 ≤ 9223372036855 := by
    rw [Int.tdiv_eq_ediv, hsign]
    constructor <;> split <;> omega
  rw [toUnixMillis, Int64.toInt_div, hmillion, Int.bmod_eq_of_le (by omega) (by omega)]
  exact hquotient

theorem toInt_mul_of_bounds {a b : Int64} (hlow : -9223372036854775808 ≤ a.toInt * b.toInt)
    (hhigh : a.toInt * b.toInt < 9223372036854775808) : (a * b).toInt = a.toInt * b.toInt := by
  rw [Int64.toInt_mul, Int.bmod_eq_of_le (by omega) (by omega)]

/-- No overflow gets into the cutoff. -/
theorem toInt_pruneCutoff : (pruneCutoff query now).toInt = cutoff query now := by
  have hdays := query.retentionDays.toNat_lt
  have hmillis := toInt_toUnixMillis_bounds now
  have h₀ := toInt_uint32ToInt64 query.retentionDays
  have h₁ : (uint32ToInt64 query.retentionDays * 24).toInt = query.retentionDays.toNat * 24 := by
    have hfactor : (24 : Int64).toInt = 24 := by decide
    rw [toInt_mul_of_bounds] <;> rw [h₀, hfactor] <;> omega
  have h₂ : (uint32ToInt64 query.retentionDays * 24 * 60).toInt
      = query.retentionDays.toNat * 1440 := by
    have hfactor : (60 : Int64).toInt = 60 := by decide
    rw [toInt_mul_of_bounds] <;> rw [h₁, hfactor] <;> omega
  have h₃ : (uint32ToInt64 query.retentionDays * 24 * 60 * 60).toInt
      = query.retentionDays.toNat * 86400 := by
    have hfactor : (60 : Int64).toInt = 60 := by decide
    rw [toInt_mul_of_bounds] <;> rw [h₂, hfactor] <;> omega
  have h₄ : (uint32ToInt64 query.retentionDays * 24 * 60 * 60 * 1000).toInt
      = query.retentionDays.toNat * 86400000 := by
    have hfactor : (1000 : Int64).toInt = 1000 := by decide
    rw [toInt_mul_of_bounds] <;> rw [h₃, hfactor] <;> omega
  rw [pruneCutoff, cutoff, Int64.toInt_sub, h₄]
  apply Int.bmod_eq_of_le <;> omega

theorem createdAt_eq (hrows : Constrained (schema .snapshots) rows) {row : Row} (hrow : row ∈ rows) :
    ∃ i : Int64, row "created_at" = .integer i ∧ createdAt row = i.toInt := by
  obtain ⟨i, hi⟩ := hrows.integer hrow (show integerColumn "created_at" none ∈ snapshotColumns by
    simp [snapshotColumns]) rfl rfl
  exact ⟨i, hi, by rw [createdAt]; exact congrArg (fun value => value.toInt64.toInt) hi⟩

theorem tooOld_iff (hrows : Constrained (schema .snapshots) rows) {row : Row} (hrow : row ∈ rows) :
    tooOld query now row = true
      ↔ query.retentionDays > 0 ∧ createdAt row < cutoff query now ∧ Prunable query row := by
  obtain ⟨i, hi, hcreated⟩ := createdAt_eq hrows hrow
  rw [tooOld, hi, hcreated, ← toInt_pruneCutoff]
  simp [SqlValue.le, Int64.le_iff_toInt_le, prunable_iff]

theorem byNewest_iff (hrows : Constrained (schema .snapshots) rows) {row other : Row}
    (hrow : row ∈ rows) (hother : other ∈ rows) :
    byNewest row other = true ↔ createdAt other ≤ createdAt row := by
  obtain ⟨i, hi, hcreated⟩ := createdAt_eq hrows hrow
  obtain ⟨j, hj, hcreated'⟩ := createdAt_eq hrows hother
  rw [byNewest, hi, hj, hcreated, hcreated']
  simp [SqlValue.le, Int64.le_iff_toInt_le]

theorem ids_nodup (hrows : Constrained (schema .snapshots) rows) : (rows.map (· "id")).Nodup := by
  have hkeys := hrows.distinct (List.cons_ne_nil _ _)
  have hsame : rows.map (·.key (schema .snapshots).primaryKey)
      = (rows.map (· "id")).map fun id => [id] := by
    rw [List.map_map]
    rfl
  exact (hsame ▸ hkeys).of_map _

/-- The prunable rows, newest first. -/
def newest (query : PruneQuery) (rows : List Row) : List Row :=
  (rows.filter (prunable query)).mergeSort byNewest

theorem newest_perm : (newest query rows).Perm (rows.filter (prunable query)) :=
  List.mergeSort_perm _ _

theorem newest_pairwise : (newest query rows).Pairwise fun row other => byNewest row other = true :=
  List.pairwise_mergeSort byNewest_trans byNewest_total _

theorem mem_newest {row : Row} : row ∈ newest query rows ↔ row ∈ rows ∧ Prunable query row := by
  rw [newest_perm.mem_iff, List.mem_filter, prunable_iff]

/-- The rows without the surplus ones. -/
def untrimmed (query : PruneQuery) (rows : List Row) : List Row :=
  rows.filter fun row => !(surplus query rows).any fun other => other "id" = row "id"

/-- Of the prunable rows, the front stays. -/
theorem untrimmed_perm (hrows : Constrained (schema .snapshots) rows) :
    ((untrimmed query rows).filter (prunable query)).Perm
      ((newest query rows).take query.maxSnapshots.toNat) := by
  have hids : ((newest query rows).map (· "id")).Nodup := by
    rw [(newest_perm.map _).nodup_iff]
    exact (ids_nodup hrows).sublist (List.filter_sublist.map _)
  rw [untrimmed, List.filter_comm, ← StableSort.filter_key_drop hids]
  exact (newest_perm.symm.filter _)

theorem countP_untrimmed_le (hrows : Constrained (schema .snapshots) rows) :
    (untrimmed query rows).countP (prunable query) ≤ query.maxSnapshots.toNat := by
  rw [List.countP_eq_length_filter, (untrimmed_perm hrows).length_eq]
  exact List.length_take_le _ _

/-- A row that does not stay is prunable, and there are enough others that are not older. -/
theorem of_not_mem_untrimmed (hrows : Constrained (schema .snapshots) rows) {row : Row}
    (hrow : row ∈ rows) (hgone : row ∉ untrimmed query rows) :
    Prunable query row ∧ query.maxSnapshots.toNat ≤ ((untrimmed query rows).filter
      (prunable query)).countP fun other => createdAt row ≤ createdAt other := by
  have hsurplus : row ∈ surplus query rows := by
    by_contra hnot
    apply hgone
    apply List.mem_filter.mpr ⟨hrow, _⟩
    rw [Bool.not_eq_true', List.any_eq_false]
    intro other hother hid
    have heq : other = row := List.inj_on_of_nodup_map (ids_nodup hrows)
      (surplus_subset query hother) hrow (of_decide_eq_true hid)
    exact hnot (heq ▸ hother)
  have hnewest : row ∈ newest query rows := List.mem_of_mem_drop hsurplus
  have hlength : query.maxSnapshots.toNat ≤ (newest query rows).length := by
    have hpositive := List.length_pos_of_mem hsurplus
    rw [surplus, List.length_drop] at hpositive
    change 0 < (newest query rows).length - _ at hpositive
    omega
  refine ⟨(mem_newest.mp hnewest).2, ?_⟩
  rw [(untrimmed_perm hrows).countP_eq]
  have hall : ((newest query rows).take query.maxSnapshots.toNat).countP
      (fun other => createdAt row ≤ createdAt other)
      = ((newest query rows).take query.maxSnapshots.toNat).length := by
    apply List.countP_eq_length.mpr
    intro other hother
    have hle := StableSort.le_of_mem_take_drop newest_pairwise hother hsurplus
    have hmem := (mem_newest.mp (List.mem_of_mem_take hother)).1
    exact decide_eq_true ((byNewest_iff hrows hmem hrow).mp hle)
  rw [hall, List.length_take, min_eq_left hlength]

/-- With no more prunable rows than are kept, all rows stay. -/
theorem surplus_eq_nil (hfew : rows.countP (prunable query) ≤ query.maxSnapshots.toNat) :
    surplus query rows = [] := by
  apply List.drop_eq_nil_of_le
  rw [List.length_mergeSort, ← List.countP_eq_length_filter]
  exact hfew

end Snapshots

/-! ### Both deletions -/

/-- What a prune is for. -/
structure Retains (query : PruneQuery) (now : Timestamp) (before after : Tables Table)
    (count : UInt32) : Prop where
  kept : (after .snapshots).Sublist (before .snapshots)
  favorites : query.keepFavorites = true →
    ∀ row ∈ before .snapshots, row "favorite" = .integer 1 → row ∈ after .snapshots
  aged : query.retentionDays > 0 →
    ∀ row ∈ after .snapshots, Prunable query row → ¬createdAt row < cutoff query now
  bounded : query.maxSnapshots > 0 →
    (after .snapshots).countP (fun row => decide (Prunable query row)) ≤ query.maxSnapshots.toNat
  needed : ∀ row ∈ before .snapshots, row ∉ after .snapshots →
    Prunable query row ∧ (query.retentionDays = 0 ∨ ¬createdAt row < cutoff query now →
      query.maxSnapshots > 0
        ∧ query.maxSnapshots.toNat ≤ (after .snapshots).countP fun other =>
          decide (Prunable query other ∧ createdAt row ≤ createdAt other))
  children : Cascades before after
  number : count = UInt32.ofNat ((before .snapshots).length - (after .snapshots).length)

section Retains

variable {query : PruneQuery} {now : Timestamp} {tables : Tables Table}
  (hrows : Constrained (schema .snapshots) (tables .snapshots))

theorem trimmed_eq (hmax : query.maxSnapshots > 0) :
    trimmed query tables .snapshots = untrimmed query (tables .snapshots) :=
  trimmed_snapshots query hmax

theorem trimmed_sublist : (trimmed query tables .snapshots).Sublist (tables .snapshots) := by
  by_cases hmax : query.maxSnapshots > 0
  · rw [trimmed_eq hmax]
    exact List.filter_sublist
  · rw [trimmed, if_neg hmax]

theorem expired_sublist : (expired query now tables .snapshots).Sublist (tables .snapshots) := by
  rw [expired_snapshots]
  exact List.filter_sublist

theorem cascades_expired (hids : ((tables .snapshots).map (· "id")).Nodup) :
    Cascades tables (expired query now tables) := by
  unfold expired
  split
  · exact cascades_delete _ _ _ hids
  · exact Cascades.refl _

theorem cascades_trimmed (hids : ((tables .snapshots).map (· "id")).Nodup) :
    Cascades tables (trimmed query tables) := by
  unfold trimmed
  split
  · exact cascades_delete _ _ _ hids
  · exact Cascades.refl _

theorem pruned_sublist :
    (trimmed query (expired query now tables) .snapshots).Sublist (tables .snapshots) :=
  trimmed_sublist.trans expired_sublist

theorem cascades_pruned (hids : ((tables .snapshots).map (· "id")).Nodup) :
    Cascades tables (trimmed query (expired query now tables)) :=
  (cascades_expired hids).trans expired_sublist.subset trimmed_sublist.subset
    (cascades_trimmed (hids.sublist (expired_sublist.map _)))

include hrows in
theorem mem_expired {row : Row} : row ∈ expired query now tables .snapshots
    ↔ row ∈ tables .snapshots
      ∧ ¬(query.retentionDays > 0 ∧ createdAt row < cutoff query now ∧ Prunable query row) := by
  rw [expired_snapshots, List.mem_filter, Bool.not_eq_true']
  constructor
  · rintro ⟨hrow, hyoung⟩
    exact ⟨hrow, fun hold => Bool.false_ne_true (hyoung.symm.trans ((tooOld_iff hrows hrow).mpr hold))⟩
  · rintro ⟨hrow, hyoung⟩
    exact ⟨hrow, Bool.eq_false_iff.mpr fun hold => hyoung ((tooOld_iff hrows hrow).mp hold)⟩

/-- What the trim deletes is prunable, and there are enough others that are not older. -/
theorem of_not_mem_trimmed (hrows : Constrained (schema .snapshots) (tables .snapshots)) {row : Row}
    (hrow : row ∈ tables .snapshots) (hgone : row ∉ trimmed query tables .snapshots) :
    query.maxSnapshots > 0 ∧ Prunable query row
      ∧ query.maxSnapshots.toNat ≤ (trimmed query tables .snapshots).countP fun other =>
        decide (Prunable query other ∧ createdAt row ≤ createdAt other) := by
  have hmax : query.maxSnapshots > 0 := by
    by_contra hmax
    rw [trimmed, if_neg hmax] at hgone
    exact hgone hrow
  rw [trimmed_eq hmax] at hgone ⊢
  obtain ⟨hprunable, hcount⟩ := of_not_mem_untrimmed hrows hrow hgone
  refine ⟨hmax, hprunable, hcount.trans_eq ?_⟩
  rw [List.countP_filter]
  apply List.countP_congr
  intro other _
  simp [prunable_iff, and_comm]

/-- **Retention.** Both deletions together do what a prune is for. -/
theorem retains (hrows : Constrained (schema .snapshots) (tables .snapshots)) :
    Retains query now tables (trimmed query (expired query now tables))
      (UInt32.ofNat ((tables .snapshots).length
        - (trimmed query (expired query now tables) .snapshots).length)) := by
  have hexpired := hrows.sublist (@expired_sublist query now tables)
  have hsub := @trimmed_sublist query (expired query now tables)
  constructor
  · exact pruned_sublist
  · intro hkeep row hrow hfavorite
    have hnot : ¬Prunable query row := by
      rintro (hdrop | hplain)
      · exact Bool.false_ne_true (hdrop.symm.trans hkeep)
      · rw [hfavorite] at hplain
        exact absurd hplain (by decide)
    have hyoung : row ∈ expired query now tables .snapshots :=
      (mem_expired hrows).mpr ⟨hrow, fun hold => hnot hold.2.2⟩
    by_contra hgone
    exact hnot (of_not_mem_trimmed hexpired hyoung hgone).2.1
  · intro hdays row hrow hprunable hold
    exact ((mem_expired hrows).mp (hsub.subset hrow)).2 ⟨hdays, hold, hprunable⟩
  · intro hmax
    rw [trimmed_eq hmax]
    refine le_trans (le_of_eq ?_) (countP_untrimmed_le hexpired)
    apply List.countP_congr
    intro row _
    simp [prunable_iff]
  · intro row hrow hgone
    by_cases hyoung : row ∈ expired query now tables .snapshots
    · obtain ⟨hmax, hprunable, hcount⟩ := of_not_mem_trimmed hexpired hyoung hgone
      exact ⟨hprunable, fun _ => ⟨hmax, hcount⟩⟩
    · have hold : query.retentionDays > 0 ∧ createdAt row < cutoff query now
          ∧ Prunable query row := by
        by_contra hnot
        exact hyoung ((mem_expired hrows).mpr ⟨hrow, hnot⟩)
      refine ⟨hold.2.2, ?_⟩
      rintro (hzero | hyounger)
      · have hdays := hold.1
        rw [hzero] at hdays
        exact absurd hdays (by decide)
      · exact absurd hold.2.1 hyounger
  · exact cascades_pruned (ids_nodup hrows)
  · rfl

/-- A deletion that leaves the snapshots as they are leaves everything. -/
theorem expired_eq_self (h : expired query now tables .snapshots = tables .snapshots) :
    expired query now tables = tables := by
  rcases expired_cases query now tables with ⟨-, hless⟩ | ⟨-, hsame⟩
  · rw [h] at hless
    exact absurd hless (lt_irrefl _)
  · exact hsame

theorem trimmed_eq_self (h : trimmed query tables .snapshots = tables .snapshots) :
    trimmed query tables = tables := by
  rcases trimmed_cases query tables with ⟨-, hless⟩ | ⟨-, hsame⟩
  · rw [h] at hless
    exact absurd hless (lt_irrefl _)
  · exact hsame

include hrows in
/-- What is left of the snapshots, a second prune leaves. -/
theorem prune_again :
    trimmed query (expired query now (trimmed query (expired query now tables)))
      = trimmed query (expired query now tables) := by
  have hsub := @trimmed_sublist query (expired query now tables)
  have hyoung : expired query now (trimmed query (expired query now tables))
      = trimmed query (expired query now tables) := by
    apply expired_eq_self
    rw [expired_snapshots]
    apply List.filter_eq_self.mpr
    intro row hrow
    have hbefore := hsub.subset hrow
    rw [expired_snapshots] at hbefore
    exact (List.mem_filter.mp hbefore).2
  rw [hyoung]
  apply trimmed_eq_self
  by_cases hmax : query.maxSnapshots > 0
  · rw [trimmed_snapshots query hmax, surplus_eq_nil]
    · simp
    · rw [trimmed_eq hmax]
      exact countP_untrimmed_le (hrows.sublist expired_sublist)
  · rw [trimmed, if_neg hmax]

end Retains

/-! ### Runs -/

section Runs

variable {env : Environment} {c c' : Connection} {query : PruneQuery} {count : UInt32}

theorem pruneWith_inv {condition : Condition Table} {value : Int64}
    (h : (pruneWith (.delete .snapshots condition) value).run.run (handler env) c
      = some (.ok count, c')) :
    c'.tables = afterStatement (.delete .snapshots condition) [.integer value] c.tables
      ∧ c'.readings = c.readings
      ∧ count = UInt32.ofNat ((c.tables .snapshots).length - (c'.tables .snapshots).length) := by
  obtain ⟨_, c₁, hprepare, h⟩ := run_bind_inv h
  obtain ⟨_, c₂, hexecute, h⟩ := run_bind_inv h
  cases h
  have hprepared : c₁ = c.counted := by
    cases hfault : env.fault c.calls with
    | some failure =>
        rw [prepare_fault _ hfault] at hprepare
        cases hprepare
    | none =>
        rw [prepare_ok _ hfault] at hprepare
        cases hprepare
        rfl
  rcases execute_cases env c₁ (.delete .snapshots condition) [.integer value] with
    ⟨failure, hfail⟩ | ⟨tables, changed, hdml, hdone⟩
  · rw [hfail] at hexecute
    cases hexecute
  · rw [hdone] at hexecute
    cases hexecute
    cases hdml
    rw [hprepared]
    refine ⟨rfl, rfl, congrArg UInt32.ofNat ?_⟩
    change ((c.tables .snapshots).filter (condition c.tables [.integer value])).length
      = (c.tables .snapshots).length
        - (afterStatement (.delete .snapshots condition) [.integer value] c.tables
          .snapshots).length
    rw [afterStatement_delete_snapshots]
    have hsplit := @List.length_eq_length_filter_add _ (c.tables .snapshots)
      (condition c.tables [.integer value])
    omega

theorem pruneExpired_inv (h : (pruneExpired query).run.run (handler env) c = some (.ok count, c')) :
    c'.tables = expired query (env.clock c.readings) c.tables
      ∧ count = UInt32.ofNat ((c.tables .snapshots).length - (c'.tables .snapshots).length) := by
  unfold pruneExpired at h
  by_cases hdays : query.retentionDays > 0
  · rw [if_pos hdays] at h
    obtain ⟨now, c₁, hnow, h⟩ := run_bind_inv h
    cases hnow
    obtain ⟨htables, -, hcount⟩ := pruneWith_inv h
    refine ⟨?_, hcount⟩
    rw [htables, expired, if_pos hdays]
    rfl
  · rw [if_neg hdays] at h
    cases h
    rw [expired, if_neg hdays, Nat.sub_self]
    exact ⟨rfl, rfl⟩

theorem pruneSurplus_inv (h : (pruneSurplus query).run.run (handler env) c = some (.ok count, c')) :
    c'.tables = trimmed query c.tables
      ∧ count = UInt32.ofNat ((c.tables .snapshots).length - (c'.tables .snapshots).length) := by
  unfold pruneSurplus at h
  by_cases hmax : query.maxSnapshots > 0
  · rw [if_pos hmax] at h
    obtain ⟨htables, -, hcount⟩ := pruneWith_inv h
    refine ⟨?_, hcount⟩
    rw [htables, trimmed, if_pos hmax]
    rfl
  · rw [if_neg hmax] at h
    cases h
    rw [trimmed, if_neg hmax, Nat.sub_self]
    exact ⟨rfl, rfl⟩

/-- What the statements of a prune leave and return. -/
theorem pruneAll_inv (h : (pruneAll query).run.run (handler env) c = some (.ok count, c')) :
    c'.tables = trimmed query (expired query (env.clock c.readings) c.tables)
      ∧ count = UInt32.ofNat ((c.tables .snapshots).length - (c'.tables .snapshots).length) := by
  obtain ⟨first, c₁, hexpired, hrest⟩ := run_bind_inv h
  obtain ⟨second, c₂, hsurplus, hreturn⟩ := run_bind_inv hrest
  cases hreturn
  obtain ⟨htables, hcount⟩ := pruneExpired_inv hexpired
  obtain ⟨htables', hcount'⟩ := pruneSurplus_inv hsurplus
  have hfewer := (@expired_sublist query (env.clock c.readings) c.tables).length_le
  have hfewer' := (@trimmed_sublist query c₁.tables).length_le
  rw [← htables'] at hfewer'
  have hmiddle : (c₁.tables .snapshots).length ≤ (c.tables .snapshots).length := by
    rw [htables]
    exact hfewer
  refine ⟨htables'.trans (congrArg _ htables), ?_⟩
  rw [hcount, hcount', ← UInt32.ofNat_add]
  apply congrArg UInt32.ofNat
  change (c.tables .snapshots).length - (c₁.tables .snapshots).length
      + ((c₁.tables .snapshots).length - (c'.tables .snapshots).length)
    = (c.tables .snapshots).length - (c'.tables .snapshots).length
  omega

theorem prune_inv (h : (prune query).run.run (handler env) c = some (.ok count, c')) :
    c'.tables = trimmed query (expired query (env.clock c.readings) c.tables)
      ∧ count = UInt32.ofNat ((c.tables .snapshots).length - (c'.tables .snapshots).length) := by
  obtain ⟨-, c₁, htransaction, rfl⟩ := withLock_inv h
  obtain ⟨-, c₂, hbody, rfl⟩ := withTransaction_inv htransaction
  obtain ⟨htables, hcount⟩ := pruneAll_inv hbody
  exact ⟨htables, hcount⟩

/-- **Prune.** A prune that succeeds keeps exactly the rows that it is to keep, with their children,
and a second one at the same time removes nothing. -/
theorem prune_retains (hrows : Constrained (schema .snapshots) (c.tables .snapshots))
    (h : (prune query).run.run (handler env) c = some (.ok count, c')) :
    Retains query (env.clock c.readings) c.tables c'.tables count
      ∧ ∀ again c'', (prune query).run.run (handler env) c' = some (.ok again, c'') →
        env.clock c'.readings = env.clock c.readings →
          c''.tables = c'.tables ∧ again = 0 := by
  obtain ⟨htables, hcount⟩ := prune_inv h
  constructor
  · rw [hcount, htables]
    exact retains hrows
  · intro again c'' hagain hclock
    obtain ⟨htables', hcount'⟩ := prune_inv hagain
    have hsame : c''.tables = c'.tables := by
      rw [htables', hclock, htables]
      exact prune_again hrows
    refine ⟨hsame, ?_⟩
    rw [hcount', hsame, Nat.sub_self]
    rfl

end Runs

/-- A favorite and two other snapshots. -/
def threeSnapshots : Connection :=
  { tables := Function.update (fun _ => []) .snapshots
      [snapshotRow { metadata := { id := str "01J8Z2K3M4N5P6Q7R8S9T0V1W1", favorite := true } },
        snapshotRow { metadata := { id := str "01J8Z2K3M4N5P6Q7R8S9T0V1W2" } },
        snapshotRow { metadata := { id := str "01J8Z2K3M4N5P6Q7R8S9T0V1W3" } }] }

theorem prune_retains_threeSnapshots :
    Constrained (schema .snapshots) (threeSnapshots.tables .snapshots)
      ∧ ∃ count c', (prune { maxSnapshots := 1 }).run.run (handler {}) threeSnapshots
          = some (.ok count, c')
        ∧ Retains { maxSnapshots := 1 } 0 threeSnapshots.tables c'.tables count
        ∧ ∀ again c'', (prune { maxSnapshots := 1 }).run.run (handler {}) c'
            = some (.ok again, c'') → (0 : Timestamp) = 0 → c''.tables = c'.tables ∧ again = 0 := by
  have hrows : Constrained (schema .snapshots) (threeSnapshots.tables .snapshots) := by
    constructor
    · intro row hrow
      simp only [threeSnapshots, Function.update_self, List.mem_cons, List.not_mem_nil, or_false]
        at hrow
      rcases hrow with rfl | rfl | rfl <;> exact List.all_eq_true.mp (snapshotRow_admitted _)
    · intro _
      decide
  obtain ⟨count, c', hrun, -⟩ :=
    @prune_run {} (fun _ => rfl) threeSnapshots rfl rfl { maxSnapshots := 1 }
  exact ⟨hrows, count, c', hrun, prune_retains hrows hrun⟩

end ContextSnap.Storage
