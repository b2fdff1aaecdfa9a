import ContextSnap.Proof.LibraryRuns

/-!
# Ids by their first characters

`resolve_id_prefix` upper-cases what it is given and uses it as a LIKE pattern as it is, so `%` and
`_` in it are wildcards, while the ids of ULIDs never contain them. Ids are told apart by case when
they are stored, and not when they are looked up.
-/

namespace ContextSnap.Storage

open Sql

/-! ### Patterns without wildcards -/

/-- Whether a text starts with another one when the case of letters is ignored. -/
def StartsWith (idStart id : Bytes) : Prop := lower idStart <+: lower id

instance (idStart id : Bytes) : Decidable (StartsWith idStart id) :=
  inferInstanceAs (Decidable (_ <+: _))

def HasWildcard (text : Bytes) : Prop := 37 ∈ text ∨ 95 ∈ text

instance (text : Bytes) : Decidable (HasWildcard text) := instDecidableOr

/-- The pattern that is bound for the start of an id. -/
def likePattern (idStart : Bytes) : Bytes := idStart.map toUpper ++ str "%"

/-- What holds of all 256 bytes holds of a byte. -/
theorem forall_byte {P : UInt8 → Prop} (h : ∀ v : BitVec 8, P (.ofBitVec v)) (c : UInt8) : P c :=
  h c.toBitVec

@[simp]
theorem toLower_toUpper (c : UInt8) : toLower (toUpper c) = toLower c :=
  @forall_byte (fun c => toLower (toUpper c) = toLower c) (by decide) c

theorem toUpper_wildcard (c : UInt8) :
    (toUpper c = 37 ↔ c = 37) ∧ (toUpper c = 95 ↔ c = 95) :=
  @forall_byte (fun c => (toUpper c = 37 ↔ c = 37) ∧ (toUpper c = 95 ↔ c = 95))
    (by decide) c

theorem toLower_wildcard (c : UInt8) :
    (toLower c = 37 ↔ c = 37) ∧ (toLower c = 95 ↔ c = 95) :=
  @forall_byte (fun c => (toLower c = 37 ↔ c = 37) ∧ (toLower c = 95 ↔ c = 95))
    (by decide) c

theorem decodeChar_wildcard : decodeChar 37 = none ∧ decodeChar 95 = none := by decide

theorem like_percent (text : Bytes) : like (str "%") text = true := by
  have htail : [] ∈ text.tails := by simp
  exact List.any_eq_true.mpr ⟨[], htail, rfl⟩

theorem like_ordinary_nil {c : UInt8} {pattern : Bytes} (hpercent : c ≠ 37)
    (hunderscore : c ≠ 95) : like (c :: pattern) [] = false := by
  rw [like]
  · exact hpercent
  · exact hunderscore

theorem like_ordinary_cons {c d : UInt8} {pattern text : Bytes} (hpercent : c ≠ 37)
    (hunderscore : c ≠ 95) :
    like (c :: pattern) (d :: text) = (toLower c == toLower d && like pattern text) := by
  rw [like]
  · exact hpercent
  · exact hunderscore

/-- A pattern of ordinary characters and a `%` matches the texts that start with them. -/
theorem like_ordinary {pattern text : Bytes} (h : ¬ HasWildcard pattern) :
    like (pattern ++ str "%") text = true ↔ lower pattern <+: lower text := by
  induction pattern generalizing text with
  | nil => exact iff_of_true (like_percent text) (List.nil_prefix)
  | cons c pattern ih =>
      rw [HasWildcard, List.mem_cons, List.mem_cons, not_or, not_or, not_or] at h
      obtain ⟨⟨hpercent, hrest⟩, hunderscore, hrest'⟩ := h
      cases text with
      | nil =>
          rw [List.cons_append, like_ordinary_nil (Ne.symm hpercent) (Ne.symm hunderscore)]
          exact iff_of_false (by decide) fun hstarts => by cases List.prefix_nil.mp hstarts
      | cons d text =>
          rw [List.cons_append, like_ordinary_cons (Ne.symm hpercent) (Ne.symm hunderscore),
            Bool.and_eq_true, beq_iff_eq, ih (not_or.mpr ⟨hrest, hrest'⟩)]
          exact List.cons_prefix_cons.symm

theorem hasWildcard_toUpper {text : Bytes} : HasWildcard (text.map toUpper) ↔ HasWildcard text := by
  simp only [HasWildcard, List.mem_map]
  constructor
  · rintro (⟨c, hc, hupper⟩ | ⟨c, hc, hupper⟩)
    · exact .inl ((toUpper_wildcard c).1.mp hupper ▸ hc)
    · exact .inr ((toUpper_wildcard c).2.mp hupper ▸ hc)
  · rintro (hc | hc)
    · exact .inl ⟨37, hc, by decide⟩
    · exact .inr ⟨95, hc, by decide⟩

theorem lower_toUpper (text : Bytes) : lower (text.map toUpper) = lower text := by
  simp [lower, Function.comp_def]

/-- Without wildcards the pattern finds the ids that start with the text. -/
theorem like_likePattern {idStart id : Bytes} (h : ¬ HasWildcard idStart) :
    like (likePattern idStart) id = true ↔ StartsWith idStart id := by
  rw [likePattern, like_ordinary (hasWildcard_toUpper.not.mpr h), lower_toUpper, StartsWith]

/-- No ULID starts with a text that has a wildcard. -/
theorem not_startsWith_of_wildcard {idStart id : Bytes} (hwild : HasWildcard idStart)
    (hid : isValidUlid id = true) : ¬ StartsWith idStart id := by
  intro hstarts
  have hdecodes : ∀ c ∈ id, (decodeChar c).isSome = true := by
    simp only [isValidUlid, Bool.and_eq_true, List.all_eq_true] at hid
    exact hid.1.2
  have hfound : ∀ w : UInt8, w ∈ idStart → toLower w ∈ lower id := fun w hw =>
    hstarts.subset (List.mem_map_of_mem hw)
  rcases hwild with hw | hw
  · obtain ⟨c, hc, hlower⟩ := List.mem_map.mp (hfound 37 hw)
    have hdecoded := hdecodes c hc
    rw [(toLower_wildcard c).1.mp hlower, decodeChar_wildcard.1] at hdecoded
    cases hdecoded
  · obtain ⟨c, hc, hlower⟩ := List.mem_map.mp (hfound 95 hw)
    have hdecoded := hdecodes c hc
    rw [(toLower_wildcard c).2.mp hlower, decodeChar_wildcard.2] at hdecoded
    cases hdecoded

/-! ### Resolution -/

def storedIds (tables : Tables Table) : List Bytes :=
  (tables .snapshots).map fun row => (row "id").toText

/-- The stored ids that the pattern matches. -/
def likeIds (idStart : Bytes) (tables : Tables Table) : List Bytes :=
  (storedIds tables).filter fun id => like (likePattern idStart) id

/-- What becomes of the ids that were found, of which no more than two are read. -/
def resolution (idStart : Bytes) : List Bytes → Result Bytes
  | [] => .error (Err.notFound (str "no snapshot matches " ++ idStart) (str "storage.repository"))
  | [id] => .ok id
  | _ => .error
      (Err.invalid (str "id prefix is ambiguous: " ++ idStart) (str "storage.repository"))

theorem resolution_eq_ok {idStart id : Bytes} {ids : List Bytes} :
    resolution idStart ids = .ok id ↔ ids = [id] := by
  rcases ids with _ | ⟨found, _ | ⟨other, rest⟩⟩ <;> simp [resolution]

theorem resolution_take (idStart : Bytes) (ids : List Bytes) :
    resolution idStart (ids.take 2) = resolution idStart ids := by
  rcases ids with _ | ⟨found, _ | ⟨other, rest⟩⟩ <;> rfl

section Resolve

variable {env : Environment} {c : Connection}

/-- The ids in the order of the statement. -/
def foundIds (idStart : Bytes) (tables : Tables Table) : List Bytes :=
  (((tables .snapshots).filter fun row => like (likePattern idStart) (row "id").toText).mergeSort
    selectIdsLike.le).map fun row => (row "id").toText

theorem foundIds_perm (idStart : Bytes) (tables : Tables Table) :
    (foundIds idStart tables).Perm (likeIds idStart tables) := by
  rw [likeIds, storedIds, List.filter_map]
  exact (List.mergeSort_perm _ _).map _

theorem rows_selectIdsLike (idStart : Bytes) (tables : Tables Table) :
    (selectIdsLike.rows tables [.text (likePattern idStart)]).map (columnText · 0)
      = (foundIds idStart tables).take 2 := by
  rw [foundIds, ← List.map_take]
  exact List.map_map

/-- What the lookup makes of its rows. -/
def pickId (idStart : Bytes) : List (List SqlValue) → Repo Bytes
  | [] => throw (Err.notFound (str "no snapshot matches " ++ idStart) (str "storage.repository"))
  | [row] => return columnText row 0
  | _ =>
      throw (Err.invalid (str "id prefix is ambiguous: " ++ idStart) (str "storage.repository"))

theorem resolveIdPrefix_eq (idStart : Bytes) :
    resolveIdPrefix idStart = withLock (do
      prepare [.snapshots]
      pickId idStart (← rows selectIdsLike [.text (likePattern idStart)])) := by
  rfl

theorem pickId_run (idStart : Bytes) (found : List (List SqlValue)) (c : Connection) :
    (pickId idStart found).run.run (handler env) c
      = some (resolution idStart (found.map (columnText · 0)), c) := by
  rcases found with _ | ⟨row, _ | ⟨other, rest⟩⟩ <;> rfl

/-- A lookup where SQLite works. -/
theorem resolveIdPrefix_run (hworks : ∀ n, env.fault n = none) (hfree : c.locked = false)
    (idStart : Bytes) :
    (resolveIdPrefix idStart).run.run (handler env) c
      = some (resolution idStart (foundIds idStart c.tables), c.counted.counted) := by
  have hunlocked : c.counted.counted = { c.counted.counted with locked := false } := by
    rw [← hfree]
    rfl
  rw [resolveIdPrefix_eq, withLock_run hfree, run_bind_ok (prepare_ok _ (hworks _)),
    run_bind_ok (rows_run hworks _ _ _), pickId_run, rows_selectIdsLike, resolution_take, hunlocked]
  rfl

end Resolve

/-! ### Uniqueness -/

/-- The only stored id that starts with a text. -/
def OnlyStart (idStart : Bytes) (tables : Tables Table) (id : Bytes) : Prop :=
  (id ∈ storedIds tables ∧ StartsWith idStart id)
    ∧ ∀ other ∈ storedIds tables, StartsWith idStart other → other = id

/-- A lookup finds the only id that starts with a text, if there is just one, and a stored id finds
itself. -/
def ResolvesStart (env : Environment) (c : Connection) (idStart : Bytes) : Prop :=
  ∃ result c', (resolveIdPrefix idStart).run.run (handler env) c = some (result, c')
    ∧ (∀ id, result = .ok id ↔ OnlyStart idStart c.tables id)
    ∧ (idStart ∈ storedIds c.tables → result = .ok idStart)

theorem eq_singleton_iff_of_nodup {α : Type} {values : List α} (h : values.Nodup) {value : α} :
    values = [value] ↔ value ∈ values ∧ ∀ other ∈ values, other = value := by
  constructor
  · rintro rfl
    simp
  · rintro ⟨hmem, honly⟩
    exact List.perm_singleton.mp
      ((List.perm_ext_iff_of_nodup h (List.nodup_singleton _)).mpr fun other =>
        ⟨fun hother => List.mem_singleton.mpr (honly other hother),
          fun hother => List.mem_singleton.mp hother ▸ hmem⟩)

section Unique

variable {tables : Tables Table} (hnamed : Named (tables .snapshots)) {idStart id : Bytes}

include hnamed

theorem valid_of_mem_storedIds (h : id ∈ storedIds tables) : isValidUlid id = true := by
  obtain ⟨row, hrow, rfl⟩ := List.mem_map.mp h
  obtain ⟨found, hfound, hvalid⟩ := hnamed.ulids row hrow
  rw [hfound]
  exact hvalid

theorem nodup_storedIds : (storedIds tables).Nodup := by
  have hids : (tables .snapshots).map (· "id") = (storedIds tables).map SqlValue.text := by
    rw [storedIds, List.map_map]
    apply List.map_congr_left
    intro row hrow
    obtain ⟨found, hfound, -⟩ := hnamed.ulids row hrow
    simp [hfound, SqlValue.toText]
  have hdistinct := hnamed.distinct
  rw [hids] at hdistinct
  exact hdistinct.of_map _

theorem resolution_ok_iff :
    resolution idStart (foundIds idStart tables) = .ok id
      ↔ (id ∈ storedIds tables ∧ like (likePattern idStart) id = true)
        ∧ ∀ other ∈ storedIds tables, like (likePattern idStart) other = true → other = id := by
  have hnodup : (likeIds idStart tables).Nodup := (nodup_storedIds hnamed).filter _
  rw [resolution_eq_ok]
  have hperm : foundIds idStart tables = [id] ↔ likeIds idStart tables = [id] := by
    constructor
    · intro h
      exact List.perm_singleton.mp (h ▸ (foundIds_perm idStart tables).symm)
    · intro h
      exact List.perm_singleton.mp (h ▸ foundIds_perm idStart tables)
  rw [hperm, eq_singleton_iff_of_nodup hnodup]
  simp [likeIds]

theorem resolution_ordinary (h : ¬ HasWildcard idStart) :
    resolution idStart (foundIds idStart tables) = .ok id ↔ OnlyStart idStart tables id := by
  simp only [resolution_ok_iff hnamed, like_likePattern h, OnlyStart]

/-- With a wildcard the ids that match do not start with the text. -/
theorem resolution_wildcard_iff (h : HasWildcard idStart) :
    (∀ id, resolution idStart (foundIds idStart tables) = .ok id ↔ OnlyStart idStart tables id)
      ↔ (likeIds idStart tables).length ≠ 1 := by
  have hnever : ∀ id, ¬ OnlyStart idStart tables id := fun id honly =>
    not_startsWith_of_wildcard h (valid_of_mem_storedIds hnamed honly.1.1) honly.1.2
  rw [← (foundIds_perm idStart tables).length_eq, Ne, List.length_eq_one_iff]
  constructor
  · rintro hall ⟨id, hid⟩
    exact hnever id ((hall id).mp (resolution_eq_ok.mpr hid))
  · intro hnone id
    exact iff_of_false (fun hok => hnone ⟨id, resolution_eq_ok.mp hok⟩) (hnever id)

/-- A stored id is the only one that starts with it unless there is another spelling of it. -/
theorem onlyStart_self_iff (h : id ∈ storedIds tables) :
    OnlyStart id tables id
      ↔ ∀ other ∈ storedIds tables, lower other = lower id → other = id := by
  have hlength : ∀ other ∈ storedIds tables, other.length = kUlidLength := by
    intro other hother
    have hvalid := valid_of_mem_storedIds hnamed hother
    simp only [isValidUlid, Bool.and_eq_true, beq_iff_eq] at hvalid
    exact hvalid.1.1
  have hstarts : ∀ other ∈ storedIds tables, (StartsWith id other ↔ lower other = lower id) := by
    intro other hother
    constructor
    · intro hbegins
      refine (hbegins.eq_of_length ?_).symm
      simp [lower, hlength other hother, hlength id h]
    · intro heq
      rw [StartsWith, heq]
  constructor
  · intro honly other hother heq
    exact honly.2 other hother ((hstarts other hother).mpr heq)
  · intro hunique
    refine ⟨⟨h, List.prefix_rfl⟩, fun other hother hbegins => ?_⟩
    exact hunique other hother ((hstarts other hother).mp hbegins)

end Unique

/-- **Ids by their start.** In what captures and imports make of an empty database, a lookup does
what it is for exactly when a text with wildcards does not match a single id, and a stored id has no
other spelling. -/
theorem resolvesStart_iff {env : Environment} (hworks : ∀ n, env.fault n = none) {c : Connection}
    (hreachable : SnapshotManager.Reachable c) (idStart : Bytes) :
    ResolvesStart env c idStart
      ↔ (HasWildcard idStart → (likeIds idStart c.tables).length ≠ 1)
        ∧ (idStart ∈ storedIds c.tables →
          ∀ other ∈ storedIds c.tables, lower other = lower idStart → other = idStart) := by
  obtain ⟨⟨hnamed, -⟩, hfree⟩ := hreachable.tidy
  have hrun := resolveIdPrefix_run hworks hfree idStart
  have hresolves : ResolvesStart env c idStart
      ↔ (∀ id, resolution idStart (foundIds idStart c.tables) = .ok id
          ↔ OnlyStart idStart c.tables id)
        ∧ (idStart ∈ storedIds c.tables →
          resolution idStart (foundIds idStart c.tables) = .ok idStart) := by
    constructor
    · rintro ⟨result, c', hrun', hall, hself⟩
      rw [hrun] at hrun'
      cases hrun'
      exact ⟨hall, hself⟩
    · rintro ⟨hall, hself⟩
      exact ⟨_, _, hrun, hall, hself⟩
  rw [hresolves]
  by_cases hwild : HasWildcard idStart
  · have hnotStored : idStart ∉ storedIds c.tables := fun hmem =>
      not_startsWith_of_wildcard hwild (valid_of_mem_storedIds hnamed hmem) List.prefix_rfl
    rw [resolution_wildcard_iff hnamed hwild]
    simp only [hwild, hnotStored, forall_const, false_implies]
  · have hall : ∀ id, resolution idStart (foundIds idStart c.tables) = .ok id
        ↔ OnlyStart idStart c.tables id := fun id => resolution_ordinary hnamed hwild
    simp only [hall, hwild, false_implies, implies_true, true_and]
    exact forall_congr' fun hmem => onlyStart_self_iff hnamed hmem

/-! ### Two spellings -/

section Spellings

open SnapshotManager (Reachable importSnapshot oneSecond)

def capitalId : Bytes := str "01ARZ3NDEKTSV4RRFFQ69G5FAV"

def smallId : Bytes := str "01arz3ndektsv4rrffq69g5fav"

/-- A document of a snapshot without contents. -/
def documentOf (id : Bytes) : Bytes :=
  str "\x7b\"metadata\":\x7b\"id\":\"" ++ id ++ str "\"\x7d\x7d"

theorem reachable_twoSpellings :
    ∃ c, Reachable c ∧ storedIds c.tables = [capitalId, smallId] := by
  have hruns : (((importSnapshot (documentOf capitalId) (str "json") []).run.run
      (SnapshotManager.handler oneSecond) ((), emptyConnection)).bind fun first =>
        (importSnapshot (documentOf smallId) (str "json") []).run.run
          (SnapshotManager.handler oneSecond) first.2).any
            (fun second => storedIds second.2.2.tables = [capitalId, smallId]) = true := by
    decide +kernel
  obtain ⟨⟨result, ⟨⟩, c⟩, hrun, hids⟩ := (Option.any_eq_true _ _).mp hruns
  obtain ⟨⟨result₁, ⟨⟩, c₁⟩, hfirst, hsecond⟩ := Option.bind_eq_some_iff.mp hrun
  refine ⟨c, ?_, of_decide_eq_true hids⟩
  exact .importSnapshot (.importSnapshot .empty hfirst) hsecond

theorem resolvesStart_iff_capitalId :
    ∃ c, Reachable c ∧ (ResolvesStart {} c capitalId
      ↔ (HasWildcard capitalId → (likeIds capitalId c.tables).length ≠ 1)
        ∧ (capitalId ∈ storedIds c.tables →
          ∀ other ∈ storedIds c.tables, lower other = lower capitalId → other = capitalId)) := by
  obtain ⟨c, hreachable, -⟩ := reachable_twoSpellings
  exact ⟨c, hreachable, resolvesStart_iff (fun _ => rfl) hreachable capitalId⟩

/-- The id of a snapshot that is stored under two spellings does not resolve. -/
theorem not_resolvesStart :
    ¬ ∀ c, Reachable c → ∀ idStart, idStart ≠ [] → ResolvesStart {} c idStart := by
  intro hall
  obtain ⟨c, hreachable, hids⟩ := reachable_twoSpellings
  have hresolves := hall c hreachable capitalId (by decide)
  obtain ⟨result, c', hrun, hunique, hself⟩ := hresolves
  have hmem : capitalId ∈ storedIds c.tables := by simp [hids]
  have honly := (hunique capitalId).mp (hself hmem)
  have hother : smallId ∈ storedIds c.tables := by simp [hids]
  have hsame := honly.2 smallId hother (by decide)
  exact absurd hsame (by decide)

end Spellings

end ContextSnap.Storage
