import ContextSnap.Lib.LikePatterns
import ContextSnap.Lib.Quotation
import ContextSnap.Proof.IdPrefixes

/-!
# Texts of a caller in queries

The tags of a snapshot are one column with the text of a JSON array, and `list` looks for a tag in
it with LIKE, between quotes. So the tag is a pattern, in which letters match in either case, and
what it matches may be any stretch of the text between two quotes. `tags` reads the array and
compares.

`search` puts its text between the quotes of a literal of FTS5, where a quote that belongs to the
text would have to be written twice.
-/

namespace ContextSnap.Storage

open Sql Quotation

/-! ### The pattern of a tag -/

/-- The pattern that is bound for a tag. -/
def tagPattern (tag : Bytes) : Bytes := str "%\"" ++ tag ++ str "\"%"

/-- A tag matches something between two quotes of a text. -/
def QuotedIn (tag text : Bytes) : Prop :=
  ∃ stretch, Encloses 34 text stretch ∧ like tag stretch = true

theorem like_tagPattern {tag text : Bytes} :
    like (tagPattern tag) text = true ↔ QuotedIn tag text := by
  have hpattern : tagPattern tag = 37 :: 34 :: (tag ++ 34 :: [37]) := by
    have hfront : str "%\"" = [37, 34] := rfl
    have hend : str "\"%" = [34, 37] := rfl
    simp [tagPattern, hfront, hend]
  have hpercent : (34 : UInt8) ≠ 37 := by decide
  have hunderscore : (34 : UInt8) ≠ 95 := by decide
  have hcase : ∀ d, toLower 34 = toLower d → d = 34 := fun d h =>
    eq_of_toLower (.inl (by decide)) h.symm
  simp only [hpattern, like_percent_iff, like_cons_iff hpercent hunderscore,
    like_append_cons_iff hpercent hunderscore hcase (by decide), like_nil_iff]
  constructor
  · rintro ⟨before, -, rfl, d, -, rfl, hlower, stretch, after, rfl, hstretch, -⟩
    rw [hcase d hlower]
    exact ⟨stretch, ⟨before, after, rfl⟩, hstretch⟩
  · rintro ⟨stretch, ⟨before, after, rfl⟩, hstretch⟩
    exact ⟨before, _, rfl, 34, _, rfl, rfl, stretch, after, rfl, hstretch, after, [], by simp, rfl⟩

/-! ### Ordinary tags -/

/-- A text that JSON writes as it is. -/
def Plain (text : Bytes) : Prop := ∀ c ∈ text, 32 ≤ c ∧ c ≠ 34 ∧ c ≠ 92

instance (text : Bytes) : Decidable (Plain text) :=
  decidable_of_iff (text.all fun c => 32 ≤ c && c != 34 && c != 92) (by simp [Plain, and_assoc])

theorem escapeByte_of_plain {c : UInt8} (h : 32 ≤ c ∧ c ≠ 34 ∧ c ≠ 92) :
    Json.escapeByte c = [c] := by
  obtain ⟨hspace, hquote, hslash⟩ := h
  have hlow : ∀ d : UInt8, d < 32 → c ≠ d := by
    rintro d hd rfl
    exact absurd hd (UInt8.not_lt.mpr hspace)
  simp [Json.escapeByte, hquote, hslash, hlow, UInt8.not_lt.mpr hspace]

theorem escape_of_plain {text : Bytes} (h : Plain text) : Json.escape text = text := by
  rw [Json.escape, List.flatMap_congr fun c hc => escapeByte_of_plain (h c hc)]
  simp

theorem not_mem_of_plain {text : Bytes} (h : Plain text) : 34 ∉ text := fun hmem =>
  (h 34 hmem).2.1 rfl

/-- The text behind the quote that ends a tag. -/
def restText : List Bytes → Bytes
  | [] => [93]
  | tag :: more => 44 :: 34 :: (tag ++ 34 :: restText more)

theorem serializeItems_of_plain {tags : List Bytes} (h : ∀ tag ∈ tags, Plain tag) (depth : Nat) :
    Json.serializeItems (-1) (tags.map .string) depth ++ [93] = restText tags := by
  induction tags with
  | nil => rfl
  | cons tag more ih =>
      obtain ⟨htag, hmore⟩ := List.forall_mem_cons.mp h
      simp [Json.serializeItems, Json.serializeInto, Json.writeIndent, escape_of_plain htag,
        restText, ← ih hmore]

theorem tagsToJson_cons {tag : Bytes} {more : List Bytes} (htag : Plain tag)
    (hmore : ∀ other ∈ more, Plain other) :
    tagsToJson (tag :: more) = [91] ++ 34 :: (tag ++ 34 :: restText more) := by
  simp [tagsToJson, stringsToJson, Json.Value.dump, Json.serialize, Json.serializeInto,
    Json.writeIndent, escape_of_plain htag, ← serializeItems_of_plain hmore 1]

/-- Between two quotes is a tag or the comma behind one. -/
theorem encloses_restText {front tag stretch : Bytes} {more : List Bytes} (hfront : 34 ∉ front)
    (hplain : ∀ other ∈ tag :: more, Plain other) (hstretch : 34 ∉ stretch) :
    Encloses 34 (front ++ 34 :: (tag ++ 34 :: restText more)) stretch
      ↔ stretch ∈ tag :: more ∨ (stretch = str "," ∧ more ≠ []) := by
  obtain ⟨htag, hmore⟩ := List.forall_mem_cons.mp hplain
  have hquote := not_mem_of_plain htag
  have hhere : (∃ after, tag ++ 34 :: restText more = stretch ++ 34 :: after) ↔ stretch = tag := by
    simp only [append_mark_inj hquote hstretch]
    constructor
    · rintro ⟨-, rfl, -⟩
      rfl
    · rintro rfl
      exact ⟨_, rfl, rfl⟩
  rw [encloses_append_iff hfront, encloses_append_iff hquote, hhere]
  cases more with
  | nil =>
      have hbracket : (34 : UInt8) ∉ restText [] := by decide
      have hnone : ¬ ∃ after, restText [] = stretch ++ 34 :: after := by
        rintro ⟨after, heq⟩
        rw [heq] at hbracket
        simp at hbracket
      simp [hnone, not_encloses_of_notMem hbracket]
  | cons next more =>
      have hcomma : (34 : UInt8) ∉ str "," := by decide
      have hrest : restText (next :: more)
          = str "," ++ 34 :: (next ++ 34 :: restText more) := rfl
      have hbetween : (∃ after, restText (next :: more) = stretch ++ 34 :: after)
          ↔ stretch = str "," := by
        simp only [hrest, append_mark_inj hcomma hstretch]
        constructor
        · rintro ⟨-, rfl, -⟩
          rfl
        · rintro rfl
          exact ⟨_, rfl, rfl⟩
      rw [hbetween, hrest, encloses_restText hcomma hmore hstretch]
      simp only [List.mem_cons, ne_eq, reduceCtorEq, not_false_iff, and_true]
      tauto

theorem eq_comma_of_lower {text : Bytes} (h : lower text = lower (str ",")) : text = str "," := by
  obtain ⟨c, rfl⟩ := List.length_eq_one_iff.mp ((length_lower text).symm.trans (congrArg _ h))
  have hc : toLower c = 44 := (List.cons.inj h).1
  rw [eq_of_toLower (.inl (by decide)) hc]
  rfl

/-- Among ordinary tags an ordinary tag is found in any case of its letters, and a comma wherever
there are two. -/
theorem quotedIn_tagsToJson {tag : Bytes} {tags : List Bytes} (hwild : ¬ HasWildcard tag)
    (htag : Plain tag) (hplain : ∀ other ∈ tags, Plain other) :
    QuotedIn tag (tagsToJson tags)
      ↔ (∃ other ∈ tags, lower other = lower tag) ∨ (tag = str "," ∧ 2 ≤ tags.length) := by
  have hordinary : ∀ c ∈ tag, c ≠ 37 ∧ c ≠ 95 := fun c hc =>
    ⟨fun heq => hwild (.inl (heq ▸ hc)), fun heq => hwild (.inr (heq ▸ hc))⟩
  have hunquoted : ∀ stretch, like tag stretch = true → 34 ∉ stretch := by
    intro stretch hlike hmem
    rw [like_iff_lower_eq hordinary] at hlike
    have hlower : toLower 34 ∈ lower stretch := List.mem_map_of_mem hmem
    rw [← hlike] at hlower
    exact not_mem_of_plain htag (mem_of_mem_lower (.inl (by decide)) hlower)
  cases tags with
  | nil =>
      have hbrackets : (34 : UInt8) ∉ tagsToJson [] := by decide
      apply iff_of_false
      · rintro ⟨stretch, hencloses, -⟩
        exact not_encloses_of_notMem hbrackets hencloses
      · rintro (⟨other, hmem, -⟩ | ⟨-, hlength⟩)
        · cases hmem
        · cases hlength
  | cons first more =>
      have hfront : (34 : UInt8) ∉ ([91] : Bytes) := by decide
      obtain ⟨hfirst, hmore⟩ := List.forall_mem_cons.mp hplain
      simp only [QuotedIn, tagsToJson_cons hfirst hmore]
      constructor
      · rintro ⟨stretch, hencloses, hlike⟩
        rw [encloses_restText hfront hplain (hunquoted stretch hlike)] at hencloses
        rw [like_iff_lower_eq hordinary] at hlike
        rcases hencloses with hmem | ⟨rfl, hnext⟩
        · exact .inl ⟨stretch, hmem, hlike.symm⟩
        · exact .inr ⟨eq_comma_of_lower hlike, by
            have hpos := List.length_pos_iff.mpr hnext
            simp only [List.length_cons]
            omega⟩
      · rintro (⟨other, hmem, hlower⟩ | ⟨rfl, hlength⟩)
        · have hlike := (like_iff_lower_eq hordinary).mpr hlower.symm
          exact ⟨other, (encloses_restText hfront hplain (hunquoted other hlike)).mpr (.inl hmem),
            hlike⟩
        · have hlike := (like_iff_lower_eq hordinary).mpr rfl
          have hnext : more ≠ [] := by
            rintro rfl
            simp at hlength
          exact ⟨str ",", (encloses_restText hfront hplain (hunquoted _ hlike)).mpr
            (.inr ⟨rfl, hnext⟩), hlike⟩

/-! ### The list -/

/-- The tags of a row. -/
def rowTags (row : Row) : List Bytes := tagsFromJson (row "tags").toText

/-- The list without a tag, of rows that pass a test besides. -/
def selectWith (query : ListQuery) (keeps : Row → Bool) : Select Table :=
  let others := listSelect { query with tag := none }
  { others with
    condition := fun tables values row => keeps row && others.condition tables values row }

/-- The summaries that pass a test and the other filters, in the order of the query and cut by its
limit and offset. -/
def summariesWith (query : ListQuery) (keeps : Row → Bool) (tables : Tables Table) :
    List SnapshotSummary :=
  ((selectWith query keeps).rows tables (listValues { query with tag := none })).map summaryFromRow

/-- The parameters behind the one of the tag are numbered one higher. -/
theorem rows_listSelect_tag (query : ListQuery) (tag : Bytes) (tables : Tables Table) :
    (listSelect { query with tag := some tag }).rows tables
        (listValues { query with tag := some tag })
      = (selectWith query fun row => like (tagPattern tag) (row "tags").toText).rows tables
          (listValues { query with tag := none }) := by
  rcases query with ⟨_, _, -, _, _, _ | after, _ | before, _⟩ <;>
    simp only [Select.rows, selectWith, listSelect, Bool.and_assoc, Option.isNone_none,
      Bool.true_and, Bool.true_or, Option.isNone_some, Bool.false_or] <;> rfl

/-- A list returns, for every other field of the query, the summaries whose tags have the one it is
asked for. -/
def FiltersByTag (env : Environment) (c : Connection) (tag : Bytes) : Prop :=
  ∀ query : ListQuery, ∃ c', (list { query with tag := some tag }).run.run (handler env) c
    = some (.ok (summariesWith query (fun row => (rowTags row).contains tag) c.tables), c')

section List

variable {env : Environment} {c : Connection} (hworks : ∀ n, env.fault n = none)
  (hfree : c.locked = false)

include hworks hfree

theorem list_run (query : ListQuery) :
    (list query).run.run (handler env) c
      = some (.ok (((listSelect query).rows c.tables (listValues query)).map summaryFromRow),
          c.counted.counted) := by
  have hunlocked : c.counted.counted = { c.counted.counted with locked := false } := by
    rw [← hfree]
    rfl
  rw [list, withLock_run hfree, run_bind_ok (prepare_ok _ (hworks _)),
    run_bind_ok (rows_run hworks _ _ _), hunlocked]
  rfl

theorem list_tag_run (query : ListQuery) (tag : Bytes) :
    (list { query with tag := some tag }).run.run (handler env) c
      = some (.ok (summariesWith query (fun row => like (tagPattern tag) (row "tags").toText)
          c.tables), c.counted.counted) := by
  rw [list_run hworks hfree, rows_listSelect_tag]
  rfl

end List

/-! ### Which rows tell -/

/-- Two tests of which one looks at no more than the image of a value, and that leave the same
images. -/
theorem eq_of_filter_map_perm {α β : Type} {values : List α} {f : α → β} {p : α → Bool}
    {q : β → Bool} (h : ((values.filter p).map f).Perm ((values.filter fun a => q (f a)).map f)) :
    ∀ a ∈ values, p a = q (f a) := by
  have hpass : ∀ a ∈ values, p a = true → q (f a) = true := by
    intro a ha hp
    have hmem := h.subset (List.mem_map_of_mem (List.mem_filter.mpr ⟨ha, hp⟩))
    obtain ⟨b, hb, heq⟩ := List.mem_map.mp hmem
    exact heq ▸ (List.mem_filter.mp hb).2
  have hsublist : ((values.filter fun a => q (f a)).filter p) = values.filter p := by
    rw [List.filter_filter]
    apply List.filter_congr
    intro a ha
    cases hp : p a with
    | false => rfl
    | true => exact hpass a ha hp
  have hall : (values.filter fun a => q (f a)).filter p = values.filter fun a => q (f a) := by
    apply List.filter_sublist.eq_of_length
    rw [hsublist]
    simpa using h.length_eq
  intro a ha
  cases hq : q (f a) with
  | false => exact Bool.eq_false_iff.mpr fun hp => by simp [hpass a ha hp] at hq
  | true => exact List.filter_eq_self.mp hall a (List.mem_filter.mpr ⟨ha, hq⟩)

/-- A query that cuts nothing off, whose limit becomes −1. -/
def unlimited : ListQuery := { limit := 18446744073709551615 }

theorem rows_unlimited (keeps : Row → Bool) (tables : Tables Table) :
    (selectWith unlimited keeps).rows tables (listValues { unlimited with tag := none })
      = (((snapshotSummaries tables).filter keeps).mergeSort byNewest).map
          (·.key summaryColumns) := by
  have hlimit : (selectWith unlimited keeps).limit (listValues { unlimited with tag := none })
      = none := rfl
  have hoffset : (selectWith unlimited keeps).offset (listValues { unlimited with tag := none })
      = 0 := rfl
  have hcondition : ∀ values, (selectWith unlimited keeps).condition tables values = keeps := by
    intro values
    funext row
    simp [selectWith, listSelect, unlimited]
  rw [Select.rows, hlimit, hoffset, hcondition]
  rfl

theorem summariesWith_congr (query : ListQuery) {keeps keeps' : Row → Bool} {tables : Tables Table}
    (h : ∀ row ∈ tables .snapshots,
      keeps (summaryRow tables row) = keeps' (summaryRow tables row)) :
    summariesWith query keeps tables = summariesWith query keeps' tables := by
  have hrows : (snapshotSummaries tables).filter
        ((selectWith query keeps).condition tables (listValues { query with tag := none }))
      = (snapshotSummaries tables).filter
        ((selectWith query keeps').condition tables (listValues { query with tag := none })) := by
    apply List.filter_congr
    intro summary hsummary
    obtain ⟨row, hrow, rfl⟩ := List.mem_map.mp hsummary
    exact congrArg (· && _) (h row hrow)
  have hsource : ∀ keeps, (selectWith query keeps).source tables = snapshotSummaries tables :=
    fun _ => rfl
  rw [summariesWith, summariesWith, Select.rows, Select.rows, hsource, hsource, hrows]
  rfl

/-- A row has the tag exactly if its text has something between quotes that the tag matches. -/
def TellsTag (tag : Bytes) (row : Row) : Prop :=
  tag ∈ rowTags row ↔ QuotedIn tag (row "tags").toText

theorem summaryRow_tags (tables : Tables Table) (row : Row) :
    summaryRow tables row "tags" = row "tags" := rfl

theorem filtersByTag_iff_tells {env : Environment} (hworks : ∀ n, env.fault n = none)
    {c : Connection} (hfree : c.locked = false) (tag : Bytes) :
    FiltersByTag env c tag ↔ ∀ row ∈ c.tables .snapshots, TellsTag tag row := by
  have hrun := fun query => list_tag_run hworks hfree query tag
  constructor
  · intro hfilters row hrow
    obtain ⟨c', hlist⟩ := hfilters unlimited
    rw [hrun] at hlist
    have hsame := Except.ok.inj (congrArg Prod.fst (Option.some.inj hlist))
    have hperm : ∀ keeps : Row → Bool, (summariesWith unlimited keeps c.tables).Perm
        (((snapshotSummaries c.tables).filter keeps).map
          fun row => summaryFromRow (row.key summaryColumns)) := by
      intro keeps
      rw [summariesWith, rows_unlimited, List.map_map]
      exact (List.mergeSort_perm _ _).map _
    have htests := eq_of_filter_map_perm (q := fun summary => summary.tags.contains tag)
      (((hperm _).symm.trans (.of_eq hsame)).trans (hperm _)) (summaryRow c.tables row)
      (List.mem_map_of_mem hrow)
    have htags : (summaryFromRow ((summaryRow c.tables row).key summaryColumns)).tags
      = rowTags row := rfl
    rw [summaryRow_tags, htags] at htests
    rw [TellsTag, ← like_tagPattern, htests, List.contains_iff_mem]
  · intro htells query
    refine ⟨c.counted.counted, (hrun query).trans ?_⟩
    rw [summariesWith_congr query fun row hrow => ?_]
    rw [summaryRow_tags, Bool.eq_iff_iff, like_tagPattern, List.contains_iff_mem]
    exact (htells row hrow).symm

/-! ### What confuses ordinary tags -/

/-- The tags of every snapshot are ordinary texts, written by `tags_to_json`. -/
def PlainTags (tables : Tables Table) : Prop :=
  ∀ row ∈ tables .snapshots, ∃ tags : List Bytes,
    (row "tags").toText = tagsToJson tags ∧ ∀ tag ∈ tags, Plain tag

/-- Tags that are not mistaken for a tag: they have it, or no other spelling of it and, for a comma,
none between two of them. -/
def Unmistaken (tag : Bytes) (tags : List Bytes) : Prop :=
  tag ∈ tags ∨ (∀ other ∈ tags, lower other ≠ lower tag) ∧ (tag = str "," → tags.length < 2)

theorem tellsTag_iff_of_plain {tag : Bytes} {row : Row} (hwild : ¬ HasWildcard tag)
    (htag : Plain tag) {tags : List Bytes} (htext : (row "tags").toText = tagsToJson tags)
    (hplain : ∀ other ∈ tags, Plain other) : TellsTag tag row ↔ Unmistaken tag (rowTags row) := by
  have hread : rowTags row = tags := by rw [rowTags, htext, tagsFromJson_tagsToJson]
  have hself : tag ∈ tags → ∃ other ∈ tags, lower other = lower tag := fun hmem =>
    ⟨tag, hmem, rfl⟩
  rw [TellsTag, htext, quotedIn_tagsToJson hwild htag hplain, hread, Unmistaken]
  constructor
  · intro htells
    by_cases hmem : tag ∈ tags
    · exact .inl hmem
    · have hnone := not_or.mp (mt htells.mpr hmem)
      refine .inr ⟨fun other hother hlower => hnone.1 ⟨other, hother, hlower⟩, fun hcomma => ?_⟩
      exact Nat.lt_of_not_le fun hlength => hnone.2 ⟨hcomma, hlength⟩
  · rintro (hmem | ⟨hspelling, hcomma⟩)
    · exact iff_of_true hmem (.inl (hself hmem))
    · apply iff_of_false
      · intro hmem
        exact hspelling tag hmem rfl
      · rintro (⟨other, hother, hlower⟩ | ⟨heq, hlength⟩)
        · exact hspelling other hother hlower
        · exact absurd (hcomma heq) (Nat.not_lt.mpr hlength)

theorem filtersByTag_iff_unmistaken {env : Environment} (hworks : ∀ n, env.fault n = none)
    {c : Connection} (hfree : c.locked = false) {tag : Bytes} (hwild : ¬ HasWildcard tag)
    (htag : Plain tag) (hplain : PlainTags c.tables) :
    FiltersByTag env c tag ↔ ∀ row ∈ c.tables .snapshots, Unmistaken tag (rowTags row) := by
  rw [filtersByTag_iff_tells hworks hfree]
  apply forall_congr'
  intro row
  apply forall_congr'
  intro hrow
  obtain ⟨tags, htext, hothers⟩ := hplain row hrow
  exact tellsTag_iff_of_plain hwild htag htext hothers

/-- A library with the desk, tagged as work. -/
def workLibrary : Connection :=
  { tables := Function.update (fun _ => []) .snapshots
      [snapshotRow
        { deskSnapshot with metadata := { deskSnapshot.metadata with tags := [str "Work"] } }] }

theorem snapshots_workLibrary :
    ∃ row, workLibrary.tables .snapshots = [row]
      ∧ (row "tags").toText = tagsToJson [str "Work"] :=
  ⟨_, rfl, rfl⟩

theorem plainTags_workLibrary : PlainTags workLibrary.tables := by
  obtain ⟨row, hrows, htext⟩ := snapshots_workLibrary
  intro row' hrow
  rw [hrows] at hrow
  rw [List.mem_singleton.mp hrow]
  exact ⟨[str "Work"], htext, List.forall_mem_singleton.mpr (by decide)⟩

theorem forall_workLibrary {P : List Bytes → Prop} :
    (∀ row ∈ workLibrary.tables .snapshots, P (rowTags row)) ↔ P [str "Work"] := by
  obtain ⟨row, hrows, htext⟩ := snapshots_workLibrary
  rw [hrows, List.forall_mem_singleton, rowTags, htext, tagsFromJson_tagsToJson]

/-- The expression that is bound to MATCH. -/
def matchExpression (query : Bytes) : Bytes := str "\"" ++ query ++ str "\"*"

/-- An expression of FTS5 that is one literal with a content and the star of a prefix search. -/
def IsPhrase (content expression : Bytes) : Prop :=
  readLiteral 34 expression = some (content, str "*")

/-- An operation that matches nothing but an expression of a kind. -/
def Op.Matches (good : Bytes → Prop) : Op → Prop
  | .select _ _ (some expression) => good expression
  | _ => True

/-- Whatever the environment answers, a search matches its text as one phrase. -/
def SearchesPhrase (query : Bytes) : Prop :=
  ∀ limit, AllOps (Op.Matches (IsPhrase query)) (search query limit)

theorem isPhrase_matchExpression_iff {query : Bytes} :
    IsPhrase query (matchExpression query) ↔ 34 ∉ query := by
  have hexpression : matchExpression query = 34 :: (query ++ [34, 42]) := by
    have hend : str "\"*" = [34, 42] := rfl
    have hfront : str "\"" = [34] := rfl
    simp [matchExpression, hend, hfront]
  have hliteral : literal 34 query ++ str "*" = 34 :: (doubled 34 query ++ [34, 42]) := by
    have hstar : str "*" = [42] := rfl
    simp [literal, hstar]
  have hhead : (str "*").head? ≠ some 34 := by decide
  rw [IsPhrase, readLiteral_eq_some_iff, hexpression, hliteral, and_iff_left hhead,
    List.cons_inj_right, List.append_cancel_right_eq, eq_comm, doubled_eq_self_iff]

section Matches

variable {good : Bytes → Prop}

theorem matches_prepare (tables : List Table) : AllOps (Op.Matches good) (prepare tables) :=
  (AllOps.ask trivial).bind fun _ => AllOps.orFail _ _ _

theorem matches_rows (statement : Select Table) (values : List SqlValue)
    {expression : Option Bytes} (h : ∀ text ∈ expression, good text) :
    AllOps (Op.Matches good) (rows statement values expression) := by
  have hselect : Op.Matches good (.select statement values expression) := by
    cases expression with
    | none => trivial
    | some text => exact h text rfl
  exact (AllOps.ask hselect).bind fun _ => AllOps.orFail _ _ _

/-- A search asks for no other expression, and for that one if the statement can be prepared. -/
theorem matches_search_iff (query : Bytes) (limit : UInt64) :
    AllOps (Op.Matches good) (search query limit) ↔ good (matchExpression query) := by
  constructor
  · intro hsearch
    have hlocked := hsearch.2 ()
    exact (hlocked.2 (.ok ())).1
  · intro hgood
    apply allOps_withLock trivial trivial
    apply (matches_prepare _).attempt.bind
    intro prepared
    cases prepared with
    | error e =>
        apply (matches_prepare _).bind
        intro _
        exact (matches_rows _ _ fun _ h => by cases h).bind fun _ => AllOps.pure _
    | ok _ =>
        have hexpression : ∀ text ∈ some (matchExpression query), good text := by
          rintro text ⟨⟩
          exact hgood
        exact (matches_rows _ _ hexpression).bind fun _ => AllOps.pure _

end Matches

/-- **Search texts.** A search matches its text as one phrase exactly when there is no quote in
it. -/
theorem searchesPhrase_iff (query : Bytes) : SearchesPhrase query ↔ 34 ∉ query := by
  rw [← isPhrase_matchExpression_iff]
  constructor
  · intro hsearches
    exact (matches_search_iff query 0).mp (hsearches 0)
  · intro hphrase limit
    exact (matches_search_iff query limit).mpr hphrase

/-- A quote leaves the literal open, and two of them let the text speak. -/
theorem not_searchesPhrase :
    ¬ SearchesPhrase (str "\"")
      ∧ readLiteral 34 (matchExpression (str "\"")) = none
      ∧ ¬ SearchesPhrase (str "cat\" OR \"dog")
      ∧ readLiteral 34 (matchExpression (str "cat\" OR \"dog"))
        = some (str "cat", str " OR \"dog\"*") := by
  have hquote : ∀ query, 34 ∈ query → ¬ SearchesPhrase query := by
    intro query hmem hsearches
    have hphrase := (matches_search_iff query 0).mp (hsearches 0)
    exact isPhrase_matchExpression_iff.mp hphrase hmem
  exact ⟨hquote _ (by decide), by decide, hquote _ (by decide), by decide⟩

end ContextSnap.Storage
