import ContextSnap.Privacy.Url
import Mathlib.Data.List.TakeWhile

/-!
# The text of a URL

What the splitting of a text at its first mark and at its ampersands gives, what a URL with an
authority is read as, and the names of the parameters that a text carries in its query.
-/

namespace ContextSnap.Privacy

open Matching (findText)

/-! ### Splitting -/

theorem splitFirst_append {c : UInt8} {front : Bytes} (h : c ∉ front) (back : Bytes) :
    splitFirst c (front ++ c :: back) = some (front, back) := by
  have hfront : ∀ b ∈ front, decide (b ≠ c) = true := by
    intro b hb
    exact decide_eq_true (ne_of_mem_of_not_mem hb h)
  rw [splitFirst, if_pos (by simp), List.takeWhile_append_of_pos hfront,
    List.dropWhile_append_of_pos hfront]
  simp

theorem splitFirst_none {c : UInt8} {text : Bytes} (h : c ∉ text) : splitFirst c text = none :=
  if_neg h

theorem splitFirst_inv {c : UInt8} {text front back : Bytes}
    (h : splitFirst c text = some (front, back)) : text = front ++ c :: back ∧ c ∉ front := by
  have hmem : c ∈ text := by
    by_contra hnone
    rw [splitFirst_none hnone] at h
    cases h
  obtain ⟨before, after, htext, hbefore⟩ := List.eq_append_cons_of_mem hmem
  rw [htext, splitFirst_append hbefore] at h
  cases h
  exact ⟨htext, hbefore⟩

theorem splitLast_inv {c : UInt8} {text front back : Bytes}
    (h : splitLast c text = some (front, back)) : text = front ++ c :: back := by
  obtain ⟨⟨behind, before⟩, hsplit, hparts⟩ := Option.map_eq_some_iff.mp h
  cases hparts
  rw [← List.reverse_reverse text, (splitFirst_inv hsplit).1]
  simp

/-- The parts of a text hold bytes of it. -/
theorem mem_of_mem_splitLast {c b : UInt8} {text : Bytes} :
    (b ∈ ((splitLast c text).getD ([], text)).2 → b ∈ text)
      ∧ (b ∈ ((splitLast c text).getD (text, [])).1 → b ∈ text)
      ∧ (b ∈ ((splitLast c text).getD (text, [])).2 → b ∈ text) := by
  cases hsplit : splitLast c text with
  | none => simp
  | some parts =>
      have htext := splitLast_inv hsplit
      rw [htext]
      simp only [Option.getD_some]
      exact ⟨fun h => List.mem_append_right _ (List.mem_cons_of_mem _ h),
        fun h => List.mem_append_left _ h,
        fun h => List.mem_append_right _ (List.mem_cons_of_mem _ h)⟩

/-! ### Ampersands -/

theorem ampersandParts_append {part : Bytes} (h : 38 ∉ part) (rest : Bytes) :
    ampersandParts (part ++ 38 :: rest) = part :: ampersandParts rest := by
  induction part with
  | nil => simp [ampersandParts]
  | cons c part ih =>
      have hc := List.ne_of_not_mem_cons h
      have hpart := List.not_mem_of_not_mem_cons h
      rw [List.cons_append, ampersandParts, if_neg (Ne.symm hc), ih hpart]

theorem ampersandParts_single {part : Bytes} (hne : part ≠ []) (h : 38 ∉ part) :
    ampersandParts part = [part] := by
  induction part with
  | nil => exact absurd rfl hne
  | cons c part ih =>
      have hc := List.ne_of_not_mem_cons h
      have hpart := List.not_mem_of_not_mem_cons h
      rw [ampersandParts, if_neg (Ne.symm hc)]
      by_cases hnil : part = []
      · rw [hnil, ampersandParts]
      · rw [ih hnil hpart]

/-- The parts behind one that is not empty, as they are written. -/
def partsBehind : List Bytes → List Bytes
  | [] => []
  | part :: parts => ampersandParts (List.intercalate [38] (part :: parts))

theorem ampersandParts_intercalate {before : List Bytes} (hbefore : ∀ part ∈ before, 38 ∉ part)
    {part : Bytes} (hne : part ≠ []) (h : 38 ∉ part) (after : List Bytes) :
    ampersandParts (List.intercalate [38] (before ++ part :: after))
      = before ++ part :: partsBehind after := by
  induction before with
  | nil =>
      cases after with
      | nil => simpa [partsBehind] using ampersandParts_single hne h
      | cons next after =>
          rw [List.nil_append, List.intercalate_cons_cons]
          exact (congrArg ampersandParts (List.append_assoc ..)).trans (ampersandParts_append h _)
  | cons first before ih =>
      have hcons : before ++ part :: after ≠ [] := by simp
      rw [List.cons_append, List.intercalate_cons_of_ne_nil hcons, List.append_assoc]
      exact (ampersandParts_append (hbefore first (by simp)) _).trans
        (congrArg (first :: ·) (ih fun p hp => hbefore p (List.mem_cons_of_mem _ hp)))

/-- A part holds bytes of the text, and no ampersand. -/
theorem mem_ampersandParts {text part : Bytes} (h : part ∈ ampersandParts text) :
    ∀ c ∈ part, c ∈ text ∧ c ≠ 38 := by
  induction text generalizing part with
  | nil => simp [ampersandParts] at h
  | cons b text ih =>
      rw [ampersandParts] at h
      by_cases hb : b = 38
      · rw [if_pos hb] at h
        rcases List.mem_cons.mp h with rfl | h
        · simp
        · intro c hc
          exact ⟨List.mem_cons_of_mem _ (ih h c hc).1, (ih h c hc).2⟩
      · rw [if_neg hb] at h
        cases hparts : ampersandParts text with
        | nil =>
            rw [hparts] at h
            intro c hc
            rw [List.mem_singleton.mp h] at hc
            rw [List.mem_singleton.mp hc]
            exact ⟨List.mem_cons_self .., hb⟩
        | cons first parts =>
            rw [hparts] at h ih
            intro c hc
            rcases List.mem_cons.mp h with rfl | h
            · rcases List.mem_cons.mp hc with rfl | hc
              · exact ⟨List.mem_cons_self .., hb⟩
              · have := ih (List.mem_cons_self ..) c hc
                exact ⟨List.mem_cons_of_mem _ this.1, this.2⟩
            · have := ih (List.mem_cons_of_mem _ h) c hc
              exact ⟨List.mem_cons_of_mem _ this.1, this.2⟩

/-! ### Reading a URL with an authority -/

theorem findText_length {needle text : Bytes} {i : Nat} (h : findText needle text = some i) :
    needle.length ≤ text.length := by
  induction text generalizing i with
  | nil =>
      by_cases hnil : needle = []
      · simp [hnil]
      · simp [findText, hnil] at h
  | cons c text ih =>
      rw [findText] at h
      by_cases hprefix : needle.isPrefixOf (c :: text) = true
      · exact (List.isPrefixOf_iff_prefix.mp hprefix).length_le
      · rw [if_neg hprefix] at h
        obtain ⟨j, hj, -⟩ := Option.map_eq_some_iff.mp h
        exact (ih hj).trans (Nat.le_succ _)

/-- What is found in a text is found there when the text goes on. -/
theorem findText_append {needle text : Bytes} {i : Nat} (h : findText needle text = some i)
    (rest : Bytes) : findText needle (text ++ rest) = some i := by
  induction text generalizing i with
  | nil =>
      have hnil : needle = [] := List.length_eq_zero_iff.mp (Nat.le_zero.mp (findText_length h))
      rw [hnil] at h ⊢
      cases rest <;> simpa [findText] using h
  | cons c text ih =>
      have hlength := findText_length h
      have hiff : needle.isPrefixOf (c :: (text ++ rest)) = needle.isPrefixOf (c :: text) := by
        rw [Bool.eq_iff_iff, List.isPrefixOf_iff_prefix, List.isPrefixOf_iff_prefix]
        constructor
        · intro hlong
          exact List.prefix_of_prefix_length_le hlong
            ((List.prefix_append (c :: text) rest)) hlength
        · intro hshort
          exact hshort.trans (List.prefix_append (c :: text) rest)
      rw [List.cons_append, findText, hiff]
      rw [findText] at h
      by_cases hprefix : needle.isPrefixOf (c :: text) = true
      · rwa [if_pos hprefix] at h ⊢
      · rw [if_neg hprefix] at h ⊢
        obtain ⟨j, hj, hi⟩ := Option.map_eq_some_iff.mp h
        rw [ih hj]
        exact congrArg some hi

theorem parseUrl_of_find {url : Bytes} {n : Nat} (h : findText (str "://") url = some n) :
    parseUrl url = .ok (parseHierarchical (lower (url.take n)) (url.drop (n + 3))) := by
  have hne : url ≠ [] := by
    rintro rfl
    have := findText_length h
    exact absurd this (by decide)
  rw [parseUrl, if_neg hne]
  simp only [h]

/-- `scheme://authority/path`, in front of a query. -/
structure UrlHead where
  scheme : Bytes
  authority : Bytes
  path : Bytes
  scheme_first : findText (str "://") (scheme ++ str "://") = some scheme.length
  authority_plain : ∀ c ∈ authority, c ≠ 47 ∧ c ≠ 63 ∧ c ≠ 35
  path_start : path = [] ∨ path.head? = some 47
  path_plain : 63 ∉ path ∧ 35 ∉ path

namespace UrlHead

variable (head : UrlHead)

def text : Bytes := head.scheme ++ str "://" ++ head.authority ++ head.path

/-- What the head says about the URL. -/
def parsed (query : List (Bytes × Bytes)) : ParsedUrl :=
  { scheme := lower head.scheme
    userinfo := (parseAuthority head.authority).1
    host := (parseAuthority head.authority).2.1
    port := (parseAuthority head.authority).2.2
    path := head.path, query }

/-- The authority ends where the path or what stands behind it starts. -/
theorem behind_stops {behind : Bytes} (hbehind : behind = [] ∨ behind.head? = some 63) :
    head.path ++ behind = [] ∨ ∃ c rest, head.path ++ behind = c :: rest ∧ (c = 47 ∨ c = 63) := by
  rcases head.path_start with hnil | hslash
  · rw [hnil, List.nil_append]
    rcases hbehind with hnone | hquestion
    · exact .inl hnone
    · obtain ⟨rest, hrest⟩ := List.head?_eq_some_iff.mp hquestion
      exact .inr ⟨63, rest, hrest, .inr rfl⟩
  · obtain ⟨rest, hrest⟩ := List.head?_eq_some_iff.mp hslash
    exact .inr ⟨47, rest ++ behind, by rw [hrest]; rfl, .inl rfl⟩

/-- Behind the path there is nothing, or a query. -/
theorem parseHierarchical_text {behind : Bytes} (hbehind : behind = [] ∨ behind.head? = some 63)
    (hhash : 35 ∉ behind) (scheme : Bytes) :
    parseHierarchical scheme (head.authority ++ (head.path ++ behind))
      = { head.parsed ((ampersandParts behind.tail).map parseParameter) with scheme } := by
  have hplain : ∀ b ∈ head.authority, (!(decide (b = 47) || decide (b = 63) || decide (b = 35)))
      = true := by
    intro b hb
    obtain ⟨hslash, hquestion, hhash⟩ := head.authority_plain b hb
    simp [hslash, hquestion, hhash]
  have htake : (head.authority ++ (head.path ++ behind)).takeWhile
      (fun b => !(decide (b = 47) || decide (b = 63) || decide (b = 35))) = head.authority := by
    rw [List.takeWhile_append_of_pos hplain]
    rcases head.behind_stops hbehind with hnil | ⟨c, rest, hrest, rfl | rfl⟩
    · simp [hnil]
    · simp [hrest]
    · simp [hrest]
  have hdrop : (head.authority ++ (head.path ++ behind)).dropWhile
      (fun b => !(decide (b = 47) || decide (b = 63) || decide (b = 35))) = head.path ++ behind := by
    rw [List.dropWhile_append_of_pos hplain]
    rcases head.behind_stops hbehind with hnil | ⟨c, rest, hrest, rfl | rfl⟩
    · simp [hnil]
    · simp [hrest]
    · simp [hrest]
  have hnofragment : (35 : UInt8) ∉ head.path ++ behind := by
    simp [hhash, head.path_plain.2]
  have hsplit : (splitFirst 63 (head.path ++ behind)).getD (head.path ++ behind, [])
      = (head.path, behind.tail) := by
    rcases hbehind with rfl | hquestion
    · rw [List.append_nil, splitFirst_none head.path_plain.1]
      rfl
    · obtain ⟨rest, rfl⟩ := List.head?_eq_some_iff.mp hquestion
      rw [splitFirst_append head.path_plain.1]
      rfl
  simp only [parseHierarchical, htake, hdrop, splitFirst_none hnofragment, Option.getD_none, hsplit]
  rfl

theorem parseUrl_behind {behind : Bytes} (hbehind : behind = [] ∨ behind.head? = some 63)
    (hhash : 35 ∉ behind) :
    parseUrl (head.text ++ behind)
      = .ok (head.parsed ((ampersandParts behind.tail).map parseParameter)) := by
  have htext : head.text ++ behind
      = (head.scheme ++ str "://") ++ (head.authority ++ (head.path ++ behind)) := by
    rw [text, List.append_assoc, List.append_assoc]
  have hdrop : ((head.scheme ++ str "://")
      ++ (head.authority ++ (head.path ++ behind))).drop (head.scheme.length + 3)
        = head.authority ++ (head.path ++ behind) := by
    have hlength : (head.scheme ++ str "://").length = head.scheme.length + 3 := by
      rw [List.length_append]
      rfl
    rw [← hlength, List.drop_left]
  have htake : ((head.scheme ++ str "://")
      ++ (head.authority ++ (head.path ++ behind))).take head.scheme.length = head.scheme := by
    rw [List.append_assoc, List.take_left]
  rw [htext, parseUrl_of_find (findText_append head.scheme_first _), hdrop, htake]
  exact congrArg Except.ok (head.parseHierarchical_text hbehind hhash _)

theorem parseUrl_text {query : Bytes} (hquery : 35 ∉ query) :
    parseUrl (head.text ++ str "?" ++ query)
      = .ok (head.parsed ((ampersandParts query).map parseParameter)) := by
  have hhash : (35 : UInt8) ∉ str "?" ++ query := by
    have hmark : (35 : UInt8) ∉ str "?" := by decide
    simp [hmark, hquery]
  rw [List.append_assoc]
  exact head.parseUrl_behind (.inr rfl) hhash

end UrlHead

theorem eq_question_of_toLower {c : UInt8} (h : toLower c = 63) : c = 63 := by
  rw [toLower] at h
  split at h <;> grind

/-- No question mark comes out of an authority without one. -/
theorem parseAuthority_plain {authority : Bytes} (h : 63 ∉ authority) :
    63 ∉ (parseAuthority authority).2.1 ∧ 63 ∉ (parseAuthority authority).2.2 := by
  have hrest : (63 : UInt8) ∉ ((splitLast 64 authority).getD ([], authority)).2 :=
    fun hmem => h (mem_of_mem_splitLast.1 hmem)
  rw [parseAuthority]
  generalize ((splitLast 64 authority).getD ([], authority)) = parts at hrest ⊢
  constructor
  · intro hmem
    obtain ⟨c, hc, hquestion⟩ := List.mem_map.mp hmem
    rw [eq_question_of_toLower hquestion] at hc
    apply hrest
    by_cases hbracket : 93 ∈ parts.2
    · simpa [hbracket] using hc
    · simp only [hbracket, if_false] at hc
      exact mem_of_mem_splitLast.2.1 hc
  · intro hmem
    apply hrest
    by_cases hbracket : 93 ∈ parts.2
    · simp [hbracket] at hmem
    · simp only [hbracket, if_false] at hmem
      exact mem_of_mem_splitLast.2.2 hmem

/-! ### The parameters of a text -/

/-- The bytes behind the first question mark, up to the next hash. -/
def queryPortion (text : Bytes) : Bytes :=
  ((text.dropWhile (· ≠ 63)).drop 1).takeWhile (· ≠ 35)

/-- The names of the parameters between the ampersands of the query. -/
def parameterNames (text : Bytes) : List Bytes :=
  ((queryPortion text).splitOn 38).map fun part => part.takeWhile (· ≠ 61)

theorem takeWhile_all {c : UInt8} {text : Bytes} (h : c ∉ text) :
    text.takeWhile (· ≠ c) = text := by
  apply List.takeWhile_eq_self_iff.mpr
  intro b hb
  exact decide_eq_true (ne_of_mem_of_not_mem hb h)

/-- What stands behind the first `c` does not matter. -/
theorem takeWhile_append_of_mem {c : UInt8} {text : Bytes} (h : c ∈ text) (rest : Bytes) :
    (text ++ rest).takeWhile (· ≠ c) = text.takeWhile (· ≠ c) := by
  obtain ⟨front, back, rfl, hfront⟩ := List.eq_append_cons_of_mem h
  have hpos : ∀ b ∈ front, decide (b ≠ c) = true := fun b hb =>
    decide_eq_true (ne_of_mem_of_not_mem hb hfront)
  rw [List.append_assoc, List.takeWhile_append_of_pos hpos, List.takeWhile_append_of_pos hpos]
  simp

theorem queryPortion_none {text : Bytes} (h : 63 ∉ text) : queryPortion text = [] := by
  have hdrop : text.dropWhile (· ≠ 63) = [] := by
    apply List.dropWhile_eq_nil_iff.mpr
    intro b hb
    exact decide_eq_true (ne_of_mem_of_not_mem hb h)
  rw [queryPortion, hdrop]
  rfl

theorem queryPortion_append {front : Bytes} (h : 63 ∉ front) (back : Bytes) :
    queryPortion (front ++ 63 :: back) = back.takeWhile (· ≠ 35) := by
  have hpos : ∀ b ∈ front, decide (b ≠ (63 : UInt8)) = true := fun b hb =>
    decide_eq_true (ne_of_mem_of_not_mem hb h)
  rw [queryPortion, List.dropWhile_append_of_pos hpos]
  simp

/-- The part in front of the end, which grows with the text. -/
theorem exists_lastPart (text : Bytes) : ∃ parts last, (38 : UInt8) ∉ last
    ∧ ∀ rest, (text ++ rest).splitOn 38 = parts ++ (last ++ rest).splitOn 38 := by
  by_cases hmem : (38 : UInt8) ∈ text
  · obtain ⟨back, front, hreverse, hback⟩ :=
      List.eq_append_cons_of_mem (List.mem_reverse.mpr hmem)
    have htext : text = front.reverse ++ 38 :: back.reverse := by
      rw [← List.reverse_reverse text, hreverse]
      simp
    refine ⟨front.reverse.splitOn 38, back.reverse, by simpa using hback, ?_⟩
    intro rest
    rw [htext, List.append_assoc, List.cons_append, List.splitOn_append_cons_self]
  · exact ⟨[], text, hmem, fun rest => rfl⟩

/-! ### Parameters as they are written -/

/-- A parameter whose marks are where reading looks for them. -/
structure PlainParameter (parameter : Bytes × Bytes) : Prop where
  name : ∀ c ∈ parameter.1, c ≠ 35 ∧ c ≠ 38 ∧ c ≠ 61
  value : ∀ c ∈ parameter.2, c ≠ 35 ∧ c ≠ 38

theorem plainParameter_parseParameter {part : Bytes} (h : ∀ c ∈ part, c ≠ 35 ∧ c ≠ 38) :
    PlainParameter (parseParameter part) := by
  rw [parseParameter]
  by_cases hmem : 61 ∈ part
  · obtain ⟨name, value, rfl, hname⟩ := List.eq_append_cons_of_mem hmem
    rw [splitFirst_append hname, Option.getD_some]
    refine ⟨?_, ?_⟩
    · intro c hc
      obtain ⟨hhash, hampersand⟩ := h c (List.mem_append_left _ hc)
      exact ⟨hhash, hampersand, ne_of_mem_of_not_mem hc hname⟩
    · intro c hc
      exact h c (List.mem_append_right _ (List.mem_cons_of_mem _ hc))
  · rw [splitFirst_none hmem, Option.getD_none]
    refine ⟨?_, fun c hc => absurd hc (List.not_mem_nil)⟩
    intro c hc
    exact ⟨(h c hc).1, (h c hc).2, ne_of_mem_of_not_mem hc hmem⟩

/-- The part in front of the mark does not hold it. -/
theorem not_mem_splitFirst_fst (c : UInt8) (text other : Bytes) :
    c ∉ ((splitFirst c text).getD (text, other)).1 := by
  by_cases hmem : c ∈ text
  · obtain ⟨front, back, rfl, hfront⟩ := List.eq_append_cons_of_mem hmem
    rwa [splitFirst_append hfront]
  · rwa [splitFirst_none hmem]

theorem mem_of_mem_splitFirst_snd {c b : UInt8} {text : Bytes}
    (h : b ∈ ((splitFirst c text).getD (text, [])).2) : b ∈ text := by
  by_cases hmem : c ∈ text
  · obtain ⟨front, back, rfl, hfront⟩ := List.eq_append_cons_of_mem hmem
    rw [splitFirst_append hfront] at h
    exact List.mem_append_right _ (List.mem_cons_of_mem _ h)
  · rw [splitFirst_none hmem] at h
    exact absurd h List.not_mem_nil

theorem plainParameter_of_parseHierarchical {scheme rest : Bytes} {parameter : Bytes × Bytes}
    (h : parameter ∈ (parseHierarchical scheme rest).query) : PlainParameter parameter := by
  obtain ⟨part, hpart, rfl⟩ := List.mem_map.mp h
  apply plainParameter_parseParameter
  intro c hc
  obtain ⟨hquery, hampersand⟩ := mem_ampersandParts hpart c hc
  exact ⟨ne_of_mem_of_not_mem (mem_of_mem_splitFirst_snd hquery) (not_mem_splitFirst_fst 35 _ _),
    hampersand⟩

section Written

variable {parameter : Bytes × Bytes}

theorem PlainParameter.name_parameterText (h : PlainParameter parameter) :
    (parameterText parameter).takeWhile (· ≠ 61) = parameter.1 := by
  have hname : (61 : UInt8) ∉ parameter.1 := fun hmem => (h.name 61 hmem).2.2 rfl
  rw [parameterText, marked]
  by_cases hvalue : parameter.2 = []
  · rw [if_pos hvalue, List.append_nil, takeWhile_all hname]
  · rw [if_neg hvalue]
    have hpos : ∀ b ∈ parameter.1, decide (b ≠ (61 : UInt8)) = true := fun b hb =>
      decide_eq_true (h.name b hb).2.2
    rw [List.takeWhile_append_of_pos hpos]
    exact (congrArg (parameter.1 ++ ·) (List.takeWhile_cons_of_neg (by decide))).trans
      (List.append_nil _)

theorem PlainParameter.parameterText_plain (h : PlainParameter parameter) :
    ∀ c ∈ parameterText parameter, c ≠ 35 ∧ c ≠ 38 := by
  intro c hc
  rw [parameterText, marked] at hc
  rcases List.mem_append.mp hc with hname | hvalue
  · exact ⟨(h.name c hname).1, (h.name c hname).2.1⟩
  · by_cases hnil : parameter.2 = []
    · rw [if_pos hnil] at hvalue
      exact absurd hvalue (List.not_mem_nil)
    · rw [if_neg hnil] at hvalue
      rcases List.mem_append.mp hvalue with hmark | hvalue
      · rw [List.mem_singleton.mp hmark]
        decide
      · exact h.value c hvalue

end Written

theorem queryText_eq {kept : List (Bytes × Bytes)} (hne : kept ≠ []) :
    queryText kept = 63 :: List.intercalate [38] (kept.map parameterText) := by
  obtain ⟨first, rest, rfl⟩ := List.exists_cons_of_ne_nil hne
  have hrest : ∀ (first : Bytes × Bytes) (rest : List (Bytes × Bytes)),
      parameterText first ++ rest.flatMap (fun parameter => str "&" ++ parameterText parameter)
        = List.intercalate [38] ((first :: rest).map parameterText) := by
    intro first rest
    induction rest generalizing first with
    | nil => simp
    | cons second rest ih =>
        rw [List.map_cons, List.map_cons, List.intercalate_cons_cons, ← List.map_cons, ← ih,
          List.flatMap_cons]
        simp only [List.append_assoc]
        rfl
  exact (List.append_assoc ..).trans (congrArg (63 :: ·) (hrest first rest))

theorem not_mem_intercalate {c d : UInt8} (hne : c ≠ d) {parts : List Bytes}
    (h : ∀ part ∈ parts, c ∉ part) : c ∉ List.intercalate [d] parts := by
  induction parts with
  | nil => simp
  | cons part parts ih =>
      have hrest := ih fun p hp => h p (List.mem_cons_of_mem _ hp)
      cases parts with
      | nil => simpa using h part (by simp)
      | cons next parts =>
          rw [List.intercalate_cons_cons]
          simp [h part (by simp), hne, hrest]

/-! ### Texts in front of a query -/

/-- Whether a text carries a parameter with such a name. -/
def Carries (bad : Bytes → Bool) (text : Bytes) : Bool := (parameterNames text).any bad

section Carries

variable {bad : Bytes → Bool} (hbad : ∀ name, 63 ∈ name → bad name = false)

include hbad in
theorem bad_takeWhile (last rest : Bytes) :
    bad ((last ++ 63 :: rest).takeWhile (· ≠ 61)) = bad ((last ++ [63]).takeWhile (· ≠ 61)) := by
  by_cases hmem : (61 : UInt8) ∈ last
  · rw [takeWhile_append_of_mem hmem, takeWhile_append_of_mem hmem]
  · have hpos : ∀ b ∈ last, decide (b ≠ (61 : UInt8)) = true := fun b hb =>
      decide_eq_true (ne_of_mem_of_not_mem hb hmem)
    have hquestion : ∀ rest : Bytes,
        bad ((last ++ 63 :: rest).takeWhile (· ≠ 61)) = false := by
      intro rest
      apply hbad
      rw [List.takeWhile_append_of_pos hpos]
      simp
    rw [hquestion, hquestion]

variable (hnil : bad [] = false) {kept : List (Bytes × Bytes)}
  (hplain : ∀ parameter ∈ kept, PlainParameter parameter)
  (hkept : ∀ parameter ∈ kept, bad parameter.1 = false)

include hplain in
/-- The names in a query that is written. -/
theorem any_written (hkept : ∀ parameter ∈ kept, bad parameter.1 = false) :
    ((kept.map parameterText).map fun part => part.takeWhile (· ≠ 61)).any bad = false := by
  rw [List.map_map, List.any_eq_false]
  intro name hname
  obtain ⟨parameter, hparameter, rfl⟩ := List.mem_map.mp hname
  rw [Function.comp_apply, (hplain parameter hparameter).name_parameterText]
  exact Bool.not_eq_true _ ▸ hkept parameter hparameter

theorem PlainParameter.not_mem_parameterText (h : ∀ parameter ∈ kept, PlainParameter parameter) :
    ∀ part ∈ kept.map parameterText, (35 : UInt8) ∉ part ∧ (38 : UInt8) ∉ part := by
  intro part hpart
  obtain ⟨parameter, hparameter, rfl⟩ := List.mem_map.mp hpart
  have hplain := (h parameter hparameter).parameterText_plain
  exact ⟨fun hmem => (hplain 35 hmem).1 rfl, fun hmem => (hplain 38 hmem).2 rfl⟩

include hbad hplain hkept in
/-- The first parameter joins the last part of the text in front of it. -/
theorem any_bad_behind {last : Bytes} (hlast : 38 ∉ last) (hne : kept ≠ []) :
    (((last ++ 63 :: List.intercalate [38] (kept.map parameterText)).splitOn 38).map
        fun part => part.takeWhile (· ≠ 61)).any bad
      = bad ((last ++ [63]).takeWhile (· ≠ 61)) := by
  obtain ⟨first, rest, rfl⟩ := List.exists_cons_of_ne_nil hne
  have hseparate := PlainParameter.not_mem_parameterText hplain
  have hjoined : last ++ 63 :: List.intercalate [38] ((first :: rest).map parameterText)
      = List.intercalate [38] ((last ++ 63 :: parameterText first) :: rest.map parameterText) := by
    cases rest with
    | nil => simp
    | cons second rest => simp [List.intercalate_cons_cons]
  have hparts : ∀ part ∈ (last ++ 63 :: parameterText first) :: rest.map parameterText,
      (38 : UInt8) ∉ part := by
    intro part hpart
    rcases List.mem_cons.mp hpart with rfl | hpart
    · have := (hseparate _ (List.mem_cons_self ..)).2
      simp [hlast, this]
    · exact (hseparate part (List.mem_cons_of_mem _ hpart)).2
  have hrest : ((rest.map parameterText).map fun part => part.takeWhile (· ≠ 61)).any bad = false :=
    any_written (fun p hp => hplain p (List.mem_cons_of_mem _ hp))
      fun p hp => hkept p (List.mem_cons_of_mem _ hp)
  rw [hjoined, List.splitOn_intercalate 38 hparts (List.cons_ne_nil _ _), List.map_cons,
    List.any_cons, hrest, Bool.or_false, bad_takeWhile hbad]

include hbad hnil hplain hkept in
/-- **A query without bad names.** Behind a text it only matters that it starts with its mark. -/
theorem carries_append_queryText (front : Bytes) :
    Carries bad (front ++ queryText kept)
      = Carries bad (front ++ if kept = [] then [] else [63]) := by
  by_cases hne : kept = []
  · rw [if_pos hne, hne]
    rfl
  have hseparate := PlainParameter.not_mem_parameterText hplain
  have hwritten : (35 : UInt8) ∉ List.intercalate [38] (kept.map parameterText) :=
    not_mem_intercalate (by decide) fun part hpart => (hseparate part hpart).1
  rw [if_neg hne, queryText_eq hne, Carries, Carries, parameterNames, parameterNames]
  by_cases hmem : (63 : UInt8) ∈ front
  · obtain ⟨before, behind, rfl, hbefore⟩ := List.eq_append_cons_of_mem hmem
    rw [List.append_assoc, List.append_assoc, List.cons_append, List.cons_append,
      queryPortion_append hbefore, queryPortion_append hbefore]
    by_cases hhash : (35 : UInt8) ∈ behind
    · rw [takeWhile_append_of_mem hhash, takeWhile_append_of_mem hhash]
    · -- The query goes on where the text in front of it ends.
      obtain ⟨parts, last, hlast, hsplit⟩ := exists_lastPart behind
      have hlong : (35 : UInt8) ∉ behind ++ 63 :: List.intercalate [38] (kept.map parameterText) := by
        simp [hhash, hwritten]
      have hshort : (35 : UInt8) ∉ behind ++ [63] := by simp [hhash]
      have hmark : (38 : UInt8) ∉ last ++ [63] := by simp [hlast]
      rw [takeWhile_all hlong, takeWhile_all hshort, hsplit, hsplit, List.splitOn_eq_singleton hmark,
        List.map_append, List.map_append, List.any_append, List.any_append,
        any_bad_behind hbad hplain hkept hlast hne]
      simp
  · rw [queryPortion_append hmem, queryPortion_append hmem, takeWhile_all hwritten,
      List.splitOn_intercalate 38 (fun part hpart => (hseparate part hpart).2) (by simpa using hne),
      any_written hplain hkept]
    simp [hnil]

end Carries

end ContextSnap.Privacy
