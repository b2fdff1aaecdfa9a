import ContextSnap.Proof.SettledUrl

/-!
# Reading what was left

What the sanitizer leaves of a URL with an authority is written anew. Read again it has the same parts,
unless an empty parameter stands at the end of its query or a host that lost the colon behind it has
another one.
-/

namespace ContextSnap.Privacy

open Matching (findText)
open Sanitizer

/-! ### What is left, read again -/

section Query

variable {kept : List (Bytes × Bytes)} (hplain : ∀ parameter ∈ kept, PlainParameter parameter)

theorem PlainParameter.parseParameter_parameterText {parameter : Bytes × Bytes}
    (h : PlainParameter parameter) : parseParameter (parameterText parameter) = parameter := by
  obtain ⟨name, value⟩ := parameter
  have hname : (61 : UInt8) ∉ name := fun hmem => (h.name 61 hmem).2.2 rfl
  rw [parameterText, marked]
  by_cases hvalue : value = []
  · rw [if_pos hvalue, List.append_nil, parseParameter, splitFirst_none hname, hvalue]
    rfl
  · rw [if_neg hvalue, parseParameter]
    exact congrArg (Option.getD · _) (splitFirst_append hname value)

theorem PlainParameter.value_written {parameter : Bytes × Bytes} (h : PlainParameter parameter)
    (name : Bytes) : splitFirst 61 (parameterText parameter) ≠ some (name, []) := by
  intro hsplit
  have hread := h.parseParameter_parameterText
  rw [parseParameter, hsplit, Option.getD_some] at hread
  have hvalue : parameter.2 = [] := by rw [← hread]
  rw [parameterText, marked, if_pos hvalue, List.append_nil, splitFirst_none] at hsplit
  · cases hsplit
  · exact fun hmem => (h.name 61 hmem).2.2 rfl

theorem parameterText_eq_nil {parameter : Bytes × Bytes} :
    parameterText parameter = [] ↔ parameter = ([], []) := by
  obtain ⟨name, value⟩ := parameter
  rw [parameterText, marked, List.append_eq_nil_iff, Prod.mk.injEq]
  by_cases hvalue : value = []
  · simp [hvalue]
  · simp [hvalue, str]

include hplain in
/-- The parameters of a query that does not end with an empty one. -/
theorem ampersandParts_written (hlast : kept.getLast? ≠ some ([], [])) :
    ampersandParts (List.intercalate [38] (kept.map parameterText)) = kept.map parameterText := by
  by_cases hnil : kept = []
  · subst hnil
    rfl
  · have hseparate := PlainParameter.not_mem_parameterText hplain
    obtain ⟨front, last, rfl⟩ := List.eq_nil_or_concat' kept |>.resolve_left hnil
    have hne : parameterText last ≠ [] := by
      intro htext
      rw [parameterText_eq_nil] at htext
      simp [htext] at hlast
    rw [List.map_append, List.map_cons, List.map_nil]
    apply ampersandParts_intercalate
    · intro part hpart
      exact (hseparate part (by simp only [List.map_append, List.mem_append]; exact .inl hpart)).2
    · exact hne
    · exact (hseparate (parameterText last) (by simp)).2

/-- An empty part at the end leaves its ampersand there. -/
theorem getLast_intercalate {parts : List Bytes} (hne : parts ≠ []) :
    (List.intercalate [38] (parts ++ [[]])).getLast? = some 38 := by
  induction parts with
  | nil => exact absurd rfl hne
  | cons part parts ih =>
      have hcons : parts ++ [[]] ≠ [] := by simp
      rw [List.cons_append, List.intercalate_cons_of_ne_nil hcons]
      cases parts with
      | nil => simp
      | cons next parts =>
          rw [List.getLast?_append, ih (List.cons_ne_nil _ _)]
          rfl

/-- What is read where parameters were written: an empty one at the end is lost. -/
def rereadQuery (kept : List (Bytes × Bytes)) : List (Bytes × Bytes) :=
  if kept.getLast? = some ([], []) then kept.dropLast else kept

theorem ampersandParts_ended {parts : List Bytes} (h : ∀ part ∈ parts, 38 ∉ part) :
    ampersandParts (List.intercalate [38] (parts ++ [[]])) = parts := by
  induction parts with
  | nil => rfl
  | cons part parts ih =>
      have hcons : parts ++ [[]] ≠ [] := by simp
      rw [List.cons_append, List.intercalate_cons_of_ne_nil hcons, List.append_assoc]
      exact (ampersandParts_append (h part List.mem_cons_self) _).trans
        (congrArg (part :: ·) (ih fun p hp => h p (List.mem_cons_of_mem _ hp)))

include hplain in
theorem parameters_reread :
    (ampersandParts (List.intercalate [38] (kept.map parameterText))).map parseParameter
      = rereadQuery kept := by
  have hread : ∀ parameters : List (Bytes × Bytes), (∀ p ∈ parameters, PlainParameter p) →
      (parameters.map parameterText).map parseParameter = parameters := by
    intro parameters hparameters
    rw [List.map_map]
    have hsame : parameters.map (parseParameter ∘ parameterText) = parameters.map id :=
      List.map_congr_left fun p hmem => (hparameters p hmem).parseParameter_parameterText
    rw [hsame, List.map_id]
  rw [rereadQuery]
  by_cases hlast : kept.getLast? = some ([], [])
  · obtain ⟨front, rfl⟩ := List.getLast?_eq_some_iff.mp hlast
    have hfront : ∀ p ∈ front, PlainParameter p := fun p hmem =>
      hplain p (List.mem_append_left _ hmem)
    have hend : (front ++ [([], [])]).map parameterText = front.map parameterText ++ [[]] := by
      rw [List.map_append]
      rfl
    rw [if_pos hlast, List.dropLast_concat, hend, ampersandParts_ended, hread front hfront]
    exact fun part hpart => (PlainParameter.not_mem_parameterText hfront part hpart).2
  · rw [if_neg hlast, ampersandParts_written hplain hlast, hread kept hplain]

include hplain in
theorem keptQuery_written_iff (hne : kept ≠ []) :
    KeptQuery (List.intercalate [38] (kept.map parameterText))
      ↔ kept.getLast? ≠ some ([], []) := by
  constructor
  · intro h hlast
    obtain ⟨front, last, rfl⟩ := List.eq_nil_or_concat' kept |>.resolve_left hne
    obtain rfl : last = ([], []) := by simpa using hlast
    have hend : (front ++ [([], [])]).map parameterText = front.map parameterText ++ [[]] := by
      rw [List.map_append]
      rfl
    rw [hend] at h
    by_cases hfront : front = []
    · subst hfront
      exact h.ne_nil rfl
    · exact h.ampersand (getLast_intercalate (by simpa using hfront))
  · intro hlast
    have hparts := ampersandParts_written hplain hlast
    refine ⟨?_, ?_, ?_⟩
    · intro hnil
      rw [hnil] at hparts
      exact hne (List.map_eq_nil_iff.mp hparts.symm)
    · intro hampersand
      have htext := intercalate_ampersandParts (List.intercalate [38] (kept.map parameterText))
      rw [if_pos hampersand, hparts, List.append_right_eq_self] at htext
      cases htext
    · intro part hpart name
      rw [hparts] at hpart
      obtain ⟨parameter, hmem, rfl⟩ := List.mem_map.mp hpart
      exact (hplain parameter hmem).value_written name

end Query

section Host

variable {rest : Bytes}

/-- The host and the port as they are written. -/
def hostText (host port : Bytes) : Bytes := host ++ marked (str ":") port

/-- What is read where a host and a port were written: without a port, the host may have one. -/
def rereadHost (host port : Bytes) : Bytes × Bytes :=
  if port = [] then hostAndPort host else (host, port)

theorem hostAndPort_cases (rest : Bytes) :
    (hostAndPort rest = (rest, []) ∧ (93 ∈ rest ∨ 58 ∉ rest))
      ∨ (93 ∉ rest ∧ 58 ∉ (hostAndPort rest).2
        ∧ rest = (hostAndPort rest).1 ++ 58 :: (hostAndPort rest).2) := by
  rw [hostAndPort]
  by_cases hbracket : 93 ∈ rest
  · rw [if_pos hbracket]
    exact .inl ⟨rfl, .inl hbracket⟩
  · rw [if_neg hbracket]
    cases hsplit : splitLast 58 rest with
    | none => exact .inl ⟨rfl, .inr (not_mem_of_splitLast_none hsplit)⟩
    | some parts =>
        exact .inr ⟨hbracket, not_mem_of_splitLast hsplit, splitLast_inv hsplit⟩

theorem mem_of_mem_hostText {d : UInt8} (hd : d < 97 ∨ 122 < d) (hcolon : d ≠ 58)
    (h : d ∈ hostText (lower (hostAndPort rest).1) (hostAndPort rest).2) : d ∈ rest := by
  have hparts : d ∈ (hostAndPort rest).1 ∨ d ∈ (hostAndPort rest).2 := by
    rcases List.mem_append.mp h with hhost | hport
    · exact .inl (mem_of_mem_lower hd hhost)
    · rw [marked] at hport
      by_cases hnil : (hostAndPort rest).2 = []
      · rw [if_pos hnil] at hport
        cases hport
      · rw [if_neg hnil] at hport
        exact .inr ((List.mem_cons.mp hport).resolve_left hcolon)
  rcases hostAndPort_cases rest with ⟨hread, -⟩ | ⟨-, -, hrest⟩
  · rw [hread] at hparts
    exact hparts.resolve_right List.not_mem_nil
  · rw [hrest]
    exact hparts.elim (List.mem_append_left _)
      fun hport => List.mem_append_right _ (List.mem_cons_of_mem _ hport)

theorem hostAndPort_hostText (rest : Bytes) :
    hostAndPort (hostText (lower (hostAndPort rest).1) (hostAndPort rest).2)
      = rereadHost (lower (hostAndPort rest).1) (hostAndPort rest).2 := by
  rw [rereadHost]
  by_cases hport : (hostAndPort rest).2 = []
  · rw [if_pos hport, hostText, marked, if_pos hport, List.append_nil]
  · rcases hostAndPort_cases rest with ⟨hread, -⟩ | ⟨hbracket, hcolon, -⟩
    · rw [hread] at hport
      exact absurd rfl hport
    · have hwritten : 93 ∉ hostText (lower (hostAndPort rest).1) (hostAndPort rest).2 :=
        fun hmem => hbracket (mem_of_mem_hostText (by decide) (by decide) hmem)
      rw [if_neg hport, hostAndPort, if_neg hwritten, hostText, marked, if_neg hport]
      exact congrArg (Option.getD · _) (splitLast_append hcolon _)

theorem lower_hostAndPort {text : Bytes} (h : lower text = text) :
    lower (hostAndPort text).1 = (hostAndPort text).1 := by
  rcases hostAndPort_cases text with ⟨hread, -⟩ | ⟨-, -, htext⟩
  · rwa [hread]
  · have hparts := h
    rw [htext, lower_append] at hparts
    exact (List.append_inj hparts (length_lower _)).1

/-- A host in lower case is read again in lower case. -/
theorem lower_rereadHost {host : Bytes} (h : lower host = host) (port : Bytes) :
    lower (rereadHost host port).1 = (rereadHost host port).1 := by
  rw [rereadHost]
  split_ifs
  · exact lower_hostAndPort h
  · exact h

/-- The host is read as it was written, unless a colon stands in front of nothing. -/
theorem keptHost_hostText (rest : Bytes) :
    KeptHost (hostText (lower (hostAndPort rest).1) (hostAndPort rest).2)
      ↔ ((hostAndPort rest).2 = [] → 93 ∉ lower (hostAndPort rest).1 →
        ∀ host, splitLast 58 (lower (hostAndPort rest).1) ≠ some (host, [])) := by
  have hhost : lower (hostAndPort (hostText (lower (hostAndPort rest).1) (hostAndPort rest).2)).1
      = (hostAndPort (hostText (lower (hostAndPort rest).1) (hostAndPort rest).2)).1 := by
    rw [hostAndPort_hostText]
    exact lower_rereadHost (lower_lower _) _
  by_cases hport : (hostAndPort rest).2 = []
  · have htext : hostText (lower (hostAndPort rest).1) (hostAndPort rest).2
        = lower (hostAndPort rest).1 := by
      rw [hostText, marked, if_pos hport, List.append_nil]
    rw [htext] at hhost ⊢
    exact ⟨fun h _ => h.port, fun h => ⟨h hport, hhost⟩⟩
  · refine iff_of_true ⟨?_, hhost⟩ fun hnil => absurd hnil hport
    intro hbracket host hsplit
    -- The port that is read is the one that was written.
    have hread := hostAndPort_hostText rest
    rw [hostAndPort, if_neg hbracket, hsplit, rereadHost, if_neg hport, Option.getD_some] at hread
    exact hport (Prod.mk.inj hread).2.symm

theorem mem_of_mem_userinfoAndRest {authority : Bytes} {d : UInt8}
    (h : d ∈ (userinfoAndRest authority).2) : d ∈ authority ∧ d ≠ 64 := by
  refine ⟨mem_of_mem_splitLast.1 h, ?_⟩
  rw [userinfoAndRest] at h
  cases hsplit : splitLast 64 authority with
  | none =>
      rw [hsplit] at h
      exact ne_of_mem_of_not_mem h (not_mem_of_splitLast_none hsplit)
  | some parts =>
      rw [hsplit] at h
      exact ne_of_mem_of_not_mem h (not_mem_of_splitLast hsplit)

end Host

/-! #### The scheme -/

theorem toLower_eq_iff {c d : UInt8} (hd : d < 65) : toLower c = d ↔ c = d := by
  constructor
  · exact eq_of_toLower (.inl (by grind))
  · rintro rfl
    rw [toLower]
    split <;> grind

theorem isPrefixOf_lower {needle : Bytes} (h : ∀ d ∈ needle, d < 65) (text : Bytes) :
    needle.isPrefixOf (lower text) = needle.isPrefixOf text := by
  induction needle generalizing text with
  | nil => rfl
  | cons d needle ih =>
      cases text with
      | nil => rfl
      | cons c text =>
          have hd : (d == toLower c) = (d == c) := by
            rw [Bool.eq_iff_iff, beq_iff_eq, beq_iff_eq, eq_comm, eq_comm (a := d)]
            exact toLower_eq_iff (h d List.mem_cons_self)
          have hrest := ih (fun b hb => h b (List.mem_cons_of_mem _ hb)) text
          change (d == toLower c && needle.isPrefixOf (lower text)) = _
          rw [hd, hrest]
          rfl

theorem mark_low : ∀ d ∈ str "://", d < 65 := by
  have htext : str "://" = [58, 47, 47] := by decide
  rw [htext]
  exact List.forall_mem_cons.mpr ⟨by decide, List.forall_mem_cons.mpr
    ⟨by decide, List.forall_mem_cons.mpr ⟨by decide, List.forall_mem_nil _⟩⟩⟩

/-- A mark without letters stands where it stood. -/
theorem findText_lower {needle : Bytes} (h : ∀ d ∈ needle, d < 65) (text : Bytes) :
    findText needle (lower text) = findText needle text := by
  induction text with
  | nil => rfl
  | cons c text ih =>
      have hstarts := isPrefixOf_lower h (c :: text)
      change findText needle (toLower c :: lower text) = _
      rw [findText, findText, ih]
      change (if needle.isPrefixOf (lower (c :: text)) = true then _ else _) = _
      rw [hstarts]

/-! ### The parts of what is left -/

namespace UrlParts

variable (parts : UrlParts) (secret : Bytes → Bytes → Bool)

theorem leftOver_path_start : (leftOver secret parts.record).path = []
    ∨ (leftOver secret parts.record).path.head? = some 47 := by
  change (if _ then _ else _) = _ ∨ (if _ then _ else _ : Bytes).head? = _
  split_ifs
  · exact .inr rfl
  · exact parts.path_start

theorem leftOver_path_plain : 63 ∉ (leftOver secret parts.record).path
    ∧ 35 ∉ (leftOver secret parts.record).path := by
  change 63 ∉ (if _ then _ else _ : Bytes) ∧ 35 ∉ (if _ then _ else _ : Bytes)
  split_ifs
  · decide
  · exact parts.path_plain

theorem leftOver_query_plain :
    ∀ parameter ∈ (leftOver secret parts.record).query, PlainParameter parameter := by
  intro parameter hmem
  have hpassed := (List.mem_filter.mp hmem).1
  exact plainParameter_of_parseUrl parts.parseUrl_text (isSecretName_passed hpassed).2

theorem mem_authority {d : UInt8} (hd : d < 97) (hcolon : d ≠ 58)
    (h : d ∈ hostText parts.record.host parts.record.port) : d ∈ parts.authority ∧ d ≠ 64 :=
  mem_of_mem_userinfoAndRest (mem_of_mem_hostText (.inl hd) hcolon h)

theorem host_plain : ∀ c ∈ hostText parts.record.host parts.record.port,
    c ≠ 47 ∧ c ≠ 63 ∧ c ≠ 35 := by
  intro c hc
  refine ⟨?_, ?_, ?_⟩
  · rintro rfl
    exact (parts.authority_plain 47 (parts.mem_authority (by decide) (by decide) hc).1).1 rfl
  · rintro rfl
    exact (parts.authority_plain 63 (parts.mem_authority (by decide) (by decide) hc).1).2.1 rfl
  · rintro rfl
    exact (parts.authority_plain 35 (parts.mem_authority (by decide) (by decide) hc).1).2.2 rfl

theorem at_not_mem_host : 64 ∉ hostText parts.record.host parts.record.port :=
  fun h => (parts.mem_authority (by decide) (by decide) h).2 rfl

/-- The parts of the text that a pass leaves. -/
def written : UrlParts where
  scheme := lower parts.scheme
  authority := hostText parts.record.host parts.record.port
  path := (leftOver secret parts.record).path
  query := if (leftOver secret parts.record).query = [] then none
    else some (List.intercalate [38] ((leftOver secret parts.record).query.map parameterText))
  scheme_first := by
    have hmark : lower (str "://") = str "://" := by decide
    rw [← hmark, ← lower_append, length_lower, hmark, findText_lower mark_low]
    exact parts.scheme_first
  authority_plain := parts.host_plain
  path_start := parts.leftOver_path_start secret
  path_plain := parts.leftOver_path_plain secret
  query_plain := by
    intro query hquery
    split_ifs at hquery
    rw [← Option.some.inj hquery]
    have hseparate := PlainParameter.not_mem_parameterText (parts.leftOver_query_plain secret)
    exact not_mem_intercalate (by decide) fun part hpart => (hseparate part hpart).1

theorem query_written : (parts.written secret).query
    = if (leftOver secret parts.record).query = [] then none
      else some (List.intercalate [38] ((leftOver secret parts.record).query.map parameterText)) :=
  rfl

theorem text_written (hscheme : parts.scheme ≠ []) :
    (parts.written secret).text = (leftOver secret parts.record).toText := by
  have hlower : lower parts.scheme ≠ [] := by simpa [lower] using hscheme
  have hquery : optional 63 (parts.written secret).query
      = queryText (leftOver secret parts.record).query := by
    rw [query_written]
    by_cases hnil : (leftOver secret parts.record).query = []
    · rw [if_pos hnil, hnil]
      rfl
    · rw [if_neg hnil, queryText_eq hnil]
      rfl
  have htext : (parts.written secret).text = lower parts.scheme ++ str "://"
      ++ hostText parts.record.host parts.record.port ++ (leftOver secret parts.record).path
      ++ optional 63 (parts.written secret).query ++ [] := rfl
  have hleft : (leftOver secret parts.record).toText
      = (if lower parts.scheme = [] then [] else lower parts.scheme ++ str "://") ++ []
        ++ parts.record.host ++ marked (str ":") parts.record.port
        ++ (leftOver secret parts.record).path ++ queryText (leftOver secret parts.record).query
        ++ [] := rfl
  rw [htext, hleft, hquery, if_neg hlower, hostText]
  simp only [List.append_assoc, List.append_nil]

theorem record_scheme_eq_nil : parts.record.scheme = [] ↔ parts.scheme = [] := by
  change lower parts.scheme = [] ↔ _
  exact List.map_eq_nil_iff

/-- Without a scheme there is no mark in front of the host. -/
theorem toText_leftOver_bare (hscheme : parts.scheme = []) :
    (leftOver secret parts.record).toText
      = hostText parts.record.host parts.record.port ++ (leftOver secret parts.record).path
        ++ queryText (leftOver secret parts.record).query := by
  have hleft : (leftOver secret parts.record).toText
      = (if parts.record.scheme = [] then [] else parts.record.scheme ++ str "://") ++ []
        ++ parts.record.host ++ marked (str ":") parts.record.port
        ++ (leftOver secret parts.record).path ++ queryText (leftOver secret parts.record).query
        ++ [] := rfl
  rw [hleft, if_pos (parts.record_scheme_eq_nil.mpr hscheme), hostText]
  simp only [List.nil_append, List.append_nil]

theorem userinfoAndRest_written : userinfoAndRest (parts.written secret).authority
    = ([], hostText parts.record.host parts.record.port) := by
  change userinfoAndRest (hostText parts.record.host parts.record.port) = _
  rw [userinfoAndRest, splitLast_none parts.at_not_mem_host, Option.getD_none]

/-- **What is read of it** has the same parts, perhaps with a port that the host ended with and
without an empty parameter at the end. -/
theorem record_written : (parts.written secret).record
    = { leftOver secret parts.record with
        host := (rereadHost parts.record.host parts.record.port).1
        port := (rereadHost parts.record.host parts.record.port).2
        query := rereadQuery (leftOver secret parts.record).query } := by
  have hread : hostAndPort (hostText parts.record.host parts.record.port)
      = rereadHost parts.record.host parts.record.port := hostAndPort_hostText _
  have hlower : lower (rereadHost parts.record.host parts.record.port).1
      = (rereadHost parts.record.host parts.record.port).1 :=
    lower_rereadHost (lower_lower _) _
  have hauthority : parseAuthority (parts.written secret).authority
      = ([], rereadHost parts.record.host parts.record.port) := by
    rw [parseAuthority_eq, userinfoAndRest_written, hread, hlower]
  have hquery : (ampersandParts ((parts.written secret).query.getD [])).map parseParameter
      = rereadQuery (leftOver secret parts.record).query := by
    rw [query_written]
    by_cases hnil : (leftOver secret parts.record).query = []
    · rw [if_pos hnil, hnil]
      rfl
    · rw [if_neg hnil, Option.getD_some]
      exact parameters_reread (parts.leftOver_query_plain secret)
  have hscheme : lower (parts.written secret).scheme = (leftOver secret parts.record).scheme :=
    lower_lower _
  rw [record, UrlHead.parsed, hquery, hauthority, hscheme]
  rfl

theorem scheme_record_written : (parts.written secret).record.scheme = parts.record.scheme :=
  lower_lower _

theorem canonical_written_iff (hscheme : parts.scheme ≠ []) :
    (parts.written secret).Canonical
      ↔ (leftOver secret parts.record).query.getLast? ≠ some ([], [])
        ∧ KeptHost (hostText parts.record.host parts.record.port) := by
  have hrest := parts.userinfoAndRest_written secret
  constructor
  · intro h
    refine ⟨?_, ?_⟩
    · by_cases hnil : (leftOver secret parts.record).query = []
      · rw [hnil]
        exact fun hnone => by cases hnone
      · have hquery := h.query _ ((parts.query_written secret).trans (if_neg hnil))
        exact (keptQuery_written_iff (parts.leftOver_query_plain secret) hnil).mp hquery
    · have hhost := h.authority.host
      rwa [hrest] at hhost
  · rintro ⟨hlast, hhost⟩
    refine ⟨by simpa [written, lower] using hscheme, lower_lower _, ⟨?_, by rwa [hrest]⟩, ?_, ?_⟩
    · intro rest hsplit
      rw [written, splitLast_none parts.at_not_mem_host] at hsplit
      cases hsplit
    · intro query hquery
      rw [query_written] at hquery
      split_ifs at hquery with hnil
      rw [← Option.some.inj hquery]
      exact (keptQuery_written_iff (parts.leftOver_query_plain secret) hnil).mpr hlast
    · exact fun hnone => by cases hnone

end UrlParts

end ContextSnap.Privacy
