import ContextSnap.Proof.UrlText

/-!
# The parts of a URL

A URL with `://` is a scheme, an authority, a path and perhaps a query and a fragment, each behind
its mark. Reading finds these parts. Writing what was read gives back the same text exactly when
every mark has something behind it and nothing had to be put into lower case, and never gives a
longer one.
-/

namespace ContextSnap.Privacy

open Matching (findText)

/-! ### The last mark -/

theorem splitLast_append {c : UInt8} {back : Bytes} (h : c ∉ back) (front : Bytes) :
    splitLast c (front ++ c :: back) = some (front, back) := by
  have hreverse : (front ++ c :: back).reverse = back.reverse ++ c :: front.reverse := by simp
  have hback : c ∉ back.reverse := by simpa using h
  rw [splitLast, hreverse, splitFirst_append hback]
  simp

theorem splitLast_none {c : UInt8} {text : Bytes} (h : c ∉ text) : splitLast c text = none := by
  rw [splitLast, splitFirst_none (by simpa using h)]
  rfl

theorem not_mem_of_splitLast {c : UInt8} {text front back : Bytes}
    (h : splitLast c text = some (front, back)) : c ∉ back := by
  obtain ⟨⟨behind, before⟩, hsplit, hparts⟩ := Option.map_eq_some_iff.mp h
  cases hparts
  simpa using (splitFirst_inv hsplit).2

theorem not_mem_of_splitLast_none {c : UInt8} {text : Bytes} (h : splitLast c text = none) :
    c ∉ text := by
  intro hmem
  obtain ⟨back, front, hreverse, hback⟩ := List.eq_append_cons_of_mem (List.mem_reverse.mpr hmem)
  rw [splitLast, hreverse, splitFirst_append hback] at h
  cases h

/-! ### The mark of the scheme -/

/-- What is found is found first in what ends with it. -/
theorem findText_inv {needle text : Bytes} {i : Nat} (h : findText needle text = some i) :
    text = text.take i ++ needle ++ text.drop (i + needle.length)
      ∧ findText needle (text.take i ++ needle) = some (text.take i).length := by
  induction text generalizing i with
  | nil =>
      by_cases hnil : needle = []
      · subst hnil
        obtain rfl : 0 = i := by simpa [findText] using h
        exact ⟨rfl, rfl⟩
      · simp [findText, hnil] at h
  | cons c text ih =>
      rw [findText] at h
      by_cases hprefix : needle.isPrefixOf (c :: text) = true
      · rw [if_pos hprefix] at h
        obtain rfl := Option.some.inj h
        obtain ⟨rest, hrest⟩ := List.isPrefixOf_iff_prefix.mp hprefix
        refine ⟨?_, ?_⟩
        · rw [← hrest]
          simp
        · cases needle with
          | nil => rfl
          | cons b needle =>
              rw [List.take_zero, List.nil_append, findText, if_pos (by simp)]
              rfl
      · rw [if_neg hprefix] at h
        obtain ⟨j, hj, rfl⟩ := Option.map_eq_some_iff.mp h
        obtain ⟨htext, hfind⟩ := ih hj
        have hshift : j + 1 + needle.length = (j + needle.length) + 1 := by omega
        refine ⟨?_, ?_⟩
        · rw [hshift, List.take_succ_cons, List.drop_succ_cons, List.cons_append, List.cons_append,
            ← htext]
        · have hshort : needle.isPrefixOf (c :: (text.take j ++ needle)) = false := by
            by_contra hlong
            apply hprefix
            have hpre := List.isPrefixOf_iff_prefix.mp (Bool.not_eq_false _ ▸ hlong)
            rw [htext, List.isPrefixOf_iff_prefix]
            exact hpre.trans (by simp)
          rw [List.take_succ_cons, List.cons_append, findText, if_neg (by simp [hshort]), hfind]
          rfl

theorem parseUrl_scheme {scheme : Bytes}
    (h : findText (str "://") (scheme ++ str "://") = some scheme.length) (rest : Bytes) :
    parseUrl (scheme ++ str "://" ++ rest) = .ok (parseHierarchical (lower scheme) rest) := by
  have hlength : (scheme ++ str "://").length = scheme.length + 3 := by
    rw [List.length_append]
    rfl
  rw [parseUrl_of_find (findText_append h rest), ← hlength, List.drop_left, List.append_assoc,
    List.take_left]

/-! ### A URL with an authority -/

/-- A mark with what stands behind it, if it is there at all. -/
def optional (mark : UInt8) (part : Option Bytes) : Bytes := part.elim [] (mark :: ·)

structure UrlParts extends UrlHead where
  query : Option Bytes := none
  fragment : Option Bytes := none
  query_plain : ∀ query', query = some query' → 35 ∉ query'

namespace UrlParts

variable (parts : UrlParts)

def text : Bytes :=
  parts.toUrlHead.text ++ optional 63 parts.query ++ optional 35 parts.fragment

/-- What the URL is read as. -/
def record : ParsedUrl :=
  { parts.toUrlHead.parsed ((ampersandParts (parts.query.getD [])).map parseParameter) with
    fragment := parts.fragment.getD [] }

theorem parseHierarchical_fragment {body : Bytes} (h : 35 ∉ body) (fragment scheme : Bytes) :
    parseHierarchical scheme (body ++ 35 :: fragment)
      = { parseHierarchical scheme body with fragment } := by
  have htake : (body ++ 35 :: fragment).takeWhile
        (fun c => !(decide (c = 47) || decide (c = 63) || decide (c = 35)))
      = body.takeWhile fun c => !(decide (c = 47) || decide (c = 63) || decide (c = 35)) := by
    rw [List.takeWhile_append]
    split_ifs with hall
    · rw [List.takeWhile_cons_of_neg (by decide), List.append_nil]
      exact ((List.takeWhile_prefix _).eq_of_length hall).symm
    · rfl
  have hdrop : (body ++ 35 :: fragment).dropWhile
        (fun c => !(decide (c = 47) || decide (c = 63) || decide (c = 35)))
      = (body.dropWhile fun c => !(decide (c = 47) || decide (c = 63) || decide (c = 35)))
        ++ 35 :: fragment := by
    rw [List.dropWhile_append]
    split_ifs with hall
    · rw [List.isEmpty_iff.mp hall, List.dropWhile_cons_of_neg (by decide)]
      rfl
    · rfl
  have hrest : (35 : UInt8) ∉ body.dropWhile
      fun c => !(decide (c = 47) || decide (c = 63) || decide (c = 35)) :=
    fun hmem => h ((List.dropWhile_suffix _).subset hmem)
  simp only [parseHierarchical, htake, hdrop, splitFirst_append hrest, splitFirst_none hrest,
    Option.getD_some, Option.getD_none]

theorem optional_query : optional 63 parts.query = []
    ∨ (optional 63 parts.query).head? = some 63 := by
  cases parts.query with
  | none => exact .inl rfl
  | some query => exact .inr rfl

theorem hash_not_mem_query : 35 ∉ optional 63 parts.query := by
  cases hquery : parts.query with
  | none => exact List.not_mem_nil
  | some query =>
      have hplain := parts.query_plain query hquery
      simp [optional, hplain]

theorem tail_query : (optional 63 parts.query).tail = parts.query.getD [] := by
  cases parts.query <;> rfl

/-- **Reading.** -/
theorem parseUrl_text : parseUrl parts.text = .ok parts.record := by
  have hbody := parts.toUrlHead.parseHierarchical_text parts.optional_query
    parts.hash_not_mem_query (lower parts.scheme)
  rw [tail_query] at hbody
  have hplain : (35 : UInt8) ∉ parts.authority ++ (parts.path ++ optional 63 parts.query) := by
    intro hmem
    rcases List.mem_append.mp hmem with hmem | hmem
    · exact (parts.authority_plain 35 hmem).2.2 rfl
    · rcases List.mem_append.mp hmem with hmem | hmem
      · exact parts.path_plain.2 hmem
      · exact parts.hash_not_mem_query hmem
  have htext : parts.text = parts.scheme ++ str "://"
      ++ ((parts.authority ++ (parts.path ++ optional 63 parts.query))
        ++ optional 35 parts.fragment) := by
    simp only [text, UrlHead.text, List.append_assoc]
  rw [htext, parseUrl_scheme parts.scheme_first]
  cases hfragment : parts.fragment with
  | none =>
      have hnone : optional 35 (none : Option Bytes) = [] := rfl
      rw [hnone, List.append_nil, hbody, record, hfragment]
      rfl
  | some fragment =>
      have hsome : optional 35 (some fragment) = 35 :: fragment := rfl
      rw [hsome, parseHierarchical_fragment hplain, hbody, record, hfragment]
      rfl

/-- Its mark is the first one of the text. -/
theorem findText_text : findText (str "://") parts.text = some parts.scheme.length := by
  rw [text, UrlHead.text, List.append_assoc, List.append_assoc, List.append_assoc]
  exact findText_append parts.scheme_first _

/-- A text up to a mark, and the part behind it. -/
theorem exists_optional (mark : UInt8) (text : Bytes) :
    ∃ front back, text = front ++ optional mark back ∧ mark ∉ front := by
  by_cases hmem : mark ∈ text
  · obtain ⟨front, back, htext, hfront⟩ := List.eq_append_cons_of_mem hmem
    exact ⟨front, some back, htext, hfront⟩
  · exact ⟨text, none, (List.append_nil _).symm, hmem⟩

/-- Every text with the mark of a scheme has such parts. -/
theorem exists_parts {url : Bytes} {n : Nat} (h : findText (str "://") url = some n) :
    ∃ parts : UrlParts, parts.text = url ∧ parts.scheme = url.take n := by
  obtain ⟨hurl, hfirst⟩ := findText_inv h
  let stops (c : UInt8) : Bool := decide (c = 47) || decide (c = 63) || decide (c = 35)
  let rest := url.drop (n + (str "://").length)
  let authority := rest.takeWhile fun c => !stops c
  obtain ⟨body, fragment, hbody, hhash⟩ :=
    exists_optional 35 (rest.dropWhile fun c => !stops c)
  obtain ⟨path, query, hpath, hquestion⟩ := exists_optional 63 body
  have hauthority : ∀ c ∈ authority, c ≠ 47 ∧ c ≠ 63 ∧ c ≠ 35 := by
    intro c hc
    have hgoes := @List.mem_takeWhile_imp _ (fun c => !stops c) _ _ hc
    simpa [stops, not_or, and_assoc] using hgoes
  have hrest : rest = authority ++ (path ++ optional 63 query ++ optional 35 fragment) := by
    rw [← hpath, ← hbody]
    exact List.takeWhile_append_dropWhile.symm
  -- The authority ends at one of the three marks, and only one of them starts a path.
  have hstart : path = [] ∨ path.head? = some 47 := by
    cases hcons : path with
    | nil => exact .inl rfl
    | cons c tail =>
        have hhead := List.head?_dropWhile_not (fun c => !stops c) rest
        rw [hbody, hpath, hcons] at hhead
        have hstop : c = 47 ∨ c = 63 ∨ c = 35 := by
          have hstops : stops c = true := by simpa using hhead
          simpa [stops, or_assoc] using hstops
        have hne : c ≠ 63 ∧ c ≠ 35 := by
          refine ⟨?_, ?_⟩
          · rintro rfl
            exact hquestion (hcons ▸ List.mem_cons_self)
          · rintro rfl
            exact hhash (hpath ▸ List.mem_append_left _ (hcons ▸ List.mem_cons_self))
        exact .inr (congrArg some (hstop.resolve_right (not_or.mpr hne)))
  have hplain : 35 ∉ path ∧ ∀ query', query = some query' → 35 ∉ query' := by
    rw [hpath] at hhash
    refine ⟨fun hmem => hhash (List.mem_append_left _ hmem), ?_⟩
    rintro query' rfl hmem
    exact hhash (List.mem_append_right _ (List.mem_cons_of_mem _ hmem))
  refine ⟨{ scheme := url.take n, authority, path, query, fragment, scheme_first := hfirst
            authority_plain := hauthority, path_start := hstart
            path_plain := ⟨hquestion, hplain.1⟩, query_plain := hplain.2 }, ?_, rfl⟩
  have hwhole : url.take n ++ str "://" ++ rest = url := hurl.symm
  rw [hrest] at hwhole
  simpa only [text, UrlHead.text, List.append_assoc] using hwhole

end UrlParts

/-! ### Writing what was read -/

/-- A part as it is written after it was read: never longer than it was, and as it was exactly if it
was `kept`. -/
structure WrittenBack (written text : Bytes) (kept : Prop) : Prop where
  length_le : written.length ≤ text.length
  eq_iff : written = text ↔ kept

namespace WrittenBack

variable {written text written' text' : Bytes} {kept kept' : Prop}

theorem refl (text : Bytes) : WrittenBack text text True := ⟨le_refl _, iff_of_true rfl trivial⟩

theorem of_lt (hlt : written.length < text.length) (hkept : ¬kept) :
    WrittenBack written text kept := by
  refine ⟨hlt.le, iff_of_false ?_ hkept⟩
  rintro rfl
  exact lt_irrefl _ hlt

theorem congr (h : WrittenBack written text kept) (hkept : kept ↔ kept') :
    WrittenBack written text kept' := ⟨h.length_le, h.eq_iff.trans hkept⟩

/-- No part makes up for another one that is shorter. -/
theorem append (h : WrittenBack written text kept) (h' : WrittenBack written' text' kept') :
    WrittenBack (written ++ written') (text ++ text') (kept ∧ kept') := by
  have hle := h.length_le
  have hle' := h'.length_le
  constructor
  · rw [List.length_append, List.length_append]
    omega
  · rw [← h.eq_iff, ← h'.eq_iff]
    constructor
    · intro heq
      have hlength := congrArg List.length heq
      rw [List.length_append, List.length_append] at hlength
      exact List.append_inj heq (by omega)
    · rintro ⟨rfl, rfl⟩
      rfl

theorem lowered (text : Bytes) : WrittenBack (lower text) text (lower text = text) :=
  ⟨(length_lower text).le, Iff.rfl⟩

end WrittenBack

/-- A mark with nothing behind it is not written. -/
theorem marked_writtenBack (mark : UInt8) (part : Bytes) :
    WrittenBack (marked [mark] part) (mark :: part) (part ≠ []) := by
  by_cases hnil : part = []
  · rw [marked, if_pos hnil]
    exact .of_lt (by simp) (not_not_intro hnil)
  · rw [marked, if_neg hnil]
    exact (WrittenBack.refl _).congr (iff_of_true trivial hnil)

/-- Nor is a mark with nothing in front of it. -/
theorem markedBefore_writtenBack (mark part : Bytes) (hmark : mark ≠ []) :
    WrittenBack (if part = [] then [] else part ++ mark) (part ++ mark) (part ≠ []) := by
  by_cases hnil : part = []
  · rw [if_pos hnil]
    exact .of_lt (by simp [List.length_pos_of_ne_nil hmark]) (not_not_intro hnil)
  · rw [if_neg hnil]
    exact (WrittenBack.refl _).congr (iff_of_true trivial hnil)

/-! #### The scheme and the authority -/

theorem scheme_writtenBack (scheme : Bytes) :
    WrittenBack (if lower scheme = [] then [] else lower scheme ++ str "://")
      (scheme ++ str "://") (scheme ≠ [] ∧ lower scheme = scheme) := by
  by_cases hnil : scheme = []
  · subst hnil
    exact .of_lt (by decide) fun h => h.1 rfl
  · have hlower : lower scheme ≠ [] := by simpa [lower] using hnil
    rw [if_neg hlower]
    exact ((WrittenBack.lowered scheme).append (.refl _)).congr (by simp [hnil])

/-- The host and the port of what stands behind the userinfo, before the host is put into lower
case. -/
def hostAndPort (rest : Bytes) : Bytes × Bytes :=
  if 93 ∈ rest then (rest, []) else (splitLast 58 rest).getD (rest, [])

def userinfoAndRest (authority : Bytes) : Bytes × Bytes :=
  (splitLast 64 authority).getD ([], authority)

theorem parseAuthority_eq (authority : Bytes) :
    parseAuthority authority
      = ((userinfoAndRest authority).1, lower (hostAndPort (userinfoAndRest authority).2).1,
        (hostAndPort (userinfoAndRest authority).2).2) := rfl

/-- No colon in front of nothing, and no capital letter in the host. -/
structure KeptHost (rest : Bytes) : Prop where
  port : 93 ∉ rest → ∀ host, splitLast 58 rest ≠ some (host, [])
  host : lower (hostAndPort rest).1 = (hostAndPort rest).1

/-- No at sign behind nothing, either. -/
structure KeptAuthority (authority : Bytes) : Prop where
  userinfo : ∀ rest, splitLast 64 authority ≠ some ([], rest)
  host : KeptHost (userinfoAndRest authority).2

theorem host_writtenBack (rest : Bytes) :
    WrittenBack (lower (hostAndPort rest).1 ++ marked (str ":") (hostAndPort rest).2) rest
      (KeptHost rest) := by
  by_cases hsplit : ∃ host port, 93 ∉ rest ∧ splitLast 58 rest = some (host, port)
  · obtain ⟨host, port, hbracket, hsplit⟩ := hsplit
    have hread : hostAndPort rest = (host, port) := by
      rw [hostAndPort, if_neg hbracket, hsplit, Option.getD_some]
    have hkept : (lower host = host ∧ port ≠ []) ↔ KeptHost rest := by
      constructor
      · rintro ⟨hlower, hport⟩
        refine ⟨?_, ?_⟩
        · intro _ other hother
          rw [hsplit] at hother
          exact hport (Prod.mk.inj (Option.some.inj hother)).2
        · rwa [hread]
      · intro h
        refine ⟨?_, ?_⟩
        · have hlower := h.host
          rwa [hread] at hlower
        · rintro rfl
          exact h.port hbracket host hsplit
    rw [hread, splitLast_inv hsplit]
    rw [splitLast_inv hsplit] at hkept
    exact ((WrittenBack.lowered host).append (marked_writtenBack 58 port)).congr hkept
  · -- The whole text is the host.
    have hread : hostAndPort rest = (rest, []) := by
      rw [hostAndPort]
      by_cases hbracket : 93 ∈ rest
      · exact if_pos hbracket
      · cases hnone : splitLast 58 rest with
        | none => rw [if_neg hbracket, Option.getD_none]
        | some parts => exact absurd ⟨parts.1, parts.2, hbracket, hnone⟩ hsplit
    have hkept : lower rest = rest ↔ KeptHost rest := by
      constructor
      · intro hlower
        refine ⟨?_, ?_⟩
        · intro hbracket host hsome
          exact hsplit ⟨host, [], hbracket, hsome⟩
        · rwa [hread]
      · intro h
        have hlower := h.host
        rwa [hread] at hlower
    rw [hread, marked, if_pos rfl, List.append_nil]
    exact (WrittenBack.lowered rest).congr hkept

theorem authority_writtenBack (authority : Bytes) :
    WrittenBack
      ((if (parseAuthority authority).1 = [] then []
          else (parseAuthority authority).1 ++ str "@")
        ++ ((parseAuthority authority).2.1 ++ marked (str ":") (parseAuthority authority).2.2))
      authority (KeptAuthority authority) := by
  rw [parseAuthority_eq]
  cases hsplit : splitLast 64 authority with
  | none =>
      have hread : userinfoAndRest authority = ([], authority) := by
        rw [userinfoAndRest, hsplit, Option.getD_none]
      rw [hread, if_pos rfl, List.nil_append]
      refine (host_writtenBack authority).congr ⟨fun h => ⟨?_, ?_⟩, fun h => ?_⟩
      · rw [hsplit]
        exact fun rest hrest => by cases hrest
      · rwa [hread]
      · have hhost := h.host
        rwa [hread] at hhost
  | some parts =>
      obtain ⟨userinfo, rest⟩ := parts
      have hread : userinfoAndRest authority = (userinfo, rest) := by
        rw [userinfoAndRest, hsplit, Option.getD_some]
      have htext : authority = (userinfo ++ str "@") ++ rest := by
        rw [splitLast_inv hsplit, List.append_assoc]
        rfl
      have hkept : (userinfo ≠ [] ∧ KeptHost rest) ↔ KeptAuthority authority := by
        constructor
        · rintro ⟨huserinfo, hhost⟩
          refine ⟨?_, ?_⟩
          · intro other hother
            rw [hsplit] at hother
            exact huserinfo (Prod.mk.inj (Option.some.inj hother)).1
          · rwa [hread]
        · intro h
          refine ⟨?_, ?_⟩
          · rintro rfl
            exact h.userinfo rest hsplit
          · have hhost := h.host
            rwa [hread] at hhost
      have hwritten := ((markedBefore_writtenBack (str "@") userinfo (by decide)).append
        (host_writtenBack rest)).congr hkept
      rw [← htext] at hwritten
      rwa [hread]

/-! #### The query -/

theorem ampersandParts_ne_nil {text : Bytes} (h : text ≠ []) : ampersandParts text ≠ [] := by
  obtain ⟨c, rest, rfl⟩ := List.exists_cons_of_ne_nil h
  rw [ampersandParts]
  split
  · exact List.cons_ne_nil _ _
  · split <;> exact List.cons_ne_nil _ _

/-- The parts of a text are the text, up to an ampersand at its end. -/
theorem intercalate_ampersandParts (text : Bytes) :
    List.intercalate [38] (ampersandParts text)
        ++ (if text.getLast? = some 38 then [38] else []) = text := by
  induction text with
  | nil => rfl
  | cons c text ih =>
      rw [ampersandParts]
      by_cases hnil : text = []
      · subst hnil
        by_cases hc : c = 38
        · rw [if_pos hc, hc]
          rfl
        · rw [if_neg hc, if_neg (by simpa using hc)]
          rfl
      · have hlast : (c :: text).getLast? = text.getLast? :=
          List.getLast?_cons_of_ne_nil hnil
        obtain ⟨part, parts, hcons⟩ := List.exists_cons_of_ne_nil (ampersandParts_ne_nil hnil)
        rw [hlast, hcons]
        rw [hcons] at ih
        by_cases hc : c = 38
        · rw [if_pos hc, List.intercalate_cons_of_ne_nil (List.cons_ne_nil _ _)]
          rw [hc, List.nil_append, List.append_assoc, ih]
          rfl
        · rw [if_neg hc]
          have hhead : List.intercalate [38] ((c :: part) :: parts)
              = c :: List.intercalate [38] (part :: parts) := by
            cases parts with
            | nil => simp
            | cons next parts =>
                rw [List.intercalate_cons_cons, List.intercalate_cons_cons]
                rfl
          simp only [hhead, List.cons_append, ih]

theorem parameter_writtenBack (part : Bytes) :
    WrittenBack (parameterText (parseParameter part)) part
      (∀ name, splitFirst 61 part ≠ some (name, [])) := by
  cases hsplit : splitFirst 61 part with
  | none =>
      have hread : parseParameter part = (part, []) := by
        rw [parseParameter, hsplit, Option.getD_none]
      rw [hread, parameterText, marked, if_pos rfl, List.append_nil]
      exact (WrittenBack.refl part).congr (iff_of_true trivial fun name hname => by cases hname)
  | some parts =>
      obtain ⟨name, value⟩ := parts
      have hread : parseParameter part = (name, value) := by
        rw [parseParameter, hsplit, Option.getD_some]
      have hkept : (True ∧ value ≠ []) ↔ ∀ other, some (name, value) ≠ some (other, []) := by
        constructor
        · rintro ⟨-, hvalue⟩ other hother
          exact hvalue (Prod.mk.inj (Option.some.inj hother)).2
        · intro h
          refine ⟨trivial, ?_⟩
          rintro rfl
          exact h name rfl
      have hwritten := ((WrittenBack.refl name).append (marked_writtenBack 61 value)).congr hkept
      rw [← (splitFirst_inv hsplit).1] at hwritten
      rwa [hread]

theorem intercalate_writtenBack {α : Type} {write read : α → Bytes} {kept : α → Prop}
    (h : ∀ part, WrittenBack (write part) (read part) (kept part)) (separator : Bytes)
    (parts : List α) :
    WrittenBack (List.intercalate separator (parts.map write))
      (List.intercalate separator (parts.map read)) (∀ part ∈ parts, kept part) := by
  induction parts with
  | nil => exact (WrittenBack.refl []).congr (iff_of_true trivial (by simp))
  | cons part parts ih =>
      cases parts with
      | nil => simpa using h part
      | cons next parts =>
          rw [List.map_cons, List.map_cons, List.map_cons, List.map_cons,
            List.intercalate_cons_cons, List.intercalate_cons_cons, ← List.map_cons,
            ← List.map_cons]
          exact (((h part).append (.refl separator)).append ih).congr (by simp)

/-- A question mark has something behind it, which does not end with an ampersand and in which no
equals sign stands in front of nothing. -/
structure KeptQuery (query : Bytes) : Prop where
  ne_nil : query ≠ []
  ampersand : query.getLast? ≠ some 38
  values : ∀ part ∈ ampersandParts query, ∀ name, splitFirst 61 part ≠ some (name, [])

theorem query_writtenBack (query : Bytes) :
    WrittenBack (queryText ((ampersandParts query).map parseParameter)) (63 :: query)
      (KeptQuery query) := by
  by_cases hnil : query = []
  · subst hnil
    exact .of_lt (by decide) fun h => h.ne_nil rfl
  · have hparts : (ampersandParts query).map parseParameter ≠ [] := by
      simpa using ampersandParts_ne_nil hnil
    have hend : WrittenBack [] (if query.getLast? = some 38 then [38] else [])
        (query.getLast? ≠ some 38) := by
      by_cases hlast : query.getLast? = some 38
      · rw [if_pos hlast]
        exact .of_lt (by decide) (not_not_intro hlast)
      · rw [if_neg hlast]
        exact (WrittenBack.refl []).congr (iff_of_true trivial hlast)
    have hwritten := (WrittenBack.refl [63]).append
      ((intercalate_writtenBack parameter_writtenBack [38] (ampersandParts query)).append hend)
    rw [List.map_id', intercalate_ampersandParts, List.append_nil] at hwritten
    rw [queryText_eq hparts, List.map_map]
    refine hwritten.congr ⟨?_, ?_⟩
    · rintro ⟨-, hvalues, hlast⟩
      exact ⟨hnil, hlast, hvalues⟩
    · intro h
      exact ⟨trivial, h.values, h.ampersand⟩

namespace UrlParts

variable (parts : UrlParts)

/-- A URL that is written back as it was read. -/
structure Canonical : Prop where
  scheme_ne : parts.scheme ≠ []
  scheme_lower : lower parts.scheme = parts.scheme
  authority : KeptAuthority parts.authority
  query : ∀ query, parts.query = some query → KeptQuery query
  fragment : parts.fragment ≠ some []

theorem query_writtenBack :
    WrittenBack (queryText parts.record.query) (optional 63 parts.query)
      (∀ query, parts.query = some query → KeptQuery query) := by
  cases hquery : parts.query with
  | none =>
      rw [record, hquery]
      exact (WrittenBack.refl []).congr (iff_of_true trivial fun query h => by cases h)
  | some query =>
      rw [record, hquery]
      apply (Privacy.query_writtenBack query).congr
      constructor
      · rintro h query' hquery'
        rwa [← Option.some.inj hquery']
      · intro h
        exact h query rfl

theorem fragment_writtenBack :
    WrittenBack (marked (str "#") parts.record.fragment) (optional 35 parts.fragment)
      (parts.fragment ≠ some []) := by
  cases hfragment : parts.fragment with
  | none =>
      rw [record, hfragment]
      exact (WrittenBack.refl []).congr (iff_of_true trivial fun h => by cases h)
  | some fragment =>
      rw [record, hfragment]
      exact (marked_writtenBack 35 fragment).congr (not_congr (Option.some_inj).symm)

/-- **Writing back.** -/
theorem toText_writtenBack :
    WrittenBack parts.record.toText parts.text parts.Canonical := by
  have hwritten := (((scheme_writtenBack parts.scheme).append
    (authority_writtenBack parts.authority)).append (.refl parts.path)).append
    parts.query_writtenBack |>.append parts.fragment_writtenBack
  have htext : parts.text = parts.scheme ++ str "://" ++ parts.authority ++ parts.path
      ++ optional 63 parts.query ++ optional 35 parts.fragment := rfl
  have hrecord : parts.record.toText
      = (if lower parts.scheme = [] then [] else lower parts.scheme ++ str "://")
        ++ ((if (parseAuthority parts.authority).1 = [] then []
            else (parseAuthority parts.authority).1 ++ str "@")
          ++ ((parseAuthority parts.authority).2.1
            ++ marked (str ":") (parseAuthority parts.authority).2.2))
        ++ parts.path ++ queryText parts.record.query ++ marked (str "#") parts.record.fragment := by
    simp only [ParsedUrl.toText, List.append_assoc]
    rfl
  rw [hrecord, htext]
  refine hwritten.congr ⟨?_, ?_⟩
  · rintro ⟨⟨⟨⟨⟨hne, hlower⟩, hauthority⟩, -⟩, hquery⟩, hfragment⟩
    exact ⟨hne, hlower, hauthority, hquery, hfragment⟩
  · intro h
    exact ⟨⟨⟨⟨⟨h.scheme_ne, h.scheme_lower⟩, h.authority⟩, trivial⟩, h.query⟩, h.fragment⟩

end UrlParts

/-! ### Reading and writing -/

section Reading

variable {url : Bytes} {parsed : ParsedUrl}

/-- A URL without the mark of an authority. -/
structure Opaque (url : Bytes) (parsed : ParsedUrl) : Prop where
  find : findText (str "://") url = none
  read : ∃ scheme path, url = scheme ++ 58 :: path ∧ 58 ∉ scheme ∧ 47 ∉ scheme
    ∧ parsed = { scheme := lower scheme, path }

/-- What parses has the parts of a URL, or is opaque. -/
theorem parseUrl_cases (h : parseUrl url = .ok parsed) :
    (∃ parts : UrlParts, parts.text = url ∧ parts.record = parsed) ∨ Opaque url parsed := by
  cases hfind : findText (str "://") url with
  | some n =>
      obtain ⟨parts, htext, -⟩ := UrlParts.exists_parts hfind
      refine .inl ⟨parts, htext, ?_⟩
      rw [← htext, parts.parseUrl_text] at h
      exact Except.ok.inj h
  | none =>
      refine .inr ⟨hfind, ?_⟩
      rw [parseUrl] at h
      by_cases hne : url = []
      · rw [if_pos hne] at h
        cases h
      · rw [if_neg hne] at h
        simp only [hfind] at h
        cases hcolon : splitFirst 58 url with
        | none =>
            rw [hcolon] at h
            cases h
        | some split =>
            obtain ⟨scheme, path⟩ := split
            rw [hcolon] at h
            dsimp only at h
            by_cases hslash : 47 ∈ scheme
            · rw [if_pos hslash] at h
              cases h
            · rw [if_neg hslash] at h
              obtain ⟨htext, hscheme⟩ := splitFirst_inv hcolon
              exact ⟨scheme, path, htext, hscheme, hslash, (Except.ok.inj h).symm⟩

/-- An opaque URL gets an authority, or loses its colon. -/
theorem Opaque.toText_ne (h : Opaque url parsed) : parsed.toText ≠ url := by
  obtain ⟨scheme, path, rfl, -, -, rfl⟩ := h.read
  intro htext
  have hlength := congrArg List.length htext
  have hmark : (str "://").length = 3 := rfl
  by_cases hnil : scheme = []
  · subst hnil
    simp [ParsedUrl.toText, lower, marked, queryText] at hlength
  · have hlower : lower scheme ≠ [] := by simpa [lower] using hnil
    simp only [ParsedUrl.toText, hlower, if_false, if_true, marked, queryText, List.append_nil,
      List.length_append, List.length_cons, length_lower, hmark] at hlength
    omega

theorem toText_eq_iff (h : parseUrl url = .ok parsed) :
    parsed.toText = url ↔ ∃ parts : UrlParts, parts.text = url ∧ parts.Canonical := by
  constructor
  · intro htext
    rcases parseUrl_cases h with ⟨parts, rfl, rfl⟩ | hbare
    · exact ⟨parts, rfl, parts.toText_writtenBack.eq_iff.mp htext⟩
    · exact absurd htext hbare.toText_ne
  · rintro ⟨parts, rfl, hcanonical⟩
    rw [parts.parseUrl_text] at h
    rw [← Except.ok.inj h]
    exact parts.toText_writtenBack.eq_iff.mpr hcanonical

end Reading

end ContextSnap.Privacy
