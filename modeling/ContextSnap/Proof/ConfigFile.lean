import ContextSnap.Core.ConfigFile
import Mathlib.Data.List.TakeWhile

/-!
# Configurations written and read back

What is written is read back exactly where no text breaks its line and no item of a list is empty or
breaks the list. Whatever the file says, the texts that are read from it have this shape.
-/

namespace ContextSnap

namespace ConfigFile

/-! ### Values that are written -/

theorem dropWhile_of_head {p : UInt8 → Bool} {text : Bytes} (h : ∀ c ∈ text.head?, p c = false) :
    text.dropWhile p = text := by
  cases text with
  | nil => rfl
  | cons c text => rw [List.dropWhile_cons_of_neg (by simp [h c (by simp)])]

/-- No blanks at either end. -/
def Bare (text : Bytes) : Prop :=
  (∀ c ∈ text.head?, isSpace c = false) ∧ ∀ c ∈ text.getLast?, isSpace c = false

instance (text : Bytes) : Decidable (Bare text) :=
  @instDecidableAnd _ _ (Option.decidableForallMem _) (Option.decidableForallMem _)

theorem trim_of_bare {text : Bytes} (h : Bare text) : trim text = text := by
  have hlast : text.reverse.dropWhile isSpace = text.reverse :=
    dropWhile_of_head (by rw [List.head?_reverse]; exact h.2)
  rw [trim, dropWhile_of_head h.1, hlast, List.reverse_reverse]

theorem trim_space_append {blanks : Bytes} (hblanks : ∀ c ∈ blanks, isSpace c = true)
    (text : Bytes) : trim (blanks ++ text) = trim text := by
  rw [trim, trim, List.dropWhile_append_of_pos hblanks]

theorem trim_append_space {text blanks : Bytes} (hblanks : ∀ c ∈ blanks, isSpace c = true)
    (h : Bare text) : trim (text ++ blanks) = text := by
  cases text with
  | nil =>
      have hnone := trim_space_append hblanks []
      rwa [List.append_nil] at hnone
  | cons c text =>
      have hfront : ((c :: text) ++ blanks).dropWhile isSpace = (c :: text) ++ blanks :=
        dropWhile_of_head (by simpa using h.1)
      have hback : ((c :: text) ++ blanks).reverse.dropWhile isSpace
          = (c :: text).reverse.dropWhile isSpace := by
        rw [List.reverse_append,
          List.dropWhile_append_of_pos fun c' hc' => hblanks c' (List.mem_reverse.mp hc')]
      have hbare := trim_of_bare h
      rw [trim, dropWhile_of_head h.1] at hbare
      rw [trim, hfront, hback, hbare]

theorem quoted_eq (text : Bytes) : quoted text = 34 :: (text ++ [34]) := rfl

@[simp]
theorem bare_quoted (text : Bytes) : Bare (quoted text) := by
  constructor
  · intro c hc
    obtain rfl : 34 = c := by simpa [quoted_eq] using hc
    rfl
  · intro c hc
    rw [quoted_eq, ← List.cons_append, List.getLast?_concat] at hc
    obtain rfl : 34 = c := by simpa using hc
    rfl

theorem unquote_quoted (text : Bytes) : unquote (quoted text) = text := by
  rw [quoted_eq, unquote, if_pos ⟨.inl rfl, List.getLast?_concat⟩, List.dropLast_concat]

@[simp]
theorem textValue_quoted (text : Bytes) : textValue (quoted text) = text := by
  rw [textValue, trim_of_bare (bare_quoted text), unquote_quoted]

@[simp]
theorem parseBool_boolText (value fallback : Bool) :
    parseBool (boolText value) fallback = value := by
  have htrue : textValue (str "true") = str "true" := by decide
  have hfalse : textValue (str "false") = str "false" := by decide
  cases value with
  | false => simp [parseBool, boolText, hfalse]
  | true => simp [parseBool, boolText, htrue]

theorem isDigit_bounds {c : UInt8} (h : isDigit c = true) : 48 ≤ c.toNat ∧ c.toNat ≤ 57 := by
  simpa [isDigit, UInt8.le_iff_toNat_le] using h

theorem isSpace_of_isDigit {c : UInt8} (h : isDigit c = true) : isSpace c = false := by
  obtain ⟨hlow, hhigh⟩ := isDigit_bounds h
  have hne : c ≠ 32 := fun heq => by rw [heq] at hlow; exact absurd hlow (by decide)
  simp only [isSpace, Bool.or_eq_false_iff, beq_eq_false_iff_ne, Bool.and_eq_false_iff,
    decide_eq_false_iff_not, UInt8.le_iff_toNat_le]
  exact ⟨hne, .inr (by change ¬c.toNat ≤ 13; omega)⟩

theorem bare_decimal (n : Nat) : Bare (decimal n) :=
  ⟨fun _ hc => isSpace_of_isDigit (isDigit_of_mem_decimal (List.mem_of_head? hc)),
    fun _ hc => isSpace_of_isDigit (isDigit_of_mem_decimal (List.mem_of_getLast? hc))⟩

@[simp]
theorem bare_numberText (value : UInt32) : Bare (numberText value) := bare_decimal _

theorem unquote_decimal (n : Nat) : unquote (decimal n) = decimal n := by
  cases hdigits : decimal n with
  | nil => rfl
  | cons c digits =>
      have hc := isDigit_bounds (isDigit_of_mem_decimal (n := n) (hdigits ▸ List.mem_cons_self))
      rw [unquote, if_neg]
      rintro ⟨rfl | rfl, -⟩
      · exact absurd hc.1 (by decide)
      · exact absurd hc.1 (by decide)

theorem stoul_decimal {n : Nat} (h : n < 2 ^ 64) : stoul (decimal n) = some n.toUInt64 := by
  have hhead : ∀ sign : UInt8, isDigit sign = false → (decimal n).head? ≠ some sign := by
    intro sign hsign heq
    rw [isDigit_of_mem_decimal (List.mem_of_head? heq)] at hsign
    exact absurd hsign (by decide)
  have hdigits : (decimal n).takeWhile isDigit = decimal n :=
    List.takeWhile_eq_self_iff.mpr fun c hc => isDigit_of_mem_decimal hc
  have hminus := hhead 45 (by decide)
  have hplus := hhead 43 (by decide)
  rw [stoul, dropWhile_of_head (bare_decimal n).1]
  simp [hminus, hplus, hdigits, digitsValue_decimal, decimal_ne_nil,
    show n < 18446744073709551616 from h]

@[simp]
theorem parseU32_numberText (value fallback : UInt32) :
    parseU32 (numberText value) fallback = value := by
  have hlt : value.toNat < 2 ^ 64 := by have := value.toNat_lt; omega
  have hvalue : value.toNat.toUInt64.toUInt32 = value := by
    apply UInt32.toNat.inj
    simp
  rw [parseU32, numberText, textValue, trim_of_bare (bare_decimal _), unquote_decimal,
    stoul_decimal hlt]
  exact hvalue

@[simp]
theorem ofText_toText (level : LogLevel) : LogLevel.ofText (str level.toText) = level := by
  cases level <;> simp [LogLevel.ofText, LogLevel.toText]

/-! ### Lists that are written -/

/-- An item that a list can hold. -/
def PlainItem (value : Bytes) : Prop := value ≠ [] ∧ 44 ∉ value ∧ 10 ∉ value

theorem arrayText_eq (values : List Bytes) :
    arrayText values = 91 :: (arrayItems values ++ [93]) := rfl

@[simp]
theorem bare_arrayText (values : List Bytes) : Bare (arrayText values) := by
  constructor
  · intro c hc
    obtain rfl : 91 = c := by simpa [arrayText_eq] using hc
    rfl
  · intro c hc
    rw [arrayText_eq, ← List.cons_append, List.getLast?_concat] at hc
    obtain rfl : 93 = c := by simpa using hc
    rfl

theorem beforeBracket_append (text : Bytes) : beforeBracket (text ++ [93]) = text := by
  rw [beforeBracket, if_pos (by simp), List.reverse_append, List.reverse_singleton,
    List.singleton_append, List.dropWhile_cons_of_neg (by simp), List.tail_cons,
    List.reverse_reverse]

theorem not_mem_quoted {c : UInt8} (hc : c ≠ 34) {value : Bytes} (h : c ∉ value) :
    c ∉ quoted value := by
  simp [quoted_eq, h, hc]

theorem arrayItems_cons (value next : Bytes) (values : List Bytes) :
    arrayItems (value :: next :: values)
      = quoted value ++ 44 :: ([32] ++ arrayItems (next :: values)) := by
  rw [arrayItems, List.append_assoc]
  · rfl
  · exact List.cons_ne_nil _ _

/-- The pieces of a written list, each with the blanks that may stand in front of it. -/
theorem pieces_arrayItems {values : List Bytes} (h : ∀ value ∈ values, PlainItem value)
    (hne : values ≠ []) {blanks : Bytes} (hblanks : ∀ c ∈ blanks, isSpace c = true) :
    ((pieces 44 (blanks ++ arrayItems values)).map textValue).filter (· ≠ []) = values := by
  induction values generalizing blanks with
  | nil => exact absurd rfl hne
  | cons value values ih =>
      obtain ⟨hvalue, hcomma, -⟩ := h value List.mem_cons_self
      have hpiece : 44 ∉ blanks ++ quoted value := by
        rw [List.mem_append, not_or]
        refine ⟨fun hmem => ?_, not_mem_quoted (by decide) hcomma⟩
        exact absurd (hblanks 44 hmem) (by decide)
      have hread : textValue (blanks ++ quoted value) = value := by
        rw [textValue, trim_space_append hblanks, ← textValue, textValue_quoted]
      cases values with
      | nil =>
          rw [arrayItems, pieces_of_not_mem (by simp [quoted_eq]) hpiece]
          simp [hread, hvalue]
      | cons next values =>
          have hrest := ih (fun v hv => h v (List.mem_cons_of_mem _ hv)) (List.cons_ne_nil _ _)
            (fun c hc => by rw [List.mem_singleton.mp hc]; decide : ∀ c ∈ [32], isSpace c = true)
          rw [arrayItems_cons, ← List.append_assoc, pieces_append_cons hpiece, List.map_cons, hread,
            List.filter_cons_of_pos (by simpa using hvalue), hrest]

theorem parseArray_arrayText {values : List Bytes} (h : ∀ value ∈ values, PlainItem value) :
    parseArray (arrayText values) = values := by
  have hcons : ∃ c rest, arrayItems values ++ [93] = c :: rest :=
    List.exists_cons_of_ne_nil (by simp)
  obtain ⟨c, rest, hcons⟩ := hcons
  rw [arrayText_eq, hcons, parseArray, ← hcons, beforeBracket_append]
  cases values with
  | nil => rfl
  | cons value values =>
      exact pieces_arrayItems h (List.cons_ne_nil _ _)
        (fun c hc => absurd hc List.not_mem_nil : ∀ c ∈ [], isSpace c = true)

/-! ### Lines that are written -/

/-- Letters and underscores, as keys have them. -/
def Word (text : Bytes) : Prop := text ≠ [] ∧ ∀ c ∈ text, c = 95 ∨ 97 ≤ c ∧ c ≤ 122

instance (text : Bytes) : Decidable (Word text) :=
  @instDecidableAnd _ _ inferInstance (List.decidableBAll _ text)

theorem Word.ne {text : Bytes} (h : Word text) {c d : UInt8} (hc : c ∈ text)
    (hd : ¬(d = 95 ∨ 97 ≤ d ∧ d ≤ 122)) : c ≠ d :=
  fun heq => hd (heq ▸ h.2 c hc)

theorem Word.not_space {text : Bytes} (h : Word text) {c : UInt8} (hc : c ∈ text) :
    isSpace c = false := by
  cases hspace : isSpace c with
  | false => rfl
  | true =>
      exfalso
      rcases h.2 c hc with rfl | ⟨hlow, -⟩
      · exact absurd hspace (by decide)
      · simp only [isSpace, Bool.or_eq_true, beq_iff_eq, Bool.and_eq_true,
          decide_eq_true_eq, UInt8.le_iff_toNat_le] at hspace hlow
        rcases hspace with rfl | ⟨-, hhigh⟩
        · exact absurd hlow (by decide)
        · exact absurd (hlow.trans hhigh) (by decide)

theorem blank_isSpace : ∀ c ∈ ([32] : Bytes), isSpace c = true :=
  List.forall_mem_singleton.mpr rfl

def trimRight (text : Bytes) : Bytes := (text.reverse.dropWhile isSpace).reverse

theorem trimRight_append_cons (front : Bytes) {c : UInt8} (hc : isSpace c = false)
    (rest : Bytes) : trimRight (front ++ c :: rest) = front ++ c :: trimRight rest := by
  have hkeep : (c :: front.reverse).dropWhile isSpace = c :: front.reverse := by
    apply dropWhile_of_head
    intro d hd
    obtain rfl := Option.mem_some_iff.mp hd
    exact hc
  rw [trimRight, trimRight, List.reverse_append, List.reverse_cons, List.append_assoc,
    List.singleton_append, List.dropWhile_append]
  split_ifs with hrest
  · rw [hkeep, List.isEmpty_iff.mp hrest]
    simp
  · simp

/-- The value of a line begins after its first `=`, whatever it is. -/
theorem loadLine_key (config : Config) (header : Bytes) {key : Bytes} (hkey : Word key)
    (rest : Bytes) :
    Config.loadLine (config, header) ((key ++ [32]) ++ 61 :: rest)
      = (config.apply header key (trim (trimRight rest)), header) := by
  obtain ⟨c, later, hcons⟩ := List.exists_cons_of_ne_nil hkey.1
  have hc : c ∈ key := hcons ▸ List.mem_cons_self
  have hhead : ∀ rest : Bytes, ((key ++ [32]) ++ rest).head? = some c := fun rest => by
    rw [hcons]
    rfl
  have hline : trim ((key ++ [32]) ++ 61 :: rest) = (key ++ [32]) ++ 61 :: trimRight rest := by
    have hleft : ((key ++ [32]) ++ 61 :: rest).dropWhile isSpace = (key ++ [32]) ++ 61 :: rest := by
      apply dropWhile_of_head
      rw [hhead]
      intro d hd
      obtain rfl := Option.mem_some_iff.mp hd
      exact hkey.not_space hc
    rw [trim, hleft]
    exact trimRight_append_cons (key ++ [32]) (by decide : isSpace 61 = false) rest
  have hbare : Bare key :=
    ⟨fun d hd => hkey.not_space (List.mem_of_head? hd),
      fun d hd => hkey.not_space (List.mem_of_getLast? hd)⟩
  have hfront : ∀ d ∈ key ++ [32], decide (d ≠ 61) = true := by
    intro d hd
    rw [decide_eq_true_eq]
    obtain hd | hd := List.mem_append.mp hd
    · exact hkey.ne hd (by decide)
    · rw [List.mem_singleton.mp hd]
      decide
  have hcomment : some c ≠ some 35 := fun h => hkey.ne hc (by decide) (Option.some.inj h)
  have hheader : some c ≠ some 91 := fun h => hkey.ne hc (by decide) (Option.some.inj h)
  simp only [Config.loadLine, hline, hhead]
  rw [if_neg (by simp [hcomment]), if_neg fun h => hheader h.1, if_pos (by simp),
    List.takeWhile_append_of_pos hfront, List.takeWhile_cons_of_neg (by decide), List.append_nil,
    List.dropWhile_append_of_pos hfront, List.dropWhile_cons_of_neg (by decide), List.tail_cons,
    trim_append_space blank_isSpace hbare]

theorem entryLine_eq (entry : String × Bytes) :
    entryLine entry = (str entry.1 ++ [32]) ++ 61 :: ([32] ++ entry.2) := by
  rw [List.append_assoc]
  exact List.append_assoc _ _ _

theorem loadLine_entryLine (config : Config) (header : Bytes) {entry : String × Bytes}
    (hkey : Word (str entry.1)) (hbare : Bare entry.2) :
    Config.loadLine (config, header) (entryLine entry)
      = (config.apply header (str entry.1) entry.2, header) := by
  have hvalue : trim (trimRight ([32] ++ entry.2)) = entry.2 := by
    cases hraw : entry.2 with
    | nil => decide
    | cons c raw =>
        have hkeep : ([32] ++ c :: raw).reverse.dropWhile isSpace = ([32] ++ c :: raw).reverse := by
          apply dropWhile_of_head
          rw [List.head?_reverse, List.getLast?_append_of_ne_nil _ (List.cons_ne_nil _ _), ← hraw]
          exact hbare.2
        rw [trimRight, hkeep, List.reverse_reverse, trim_space_append blank_isSpace, ← hraw,
          trim_of_bare hbare]
  rw [entryLine_eq, loadLine_key config header hkey, hvalue]

theorem loadLine_header (state : Config × Bytes) (name : Bytes) :
    Config.loadLine state (91 :: (name ++ [93])) = (state.1, name) := by
  have hbare : Bare (91 :: (name ++ [93])) := by
    constructor
    · intro c hc
      obtain rfl : 91 = c := by simpa using hc
      rfl
    · intro c hc
      rw [← List.cons_append, List.getLast?_concat] at hc
      obtain rfl : 93 = c := by simpa using hc
      rfl
  have hlast : (91 :: (name ++ [93])).getLast? = some 93 := by
    rw [← List.cons_append, List.getLast?_concat]
  simp only [Config.loadLine, trim_of_bare hbare]
  rw [if_neg (by simp), if_pos ⟨rfl, hlast⟩, List.tail_cons, List.dropLast_concat]

theorem loadLine_nil (state : Config × Bytes) : Config.loadLine state [] = state := rfl

theorem loadLine_banner (state : Config × Bytes) : Config.loadLine state banner = state := by
  have hbare : trim banner = banner := by decide
  simp only [Config.loadLine, hbare]
  rw [if_pos (.inr rfl)]

/-! ### Sections that are written -/

@[simp]
theorem bare_boolText (value : Bool) : Bare (boolText value) := by
  cases value <;> decide

theorem foldl_entries (config : Config) (header : Bytes) {entries : List (String × Bytes)}
    (hkeys : ∀ key ∈ entries.map Prod.fst, Word (str key))
    (h : ∀ entry ∈ entries, Bare entry.2) :
    (entries.map entryLine).foldl Config.loadLine (config, header)
      = (entries.foldl (fun config entry => config.apply header (str entry.1) entry.2) config,
          header) := by
  induction entries generalizing config with
  | nil => rfl
  | cons entry entries ih =>
      rw [List.map_cons, List.forall_mem_cons] at hkeys
      rw [List.forall_mem_cons] at h
      rw [List.map_cons, List.foldl_cons, loadLine_entryLine config header hkeys.1 h.1,
        ih _ hkeys.2 h.2, List.foldl_cons]

/-- A section is read as its keys are, one after another. -/
theorem loadLine_section {α : Type} (put : α → Config) (keys : Keys α) (name : Bytes)
    (entries : α → List (String × Bytes)) {start values : α} (header : Bytes)
    (hkeys : ∀ key ∈ (entries values).map Prod.fst, Word (str key))
    (hput : ∀ values key raw,
      (put values).apply name key raw = put (applyKey keys key raw values))
    (hbare : ∀ entry ∈ entries values, Bare entry.2)
    (hread : (entries values).foldl
      (fun values entry => applyKey keys (str entry.1) entry.2 values) start = values) :
    (groupLines (name, entries values)).foldl Config.loadLine (put start, header)
      = (put values, name) := by
  rw [groupLines, List.foldl_append, List.foldl_cons, List.foldl_cons, List.foldl_nil,
    loadLine_nil]
  change ((entries values).map entryLine).foldl _
    (Config.loadLine (put start, header) (91 :: (name ++ [93]))) = _
  rw [loadLine_header, foldl_entries _ _ hkeys hbare]
  congr 1
  calc (entries values).foldl (fun config entry => config.apply name (str entry.1) entry.2)
        (put start)
      = put ((entries values).foldl
          (fun values entry => applyKey keys (str entry.1) entry.2 values) start) :=
        List.foldl_hom put fun values entry => hput values (str entry.1) entry.2
    _ = put values := by rw [hread]

/-- Keys do not depend on the values that stand behind them. -/
theorem word_keys (config : Config) :
    ∀ entries ∈ topEntries config :: config.groups.map Prod.snd,
      ∀ key ∈ entries.map Prod.fst, Word (str key) := by
  have hdefault : ∀ keys ∈ (topEntries {} :: (Config.groups {}).map Prod.snd).map
      (List.map Prod.fst), ∀ key ∈ keys, Word (str key) := by decide
  have hsame : (topEntries config :: config.groups.map Prod.snd).map (List.map Prod.fst)
      = (topEntries {} :: (Config.groups {}).map Prod.snd).map (List.map Prod.fst) := by
    simp [Config.groups, topEntries, storageEntries, captureEntries, restoreEntries,
      privacyEntries, hotkeyEntries, ipcEntries]
  intro entries hentries
  apply hdefault
  rw [← hsame]
  exact List.mem_map_of_mem hentries

variable (config : Config) (header : Bytes)

theorem loadLine_storage (storage : StorageConfig) :
    (groupLines (str "storage", storageEntries storage)).foldl Config.loadLine (config, header)
      = ({ config with storage := storage }, str "storage") := by
  have hkeys := word_keys { storage := storage } (storageEntries storage) (by simp [Config.groups])
  apply loadLine_section (fun storage => { config with storage := storage }) storageKeys (str "storage")
    storageEntries header hkeys (fun values key raw => by simp [Config.apply]) (by simp [storageEntries])
  simp [storageEntries, storageKeys, applyKey]

theorem loadLine_capture {capture : CaptureConfig}
    (happs : ∀ value ∈ capture.excludedAppIds, PlainItem value)
    (hurls : ∀ value ∈ capture.excludedUrlPatterns, PlainItem value) :
    (groupLines (str "capture", captureEntries capture)).foldl Config.loadLine (config, header)
      = ({ config with capture := capture }, str "capture") := by
  have hkeys := word_keys { capture := capture } (captureEntries capture) (by simp [Config.groups])
  apply loadLine_section (fun capture => { config with capture := capture }) captureKeys (str "capture")
    captureEntries header hkeys (fun values key raw => by simp [Config.apply]) (by simp [captureEntries])
  simp [captureEntries, captureKeys, applyKey, parseArray_arrayText happs,
    parseArray_arrayText hurls]

theorem loadLine_restore (restore : RestoreConfig) :
    (groupLines (str "restore", restoreEntries restore)).foldl Config.loadLine (config, header)
      = ({ config with restore := restore }, str "restore") := by
  have hkeys := word_keys { restore := restore } (restoreEntries restore) (by simp [Config.groups])
  apply loadLine_section (fun restore => { config with restore := restore }) restoreKeys (str "restore")
    restoreEntries header hkeys (fun values key raw => by simp [Config.apply]) (by simp [restoreEntries])
  simp [restoreEntries, restoreKeys, applyKey]

theorem loadLine_privacy {privacy : PrivacyConfig}
    (hparams : ∀ value ∈ privacy.extraSensitiveParams, PlainItem value)
    (hdenied : ∀ value ∈ privacy.domainDenylist, PlainItem value)
    (hallowed : ∀ value ∈ privacy.domainAllowlist, PlainItem value) :
    (groupLines (str "privacy", privacyEntries privacy)).foldl Config.loadLine (config, header)
      = ({ config with privacy := privacy }, str "privacy") := by
  have hkeys := word_keys { privacy := privacy } (privacyEntries privacy) (by simp [Config.groups])
  apply loadLine_section (fun privacy => { config with privacy := privacy }) privacyKeys (str "privacy")
    privacyEntries header hkeys (fun values key raw => by simp [Config.apply]) (by simp [privacyEntries])
  simp [privacyEntries, privacyKeys, applyKey, parseArray_arrayText hparams,
    parseArray_arrayText hdenied, parseArray_arrayText hallowed]

theorem loadLine_hotkeys (hotkeys : HotkeyConfig) :
    (groupLines (str "hotkeys", hotkeyEntries hotkeys)).foldl Config.loadLine (config, header)
      = ({ config with hotkeys := hotkeys }, str "hotkeys") := by
  have hkeys := word_keys { hotkeys := hotkeys } (hotkeyEntries hotkeys) (by simp [Config.groups])
  apply loadLine_section (fun hotkeys => { config with hotkeys := hotkeys }) hotkeyKeys (str "hotkeys")
    hotkeyEntries header hkeys (fun values key raw => by simp [Config.apply]) (by simp [hotkeyEntries])
  simp [hotkeyEntries, hotkeyKeys, applyKey]

theorem loadLine_ipc (ipc : IpcConfig) :
    (groupLines (str "ipc", ipcEntries ipc)).foldl Config.loadLine (config, header)
      = ({ config with ipc := ipc }, str "ipc") := by
  have hkeys := word_keys { ipc := ipc } (ipcEntries ipc) (by simp [Config.groups])
  apply loadLine_section (fun ipc => { config with ipc := ipc }) ipcKeys (str "ipc")
    ipcEntries header hkeys (fun values key raw => by simp [Config.apply]) (by simp [ipcEntries])
  simp [ipcEntries, ipcKeys, applyKey]

theorem apply_top (key raw : Bytes) :
    config.apply [] key raw = applyKey topKeys key raw config := by
  have hne : ∀ name : String, [] = str name ↔ "" = name := fun name => by
    rw [← str_inj]
    rfl
  simp [Config.apply, hne]

theorem loadLine_top (start : Config) :
    ((topEntries config).map entryLine).foldl Config.loadLine (start, [])
      = ({ start with logLevel := config.logLevel, logFile := config.logFile }, []) := by
  rw [foldl_entries start [] (word_keys config _ List.mem_cons_self) (by simp [topEntries])]
  simp only [apply_top]
  simp [topEntries, topKeys, applyKey]

end ConfigFile

open ConfigFile

/-! ### What can be read back -/

def HotkeyConfig.Plain (hotkeys : HotkeyConfig) : Prop :=
  10 ∉ hotkeys.quickSwitcher ∧ 10 ∉ hotkeys.saveSnapshot ∧ 10 ∉ hotkeys.restoreLast

def CaptureConfig.Plain (capture : CaptureConfig) : Prop :=
  (∀ value ∈ capture.excludedAppIds, PlainItem value) ∧
    ∀ value ∈ capture.excludedUrlPatterns, PlainItem value

def PrivacyConfig.Plain (privacy : PrivacyConfig) : Prop :=
  (∀ value ∈ privacy.extraSensitiveParams, PlainItem value) ∧
    (∀ value ∈ privacy.domainDenylist, PlainItem value) ∧
      ∀ value ∈ privacy.domainAllowlist, PlainItem value

/-- No text breaks its line, and no item is empty or breaks its list. -/
structure Config.Plain (config : Config) : Prop where
  databasePath : 10 ∉ config.storage.databasePath
  logFile : 10 ∉ config.logFile
  socketPath : 10 ∉ config.ipc.socketPath
  hotkeys : config.hotkeys.Plain
  capture : config.capture.Plain
  privacy : config.privacy.Plain

theorem foldl_lines {config : Config} (h : config.Plain) (start : Config) :
    config.lines.foldl Config.loadLine (start, []) = (config, str "ipc") := by
  rw [Config.lines, List.cons_append, List.foldl_cons, loadLine_banner, List.foldl_append,
    loadLine_top]
  simp only [Config.groups, List.flatMap_cons, List.flatMap_nil, List.foldl_append,
    List.append_nil]
  rw [loadLine_storage, loadLine_capture _ _ h.capture.1 h.capture.2, loadLine_restore,
    loadLine_privacy _ _ h.privacy.1 h.privacy.2.1 h.privacy.2.2, loadLine_hotkeys, loadLine_ipc]

theorem not_mem_arrayText {values : List Bytes} (h : ∀ value ∈ values, PlainItem value) :
    10 ∉ arrayText values := by
  have hitems : 10 ∉ arrayItems values := by
    induction values with
    | nil => exact List.not_mem_nil
    | cons value values ih =>
        rw [List.forall_mem_cons] at h
        have hvalue := not_mem_quoted (by decide : (10 : UInt8) ≠ 34) h.1.2.2
        cases values with
        | nil => exact hvalue
        | cons next values =>
            rw [arrayItems_cons]
            simp [hvalue, ih h.2]
  simp [arrayText_eq, hitems]

theorem not_mem_numberText (value : UInt32) : 10 ∉ numberText value :=
  fun h => absurd (isDigit_of_mem_decimal h) (by decide)

theorem not_mem_boolText (value : Bool) : 10 ∉ boolText value := by
  cases value <;> decide

theorem not_mem_entryLine {entry : String × Bytes} (hkey : Word (str entry.1))
    (h : 10 ∉ entry.2) : 10 ∉ entryLine entry := by
  have hkey' : 10 ∉ str entry.1 := fun hmem => hkey.ne hmem (by decide) rfl
  simp [entryLine_eq, hkey', h]

theorem not_mem_line {config : Config} (h : config.Plain) : ∀ line ∈ config.lines, 10 ∉ line := by
  have hvalues : ∀ entries ∈ topEntries config :: config.groups.map Prod.snd,
      ∀ entry ∈ entries, 10 ∉ entry.2 := by
    have hlevel : 10 ∉ str config.logLevel.toText := by cases config.logLevel <;> decide
    obtain ⟨hquick, hsave, hlast⟩ := h.hotkeys
    have hne : (10 : UInt8) ≠ 34 := by decide
    simp [-Prod.forall, Config.groups, topEntries, storageEntries, captureEntries, restoreEntries,
      privacyEntries, hotkeyEntries, ipcEntries, not_mem_boolText, not_mem_numberText,
      not_mem_arrayText h.capture.1, not_mem_arrayText h.capture.2,
      not_mem_arrayText h.privacy.1, not_mem_arrayText h.privacy.2.1,
      not_mem_arrayText h.privacy.2.2, not_mem_quoted hne h.databasePath,
      not_mem_quoted hne h.logFile, not_mem_quoted hne h.socketPath, not_mem_quoted hne hquick,
      not_mem_quoted hne hsave, not_mem_quoted hne hlast, not_mem_quoted hne hlevel]
  have hlines : ∀ entries ∈ topEntries config :: config.groups.map Prod.snd,
      ∀ line ∈ entries.map entryLine, 10 ∉ line := by
    intro entries hentries line hline
    obtain ⟨entry, hentry, rfl⟩ := List.mem_map.mp hline
    exact not_mem_entryLine
      (word_keys config entries hentries entry.1 (List.mem_map_of_mem hentry))
      (hvalues entries hentries entry hentry)
  have hnames : ∀ name ∈ (Config.groups {}).map Prod.fst, 10 ∉ str "[" ++ name ++ str "]" := by
    decide
  intro line hline
  rw [Config.lines, List.cons_append, List.mem_cons, List.mem_append, List.mem_flatMap] at hline
  rcases hline with rfl | htop | ⟨group, hgroup, hline⟩
  · decide
  · exact hlines _ List.mem_cons_self line htop
  · rw [groupLines, List.mem_append] at hline
    rcases hline with hhead | hentry
    · rcases List.mem_pair.mp hhead with rfl | rfl
      · exact List.not_mem_nil
      · have hname : group.1 ∈ config.groups.map Prod.fst := List.mem_map_of_mem hgroup
        exact hnames group.1 (by simpa [Config.groups] using hname)
    · exact hlines _ (List.mem_cons_of_mem _ (List.mem_map_of_mem hgroup)) line hentry

/-! ### What is read -/

theorem mem_of_mem_trim {c : UInt8} {text : Bytes} (h : c ∈ trim text) : c ∈ text := by
  rw [trim, List.mem_reverse] at h
  have hleft := List.mem_reverse.mp ((List.dropWhile_sublist _).mem h)
  exact (List.dropWhile_sublist _).mem hleft

theorem mem_of_mem_textValue {c : UInt8} {raw : Bytes} (h : c ∈ textValue raw) : c ∈ raw := by
  apply mem_of_mem_trim
  rw [textValue] at h
  cases hvalue : trim raw with
  | nil =>
      rw [hvalue] at h
      exact h
  | cons quote rest =>
      rw [hvalue, unquote] at h
      split_ifs at h
      · exact List.mem_cons_of_mem _ (List.mem_of_mem_dropLast h)
      · exact h

theorem plainItem_of_mem_parseArray {raw value : Bytes} (hraw : 10 ∉ raw)
    (h : value ∈ parseArray raw) : PlainItem value := by
  unfold parseArray at h
  split at h
  · rename_i c rest
    obtain ⟨hmem, hne⟩ := List.mem_filter.mp h
    obtain ⟨piece, hpiece, rfl⟩ := List.mem_map.mp hmem
    have hinner : ∀ d ∈ beforeBracket (c :: rest), d ∈ c :: rest := by
      intro d hd
      rw [beforeBracket] at hd
      split_ifs at hd
      · exact List.mem_reverse.mp
          ((List.dropWhile_sublist _).mem (List.mem_of_mem_tail (List.mem_reverse.mp hd)))
      · exact hd
    refine ⟨by simpa using hne, fun hcomma => ?_, fun hline => hraw ?_⟩
    · exact not_mem_of_mem_pieces hpiece (mem_of_mem_textValue hcomma)
    · exact List.mem_cons_of_mem _ (hinner _ (mem_of_mem_pieces hpiece (mem_of_mem_textValue hline)))
  · exact absurd h List.not_mem_nil

/-- What one configuration has in shape, the other has. -/
structure Config.Keeps (config config' : Config) : Prop where
  databasePath : 10 ∉ config.storage.databasePath → 10 ∉ config'.storage.databasePath
  logFile : 10 ∉ config.logFile → 10 ∉ config'.logFile
  socketPath : 10 ∉ config.ipc.socketPath → 10 ∉ config'.ipc.socketPath
  hotkeys : config.hotkeys.Plain → config'.hotkeys.Plain
  capture : config.capture.Plain → config'.capture.Plain
  privacy : config.privacy.Plain → config'.privacy.Plain

theorem Config.Keeps.refl (config : Config) : config.Keeps config := ⟨id, id, id, id, id, id⟩

theorem Config.Keeps.trans {config config' config'' : Config} (h : config.Keeps config')
    (h' : config'.Keeps config'') : config.Keeps config'' where
  databasePath := h'.databasePath ∘ h.databasePath
  logFile := h'.logFile ∘ h.logFile
  socketPath := h'.socketPath ∘ h.socketPath
  hotkeys := h'.hotkeys ∘ h.hotkeys
  capture := h'.capture ∘ h.capture
  privacy := h'.privacy ∘ h.privacy

/-- A known key has its effect, and any other has none. -/
theorem applyKey_cases {α : Type} (keys : Keys α) (key raw : Bytes) (values : α) :
    applyKey keys key raw values = values ∨
      ∃ entry ∈ keys, applyKey keys key raw values = entry.2 raw values := by
  rw [applyKey]
  cases hfind : keys.find? fun entry => str entry.1 = key with
  | none => exact .inl rfl
  | some entry => exact .inr ⟨entry, List.mem_of_find?_eq_some hfind, rfl⟩

theorem applyKey_preserves {α : Type} {keys : Keys α} {P : α → Prop} {raw : Bytes}
    (h : ∀ entry ∈ keys, ∀ values, P values → P (entry.2 raw values)) (key : Bytes) {values : α}
    (hvalues : P values) : P (applyKey keys key raw values) := by
  obtain heq | ⟨entry, hentry, heq⟩ := applyKey_cases keys key raw values
  · rwa [heq]
  · rw [heq]
    exact h entry hentry values hvalues

/-! Every key of a section leaves its texts plain. -/

section Keys

variable {raw : Bytes}

theorem storageKeys_plain (htext : 10 ∉ textValue raw) : ∀ entry ∈ storageKeys, ∀ storage,
    10 ∉ storage.databasePath → 10 ∉ (entry.2 raw storage).databasePath := by
  simp only [storageKeys, List.forall_mem_cons]
  exact ⟨fun _ _ => htext, fun _ h => h, fun _ h => h, fun _ h => h, fun _ h => h, fun _ h => h,
    fun _ h => h, fun _ h => absurd h List.not_mem_nil⟩

theorem captureKeys_plain (harray : ∀ value ∈ parseArray raw, PlainItem value) :
    ∀ entry ∈ captureKeys, ∀ capture, CaptureConfig.Plain capture →
      CaptureConfig.Plain (entry.2 raw capture) := by
  simp only [captureKeys, List.forall_mem_cons]
  exact ⟨fun _ h => h, fun _ h => h, fun _ h => h, fun _ h => h, fun _ h => h, fun _ h => h,
    fun _ h => h, fun _ h => ⟨harray, h.2⟩, fun _ h => ⟨h.1, harray⟩, fun _ h => h,
    fun _ h => absurd h List.not_mem_nil⟩

theorem privacyKeys_plain (harray : ∀ value ∈ parseArray raw, PlainItem value) :
    ∀ entry ∈ privacyKeys, ∀ privacy, PrivacyConfig.Plain privacy →
      PrivacyConfig.Plain (entry.2 raw privacy) := by
  simp only [privacyKeys, List.forall_mem_cons]
  exact ⟨fun _ h => h, fun _ h => h, fun _ h => h, fun _ h => ⟨harray, h.2⟩,
    fun _ h => ⟨h.1, harray, h.2.2⟩, fun _ h => ⟨h.1, h.2.1, harray⟩,
    fun _ h => absurd h List.not_mem_nil⟩

theorem hotkeyKeys_plain (htext : 10 ∉ textValue raw) : ∀ entry ∈ hotkeyKeys, ∀ hotkeys,
    HotkeyConfig.Plain hotkeys → HotkeyConfig.Plain (entry.2 raw hotkeys) := by
  simp only [hotkeyKeys, List.forall_mem_cons]
  exact ⟨fun _ h => ⟨htext, h.2⟩, fun _ h => ⟨h.1, htext, h.2.2⟩, fun _ h => ⟨h.1, h.2.1, htext⟩,
    fun _ h => h, fun _ h => absurd h List.not_mem_nil⟩

theorem ipcKeys_plain (htext : 10 ∉ textValue raw) : ∀ entry ∈ ipcKeys, ∀ ipc,
    10 ∉ ipc.socketPath → 10 ∉ (entry.2 raw ipc).socketPath := by
  simp only [ipcKeys, List.forall_mem_cons]
  exact ⟨fun _ _ => htext, fun _ h => h, fun _ h => h, fun _ h => h,
    fun _ h => absurd h List.not_mem_nil⟩

end Keys

theorem Config.apply_keeps (config : Config) (header key : Bytes) {raw : Bytes}
    (hraw : 10 ∉ raw) : config.Keeps (config.apply header key raw) := by
  have htext : 10 ∉ textValue raw := fun h => hraw (mem_of_mem_textValue h)
  have harray : ∀ value ∈ parseArray raw, PlainItem value :=
    fun value h => plainItem_of_mem_parseArray hraw h
  unfold Config.apply
  split_ifs
  · refine { Config.Keeps.refl config with databasePath := fun h => ?_ }
    exact applyKey_preserves (P := fun storage : StorageConfig => 10 ∉ storage.databasePath)
      (storageKeys_plain htext) key h
  · refine { Config.Keeps.refl config with capture := fun h => ?_ }
    exact applyKey_preserves (P := CaptureConfig.Plain) (captureKeys_plain harray) key h
  · exact { Config.Keeps.refl config with }
  · refine { Config.Keeps.refl config with privacy := fun h => ?_ }
    exact applyKey_preserves (P := PrivacyConfig.Plain) (privacyKeys_plain harray) key h
  · refine { Config.Keeps.refl config with hotkeys := fun h => ?_ }
    exact applyKey_preserves (P := HotkeyConfig.Plain) (hotkeyKeys_plain htext) key h
  · refine { Config.Keeps.refl config with socketPath := fun h => ?_ }
    exact applyKey_preserves (P := fun ipc : IpcConfig => 10 ∉ ipc.socketPath)
      (ipcKeys_plain htext) key h
  · apply applyKey_preserves (P := config.Keeps) _ key (Config.Keeps.refl config)
    intro entry hentry values hvalues
    rcases List.mem_pair.mp hentry with rfl | rfl
    · exact { hvalues with }
    · exact { hvalues with logFile := fun _ => htext }

theorem Config.loadLine_keeps (state : Config × Bytes) {line : Bytes} (hline : 10 ∉ line) :
    state.1.Keeps (Config.loadLine state line).1 := by
  simp only [Config.loadLine]
  split_ifs
  · exact Config.Keeps.refl _
  · exact Config.Keeps.refl _
  · apply Config.apply_keeps
    intro hmem
    apply hline
    apply mem_of_mem_trim
    exact (List.dropWhile_sublist _).mem (List.mem_of_mem_tail (mem_of_mem_trim hmem))
  · exact Config.Keeps.refl _

theorem Config.foldl_loadLine_keeps (state : Config × Bytes) {lines : List Bytes}
    (hlines : ∀ line ∈ lines, 10 ∉ line) : state.1.Keeps (lines.foldl Config.loadLine state).1 := by
  induction lines generalizing state with
  | nil => exact Config.Keeps.refl _
  | cons line lines ih =>
      rw [List.forall_mem_cons] at hlines
      exact (Config.loadLine_keeps state hlines.1).trans (ih _ hlines.2)

/-- A text whose line the lines in front of it leave in its section is taken from this line, even
where it breaks it. -/
theorem loadLines_of_line {P : Config → Prop}
    (hkeep : ∀ config config' : Config, config.Keeps config' → P config → P config')
    {header : Bytes} {entry : String × Bytes} (hkey : Word (str entry.1))
    (hset : ∀ (config : Config) (raw : Bytes), 10 ∉ raw →
      P (config.apply header (str entry.1) raw))
    {config start : Config} {front rest : List Bytes}
    (hlines : config.lines = front ++ entryLine entry :: rest)
    (hfront : ((pieces 10 (front.flatMap (· ++ [10]))).foldl Config.loadLine (start, [])).2
      = header) :
    P (start.loadLines (pieces 10 config.text)) := by
  have hword : 10 ∉ (str entry.1 ++ [32]) ++ [61] := by
    have hkey' : 10 ∉ str entry.1 := fun hmem => hkey.ne hmem (by decide) rfl
    simp [hkey']
  obtain ⟨piece, later, hpieces⟩ :=
    exists_pieces_append (by simp) hword ([32] ++ entry.2 ++ [10])
  have hline : pieces 10 (entryLine entry ++ [10])
      = ((str entry.1 ++ [32]) ++ 61 :: piece) :: later := by
    have htext : entryLine entry ++ [10]
        = ((str entry.1 ++ [32]) ++ [61]) ++ ([32] ++ entry.2 ++ [10]) := by
      rw [entryLine_eq]
      simp
    rw [htext, hpieces, List.append_assoc _ [61], List.singleton_append]
  have hclean : ∀ line ∈ pieces 10 (entryLine entry ++ [10]), 10 ∉ line :=
    fun line hmem => not_mem_of_mem_pieces hmem
  rw [hline, List.forall_mem_cons] at hclean
  have hpiece : 10 ∉ piece := fun hmem =>
    hclean.1 (List.mem_append_right _ (List.mem_cons_of_mem _ hmem))
  rw [Config.loadLines, Config.text, hlines, pieces_flatMap, List.flatMap_append,
    List.flatMap_cons, hline,
    List.foldl_append, List.cons_append, List.foldl_cons, ← pieces_flatMap]
  generalize (pieces 10 (front.flatMap (· ++ [10]))).foldl Config.loadLine (start, []) = state
    at hfront ⊢
  obtain ⟨config, header⟩ := state
  obtain rfl : header = _ := hfront
  rw [loadLine_key config header hkey]
  apply hkeep _ _ (Config.foldl_loadLine_keeps _ _)
  · apply hset
    intro hmem
    have hmem := List.mem_reverse.mp (mem_of_mem_trim hmem)
    exact hpiece (List.mem_reverse.mp ((List.dropWhile_sublist _).mem hmem))
  · intro line hmem
    rcases List.mem_append.mp hmem with hmem | hmem
    · exact hclean.2 line hmem
    · obtain ⟨text, -, hmem⟩ := List.mem_flatMap.mp hmem
      exact not_mem_of_mem_pieces hmem

theorem header_of_last (start : Config) (before : List Bytes) {name : Bytes} (h : 10 ∉ name) :
    ((pieces 10 ((before ++ [str "[" ++ name ++ str "]"]).flatMap (· ++ [10]))).foldl
      Config.loadLine (start, [])).2 = name := by
  have hline : 10 ∉ 91 :: (name ++ [93]) := by simp [h]
  have hname : str "[" ++ name ++ str "]" = 91 :: (name ++ [93]) := rfl
  rw [hname, pieces_flatMap, List.flatMap_append, List.flatMap_singleton,
    pieces_append_cons hline []]
  simp only [pieces, List.foldl_append, List.foldl_cons, List.foldl_nil]
  rw [loadLine_header]

variable (config start : Config)

theorem databasePath_of_text :
    10 ∉ (start.loadLines (pieces 10 config.text)).storage.databasePath := by
  have hlines : config.lines
      = (banner :: (topEntries config).map entryLine ++ [[]] ++ [str "[" ++ str "storage" ++ str "]"])
        ++ entryLine ("database_path", quoted config.storage.databasePath)
          :: ((storageEntries config.storage).tail.map entryLine
            ++ config.groups.tail.flatMap groupLines) := by
    simp [Config.lines, Config.groups, groupLines, storageEntries]
  apply loadLines_of_line (P := fun config => 10 ∉ config.storage.databasePath)
    (fun _ _ h => h.databasePath) (by decide : Word (str "database_path")) _ hlines
    (header_of_last start _ (by decide))
  intro config raw hraw
  simpa [Config.apply, applyKey, storageKeys] using fun h => hraw (mem_of_mem_textValue h)

theorem socketPath_of_text :
    10 ∉ (start.loadLines (pieces 10 config.text)).ipc.socketPath := by
  have hlines : config.lines
      = (banner :: (topEntries config).map entryLine ++ config.groups.dropLast.flatMap groupLines
          ++ [[]] ++ [str "[" ++ str "ipc" ++ str "]"])
        ++ entryLine ("socket_path", quoted config.ipc.socketPath)
          :: (ipcEntries config.ipc).tail.map entryLine := by
    simp [Config.lines, Config.groups, groupLines, ipcEntries]
  apply loadLines_of_line (P := fun config => 10 ∉ config.ipc.socketPath)
    (fun _ _ h => h.socketPath) (by decide : Word (str "socket_path")) _ hlines
    (header_of_last start _ (by decide))
  intro config raw hraw
  simpa [Config.apply, applyKey, ipcKeys] using fun h => hraw (mem_of_mem_textValue h)

theorem logFile_of_text : 10 ∉ (start.loadLines (pieces 10 config.text)).logFile := by
  have hlevel : 10 ∉ quoted (str config.logLevel.toText) :=
    not_mem_quoted (by decide) (by cases config.logLevel <;> decide)
  have hkey : Word (str "log_level") := by decide
  have hlines : config.lines
      = [banner, entryLine ("log_level", quoted (str config.logLevel.toText))]
        ++ entryLine ("log_file", quoted config.logFile) :: config.groups.flatMap groupLines := by
    simp [Config.lines, topEntries]
  have hclean : ∀ line ∈ [banner, entryLine ("log_level", quoted (str config.logLevel.toText))],
      10 ∉ line := by
    intro line hline
    rcases List.mem_pair.mp hline with rfl | rfl
    · decide
    · exact not_mem_entryLine hkey hlevel
  apply loadLines_of_line (P := fun config => 10 ∉ config.logFile) (fun _ _ h => h.logFile)
    (by decide : Word (str "log_file")) _ hlines
  · rw [pieces_flatMap_of_not_mem hclean, List.foldl_cons, List.foldl_cons, List.foldl_nil,
      loadLine_banner, loadLine_entryLine start [] hkey (bare_quoted _)]
  · intro config raw hraw
    rw [apply_top]
    simpa [applyKey, topKeys] using fun h => hraw (mem_of_mem_textValue h)

/-- Whatever was written, what is read back has the shape of what can be written. -/
theorem plain_of_text (host : ConfigHost) :
    ((Config.withDefaults host).loadLines (pieces 10 config.text)).Plain := by
  have hkeeps : (Config.withDefaults host).Keeps
      ((Config.withDefaults host).loadLines (pieces 10 config.text)) :=
    Config.foldl_loadLine_keeps (Config.withDefaults host, [])
      fun line hmem => not_mem_of_mem_pieces hmem
  have hhotkeys : HotkeyConfig.Plain {} := by
    unfold HotkeyConfig.Plain
    decide
  refine ⟨databasePath_of_text config _, logFile_of_text config _, socketPath_of_text config _,
    hkeeps.hotkeys hhotkeys, hkeeps.capture ?_, hkeeps.privacy ?_⟩
  · exact ⟨fun _ h => absurd h List.not_mem_nil, fun _ h => absurd h List.not_mem_nil⟩
  · exact ⟨fun _ h => absurd h List.not_mem_nil, fun _ h => absurd h List.not_mem_nil,
      fun _ h => absurd h List.not_mem_nil⟩

theorem loadLines_text_iff (host : ConfigHost) :
    (Config.withDefaults host).loadLines (pieces 10 config.text) = config ↔ config.Plain := by
  constructor
  · intro h
    rw [← h]
    exact plain_of_text config host
  · intro h
    rw [Config.loadLines, Config.text, pieces_flatMap_of_not_mem (not_mem_line h),
      foldl_lines h]

theorem applyEnvironment_of_unset {host : ConfigHost}
    (h : ∀ entry ∈ kOverrides, host.env entry.1 = []) : config.applyEnvironment host = config := by
  simp only [kOverrides, List.forall_mem_cons] at h
  simp [Config.applyEnvironment, kOverrides, h]

theorem finishLoad_eq_ok_iff {host : ConfigHost} (config' : Config)
    (hvalid : config.validate host = .ok ()) :
    config'.finishLoad host = .ok config ↔ config' = config := by
  constructor
  · intro h
    cases hvalidate : config'.validate host with
    | error e =>
        rw [Config.finishLoad, hvalidate] at h
        cases h
    | ok _ =>
        rw [Config.finishLoad, hvalidate] at h
        cases h
        rfl
  · rintro rfl
    rw [Config.finishLoad, hvalid]
    rfl

theorem load_of_file (host : ConfigHost) {path text : Bytes} (hpath : path ≠ [])
    (hfile : host.files path = some text) :
    Config.load host path = (((Config.withDefaults host).loadLines (pieces 10 text)).applyEnvironment
      host).finishLoad host := by
  simp only [Config.load, if_neg hpath, hfile]

theorem eq_of_save {host host' : ConfigHost} {path : Bytes}
    (h : config.save host path = (.ok (), host')) :
    path ≠ [] ∧ host' = { host with files := Function.update host.files path (some config.text) } := by
  rw [Config.save] at h
  cases hdirectory : host.ensureDirectory (parentPath path) with
  | error e =>
      rw [hdirectory] at h
      cases h
  | ok _ =>
      rw [hdirectory] at h
      by_cases hopen : path ≠ [] ∧ host.writable path
      · exact ⟨hopen.1, (Prod.mk.inj ((if_pos hopen).symm.trans h)).2.symm⟩
      · cases (if_neg hopen).symm.trans h

theorem load_of_save {host host' : ConfigHost} {config : Config} {path : Bytes}
    (hvalid : config.validate host = .ok ())
    (henv : ∀ entry ∈ kOverrides, host.env entry.1 = [])
    (hsave : config.save host path = (.ok (), host')) :
    Config.load host' path = .ok config ↔
      (Config.withDefaults host').loadLines (pieces 10 config.text) = config := by
  obtain ⟨hpath, hhost⟩ := eq_of_save config hsave
  have hfile : host'.files path = some config.text := by
    rw [hhost]
    exact Function.update_self _ _ _
  have hvalid' : config.validate host' = .ok () := by
    rw [hhost]
    exact hvalid
  have henv' : ∀ entry ∈ kOverrides, host'.env entry.1 = [] := by
    rw [hhost]
    exact henv
  rw [load_of_file host' hpath hfile, applyEnvironment_of_unset _ henv',
    finishLoad_eq_ok_iff _ _ hvalid']

/-- What was saved is what is loaded, exactly where no text of the configuration breaks its line and
no item of a list is empty or holds a comma or the end of a line. -/
theorem load_save_iff {host host' : ConfigHost} {config : Config} {path : Bytes}
    (hvalid : config.validate host = .ok ())
    (henv : ∀ entry ∈ kOverrides, host.env entry.1 = [])
    (hsave : config.save host path = (.ok (), host')) :
    Config.load host' path = .ok config ↔ config.Plain := by
  rw [load_of_save hvalid henv hsave, loadLines_text_iff]

/-- One excluded application. -/
def excluding (appId : Bytes) : Config :=
  { storage := { databasePath := str "snapshots.db" }, capture := { excludedAppIds := [appId] } }

theorem valid_excluding (appId : Bytes) : (excluding appId).validate {} = .ok () := by
  have hpath : str "snapshots.db" ≠ [] := by decide
  simp [Config.validate, excluding, hpath]

theorem unset_default : ∀ entry ∈ kOverrides, ({} : ConfigHost).env entry.1 = [] :=
  fun _ _ => rfl

theorem load_save_excluding :
    Config.load ((excluding (str "a \"b\"] #")).save {} (str "config.toml")).2 (str "config.toml")
        = .ok (excluding (str "a \"b\"] #")) ↔
      (excluding (str "a \"b\"] #")).Plain :=
  load_save_iff (valid_excluding _) unset_default rfl

/-- An application id with a comma comes back as two. -/
theorem not_load_save :
    ¬∀ (host host' : ConfigHost) (config : Config) (path : Bytes),
      config.validate host = .ok () → (∀ entry ∈ kOverrides, host.env entry.1 = []) →
        config.save host path = (.ok (), host') → Config.load host' path = .ok config := by
  intro h
  have hload := h {} _ (excluding (str "mail,chat")) (str "config.toml") (valid_excluding _)
    unset_default rfl
  rw [load_of_save (valid_excluding _) unset_default rfl, loadLines_text_iff] at hload
  have hitem := hload.capture.1 (str "mail,chat") (List.mem_singleton.mpr rfl)
  exact absurd hitem.2.1 (by decide)

end ContextSnap
