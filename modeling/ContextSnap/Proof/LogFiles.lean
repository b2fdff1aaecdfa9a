import ContextSnap.Core.Logging
import ContextSnap.Lib.Generations
import ContextSnap.Lib.Logfmt
import ContextSnap.Lib.Pieces

/-!
# What is on disk of a log

The files of a log, from the oldest to the newest, read back as the last records that were written,
each of them as it was, whatever the messages and values are. Only whole files are lost, and only
when there are as many large files as are kept.
-/

namespace ContextSnap.Logging

open Logfmt (readValue readPair readPairs readLine readQuoted Ends)

/-! ### Values -/

/-- Bytes that an unquoted value does not have. -/
theorem notMem_of_not_needsQuotes {value : Bytes} (h : needsQuotes value = false) :
    value ≠ [] ∧ 32 ∉ value ∧ 34 ∉ value ∧ 61 ∉ value ∧ 10 ∉ value := by
  obtain ⟨hempty, hbytes⟩ := Bool.or_eq_false_iff.mp h
  have hnot : ∀ c : UInt8, c ∈ value → ¬ (c = 32 ∨ c = 9 ∨ c = 34 ∨ c = 61 ∨ c = 10) := by
    intro c hc hor
    have hfalse := List.any_eq_false.mp hbytes c hc
    simp only [Bool.or_eq_true, decide_eq_true_eq] at hfalse
    exact hfalse (by tauto)
  refine ⟨by simpa using hempty, ?_, ?_, ?_, ?_⟩ <;> exact fun hc => hnot _ hc (by simp)

theorem newline_notMem_escapeByte (c : UInt8) : 10 ∉ escapeByte c := by
  unfold escapeByte
  split
  case isTrue h => rcases h with rfl | rfl <;> decide
  case isFalse h =>
    split
    case isTrue => decide
    case isFalse hne => simpa using Ne.symm hne

theorem newline_notMem_quoteIfNeeded (value : Bytes) : 10 ∉ quoteIfNeeded value := by
  unfold quoteIfNeeded
  split
  case isTrue =>
    simp only [List.mem_cons, List.mem_append, List.mem_flatMap, List.not_mem_nil, or_false, not_or]
    refine ⟨by decide, ?_, by decide⟩
    rintro ⟨c, -, hc⟩
    exact newline_notMem_escapeByte c hc
  case isFalse h =>
    exact (notMem_of_not_needsQuotes (Bool.eq_false_iff.mpr h)).2.2.2.2

theorem readQuoted_escaped (value rest : Bytes) :
    readQuoted (value.flatMap escapeByte ++ 34 :: rest) = some (value, rest) := by
  induction value with
  | nil => exact Logfmt.readQuoted_quote rest
  | cons c value ih =>
      rw [List.flatMap_cons, List.append_assoc, escapeByte]
      by_cases hmark : c = 34 ∨ c = 92
      · rw [if_pos hmark]
        have hunescape : Logfmt.unescape c = c := by rcases hmark with rfl | rfl <;> rfl
        rw [List.cons_append, List.singleton_append, Logfmt.readQuoted_escape, ih, Option.map_some,
          hunescape]
      · rw [if_neg hmark]
        by_cases hline : c = 10
        · rw [if_pos hline, hline, List.cons_append, List.singleton_append,
            Logfmt.readQuoted_escape, ih]
          rfl
        · rw [not_or] at hmark
          rw [if_neg hline, List.singleton_append, Logfmt.readQuoted_plain hmark.1 hmark.2, ih]
          rfl

/-- A value is read back, whatever is in it. -/
theorem readValue_quoteIfNeeded (value : Bytes) {rest : Bytes} (hrest : Ends rest) :
    readValue (quoteIfNeeded value ++ rest) = some (value, rest) := by
  unfold quoteIfNeeded
  split
  case isTrue =>
    rw [List.cons_append, Logfmt.readValue_quote, List.append_assoc, List.singleton_append]
    exact readQuoted_escaped value rest
  case isFalse h =>
    obtain ⟨hne, hspace, hquote, -, -⟩ := notMem_of_not_needsQuotes (Bool.eq_false_iff.mpr h)
    exact Logfmt.readValue_bare (fun hhead => hquote (List.mem_of_head? hhead)) hspace hne hrest

/-! ### Records -/

/-- Keys are words of the program's own. -/
def Field.Legal (field : Field) : Prop := 61 ∉ field.key ∧ 10 ∉ field.key

instance : DecidablePred Field.Legal := fun _ => inferInstanceAs (Decidable (_ ∧ _))

def Record.Legal (record : Record) : Prop := ∀ field ∈ record.fields, field.Legal

/-- What a record says, as a reader gets it. -/
def Record.pairs (record : Record) : List (Bytes × Bytes) :=
  (str "level", str record.level.toText) :: (str "msg", record.message)
    :: record.fields.map fun field => (field.key, field.value)

theorem readPair_text {key value rest : Bytes} (hkey : 61 ∉ key) (hrest : Ends rest) :
    readPair (str " " ++ key ++ str "=" ++ quoteIfNeeded value ++ rest)
      = some ((key, value), rest) := by
  have htext : str " " ++ key ++ str "=" ++ quoteIfNeeded value ++ rest
      = 32 :: (key ++ 61 :: (quoteIfNeeded value ++ rest)) := by
    simp [show str " " = [32] from rfl, show str "=" = [61] from rfl]
  rw [htext]
  exact Logfmt.readPair_append hkey (readValue_quoteIfNeeded value hrest)

theorem ends_fields (fields : List Field) : Ends (fields.flatMap Field.text) := by
  cases fields with
  | nil => rfl
  | cons field fields => rfl

theorem readPairs_fields {fields : List Field} (h : ∀ field ∈ fields, field.Legal) :
    readPairs fields.length (fields.flatMap Field.text)
      = some (fields.map fun field => (field.key, field.value)) := by
  induction fields with
  | nil => rfl
  | cons field fields ih =>
      rw [List.forall_mem_cons] at h
      rw [List.flatMap_cons]
      exact Logfmt.readPairs_cons (readPair_text h.1.1 (ends_fields fields)) (ih h.2)

theorem le_of_mem_decimalInt {i : Int} {c : UInt8} (h : c ∈ decimalInt i) : 45 ≤ c := by
  have hdigit : ∀ n, c ∈ decimal n → 45 ≤ c := by
    intro n hc
    have hrange := isDigit_of_mem_decimal hc
    simp only [isDigit, Bool.and_eq_true, decide_eq_true_eq] at hrange
    exact UInt8.le_trans (by decide) hrange.1
  rw [decimalInt] at h
  split at h
  case isTrue =>
    rcases List.mem_append.mp h with hsign | hc
    · rw [List.mem_singleton.mp hsign]
      decide
    · exact hdigit _ hc
  case isFalse => exact hdigit _ h

theorem le_of_mem_zeroPadded {width : Nat} {i : Int} {c : UInt8}
    (h : c ∈ zeroPadded width (decimalInt i)) : 45 ≤ c := by
  rcases List.mem_append.mp h with hzero | hc
  · rw [List.eq_of_mem_replicate hzero]
    decide
  · exact le_of_mem_decimalInt hc

/-- The time is a word of digits and marks. -/
theorem le_of_mem_iso8601 {now : Timestamp} {c : UInt8} (h : c ∈ iso8601 now) : 45 ≤ c := by
  have hmark : ∀ {mark : UInt8}, 45 ≤ mark → c ∈ [mark] → 45 ≤ c := fun hle hc =>
    List.mem_singleton.mp hc ▸ hle
  simp only [iso8601, Storage.putTime, List.mem_append, or_assoc] at h
  rcases h with h | h | h | h | h | h | h | h | h | h | h | h | h | h
  · exact le_of_mem_decimalInt h
  · exact hmark (by decide) h
  · exact le_of_mem_zeroPadded h
  · exact hmark (by decide) h
  · exact le_of_mem_zeroPadded h
  · exact hmark (by decide) h
  · exact le_of_mem_zeroPadded h
  · exact hmark (by decide) h
  · exact le_of_mem_zeroPadded h
  · exact hmark (by decide) h
  · exact le_of_mem_zeroPadded h
  · exact hmark (by decide) h
  · exact le_of_mem_zeroPadded h
  · exact hmark (by decide) h

/-- The level and the message of a record as fields in front of the others. -/
def Record.allFields (record : Record) : List Field :=
  { key := str "level", value := str record.level.toText }
    :: { key := str "msg", value := record.message } :: record.fields

theorem legal_allFields {record : Record} (h : record.Legal) :
    ∀ field ∈ record.allFields, field.Legal := by
  have hkeys : (61 : UInt8) ∉ str "level" ∧ (10 : UInt8) ∉ str "level" ∧ (61 : UInt8) ∉ str "msg"
      ∧ (10 : UInt8) ∉ str "msg" := by decide
  rw [Record.allFields, List.forall_mem_cons, List.forall_mem_cons]
  exact ⟨⟨hkeys.1, hkeys.2.1⟩, ⟨hkeys.2.2.1, hkeys.2.2.2⟩, h⟩

/-- The line of a record without its end. -/
def Record.body (record : Record) : Bytes :=
  iso8601 record.time ++ record.allFields.flatMap Field.text

theorem line_eq (record : Record) : record.line = record.body ++ [10] := by
  have hlevel : quoteIfNeeded (str record.level.toText) = str record.level.toText := by
    cases record.level <;> decide
  rw [Record.line, Record.body, Record.allFields, List.flatMap_cons, List.flatMap_cons, Field.text,
    Field.text, hlevel, show str " level=" = str " " ++ str "level" ++ str "=" from rfl,
    show str " msg=" = str " " ++ str "msg" ++ str "=" from rfl,
    show str "\n" = [10] from rfl]
  simp only [List.append_assoc]

theorem newline_notMem_body {record : Record} (h : record.Legal) : 10 ∉ record.body := by
  intro hmem
  rcases List.mem_append.mp hmem with htime | hfields
  · exact absurd (le_of_mem_iso8601 htime) (by decide)
  · obtain ⟨field, hfield, htext⟩ := List.mem_flatMap.mp hfields
    simp only [Field.text, List.mem_append, or_assoc] at htext
    rcases htext with hspace | hkey | hequals | hvalue
    · exact absurd hspace (by decide)
    · exact (legal_allFields h field hfield).2 hkey
    · exact absurd hequals (by decide)
    · exact newline_notMem_quoteIfNeeded field.value hvalue

theorem length_le_flatMap_text (fields : List Field) :
    fields.length ≤ (fields.flatMap Field.text).length := by
  induction fields with
  | nil => exact Nat.le_refl _
  | cons field fields ih =>
      rw [List.flatMap_cons, List.length_append, List.length_cons, Field.text]
      simp only [List.length_append, show (str " ").length = 1 from rfl]
      omega

/-- A record is read back, whatever its message and its values are. -/
theorem readLine_body {record : Record} (h : record.Legal) :
    readLine record.body = some (iso8601 record.time, record.pairs) := by
  have hword : (32 : UInt8) ∉ iso8601 record.time := fun hc =>
    absurd (le_of_mem_iso8601 hc) (by decide)
  obtain ⟨htake, hdrop⟩ := Logfmt.span_of_ends hword (ends_fields record.allFields)
  have hcount : record.allFields.length ≤ record.body.length := by
    rw [Record.body, List.length_append]
    exact le_trans (length_le_flatMap_text _) (Nat.le_add_left _ _)
  have hpairs := Logfmt.readPairs_mono hcount (readPairs_fields (legal_allFields h))
  rw [readLine, show record.body.dropWhile (· ≠ 32) = record.allFields.flatMap Field.text from hdrop,
    hpairs, Option.map_some, show record.body.takeWhile (· ≠ 32) = iso8601 record.time from htake]
  rfl

/-- A text of whole records is cut into them again. -/
theorem map_readLine_pieces {records : List Record} (h : ∀ record ∈ records, record.Legal) :
    (pieces 10 (records.flatMap Record.line)).map readLine
      = records.map fun record => some (iso8601 record.time, record.pairs) := by
  have hlines : records.flatMap Record.line
      = (records.map Record.body).flatMap (· ++ [10]) := by
    rw [List.flatMap_map, show Record.line = fun record => record.body ++ [10] from funext line_eq]
  have hbodies : ∀ body ∈ records.map Record.body, (10 : UInt8) ∉ body := by
    intro body hbody
    obtain ⟨record, hrecord, rfl⟩ := List.mem_map.mp hbody
    exact newline_notMem_body (h record hrecord)
  rw [hlines, pieces_flatMap_of_not_mem hbodies, List.map_map]
  apply List.map_congr_left
  intro record hrecord
  rw [Function.comp_apply, readLine_body (h record hrecord)]

/-! ### Renamed files -/

section Rename

variable {files : Files} {source target other : Bytes}

theorem rename_target : files.rename source target target = (files source).or (files target) := by
  unfold Files.rename
  cases files source with
  | none => rfl
  | some content => exact Function.update_self _ _ _

theorem rename_source (h : source ≠ target) : files.rename source target source = none := by
  unfold Files.rename
  cases hsource : files source with
  | none => exact hsource
  | some content =>
      dsimp only
      rw [Function.update_of_ne h, Function.update_self]

theorem rename_other (hsource : other ≠ source) (htarget : other ≠ target) :
    files.rename source target other = files other := by
  unfold Files.rename
  cases files source with
  | none => rfl
  | some content =>
      dsimp only
      rw [Function.update_of_ne htarget, Function.update_of_ne hsource]

end Rename

/-- The name of the file that was put away so many times. -/
def fileName (path : Bytes) : ℕ → Bytes
  | 0 => path
  | number + 1 => generation path (number + 1)

theorem fileName_inj {path : Bytes} {i j : ℕ} : fileName path i = fileName path j ↔ i = j := by
  have hlonger : ∀ number, generation path number ≠ path := by
    intro number h
    have hlength := congrArg List.length h
    rw [generation, List.length_append, List.length_append] at hlength
    exact absurd hlength (by rw [show (str ".").length = 1 from rfl]; omega)
  constructor
  · intro h
    cases i with
    | zero =>
        cases j with
        | zero => rfl
        | succ j => exact absurd h.symm (hlonger _)
    | succ i =>
        cases j with
        | zero => exact absurd h (hlonger _)
        | succ j =>
            have hdecimal := congrArg digitsValue (List.append_cancel_left h)
            rwa [digitsValue_decimal, digitsValue_decimal] at hdecimal
  · exact congrArg _

/-- Every one of the first files takes the next name. -/
def shift (path : Bytes) (count : ℕ) (files : Files) : Files :=
  (List.range count).reverse.foldl (fun files i =>
    files.rename (fileName path i) (fileName path (i + 1))) files

theorem shift_succ (path : Bytes) (count : ℕ) (files : Files) :
    shift path (count + 1) files
      = shift path count (files.rename (fileName path count) (fileName path (count + 1))) := by
  rw [shift, List.range_succ, List.reverse_append, List.reverse_singleton, List.singleton_append,
    List.foldl_cons, ← shift]

theorem shift_eq (path : Bytes) (files : Files) :
    (shiftGenerations files path).rename path (generation path 1)
      = shift path kRotatedGenerations files := rfl

/-- Without a gap in the numbers nothing but the last file is lost. -/
theorem shift_spec {path : Bytes} {count : ℕ} {files : Files}
    (hgap : ∀ i < count, files (fileName path i) = none → files (fileName path (i + 1)) = none) :
    (∀ i < count, shift path count files (fileName path (i + 1)) = files (fileName path i))
      ∧ (0 < count → shift path count files path = none)
      ∧ ∀ name, (∀ i ≤ count, name ≠ fileName path i) → shift path count files name = files name := by
  induction count generalizing files with
  | zero => exact ⟨fun i hi => absurd hi (Nat.not_lt_zero i), fun h => absurd h (Nat.lt_irrefl 0),
      fun _ _ => rfl⟩
  | succ count ih =>
      have hne : ∀ {i j}, i ≠ j → fileName path i ≠ fileName path j := fun h =>
        mt fileName_inj.mp h
      have hlast : files.rename (fileName path count) (fileName path (count + 1))
          (fileName path count) = none := rename_source (hne (by omega))
      have hother : ∀ i < count, files.rename (fileName path count) (fileName path (count + 1))
          (fileName path i) = files (fileName path i) := fun i hi =>
        rename_other (hne (by omega)) (hne (by omega))
      have hgap' : ∀ i < count,
          files.rename (fileName path count) (fileName path (count + 1)) (fileName path i) = none →
          files.rename (fileName path count) (fileName path (count + 1)) (fileName path (i + 1))
            = none := by
        intro i hi hnone
        rw [hother i hi] at hnone
        by_cases hlt : i + 1 < count
        · rw [hother _ hlt]
          exact hgap i (by omega) hnone
        · rw [show i + 1 = count by omega]
          exact hlast
      obtain ⟨hshifted, hfirst, hframe⟩ := ih hgap'
      rw [shift_succ]
      refine ⟨fun i hi => ?_, fun _ => ?_, fun name hname => ?_⟩
      · by_cases hlt : i < count
        · rw [hshifted i hlt, hother i hlt]
        · obtain rfl : i = count := by omega
          rw [hframe _ fun j hj => hne (by omega), rename_target]
          cases hcontent : files (fileName path i) with
          | none => rw [hgap i (by omega) hcontent, Option.none_or]
          | some content => rw [Option.some_or]
      · by_cases hpos : 0 < count
        · exact hfirst hpos
        · obtain rfl : count = 0 := by omega
          exact hlast
      · rw [hframe name fun i hi => hname i (by omega)]
        exact rename_other (hname _ (by omega)) (hname _ (by omega))

/-! ### The log on disk -/

def text (records : List Record) : Bytes := records.flatMap Record.line

/-- What is in a file that is put away before the next record. -/
def Large (records : List Record) : Prop := kMaxLogBytes ≤ (text records).length

instance : DecidablePred Large := fun _ => inferInstanceAs (Decidable (_ ≤ _))

/-- The files of a log hold its parts. -/
def Holds (path : Bytes) (log : Generations Record) (files : Files) : Prop :=
  ∀ i ≤ kRotatedGenerations, files (fileName path i) = ((log.newest :: log.older)[i]?).map text

/-- A file that is not one of the log's. -/
def Apart (path name : Bytes) : Prop := ∀ i ≤ kRotatedGenerations, name ≠ fileName path i

/-- A logger whose file is the newest of a log, among other files. -/
structure Logs (path : Bytes) (others : Files) (log : Generations Record) (logger : Logger) :
    Prop where
  sink : logger.sink = true
  sinkPath : logger.sinkPath = path
  holds : Holds path log logger.files
  apart : ∀ name, Apart path name → logger.files name = others name

section Steps

variable {path : Bytes} {others files : Files} {log : Generations Record} {logger : Logger}

theorem Holds.gapless (h : Holds path log files) :
    ∀ i < kRotatedGenerations, files (fileName path i) = none →
      files (fileName path (i + 1)) = none := by
  intro i hi hnone
  rw [h i (by omega), Option.map_eq_none_iff, List.getElem?_eq_none_iff] at hnone
  rw [h (i + 1) (by omega), List.getElem?_eq_none (by omega), Option.map_none]

theorem Holds.turn (h : Holds path log files) :
    Holds path (log.turn kRotatedGenerations)
      ((shift path kRotatedGenerations files).touch path) := by
  obtain ⟨hshifted, hfirst, -⟩ := shift_spec h.gapless
  intro i hi
  cases i with
  | zero =>
      rw [fileName, Files.touch, Function.update_self, hfirst (by decide)]
      rfl
  | succ i =>
      have hne : fileName path (i + 1) ≠ path := mt (fileName_inj (j := 0)).mp (by omega)
      rw [Files.touch, Function.update_of_ne hne, hshifted i (by omega), h i (by omega),
        Generations.turn, List.getElem?_cons_succ, List.getElem?_take_of_lt (by omega)]

theorem Holds.append (h : Holds path log files) (record : Record) :
    Holds path { log with newest := log.newest ++ [record] }
      (files.append path record.line) := by
  intro i hi
  cases i with
  | zero =>
      have hnewest : files path = some (text log.newest) := h 0 (Nat.zero_le _)
      rw [fileName, Files.append, Function.update_self, hnewest]
      simp [text]
  | succ i =>
      have hne : fileName path (i + 1) ≠ path := mt (fileName_inj (j := 0)).mp (by omega)
      rw [Files.append, Function.update_of_ne hne, h (i + 1) hi]
      rfl

/-- Opening the file of a log again changes nothing. -/
theorem Holds.touch (h : Holds path log files) : files.touch path = files := by
  have hnewest : files path = some (text log.newest) := h 0 (Nat.zero_le _)
  rw [Files.touch, hnewest, Option.getD_some, ← hnewest, Function.update_eq_self]

theorem Logs.rotateIfNeeded {writable : Bytes → Bool} (hpath : path ≠ [])
    (hwritable : writable path = true) (h : Logs path others log logger) :
    Logs path others (if Large log.newest then log.turn kRotatedGenerations else log)
      (logger.rotateIfNeeded writable) := by
  have hnewest : logger.files path = some (text log.newest) := h.holds 0 (Nat.zero_le _)
  have hopen : (!logger.sink || logger.sinkPath.isEmpty) = false := by
    rw [h.sink, h.sinkPath]
    simpa using hpath
  unfold Logger.rotateIfNeeded
  rw [if_neg (Bool.eq_false_iff.mp hopen), h.sinkPath, hnewest]
  dsimp only
  by_cases hlarge : Large log.newest
  · rw [if_pos hlarge, if_neg (Nat.not_lt.mpr hlarge), if_pos hwritable, shift_eq]
    refine ⟨h.sink, rfl, h.holds.turn, fun name hname => ?_⟩
    have hne : name ≠ path := hname 0 (Nat.zero_le _)
    dsimp only
    rw [Files.touch, Function.update_of_ne hne, (shift_spec h.holds.gapless).2.2 name hname,
      h.apart name hname]
  · rw [if_neg hlarge, if_pos (Nat.lt_of_not_le hlarge)]
    exact h

theorem Logs.emit (h : Logs path others log logger) (record : Record) :
    Logs path others { log with newest := log.newest ++ [record] } (logger.emit record.line) := by
  unfold Logger.emit
  rw [if_pos h.sink, h.sinkPath]
  refine ⟨h.sink, rfl, h.holds.append record, fun name hname => ?_⟩
  have hne : name ≠ path := hname 0 (Nat.zero_le _)
  dsimp only
  rw [Files.append, Function.update_of_ne hne, h.apart name hname]

/-- A call that leaves the log where it is. -/
def Call.StaysAt (path : Bytes) : Call → Prop
  | .setLogFile other => other = path
  | _ => True

/-- **The logger refines its log.** A call adds the record that it writes, if it writes one. -/
theorem Logs.call {writable : Bytes → Bool} (hpath : path ≠ []) (hwritable : writable path = true)
    (h : Logs path others log logger) (call : Call) (hstays : call.StaysAt path) :
    Logs path others ((logger.recordOf call).toList.foldl (·.add kRotatedGenerations Large ·) log)
      (logger.call writable call) := by
  cases call with
  | setLevel level => exact ⟨h.sink, h.sinkPath, h.holds, h.apart⟩
  | setLogFile other =>
      obtain rfl : other = path := hstays
      rw [Logger.call, Logger.setLogFile, if_pos hwritable, h.holds.touch]
      exact ⟨rfl, rfl, h.holds, h.apart⟩
  | addGlobalField field => exact ⟨h.sink, h.sinkPath, h.holds, h.apart⟩
  | write level message fields now =>
      rw [Logger.call, Logger.write, Logger.recordOf]
      cases logger.record level message fields now with
      | none => exact h
      | some record => exact (h.rotateIfNeeded hpath hwritable).emit record

theorem Logs.run {writable : Bytes → Bool} (hpath : path ≠ []) (hwritable : writable path = true)
    (h : Logs path others log logger) {calls : List Call}
    (hstay : ∀ call ∈ calls, call.StaysAt path) :
    Logs path others
      ((logger.written writable calls).foldl (·.add kRotatedGenerations Large ·) log)
      (logger.run writable calls) := by
  induction calls generalizing log logger with
  | nil => exact h
  | cons call calls ih =>
      rw [List.forall_mem_cons] at hstay
      rw [Logger.written, List.foldl_append, Logger.run, List.foldl_cons]
      exact ih (h.call hpath hwritable call hstay.1) hstay.2

/-- An opened file that was not there is an empty log. -/
theorem logs_setLogFile {writable : Bytes → Bool} (hwritable : writable path = true)
    (hfresh : ∀ i ≤ kRotatedGenerations, logger.files (fileName path i) = none) :
    Logs path logger.files {} (logger.setLogFile writable path).1 := by
  have hnone : logger.files path = none := hfresh 0 (Nat.zero_le _)
  rw [Logger.setLogFile, if_pos hwritable]
  refine ⟨rfl, rfl, fun i hi => ?_, fun name hname => Function.update_of_ne (hname 0 (Nat.zero_le _)) _ _⟩
  cases i with
  | zero =>
      dsimp only
      rw [fileName, Files.touch, Function.update_self, hnone]
      rfl
  | succ i =>
      have hne : fileName path (i + 1) ≠ path := mt (fileName_inj (j := 0)).mp (by omega)
      dsimp only
      rw [Files.touch, Function.update_of_ne hne, hfresh (i + 1) hi]
      rfl

end Steps

/-! ### What is left of a run -/

/-- What the files of a log hold, from the oldest on. -/
def logText (path : Bytes) (files : Files) : Bytes :=
  (List.range (kRotatedGenerations + 1)).reverse.flatMap fun i =>
    (files (fileName path i)).getD []

theorem flatMap_range_parts {count : ℕ} {parts : List (List Record)} (h : parts.length ≤ count) :
    (List.range count).reverse.flatMap (fun i => ((parts[i]?).map text).getD [])
      = text parts.reverse.flatten := by
  induction count generalizing parts with
  | zero =>
      obtain rfl := List.length_eq_zero_iff.mp (Nat.le_zero.mp h)
      rfl
  | succ count ih =>
      rw [List.range_succ_eq_map, List.reverse_cons, List.flatMap_append, List.flatMap_singleton,
        ← List.map_reverse, List.flatMap_map]
      cases parts with
      | nil => exact (congrArg (· ++ []) (@ih [] (Nat.zero_le _))).trans rfl
      | cons part parts =>
          have hparts := @ih parts (Nat.le_of_succ_le_succ h)
          simp only [List.getElem?_cons_succ, List.getElem?_cons_zero]
          rw [hparts, List.reverse_cons, List.flatten_append, List.flatten_singleton]
          exact List.flatMap_append.symm

theorem logText_eq {path : Bytes} {files : Files} {log : Generations Record}
    (h : Holds path log files) (hbounded : log.older.length ≤ kRotatedGenerations) :
    logText path files = text log.entries := by
  have hparts : (log.newest :: log.older).length ≤ kRotatedGenerations + 1 :=
    Nat.succ_le_succ hbounded
  have hentries : log.entries = (log.newest :: log.older).reverse.flatten := by
    rw [Generations.entries, List.reverse_cons, List.flatten_append, List.flatten_singleton]
  rw [hentries, ← flatMap_range_parts hparts, logText]
  apply List.flatMap_congr
  intro i hi
  rw [h i (by simpa using Nat.lt_succ_iff.mp (List.mem_range.mp (List.mem_reverse.mp hi)))]

/-- Calls whose fields have words of the program as their keys. -/
def Call.Legal : Call → Prop
  | .addGlobalField field => field.Legal
  | .write _ _ fields _ => ∀ field ∈ fields, field.Legal
  | _ => True

theorem globals_rotateIfNeeded (writable : Bytes → Bool) (logger : Logger) :
    (logger.rotateIfNeeded writable).globals = logger.globals := by
  unfold Logger.rotateIfNeeded
  repeat' split
  all_goals rfl

theorem globals_write (writable : Bytes → Bool) (logger : Logger) (level : LogLevel)
    (message : Bytes) (fields : List Field) (now : Timestamp) :
    (logger.write writable level message fields now).globals = logger.globals := by
  unfold Logger.write
  split
  · rfl
  · rw [← globals_rotateIfNeeded writable logger, Logger.emit]
    split <;> rfl

theorem legal_call {writable : Bytes → Bool} {logger : Logger}
    (hglobals : ∀ field ∈ logger.globals, field.Legal) {call : Call} (hcall : call.Legal) :
    (∀ field ∈ (logger.call writable call).globals, field.Legal)
      ∧ ∀ record ∈ logger.recordOf call, record.Legal := by
  cases call with
  | setLevel level => exact ⟨hglobals, fun _ h => absurd h (by simp [Logger.recordOf])⟩
  | setLogFile path =>
      refine ⟨?_, fun _ h => absurd h (by simp [Logger.recordOf])⟩
      rw [Logger.call, Logger.setLogFile]
      split <;> exact hglobals
  | addGlobalField field =>
      refine ⟨fun other hother => ?_, fun _ h => absurd h (by simp [Logger.recordOf])⟩
      rcases List.mem_append.mp hother with hother | hother
      · exact hglobals other hother
      · exact List.mem_singleton.mp hother ▸ hcall
  | write level message fields now =>
      refine ⟨?_, fun record hrecord field hfield => ?_⟩
      · rw [Logger.call, globals_write]
        exact hglobals
      · rw [Logger.recordOf, Logger.record, Option.mem_def] at hrecord
        split at hrecord
        case isTrue => cases hrecord
        case isFalse =>
          cases hrecord
          rcases List.mem_append.mp hfield with hfield | hfield
          · exact hglobals field hfield
          · exact hcall field hfield

theorem legal_of_mem_written {writable : Bytes → Bool} {logger : Logger} {calls : List Call}
    (hglobals : ∀ field ∈ logger.globals, field.Legal) (hcalls : ∀ call ∈ calls, call.Legal) :
    ∀ record ∈ logger.written writable calls, record.Legal := by
  induction calls generalizing logger with
  | nil => exact fun _ h => absurd h List.not_mem_nil
  | cons call calls ih =>
      rw [List.forall_mem_cons] at hcalls
      obtain ⟨hnext, hrecord⟩ := @legal_call writable logger hglobals call hcalls.1
      intro record hmem
      rcases List.mem_append.mp hmem with hmem | hmem
      · exact hrecord record (Option.mem_toList.mp hmem)
      · exact ih hnext hcalls.2 record hmem

theorem not_large_nil : ¬ Large [] := by decide

/-- **The log reads back.** After any run on a fresh log, the files from the oldest to the newest are
lines that read as the last records of the run, each with its own message and values. -/
theorem readLog_run {writable : Bytes → Bool} {path : Bytes} {logger : Logger} {calls : List Call}
    (hpath : path ≠ []) (hwritable : writable path = true)
    (hfresh : ∀ i ≤ kRotatedGenerations, logger.files (fileName path i) = none)
    (hglobals : ∀ field ∈ logger.globals, field.Legal)
    (hcalls : ∀ call ∈ calls, call.StaysAt path ∧ call.Legal) :
    let started := (logger.setLogFile writable path).1
    ∃ lost kept, started.written writable calls = lost ++ kept
      ∧ (pieces 10 (logText path (started.run writable calls).files)).map readLine
        = kept.map fun record => some (iso8601 record.time, record.pairs) := by
  intro started
  have hstarted : started.globals = logger.globals := by
    simp only [started, Logger.setLogFile, if_pos hwritable]
  have hlogs := (logs_setLogFile hwritable hfresh).run hpath hwritable
    fun call hcall => (hcalls call hcall).1
  have hkeeps := @Generations.keeps_foldl _ kRotatedGenerations Large _ not_large_nil
    (started.written writable calls)
  obtain ⟨lost, hwritten⟩ := hkeeps.suffix
  refine ⟨lost, _, hwritten.symm, ?_⟩
  rw [logText_eq hlogs.holds hkeeps.bounded]
  apply map_readLine_pieces
  intro record hrecord
  refine @legal_of_mem_written writable started calls ?_ ?_ record (hkeeps.suffix.subset hrecord)
  · rw [hstarted]
    exact hglobals
  · exact fun call hcall => (hcalls call hcall).2

/-- A message that tries to look like two records. -/
def forgedCalls : List Call :=
  [.addGlobalField { key := str "component", value := str "daemon" },
    .write .warn (str "bad frame\n level=error")
      [{ key := str "reason", value := str "a \"b\" = \\" }] 0]

theorem readLog_run_forgedCalls :
    let started := (({} : Logger).setLogFile (fun _ => true) (str "daemon.log")).1
    ∃ lost kept, started.written (fun _ => true) forgedCalls = lost ++ kept
      ∧ (pieces 10 (logText (str "daemon.log") (started.run (fun _ => true) forgedCalls).files)).map
          readLine
        = kept.map fun record => some (iso8601 record.time, record.pairs) :=
  readLog_run (by decide) rfl (fun _ _ => rfl) (fun _ h => absurd h List.not_mem_nil) (by
    simp only [forgedCalls, List.forall_mem_cons]
    refine ⟨⟨trivial, by decide, by decide⟩, ⟨trivial, ?_⟩, fun _ h => absurd h List.not_mem_nil⟩
    rw [Call.Legal, List.forall_mem_singleton]
    exact ⟨by decide, by decide⟩)

/-- **Retention.** After any run on a fresh log, a file that was put away has at least five
megabytes, no file exceeds them by more than the longest record, nothing is lost before there are as
many files as are kept, and no other file is touched. -/
theorem logFiles_run {writable : Bytes → Bool} {path : Bytes} {logger : Logger} {calls : List Call}
    (hpath : path ≠ []) (hwritable : writable path = true)
    (hfresh : ∀ i ≤ kRotatedGenerations, logger.files (fileName path i) = none)
    (hcalls : ∀ call ∈ calls, call.StaysAt path) {longest : ℕ}
    (hlongest : ∀ record ∈ (logger.setLogFile writable path).1.written writable calls,
      record.line.length ≤ longest) :
    let started := (logger.setLogFile writable path).1
    let files := (started.run writable calls).files
    (∀ i ≤ kRotatedGenerations, ∀ content, files (fileName path i) = some content →
        content.length < kMaxLogBytes + longest ∧ (0 < i → kMaxLogBytes ≤ content.length))
      ∧ (files (fileName path kRotatedGenerations) = none →
        logText path files = text (started.written writable calls))
      ∧ ∀ name, Apart path name → files name = logger.files name := by
  intro started files
  have hlogs := (logs_setLogFile hwritable hfresh).run hpath hwritable hcalls
  have hholds : Holds path _ files := hlogs.holds
  have hkeeps := @Generations.keeps_foldl _ kRotatedGenerations Large _ not_large_nil
    (started.written writable calls)
  refine ⟨fun i hi content hcontent => ⟨?_, fun hpos => ?_⟩, fun hnone => ?_, hlogs.apart⟩
  · rw [hholds i hi] at hcontent
    obtain ⟨part, hpart, rfl⟩ := Option.map_eq_some_iff.mp hcontent
    have hmem := List.mem_of_getElem? hpart
    rcases List.eq_nil_or_concat part with rfl | ⟨front, last, rfl⟩
    · exact Nat.add_pos_left (by decide) longest
    · rw [List.concat_eq_append] at hmem ⊢
      have hroom : ¬ Large front := by
        rcases List.mem_cons.mp hmem with hnewest | holder
        · exact hkeeps.fitting.1 front last hnewest.symm
        · exact hkeeps.fitting.2 _ holder front last rfl
      have hlast := hlongest last (hkeeps.mem_written hmem (by simp))
      rw [Large, Nat.not_le] at hroom
      have htext : text (front ++ [last]) = text front ++ last.line := by simp [text]
      rw [htext, List.length_append]
      omega
  · rw [hholds i hi] at hcontent
    obtain ⟨part, hpart, rfl⟩ := Option.map_eq_some_iff.mp hcontent
    obtain ⟨i, rfl⟩ : ∃ before, i = before + 1 := ⟨i - 1, by omega⟩
    rw [List.getElem?_cons_succ] at hpart
    exact hkeeps.filled part (List.mem_of_getElem? hpart)
  · rw [hholds _ (Nat.le_refl _), Option.map_eq_none_iff, List.getElem?_eq_none_iff] at hnone
    rw [logText_eq hholds hkeeps.bounded, hkeeps.complete (Nat.lt_of_succ_le hnone)]

theorem logFiles_run_forgedCalls :
    let started := (({} : Logger).setLogFile (fun _ => true) (str "daemon.log")).1
    let files := (started.run (fun _ => true) forgedCalls).files
    (∀ i ≤ kRotatedGenerations, ∀ content, files (fileName (str "daemon.log") i) = some content →
        content.length < kMaxLogBytes + 200 ∧ (0 < i → kMaxLogBytes ≤ content.length))
      ∧ (files (fileName (str "daemon.log") kRotatedGenerations) = none →
        logText (str "daemon.log") files = text (started.written (fun _ => true) forgedCalls))
      ∧ ∀ name, Apart (str "daemon.log") name → files name = none :=
  logFiles_run (by decide) rfl (fun _ _ => rfl)
    (by
      simp only [forgedCalls, List.forall_mem_cons]
      exact ⟨trivial, trivial, fun _ h => absurd h List.not_mem_nil⟩)
    (by decide +kernel)

end ContextSnap.Logging
