import ContextSnap.Core.Ulid
import ContextSnap.Lib.Rfc3339
import ContextSnap.Proof.Timestamp
import ContextSnap.Storage.Serialization

/-!
# Imported times

`parse_timestamp` reads a date-time of RFC 3339 up to three digits of its fraction, as a number of
milliseconds whatever their count, and nothing behind them. So an offset is lost, a short fraction
is taken too small, and a time outside of the `int64` nanoseconds wraps. A small `t` is not read at
all, and an import leaves the epoch in the place of the time.
-/

namespace ContextSnap.Storage

open Calendar Json Rfc3339

def Denotes (time : DateTimeText) (timestamp : Timestamp) : Prop :=
  timestamp.toInt = time.millis * 1000000

/-- The time under a key of the metadata of a document. -/
def documentTime (document : Value) (key : String) : Option Value :=
  (document.find (str "metadata")).bind (·.find (str key))

/-- Every import of a document with the text under a key has the instant in its field. -/
def Imported (time : DateTimeText) (key : String) (field : SnapshotMetadata → Timestamp) : Prop :=
  ∀ fresh document snapshot, snapshotFromJson fresh document = .ok snapshot →
    documentTime document key = some (.string time.text) → Denotes time (field snapshot.metadata)

/-- The text is refused or read as its instant, and imported as it. -/
structure ReadAsDenoted (time : DateTimeText) : Prop where
  parsed : ∀ timestamp, parseTimestamp time.text = .ok timestamp → Denotes time timestamp
  created : Imported time "created_at" SnapshotMetadata.createdAt
  updated : Imported time "updated_at" SnapshotMetadata.updatedAt

/-- No local offset, no fraction of one or two digits but zeros, and a time that fits. -/
structure PlainDateTime (time : DateTimeText) : Prop where
  offset : time.offset.seconds = 0
  fraction : 3 ≤ time.fraction.length ∨ ∀ c ∈ time.fraction, c = 48
  fits : FitsInt64 (time.millis * 1000000)

/-! ### What is read of a text -/

theorem isDigit_of_mem_fraction (time : DateTimeText) :
    ∀ c ∈ time.fraction, isDigit c = true :=
  List.all_eq_true.mp time.fraction_digits

theorem not_isDigit_offset (offset : Offset) :
    ∃ c rest, offset.text = c :: rest ∧ isDigit c = false ∧ c ≠ 46 ∧ ∀ c ∈ offset.text, c ≠ 0 := by
  cases offset with
  | zulu small =>
      cases small <;> exact ⟨_, _, rfl, rfl, by decide, by simp [Offset.text]⟩
  | numeric west hour minute =>
      have hfield : ∀ n : Nat, n < 60 → ∀ c ∈ zeroPadded 2 (decimal n), c ≠ 0 := fun n hn =>
        field_ne_zero (isField_zeroPadded (by decide) (by omega : n < 10 ^ 2))
      have hrest : ∀ c ∈ zeroPadded 2 (decimal hour) ++ 58 :: zeroPadded 2 (decimal minute),
          c ≠ 0 := by
        intro c hc
        rcases List.mem_append.mp hc with hc | hc
        · exact hfield hour (by omega) c hc
        · rcases List.mem_cons.mp hc with rfl | hc
          · decide
          · exact hfield minute (by omega) c hc
      cases west
      · exact ⟨43, _, rfl, rfl, by decide, List.forall_mem_cons.mpr ⟨by decide, hrest⟩⟩
      · exact ⟨45, _, rfl, rfl, by decide, List.forall_mem_cons.mpr ⟨by decide, hrest⟩⟩

/-- A run of digits that something else ends, read up to a width. -/
theorem scanInt_digits (width : Nat) {digits : Bytes} (hwidth : 0 < width) (hnonempty : digits ≠ [])
    (hdigits : ∀ c ∈ digits, isDigit c = true) {c : UInt8} (hc : isDigit c = false) (rest : Bytes) :
    ∃ after, scanInt width (digits ++ c :: rest)
      = some (((digitsValue (digits.take width) : Nat) : Int), after) := by
  obtain ⟨d, tail, rfl⟩ := List.exists_cons_of_ne_nil hnonempty
  have hd := hdigits d (List.mem_cons_self ..)
  have hspace : ((d :: tail) ++ c :: rest).dropWhile isSpace = (d :: tail) ++ c :: rest := by
    simp [not_isSpace_of_isDigit hd]
  have hsign : signPrefix ((d :: tail) ++ c :: rest) = [] := by
    simp only [isDigit, Bool.and_eq_true, decide_eq_true_eq] at hd
    have hne : ¬ (d = 45 ∨ d = 43) := by grind
    simp [signPrefix, hne]
  have hrun : (((d :: tail) ++ c :: rest).take width).takeWhile isDigit
      = (d :: tail).take width := by
    rw [List.take_append, List.takeWhile_append_of_pos fun e he =>
      hdigits e (List.mem_of_mem_take he)]
    cases hmore : width - (d :: tail).length with
    | zero => simp
    | succ more => simp [hc]
  have htaken : (d :: tail).take width ≠ [] := by
    obtain ⟨width, rfl⟩ : ∃ n, width = n + 1 := ⟨width - 1, by omega⟩
    simp
  have hminus : ¬ ([] : Bytes) = str "-" := by decide
  simp only [scanInt, hspace, hsign, List.length_nil, List.drop_zero, Nat.sub_zero, hrun,
    if_neg htaken, hminus, decide_false, signed, Bool.false_eq_true, if_false]
  exact ⟨_, rfl⟩

theorem sscanf_fraction (time : DateTimeText) :
    (sscanf [.literal 46, .int 3] (cString (time.fractionText ++ time.offset.text))).getD 0 0
      = (digitsValue (time.fraction.take 3) : Nat) := by
  obtain ⟨c, rest, hoffset, hc, hpoint, hnul⟩ := not_isDigit_offset time.offset
  have hdigits := isDigit_of_mem_fraction time
  have hshown : ∀ front : Bytes, (∀ d ∈ front, d ≠ 0) →
      cString (front ++ time.offset.text) = front ++ time.offset.text := by
    intro front hfront
    apply List.takeWhile_eq_self_iff.mpr
    intro d hd
    rcases List.mem_append.mp hd with hd | hd
    · exact decide_eq_true (hfront d hd)
    · exact decide_eq_true (hnul d hd)
  by_cases hnone : time.fraction = []
  · rw [DateTimeText.fractionText, if_pos hnone, hshown [] (by simp), hoffset, List.nil_append,
      hnone]
    simp only [sscanf, if_neg hpoint]
    rfl
  · have hfront : ∀ d ∈ 46 :: time.fraction, d ≠ 0 := List.forall_mem_cons.mpr
      ⟨by decide, fun d hd => isDigit_ne_zero (hdigits d hd)⟩
    obtain ⟨after, hscan⟩ := scanInt_digits 3 (by decide) hnone hdigits hc rest
    rw [DateTimeText.fractionText, if_neg hnone, hshown _ hfront, hoffset]
    simp only [List.cons_append, sscanf, ↓reduceIte, hscan, List.getD_cons_zero]

theorem isField_fields (time : DateTimeText) :
    IsField 4 time.year (zeroPadded 4 (decimal time.year))
      ∧ IsField 2 time.month (zeroPadded 2 (decimal time.month))
      ∧ IsField 2 time.day (zeroPadded 2 (decimal time.day))
      ∧ IsField 2 time.hour (zeroPadded 2 (decimal time.hour))
      ∧ IsField 2 time.minute (zeroPadded 2 (decimal time.minute))
      ∧ IsField 2 time.second (zeroPadded 2 (decimal time.second)) := by
  have hyear := time.year_lt
  have hmonth := time.month_bounds
  have hday := time.day_bounds
  have hdays : daysInMonth time.year time.month ≤ 31 := by
    unfold daysInMonth
    split
    · split <;> omega
    · split <;> omega
  have hhour := time.hour_lt
  have hminute := time.minute_lt
  have hsecond := time.second_le
  refine ⟨?_, ?_, ?_, ?_, ?_, ?_⟩ <;> exact isField_zeroPadded (by decide) (by omega)

theorem parseTimestamp_text {time : DateTimeText} (h : time.smallT = false) :
    parseTimestamp time.text = .ok (Int64.ofInt (timegm time.clock) * 1000000000
      + Int64.ofInt (digitsValue (time.fraction.take 3) : Nat) * 1000000) := by
  obtain ⟨hyear, hmonth, hday, hhour, hminute, hsecond⟩ := isField_fields time
  have htext : time.text = clockText (zeroPadded 4 (decimal time.year))
      (zeroPadded 2 (decimal time.month)) (zeroPadded 2 (decimal time.day))
      (zeroPadded 2 (decimal time.hour)) (zeroPadded 2 (decimal time.minute))
      (zeroPadded 2 (decimal time.second)) ++ (time.fractionText ++ time.offset.text) := by
    rw [DateTimeText.text, h]
    simp only [clockText, List.append_assoc, List.cons_append, Bool.false_eq_true, if_false]
  rw [htext, parseTimestamp_clockText hyear hmonth hday hhour hminute hsecond, sscanf_fraction]
  rfl

theorem parseTimestamp_smallT {time : DateTimeText} (h : time.smallT = true) :
    ∃ e, parseTimestamp time.text = .error e := by
  obtain ⟨hyear, hmonth, hday, hhour, hminute, hsecond⟩ := isField_fields time
  have hlength : ¬ time.text.length < 19 := by
    simp only [DateTimeText.text, List.length_append, List.length_cons, hyear.1, hmonth.1, hday.1,
      hhour.1, hminute.1, hsecond.1]
    omega
  have htext : time.text = (zeroPadded 4 (decimal time.year) ++ 45 :: (zeroPadded 2
      (decimal time.month) ++ 45 :: (zeroPadded 2 (decimal time.day) ++ [116])))
      ++ (zeroPadded 2 (decimal time.hour) ++ 58 :: (zeroPadded 2 (decimal time.minute)
      ++ 58 :: (zeroPadded 2 (decimal time.second)
      ++ (time.fractionText ++ time.offset.text)))) := by
    rw [DateTimeText.text, h]
    simp only [List.append_assoc, List.cons_append, List.nil_append, if_true]
  have hnul : ∀ c ∈ zeroPadded 4 (decimal time.year) ++ 45 :: (zeroPadded 2
      (decimal time.month) ++ 45 :: (zeroPadded 2 (decimal time.day) ++ [116])), c ≠ 0 := by
    intro c hc
    simp only [List.mem_append, List.mem_cons, List.not_mem_nil, or_false] at hc
    rcases hc with hc | rfl | hc | rfl | hc | rfl
    · exact field_ne_zero hyear c hc
    · decide
    · exact field_ne_zero hmonth c hc
    · decide
    · exact field_ne_zero hday c hc
    · decide
  have hfields : ∀ rest, sscanf timestampFormat ((zeroPadded 4 (decimal time.year) ++ 45
      :: (zeroPadded 2 (decimal time.month) ++ 45 :: (zeroPadded 2 (decimal time.day) ++ [116])))
      ++ rest) = [(time.year : Int), time.month, time.day] := by
    intro rest
    have hletter : ¬ (116 : UInt8) = 84 := by decide
    simp only [timestampFormat, List.append_assoc, List.cons_append, List.nil_append, sscanf,
      scanInt_field (by decide) hyear, scanInt_field (by decide) hmonth,
      scanInt_field (by decide) hday, ↓reduceIte, if_neg hletter]
  rw [parseTimestamp, if_neg hlength, htext, cString_append hnul, hfields]
  exact ⟨_, rfl⟩

/-! ### What is imported -/

theorem metadataFromJson_times {fresh : Bytes} {metadata : Value} {result : SnapshotMetadata}
    (h : metadataFromJson fresh metadata = .ok result) :
    result.createdAt = timestampOr 0 (readString metadata "created_at")
      ∧ result.updatedAt = timestampOr 0 (readString metadata "updated_at") := by
  rw [metadataFromJson] at h
  dsimp only at h
  split at h
  · cases h
  · split at h
    · cases h
    · rw [← Except.ok.inj h]
      exact ⟨rfl, rfl⟩

theorem snapshotFromJson_metadata {fresh : Bytes} {document : Value} {snapshot : Snapshot}
    (h : snapshotFromJson fresh document = .ok snapshot) :
    ∃ metadata, document.find (str "metadata") = some metadata
      ∧ metadataFromJson fresh metadata = .ok snapshot.metadata := by
  rw [snapshotFromJson] at h
  split at h
  · cases h
  cases hfind : (document.find (str "metadata")).filter (·.isObject) with
  | none =>
      rw [hfind] at h
      cases h
  | some metadata =>
      rw [hfind] at h
      dsimp only at h
      cases hmetadata : metadataFromJson fresh metadata with
      | error e =>
          rw [hmetadata] at h
          cases h
      | ok result =>
          rw [hmetadata] at h
          change ((itemsOf document "windows").mapM windowFromJson >>= _) = _ at h
          cases hwindows : (itemsOf document "windows").mapM windowFromJson with
          | error e =>
              rw [hwindows] at h
              cases h
          | ok windows =>
              rw [hwindows] at h
              refine ⟨metadata, (Option.filter_eq_some_iff.mp hfind).1, ?_⟩
              rw [← Except.ok.inj h]
              exact hmetadata

theorem imported_times {time : DateTimeText} {fresh : Bytes} {document : Value}
    {snapshot : Snapshot} (h : snapshotFromJson fresh document = .ok snapshot) :
    (documentTime document "created_at" = some (.string time.text) →
        snapshot.metadata.createdAt = timestampOr 0 time.text)
      ∧ (documentTime document "updated_at" = some (.string time.text) →
        snapshot.metadata.updatedAt = timestampOr 0 time.text) := by
  obtain ⟨metadata, hfind, hmetadata⟩ := snapshotFromJson_metadata h
  obtain ⟨hcreated, hupdated⟩ := metadataFromJson_times hmetadata
  have hread : ∀ key, documentTime document key = some (.string time.text) →
      readString metadata key = time.text := by
    intro key hkey
    rw [documentTime, hfind, Option.bind_some] at hkey
    rw [readString, hkey]
    rfl
  refine ⟨fun hkey => ?_, fun hkey => ?_⟩
  · rw [hcreated, hread _ hkey]
  · rw [hupdated, hread _ hkey]

/-- A document with no more than it needs, created at a time. -/
def leastDocument (time : DateTimeText) : Value :=
  .object
    [(str "metadata", .object
        [(str "id", .string (str "01J8Z2ABCDEFGHJKMNPQRSTVWX")),
          (str "created_at", .string time.text)]),
      (str "monitors", .array []), (str "windows", .array [])]

theorem import_leastDocument (time : DateTimeText) :
    ∃ snapshot, snapshotFromJson [] (leastDocument time) = .ok snapshot
      ∧ documentTime (leastDocument time) "created_at" = some (.string time.text) :=
  ⟨_, rfl, rfl⟩

/-! ### Times that are read as they are meant -/

theorem fractionMillis_lt (time : DateTimeText) : time.fractionMillis < 1000 := by
  have hlt := digitsValue_lt (isDigit_of_mem_fraction time)
  rw [DateTimeText.fractionMillis, Nat.div_lt_iff_lt_mul (by positivity), Nat.mul_comm]
  omega

theorem readFraction_lt (time : DateTimeText) : digitsValue (time.fraction.take 3) < 1000 := by
  have hkept : ∀ c ∈ time.fraction.take 3, isDigit c = true := fun c hc =>
    isDigit_of_mem_fraction time c (List.mem_of_mem_take hc)
  exact (digitsValue_lt hkept).trans_le (Nat.pow_le_pow_right (by decide) (List.length_take_le ..))

theorem offset_bounds (offset : Offset) : -86400 < offset.seconds ∧ offset.seconds < 86400 := by
  cases offset with
  | zulu small =>
      change (-86400 : Int) < 0 ∧ (0 : Int) < 86400
      decide
  | numeric west hour minute =>
      simp only [Offset.seconds]
      split <;> omega

/-- A number near an instant wraps to it only when it is the instant. -/
theorem bmod_eq_iff {written instant : Int} (hlow : -2 ^ 64 < written - instant)
    (hhigh : written - instant < 2 ^ 64) :
    written.bmod (2 ^ 64) = instant ↔ written = instant ∧ FitsInt64 instant := by
  have hwrapped := Int.bmod_add_bdiv written (2 ^ 64)
  constructor
  · intro h
    have hlow := Int.le_bmod (x := written) (m := 2 ^ 64) (by decide)
    have hhigh := Int.bmod_lt (x := written) (m := 2 ^ 64) (by decide)
    rw [h] at hwrapped hlow hhigh
    have hnone : written.bdiv (2 ^ 64) = 0 := by omega
    exact ⟨by omega, by omega, by omega⟩
  · rintro ⟨heq, hlow, hhigh⟩
    rw [heq]
    exact Int.bmod_eq_of_le (by omega) (by omega)

/-- The second and the milliseconds of two times with local offsets. -/
theorem parts_eq_iff {seconds offset : Int} {read millis : Nat} (hread : read < 1000)
    (hmillis : millis < 1000) :
    seconds * 1000000000 + (read : Int) * 1000000 = ((seconds - offset) * 1000 + millis) * 1000000
      ↔ offset = 0 ∧ read = millis := by
  omega

theorem parts_close (seconds : Int) {offset : Int} {read millis : Nat} (hread : read < 1000)
    (hmillis : millis < 1000) (hwest : -86400 < offset) (heast : offset < 86400) :
    -2 ^ 64 < seconds * 1000000000 + (read : Int) * 1000000
        - ((seconds - offset) * 1000 + millis) * 1000000
      ∧ seconds * 1000000000 + (read : Int) * 1000000
        - ((seconds - offset) * 1000 + millis) * 1000000 < 2 ^ 64 := by
  omega

theorem denotes_read_iff (time : DateTimeText) :
    Denotes time (Int64.ofInt (timegm time.clock) * 1000000000
        + Int64.ofInt (digitsValue (time.fraction.take 3) : Nat) * 1000000)
      ↔ PlainDateTime time := by
  have hfraction := digitsValue_take_eq_iff (isDigit_of_mem_fraction time)
  have hmillis := fractionMillis_lt time
  have hread := readFraction_lt time
  obtain ⟨hwest, heast⟩ := offset_bounds time.offset
  obtain ⟨hlow, hhigh⟩ := parts_close (timegm time.clock) hread hmillis hwest heast
  have hvalue : ∀ seconds millis : Int,
      (Int64.ofInt seconds * 1000000000 + Int64.ofInt millis * 1000000).toInt
        = (seconds * 1000000000 + millis * 1000000).bmod (2 ^ 64) := by
    intro seconds millis
    rw [show (1000000000 : Int64) = Int64.ofInt 1000000000 from rfl,
      show (1000000 : Int64) = Int64.ofInt 1000000 from rfl, ← Int64.ofInt_mul, ← Int64.ofInt_mul,
      ← Int64.ofInt_add, Int64.toInt_ofInt]
    rfl
  rw [Denotes, hvalue, DateTimeText.millis, bmod_eq_iff hlow hhigh, parts_eq_iff hread hmillis,
    DateTimeText.fractionMillis, hfraction]
  constructor
  · rintro ⟨⟨hoffset, hdigits⟩, hfits⟩
    exact ⟨hoffset, hdigits, hfits⟩
  · rintro ⟨hoffset, hdigits, hfits⟩
    exact ⟨⟨hoffset, hdigits⟩, hfits⟩

/-- **Times of documents.** A date-time is read and imported as its instant exactly when it is
plain, or when it is the epoch itself with a small `t`. -/
theorem readAsDenoted_iff (time : DateTimeText) :
    ReadAsDenoted time ↔ if time.smallT then time.millis = 0 else PlainDateTime time := by
  cases hletter : time.smallT with
  | true =>
      obtain ⟨e, herror⟩ := parseTimestamp_smallT hletter
      have hdefault : timestampOr 0 time.text = 0 := by
        rw [timestampOr, herror]
      have hepoch : Denotes time 0 ↔ time.millis = 0 := by
        rw [Denotes, Int64.toInt_zero]
        omega
      rw [if_pos rfl]
      constructor
      · intro h
        obtain ⟨snapshot, himport, htime⟩ := import_leastDocument time
        have hcreated := h.created _ _ _ himport htime
        rwa [(imported_times himport).1 htime, hdefault, hepoch] at hcreated
      · intro h
        refine ⟨fun timestamp hok => ?_, fun fresh document snapshot himport htime => ?_,
          fun fresh document snapshot himport htime => ?_⟩
        · rw [herror] at hok
          cases hok
        · rw [(imported_times himport).1 htime, hdefault, hepoch, h]
        · rw [(imported_times himport).2 htime, hdefault, hepoch, h]
  | false =>
      have hparse := parseTimestamp_text hletter
      rw [if_neg (by simp)]
      constructor
      · intro h
        exact (denotes_read_iff time).mp (h.parsed _ hparse)
      · intro h
        have hdenotes := (denotes_read_iff time).mpr h
        refine ⟨fun timestamp hok => ?_, fun fresh document snapshot himport htime => ?_,
          fun fresh document snapshot himport htime => ?_⟩
        · rw [hparse] at hok
          rwa [← Except.ok.inj hok]
        · rwa [(imported_times himport).1 htime, timestampOr, hparse]
        · rwa [(imported_times himport).2 htime, timestampOr, hparse]

/-- Half a second behind the full one, two hours east. -/
def halfPastEast : DateTimeText where
  year := 2025
  month := 9
  day := 8
  smallT := false
  hour := 5
  minute := 40
  second := 0
  fraction := str "5"
  offset := .numeric false 2 0
  year_lt := by decide
  month_bounds := by decide
  day_bounds := by decide
  hour_lt := by decide
  minute_lt := by decide
  second_le := by decide
  fraction_digits := by decide

example : halfPastEast.text = str "2025-09-08T05:40:00.5+02:00" := by decide

theorem not_readAsDenoted : ¬ ∀ time, ReadAsDenoted time := by
  intro h
  have hparse : parseTimestamp halfPastEast.text = .ok 1757310000005000000 := by decide
  have hinstant : halfPastEast.millis = 1757302800500 := by decide
  have hdenotes := (h halfPastEast).parsed _ hparse
  rw [Denotes, hinstant] at hdenotes
  revert hdenotes
  decide

end ContextSnap.Storage
