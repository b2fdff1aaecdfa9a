import ContextSnap.Core.Result
import ContextSnap.Core.Types
import ContextSnap.Lib.Calendar
import ContextSnap.Lib.Scan

/-!
# Timestamps

The RFC 3339 text of an exported document and the milliseconds of the database.
-/

namespace ContextSnap.Storage

open Calendar

/-- `std::put_time` with `%Y-%m-%dT%H:%M:%S`. -/
def putTime (time : DateTime) : Bytes :=
  let field (value : Int) := zeroPadded 2 (decimalInt value)
  decimalInt time.year ++ str "-" ++ field time.month ++ str "-" ++ field time.day ++ str "T"
    ++ field time.hour ++ str ":" ++ field time.minute ++ str ":" ++ field time.second

/-- Both conversions of the source truncate towards zero, so the milliseconds of a time before the
epoch are negative. -/
def formatTimestamp (timestamp : Timestamp) : Bytes :=
  let nanos := timestamp.toInt
  let seconds := nanos.tdiv 1000000000
  let millis := (nanos - seconds * 1000000000).tdiv 1000000
  putTime (gmtime seconds) ++ str "." ++ zeroPadded 3 (decimalInt millis) ++ str "Z"

/-- `%4d-%2d-%2dT%2d:%2d:%2d.%3d` -/
def timestampFormat : List ScanDirective :=
  [.int 4, .literal 45, .int 2, .literal 45, .int 2, .literal 84, .int 2, .literal 58, .int 2,
    .literal 58, .int 2, .literal 46, .int 3]

/-- A field that `sscanf` does not reach keeps its zero. -/
def parseTimestamp (text : Bytes) : Result Timestamp :=
  if text.length < 19 then
    .error (Err.invalid (str "timestamp too short") (str "storage.time"))
  else
    let fields := sscanf timestampFormat (cString text)
    if fields.length < 6 then
      .error (Err.invalid (str "malformed RFC 3339 timestamp") (str "storage.time"))
    else
      let seconds := timegm
        { year := fields.getD 0 0, month := fields.getD 1 0, day := fields.getD 2 0,
          hour := fields.getD 3 0, minute := fields.getD 4 0, second := fields.getD 5 0 }
      .ok (Int64.ofInt seconds * 1000000000 + Int64.ofInt (fields.getD 6 0) * 1000000)

def toUnixMillis (timestamp : Timestamp) : Int64 := timestamp / 1000000

def fromUnixMillis (millis : Int64) : Timestamp := millis * 1000000

end ContextSnap.Storage
