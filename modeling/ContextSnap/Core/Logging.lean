import ContextSnap.Core.Config
import ContextSnap.Core.ConfigFile
import ContextSnap.Storage.Timestamp

/-!
# The logger

One process-wide logger that writes single-line records of keys and values to a file, or to standard
error while no file is set. A file that has grown too large is put away under a numbered name before
the next record. Each of its functions holds the logger's mutex, so a run is a sequence of calls.
-/

namespace ContextSnap.Logging

/-! ### Records -/

structure Field where
  key : Bytes
  value : Bytes
  deriving DecidableEq

def needsQuotes (value : Bytes) : Bool :=
  value.isEmpty || value.any fun c => c = 32 || c = 9 || c = 34 || c = 61 || c = 10

/-- A byte between the quotes of a value. -/
def escapeByte (c : UInt8) : Bytes :=
  if c = 34 ∨ c = 92 then [92, c] else if c = 10 then [92, 110] else [c]

def quoteIfNeeded (value : Bytes) : Bytes :=
  if needsQuotes value then 34 :: (value.flatMap escapeByte ++ [34]) else value

/-- `iso8601_now`, of one reading of the clock. -/
def iso8601 (now : Timestamp) : Bytes :=
  let nanos := now.toInt
  let seconds := nanos.tdiv 1000000000
  let millis := (nanos - seconds * 1000000000).tdiv 1000000
  Storage.putTime (Calendar.gmtime seconds) ++ str "." ++ zeroPadded 3 (decimalInt millis)
    ++ str "Z"

def Field.text (field : Field) : Bytes :=
  str " " ++ field.key ++ str "=" ++ quoteIfNeeded field.value

/-- What a record says. The fields of the process stand in front of its own. -/
structure Record where
  time : Timestamp
  level : LogLevel
  message : Bytes
  fields : List Field
  deriving DecidableEq

def Record.line (record : Record) : Bytes :=
  iso8601 record.time ++ str " level=" ++ str record.level.toText ++ str " msg="
    ++ quoteIfNeeded record.message ++ record.fields.flatMap Field.text ++ str "\n"

/-! ### Files -/

/-- The files by their paths, with what is in them. -/
abbrev Files := Bytes → Option Bytes

/-- `std::filesystem::rename`, which fails when there is no such file and then changes nothing. -/
def Files.rename (files : Files) (source target : Bytes) : Files :=
  match files source with
  | none => files
  | some content => Function.update (Function.update files source none) target (some content)

/-- `fopen` with mode `a`, which makes the file if it is not there. -/
def Files.touch (files : Files) (path : Bytes) : Files :=
  Function.update files path (some ((files path).getD []))

/-- `fwrite` and `fflush` on a file that is open for appending. -/
def Files.append (files : Files) (path text : Bytes) : Files :=
  Function.update files path (some ((files path).getD [] ++ text))

def kMaxLogBytes : Nat := 5 * 1024 * 1024

def kRotatedGenerations : Nat := 3

/-- The name that a file has after it was put away `number` times. -/
def generation (path : Bytes) (number : Nat) : Bytes := path ++ str "." ++ decimal number

/-- The loop over the numbered files, from the oldest one that is kept. -/
def shiftGenerations (files : Files) (path : Bytes) : Files :=
  (List.range (kRotatedGenerations - 1)).reverse.foldl (fun files i =>
    files.rename (generation path (i + 1)) (generation path (i + 2))) files

/-! ### The logger -/

/-- `State`, with the files and the stream that it writes to. -/
structure Logger where
  level : LogLevel := .info
  /-- Whether there is a `sink`, which is open at `sink_path`. -/
  sink : Bool := false
  sinkPath : Bytes := []
  globals : List Field := []
  files : Files := fun _ => none
  stderr : Bytes := []

/-- `log::Level` by its underlying number. -/
def rank : LogLevel → Nat
  | .trace => 0
  | .debug => 1
  | .info => 2
  | .warn => 3
  | .error => 4
  | .off => 5

namespace Logger

variable (writable : Bytes → Bool) (logger : Logger)

/-- `rotate_if_needed`. Both ways of opening the file again fail or succeed alike. -/
def rotateIfNeeded : Logger :=
  if !logger.sink || logger.sinkPath.isEmpty then logger
  else
    match logger.files logger.sinkPath with
    | none => logger
    | some content =>
        if content.length < kMaxLogBytes then logger
        else
          let files := (shiftGenerations logger.files logger.sinkPath).rename logger.sinkPath
            (generation logger.sinkPath 1)
          if writable logger.sinkPath then { logger with files := files.touch logger.sinkPath }
          else { logger with sink := false, files }

/-- What `write` has to say at this level, if anything. -/
def record (level : LogLevel) (message : Bytes) (fields : List Field) (now : Timestamp) :
    Option Record :=
  if rank level < rank logger.level ∨ level = .off then none
  else some { time := now, level, message, fields := logger.globals ++ fields }

/-- The end of `write`, behind the rotation. -/
def emit (text : Bytes) : Logger :=
  if logger.sink then { logger with files := logger.files.append logger.sinkPath text }
  else { logger with stderr := logger.stderr ++ text }

def write (level : LogLevel) (message : Bytes) (fields : List Field) (now : Timestamp) : Logger :=
  match logger.record level message fields now with
  | none => logger
  | some record => (logger.rotateIfNeeded writable).emit record.line

/-- `set_log_file`, which keeps the old file when the new one cannot be opened. -/
def setLogFile (path : Bytes) : Logger × Bool :=
  if writable path then
    ({ logger with files := logger.files.touch path, sink := true, sinkPath := path }, true)
  else (logger, false)

end Logger

/-! ### Runs -/

/-- A call of the logger, with the reading of the clock that it takes. -/
inductive Call where
  | setLevel (level : LogLevel)
  | setLogFile (path : Bytes)
  | addGlobalField (field : Field)
  | write (level : LogLevel) (message : Bytes) (fields : List Field) (now : Timestamp)

section Runs

variable (writable : Bytes → Bool)

def Logger.call (logger : Logger) : Call → Logger
  | .setLevel level => { logger with level }
  | .setLogFile path => (logger.setLogFile writable path).1
  | .addGlobalField field => { logger with globals := logger.globals ++ [field] }
  | .write level message fields now => logger.write writable level message fields now

def Logger.run (logger : Logger) (calls : List Call) : Logger :=
  calls.foldl (Logger.call writable) logger

/-- The record that a call writes. -/
def Logger.recordOf (logger : Logger) : Call → Option Record
  | .write level message fields now => logger.record level message fields now
  | _ => none

/-- The records that a run writes, in order. -/
def Logger.written (logger : Logger) : List Call → List Record
  | [] => []
  | call :: calls => (logger.recordOf call).toList ++ (logger.call writable call).written calls

end Runs

end ContextSnap.Logging
