import ContextSnap.Lib.Bytes

/-!
# Errors

`Result<T>` is `Except Error T`. An error carries a machine-readable code, a message, the subsystem
it comes from and the native code of the layer below.
-/

namespace ContextSnap

inductive ErrorCode where
  | ok | notFound | alreadyExists | invalidArgument | permissionDenied | unsupported | ioError
  | databaseError | serializationError | protocolError | timeout | cancelled | conflict
  | partialFailure | internal
  deriving DecidableEq, Repr

structure Error where
  code : ErrorCode := .internal
  message : Bytes := []
  context : Bytes := []
  nativeCode : Int := 0
  deriving DecidableEq

def ErrorCode.toText : ErrorCode → String
  | .ok => "ok"
  | .notFound => "not_found"
  | .alreadyExists => "already_exists"
  | .invalidArgument => "invalid_argument"
  | .permissionDenied => "permission_denied"
  | .unsupported => "unsupported"
  | .ioError => "io_error"
  | .databaseError => "database_error"
  | .serializationError => "serialization_error"
  | .protocolError => "protocol_error"
  | .timeout => "timeout"
  | .cancelled => "cancelled"
  | .conflict => "conflict"
  | .partialFailure => "partial_failure"
  | .internal => "internal"

def Error.render (error : Error) : Bytes :=
  str "[" ++ str error.code.toText ++ str "] "
    ++ (if error.message = [] then str "unspecified error" else error.message)
    ++ (if error.context = [] then [] else str " (" ++ error.context ++ str ")")
    ++ (if error.nativeCode = 0 then [] else str " [native=" ++ decimalInt error.nativeCode ++ str "]")

abbrev Result := Except Error

/-- `Result<void>`. -/
abbrev Status := Result Unit

namespace Err

def notFound (what : Bytes) (context : Bytes := []) : Error :=
  { code := .notFound, message := what, context }

def invalid (what : Bytes) (context : Bytes := []) : Error :=
  { code := .invalidArgument, message := what, context }

def unsupported (what : Bytes) (context : Bytes := []) : Error :=
  { code := .unsupported, message := what, context }

def protocol (what : Bytes) (context : Bytes := []) : Error :=
  { code := .protocolError, message := what, context }

def database (what : Bytes) (context : Bytes := []) (native : Int := 0) : Error :=
  { code := .databaseError, message := what, context, nativeCode := native }

def internal (what : Bytes) (context : Bytes := []) : Error :=
  { code := .internal, message := what, context }

end Err

end ContextSnap
