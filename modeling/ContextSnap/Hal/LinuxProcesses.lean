import ContextSnap.Core.Matching
import ContextSnap.Core.Result
import ContextSnap.Lib.Pieces

/-!
# Processes on Linux

What is read of a process under `/proc`, and what a process that is launched from it is started
with.
-/

namespace ContextSnap.Hal.Linux

open Matching (normalizeAppId isSingleInstanceApp)

/-- The directory of a process under `/proc`. A link that cannot be read is empty. -/
structure ProcEntry where
  exe : Bytes := []
  cwd : Bytes := []
  cmdline : Bytes := []
  deriving DecidableEq, Inhabited

/-- What stands between the NUL bytes, without what is empty. -/
def readCmdline (raw : Bytes) : List Bytes := (pieces 0 raw).filter (· ≠ [])

/-- `user` is the variable of the environment, and `euid` the effective user of the daemon. -/
def readProcess (pid : UInt64) (entry : ProcEntry) (user : Option Bytes) (euid : UInt32) :
    ProcessInfo :=
  let commandLine := readCmdline entry.cmdline
  let executablePath :=
    match entry.exe, commandLine with
    | [], first :: _ => first
    | exe, _ => exe
  let appId := normalizeAppId executablePath
  { pid, executablePath, commandLine, appId
    workingDirectory := entry.cwd
    singleInstance := isSingleInstanceApp appId
    user := user.getD []
    elevated := euid = 0 }

/-- What the child of a fork calls `chdir` and `execv` with. -/
structure Exec where
  workingDirectory : Bytes
  path : Bytes
  argv : List Bytes
  deriving DecidableEq

def launch (process : ProcessInfo) : Result Exec :=
  if process.executablePath = [] then
    .error (Err.invalid (str "process has no executable path") (str "hal.linux"))
  else
    .ok {
      workingDirectory := process.workingDirectory
      path := process.executablePath
      argv :=
        if process.commandLine = [] then [process.executablePath] else process.commandLine }

end ContextSnap.Hal.Linux
