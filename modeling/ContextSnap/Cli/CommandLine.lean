import ContextSnap.Core.Config
import ContextSnap.Core.Restore

/-!
# The command line

How the words of a command line become a command, its positional arguments and its options, how a
restore reads its options, and what `diff` finds between two snapshots.
-/

namespace ContextSnap.Cli

open Restore (parseSelector)

/-! ### Options -/

structure Args where
  options : Bytes → Option Bytes

def Args.has (args : Args) (name : Bytes) : Bool := (args.options name).isSome

def Args.value (args : Args) (name : Bytes) (fallback : Bytes := []) : Bytes :=
  (args.options name).getD fallback

/-- What is between the commas of a text, without what is empty. -/
def splitList (text : Bytes) : List Bytes :=
  let (parts, current) := text.foldl (fun (parts, current) character =>
    if character = 44 then if current ≠ [] then (parts ++ [current], []) else (parts, current)
    else (parts, current ++ [character])) ([], [])
  if current ≠ [] then parts ++ [current] else parts

/-- An entry that does not parse is reported, and ignored. -/
def parseSelectors (text : Bytes) : List RestoreSelector :=
  (splitList text).filterMap fun entry => (parseSelector entry).toOption

def restoreOptions (args : Args) (config : Config) : RestoreOptions :=
  let options := config.restoreOptions
  { options with
    selectors :=
      if args.has (str "only") then parseSelectors (args.value (str "only")) else options.selectors
    dryRun := options.dryRun || args.has (str "dry-run")
    launchMissingApps := options.launchMissingApps && !args.has (str "no-launch")
    restoreCursor := options.restoreCursor && !args.has (str "no-cursor")
    lazyLoadTabs := options.lazyLoadTabs && !args.has (str "no-lazy") }

/-! ### Arguments -/

/-- `Args` with everything that `parse_args` fills in. -/
structure CommandLine extends Args where
  command : Bytes := []
  positional : List Bytes := []
  options := fun _ => none

def CommandLine.json (args : CommandLine) : Bool := args.has (str "json")

def booleanFlags : List Bytes :=
  [str "json", str "no-tabs", str "dry-run", str "latest", str "tree", str "force", str "favorite",
    str "quiet", str "verbose", str "help", str "version", str "no-launch", str "no-cursor",
    str "no-lazy", str "pretty"]

/-- Flags that never take a value. Every other option takes the next word, or the text behind `=`. -/
def isBooleanFlag (name : Bytes) : Bool := booleanFlags.any (· = name)

/-- The name of an option without its dashes, and the text behind the first `=`. -/
def splitOption (token : Bytes) : Bytes × Bytes :=
  match token.findIdx? (· = 61) with
  | none => (token, [])
  | some equals => (token.take equals, token.drop (equals + 1))

def CommandLine.set (args : CommandLine) (name value : Bytes) : CommandLine :=
  { args with options := Function.update args.options name (some value) }

/-- A word that is no option. -/
def CommandLine.word (args : CommandLine) (token : Bytes) : CommandLine :=
  if args.command = [] then { args with command := token }
  else { args with positional := args.positional ++ [token] }

def isOption (token : Bytes) : Bool := (str "--").isPrefixOf token

/-- The loop of `parse_args`. -/
def parseTokens (args : CommandLine) : List Bytes → CommandLine
  | [] => args
  | [token] =>
      if isOption token then
        let (name, inlineValue) := splitOption (token.drop 2)
        if isBooleanFlag name then
          args.set name (if inlineValue = [] then str "true" else inlineValue)
        else args.set name inlineValue
      else args.word token
  | token :: next :: tokens =>
      if isOption token then
        let (name, inlineValue) := splitOption (token.drop 2)
        if isBooleanFlag name then
          parseTokens (args.set name (if inlineValue = [] then str "true" else inlineValue))
            (next :: tokens)
        else if inlineValue ≠ [] then parseTokens (args.set name inlineValue) (next :: tokens)
        else parseTokens (args.set name next) tokens
      else parseTokens (args.word token) (next :: tokens)

/-- `parse_args`, of the words behind the program's name. -/
def parseArgs (tokens : List Bytes) : CommandLine := parseTokens {} tokens

/-! ### diff -/

/-- `std::set_difference` of two sorted ranges. -/
def setDifference {α : Type} [LT α] [DecidableLT α] : List α → List α → List α
  | [], _ => []
  | a :: as, [] => a :: as
  | a :: as, b :: bs =>
      if a < b then a :: setDifference as (b :: bs)
      else if b < a then setDifference (a :: as) bs
      else setDifference as bs
  termination_by as bs => as.length + bs.length

/-- The `app_ids` of `command_diff`: every app once, sorted. -/
def appIds (snapshot : Snapshot) : List Bytes :=
  (snapshot.windows.map (·.process.appId)).eraseDups.mergeSort (· ≤ ·)

/-- What `diff` prints, apart from the names. -/
structure Difference where
  windows : Nat × Nat
  tabs : Nat × Nat
  added : List Bytes
  removed : List Bytes
  deriving DecidableEq

def commandDiff (left right : Snapshot) : Difference :=
  { windows := (left.windows.length, right.windows.length)
    tabs := (left.tabCount, right.tabCount)
    added := setDifference (appIds right) (appIds left)
    removed := setDifference (appIds left) (appIds right) }

end ContextSnap.Cli
