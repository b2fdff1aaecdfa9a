import ContextSnap.Core.Matching
import ContextSnap.Core.Result

/-!
# URLs

A tolerant reading of URLs: a scheme in front of `://` makes a URL hierarchical, a scheme in front of
a colon makes it opaque. Neither the port nor the parts of the query are looked into.
-/

namespace ContextSnap.Privacy

open Matching (findText)

structure ParsedUrl where
  scheme : Bytes := []
  userinfo : Bytes := []
  host : Bytes := []
  port : Bytes := []
  path : Bytes := []
  query : List (Bytes × Bytes) := []
  fragment : Bytes := []
  deriving DecidableEq, Inhabited

/-! ### Writing -/

/-- A part behind its mark, if it is not empty. -/
def marked (mark part : Bytes) : Bytes := if part = [] then [] else mark ++ part

def parameterText (parameter : Bytes × Bytes) : Bytes :=
  parameter.1 ++ marked (str "=") parameter.2

def queryText : List (Bytes × Bytes) → Bytes
  | [] => []
  | first :: rest =>
      str "?" ++ parameterText first ++ rest.flatMap fun parameter => str "&" ++ parameterText parameter

/-- `ParsedUrl::to_string`. -/
def ParsedUrl.toText (url : ParsedUrl) : Bytes :=
  (if url.scheme = [] then [] else url.scheme ++ str "://")
    ++ (if url.userinfo = [] then [] else url.userinfo ++ str "@")
    ++ url.host ++ marked (str ":") url.port ++ url.path ++ queryText url.query
    ++ marked (str "#") url.fragment

def ParsedUrl.origin (url : ParsedUrl) : Bytes :=
  (if url.scheme = [] then [] else url.scheme ++ str "://") ++ url.host ++ marked (str ":") url.port

/-! ### Reading -/

/-- The text in front of the first `c` and the text behind it. -/
def splitFirst (c : UInt8) (text : Bytes) : Option (Bytes × Bytes) :=
  if c ∈ text then some (text.takeWhile (· ≠ c), (text.dropWhile (· ≠ c)).tail) else none

/-- The text in front of the last `c` and the text behind it. -/
def splitLast (c : UInt8) (text : Bytes) : Option (Bytes × Bytes) :=
  (splitFirst c text.reverse).map fun parts => (parts.2.reverse, parts.1.reverse)

/-- The texts between the ampersands, without an empty one at the end. -/
def ampersandParts : Bytes → List Bytes
  | [] => []
  | c :: rest =>
      if c = 38 then [] :: ampersandParts rest
      else
        match ampersandParts rest with
        | [] => [[c]]
        | part :: parts => (c :: part) :: parts

def parseParameter (text : Bytes) : Bytes × Bytes := (splitFirst 61 text).getD (text, [])

/-- The userinfo, the host and the port. A bracket keeps the colons of an IPv6 host. -/
def parseAuthority (authority : Bytes) : Bytes × Bytes × Bytes :=
  let (userinfo, rest) := (splitLast 64 authority).getD ([], authority)
  let (host, port) := if 93 ∈ rest then (rest, []) else (splitLast 58 rest).getD (rest, [])
  (userinfo, lower host, port)

/-- What is behind `://`. -/
def parseHierarchical (scheme rest : Bytes) : ParsedUrl :=
  let stop (c : UInt8) : Bool := c = 47 || c = 63 || c = 35
  let (userinfo, host, port) := parseAuthority (rest.takeWhile fun c => !stop c)
  let rest := rest.dropWhile fun c => !stop c
  let (rest, fragment) := (splitFirst 35 rest).getD (rest, [])
  let (path, query) := (splitFirst 63 rest).getD (rest, [])
  { scheme, userinfo, host, port, path, query := (ampersandParts query).map parseParameter, fragment }

def parseUrl (url : Bytes) : Result ParsedUrl :=
  if url = [] then
    .error (Err.invalid (str "empty url") (str "privacy.parse_url"))
  else
    match findText (str "://") url with
    | some schemeEnd => .ok (parseHierarchical (lower (url.take schemeEnd)) (url.drop (schemeEnd + 3)))
    | none =>
        match splitFirst 58 url with
        | some (scheme, path) =>
            if 47 ∈ scheme then
              .error (Err.invalid (str "url has no scheme") (str "privacy.parse_url"))
            else
              -- about:blank, mailto:
              .ok { scheme := lower scheme, path }
        | none => .error (Err.invalid (str "url has no scheme") (str "privacy.parse_url"))

example : (parseUrl (str "HTTPS://me@Example.com:8443/a?k=1&flag#top")).toOption
    = some { scheme := str "https", userinfo := str "me", host := str "example.com",
             port := str "8443", path := str "/a", query := [(str "k", str "1"), (str "flag", [])],
             fragment := str "top" } := by
  decide

end ContextSnap.Privacy
