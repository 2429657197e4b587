import Wayfinding.Url.Host

/-!
# URLs

A URL is read into the parts that a request needs: what to reach, and what to ask for. Who asks and
the fragment are read too, and not kept.

Main definitions:
* `Url.parse`: reads a URL.
* `Url.appendSegment`: a URL below another one.
* `Url.appendQuery`: a URL with one more field in its query.
* `Url.target`: the path and the query, as they are sent.
-/

namespace Wayfinding

/-- What a URL asks for. -/
inductive UrlPath where
  | segments (s : List String)
  /-- A text that is not made of segments. -/
  | flat (text : String)
deriving DecidableEq

/-- A URL without user and fragment. -/
structure Url where
  scheme : String
  host : Option Host := none
  /-- The port, unless it is the one that the scheme implies. -/
  port : Option Nat := none
  path : UrlPath := .segments []
  query : Option String := none
deriving DecidableEq

namespace Url

/-! ### Schemes -/

/-- The schemes whose URLs have a host, and the port that each implies. -/
def knownSchemes : List (String × Nat) :=
  [("http", 80), ("https", 443), ("ws", 80), ("wss", 443), ("ftp", 21)]

/-- The port that a scheme implies. -/
def impliedPort? (scheme : String) : Option Nat := knownSchemes.lookup scheme

/-- Whether a backslash is a slash, and a path is never empty. -/
def isSpecial (scheme : String) : Bool := scheme == "file" || (impliedPort? scheme).isSome

/-- Whether a character may follow the first letter of a scheme. -/
def inScheme (c : Char) : Bool := c.isAlphanum || c == '+' || c == '-' || c == '.'

/-- Reads a scheme and its colon. -/
def takeScheme? (cs : List Char) : Option (String × List Char) :=
  let scheme := cs.takeWhile inScheme
  match scheme.head?, cs.dropWhile inScheme with
  | some c, ':' :: rest =>
    if c.isAlpha then some (String.ofList (scheme.map Char.toLower), rest) else none
  | _, _ => none

/-! ### Authority -/

/-- Whether a character separates segments. -/
def isSlash (special : Bool) (c : Char) : Bool := c == '/' || (special && c == '\\')

/-- Whether a character ends the authority. -/
def endsAuthority (special : Bool) (c : Char) : Bool := isSlash special c || c == '?' || c == '#'

/-- What an authority holds before its last at sign, if it has one, and what follows that. -/
def splitUser (authority : List Char) : Option (List Char) × List Char :=
  let host := (authority.reverse.takeWhile (· != '@')).reverse
  if host.length < authority.length then
    (some (authority.take (authority.length - host.length - 1)), host)
  else (none, host)

/-- Reads a host up to the colon before the port; a colon inside brackets belongs to the host. -/
def takeHost (special : Bool) (bracketed : Bool) : List Char → List Char × List Char
  | [] => ([], [])
  | c :: rest =>
    if (c == ':' && !bracketed) || endsAuthority special c then ([], c :: rest)
    else
      let bracketed := c == '[' || (bracketed && c != ']')
      let (host, rest) := takeHost special bracketed rest
      (c :: host, rest)

/-- Reads the port behind a colon, if there is one. -/
def takePort (cs : List Char) : Except UrlFault (Option Nat × List Char) :=
  match cs with
  | ':' :: rest =>
    let digits := rest.takeWhile (Digit.isIn 10)
    let rest := rest.dropWhile (Digit.isIn 10)
    if UInt16.size ≤ Digit.number 10 digits then .error .badPort
    else if (rest.head?.any fun c => !endsAuthority true c) then .error .badPort
    else .ok (if digits = [] then none else some (Digit.number 10 digits), rest)
  | _ => .ok (none, cs)

/-- Reads the host; it may be absent only from a URL whose scheme is not known and which names
neither user nor port. -/
def takeNamedHost (scheme : String) (hasUser : Bool) (cs : List Char) :
    Except UrlFault (Option Host × List Char) := do
  let special := isSpecial scheme
  let (text, rest) := takeHost special false cs
  if text = [] then
    if special ∨ hasUser ∨ rest.head? = some ':' then .error .emptyHost
    else return (none, rest)
  else
    let host ← if special then Host.parse text else Host.parsePlain text
    return (some host, rest)

/-! ### Path and query -/

/-- Whether a segment stands for its parent. -/
def isParent (segment : List Char) : Bool :=
  ["..", ".%2e", "%2e.", "%2e%2e"].contains (String.ofList (segment.map Char.toLower))

/-- Whether a segment stands for nothing. -/
def isSelf (segment : List Char) : Bool :=
  [".", "%2e"].contains (String.ofList (segment.map Char.toLower))

/-- The segments of a path, given those before and those that are still to be resolved; a path that
ends in a segment for its parent or for nothing ends in an empty one. -/
def resolve (done : List String) : List (List Char) → List String
  | [] => done
  | s :: rest =>
    let ending := if rest = [] then [""] else []
    if isParent s then resolve (done.dropLast ++ ending) rest
    else if isSelf s then resolve (done ++ ending) rest
    else resolve (done ++ [String.ofList s]) rest

/-- The segments of a path whose first slash has been read. -/
def segmentsOf (special : Bool) (cs : List Char) : List String :=
  resolve [] ((cs.splitOnP (isSlash special)).map (Percent.encode Percent.inPath))

/-- Reads a path. -/
def pathOf (special : Bool) (cs : List Char) : UrlPath :=
  match cs with
  | [] => .segments (if special then [""] else [])
  | c :: rest => .segments (segmentsOf special (if isSlash special c then rest else cs))

/-- Whether a character ends the path. -/
def endsPath (c : Char) : Bool := c == '?' || c == '#'

/-- Reads a query behind its question mark, up to the fragment. -/
def queryOf (special : Bool) : List Char → Option String
  | '?' :: rest =>
    some (String.ofList (Percent.encode (Percent.inQuery special) (rest.takeWhile (· != '#'))))
  | _ => none

/-! ### Reading -/

/-- Reads what follows the host. -/
def withRest (u : Url) (cs : List Char) : Url :=
  let special := isSpecial u.scheme
  { u with
    path := pathOf special (cs.takeWhile (!endsPath ·))
    query := queryOf special (cs.dropWhile (!endsPath ·)) }

/-- Reads what follows the two slashes. -/
def parseAuthority (scheme : String) (cs : List Char) : Except UrlFault Url := do
  let special := isSpecial scheme
  let authority := cs.takeWhile (!endsAuthority special ·)
  let rest := cs.drop authority.length
  let (user, hostText) := splitUser authority
  if user = some [] ∧ hostText = [] ∧ rest ≠ [] then .error .emptyHost
  let hasUser := user.any fun u => u ≠ [] ∧ u ≠ [':']
  let (host, rest) ← takeNamedHost scheme hasUser (hostText ++ rest)
  let (port, rest) ← takePort rest
  return withRest { scheme, host, port := if port = impliedPort? scheme then none else port } rest

/-- Whether a host of a file is the letter of a drive, which belongs to the path. -/
def isDrive : List Char → Bool
  | [a, b] => a.isAlpha && (b == ':' || b == '|')
  | _ => false

/-- Reads the URL of a file; its host may be empty, and it has no port. -/
def parseFile (cs : List Char) : Except UrlFault Url :=
  match cs.splitAt 2 with
  | ([a, b], rest) =>
    let text := rest.takeWhile (!endsAuthority true ·)
    if !(isSlash true a && isSlash true b) then .ok (withRest { scheme := "file" } cs)
    else if text = [] ∨ isDrive text then .ok (withRest { scheme := "file" } rest)
    else (Host.parse text).map fun host =>
      withRest { scheme := "file", host := some host } (rest.drop text.length)
  | _ => .ok (withRest { scheme := "file" } cs)

/-- Reads what follows the scheme. -/
def parseAfterScheme (scheme : String) (cs : List Char) : Except UrlFault Url :=
  if scheme = "file" then parseFile cs
  else if isSpecial scheme then parseAuthority scheme (cs.dropWhile (isSlash true))
  else match cs with
    | '/' :: '/' :: rest => parseAuthority scheme rest
    | '/' :: _ => .ok (withRest { scheme } cs)
    | _ =>
      .ok { scheme
            path := .flat (String.ofList (cs.takeWhile (!endsPath ·)))
            query := queryOf false (cs.dropWhile (!endsPath ·)) }

/-- Whether a character is dropped from both ends of a URL. -/
def isMargin (c : Char) : Bool := c.toNat ≤ 0x20

/-- Whether a character is dropped wherever it stands in a URL. -/
def isBreak (c : Char) : Bool := c == '\t' || c == '\n' || c == '\r'

/-- A text without margins and line breaks. -/
def clean (cs : List Char) : List Char :=
  (((cs.dropWhile isMargin).reverse.dropWhile isMargin).reverse).filter (!isBreak ·)

/-- Reads a URL. -/
def parse (s : String) : Except UrlFault Url :=
  match takeScheme? (clean s.toList) with
  | none => .error .noScheme
  | some (scheme, rest) => parseAfterScheme scheme rest

/-! ### Use -/

/-- Segments without an empty last one, unless it is the only one. -/
def withoutEmptyEnd (segments : List String) : List String :=
  if segments.getLast? = some "" ∧ 1 < segments.length then segments.dropLast else segments

/-- Segments with one more at their end; it takes the place of an only segment that is empty. -/
def extendSegments (segments : List String) (s : String) : List String :=
  if segments = [""] then [s] else segments ++ [s]

/-- The URL with one more segment at the end of its path; an empty last segment is filled. -/
def appendSegment (u : Url) (s : String) : Except UrlFault Url :=
  match u.path with
  | .segments segments =>
    .ok { u with path := .segments (extendSegments (withoutEmptyEnd segments) s) }
  | .flat _ => .error .noSegments

/-- The URL with one more field at the end of its query. -/
def appendQuery (u : Url) (key value : String) : Url :=
  let field := String.ofList (Percent.form key ++ '=' :: Percent.form value)
  { u with query := some (match u.query with
      | none | some "" => field
      | some q => q ++ "&" ++ field) }

/-- The path as it is sent. -/
def pathText (u : Url) : String :=
  match u.path with
  | .segments s => String.join (s.map ("/" ++ ·))
  | .flat text => text

/-- The path and the query, as they are sent. -/
def target (u : Url) : String :=
  u.pathText ++ match u.query with
    | none => ""
    | some q => "?" ++ q

end Url

end Wayfinding
