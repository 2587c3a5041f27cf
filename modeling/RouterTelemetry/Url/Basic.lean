import RouterTelemetry.Url.Host

/-!
# URLs

A URL is read in the way of web browsers: blanks around it are dropped, scheme and
host are brought to lower case, a port that the scheme implies is left out, and
dot segments of the path are resolved.  `Url.href` writes the normal form.
-/

namespace RouterTelemetry

open Url

/-- A URL in normal form. -/
structure Url where
  scheme : String
  user : String := ""
  password : String := ""
  /-- No host is written without slashes, an empty one with them. -/
  host : Option Host := none
  /-- Only a port that the scheme does not imply. -/
  port : Option Nat := none
  path : String := ""
  query : Option String := none
  fragment : Option String := none
deriving Repr, DecidableEq

namespace Url

/-- How the schemes differ. -/
inductive Kind where
  | web
  | file
  | other
deriving Repr, DecidableEq

/-- The kind of a scheme. -/
def kindOf (scheme : String) : Kind :=
  if scheme = "file" then .file
  else if ["http", "https", "ws", "wss", "ftp"].contains scheme then .web
  else .other

/-- The port that a scheme implies. -/
def defaultPort? (scheme : String) : Option Nat :=
  if scheme = "http" ∨ scheme = "ws" then some 80
  else if scheme = "https" ∨ scheme = "wss" then some 443
  else if scheme = "ftp" then some 21
  else none

/-- A backslash counts as a slash. -/
def Kind.isSpecial (kind : Kind) : Bool :=
  kind != .other

/-- The character separates parts of a path. -/
def isSlash (kind : Kind) (c : Char) : Bool :=
  c == '/' || (kind.isSpecial && c == '\\')

/-- The character ends the authority. -/
def endsAuthority (kind : Kind) (c : Char) : Bool :=
  isSlash kind c || c == '?' || c == '#'

/-! ## Scheme -/

/-- A character of a scheme after its first letter. -/
def isSchemeChar (c : Char) : Bool :=
  c.isAlphanum || c == '+' || c == '-' || c == '.'

/-- The scheme in lower case, and the text after its colon. -/
def splitScheme? (text : List Char) : Option (List Char × List Char) :=
  match text with
  | [] => none
  | c :: _ =>
      if c.isAlpha then
        match text.dropWhile isSchemeChar with
        | ':' :: rest => some ((text.takeWhile isSchemeChar).map lowerLetter, rest)
        | _ => none
      else
        none

/-! ## Authority -/

/-- The text before the last at-sign of an authority, if it has one, and the text
after it. -/
def splitUser (authority : List Char) : Option (List Char) × List Char :=
  let host := (authority.reverse.takeWhile (· != '@')).reverse
  if host.length = authority.length then
    (none, authority)
  else
    (some (authority.take (authority.length - host.length - 1)), host)

/-- User name and password of the text before the at-sign. -/
def userOf (text : List Char) : String × String :=
  (String.ofList (encode userSet (text.takeWhile (· != ':'))),
    String.ofList (encode userSet ((text.dropWhile (· != ':')).drop 1)))

/-- The host, up to a colon outside of brackets, and the text from that colon on. -/
def splitHost : (inBrackets : Bool) → List Char → List Char × List Char
  | _, [] => ([], [])
  | inBrackets, c :: rest =>
      if c = ':' ∧ inBrackets = false then
        ([], c :: rest)
      else
        let inside := if c = '[' then true else if c = ']' then false else inBrackets
        let (host, after) := splitHost inside rest
        (c :: host, after)

/-- The port after a colon; digits only, and none for the one that is implied. -/
def readPort (scheme : String) (text : List Char) : Except Fault (Option Nat) :=
  if text.all Char.isDigit then
    let port := (valueIn? 10 text).getD 0
    if 65535 < port then .error .port
    else if text.isEmpty ∨ defaultPort? scheme = some port then .ok none
    else .ok (some port)
  else
    .error .port

/-- The digits that a port starts with; the rest cannot stand in one. -/
def portText (kind : Kind) (text : List Char) : List Char :=
  if kind.isSpecial then text else text.takeWhile (· != '\\')

/-- The port of an authority, from its colon on. -/
def portOf (kind : Kind) (scheme : String) (text : List Char) : Except Fault (Option Nat) :=
  match text with
  | [] => .ok none
  | _ :: digits => readPort scheme (portText kind digits)

/-- The host of an authority. -/
def hostOf (kind : Kind) (text : List Char) : Except Fault Host :=
  if kind.isSpecial then Host.ofWeb text else Host.ofOther text

/-- Reads an authority into a URL; `atEnd` holds if nothing follows it. -/
def readAuthority (kind : Kind) (url : Url) (authority : List Char) (atEnd : Bool) :
    Except Fault Url :=
  let (credentials, hostAndPort) := splitUser authority
  let (user, password) := userOf (credentials.getD [])
  let (hostText, portPart) := splitHost false hostAndPort
  if credentials = some [] ∧ hostAndPort.isEmpty ∧ atEnd = false then
    .error .emptyHost
  else if kind = .web ∧ hostText.isEmpty then
    .error .emptyHost
  else do
    let host ← hostOf kind hostText
    if host = .named "" ∧ (!portPart.isEmpty ∨ user ≠ "" ∨ password ≠ "") then
      .error .emptyHost
    else
      let port ← portOf kind url.scheme portPart
      return { url with user, password, host := some host, port }

/-! ## Path -/

/-- The segment leaves the path as it is. -/
def isSingleDot (segment : List Char) : Bool :=
  [".", "%2e"].contains (String.ofList (segment.map lowerLetter))

/-- The segment takes back the one before it. -/
def isDoubleDot (segment : List Char) : Bool :=
  ["..", "%2e.", ".%2e", "%2e%2e"].contains (String.ofList (segment.map lowerLetter))

/-- The segment names a drive, which is never taken back. -/
def isDrive : List Char → Bool
  | [letter, mark] => letter.isAlpha && (mark == ':' || mark == '|')
  | _ => false

/-- Takes back the last segment; the path is reversed. -/
def dropSegment : List (List Char) → List (List Char)
  | [] => []
  | segment :: path => if isDrive segment then segment :: path else path

/-- Resolves dot segments.  `path` holds the segments before, reversed; each of them
has a slash after it. -/
def resolve (path : List (List Char)) : List (List Char) → List (List Char)
  | [] => path.reverse
  | [segment] =>
      if isDoubleDot segment then ([] :: dropSegment path).reverse
      else if isSingleDot segment then ([] :: path).reverse
      else (segment :: path).reverse
  | segment :: rest =>
      if isDoubleDot segment then resolve (dropSegment path) rest
      else if isSingleDot segment then resolve path rest
      else resolve (segment :: path) rest

/-- The path of a URL with an authority; one slash at the front does not count. -/
def readPath (kind : Kind) (text : List Char) : String :=
  let slashed := text.map fun c => if isSlash kind c then '/' else c
  match slashed with
  | [] => if kind.isSpecial then "/" else ""
  | c :: rest =>
      let body := if c = '/' then rest else slashed
      let segments := (splitAt '/' body).map (encode pathSet)
      String.ofList ('/' :: joinWith '/' (resolve [] segments))

/-! ## The whole -/

/-- Reads the query and the fragment, which begin with their marks. -/
def readTail (kind : Kind) (url : Url) (text : List Char) : Url :=
  let query := text.takeWhile (· != '#')
  let fragment := text.dropWhile (· != '#')
  { url with
    query := match query with
      | [] => none
      | _ :: query =>
          some (String.ofList (encode (if kind.isSpecial then webQuerySet else querySet) query))
    fragment := match fragment with
      | [] => none
      | _ :: fragment => some (String.ofList (encode fragmentSet fragment)) }

/-- The character begins the query or the fragment. -/
def beginsTail (c : Char) : Bool :=
  c == '?' || c == '#'

/-- Reads what follows the slashes before an authority. -/
def readHierarchy (kind : Kind) (scheme : String) (text : List Char) : Except Fault Url := do
  let authority := text.takeWhile fun c => !endsAuthority kind c
  let rest := text.dropWhile fun c => !endsAuthority kind c
  let url ← readAuthority kind { scheme } authority rest.isEmpty
  let path := readPath kind (rest.takeWhile fun c => !beginsTail c)
  return readTail kind { url with path } (rest.dropWhile fun c => !beginsTail c)

/-- Reads a file address: the host is everything up to a slash, unless it names a
drive. -/
def readFile (text : List Char) : Except Fault Url := do
  let isFileSlash := isSlash .file
  let (host, rest) := match text with
    | a :: b :: rest =>
        if isFileSlash a && isFileSlash b then
          (rest.takeWhile fun c => !endsAuthority .file c,
            rest.dropWhile fun c => !endsAuthority .file c)
        else ([], text)
    | _ => ([], text)
  let host ← if host.isEmpty ∨ isDrive host then pure (Host.named "") else Host.ofWeb host
  let path := readPath .file (rest.takeWhile fun c => !beginsTail c)
  return readTail .file { scheme := "file", host := some host, path }
    (rest.dropWhile fun c => !beginsTail c)

/-- Reads what follows the scheme of an address that is neither of the web nor of a
file. -/
def readOther (scheme : String) (text : List Char) : Except Fault Url :=
  match text with
  | '/' :: '/' :: rest => readHierarchy .other scheme rest
  | '/' :: _ =>
      .ok (readTail .other
        { scheme, path := readPath .other (text.takeWhile fun c => !beginsTail c) }
        (text.dropWhile fun c => !beginsTail c))
  | _ =>
      .ok (readTail .other
        { scheme, path := String.ofList (encode [] (text.takeWhile fun c => !beginsTail c)) }
        (text.dropWhile fun c => !beginsTail c))

/-- Control characters and spaces, which are dropped at either end. -/
def isEdge (c : Char) : Bool :=
  c ≤ ' '

/-- Tabs and line ends, which are dropped everywhere. -/
def isLineBreak (c : Char) : Bool :=
  c == '\t' || c == '\n' || c == '\r'

/-- The text without what is dropped before reading. -/
def cleaned (text : String) : List Char :=
  let front := text.toList.dropWhile isEdge
  ((front.reverse.dropWhile isEdge).reverse).filter fun c => !isLineBreak c

/-- Reads a URL. -/
def parse (text : String) : Except Fault Url :=
  match splitScheme? (cleaned text) with
  | none => .error .noScheme
  | some (schemeText, rest) =>
      let scheme := String.ofList schemeText
      match kindOf scheme with
      | .web => readHierarchy .web scheme (rest.dropWhile (isSlash .web))
      | .file => readFile rest
      | .other => readOther scheme rest

/-- The user name and the password as they are written. -/
def credentials (url : Url) : String :=
  if url.user = "" ∧ url.password = "" then ""
  else url.user ++ (if url.password = "" then "" else ":" ++ url.password) ++ "@"

/-- The authority as it is written, with its slashes. -/
def authority (url : Url) : String :=
  match url.host with
  | none => ""
  | some host =>
      "//" ++ url.credentials ++ host.text ++
        match url.port with
        | none => ""
        | some port => ":" ++ toString port

/-- The path with query, as a request names it. -/
def target (url : Url) : String :=
  url.path ++
    match url.query with
    | none => ""
    | some query => "?" ++ query

/-- The normal form. -/
def href (url : Url) : String :=
  url.scheme ++ ":" ++ url.authority ++ url.target ++
    match url.fragment with
    | none => ""
    | some fragment => "#" ++ fragment

end Url

end RouterTelemetry
