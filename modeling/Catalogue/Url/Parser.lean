import Catalogue.Report
import Catalogue.Url.Host
import Catalogue.Url.Path

namespace Catalogue

structure Url where
  scheme : String
  username : String
  password : Option String
  host : Option Url.Host
  port : Option Nat
  path : Url.UrlPath
  query : Option String
  fragment : Option String
  deriving Repr, DecidableEq

namespace Url

def isSpecial (scheme : String) : Bool :=
  ["http", "https", "ws", "wss", "ftp", "file"].contains scheme

def defaultPort? (scheme : String) : Option Nat :=
  match scheme with
  | "http" | "ws" => some 80
  | "https" | "wss" => some 443
  | "ftp" => some 21
  | _ => none

def credentialsText (u : Url) : String :=
  match u.password with
  | some password => u.username ++ ":" ++ password ++ "@"
  | none => if u.username.isEmpty then "" else u.username ++ "@"

/-- What stands between scheme and path. A path that starts with two slashes is kept from being
taken for an authority. -/
def authorityText (u : Url) : String :=
  match u.host with
  | some host =>
    "//" ++ u.credentialsText ++ host.text ++ (u.port.elim "" fun p => ":" ++ toString p)
  | none => if u.path.text.startsWith "//" then "/." else ""

def text (u : Url) : String :=
  u.scheme ++ ":" ++ u.authorityText ++ u.path.text ++ (u.query.elim "" ("?" ++ ·)) ++
    (u.fragment.elim "" ("#" ++ ·))

def withTrailingSlash (u : Url) : Url :=
  if u.path.text.endsWith "/" then u else { u with path := u.path.withSlash (u.scheme == "file") }

open Text

def escapesUserinfo (c : Char) : Bool :=
  escapesPath c || c == '/' || c == ':' || c == ';' || c == '=' || c == '@' || c == '[' ||
    c == '\\' || c == ']' || c == '^' || c == '|'

def escapesQuery (special : Bool) (c : Char) : Bool :=
  isControl c || c == ' ' || c == '"' || c == '#' || c == '<' || c == '>' || (special && c == '\'')

def trimmed (cs : List Char) : List Char :=
  let isOuter (c : Char) : Bool := c.toNat ≤ 0x20
  ((cs.dropWhile isOuter).reverse.dropWhile isOuter).reverse

def scheme? (cs : List Char) : Option (String × List Char) :=
  let isPart (c : Char) := c.isAlphanum || c == '+' || c == '-' || c == '.'
  match cs.head?.filter Char.isAlpha, cs.dropWhile isPart with
  | some _, ':' :: rest => some (String.ofList ((cs.takeWhile isPart).map Char.toLower), rest)
  | _, _ => none

/-! ## Paths -/

def isPathEnd (c : Char) : Bool := c == '?' || c == '#'

def readSegments (scheme : String) (cs : List Char) : Segments × List Char :=
  let body := cs.takeWhile fun c => !isPathEnd c
  let slashed := if isSpecial scheme then body.map fun c => if c = '\\' then '/' else c else body
  (segmentsFrom (scheme == "file") [] false (cutAt '/' slashed), cs.dropWhile fun c => !isPathEnd c)

/-- The path after an authority. A scheme of the web has at least the root. -/
def readPath (scheme : String) (cs : List Char) : Segments × List Char :=
  match cs with
  | '/' :: rest => readSegments scheme rest
  | '\\' :: rest => readSegments scheme (if isSpecial scheme then rest else cs)
  | [] | '?' :: _ | '#' :: _ =>
    if isSpecial scheme then readSegments scheme cs else (⟨[], false⟩, cs)
  | _ => readSegments scheme cs

def withoutLeadingEmpty (names : List String) : List String :=
  let names := names.dropWhile (·.isEmpty)
  if names.isEmpty then [""] else names

/-! ## Parts -/

def finish (u : Url) (cs : List Char) : Url :=
  let queried := match cs with
    | '?' :: rest =>
      let body := rest.takeWhile (· ≠ '#')
      { u with query := some (escaped (escapesQuery (isSpecial u.scheme)) body) }
    | _ => u
  match cs.dropWhile (· ≠ '#') with
  | '#' :: rest => { queried with fragment := some (escaped escapesFragment rest) }
  | _ => queried

def build (scheme username : String) (password : Option String) (host : Option Host)
    (port : Option Nat) (path : UrlPath) (rest : List Char) : Url :=
  finish ⟨scheme, username, password, host, port, path, none, none⟩ rest

def cutLastAt (cs : List Char) : Option (List Char × List Char) :=
  let after := (cs.reverse.takeWhile (· ≠ '@')).reverse
  if after.length = cs.length then none
  else some (cs.take (cs.length - after.length - 1), after)

def cutHost (inside : Bool) : List Char → List Char × List Char
  | [] => ([], [])
  | c :: cs =>
    if c = ':' ∧ !inside then ([], c :: cs)
    else
      let (host, rest) := cutHost (if c = '[' then true else if c = ']' then false else inside) cs
      (c :: host, rest)

def usernameOf (cs : List Char) : String := escaped escapesUserinfo (cs.takeWhile (· ≠ ':'))

def passwordOf? (cs : List Char) : Option String :=
  match cs.dropWhile (· ≠ ':') with
  | _ :: c :: rest => some (escaped escapesUserinfo (c :: rest))
  | _ => none

def portOf? (scheme : String) (digits : List Char) : Except Fault (Option Nat) :=
  let n := decimalValue digits
  if 65535 < n then .error .invalidPort
  else .ok (if digits.isEmpty || defaultPort? scheme == some n then none else some n)

def parseAuthority (scheme : String) (cs : List Char) : Except Fault Url := do
  let special := isSpecial scheme
  let isEnd (c : Char) : Bool := c == '/' || isPathEnd c || (special && c == '\\')
  let authority := cs.takeWhile fun c => !isEnd c
  let tail := cs.dropWhile fun c => !isEnd c
  let (userinfo, hostAndPort) := (cutLastAt authority).getD ([], authority)
  if (cutLastAt authority).isSome && userinfo.isEmpty && hostAndPort.isEmpty && !tail.isEmpty then
    throw .emptyHost
  let (hostText, rest) := cutHost false hostAndPort
  if special && hostText.isEmpty then throw .emptyHost
  let host ← if special then Host.parse hostText else Host.parseOther hostText
  if hostText.isEmpty && !rest.isEmpty then throw .emptyHost
  let (digits, after) := (rest.tail.takeWhile isDigit, rest.tail.dropWhile isDigit)
  let port ← portOf? scheme digits
  if !after.isEmpty && after.head? != some '\\' then throw .invalidPort
  let user := usernameOf userinfo
  let password := passwordOf? userinfo
  if hostText.isEmpty && (!user.isEmpty || password.isSome) then throw .emptyHost
  let (path, rest) := readPath scheme (after ++ tail)
  pure (build scheme user password (some host) port (.segments path.names) rest)

def isSlash (c : Char) : Bool := c == '/' || c == '\\'

def afterSlash? (cs : List Char) : Option (List Char) :=
  match cs.dropWhile isBreak with
  | c :: rest => if isSlash c then some rest else none
  | [] => none

/-- The URL of a file on a host. A host is dropped where the path starts with a drive. -/
def onHost (host : Host) (read : Segments × List Char) : Url :=
  let (path, rest) := read
  let host := if path.hasDrive then .domain "" else host
  build "file" "" none (some host) none (.segments (withoutLeadingEmpty path.names))
    (withoutBreaks rest)

/-- The URL of a file from its host on. A drive in place of the host belongs to the path, and so
does the slash after no host at all. -/
def parseFileHost (cs : List Char) : Except Fault Url := do
  let isEnd (c : Char) : Bool := isSlash c || isPathEnd c
  let hostText := withoutBreaks (cs.takeWhile fun c => !isEnd c)
  let tail := cs.dropWhile fun c => !isEnd c
  if isDriveLetter hostText then pure (onHost (.domain "") (readSegments "file" cs))
  else if hostText.isEmpty then pure (onHost (.domain "") (readSegments "file" tail))
  else
    let host ← Host.parse hostText
    pure (onHost (if host = .domain "localhost" then .domain "" else host) (readPath "file" tail))

def parseFile (cs : List Char) : Except Fault Url :=
  match afterSlash? cs with
  | none => .ok (onHost (.domain "") (readSegments "file" cs))
  | some rest =>
    match afterSlash? rest with
    | none => .ok (onHost (.domain "") (readSegments "file" rest))
    | some rest => parseFileHost rest

def parseRest (scheme : String) (cs : List Char) : Except Fault Url :=
  if isSpecial scheme then parseAuthority scheme (cs.dropWhile isSlash)
  else match cs with
    | '/' :: '/' :: rest => parseAuthority scheme rest
    | '/' :: rest =>
      let (path, rest) := readSegments scheme rest
      .ok (build scheme "" none none none (.segments path.names) rest)
    | _ =>
      let path := UrlPath.undivided (escaped isControl (cs.takeWhile fun c => !isPathEnd c))
      .ok (build scheme "" none none none path (cs.dropWhile fun c => !isPathEnd c))

def parse (text : String) : Except Fault Url :=
  let cs := trimmed text.toList
  match scheme? (withoutBreaks cs) with
  | none => .error .relative
  | some (scheme, rest) =>
    if scheme = "file" then parseFile (cs.dropWhile (· ≠ ':')).tail else parseRest scheme rest

def parseBase (raw : String) : Except Error Url :=
  match parse raw with
  | .ok u => .ok u.withTrailingSlash
  | .error fault => .error (.invalidUrl fault.message)

end Url

end Catalogue
