-- SUMMARY: Web addresses: reading, normal form, and queries as form fields.
import SymbolIndex.Text.Names
import SymbolIndex.Web.Host

/-! # Web addresses

An address is read leniently and written in its normal form: scheme and host in
lower case, no default port, no dot segments, and percent escapes for what may
not stand in an address. Schemes of the web need a host and take backslashes for
slashes. -/

namespace SymbolIndex

/-- Who is asked for, and where. -/
structure Authority where
  /-- Percent escapes included, as in the password. -/
  user : String := ""
  password : Option String := none
  /-- Empty if the address names none. -/
  host : String
  /-- Unless it is the default of the scheme. -/
  port : Option Nat := none
  deriving DecidableEq, Repr

/-- An address in normal form. -/
structure Url where
  scheme : String
  authority : Option Authority
  path : String
  query : Option String := none
  fragment : Option String := none
  deriving DecidableEq, Repr

namespace Url

/-! ## Schemes -/

inductive SchemeKind where
  /-- Addresses of files. -/
  | file
  /-- Other addresses that have a normal form of their own. -/
  | special
  | plain
  deriving DecidableEq, Repr

/-- The ports of the special schemes. -/
def defaultPorts : List (String × Nat) :=
  [("http", 80), ("https", 443), ("ws", 80), ("wss", 443), ("ftp", 21)]

def defaultPort? (scheme : String) : Option Nat := defaultPorts.lookup scheme

def kindOf (scheme : String) : SchemeKind :=
  if scheme = "file" then .file
  else if (defaultPort? scheme).isSome then .special
  else .plain

def isSchemeChar (c : Char) : Bool := c.isAlphanum || c = '+' || c = '-' || c = '.'

/-- The scheme in lower case and what follows its colon. -/
def splitScheme? (cs : List Char) : Option (String × List Char) :=
  match cs.head?, cs.dropWhile isSchemeChar with
  | some c, ':' :: rest =>
      if c.isAlpha then some (Text.lowerAscii (.ofList (cs.takeWhile isSchemeChar)), rest) else none
  | _, _ => none

/-! ## Paths -/

def isSlash (kind : SchemeKind) (c : Char) : Bool := c = '/' || (c = '\\' && kind ≠ .plain)

/-- A segment with its dots spelled out. -/
def spelledDots : List Char → List Char
  | '%' :: '2' :: e :: rest =>
      if e = 'e' || e = 'E' then '.' :: spelledDots rest else '%' :: '2' :: e :: spelledDots rest
  | c :: rest => c :: spelledDots rest
  | [] => []

/-- A letter and a colon, or a bar in place of it. -/
def isDrive (cs : List Char) : Bool :=
  match cs with
  | [c, d] => c.isAlpha && (d = ':' || d = '|')
  | _ => false

/-- Adds a segment to those of a path, the last of which come first. Dot
segments go up, but never out of a drive, or stay; at the end they leave an
empty segment. -/
def addSegment (done : List String) (segment : List Char) (isLast : Bool) : List String :=
  let opened := if isLast then [""] else []
  if spelledDots segment = ['.', '.'] then
    opened ++ if done.head?.any (isDrive ·.toList) then done else done.drop 1
  else if spelledDots segment = ['.'] then opened ++ done
  else Escape.text Escape.inPath segment :: done

def addSegments (done : List String) : List (List Char) → List String
  | [] => done
  | [last] => addSegment done last true
  | segment :: rest => addSegments (addSegment done segment false) rest

/-- The segments of a file's path. Empty ones in front do not count, and a drive
is written with a colon. -/
def fileSegments (segments : List String) : List String :=
  match segments.dropWhile (· = "") with
  | [] => [""]
  | first :: rest =>
      if isDrive first.toList then .ofList (first.toList.take 1 ++ [':']) :: rest else first :: rest

/-- The normal form of a path, which may lack the slash in front. -/
def normalPath (kind : SchemeKind) (cs : List Char) : String :=
  let cs := if cs.head?.any (isSlash kind) then cs.drop 1 else cs
  let parts := Text.splitAt '/' (cs.map fun c => if isSlash kind c then '/' else c)
  let segments := (addSegments [] parts).reverse
  "/" ++ "/".intercalate (if kind = .file then fileSegments segments else segments)

/-! ## Authority -/

/-- Host and port as written, the port with its colon. -/
def splitPort (cs : List Char) : List Char × List Char :=
  let bracketed := if cs.head? = some '[' then cs.takeWhile (· ≠ ']') else []
  let rest := cs.drop bracketed.length
  (bracketed ++ rest.takeWhile (· ≠ ':'), rest.dropWhile (· ≠ ':'))

/-- The number of a port, none if it is left out. The outer option says whether
it is one. -/
def portNumber? (digits : List Char) : Option (Option Nat) :=
  if digits.isEmpty then some none
  else (Text.digits? 10 digits).bind fun n => if 65535 < n then none else some (some n)

/-- User and password, in front of the last `@`, and what follows it. Either may
be missing; an empty password does not count. -/
def splitUser (cs : List Char) : Option (String × Option String) × List Char :=
  if '@' ∈ cs then
    let behind := (cs.reverse.takeWhile (· ≠ '@')).reverse
    let written := cs.take (cs.length - behind.length - 1)
    let escaped := Escape.text Escape.inUser
    let password := (written.dropWhile (· ≠ ':')).drop 1
    (some (escaped (written.takeWhile (· ≠ ':')),
      if password.isEmpty then none else some (escaped password)), behind)
  else (none, cs)

/-- An authority, and what stands behind its port and is no part of it. Only
plain addresses can do without a host, and then they name no user or port. -/
def authority? (scheme : String) (cs : List Char) : Option (Authority × List Char) := do
  let kind := kindOf scheme
  let (account?, cs) := splitUser cs
  let (host, port) := splitPort cs
  let digits := (port.drop 1).takeWhile Char.isDigit
  let rest := (port.drop 1).dropWhile Char.isDigit
  if host.isEmpty && (kind ≠ .plain || !port.isEmpty || (account?.isSome && account? ≠ some ("", none)))
  then none
  if !rest.isEmpty && rest.head? ≠ some '\\' then none
  let host ← Host.read? (kind ≠ .plain) host
  let port ← portNumber? digits
  let (user, password) := account?.getD ("", none)
  return ({ user, password, host, port := port.filter (some · ≠ defaultPort? scheme) }, rest)

/-! ## Reading -/

/-- The text without control characters and blanks around it, and without line
breaks and tabs. -/
def cleaned (cs : List Char) : List Char :=
  let isBlank (c : Char) : Bool := c.toNat ≤ 0x20
  let trimmed := ((cs.dropWhile isBlank).reverse.dropWhile isBlank).reverse
  trimmed.filter fun c => c ≠ '\t' && c ≠ '\n' && c ≠ '\r'

def isTail (c : Char) : Bool := c = '?' || c = '#'

/-- The host of a file and its path. This machine has no name, and a drive is no
host. -/
def readFile? (cs : List Char) : Option Url := do
  let isHere := isSlash .file
  let behind := if cs.head?.any isHere && (cs.drop 1).head?.any isHere then cs.drop 2 else []
  let written := behind.takeWhile fun c => !isHere c
  if written.isEmpty || isDrive written then
    return { scheme := "file", authority := some { host := "" },
             path := normalPath .file (if written.isEmpty then cs else behind) }
  let host ← Host.read? true written
  let path := normalPath .file (behind.drop written.length)
  let isLost := host = "localhost" || isDrive ((path.toList.drop 1).takeWhile (· ≠ '/'))
  return { scheme := "file", path, authority := some { host := if isLost then "" else host } }

/-- An address whose authority starts here. -/
def readAuthority? (scheme : String) (cs : List Char) : Option Url := do
  let kind := kindOf scheme
  let written := cs.takeWhile fun c => !isSlash kind c
  let (authority, left) ← authority? scheme written
  let path := left ++ cs.drop written.length
  return { scheme, authority := some authority,
           path := if kind = .plain && path.isEmpty then "" else normalPath kind path }

/-- The address without query and fragment. -/
def readBody? (scheme : String) (cs : List Char) : Option Url :=
  match kindOf scheme, cs with
  | .file, cs => readFile? cs
  | .special, cs => readAuthority? scheme (cs.dropWhile (isSlash .special))
  | .plain, '/' :: '/' :: rest => readAuthority? scheme rest
  | .plain, '/' :: rest => some { scheme, authority := none, path := normalPath .plain rest }
  | .plain, cs => some { scheme, authority := none, path := Escape.text [] cs }

/-- Query and fragment, behind the path. -/
def splitTail (kind : SchemeKind) (cs : List Char) : Option String × Option String :=
  let beforeHash := cs.takeWhile (· ≠ '#')
  let inQuery := if kind = .plain then Escape.inQuery else Char.ofNat 0x27 :: Escape.inQuery
  let query := if beforeHash.head? = some '?' then
    some (Escape.text inQuery (beforeHash.drop 1)) else none
  let fragment := if beforeHash.length < cs.length then
    some (Escape.text Escape.inFragment (cs.drop (beforeHash.length + 1))) else none
  (query, fragment)

/-- The address that a text stands for. -/
def parse? (text : String) : Option Url := do
  let (scheme, rest) ← splitScheme? (cleaned text.toList)
  let url ← readBody? scheme (rest.takeWhile fun c => !isTail c)
  let (query, fragment) := splitTail (kindOf scheme) (rest.dropWhile fun c => !isTail c)
  return { url with query, fragment }

/-! ## Writing -/

/-- The host, empty if the address has none. -/
def host (u : Url) : String := (u.authority.map (·.host)).getD ""

/-- The port to connect to. -/
def port? (u : Url) : Option Nat := (u.authority.bind (·.port)).or (defaultPort? u.scheme)

/-- Path and query, as they stand in a request. -/
def target (u : Url) : String := u.path ++ (u.query.map ("?" ++ ·)).getD ""

end Url

def Authority.render (a : Authority) : String :=
  let password := (a.password.map (":" ++ ·)).getD ""
  let account := a.user ++ password
  (if account = "" then "" else account ++ "@") ++ a.host ++
    (a.port.map fun n => ":" ++ toString n).getD ""

namespace Url

/-- The normal form. A path that starts with two slashes could be taken for an
authority if there is none. -/
def render (u : Url) : String :=
  let front := match u.authority with
    | some a => "//" ++ a.render
    | none => if "//".toList.isPrefixOf u.path.toList then "/." else ""
  u.scheme ++ ":" ++ front ++ u.target ++ (u.fragment.map ("#" ++ ·)).getD ""

/-- Longest address that a request takes, in bytes. -/
def lengthLimit : Nat := 65534

/-- The address is one that requests can be sent to. A host name may have some
characters that no request can, and there is a limit to the length. -/
def isRequestable (u : Url) : Bool :=
  (u.scheme = "http" || u.scheme = "https") &&
    !u.host.toList.any ['"', Char.ofNat 0x60, '\x7b', '\x7d'].contains &&
    u.render.utf8ByteSize ≤ lengthLimit

/-! ## Changes -/

/-- Adds form fields to the query, in order. -/
def addFields (u : Url) (fields : List (String × String)) : Url :=
  let pairs := fields.map fun (key, value) => Escape.formField key ++ "=" ++ Escape.formField value
  let all := (u.query.filter (· ≠ "")).toList ++ pairs
  if fields.isEmpty then u
  else { u with query := some ("&".intercalate all) }

/-- The address without user and password, unless the one that counts is not
text. -/
def withoutUser (u : Url) : Url :=
  let isText (s : String) : Bool := (Utf8.decode? (Escape.undo s.toList)).isSome
  let drop (a : Authority) : Authority :=
    if isText a.user && (a.user ≠ "" || a.password.any isText) then
      { a with user := "", password := none }
    else a
  { u with authority := u.authority.map drop }

end Url

end SymbolIndex
