import SealedExchange.Http.Host

/-! # Urls

A url is read as browsers read it: blanks around it and line breaks in it do not count, backslashes
count as slashes in the usual schemes, dot segments are resolved, and what may not stand in a url is
escaped. A reference is read from the url that it stands in.

Not every url is a target that a request can be made for. `Address.isTarget` follows the stricter
grammar of targets.
-/

namespace SealedExchange.Http

/-- The part of a url that leads to a server. -/
structure Authority where
  /-- A name and perhaps a password, escaped, with the at sign behind it, or nothing. -/
  login : String := ""
  host : Host
  /-- The port, unless it is the usual one. -/
  port : Option Nat := none
deriving DecidableEq, Repr

/-- The path of a url. -/
inductive UrlPath
  /-- Segments, escaped, with a slash before each. -/
  | segments (segments : List String)
  /-- A text that is no path of segments. -/
  | plain (text : String)
deriving DecidableEq, Repr

/-- A url. -/
structure Address where
  scheme : String
  authority : Option Authority := none
  path : UrlPath
  query : Option String := none
  fragment : Option String := none
deriving DecidableEq, Repr

namespace Address

/-! ## What stands where -/

/-- The usual port of a scheme that leads to servers. -/
def usualPort? (scheme : String) : Option Nat :=
  [("http", 80), ("https", 443), ("ws", 80), ("wss", 443), ("ftp", 21)].lookup scheme

/-- Tests for a scheme with paths as browsers know them. -/
def isUsual (scheme : String) : Bool := (usualPort? scheme).isSome || scheme = "file"

/-- Tests for a slash; in the usual schemes there are two kinds. -/
def isSlash (usual : Bool) (c : Char) : Bool := c = '/' || (usual && c = '\\')

/-- Tests for a control character or a space. -/
def isControl (c : Char) : Bool := c.toNat ≤ 0x20

/-- The bytes that stand in a path as they are. -/
def keptInPath (b : UInt8) : Bool :=
  0x21 ≤ b && b ≤ 0x7e && b ∉ [0x22, 0x23, 0x3c, 0x3e, 0x3f, 0x60, 0x7b, 0x7d]

/-- The bytes that stand in a name or a password as they are. -/
def keptInLogin (b : UInt8) : Bool :=
  keptInPath b && b ∉ [0x2f, 0x3a, 0x3b, 0x3d, 0x40, 0x5b, 0x5c, 0x5d, 0x5e, 0x7c]

/-- The bytes that stand in a query as they are. -/
def keptInQuery (usual : Bool) (b : UInt8) : Bool :=
  0x21 ≤ b && b ≤ 0x7e && b ∉ [0x22, 0x23, 0x3c, 0x3e] && !(usual && b = 0x27)

/-- The bytes that stand in a fragment as they are. -/
def keptInFragment (b : UInt8) : Bool :=
  0x21 ≤ b && b ≤ 0x7e && b ∉ [0x22, 0x3c, 0x3e, 0x60]

/-- The bytes that stand in a text without segments as they are. -/
def keptInPlain (b : UInt8) : Bool := 0x20 ≤ b && b ≤ 0x7e

/-- Escapes the characters that may not be kept. -/
def escaped (keeps : UInt8 → Bool) (chars : List Char) : String :=
  Text.Percent.encodeWith keeps (String.ofList chars)

/-! ## Paths -/

/-- Tests for a segment that stands for its directory. -/
def isSingleDot (segment : String) : Bool := Text.lower segment ∈ [".", "%2e"]

/-- Tests for a segment that stands for the directory above its own. -/
def isDoubleDot (segment : String) : Bool :=
  Text.lower segment ∈ ["..", ".%2e", "%2e.", "%2e%2e"]

/-- Tests for a segment that names a drive. -/
def isDrive (segment : List Char) : Bool :=
  match segment with
  | [c, d] => c.isAlpha && (d = ':' || d = '|')
  | _ => false

/-- The directory above one that is given in reverse. There is none above a drive. -/
def above : List String → List String
  | [] => []
  | last :: rest => if isDrive last.toList then last :: rest else rest

/-- Resolves dot segments behind segments that are given in reverse. -/
def resolve (done : List String) : List String → List String
  | [] => done.reverse
  | [last] =>
    if isDoubleDot last then ("" :: above done).reverse
    else if isSingleDot last then ("" :: done).reverse
    else (last :: done).reverse
  | segment :: rest =>
    if isDoubleDot segment then resolve (above done) rest
    else if isSingleDot segment then resolve done rest
    else resolve (segment :: done) rest

/-- Cuts a path at its slashes. -/
def split (usual : Bool) (path : List Char) : List (List Char) :=
  Text.splitChars '/' (path.map fun c => if isSlash usual c then '/' else c)

/-- The segments of a path that goes on from a directory. -/
def segmentsFrom (usual : Bool) (directory : List String) (path : List Char) : List String :=
  resolve directory.reverse ((split usual path).map (escaped keptInPath))

/-- The path behind an authority. Only in the usual schemes there is always one. -/
def pathFrom (usual : Bool) : List Char → UrlPath
  | [] => .segments (if usual then [""] else [])
  | c :: rest => .segments (segmentsFrom usual [] (if isSlash usual c then rest else c :: rest))

/-! ## Authorities -/

/-- Cuts a host from the colon behind it. A colon between brackets belongs to the host. -/
def splitHost (bracketed : Bool) : List Char → List Char × List Char
  | [] => ([], [])
  | c :: rest =>
    if c = ':' ∧ !bracketed then ([], c :: rest)
    else
      let (host, port) :=
        splitHost (if c = '[' then true else if c = ']' then false else bracketed) rest
      (c :: host, port)

/-- Reads what stands behind a host: a port, perhaps an empty one, or nothing. -/
def readPort? : List Char → Option (Option Nat)
  | [] => some none
  | [_] => some none
  | _ :: digits => do
    let n ← Text.readDecimal? digits
    if n < Bytes.count 2 then some (some n) else none

/-- The login part with its at sign. A password that is empty has no colon before it. -/
def loginOf (chars : List Char) : String :=
  let (name, password) := (Text.splitOnceChars ':' chars).getD (chars, [])
  let text := escaped keptInLogin name ++
    (if password = [] then "" else ":" ++ escaped keptInLogin password)
  if text = "" then "" else text ++ "@"

/-- Reads an authority. -/
def authorityOf? (scheme : String) (chars : List Char) : Option Authority := do
  -- What stands before the last at sign is a name and a password.
  let place := (chars.reverse.takeWhile (· ≠ '@')).reverse
  let login := chars.take (chars.length - place.length - 1)
  let (hostChars, portChars) := splitHost false place
  let port ← readPort? portChars
  let host ←
    if isUsual scheme then Host.ofChars? hostChars
    else if hostChars = [] ∧ portChars ≠ [] then none
    else Host.ofPlainChars? hostChars
  some { login := loginOf login, host, port := if port = usualPort? scheme then none else port }

/-! ## Reading urls -/

/-- Gives a url the query and the fragment that follow its path. -/
def withEnd (a : Address) (rest : List Char) : Address :=
  let query := match rest with
    | '?' :: rest => some (escaped (keptInQuery (isUsual a.scheme)) (rest.takeWhile (· ≠ '#')))
    | _ => none
  let fragment := match rest.dropWhile (· ≠ '#') with
    | _ :: rest => some (escaped keptInFragment rest)
    | [] => none
  { a with query, fragment }

/-- Cuts a path from the query and the fragment. -/
def splitPath (chars : List Char) : List Char × List Char :=
  chars.span fun c => c ≠ '?' && c ≠ '#'

/-- Reads what follows two slashes. -/
def ofServer? (scheme : String) (chars : List Char) : Option Address := do
  let usual := isUsual scheme
  let (authority, rest) := chars.span fun c => !isSlash usual c && c ≠ '?' && c ≠ '#'
  let authority ← authorityOf? scheme authority
  let (path, rest) := splitPath rest
  some (withEnd { scheme, authority, path := pathFrom usual path } rest)

/-- Reads what follows the scheme of a local file. The machine itself is not named as the host, and
a drive is no host. -/
def ofFile? (chars : List Char) : Option Address := do
  let slashes := chars.takeWhile (isSlash true)
  let (host, rest) :=
    if 2 ≤ slashes.length then (chars.drop 2).span fun c => !isSlash true c && c ≠ '?' && c ≠ '#'
    else ([], chars)
  let (path, ending) := splitPath (if isDrive host then host ++ rest else rest)
  let startsAtDrive : Bool := match split true path with
    | [] :: first :: _ => isDrive first
    | first :: _ => isDrive first
    | [] => false
  let host ←
    if host = [] ∨ isDrive host then some (Host.name "")
    else (Host.ofChars? host).map fun h =>
      if h = .name "localhost" ∨ startsAtDrive then .name "" else h
  some (withEnd { scheme := "file", authority := some { host }, path := pathFrom true path } ending)

/-- Reads what follows a scheme that nothing is known about. -/
def ofUnknown? (scheme : String) (chars : List Char) : Option Address :=
  match chars with
  | '/' :: '/' :: rest => ofServer? scheme rest
  | '/' :: rest =>
    let (path, rest) := splitPath rest
    some (withEnd { scheme, path := .segments (segmentsFrom false [] path) } rest)
  | _ =>
    let (path, rest) := splitPath chars
    some (withEnd { scheme, path := .plain (escaped keptInPlain path) } rest)

/-- The segments of a path. -/
def segments (a : Address) : List String :=
  match a.path with
  | .segments segments => segments
  | .plain _ => []

/-- Reads a reference without a scheme that stands in a url of a usual scheme. -/
def ofReference? (base : Address) (chars : List Char) : Option Address :=
  let (path, rest) := splitPath chars
  let slashes := chars.takeWhile (isSlash true)
  match path with
  | [] =>
    let a := withEnd base rest
    some (if rest.head? = some '?' then a else { a with query := base.query })
  | c :: more =>
    if 2 ≤ slashes.length then
      ofServer? base.scheme
        (if slashes.take 2 = ['/', '/'] then chars.drop 2 else chars.drop slashes.length)
    else
      let segments :=
        if isSlash true c then segmentsFrom true [] more
        else segmentsFrom true base.segments.dropLast path
      some (withEnd { base with path := .segments segments } rest)

/-- Reads a scheme and its colon: the scheme in small letters and what follows. -/
def scheme? (chars : List Char) : Option (String × List Char) := do
  let (scheme, rest) ← Text.splitOnceChars ':' chars
  if scheme.head?.any Char.isAlpha ∧
      scheme.all (fun c => c.isAlphanum || c = '+' || c = '-' || c = '.') then
    some (Text.lower (String.ofList scheme), rest)
  else none

/-- The characters of a url that count. -/
def significant (text : String) : List Char :=
  (Text.dropEndWhile isControl (text.toList.dropWhile isControl)).filter (· ∉ ['\t', '\n', '\r'])

/-- Reads a url, or a reference that stands in another url. -/
def parse? (base : Option Address) (text : String) : Option Address :=
  let chars := significant text
  match scheme? chars with
  | none => base.bind fun base => ofReference? base chars
  | some (scheme, rest) =>
    if scheme = "file" then ofFile? rest
    else if isUsual scheme then
      let slashes := rest.takeWhile (isSlash true)
      match base with
      | some base =>
        if slashes.length < 2 ∧ base.scheme = scheme then ofReference? base rest
        else ofServer? scheme (rest.drop slashes.length)
      | none => ofServer? scheme (rest.drop slashes.length)
    else ofUnknown? scheme rest

/-! ## Writing urls -/

/-- The text of an authority. -/
def renderAuthority (a : Authority) : String :=
  a.login ++ a.host.render ++ (a.port.elim "" fun n => ":" ++ Text.decimal n)

/-- The text of a path. -/
def renderPath (a : Address) : String :=
  match a.path with
  | .segments segments => Text.join "" (segments.map ("/" ++ ·))
  | .plain text => text

/-- The target that a request for a url asks for. -/
def target (a : Address) : String := a.renderPath ++ a.query.elim "" ("?" ++ ·)

/-- The text of a url. -/
def render (a : Address) : String :=
  a.scheme ++ ":" ++ a.authority.elim "" (fun authority => "//" ++ renderAuthority authority) ++
    a.target ++ a.fragment.elim "" ("#" ++ ·)

/-! ## Targets of requests -/

/-- The longest text of a target. -/
def maxLength : Nat := 65534

/-- The longest scheme of a target. -/
def maxSchemeLength : Nat := 64

/-- What has been seen of the authority of a target. -/
structure Seen where
  /-- Colons since the last at sign or closing bracket. -/
  colons : Nat := 0
  opened : Bool := false
  closed : Bool := false
  /-- An escape since the last at sign or closing bracket. -/
  escape : Bool := false
  endsInAt : Bool := false

/-- Takes a character of an authority into account, if it may stand there. -/
def Seen.next (s : Seen) (c : Char) : Option Seen :=
  let s := { s with endsInAt := c = '@' }
  if c = ':' then if s.colons < 8 then some { s with colons := s.colons + 1 } else none
  else if c = '[' then if s.escape || s.opened then none else some { s with opened := true }
  else if c = ']' then
    if s.opened && !s.closed then some { s with closed := true, colons := 0, escape := false }
    else none
  else if c = '@' then some { s with colons := 0, escape := false }
  else if c = '%' then some { s with escape := true }
  else if c.toNat ≤ 0x20 || c.toNat = 0x7f ||
      c ∈ ['"', '<', '>', '\\', '^', '\x60', '\x7b', '|', '\x7d'] then
    none
  else some s

/-- Tests for the authority of a target. -/
def isTargetAuthority (text : String) : Bool :=
  match text.toList.foldlM Seen.next {} with
  | none => false
  | some s => s.opened = s.closed && s.colons ≤ 1 && !s.endsInAt && !s.escape

/-- Tests for a url that a request can be made for, or a text that could be a host and a port. -/
def isTarget (a : Address) : Bool :=
  a.render.utf8ByteSize ≤ maxLength &&
    match a.authority with
    | some authority =>
      let text := renderAuthority authority
      text ≠ "" && a.scheme.length ≤ maxSchemeLength && isTargetAuthority text
    | none => !(a.render.toList.any (· ∈ ['/', '?', '#'])) && isTargetAuthority a.render

end Address

end SealedExchange.Http
