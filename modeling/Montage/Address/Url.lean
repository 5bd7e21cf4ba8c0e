import Montage.Address.Name
import Montage.Address.Reference
import Montage.Text.Case
import Montage.Text.Numeral

/-!
# Network addresses

An address is taken apart, every part is brought into its usual form, and it is written again: the
scheme and the host in lower case, the port left out where the scheme implies it, dot segments
removed, unsafe characters percent coded, names of other scripts in their ASCII form.

* `Url.ofText` — the address of a text, or what is wrong with it.
* `Url.text` — its usual form.
* `Url.withHost`, `Url.withFragment` — an address with one part replaced, which is **checked anew**.
* `Url.target` — where a location leads from an address.
-/

namespace Montage

/-- An address that was read and brought into its usual form: names in lower case, the port of the
scheme left out, dots in the path resolved, and everything percent-encoded that has to be. -/
structure Url where
  scheme : String := ""
  userinfo : String := ""
  host : String := ""
  port : Option Int := none
  path : String := ""
  query : Option String := none
  fragment : Option String := none
  deriving DecidableEq

/-- What is wrong with an address.  `part` is the part that was put in, if it was one. -/
inductive UrlProblem where
  | tooLong (part : Option String)
  | unprintable (part : Option String) (code place : Nat)
  | badIpv4 (host : String)
  | badIpv6 (host : String)
  | badName (host : String)
  | badPort (port : String)
  | pathAfterHost
  | relativeSlashes
  | relativeColon
  | unencodable (problem : Text.EncodingProblem)
  deriving DecidableEq

namespace UrlProblem

/-- What is said about an address that cannot be read. -/
def message : UrlProblem → String
  | tooLong none => "URL too long"
  | tooLong (some part) => s!"URL component '{part}' too long"
  | unprintable part n place =>
    let within := match part with
      | some part => s!" {part} component"
      | none => ""
    s!"Invalid non-printable ASCII character in URL{within}, {Text.quotedCodes [n]} at "
      ++ s!"position {place}."
  | badIpv4 host => "Invalid IPv4 address: " ++ Text.quoted host
  | badIpv6 host => "Invalid IPv6 address: " ++ Text.quoted host
  | badName host => "Invalid IDNA hostname: " ++ Text.quoted host
  | badPort port => "Invalid port: " ++ Text.quoted port
  | pathAfterHost => "For absolute URLs, path must be empty or begin with '/'"
  | relativeSlashes => "Relative URLs cannot have a path starting with '//'"
  | relativeColon => "Relative URLs cannot have a path starting with ':'"
  | unencodable p => p.message

/-- A problem as a fault: text without bytes is a problem of its own. -/
def fault : UrlProblem → Fault
  | unencodable p => .unencodable p
  | p => .http .invalidAddress p.message

end UrlProblem

namespace Url

/-! ## Which characters stand for themselves -/

/-- Printable ASCII characters but these. -/
def printableBut (excluded : String) (c : Char) : Bool :=
  0x20 ≤ c.toNat && c.toNat < 0x7F && !excluded.toList.contains c

/-- What may stand in a fragment as it is. -/
def fragmentSafe : Char → Bool := printableBut " \"<>\x60"

/-- What may stand in a query as it is. -/
def querySafe : Char → Bool := printableBut " \"#<>"

/-- What may stand in a path as it is. -/
def pathSafe : Char → Bool := printableBut " \"#<>?\x60\x7b\x7d"

/-- What may stand before the `@` as it is; the marks that part an address are not among it. -/
def userinfoSafe : Char → Bool := printableBut " \"#<>?\x60\x7b\x7d/;=@[\\]^|"

/-- What may stand in the name of a host besides letters, digits and the marks of names. -/
def hostSafe (c : Char) : Bool := "!$&'()*+,;=\"\x60\x7b\x7d%|\\".toList.contains c

/-- A part of an address with everything percent-encoded that is not safe there.  An encoding that
is there already stays. -/
def encoded (safe : Char → Bool) (cs : List Char) : Except UrlProblem String :=
  match Percent.encode safe cs with
  | .ok form => .ok (String.ofList form)
  | .error p => .error (.unencodable p)

/-! ## Hosts -/

/-- One character on in a row of four numbers with any character between two of them.  Even states
await a number, odd ones are inside it. -/
def numericStep (isDigit : Bool) (state : Nat) : List Nat :=
  (if isDigit then [if state % 2 = 0 then state + 1 else state] else [])
    ++ (if state % 2 = 1 && state < 7 then [state + 1] else [])

/-- Whether a host looks like four numbers. -/
def looksNumeric (cs : List Char) : Bool :=
  let states := cs.foldl (fun states c =>
    (states.flatMap (numericStep c.isDigit)).eraseDups) [0]
  states.contains 7

/-- The usual form of a host. -/
def readHost (cs : List Char) : Except UrlProblem String :=
  let host := String.ofList cs
  if cs.isEmpty then .ok ""
  else if looksNumeric cs then
    if Host.isIpv4 cs then .ok host else .error (.badIpv4 host)
  else if cs.head? = some '[' && cs.getLast? = some ']' then
    let inner := (cs.drop 1).dropLast
    if Host.isIpv6 inner then .ok (String.ofList inner) else .error (.badIpv6 host)
  else if cs.all Percent.isAscii then encoded hostSafe (cs.map Char.toLower)
  else match Name.encode (Text.lower (Text.codes cs)) with
    | .ok form => .ok (String.ofList form)
    | .error _ => .error (.badName host)

/-- The code points of a host, a name in ASCII form being read. -/
def hostCodes (u : Url) : Except NameProblem (List Nat) :=
  let cs := u.host.toList
  if Name.leading.isPrefixOf cs then Name.decode cs else .ok (Text.codes cs)

/-- A host as it stands in an address: brackets surround colons. -/
def bracketed (host : String) : String :=
  if host.toList.contains ':' then "[" ++ host ++ "]" else host

/-! ## Parts -/

/-- An address in parts that are not yet in their usual form. -/
structure Parts where
  scheme : List Char
  userinfo : List Char
  host : List Char
  port : List Char
  path : List Char
  query : Option (List Char)
  fragment : Option (List Char)

/-- The ports that schemes imply. -/
def impliedPorts : List (String × Int) :=
  [("ftp", 21), ("http", 80), ("https", 443), ("ws", 80), ("wss", 443)]

/-- Reads a port.  The port that goes without saying is left out. -/
def readPort (scheme : String) (cs : List Char) : Except UrlProblem (Option Int) :=
  if cs.isEmpty then .ok none
  else match Text.Numeral.integer cs with
    | .ok n => .ok (if impliedPorts.lookup scheme = some n then none else some n)
    | .error _ => .error (.badPort (String.ofList cs))

/-- A path after a host begins with a slash; one without a host must not be taken for a host or a
scheme. -/
def checkPath (hasScheme hasAuthority : Bool) (path : List Char) : Except UrlProblem Unit :=
  let rooted := path.head? = some '/'
  if hasAuthority && !path.isEmpty && !rooted then .error .pathAfterHost
  else if !hasScheme && !hasAuthority && rooted && path[1]? = some '/' then .error .relativeSlashes
  else if !hasScheme && !hasAuthority && path.head? = some ':' then .error .relativeColon
  else .ok ()

/-- Segments without `.` and `..`; nothing lies above the root. -/
def withoutDots (output : List (List Char)) : List (List Char) → List (List Char)
  | [] => output
  | segment :: rest =>
    if segment = ['.'] then withoutDots output rest
    else if segment = ['.', '.'] then
      withoutDots (if output = [[]] then output else output.dropLast) rest
    else withoutDots (output ++ [segment]) rest

/-- A path without the segments `.` and `..`; one that has none stays as it is. -/
def normalPath (path : List Char) : List Char :=
  let segments := Text.splitAt '/' path
  if segments.contains ['.'] || segments.contains ['.', '.'] then
    ['/'].intercalate (withoutDots [] segments)
  else path

/-- A part in its usual form, if it is there. -/
def encodedPart (safe : Char → Bool) : Option (List Char) → Except UrlProblem (Option String)
  | none => .ok none
  | some cs => (encoded safe cs).map some

/-- The address of parts. -/
def Parts.url (p : Parts) : Except UrlProblem Url := do
  let userinfo ← encoded userinfoSafe p.userinfo
  let host ← readHost p.host
  let port ← readPort (String.ofList p.scheme) p.port
  let scheme := String.ofList (p.scheme.map Char.toLower)
  let hasScheme := scheme ≠ ""
  let hasAuthority := userinfo ≠ "" || host ≠ "" || port.isSome
  checkPath hasScheme hasAuthority p.path
  let path := if hasScheme || hasAuthority then normalPath p.path else p.path
  let path ← encoded pathSafe path
  let query ← encodedPart querySafe p.query
  let fragment ← encodedPart fragmentSafe p.fragment
  return { scheme, userinfo, host, port, path, query, fragment }

/-! ## Reading -/

/-- The text after the last occurrence of a character, and the text before it if it occurs. -/
def cutAtLast (c : Char) (cs : List Char) : Option (List Char) × List Char :=
  match Text.cutAt c cs.reverse with
  | (after, some before) => (some before.reverse, after.reverse)
  | (after, none) => (none, after.reverse)

/-- Host and port: a host in brackets may hold colons. -/
def splitHost (cs : List Char) : List Char × List Char :=
  let dropColon : List Char → List Char
    | ':' :: rest => rest
    | rest => rest
  match cs with
  | '[' :: _ =>
    match cutAtLast ']' cs with
    | (some before, after) => (before ++ [']'], dropColon after)
    | (none, _) => (cs.takeWhile (· ≠ ':'), (cs.dropWhile (· ≠ ':')).drop 1)
  | _ => (cs.takeWhile (· ≠ ':'), (cs.dropWhile (· ≠ ':')).drop 1)

/-- The scheme is a letter and what may follow it, up to the first colon; it may also be missing
before a colon. -/
def splitScheme (cs : List Char) : List Char × List Char :=
  match Text.cutAt ':' cs with
  | ([], some after) => ([], after)
  | (c :: before, some after) =>
    if c.isAlpha && before.all Reference.isSchemeChar then (c :: before, after) else ([], cs)
  | _ => ([], cs)

/-- A text cut at the marks of an address. -/
def Parts.ofChars (cs : List Char) : Parts :=
  let (scheme, rest) := splitScheme cs
  let (rest, fragment) := Text.cutAt '#' rest
  let (rest, query) := Text.cutAt '?' rest
  let (authority, path) := match rest with
    | '/' :: '/' :: after => (after.takeWhile (· ≠ '/'), after.dropWhile (· ≠ '/'))
    | rest => ([], rest)
  let (userinfo, hostPort) := cutAtLast '@' authority
  let (host, port) := splitHost hostPort
  { scheme, userinfo := userinfo.getD [], host, port, path, query, fragment }

/-- How long an address may be, in characters. -/
def lengthLimit : Nat := 65536

/-- The first ASCII character that cannot be printed, and its place. -/
def unprintable? (place : Nat) : List Nat → Option (Nat × Nat)
  | [] => none
  | n :: rest => if n < 0x20 || n = 0x7F then some (n, place) else unprintable? (place + 1) rest

/-- A text, or a part of an address, can be printed and is not too long. -/
def checkText (part : Option String) (cs : List Char) : Except UrlProblem Unit :=
  let ns := Text.codes cs
  if lengthLimit < ns.length then .error (.tooLong part)
  else match unprintable? 0 ns with
    | some (n, place) => .error (.unprintable part n place)
    | none => .ok ()

/-- Reads an address. -/
def ofText (text : String) : Except UrlProblem Url := do
  checkText none text.toList
  (Parts.ofChars text.toList).url

/-! ## Writing -/

/-- Host and port. -/
def site (u : Url) : String :=
  bracketed u.host ++ match u.port with
    | some n => s!":{n}"
    | none => ""

/-- What stands after the two slashes. -/
def authority (u : Url) : String := (if u.userinfo = "" then "" else u.userinfo ++ "@") ++ u.site

/-- A part with the mark before it, if it is there. -/
def marked (mark : String) : Option String → String
  | some part => mark ++ part
  | none => ""

/-- An address as a text: the parts that it has, each with its mark. -/
def text (u : Url) : String :=
  (if u.scheme = "" then "" else u.scheme ++ ":")
    ++ (if u.authority = "" then "" else "//" ++ u.authority)
    ++ u.path ++ marked "?" u.query ++ marked "#" u.fragment

/-- Whether a request can be sent there: the address says how and to whom. -/
def isAbsolute (u : Url) : Bool := u.scheme ≠ "" && u.host ≠ ""

/-- What is asked for when nothing says where: the path from the root, and the query.  Both are
checked anew. -/
def rooted (u : Url) : Except UrlProblem Url := do
  let path := '/' :: u.path.toList.dropWhile (· = '/')
  checkText (some "path") path
  checkText (some "query") (u.query.getD "").toList
  return { path := String.ofList path, query := u.query }

/-- What follows the mark of the fragment, percent coding undone. -/
def fragmentText (u : Url) : List Char := Percent.decode (u.fragment.getD "").toList

/-! ## Replacing parts -/

/-- The parts of an address, to be checked anew. -/
def parts (u : Url) : Parts :=
  { scheme := u.scheme.toList
    userinfo := u.userinfo.toList
    host := (bracketed u.host).toList
    port := (u.port.map toString).getD "" |>.toList
    path := u.path.toList
    query := u.query.map String.toList
    fragment := u.fragment.map String.toList }

/-- The parts of an address are themselves checked before they are put together. -/
def Parts.checkedUrl (authority : String) (p : Parts) : Except UrlProblem Url := do
  checkText (some "scheme") p.scheme
  checkText (some "authority") authority.toList
  checkText (some "path") p.path
  checkText (some "query") (p.query.getD [])
  checkText (some "fragment") (p.fragment.getD [])
  p.url

/-- The same address at another host, checked again as a whole. -/
def withHost (u : Url) (host : List Nat) : Except UrlProblem Url :=
  let host := bracketed (String.ofList (Text.spelled host))
  { u.parts with host := host.toList }.checkedUrl u.authority

/-- The same address with another fragment, checked again as a whole. -/
def withFragment (u : Url) (fragment : List Char) : Except UrlProblem Url :=
  { u.parts with fragment := some fragment }.checkedUrl u.authority

/-! ## Locations -/

/-- Whether a request can be made to an address: its name can be read, and it is ASCII. -/
def checkSite (u : Url) : Except Fault Unit := do
  let host ← u.hostCodes.mapError .badName
  if host.isEmpty then return ()
  match Text.Alphabet.ascii.problem? 0 (Text.codes u.site.toList) with
  | some p => .error (.unencodable p)
  | none => return ()

/-- A location as an address. -/
def ofLocation (location : String) : Except Fault Url :=
  match ofText location with
  | .ok u => .ok u
  | .error (.unencodable p) => .error (.unencodable p)
  | .error p =>
    .error (.http .remoteProtocol ("Invalid URL in location header: " ++ p.message ++ "."))

/-- A location without a host stays with the same host. -/
def hosted (base target : Url) : Except Fault Url := do
  if target.scheme = "" then return target
  let host ← target.hostCodes.mapError .badName
  if !host.isEmpty then return target
  let host ← base.hostCodes.mapError .badName
  (target.withHost host).mapError UrlProblem.fault

/-- Where a location leads from an address.  A location without a fragment keeps the old one. -/
def target (base : Url) (location : String) : Except Fault Url := do
  let u ← hosted base (← ofLocation location)
  let u ← if u.isAbsolute then pure u
    else do (ofText (← Reference.join base.text u.text)).mapError UrlProblem.fault
  let fragment := base.fragmentText
  let u ← if fragment.isEmpty || !u.fragmentText.isEmpty then pure u
    else (u.withFragment fragment).mapError UrlProblem.fault
  u.checkSite
  return u

/-- The text of an address, without the mark of an empty fragment. -/
def shortText (u : Url) : String :=
  let cs := u.text.toList
  if cs.getLast? = some '#' then String.ofList cs.dropLast else u.text

/-- Whether an address says what kind it is: something before the first colon or slash. -/
def hasKind (text : String) : Bool :=
  match text.toList.dropWhile fun c => c ≠ ':' && c ≠ '/' with
  | ':' :: _ => text.toList.head? ≠ some ':'
  | _ => false

/-- What is kept about the site of a response needs an address of a known kind. -/
def checkKind (u : Url) : Except Fault Unit := do
  if !hasKind u.shortText then .error (.unknownAddress u.shortText)
  let _ ← Reference.ofText u.shortText
  return ()

end Url

end Montage
