import Montage.Address.Host
import Montage.Address.Percent
import Montage.Disk.Path
import Montage.Fault

/-!
# References

A timeline names its files by references: paths, `file:` addresses, or addresses on the network.

* `Reference.isRemote` — whether a reference is fetched over the network.
* `Reference.toPath` — the path of any other reference: percent coding counts in `file:` addresses
  only.
* `Reference.join` — a reference seen from an address.  **Dot segments are carried out**, and marks
  with nothing after them are dropped.
-/

namespace Montage

/-- The parts of a reference; a part that is not there is empty. -/
structure Reference where
  scheme : String
  authority : List Char
  path : List Char
  query : List Char
  fragment : List Char
  deriving DecidableEq

namespace Reference

/-- Characters that surround an address without belonging to it. -/
def isOuter (c : Char) : Bool := c.toNat ≤ 0x20

/-- Characters that are ignored within an address. -/
def isIgnored (c : Char) : Bool := c = '\t' || c = '\r' || c = '\n'

/-- Whether a character may stand in a scheme after its first letter. -/
def isSchemeChar (c : Char) : Bool := c.isAlphanum || c = '+' || c = '-' || c = '.'

/-- The scheme before the first colon, in lower case, and the rest.  A scheme starts with a
letter. -/
def splitScheme (cs : List Char) : String × List Char :=
  match Text.cutAt ':' cs with
  | (c :: before, some after) =>
    if c.isAlpha && before.all isSchemeChar then
      (String.ofList ((c :: before).map Char.toLower), after)
    else ("", cs)
  | _ => ("", cs)

/-- What follows the last at sign. -/
def afterUser (cs : List Char) : List Char :=
  (Text.splitAt '@' cs).getLast?.getD []

/-- The host where brackets are in use: what they hold, or what stands before a port.  Nothing may
stand around the brackets but a port. -/
def bracketed (hostPort : List Char) : Except Fault (List Char) :=
  match Text.cutAt '[' hostPort with
  | (before, some inside) =>
    let (host, after) := Text.cutAt ']' inside
    if before.isEmpty && (after.getD []).head?.all (· = ':') then .ok host
    else .error .unbalancedBrackets
  | (hostPort, none) => .ok (Text.cutAt ':' hostPort).1

/-- A version number and an address of some future kind. -/
def isFutureHost (cs : List Char) : Bool :=
  match Text.cutAt '.' (cs.drop 1) with
  | (version, some rest) =>
    !version.isEmpty && version.all (fun c => (Text.hexValue? c).isSome) && !rest.isEmpty
  | _ => false

/-- Characters that stand for several others or for a wide form, with a character among them that
separates the parts of an address. -/
def disguises : List Nat :=
  [0x2047, 0x2048, 0x2049, 0x2100, 0x2101, 0x2105, 0x2106, 0x2A74, 0xFE13, 0xFE16, 0xFE55, 0xFE56,
   0xFE5F, 0xFE6B, 0xFF03, 0xFF0F, 0xFF1A, 0xFF1F, 0xFF20]

/-- No separator may be disguised. -/
def checkDisguises (authority : List Char) : Except Fault Unit :=
  if authority.any fun c => disguises.contains c.toNat then
    .error (.disguisedSeparator (String.ofList authority))
  else .ok ()

/-- Brackets around a host come in pairs and hold an address. -/
def checkBrackets (authority : List Char) : Except Fault Unit :=
  let opening := authority.contains '['
  let closing := authority.contains ']'
  if opening != closing then .error .unbalancedBrackets
  else if !opening then .ok ()
  else do
    let host ← bracketed (afterUser authority)
    if host.head? = some 'v' then
      if isFutureHost host then .ok () else .error .badFutureHost
    else if Host.isIpv4 host then .error .bracketedIpv4
    else if Host.isIpv6 host then .ok ()
    else .error (.badHost (String.ofList host))

/-- What may be wrong with the part of a reference that says where to look: brackets that do not
match, and letters that pass for marks. -/
def checkAuthority (authority : List Char) : Except Fault Unit := do
  checkBrackets authority
  checkDisguises authority

/-- Whether a character ends that part. -/
def isAuthorityEnd (c : Char) : Bool := c = '/' || c = '?' || c = '#'

/-- The parts of a reference. -/
def ofText (text : String) : Except Fault Reference := do
  let cs := (text.toList.dropWhile isOuter).filter fun c => !isIgnored c
  let (scheme, rest) := splitScheme cs
  let (authority, rest) := match rest with
    | '/' :: '/' :: after =>
      (after.takeWhile fun c => !isAuthorityEnd c, after.dropWhile fun c => !isAuthorityEnd c)
    | rest => ([], rest)
  checkAuthority authority
  let (rest, fragment) := Text.cutAt '#' rest
  let (path, query) := Text.cutAt '?' rest
  return { scheme, authority, path, query := query.getD [], fragment := fragment.getD [] }

/-- The scheme of references to files on the disk. -/
def fileScheme : String := "file"

/-- The path that a reference stands for. -/
def toPath (text : String) : Except Fault Path := do
  let r ← ofText text
  if r.scheme = fileScheme then return .ofText (String.ofList (Percent.decode r.path))
  else return .ofText text

/-- Whether a reference is fetched over the network. -/
def isRemote (text : String) : Bool :=
  text.startsWith "http://" || text.startsWith "https://"

/-! ## Writing -/

/-- Schemes whose addresses always have an authority, be it empty. -/
def authoritySchemes : List String :=
  ["ftp", "http", "gopher", "nntp", "telnet", "imap", "wais", "file", "mms", "https", "shttp",
   "snews", "prospero", "rtsp", "rtsps", "rtspu", "rsync", "svn", "svn+ssh", "sftp", "nfs", "git",
   "git+ssh", "ws", "wss"]

/-- A part with the mark before it, unless it is empty. -/
def marked (mark : Char) (part : List Char) : List Char := if part.isEmpty then [] else mark :: part

/-- The text of a reference. -/
def text (r : Reference) : String :=
  let twoSlashes := ['/', '/'].isPrefixOf r.path
  let hasAuthority :=
    !r.authority.isEmpty || (authoritySchemes.contains r.scheme && !twoSlashes)
  let rooted := if r.path.isEmpty || r.path.head? = some '/' then r.path else '/' :: r.path
  let place := if hasAuthority then '/' :: '/' :: r.authority ++ rooted else r.path
  let scheme := if r.scheme = "" then [] else r.scheme.toList ++ [':']
  String.ofList (scheme ++ place ++ marked '?' r.query ++ marked '#' r.fragment)

/-! ## Joining -/

/-- Schemes whose addresses have relatives. -/
def relativeSchemes : List String :=
  ["", "ftp", "http", "gopher", "nntp", "imap", "wais", "file", "https", "shttp", "mms", "prospero",
   "rtsp", "rtsps", "rtspu", "sftp", "svn", "svn+ssh", "ws", "wss"]

/-- Schemes whose paths may end with parameters. -/
def parameterSchemes : List String :=
  ["", "ftp", "hdl", "prospero", "http", "imap", "https", "shttp", "rtsp", "rtsps", "rtspu", "sip",
   "sips", "mms", "sftp", "tel"]

/-- A path and its parameters: what follows the first semicolon of the last segment. -/
def splitParameters (scheme : String) (path : List Char) : List Char × List Char :=
  if parameterSchemes.contains scheme then
    let last := (path.reverse.takeWhile (· ≠ '/')).reverse
    let (segment, parameters) := Text.cutAt ';' last
    (path.take (path.length - last.length) ++ segment, parameters.getD [])
  else (path, [])

/-- The segments of a path seen from another one. -/
def segmentsFrom (base path : List Char) : List (List Char) :=
  let above := Text.splitAt '/' base
  let above := if above.getLast? = some [] then above else above.dropLast
  if path.head? = some '/' then Text.splitAt '/' path
  else match above ++ Text.splitAt '/' path with
    | [] => []
    | first :: rest =>
      -- empty segments count at the two ends only
      first :: rest.dropLast.filter (· ≠ []) ++ rest.drop (rest.length - 1)

/-- Segments with `.` and `..` carried out; nothing lies above the first one. -/
def carriedOut (output : List (List Char)) : List (List Char) → List (List Char)
  | [] => output
  | segment :: rest =>
    if segment = ['.', '.'] then carriedOut output.dropLast rest
    else if segment = ['.'] then carriedOut output rest
    else carriedOut (output ++ [segment]) rest

/-- A path seen from another one. -/
def pathFrom (base path : List Char) : List Char :=
  let segments := segmentsFrom base path
  let output := carriedOut [] segments
  let last := segments.getLast?
  let output := if last = some ['.'] || last = some ['.', '.'] then output ++ [[]] else output
  match ['/'].intercalate output with
  | [] => ['/']
  | cs => cs

/-- A path with parameters. -/
def withParameters (path parameters : List Char) : List Char := path ++ marked ';' parameters

/-- A reference of the same scheme seen from an address. -/
def seenFrom (base r : Reference) : Reference :=
  let (path, parameters) := splitParameters r.scheme r.path
  if !r.authority.isEmpty then { r with path := withParameters path parameters }
  else if path.isEmpty && parameters.isEmpty then
    let (path, parameters) := splitParameters base.scheme base.path
    { r with
      authority := base.authority
      path := withParameters path parameters
      query := if r.query.isEmpty then base.query else r.query }
  else
    let above := (splitParameters base.scheme base.path).1
    { r with
      authority := base.authority
      path := withParameters (pathFrom above path) parameters }

/-- A reference seen from an address. -/
def join (base text : String) : Except Fault String := do
  if base = "" then return text
  if text = "" then return base
  let b ← ofText base
  let r ← ofText text
  let scheme := if r.scheme = "" then b.scheme else r.scheme
  if scheme ≠ b.scheme || !relativeSchemes.contains scheme then return text
  return (b.seenFrom { r with scheme }).text

end Reference

end Montage
