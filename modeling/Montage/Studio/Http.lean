import Montage.Address.Status
import Montage.Address.Url
import Montage.Coding.Content
import Montage.Studio.Interface

/-!
# HTTP exchanges

* `Http.fetch` — the content behind an address; anything but success is a fault.
* `Http.submit` — sends a form and answers with the response, whatever its status.
* `Http.readBody` — the body of a response, piece by piece, with its codings undone.

A redirect that leads to no address is a fault even where redirects are not followed.
-/

namespace Montage.Http

/-- Breaks off with a problem of the exchange. -/
def broken {α : Type} (problem : HttpProblem) (message : String) : StudioRoutine α :=
  Routine.broken (.http problem message)

/-- A reply of the network, a fault becoming the failure of the routine. -/
def orBroken {α : Type} (reply : Except HttpFault α) : StudioRoutine α :=
  Routine.ofFault (reply.mapError HttpFault.fault)

/-- The address of a text.  One without a host is put under the root, as a client does that has no
other base; what is wrong with that is found by the checks that follow. -/
def address (text : String) : StudioRoutine Url := do
  let u ← Routine.ofFault ((Url.ofText text).mapError UrlProblem.fault)
  if u.isAbsolute then return u else Routine.ofFault (u.rooted.mapError UrlProblem.fault)

/-! ## Bodies -/

/-- Reads what comes after the pieces: nothing, or the fault that has broken the response off. -/
def finish (r : Response) : StudioRoutine Unit :=
  match r.broken with
  | some f => Routine.broken f.fault
  | none => pure ()

/-- The codings of a body, in the order in which they were applied; they are undone from the last to
the first. -/
def codings (r : Response) : List Coding.ContentCoding :=
  Coding.ContentCoding.ofHeader ((r.header? "content-encoding").getD "")

/-- The pieces of a body as they come, the codings undone; a piece that cannot be decoded is a fault
and the last one. -/
def pieces (r : Response) : List (Except Fault ByteArray) :=
  let sent : Coding.Pieces := { whole := r.chunks.filter fun c => c.size ≠ 0 }
  let decoded := sent.decode (codings r)
  let failure := decoded.problem.toList.map fun p => .error (.http .decoding p.message)
  decoded.whole.map .ok ++ failure

/-- The pieces of a body as one. -/
def concat (parts : List ByteArray) : ByteArray := parts.foldl (· ++ ·) ByteArray.empty

/-- Reads pieces one after the other; each one is a wait, and the first that is a fault ends the
reading. -/
def readPieces : List (Except Fault ByteArray) → StudioRoutine (List ByteArray)
  | [] => pure []
  | piece :: rest => do
    Studio.nextPiece
    let content ← Routine.ofFault piece
    return content :: (← readPieces rest)

/-- The body of a response: all its pieces, and the end that shows that there are no more. -/
def readBody (r : Response) : StudioRoutine ByteArray := do
  let parts ← readPieces (pieces r)
  finish r
  return concat parts

/-! ## Responses -/

/-- The names and values of headers are ASCII.  Others cannot be made into a response, and the fault
is none of those that a client foresees (`HttpProblem`). -/
def checkHeaders (r : Response) : Except Fault Unit :=
  let texts := r.headers.flatMap fun h => [h.1, h.2]
  match texts.findSome? fun t => Text.Alphabet.ascii.problem? 0 (Text.codes t.toList) with
  | some p => .error (.unencodable p)
  | none => .ok ()

/-- The location that a response leads to, if its status says that it leads somewhere. -/
def location? (r : Response) : Option String :=
  if Status.isRedirect r.status then r.header? "location" else none

/-- The response to a request and the address that it leads to.  The location is worked out whether
it is followed or not, so a bad one breaks the exchange in either case. -/
def exchange (u : Url) (request : HttpRequest) : StudioRoutine (Response × Option Url) := do
  let r ← orBroken (← Studio.send request)
  Routine.ofFault (checkHeaders r)
  Routine.ofFault u.checkKind
  match location? r with
  | none => return (r, none)
  | some location => do
    let next ← Routine.ofFault (u.target location)
    return (r, some next)

/-- So many requests are made before redirects count as too many: the first one and twenty more. -/
def requestLimit : Nat := 21

/-- Sends a request, follows redirects if wanted, and answers with the last response and its
address. The body of a response that is not the last is read before the next request is made. -/
def request (follow : Bool) : (left : Nat) → Url → StudioRoutine (Url × Response)
  | 0, _ => broken .tooManyRedirects "Exceeded maximum allowed redirects."
  | left + 1, u => do
    match ← exchange u (.fetch u.text) with
    | (r, none) => return (u, r)
    | (r, some next) =>
      if follow then
        let _ ← readBody r
        request follow left next
      else return (u, r)

/-! ## Fetching -/

/-- Where more is said about a number, at the end of a complaint about it. -/
def moreInformation (status : Int) : String :=
  "\nFor more information check: " ++
    s!"https://developer.mozilla.org/en-US/docs/Web/HTTP/Status/{status}"

/-- What is said about a response without success: the kind of the status, the status, the address,
the location if there is one, and where to read more. -/
def complaint (u : Url) (r : Response) : String :=
  let redirect := match location? r with
    | some location => s!"\nRedirect location: '{location}'"
    | none => ""
  s!"{Status.kindText r.status} '{r.status} {Status.phrase r.status}' for url '{u.text}'"
    ++ redirect ++ moreInformation r.status

/-- The content behind an address; a response without success is a fault that says so (`complaint`).
Its body is read nonetheless. -/
def fetch (follow : Bool) (text : String) : StudioRoutine ByteArray := do
  let u ← address text
  Routine.ofFault u.checkSite
  let (u, r) ← request follow requestLimit u
  let body ← readBody r
  if Status.isSuccess r.status then return body else broken .status (complaint u r)

/-! ## Forms -/

/-- Whether a control stands as a percent triple in the name of a file.  All do, but the one that
begins other controls. -/
def isMasked (c : Char) : Bool := c.toNat < 0x20 && c.toNat ≠ 0x1B

/-- One character of a file name in a form: what would end the name, or could, is written in another
way. -/
def maskedChar (c : Char) : List Char :=
  if c = '"' then "%22".toList
  else if c = '\\' then ['\\', '\\']
  else if isMasked c then Percent.triple (UInt8.ofNat c.toNat)
  else [c]

/-- A file name as it stands in a form. -/
def maskedName (name : String) : String := String.ofList (name.toList.flatMap maskedChar)

/-- A part as it is sent. -/
def masked : FormPart → FormPart
  | .field name text => .field name text
  | .file name fileName content => .file name (maskedName fileName) content

/-- What stands before a file name. -/
def nameLabel : String := "filename=\""

/-- The text of a part that may have no bytes. -/
def doubtfulText : FormPart → String
  | .field _ text => text
  | .file _ fileName _ => nameLabel ++ fileName

/-- All texts of a form can be sent as bytes; half of a surrogate pair cannot
(`Text.Alphabet.utf8`). -/
def checkForm (parts : List FormPart) : Except Fault Unit :=
  match parts.findSome? fun part =>
      Text.Alphabet.utf8.problem? 0 (Text.codes (doubtfulText part).toList) with
  | some p => .error (.unencodable p)
  | none => .ok ()

/-- Sends a form and answers with the response to it.  Redirects are not followed. -/
def submit (text : String) (parts : List FormPart) : StudioRoutine Response := do
  let u ← address text
  let parts := parts.map masked
  Routine.ofFault (checkForm parts)
  Routine.ofFault u.checkSite
  let (r, _) ← exchange u (.post u.text parts)
  return r

end Montage.Http
