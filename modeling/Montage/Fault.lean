import Montage.Address.Name
import Montage.Json.Reader
import Montage.Text.Quoted

/-!
# What can go wrong around an export

A `Fault` comes from outside the export itself: from the operating system, the network, a number
that does not fit, a value of the wrong shape.  Each constructor is a cause; `Fault.message` has the
words.

* `OsError` — an error number with its text and the path it is about.
* `HttpProblem` — what broke an HTTP exchange.
* `Fault` — all causes together.
* `numeral` — the text of an integer, where it has one.
-/

namespace Montage

/-! ## The operating system -/

/-- A failed system call. -/
structure OsError where
  number : Nat
  text : String
  path : Option String := none
  deriving DecidableEq

/-- What is said about an error of the operating system: its number, its words, and the path it is
about. -/
def OsError.message (e : OsError) : String :=
  s!"[Errno {e.number}] {e.text}" ++
    match e.path with
    | some p => ": " ++ Text.quoted p
    | none => ""

namespace OsError

/-- Somebody may not do this to a path. -/
def permissionDenied (path : String) : OsError := ⟨13, "Permission denied", some path⟩
/-- The number of the error that there is no such file. -/
def notFoundNumber : Nat := 2

/-- There is no such file or directory. -/
def notFound (path : String) : OsError := ⟨notFoundNumber, "No such file or directory", some path⟩
/-- An argument that makes no sense, about no path. -/
def invalidArgument : OsError := ⟨22, "Invalid argument", none⟩

/-- Something is there already. -/
def alreadyExists (path : String) : OsError := ⟨17, "File exists", some path⟩

/-- What should be a directory is none. -/
def notDirectory (path : String) : OsError := ⟨20, "Not a directory", some path⟩

/-- What should be a file is a directory. -/
def isDirectory (path : String) : OsError := ⟨21, "Is a directory", some path⟩

/-- A directory is not empty. -/
def notEmpty (path : String) : OsError := ⟨39, "Directory not empty", some path⟩

/-- A name in a path has too many bytes. -/
def nameTooLong (path : String) : OsError := ⟨36, "File name too long", some path⟩

end OsError

/-! ## The network -/

/-- What broke an HTTP exchange. -/
inductive HttpProblem where
  /-- A time limit, of whatever kind. -/
  | timeout
  | connectTimeout | readTimeout | writeTimeout | poolTimeout
  /-- The network, in whatever way. -/
  | network
  | connectError | readError | writeError | closeError
  /-- The rules of the exchange, on whichever side. -/
  | protocol
  | localProtocol | remoteProtocol
  | proxy | unsupportedProtocol
  /-- The transport, the request or the exchange as a whole. -/
  | transport | request | exchange
  | decoding | tooManyRedirects | status
  | invalidAddress | cookieConflict | stream
  deriving DecidableEq, Repr

namespace HttpProblem

/-- Whether a time limit ran out. -/
def isTimeout : HttpProblem → Bool
  | timeout | connectTimeout | readTimeout | writeTimeout | poolTimeout => true
  | _ => false

/-- Whether the exchange itself failed: not a bad address, cookies in conflict or a body that was
read the wrong way. -/
def isTransport : HttpProblem → Bool
  | invalidAddress | cookieConflict | stream => false
  | _ => true

end HttpProblem

/-! ## All causes -/

/-- A cause of failure outside the export's own vocabulary. -/
inductive Fault where
  | os (error : OsError)
  | http (problem : HttpProblem) (message : String)
  | notANumber
  | infiniteNumber
  | integerTooLarge
  | quotientTooLarge
  | embeddedNull
  | badVariableName
  | badFileName (name : String)
  | badInteger (text : String)
  | longInteger (digits : Nat)
  /-- An integer that has too many digits to be written. -/
  | longNumeral
  | unbalancedBrackets
  | badFutureHost
  | bracketedIpv4
  | badHost (host : String)
  | disguisedSeparator (authority : String)
  | badName (problem : NameProblem)
  | unknownAddress (address : String)
  | unencodable (problem : Text.EncodingProblem)
  | unknownBackend (shown : String)
  | unknownPhase (shown : String)
  | notAMapping (kind : String)
  | noMembers (kind : String)
  | overlongLine (complete : Bool)
  | noFilter
  | noDestination
  | badJson (error : Json.ReadError)
  | undecodable (problem : Text.Utf8Problem)
  | stated (message : String)
  deriving DecidableEq

/-- A text that is not a whole number is shown at most this far, quotes included. -/
def Fault.excerptLength : Nat := 200

/-- What a fault says. -/
def Fault.message : Fault → String
  | os e => e.message
  | http _ message => message
  | notANumber => "cannot convert float NaN to integer"
  | infiniteNumber => "cannot convert float infinity to integer"
  | integerTooLarge => "int too large to convert to float"
  | quotientTooLarge => "integer division result too large for a float"
  | embeddedNull => "embedded null byte"
  | badVariableName => "illegal environment variable name"
  | badFileName name => "invalid workspace file name: " ++ Text.quoted name
  | badInteger text =>
    "invalid literal for int() with base 10: " ++
      String.ofList ((Text.quoted text).toList.take excerptLength)
  | longInteger digits => (Json.ReadError.longInteger digits).message
  | longNumeral =>
    s!"Exceeds the limit ({Text.Numeral.digitLimit} digits) for integer string conversion; "
      ++ "use sys.set_int_max_str_digits() to increase the limit"
  | unbalancedBrackets => "Invalid IPv6 URL"
  | badFutureHost => "IPvFuture address is invalid"
  | bracketedIpv4 => "An IPv4 address cannot be in brackets"
  | badHost host => Text.quoted host ++ " does not appear to be an IPv4 or IPv6 address"
  | disguisedSeparator authority =>
    s!"netloc '{authority}' contains invalid characters under NFKC normalization"
  | badName p => p.message
  | unknownAddress address => "unknown url type: " ++ Text.quoted address
  | unencodable p => p.message
  | unknownBackend shown => shown ++ " is not a valid BackendKind"
  | unknownPhase shown => shown ++ " is not a valid ExportPhase"
  | notAMapping kind => s!"'{kind}' object is not a mapping"
  | noMembers kind => s!"'{kind}' object has no attribute 'get'"
  | overlongLine true => "Separator is found, but chunk is longer than limit"
  | overlongLine false => "Separator is not found, and chunk exceed the limit"
  | noFilter => "tuple index out of range"
  | noDestination => "'list' object has no attribute 'parent'"
  | badJson e => e.message
  | undecodable p => p.message
  | stated message => message

instance : Inhabited Fault := ⟨.notANumber⟩

/-! ## Numbers that are written -/

/-- The text of an integer, in an argument, in a field of a form or in JSON.  An integer of more
than `Text.Numeral.digitLimit` digits has none, as none is read from a text of so many.  What is
written of a corner (`topLeft`) needs no such check: it comes from a number of the binary format,
and the largest of these has 309 digits. -/
def numeral (i : Int) : Except Fault String :=
  if tenTo Text.Numeral.digitLimit ≤ i.natAbs then .error .longNumeral else .ok (toString i)

end Montage
