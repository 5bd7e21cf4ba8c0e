/-!
# Status codes

The phrases that go with the status codes of responses.

* `Status.phrase` — the phrase of a code; no phrase for an unknown one.
* `Status.isSuccess`, `Status.isRedirect` — what a code means for the exchange.
-/

namespace Montage.Status

/-- The words that go with the numbers of answers. -/
def phrases : List (Nat × String) :=
  [(100, "Continue"), (101, "Switching Protocols"), (102, "Processing"), (103, "Early Hints"),
   (200, "OK"), (201, "Created"), (202, "Accepted"), (203, "Non-Authoritative Information"),
   (204, "No Content"), (205, "Reset Content"), (206, "Partial Content"), (207, "Multi-Status"),
   (208, "Already Reported"), (226, "IM Used"),
   (300, "Multiple Choices"), (301, "Moved Permanently"), (302, "Found"), (303, "See Other"),
   (304, "Not Modified"), (305, "Use Proxy"), (307, "Temporary Redirect"),
   (308, "Permanent Redirect"),
   (400, "Bad Request"), (401, "Unauthorized"), (402, "Payment Required"), (403, "Forbidden"),
   (404, "Not Found"), (405, "Method Not Allowed"), (406, "Not Acceptable"),
   (407, "Proxy Authentication Required"), (408, "Request Timeout"), (409, "Conflict"),
   (410, "Gone"), (411, "Length Required"), (412, "Precondition Failed"),
   (413, "Request Entity Too Large"), (414, "Request-URI Too Long"),
   (415, "Unsupported Media Type"), (416, "Requested Range Not Satisfiable"),
   (417, "Expectation Failed"), (418, "I'm a teapot"), (421, "Misdirected Request"),
   (422, "Unprocessable Entity"), (423, "Locked"), (424, "Failed Dependency"), (425, "Too Early"),
   (426, "Upgrade Required"), (428, "Precondition Required"), (429, "Too Many Requests"),
   (431, "Request Header Fields Too Large"), (451, "Unavailable For Legal Reasons"),
   (500, "Internal Server Error"), (501, "Not Implemented"), (502, "Bad Gateway"),
   (503, "Service Unavailable"), (504, "Gateway Timeout"), (505, "HTTP Version Not Supported"),
   (506, "Variant Also Negotiates"), (507, "Insufficient Storage"), (508, "Loop Detected"),
   (510, "Not Extended"), (511, "Network Authentication Required")]

/-- The words of a number; one that is not listed has none. -/
def phrase (code : Int) : String := (phrases.lookup code.toNat).getD ""

/-- Whether a number says that all went well. -/
def isSuccess (code : Int) : Bool := 200 ≤ code && code ≤ 299

/-- Whether a response with this code leads elsewhere, if it says where. -/
def isRedirect (code : Int) : Bool := [301, 302, 303, 307, 308].contains code

/-- What kind of response a code stands for, in a complaint about it. -/
def kindText (code : Int) : String :=
  if code / 100 = 1 then "Informational response"
  else if code / 100 = 3 then "Redirect response"
  else if code / 100 = 4 then "Client error"
  else if code / 100 = 5 then "Server error"
  else "Invalid status code"

end Montage.Status
