/-!
# Exchanges with a service

A service is a sequence of replies. What was sent to it is kept, so that an exchange is a value and
two exchanges can be compared.

## Contents
- `Request`, `Response`: the two sides of an exchange.
- `ExchangeFault`: why there is no response, or none that can be read.
- `Service`: the reply to each request, by how many were sent before; `Service.scripted` replies
  from a list.
- `Exchange`: computations that send requests, with the requests sent so far as their state.
- `reasonPhrase?`: the standard phrase of a status.
-/

namespace QuantumWorkbench

inductive Method where
  | get
  | post
deriving DecidableEq, Repr

def Method.name : Method → String
  | get => "GET"
  | post => "POST"

/-- A request. A body is JSON text, and a request without a body has no content type. -/
structure Request where
  method : Method
  url : String
  /-- The value of the header that names the credential. -/
  authorization : Option String := none
  body : Option String := none
deriving DecidableEq, Repr

namespace Request

/-- How the sender names itself in every request. -/
def userAgent : String := "qstep/0.4.0"

def contentType? (r : Request) : Option String := r.body.map fun _ => "application/json"

end Request

structure Response where
  status : Nat
  body : String
deriving DecidableEq, Repr

/-- A status from 200 to 299 says that the request was carried out. -/
def Response.isSuccess (r : Response) : Bool := 200 ≤ r.status && r.status < 300

/-- Why there is nothing to read. -/
inductive ExchangeFault where
  /-- The request cannot be written down. -/
  | unwritable
  /-- The request did not get through. -/
  | undelivered (reason : String)
  /-- The body of the response is not of the expected form. -/
  | undecodable
deriving DecidableEq, Repr

def ExchangeFault.message : ExchangeFault → String
  | unwritable => "builder error"
  | undelivered reason => reason
  | undecodable => "error decoding response body"

/-! ## Services -/

/-- The reply to a request, given how many were sent before it. -/
structure Service where
  reply : Nat → Request → Except String Response

/-- Computations that send requests. The state holds the requests in the order in which they were
sent. -/
abbrev Exchange := StateM (List Request)

namespace Service

/-- Replies from a list, and after its end with an empty failure. -/
def scripted (responses : List Response) : Service where
  reply k _ := .ok (responses.getD k { status := 500, body := "" })

/-- Sends a request. -/
def send (s : Service) (r : Request) : Exchange (Except ExchangeFault Response) := fun sent =>
  ((s.reply sent.length r).mapError .undelivered, sent ++ [r])

end Service

/-! ## Header values -/

/-- May the text be the value of a header? Control characters may not stand in it, a tab apart. -/
def isHeaderValue (s : String) : Bool := s.all fun c => c = '\t' || (' ' ≤ c && c ≠ '\x7f')

/-- A header's value as it arrives. Blanks around it do not belong to it. -/
def headerValue (s : String) : String :=
  let trim (cs : List Char) := cs.dropWhile fun c => c = ' ' || c = '\t'
  String.ofList (trim (trim s.toList).reverse).reverse

/-! ## Statuses -/

/-- The standard phrases of statuses that are no success. -/
def reasonPhrases : List (Nat × String) :=
  [(300, "Multiple Choices"), (301, "Moved Permanently"), (302, "Found"), (303, "See Other"),
    (304, "Not Modified"), (305, "Use Proxy"), (307, "Temporary Redirect"),
    (308, "Permanent Redirect"), (400, "Bad Request"), (401, "Unauthorized"),
    (402, "Payment Required"), (403, "Forbidden"), (404, "Not Found"), (405, "Method Not Allowed"),
    (406, "Not Acceptable"), (407, "Proxy Authentication Required"), (408, "Request Timeout"),
    (409, "Conflict"), (410, "Gone"), (411, "Length Required"), (412, "Precondition Failed"),
    (413, "Payload Too Large"), (414, "URI Too Long"), (415, "Unsupported Media Type"),
    (416, "Range Not Satisfiable"), (417, "Expectation Failed"), (418, "I'm a teapot"),
    (421, "Misdirected Request"), (422, "Unprocessable Entity"), (423, "Locked"),
    (424, "Failed Dependency"), (425, "Too Early"), (426, "Upgrade Required"),
    (428, "Precondition Required"), (429, "Too Many Requests"),
    (431, "Request Header Fields Too Large"), (451, "Unavailable For Legal Reasons"),
    (500, "Internal Server Error"), (501, "Not Implemented"), (502, "Bad Gateway"),
    (503, "Service Unavailable"), (504, "Gateway Timeout"), (505, "HTTP Version Not Supported"),
    (506, "Variant Also Negotiates"), (507, "Insufficient Storage"), (508, "Loop Detected"),
    (510, "Not Extended"), (511, "Network Authentication Required")]

def reasonPhrase? (status : Nat) : Option String := reasonPhrases.lookup status

end QuantumWorkbench
