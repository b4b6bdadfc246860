import Shortlink.Http.Target

/-!
# Requests and responses

Messages as they are once the bytes on the wire have been taken apart: header
names are in lower case, and the body is all there.
-/

namespace Shortlink.Http

/-- A header: its name and its value. -/
abbrev Header := String × String

structure Request where
  /-- The method, a token in which case matters. -/
  method : String := "GET"
  target : Target
  /-- The headers, in the order sent. -/
  headers : List Header := []
  body : List UInt8 := []

structure Response where
  status : Nat
  headers : List Header := []
  body : String := ""
  deriving DecidableEq, Repr

/-- The statuses that have a usual wording. -/
def reasons : List (Nat × String) :=
  [(100, "Continue"), (101, "Switching Protocols"), (102, "Processing"), (103, "Early Hints"),
   (200, "OK"), (201, "Created"), (202, "Accepted"), (203, "Non Authoritative Information"),
   (204, "No Content"), (205, "Reset Content"), (206, "Partial Content"), (207, "Multi-Status"),
   (208, "Already Reported"), (226, "IM Used"), (300, "Multiple Choices"),
   (301, "Moved Permanently"), (302, "Found"), (303, "See Other"), (304, "Not Modified"),
   (305, "Use Proxy"), (307, "Temporary Redirect"), (308, "Permanent Redirect"),
   (400, "Bad Request"), (401, "Unauthorized"), (402, "Payment Required"), (403, "Forbidden"),
   (404, "Not Found"), (405, "Method Not Allowed"), (406, "Not Acceptable"),
   (407, "Proxy Authentication Required"), (408, "Request Timeout"), (409, "Conflict"),
   (410, "Gone"), (411, "Length Required"), (412, "Precondition Failed"),
   (413, "Payload Too Large"), (414, "URI Too Long"), (415, "Unsupported Media Type"),
   (416, "Range Not Satisfiable"), (417, "Expectation Failed"), (418, "I'm a teapot"),
   (421, "Misdirected Request"), (422, "Unprocessable Entity"), (423, "Locked"),
   (424, "Failed Dependency"), (425, "Too Early"), (426, "Upgrade Required"),
   (428, "Precondition Required"), (429, "Too Many Requests"),
   (431, "Request Header Fields Too Large"), (451, "Unavailable For Legal Reasons"),
   (500, "Internal Server Error"), (501, "Not Implemented"), (502, "Bad Gateway"),
   (503, "Service Unavailable"), (504, "Gateway Timeout"), (505, "HTTP Version Not Supported"),
   (506, "Variant Also Negotiates"), (507, "Insufficient Storage"), (508, "Loop Detected"),
   (510, "Not Extended"), (511, "Network Authentication Required")]

/-- What a status means. -/
def reason (status : Nat) : String :=
  (reasons.lookup status).getD "<unknown status code>"

/-- Whether a status is that of a failure of the server. -/
def isServerError (status : Nat) : Bool :=
  500 ≤ status && status < 600

/-- Why something is no request. -/
inductive RequestError
  /-- The method is no token. -/
  | method
  | target (error : TargetError)
  /-- The name of a header is no token. -/
  | headerName
  /-- The value of a header holds a control. -/
  | headerValue
  deriving DecidableEq, Repr

/-- The wording of a value that a header cannot hold. -/
def headerValueMessage : String := "failed to parse header value"

/-- The wording of a failure. -/
def RequestError.message : RequestError → String
  | .method => "invalid HTTP method"
  | .target error => error.message
  | .headerName => "invalid HTTP header name"
  | .headerValue => headerValueMessage

/-- Whether a byte may stand in a token. -/
def isTokenByte (byte : UInt8) : Bool :=
  Target.isLetter byte || Target.isDigit byte ||
    [0x21, 0x23, 0x24, 0x25, 0x26, 0x27, 0x2A, 0x2B, 0x2D, 0x2E, 0x5E, 0x5F, 0x60, 0x7C,
      0x7E].contains byte

/-- Whether a text is a token. -/
def isToken (text : String) : Bool :=
  !text.isEmpty && (Utf8.ofString text).all isTokenByte

/-- Whether a byte may stand in the value of a header. -/
def isValueByte (byte : UInt8) : Bool :=
  byte == 0x09 || (0x20 ≤ byte && byte != 0x7F)

/-- Whether a text can be the value of a header. -/
def isHeaderValue (text : String) : Bool :=
  (Utf8.ofString text).all isValueByte

/-- Puts a header into its usual form. -/
def checkHeader (header : Header) : Except RequestError Header :=
  let (name, value) := header
  if !isToken name then .error .headerName
  else if !isHeaderValue value then .error .headerValue
  else .ok (String.ofList (name.toList.map Char.toLower), value)

/-- Puts a request together. -/
def Request.make (method : String) (target : List UInt8) (headers : List Header)
    (body : List UInt8) : Except RequestError Request := do
  if !isToken method then throw .method
  let target ← (Target.parse target).mapError .target
  let headers ← headers.mapM checkHeader
  return { method, target, headers, body }

namespace Response

/-- The header that tells the type of a body. -/
def contentType : String := "content-type"

/-- The header that tells the length of a body. -/
def contentLength : String := "content-length"

/-- A response with a document for a body. -/
def json (status : Nat) (document : String) : Response :=
  { status, headers := [(contentType, "application/json")], body := document }

/-- A response with a text for a body. -/
def plain (status : Nat) (text : String) : Response :=
  { status, headers := [(contentType, "text/plain; charset=utf-8")], body := text }

/-- The value of a header. -/
def header? (response : Response) (name : String) : Option String :=
  (response.headers.find? fun header => header.1 = name).map Prod.snd

/-- Adds a header unless there is one of that name. -/
def withHeader (response : Response) (name value : String) : Response :=
  match response.header? name with
  | some _ => response
  | none => { response with headers := response.headers ++ [(name, value)] }

/-- Adds the length of the body. -/
def withLength (response : Response) : Response :=
  response.withHeader contentLength (toString (Utf8.ofString response.body).length)

/-- Leaves out the body. -/
def withoutBody (response : Response) : Response :=
  { response with body := "" }

end Response

end Shortlink.Http
