import Massless.Python.Bytes
import Massless.Python.Dict

open python

namespace massless.response

/-- The status codes of `http.HTTPStatus` with their phrases. -/
def http_status : List (Int × String) :=
  [(100, "Continue"), (101, "Switching Protocols"), (102, "Processing"), (103, "Early Hints"),
   (200, "OK"), (201, "Created"), (202, "Accepted"), (203, "Non-Authoritative Information"),
   (204, "No Content"), (205, "Reset Content"), (206, "Partial Content"), (207, "Multi-Status"),
   (208, "Already Reported"), (226, "IM Used"), (300, "Multiple Choices"),
   (301, "Moved Permanently"), (302, "Found"), (303, "See Other"), (304, "Not Modified"),
   (305, "Use Proxy"), (307, "Temporary Redirect"), (308, "Permanent Redirect"),
   (400, "Bad Request"), (401, "Unauthorized"), (402, "Payment Required"), (403, "Forbidden"),
   (404, "Not Found"), (405, "Method Not Allowed"), (406, "Not Acceptable"),
   (407, "Proxy Authentication Required"), (408, "Request Timeout"), (409, "Conflict"),
   (410, "Gone"), (411, "Length Required"), (412, "Precondition Failed"),
   (413, "Request Entity Too Large"), (414, "Request-URI Too Long"),
   (415, "Unsupported Media Type"), (416, "Requested Range Not Satisfiable"),
   (417, "Expectation Failed"), (418, "I'm a Teapot"), (421, "Misdirected Request"),
   (422, "Unprocessable Entity"), (423, "Locked"), (424, "Failed Dependency"), (425, "Too Early"),
   (426, "Upgrade Required"), (428, "Precondition Required"), (429, "Too Many Requests"),
   (431, "Request Header Fields Too Large"), (451, "Unavailable For Legal Reasons"),
   (500, "Internal Server Error"), (501, "Not Implemented"), (502, "Bad Gateway"),
   (503, "Service Unavailable"), (504, "Gateway Timeout"), (505, "HTTP Version Not Supported"),
   (506, "Variant Also Negotiates"), (507, "Insufficient Storage"), (508, "Loop Detected"),
   (510, "Not Extended"), (511, "Network Authentication Required")]

/-- `_REASON.get(status, _UNKNOWN_REASON)` -/
def reason_phrase (status : Int) : Bytes :=
  ascii ((http_status.lookup status).getD "Unknown Status Code")

def crlf : Bytes := ascii "\r\n"

/-- The line `name: value` of a header block. -/
def header_line (name value : Bytes) : Bytes := name ++ ascii ": " ++ value ++ crlf

/-- `b"HTTP/1.1 " + str(status).encode("ascii") + b" " + reason + b"\r\n"` -/
def status_line (status : Int) (reason : Bytes) : Bytes :=
  ascii "HTTP/1.1 " ++ ascii (toString status) ++ ascii " " ++ reason ++ crlf

/-- A line that is emitted only under a condition. -/
def line_if (condition : Bool) (line : Bytes) : Bytes := if condition then line else []

def content_length_line (body : Bytes) : Bytes :=
  header_line (ascii "Content-Length") (ascii (toString body.length))

def connection_close_line : Bytes := header_line (ascii "Connection") (ascii "close")

/-- The body goes out unless the request was `HEAD` or the status is 204 or 304. -/
def sent_body (status : Int) (method body : Bytes) : Bytes :=
  if method = ascii "HEAD" ∨ status = 204 ∨ status = 304 then [] else body

/-- `build_http_response`, with the value of the `Date` header at the time. -/
def build_http_response (date : Bytes) (status : Int) (content_type body : Bytes)
    (keep_alive : Bool) (method : Bytes) : Bytes :=
  status_line status (reason_phrase status) ++
    line_if (!content_type.isEmpty) (header_line (ascii "Content-Type") content_type) ++
    content_length_line body ++
    line_if (!keep_alive) connection_close_line ++
    header_line (ascii "Date") date ++ crlf ++ sent_body status method body

/-- A response for the C serializer. -/
structure Response where
  status : Int
  headers : Dict String String
  cookies : List String
  body : Bytes
  content_type : Bytes
  reason : Bytes
  ct_present : Bool

/-- `Response(status, {}, body, content_type, reason)` -/
def Response.new (status : Int) (body content_type reason : Bytes) : Response :=
  { status, headers := .empty, cookies := [], body, content_type, reason,
    ct_present := !content_type.isEmpty }

/-- The lines of the extra headers; `none` is the error of encoding a character
outside latin-1. -/
def header_lines (headers : List (String × String)) : Option (List Bytes) :=
  headers.mapM fun entry => do
    let name ← encode_latin1 entry.1
    let value ← encode_latin1 entry.2
    some (header_line name value)

def cookie_lines (cookies : List String) : Option (List Bytes) :=
  cookies.mapM fun cookie => do
    let value ← encode_latin1 cookie
    some (header_line (ascii "Set-Cookie") value)

/-- `Response.to_bytes`; `none` is a `UnicodeEncodeError`. -/
def Response.to_bytes (self : Response) (date : Bytes) (keep_alive : Bool) (method : Bytes) :
    Option Bytes := do
  let reason := if self.reason.isEmpty then reason_phrase self.status else self.reason
  let has_date := self.headers.entries.any fun entry => lower_str entry.1 = "date"
  let headers ← header_lines self.headers.entries
  let cookies ← cookie_lines self.cookies
  some (status_line self.status reason ++
    line_if (!self.content_type.isEmpty || self.ct_present)
      (header_line (ascii "Content-Type") self.content_type) ++
    content_length_line self.body ++
    line_if (!keep_alive) connection_close_line ++
    line_if (!has_date) (header_line (ascii "Date") date) ++
    headers.flatten ++ cookies.flatten ++ crlf ++ sent_body self.status method self.body)

end massless.response
