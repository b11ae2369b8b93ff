import Massless.Python.Bytes
import Massless.Python.Dict

open python

namespace massless.request

/-- `RequestCore`: the parsed request as raw buffers. `path` is `None` when the
request target was an absolute URI without a path. -/
structure RequestCore where
  method : Bytes
  path : Option Bytes
  query : Bytes
  headers : List (Bytes × Bytes)
  body : Bytes
  client : Option (String × Int)
  server : Option (String × Int)
  deriving DecidableEq, Repr

/-- `RequestCore.create`: header names are lower-cased. -/
def RequestCore.create (method : Bytes) (path : Option Bytes) (query : Bytes)
    (headers : List (Bytes × Bytes)) (body : Bytes) (client server : Option (String × Int)) :
    RequestCore :=
  { method, path, query, headers := headers.map fun h => (lower_bytes h.1, h.2), body, client,
    server }

/-- The functions of `urllib.parse` and of the proxy module that the request
calls. -/
structure Urllib where
  unquote : String → String
  unquote_to_bytes : String → Bytes
  forwarded_overrides : String → List (Bytes × Bytes) → Option String × Option (String × Int)

/-- `RequestCore.method`; `none` is the decoding error on a non-ASCII method. -/
def RequestCore.method_str (self : RequestCore) : Option String :=
  if self.method.all (· < 128) then some (decode_latin1 self.method) else none

/-- `RequestCore.path`: the percent-decoded path; `none` is the error of
decoding a missing path. -/
def RequestCore.path_str (self : RequestCore) (urllib : Urllib) : Option String :=
  self.path.map fun path =>
    let raw := decode_latin1 path
    if '%' ∈ raw.toList then urllib.unquote raw else raw

/-- `RequestCore.wsgi_path`: the percent-decoded bytes read as latin-1. -/
def RequestCore.wsgi_path (self : RequestCore) (urllib : Urllib) : Option String :=
  self.path.map fun path =>
    let raw := decode_latin1 path
    if '%' ∈ raw.toList then decode_latin1 (urllib.unquote_to_bytes raw) else raw

/-- `text.rstrip("; ")` -/
def rstrip_cookie (text : String) : String :=
  String.ofList ((text.toList.reverse.dropWhile fun c => c = ';' || c = ' ').reverse)

/-- `"HTTP_" + n.upper().replace("-", "_")` for an ASCII header name. -/
def header_key (name : String) : String :=
  "HTTP_" ++ String.ofList (name.toList.map fun c => if c = '-' then '_' else c.toUpper)

/-- One step of the loop that folds headers into lists of values per key. -/
def collect_header (collected : Dict String (List String)) (header : Bytes × Bytes) :
    Dict String (List String) :=
  let n := decode_latin1 header.1
  let v := decode_latin1 header.2
  if '_' ∈ n.toList then collected
  else if n = "content-length" then collected
  else
    let key := if n = "content-type" then "CONTENT_TYPE" else header_key n
    let v := if key = "HTTP_COOKIE" then rstrip_cookie v else v
    collected.set key ((collected.get? key).getD [] ++ [v])

/-- The text entries of `_build_wsgi_environ`; `REQUEST_METHOD` and
`wsgi.input` are not text and are kept apart. -/
def RequestCore.environ_vars (self : RequestCore) (urllib : Urllib) : Dict String String :=
  let path_info := (self.wsgi_path urllib).getD ""
  let environ : Dict String String := Dict.empty
    |>.set "PATH_INFO" path_info
    |>.set "QUERY_STRING" (decode_latin1 self.query)
    |>.set "SERVER_PROTOCOL" "HTTP/1.1"
    |>.set "wsgi.url_scheme" "http"
    |>.set "CONTENT_LENGTH" (toString self.body.length)
  let collected := self.headers.foldl collect_header .empty
  let environ := match collected.get? "HTTP_COOKIE" with
    | some cookies => environ.set "HTTP_COOKIE" ("; ".intercalate cookies)
    | none => environ
  let environ := (collected.erase "HTTP_COOKIE").entries.foldl
    (fun d entry => d.set entry.1 (",".intercalate entry.2)) environ
  let environ := match self.server with
    | some server => (environ.set "SERVER_NAME" server.1).set "SERVER_PORT" (toString server.2)
    | none => (environ.set "SERVER_NAME" "unknown").set "SERVER_PORT" "0"
  match self.client with
  | none => environ
  | some client =>
    let (scheme, forwarded_client) := urllib.forwarded_overrides client.1 self.headers
    let environ := match scheme with
      | some scheme => environ.set "wsgi.url_scheme" scheme
      | none => environ
    let (remote_host, remote_port) := forwarded_client.getD client
    environ.set "REMOTE_ADDR" remote_host
      |>.set "REMOTE_HOST" remote_host
      |>.set "REMOTE_PORT" (toString remote_port)

end massless.request
