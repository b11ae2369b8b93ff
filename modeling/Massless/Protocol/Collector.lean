import Massless.Python.Bytes

open python

namespace massless.protocol

/-- A callback of the parser. The ones that ask the parser for its version or
method carry the answer. -/
inductive Callback where
  | on_message_begin
  | on_url (url : Bytes)
  | on_header (name value : Bytes)
  | on_headers_complete (version : String)
  | on_body (body : Bytes)
  | on_message_complete (method : Bytes) (version : String)
  deriving DecidableEq

/-- A captured request: method, url, headers, body and keep-alive. -/
structure Message where
  method : Bytes
  url : Bytes
  headers : List (Bytes × Bytes)
  body : Bytes
  keep_alive : Bool
  deriving DecidableEq

/-- `_Collector` -/
structure Collector where
  url : Bytes
  headers : List (Bytes × Bytes)
  body : Bytes
  requests : List Message
  deriving DecidableEq

namespace Collector

def new : Collector := ⟨[], [], [], []⟩

def on_message_begin (self : Collector) : Collector :=
  { self with url := [], headers := [], body := [] }

def on_url (self : Collector) (url : Bytes) : Collector := { self with url := self.url ++ url }

def on_header (self : Collector) (name value : Bytes) : Collector :=
  { self with headers := self.headers ++ [(name, value)] }

def on_body (self : Collector) (body : Bytes) : Collector := { self with body := self.body ++ body }

/-- `_keep_alive`: off for HTTP/1.0, else unless the request asks to close. -/
def keep_alive (self : Collector) (version : String) : Bool :=
  if version = "1.0" then false
  else !self.headers.any fun header =>
    lower_bytes header.1 = ascii "connection" ∧ lower_bytes header.2 = ascii "close"

def on_message_complete (self : Collector) (method : Bytes) (version : String) : Collector :=
  { url := [], headers := [], body := []
    requests := self.requests ++
      [⟨method, self.url, self.headers, self.body, self.keep_alive version⟩] }

/-- `on_headers_complete` answers `100 Continue` to an HTTP/1.1 request with an
`Expect: 100-continue` header. -/
def expects_continue (self : Collector) (version : String) : Bool :=
  version = "1.1" && self.headers.any fun header =>
    lower_bytes header.1 = ascii "expect" ∧
      contains_bytes (ascii "100-continue") (lower_bytes header.2)

/-- `take`: the captured requests, and the collector without them. -/
def take (self : Collector) : List Message × Collector :=
  (self.requests, { self with requests := [] })

/-- What a callback does to the collector. -/
def receive (self : Collector) : Callback → Collector
  | .on_message_begin => self.on_message_begin
  | .on_url url => self.on_url url
  | .on_header name value => self.on_header name value
  | .on_headers_complete _ => self
  | .on_body body => self.on_body body
  | .on_message_complete method version => self.on_message_complete method version

end Collector

/-- Callbacks with the fragments of one URL or of one body joined. -/
def join_fragments : List Callback → List Callback
  | .on_url first :: .on_url second :: rest => join_fragments (.on_url (first ++ second) :: rest)
  | .on_body first :: .on_body second :: rest => join_fragments (.on_body (first ++ second) :: rest)
  | callback :: rest => callback :: join_fragments rest
  | [] => []
  termination_by callbacks => callbacks.length

/-- Whatever appends fragments does not see how a URL or a body was cut. -/
theorem foldl_join_fragments {S : Type} {receive : S → Callback → S}
    (hurl : ∀ s first second, receive (receive s (.on_url first)) (.on_url second) =
      receive s (.on_url (first ++ second)))
    (hbody : ∀ s first second, receive (receive s (.on_body first)) (.on_body second) =
      receive s (.on_body (first ++ second)))
    (callbacks : List Callback) (s : S) :
    (join_fragments callbacks).foldl receive s = callbacks.foldl receive s := by
  induction callbacks using join_fragments.induct generalizing s with
  | case1 first second rest ih =>
    rw [join_fragments, ih, List.foldl_cons, List.foldl_cons, List.foldl_cons, hurl]
  | case2 first second rest ih =>
    rw [join_fragments, ih, List.foldl_cons, List.foldl_cons, List.foldl_cons, hbody]
  | case3 callback rest hurl_end hbody_end ih =>
    rw [join_fragments, List.foldl_cons, List.foldl_cons, ih]
    · exact hurl_end
    · exact hbody_end
  | case4 => simp [join_fragments]

end massless.protocol
