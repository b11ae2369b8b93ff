import Massless.Protocol.Collector
import Massless.Protocol.Dispatch
import Massless.Request.Core

open python
open massless.request massless.response

namespace massless.protocol

/-- What was done to a transport: a `100 Continue`, a response, the answer to
malformed input, a close by the protocol, or one by the event loop. Writes name
the request they are about by its place in the stream. -/
inductive Op where
  | continue_100 (request : Nat)
  | response (request : Nat) (raw : Bytes)
  | bad_request (request : Nat) (raw : Bytes)
  | close
  | abort
  deriving DecidableEq

/-- Bytes that reach the client. -/
def Op.is_write : Op → Bool
  | .close | .abort => false
  | _ => true

/-- The answer to malformed input. -/
def Op.is_bad_request : Op → Bool
  | .bad_request _ _ => true
  | _ => false

/-- The request that a response answers, whatever its status. -/
def Op.answers : Op → Option Nat
  | .response request _ => some request
  | .bad_request request _ => some request
  | _ => none

/-- A request on the queue of a connection, with its place in the stream. -/
structure Request where
  index : Nat
  core : RequestCore
  keep_alive : Bool
  deriving DecidableEq

/-- An item of the queue: a request, or `_DRAIN_SENTINEL`. -/
inductive Item where
  | request (r : Request)
  | sentinel
  deriving DecidableEq

/-- Why the worker left `_process_loop`. -/
inductive Exit where
  | idle
  | sentinel
  | closed
  | cancelled
  deriving DecidableEq

/-- Where the worker task is: not made, made but not started, waiting in
`queue.get()`, waiting in `dispatch`, or done. -/
inductive Worker where
  | absent
  | created
  | getting
  | handling (r : Request)
  | exited (exit : Exit)
  deriving DecidableEq

/-- Where the task of `_wake_on_drain` is. -/
inductive Waker where
  | absent
  | created
  | waiting
  | put
  | cancelled
  deriving DecidableEq

/-- One connection: `MasslessProtocol` with its transport and its two tasks. The
last six fields are history: how many captured messages were taken from the
collector, what was put on the queue and what was dispatched, how often the
sentinel was put, and, of when the drain began, how much had been put and whether
the transport was open. -/
structure Connection where
  made : Bool
  attached : Bool
  ops : List Op
  peer : Option (String × Int)
  sockname : Option (String × Int)
  collector : Collector
  queue : List Item
  worker : Worker
  cancelling : Bool
  waker : Waker
  taken : Nat
  enqueued : List Request
  dispatched : List Request
  sentinels : Nat
  before_drain : Nat
  open_at_drain : Bool
  deriving DecidableEq

/-- The exceptions of httptools. `HttpParserInvalidURLError` is a subclass of
`HttpParserError`, `HttpParserUpgrade` is not. -/
inductive HttptoolsError where
  | HttpParserError
  | HttpParserInvalidURLError
  | HttpParserUpgrade
  deriving DecidableEq, Repr

/-- `except httptools.HttpParserError` -/
def HttptoolsError.is_parser_error : HttptoolsError → Bool
  | .HttpParserUpgrade => false
  | _ => true

/-- What `httptools.parse_url` finds. -/
structure ParsedUrl where
  path : Option Bytes
  query : Option Bytes

abbrev ParseUrl := Bytes → Except HttptoolsError ParsedUrl

/-- One call of `feed_data`: the callbacks it fired, and its exception. -/
structure Feed where
  callbacks : List Callback
  error : Option HttptoolsError

/-- The call ended in an exception that `data_received` answers. -/
def Feed.malformed (feed : Feed) : Bool := feed.error.any HttptoolsError.is_parser_error

namespace Connection

def new : Connection :=
  { made := false, attached := false, ops := [], peer := none, sockname := none
    collector := .new, queue := [], worker := .absent, cancelling := false, waker := .absent
    taken := 0, enqueued := [], dispatched := [], sentinels := 0, before_drain := 0
    open_at_drain := false }

/-- `connection_made` -/
def connection_made (peer sockname : Option (String × Int)) : Connection :=
  { new with made := true, attached := true, peer, sockname, worker := .created }

/-- `transport.is_closing()` -/
def is_closing (self : Connection) : Bool := .close ∈ self.ops ∨ .abort ∈ self.ops

/-- `self._transport is not None and not self._transport.is_closing()` -/
def is_open (self : Connection) : Bool := self.attached && !self.is_closing

def push (self : Connection) (op : Op) : Connection := { self with ops := self.ops ++ [op] }

/-- `_close_transport` -/
def close_transport (self : Connection) : Connection :=
  if self.is_open then self.push .close else self

/-- How many messages of the stream are complete so far. -/
def completed (self : Connection) : Nat := self.taken + self.collector.requests.length

/-- A callback of the parser. -/
def receive (self : Connection) (callback : Callback) : Connection :=
  match callback with
  | .on_headers_complete version =>
    if self.made && self.collector.expects_continue version && !self.is_closing then
      self.push (.continue_100 self.completed)
    else self
  | _ => { self with collector := self.collector.receive callback }

/-- `queue.put_nowait((core, keep_alive))` -/
def put_request (self : Connection) (r : Request) : Connection :=
  { self with queue := self.queue ++ [.request r], enqueued := self.enqueued ++ [r] }

/-- `RequestCore.create` of a captured message. -/
def to_request (self : Connection) (index : Nat) (message : Message) (parsed : ParsedUrl) :
    Request :=
  ⟨index, .create message.method parsed.path (parsed.query.getD []) message.headers message.body
    self.peer self.sockname, message.keep_alive⟩

/-- The loop of `data_received` over the captured messages. -/
def enqueue (parse_url : ParseUrl) (self : Connection) :
    Nat → List Message → Except HttptoolsError Unit × Connection
  | _, [] => (.ok (), self)
  | index, message :: rest =>
    match parse_url message.url with
    | .error e => (.error e, self)
    | .ok parsed => enqueue parse_url (self.put_request (self.to_request index message parsed))
        (index + 1) rest

/-- The answer to malformed input. -/
def bad_request (date : Bytes) : Bytes :=
  build_http_response date 400 (ascii "text/plain; charset=utf-8") (ascii "Bad Request") false
    (ascii "GET")

/-- `data_received` -/
def data_received (parse_url : ParseUrl) (date : Bytes) (self : Connection) (feed : Feed) :
    Except HttptoolsError Unit × Connection :=
  let self := feed.callbacks.foldl receive self
  match feed.error with
  | some e =>
    if e.is_parser_error then
      (.ok (), if self.is_open then
        (self.push (.bad_request self.completed (bad_request date))).close_transport
      else self)
    else (.error e, self)
  | none =>
    let (captured, collector) := self.collector.take
    enqueue parse_url { self with collector, taken := self.taken + captured.length } self.taken
      captured

/-- A segment that the event loop has read: an exception that leaves `data_received`
makes it abort the transport. -/
def read_ready (parse_url : ParseUrl) (date : Bytes) (self : Connection) (feed : Feed) :
    Connection :=
  match data_received parse_url date self feed with
  | (.ok _, self) => self
  | (.error _, self) => self.push .abort

end Connection

end massless.protocol
