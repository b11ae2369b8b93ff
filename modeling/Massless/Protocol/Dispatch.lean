import Massless.Python.Effect
import Massless.Response.Fold

open python
open massless.response

namespace massless.protocol

/-- `asyncio.CancelledError`, which `except Exception` does not catch. -/
def CancelledError : Exc := .other "CancelledError"

/-- The class of response that `dispatch` tells apart. -/
inductive ResponseKind (Data : Type) where
  | fast (body : FastBody Data)
  | streaming
  | plain

/-- A response object: what the folds read of it, and the resource closers
registered on it. -/
structure DjangoResponse (Data : Type) where
  kind : ResponseKind Data
  fields : HttpResponse
  resource_closers : List Nat
  has_render : Bool

/-- What a view or the handler returns: a response, nothing, a coroutine, or an
object without the response API. -/
inductive Reply (Data : Type) where
  | response (dj_resp : DjangoResponse Data)
  | none
  | coroutine
  | object

/-- What happens around a request, as far as teardown is concerned. -/
inductive Event where
  | request_started
  | entered
  | request_finished
  | connections_returned
  | closer (id : Nat)
  deriving DecidableEq, Repr

/-- A call into Django: the events it caused, and how it ended. -/
structure Call where
  events : List Event
  outcome : Except Exc Unit

/-- How each call made by `dispatch` behaves in one run. A call that is awaited
may end in `CancelledError`. -/
structure Calls (Data : Type) where
  pool_lifecycle : Bool
  routed : Except Exc Bool
  request_started : Except Exc Unit
  view : Except Exc (Reply Data)
  render : DjangoResponse Data → Except Exc (Reply Data)
  response_for_exception : Exc → Except Exc (DjangoResponse Data)
  request_close : Nat
  log_response : Except Exc Unit
  handle : Except Exc (Reply Data)
  serialize_body : Data → Option Bytes
  closer : Nat → Except Exc Unit
  close : DjangoResponse Data → Call
  close_old_connections : Call

/-- The run of one `dispatch`: the events so far, and the closers registered on the
response it holds. -/
structure Run where
  trace : List Event
  registered : List Nat

variable {Data : Type}

def emit (events : List Event) : Py Run Unit :=
  Py.modify fun run => { run with trace := run.trace ++ events }

/-- A call that leaves its events even where it fails. -/
def Call.run (call : Call) : Py Run Unit := do
  emit call.events
  Py.lift call.outcome

/-- `handler.check_response` and the coroutine check after rendering. -/
def check_response : Reply Data → Except Exc Unit
  | .none => .error (.other "ValueError")
  | .coroutine => .error (.other "ValueError")
  | _ => .ok ()

/-- The body of the `try` around the view. -/
def Calls.rendered (calls : Calls Data) : Except Exc (Reply Data) := do
  let reply ← calls.view
  check_response reply
  match reply with
  | .response dj_resp =>
    if dj_resp.has_render then
      match ← calls.render dj_resp with
      | .coroutine => .error (.other "RuntimeError")
      | rendered => .ok rendered
    else .ok reply
  | _ => .ok reply

/-- The view with the `except Exception` around it. -/
def Calls.answer (calls : Calls Data) : Except Exc (Reply Data) :=
  match calls.rendered with
  | .ok reply => .ok reply
  | .error e =>
    if e = CancelledError then .error e
    else (calls.response_for_exception e).map .response

/-- `dj_resp._resource_closers.append(request.close)` -/
def register_close (request_close : Nat) : Reply Data → Except Exc (DjangoResponse Data)
  | .response dj_resp =>
    .ok { dj_resp with resource_closers := dj_resp.resource_closers ++ [request_close] }
  | _ => .error (.AttributeError "_resource_closers")

/-- Before the view or the handler runs. -/
def start (calls : Calls Data) : Py Run Unit := do
  if calls.pool_lifecycle then pure ()
  else do
    Py.lift calls.request_started
    emit [.request_started]
  emit [.entered]

def hold (dj_resp : DjangoResponse Data) : Py Run Unit :=
  Py.modify fun run => { run with registered := dj_resp.resource_closers }

/-- The fast path: the view is run by `dispatch` itself. -/
def fast_path (calls : Calls Data) : Py Run (Reply Data) := do
  start calls
  let reply ← Py.lift calls.answer
  let dj_resp ← Py.lift (register_close calls.request_close reply)
  hold dj_resp
  if 400 ≤ dj_resp.fields.status_code then Py.lift calls.log_response else pure ()
  pure (.response dj_resp)

/-- Every other request goes through the handler. -/
def handler_path (calls : Calls Data) : Py Run (Reply Data) := do
  start calls
  let reply ← Py.lift calls.handle
  match reply with
  | .response dj_resp => hold dj_resp
  | _ => pure ()
  pure reply

def run_view (calls : Calls Data) (routed : Bool) : Py Run (Reply Data) :=
  if routed then fast_path calls else handler_path calls

/-- The response folded for the serializer, and whether the connection stays open.
A body that msgspec refuses and a text outside latin-1 raise here, and so does the
first attribute read from an object that is no response. -/
def fold_response (calls : Calls Data) (keep_alive : Bool) :
    Reply Data → Except Exc (Response × Bool)
  | .response dj_resp =>
    match dj_resp.kind with
    | .fast body =>
      match fast_response_to_massless calls.serialize_body body dj_resp.fields with
      | some resp => .ok (resp, keep_alive)
      | none => .error (.other "UnicodeEncodeError")
    | .streaming =>
      .ok (Response.new 501 (ascii "Streaming responses are not supported yet")
        (ascii "text/plain; charset=utf-8") (ascii "Not Implemented"), keep_alive)
    | .plain =>
      match django_response_to_massless dj_resp.fields with
      | some resp => .ok (resp, keep_alive && !dj_resp.fields.asks_close)
      | none => .error (.other "UnicodeEncodeError")
  | _ => .error (.AttributeError "status_code")

/-- One closer in pool mode, with `except Exception: pass` around it. -/
def run_closer (calls : Calls Data) (id : Nat) : Py Run Unit := do
  emit [.closer id]
  match calls.closer id with
  | .ok _ => pure ()
  | .error e => if e = CancelledError then Py.raise e else pure ()

def run_closers (calls : Calls Data) : List Nat → Py Run Unit
  | [] => pure ()
  | id :: rest => do
    run_closer calls id
    run_closers calls rest

/-- Teardown: in pool mode the closers and the connections are seen to here, else
`aclose()` or `close()` of the response does it. -/
def teardown (calls : Calls Data) : Reply Data → Py Run Unit
  | .response dj_resp =>
    if calls.pool_lifecycle then do
      run_closers calls dj_resp.resource_closers
      Call.run calls.close_old_connections
    else Call.run (calls.close dj_resp)
  | _ => Py.raise (.AttributeError "_resource_closers")

/-- `resp.to_bytes(keep_alive, core._method), keep_alive` -/
def wire_bytes (date method : Bytes) (folded : Response × Bool) : Except Exc (Bytes × Bool) :=
  match folded.1.to_bytes date folded.2 method with
  | some wire => .ok (wire, folded.2)
  | none => .error (.other "UnicodeEncodeError")

/-- `dispatch`, from the request on: the wire bytes and whether the connection
stays open. -/
def dispatch (calls : Calls Data) (date : Bytes) (keep_alive : Bool) (method : Bytes) :
    Py Run (Bytes × Bool) := do
  let routed ← Py.lift calls.routed
  let reply ← run_view calls routed
  let folded ← Py.lift (fold_response calls keep_alive reply)
  teardown calls reply
  Py.lift (wire_bytes date method folded)

/-- Start and teardown are paired: once the request has started there is one
teardown, and every closer registered on the response has run once. -/
def Paired (calls : Calls Data) (run : Run) : Prop :=
  (if calls.pool_lifecycle then Event.entered else Event.request_started) ∈ run.trace →
    run.trace.count .request_finished = (if calls.pool_lifecycle then 0 else 1) ∧
    run.trace.count .connections_returned = (if calls.pool_lifecycle then 1 else 0) ∧
    ∀ id, run.trace.count (.closer id) = run.registered.count id

/-- The events of a teardown that saw to everything. -/
def Complete (calls : Calls Data) (registered : List Nat) (events : List Event) : Prop :=
  events.count .request_finished = (if calls.pool_lifecycle then 0 else 1) ∧
  events.count .connections_returned = (if calls.pool_lifecycle then 1 else 0) ∧
  ∀ id, events.count (.closer id) = registered.count id

end massless.protocol
