import Massless.Protocol.Worker
import Massless.Transition.Machine

open python
open transition (Machine)

namespace massless.protocol

/-- Where `_drain` is: not called, waiting for the futures that were in flight, on
the ready queue behind the workers that were ready before it, or over, in time or
not. -/
inductive Drain where
  | idle
  | waiting (pending : List (Nat × Nat))
  | woken (ahead : List Nat)
  | returned
  | expired
  deriving DecidableEq

/-- One worker process: `serve_async` with its handler and its connections. -/
structure Server where
  handler : Handler
  conns : List Connection
  drain : Drain
  hooks_run : Bool
  deriving DecidableEq

/-- What can happen to `serve_async` once `_drain` is waiting: the futures it waits
for are all done, it gets its turn, its time is up, or, behind it, the shutdown
hooks run. -/
inductive DrainAct where
  | wait_done
  | resume
  | timeout
  | run_hooks

/-- A step of the server. -/
inductive Action (Data : Type) where
  | connection_made (peer sockname : Option (String × Int))
  | connection (c : Nat) (act : Act Data)
  | stop
  | drain (act : DrainAct)

/-- The future of the request that a worker handles. -/
def Worker.future (c : Nat) : Worker → List (Nat × Nat)
  | .handling r => [(c, r.index)]
  | _ => []

namespace Handler

/-- `begin_drain` -/
def begin_drain (self : Handler) : Handler :=
  { self with draining := true, drain_event := self.drain_event.map fun _ => true }

/-- `_inflight` after a step of a connection: the future of the request that was
handled before is discarded, and that of the one handled now is in. -/
def track (self : Handler) (c : Nat) (before after : Worker) : Handler :=
  { self with
    inflight := (self.inflight.filter fun future => future ∉ before.future c) ++ after.future c }

/-- `_wake_on_drain` makes the event when there is none. -/
def make_event {Data : Type} (self : Handler) : Act Data → Handler
  | .waker => { self with drain_event := some (self.drain_event.getD false) }
  | _ => self

/-- The check at the top of the loop of `_drain`. -/
def check_inflight (self : Handler) : Drain :=
  if self.inflight.isEmpty then .returned else .waiting self.inflight

end Handler

/-- A worker task that has run is off the ready queue. -/
def Drain.ran {Data : Type} (c : Nat) (act : Act Data) : Drain → Drain
  | .woken ahead =>
    match act with
    | .worker => .woken (ahead.filter fun other => other ≠ c)
    | _ => .woken ahead
  | drain => drain

/-- What is noted of a connection when the drain begins. -/
def Connection.note_drain (self : Connection) : Connection :=
  { self with before_drain := self.enqueued.length, open_at_drain := self.is_open }

namespace Server

variable {Data : Type}

/-- `serve_async` once the socket accepts. -/
def new : Server :=
  { handler := { draining := false, drain_event := some false, inflight := [] }
    conns := [], drain := .idle, hooks_run := false }

/-- The connections whose workers are on the ready queue. -/
def ready_workers (self : Server) : List Nat :=
  (List.range self.conns.length).filter fun c => self.conns[c]?.any Connection.worker_ready

/-- A step of `serve_async` behind `begin_drain`, where it is possible. The ready
queue is served in order, so `_drain` goes on after every worker that was ready
before it was woken. -/
def drain_act (self : Server) : DrainAct → Option Server
  | .wait_done =>
    match self.drain with
    | .waiting pending =>
      if pending.all (· ∉ self.handler.inflight) then
        some { self with drain := .woken self.ready_workers }
      else none
    | _ => none
  | .resume =>
    if self.drain = .woken [] then some { self with drain := self.handler.check_inflight } else none
  | .timeout =>
    match self.drain with
    | .waiting _ => some { self with drain := .expired }
    | .woken _ => some { self with drain := .expired }
    | _ => none
  | .run_hooks =>
    if self.drain = .returned ∨ self.drain = .expired then some { self with hooks_run := true }
    else none

/-- One step, where it is possible. `begin_drain` and the first check of `_drain` run
without a suspension in between. -/
def step (parse_url : ParseUrl) (self : Server) : Action Data → Option Server
  | .connection_made peer sockname =>
    some { self with conns := self.conns ++ [.connection_made peer sockname] }
  | .connection c act => do
    let conn ← self.conns[c]?
    let next ← conn.act parse_url self.handler act
    some { self with
      handler := (self.handler.make_event act).track c conn.worker next.worker
      conns := self.conns.set c next
      drain := self.drain.ran c act }
  | .stop =>
    if self.drain = .idle then
      some { self with
        handler := self.handler.begin_drain
        conns := self.conns.map Connection.note_drain
        drain := self.handler.check_inflight }
    else none
  | .drain act => self.drain_act act

end Server

/-- The callbacks for a request without headers, and how the call ends. -/
def get_feed (error : Option HttptoolsError) : Feed :=
  ⟨[.on_message_begin, .on_url (ascii "/"), .on_headers_complete "1.1",
    .on_message_complete (ascii "GET") "1.1"], error⟩

/-- The server as a machine. -/
def server (Data : Type) (parse_url : ParseUrl) : Machine Server (Action Data) where
  init s := s = .new
  step := Server.step parse_url

end massless.protocol
