import Massless.Protocol.Invariant
import Massless.Protocol.Teardown
import Massless.Python.Futures

open python
open transition

namespace massless.protocol

/-- What the code of a worker sees between two of its awaits: its connection, the
future `done` of the request in hand, and `handler._inflight`. -/
structure Turn where
  conn : Connection
  done : Option Nat
  inflight : Registry

namespace Turn

def on_inflight {A : Type} (m : Py Registry A) : Py Turn A := fun self =>
  let (outcome, inflight) := m self.inflight
  (outcome, { self with inflight })

def edit (f : Connection → Connection) : Py Turn Unit :=
  Py.modify fun self => { self with conn := f self.conn }

/-- What `queue.get()` returned; a request gets its future. -/
def take_item (c : Nat) (item : Item) : Py Turn Unit := do
  edit (·.take_item item)
  match item with
  | .sentinel => pure ()
  | .request _ =>
    let done ← on_inflight (Registry.enter c)
    Py.modify fun self => { self with done := some done }

/-- The top of the loop, up to where the worker waits next. -/
def loop_top (c : Nat) (draining : Bool) : Py Turn Unit := do
  match ← Py.gets (·.conn.queue) with
  | [] => edit (·.loop_top draining)
  | item :: rest =>
    edit fun conn => { conn with queue := rest }
    take_item c item

/-- The body of the `try` behind `dispatch`, and whether the worker returns there. -/
def write_response (date : Bytes) (r : Request) (outcome : Except Exc (Bytes × Bool)) :
    Py Turn Bool := do
  match Connection.answer date r outcome with
  | none => Py.raise CancelledError
  | some (raw, keep_alive) =>
    if ← Py.gets (·.conn.is_open) then
      edit (·.push (.response r.index raw))
      if keep_alive then pure false
      else
        edit (·.close_transport)
        pure true
    else pure false

/-- The `finally` of a request. -/
def release : Py Turn Unit := do
  match ← Py.gets (·.done) with
  | some done =>
    on_inflight (Registry.release done)
    Py.modify fun self => { self with done := none }
  | none => Py.raise (.other "UnboundLocalError")

/-- A request from the end of `dispatch` to where the worker waits next. -/
def finish_request (c : Nat) (draining : Bool) (date : Bytes) (r : Request)
    (outcome : Except Exc (Bytes × Bool)) : Py Turn Unit := do
  if ← Py.try_finally (write_response date r outcome) release then edit (·.leave .closed)
  else loop_top c draining

/-- The outer `try`: a cancellation ends the worker quietly, another exception ends
it too and comes out of the task. -/
def process (m : Py Turn Unit) : Py Turn Unit := fun self =>
  match m self with
  | (.ok _, self) => (.ok (), self)
  | (.error e, self) =>
    (if e = CancelledError then .ok () else .error e,
      { self with conn := self.conn.leave .cancelled })

variable {Data : Type}

/-- One step of connection `c`, where it is possible. Only the worker uses the
registry. -/
def act (parse_url : ParseUrl) (handler : Handler) (c : Nat) (self : Turn) :
    Act Data → Option (Except Exc Unit × Turn)
  | .worker =>
    match self.conn.worker with
    | .created =>
      if self.conn.cancelling then
        some (.ok (), { self with conn := { self.conn with worker := .exited .cancelled } })
      else some (process (do
        edit fun conn => { conn with waker := .created }
        loop_top c handler.draining) self)
    | .getting =>
      if self.conn.cancelling then some (process (Py.raise CancelledError) self)
      else match self.conn.queue with
        | [] => none
        | item :: rest => some (process (do
          edit fun conn => { conn with queue := rest }
          take_item c item) self)
    | _ => none
  | .dispatched date calls =>
    match self.conn.worker with
    | .handling r => some (process (finish_request c handler.draining date r
        (dispatch calls date r.keep_alive r.core.method ⟨[], []⟩).1) self)
    | _ => none
  | act => (self.conn.act parse_url handler act).map fun conn => (.ok (), { self with conn })

end Turn

/-- Where `_drain` is in its loop. -/
inductive DrainLoop where
  | idle
  | waiting (pending : List Nat)
  | returned
  | expired
  deriving DecidableEq

/-- One worker process with its registry: the connections, each with the future of
the request in hand. The exceptions that came out of workers and the sets that
`_drain` waited for are history. -/
structure Process where
  draining : Bool
  drain_event : Option Bool
  inflight : Registry
  conns : List Connection
  dones : List (Option Nat)
  raised : List Exc
  now : Nat
  deadline : Nat
  drain : DrainLoop
  waits : List (List Nat)

/-- A step of the process. -/
inductive Move (Data : Type) where
  | connection_made (peer sockname : Option (String × Int))
  | connection (c : Nat) (act : Act Data)
  | cancel (c : Nat)
  | tick (time : Nat)
  | stop (timeout : Nat)
  | wake

/-- `worker.cancel()`. One that is handling a request sees it in how `dispatch` ends. -/
def Connection.cancel (self : Connection) : Connection :=
  { self with
    cancelling := self.cancelling || self.worker = .created || self.worker = .getting }

namespace Process

variable {Data : Type}

def new : Process :=
  { draining := false, drain_event := some false, inflight := .empty, conns := [], dones := []
    raised := [], now := 0, deadline := 0, drain := .idle, waits := [] }

/-- The handler as the connections read it. -/
def handler (self : Process) : Handler :=
  { draining := self.draining, drain_event := self.drain_event, inflight := [] }

/-- The loop of `_drain` from its condition to its next `asyncio.wait`, or to the end
with the cancelling of stragglers behind it. -/
def drain_loop (self : Process) : Process :=
  if self.inflight.registered = [] then { self with drain := .returned }
  else if self.deadline ≤ self.now then
    { self with
      drain := .expired
      inflight := self.inflight.cancel_all self.inflight.registered }
  else
    { self with
      drain := .waiting self.inflight.registered
      waits := self.waits ++ [self.inflight.registered] }

/-- `asyncio.wait(pending, timeout=remaining)` is over: all are done, or its time is
up. -/
def wait_over (self : Process) (pending : List Nat) : Bool :=
  pending.all (self.inflight.is_done ·) || decide (self.deadline ≤ self.now)

def wake (self : Process) : Option Process :=
  match self.drain with
  | .waiting pending => if self.wait_over pending then some self.drain_loop else none
  | _ => none

/-- One step, where it is possible. -/
def step (parse_url : ParseUrl) (self : Process) : Move Data → Option Process
  | .connection_made peer sockname =>
    some { self with
      conns := self.conns ++ [.connection_made peer sockname]
      dones := self.dones ++ [none] }
  | .connection c act => do
    let conn ← self.conns[c]?
    let done ← self.dones[c]?
    let (outcome, turn) ← Turn.act parse_url self.handler c ⟨conn, done, self.inflight⟩ act
    some { self with
      drain_event := (self.handler.make_event act).drain_event
      inflight := turn.inflight
      conns := self.conns.set c turn.conn
      dones := self.dones.set c turn.done
      raised := match outcome with
        | .ok _ => self.raised
        | .error e => self.raised ++ [e] }
  | .cancel c => do
    let conn ← self.conns[c]?
    some { self with conns := self.conns.set c conn.cancel }
  | .tick time => some { self with now := self.now + time }
  | .stop timeout =>
    if self.drain = .idle then
      some ({ self with
        draining := true
        drain_event := self.drain_event.map fun _ => true
        deadline := self.now + timeout }.drain_loop)
    else none
  | .wake => self.wake

end Process

/-- The process as a machine. -/
def process (Data : Type) (parse_url : ParseUrl) : Machine Process (Move Data) where
  init s := s = .new
  step := Process.step parse_url

/-- A worker between popping a request and the end of its write. -/
def Worker.is_handling : Worker → Bool
  | .handling _ => true
  | _ => false

namespace Process

/-- The registry is exact: every future in it belongs to a worker, one to each that
handles a request and none to any other, and no `set_result` was ever called on a
future that was done or still registered. -/
structure Exact (s : Process) : Prop where
  owned : ∀ f ∈ s.inflight.registered, (s.inflight.owner f).isSome
  one_each : ∀ c : Nat, s.inflight.registered.countP (fun f => s.inflight.owner f = some c) =
    if s.conns[c]?.any (·.worker.is_handling) then 1 else 0
  proper : ∀ call ∈ s.inflight.results, call.Proper
  quiet : s.raised = []

/-- `_drain` waits for futures not waited for before. The wait can end once they are
released, and at the deadline. Behind it the loop is over, or waits for others, which
are all still pending. -/
structure Advances (s : Process) : Prop where
  fresh : s.waits.flatten.Nodup ∧ [] ∉ s.waits
  enabled : ∀ pending, s.drain = .waiting pending →
    s.deadline ≤ s.now ∨ (∀ f ∈ pending, f ∉ s.inflight.registered) → s.wake.isSome
  turns : ∀ pending t, s.drain = .waiting pending → s.wake = some t →
    (t.drain = .returned ∧ t.inflight.registered = []) ∨
      (t.drain = .expired ∧ s.deadline ≤ s.now ∧
        ∀ f ∈ t.inflight.registered, t.inflight.is_done f = true) ∨
      (t.drain = .waiting t.inflight.registered ∧ s.now < s.deadline ∧
        (∀ f ∈ pending, f ∉ t.inflight.registered) ∧ t.inflight.registered ≠ [] ∧
        ∀ f ∈ t.inflight.registered, t.inflight.is_done f = false)

/-- The invariant: the registry is held by the workers that handle a request. Until
`_drain` gives up all its futures are pending, and it waits for what was registered
behind everything it waited for before. -/
structure Sound (s : Process) : Prop where
  held : s.inflight.Held s.dones
  dones : s.dones.length = s.conns.length
  handling : ∀ (c : Nat) (conn : Connection) (done : Option Nat), s.conns[c]? = some conn →
    s.dones[c]? = some done → conn.worker.is_handling = done.isSome
  proper : ∀ call ∈ s.inflight.results, call.Proper
  quiet : s.raised = []
  pending : s.drain ≠ .expired → ∀ f ∈ s.inflight.registered, s.inflight.is_done f = false
  made : ∀ f ∈ s.waits.flatten, f < s.inflight.futures.length
  fresh : s.waits.flatten.Nodup ∧ [] ∉ s.waits
  idle : s.drain = .idle → s.waits = []
  last : ∀ pending, s.drain = .waiting pending → ∃ earlier, s.waits = earlier ++ [pending] ∧
    ∀ f ∈ earlier.flatten, f ∉ s.inflight.registered

end Process

namespace Turn

/-- From a turn without a request in hand to where the worker waits next. -/
def Waits (c : Nat) (before after : Turn) : Prop :=
  (after.done = none ∧ after.inflight = before.inflight ∧
      after.conn.worker.is_handling = false) ∨
    (after.done = some before.inflight.futures.length ∧
      Registry.Entered before.inflight c after.inflight ∧ after.conn.worker.is_handling = true)

/-- What a step on a connection does to the registry: nothing, or it ends where the
worker waits next, behind the release of the request in hand if there is one. -/
inductive Effect (c : Nat) (before after : Turn) : Prop where
  | kept (hdone : after.done = before.done) (hinflight : after.inflight = before.inflight)
      (hhandling : after.conn.worker.is_handling = before.conn.worker.is_handling)
  | waits (hdone : before.done = none) (hwaits : Waits c before after)
  | finished (done : Nat) (released : Registry) (hdone : before.done = some done)
      (hreleased : Registry.Released before.inflight done released)
      (hwaits : Waits c { before with done := none, inflight := released } after)

/-- Every registered future is one that was made. -/
def Bounded (self : Turn) : Prop :=
  ∀ future ∈ self.inflight.registered, future < self.inflight.futures.length

theorem take_item_run (c : Nat) {self : Turn} (hdone : self.done = none) (hbounded : self.Bounded)
    (item : Item) : ∃ next, take_item c item self = (.ok (), next) ∧
      next.conn = self.conn.take_item item ∧ Waits c self next := by
  cases item with
  | sentinel => exact ⟨_, rfl, rfl, Or.inl ⟨hdone, rfl, rfl⟩⟩
  | request r =>
    obtain ⟨inflight, henter, hentered⟩ := self.inflight.enter_run c hbounded
    refine ⟨{ self with
      conn := self.conn.take_item (.request r), done := some self.inflight.futures.length
      inflight }, ?_, rfl, Or.inr ⟨rfl, hentered, rfl⟩⟩
    simp only [take_item, edit, on_inflight, Py.bind_run, Py.modify_run, henter]

theorem loop_top_run (c : Nat) {self : Turn} (hdone : self.done = none) (hbounded : self.Bounded)
    (draining : Bool) :
    ∃ next, loop_top c draining self = (.ok (), next) ∧
      next.conn = self.conn.loop_top draining ∧ Waits c self next := by
  cases hqueue : self.conn.queue with
  | nil =>
    refine ⟨{ self with conn := self.conn.loop_top draining }, ?_, rfl, Or.inl ⟨hdone, rfl, ?_⟩⟩
    · simp only [loop_top, Py.bind_run, Py.gets_run, hqueue, edit, Py.modify_run]
    · simp only [Connection.loop_top, hqueue]
      split <;> rfl
  | cons item rest =>
    let popped : Turn := { self with conn := { self.conn with queue := rest } }
    have hpopped : popped.Bounded := hbounded
    obtain ⟨next, hnext, hconn, hwaits⟩ := take_item_run c (show popped.done = none from hdone)
      hpopped item
    refine ⟨next, ?_, ?_, hwaits⟩
    · simp only [loop_top, Py.bind_run, Py.gets_run, hqueue, edit, Py.modify_run]
      exact hnext
    · rw [hconn, Connection.loop_top, hqueue]

theorem release_run {self : Turn} {done : Nat} (hdone : self.done = some done) :
    ∃ released, release self = (.ok (), { self with done := none, inflight := released }) ∧
      Registry.Released self.inflight done released := by
  obtain ⟨released, hrelease, hreleased⟩ := self.inflight.release_run done
  refine ⟨released, ?_, hreleased⟩
  simp only [release, on_inflight, Py.bind_run, Py.gets_run, hdone, hrelease, Py.modify_run]

/-- Writing the response leaves the registry alone, and only a cancellation gets
past it. -/
theorem write_response_run (self : Turn) (date : Bytes) (r : Request)
    (outcome : Except Exc (Bytes × Bool)) :
    ∃ written conn, write_response date r outcome self = (written, { self with conn }) ∧
      ((written = .error CancelledError ∧ conn = self.conn ∧
          Connection.answer date r outcome = none) ∨
        ∃ returns answered, written = .ok returns ∧
          Connection.answer date r outcome = some answered ∧
          ∀ draining, self.conn.respond draining r answered.1 answered.2 =
            if returns then conn.leave .closed else conn.loop_top draining) := by
  cases hanswer : Connection.answer date r outcome with
  | none =>
    refine ⟨_, self.conn, ?_, Or.inl ⟨rfl, rfl, rfl⟩⟩
    simp only [write_response, hanswer, Py.raise_run]
  | some answered =>
    obtain ⟨raw, keep_alive⟩ := answered
    cases hopen : self.conn.is_open with
    | false =>
      refine ⟨.ok false, self.conn, ?_, Or.inr ⟨_, _, rfl, rfl, ?_⟩⟩
      · simp only [write_response, hanswer, Py.bind_run, Py.gets_run, hopen, Bool.false_eq_true,
          if_false, Py.pure_run]
      · simp [Connection.respond, hopen]
    | true =>
      cases keep_alive with
      | true =>
        refine ⟨.ok false, self.conn.push (.response r.index raw), ?_, Or.inr ⟨_, _, rfl, rfl, ?_⟩⟩
        · simp only [write_response, hanswer, Py.bind_run, Py.gets_run, hopen, if_true, edit,
            Py.modify_run, Py.pure_run]
        · simp [Connection.respond, hopen]
      | false =>
        refine ⟨.ok true, (self.conn.push (.response r.index raw)).close_transport, ?_,
          Or.inr ⟨_, _, rfl, rfl, ?_⟩⟩
        · simp only [write_response, hanswer, Py.bind_run, Py.gets_run, hopen, if_true, edit,
            Py.modify_run, Bool.false_eq_true, if_false, Py.pure_run]
        · simp [Connection.respond, hopen]

/-- However `dispatch` ends, the request in hand is released before the worker waits
again or is over. -/
theorem finish_request_run (c : Nat) {self : Turn} {done : Nat} (hdone : self.done = some done)
    (hbounded : self.Bounded) (draining : Bool) (date : Bytes) {r : Request}
    (hworker : self.conn.worker = .handling r) (outcome : Request → Except Exc (Bytes × Bool)) :
    ∃ released next,
      process (finish_request c draining date r (outcome r)) self = (.ok (), next) ∧
      self.conn.finish_dispatch draining date outcome = some next.conn ∧
      Registry.Released self.inflight done released ∧
      Waits c { self with done := none, inflight := released } next := by
  obtain ⟨written, conn, hwrite, hcases⟩ := write_response_run self date r (outcome r)
  obtain ⟨released, hrelease, hreleased⟩ : ∃ released, release { self with conn } =
      (.ok (), { conn, done := none, inflight := released }) ∧
      Registry.Released self.inflight done released := release_run hdone
  let after : Turn := { conn, done := none, inflight := released }
  have htry : Py.try_finally (write_response date r (outcome r)) release self =
      (written, after) := by
    rw [Py.try_finally_run (by rw [hwrite]; exact hrelease), hwrite]
  have hafter : after.Bounded := by
    intro future hmem
    rw [show after.inflight.registered = _ from hreleased.registered] at hmem
    rw [show after.inflight.futures.length = _ from hreleased.made]
    exact hbounded future (List.mem_filter.mp hmem).1
  obtain ⟨rfl, rfl, hanswer⟩ | ⟨returns, answered, rfl, hanswer, hrespond⟩ := hcases
  · refine ⟨released, { after with conn := self.conn.leave .cancelled }, ?_, ?_, hreleased,
      Or.inl ⟨rfl, rfl, rfl⟩⟩
    · simp only [process, finish_request, Py.bind_run, htry, if_true, after]
    · simp only [Connection.finish_dispatch, hworker, hanswer]
  · have hfinish : self.conn.finish_dispatch draining date outcome =
        some (if returns then conn.leave .closed else conn.loop_top draining) := by
      rw [← hrespond draining]
      simp only [Connection.finish_dispatch, hworker, hanswer]
    cases returns with
    | true =>
      refine ⟨released, { after with conn := conn.leave .closed }, ?_, hfinish, hreleased,
        Or.inl ⟨rfl, rfl, rfl⟩⟩
      simp only [process, finish_request, Py.bind_run, htry, if_true, edit, Py.modify_run, after]
    | false =>
      obtain ⟨next, hloop, hconn, hwaits⟩ := loop_top_run c (rfl : after.done = none) hafter
        draining
      refine ⟨released, next, ?_, ?_, hreleased, hwaits⟩
      · simp only [process, finish_request, Py.bind_run, htry, Bool.false_eq_true, if_false, hloop]
      · rw [hfinish, hconn]
        rfl

/-- What `process` does with code that goes through. -/
theorem process_run {m : Py Turn Unit} {self next : Turn} (hm : m self = (.ok (), next)) :
    process m self = (.ok (), next) := by
  simp only [process, hm]

/-- A step of a worker that has no request in hand. -/
theorem worker_effect {Data : Type} {parse_url : ParseUrl} {handler : Handler} {c : Nat}
    {self next : Turn} {outcome : Except Exc Unit}
    (hact : self.act parse_url handler c (.worker : Act Data) = some (outcome, next))
    (hfree : self.conn.worker.is_handling = false → self.done = none) (hbounded : self.Bounded) :
    outcome = .ok () ∧ self.conn.act parse_url handler (.worker : Act Data) = some next.conn ∧
      Effect c self next := by
  cases hworker : self.conn.worker with
  | created =>
    have hdone := hfree (by rw [hworker]; rfl)
    cases hcancelling : self.conn.cancelling with
    | true =>
      simp only [Turn.act, hworker, hcancelling, if_true, Option.some.injEq, Prod.mk.injEq] at hact
      obtain ⟨rfl, rfl⟩ := hact
      refine ⟨rfl, ?_, .waits hdone (Or.inl ⟨hdone, rfl, rfl⟩)⟩
      simp only [Connection.act, Connection.run_worker, hworker, hcancelling, if_true]
    | false =>
      let started : Turn := { self with conn := { self.conn with waker := .created } }
      have hstarted : started.Bounded := hbounded
      obtain ⟨last, hloop, hconn, hwaits⟩ := loop_top_run c
        (show started.done = none from hdone) hstarted handler.draining
      have hrun : process (do
          edit fun conn => { conn with waker := .created }
          loop_top c handler.draining) self = (.ok (), last) :=
        process_run (by rw [Py.bind_run]; exact hloop)
      simp only [Turn.act, hworker, hcancelling, Bool.false_eq_true, if_false, hrun,
        Option.some.injEq, Prod.mk.injEq] at hact
      obtain ⟨rfl, rfl⟩ := hact
      refine ⟨rfl, ?_, .waits hdone hwaits⟩
      simp only [Connection.act, Connection.run_worker, hworker, hcancelling, Bool.false_eq_true,
        if_false, hconn, started]
  | getting =>
    have hdone := hfree (by rw [hworker]; rfl)
    cases hcancelling : self.conn.cancelling with
    | true =>
      simp only [Turn.act, hworker, hcancelling, if_true, process, Py.raise_run, Option.some.injEq,
        Prod.mk.injEq] at hact
      obtain ⟨rfl, rfl⟩ := hact
      refine ⟨rfl, ?_, .waits hdone (Or.inl ⟨hdone, rfl, rfl⟩)⟩
      simp only [Connection.act, Connection.run_worker, hworker, hcancelling, if_true]
    | false =>
      cases hqueue : self.conn.queue with
      | nil => simp [Turn.act, hworker, hcancelling, hqueue] at hact
      | cons item rest =>
        let popped : Turn := { self with conn := { self.conn with queue := rest } }
        have hpopped : popped.Bounded := hbounded
        obtain ⟨last, htake, hconn, hwaits⟩ := take_item_run c
          (show popped.done = none from hdone) hpopped item
        have hrun : process (do
            edit fun conn => { conn with queue := rest }
            take_item c item) self = (.ok (), last) :=
          process_run (by rw [Py.bind_run]; exact htake)
        simp only [Turn.act, hworker, hcancelling, Bool.false_eq_true, if_false, hqueue, hrun,
          Option.some.injEq, Prod.mk.injEq] at hact
        obtain ⟨rfl, rfl⟩ := hact
        refine ⟨rfl, ?_, .waits hdone hwaits⟩
        simp only [Connection.act, Connection.run_worker, hworker, hcancelling,
          Bool.false_eq_true, if_false, hqueue, hconn, popped]
  | _ => simp [Turn.act, hworker] at hact

/-- A step on a connection lets no exception out of the worker, and the connection
steps as it does without the registry. -/
theorem act_effect {Data : Type} {parse_url : ParseUrl} {handler : Handler} {c : Nat}
    {self next : Turn} {act : Act Data} {outcome : Except Exc Unit}
    (hact : self.act parse_url handler c act = some (outcome, next))
    (hhandling : self.conn.worker.is_handling = self.done.isSome) (hbounded : self.Bounded) :
    outcome = .ok () ∧ self.conn.act parse_url handler act = some next.conn ∧
      Effect c self next := by
  -- the other tasks and the transport leave the worker where it is
  have hother : ∀ {conn : Connection}, conn.worker = self.conn.worker →
      Effect c self { self with conn } := fun hworker => .kept rfl rfl (by rw [hworker])
  cases act with
  | worker =>
    refine worker_effect hact (fun hworker => ?_) hbounded
    rw [hworker] at hhandling
    exact Option.not_isSome_iff_eq_none.mp (by simp [← hhandling])
  | dispatched date calls =>
    cases hworker : self.conn.worker with
    | handling r =>
      rw [hworker] at hhandling
      obtain ⟨done, hdone⟩ := Option.isSome_iff_exists.mp hhandling.symm
      obtain ⟨released, last, hfinish, hconn, hreleased, hwaits⟩ := finish_request_run c hdone
        hbounded handler.draining date hworker fun r =>
          (dispatch calls date r.keep_alive r.core.method ⟨[], []⟩).1
      simp only [Turn.act, hworker, Option.some.injEq] at hact
      rw [hfinish, Prod.mk.injEq] at hact
      obtain ⟨rfl, rfl⟩ := hact
      exact ⟨rfl, hconn, .finished done released hdone hreleased hwaits⟩
    | _ => simp [Turn.act, hworker] at hact
  | data_received date feed =>
    simp only [Turn.act, Option.map_eq_some_iff, Prod.mk.injEq] at hact
    obtain ⟨conn, hconn, rfl, rfl⟩ := hact
    obtain ⟨hopen, rfl⟩ := Connection.act_data_received hconn
    obtain ⟨interim, tail, collector, taken, rs, -, heq, -⟩ :=
      Connection.read_ready_cases parse_url date feed hopen
    exact ⟨rfl, hconn, hother (by rw [heq])⟩
  | transport_closed =>
    simp only [Turn.act, Option.map_eq_some_iff, Prod.mk.injEq] at hact
    obtain ⟨conn, hconn, rfl, rfl⟩ := hact
    obtain ⟨-, rfl⟩ := Connection.act_transport_closed hconn
    exact ⟨rfl, hconn, hother rfl⟩
  | connection_lost =>
    simp only [Turn.act, Option.map_eq_some_iff, Prod.mk.injEq] at hact
    obtain ⟨conn, hconn, rfl, rfl⟩ := hact
    obtain ⟨-, rfl⟩ := Connection.act_connection_lost hconn
    exact ⟨rfl, hconn, hother rfl⟩
  | waker =>
    simp only [Turn.act, Option.map_eq_some_iff, Prod.mk.injEq] at hact
    obtain ⟨conn, hconn, rfl, rfl⟩ := hact
    obtain ⟨-, -, rfl⟩ | ⟨-, rfl⟩ := Connection.run_waker_cases hconn <;>
      exact ⟨rfl, hconn, hother rfl⟩

variable {c : Nat} {self next : Turn}

theorem Waits.registry_kept (hwaits : Waits c self next) : self.inflight.Kept next.inflight := by
  obtain ⟨-, hsame, -⟩ | ⟨-, hentered, -⟩ := hwaits
  · rw [hsame]
    exact .refl _
  · exact hentered.kept

theorem Effect.registry_kept (heffect : Effect c self next) : self.inflight.Kept next.inflight := by
  cases heffect with
  | kept _ hinflight _ =>
    rw [hinflight]
    exact .refl _
  | waits _ hwaits => exact hwaits.registry_kept
  | finished _ released _ hreleased hwaits => exact hreleased.kept.trans hwaits.registry_kept

theorem Effect.handling (heffect : Effect c self next)
    (hhandling : self.conn.worker.is_handling = self.done.isSome) :
    next.conn.worker.is_handling = next.done.isSome := by
  have hwaiting : ∀ {before : Turn}, Waits c before next →
      next.conn.worker.is_handling = next.done.isSome := by
    rintro before (⟨hdone, -, hworker⟩ | ⟨hdone, -, hworker⟩) <;> rw [hdone, hworker] <;> rfl
  cases heffect with
  | kept hdone _ hsame => rw [hsame, hdone, hhandling]
  | waits _ hwaits => exact hwaiting hwaits
  | finished _ _ _ _ hwaits => exact hwaiting hwaits

theorem Waits.held {holders : List (Option Nat)} (hwaits : Waits c self next)
    (hheld : self.inflight.Held holders) (hholder : holders[c]? = some none) :
    next.inflight.Held (holders.set c next.done) := by
  obtain ⟨hdone, hsame, -⟩ | ⟨hdone, hentered, -⟩ := hwaits
  · rw [hdone, hsame, set_getElem?_self hholder]
    exact hheld
  · rw [hdone]
    exact hheld.enter hholder hentered

theorem Effect.held {holders : List (Option Nat)} (heffect : Effect c self next)
    (hheld : self.inflight.Held holders) (hholder : holders[c]? = some self.done) :
    next.inflight.Held (holders.set c next.done) := by
  have hbound := (List.getElem?_eq_some_iff.mp hholder).1
  cases heffect with
  | kept hdone hinflight _ =>
    rw [hdone, hinflight, set_getElem?_self hholder]
    exact hheld
  | waits hdone hwaits => exact hwaits.held hheld (hholder.trans (congrArg some hdone))
  | finished done released hdone hreleased hwaits =>
    have hfree := hheld.release (hholder.trans (congrArg some hdone)) hreleased
    have hnext := hwaits.held hfree (by simp [hbound])
    rwa [List.set_set] at hnext

end Turn

namespace Process

variable {Data : Type} {parse_url : ParseUrl} {s t : Process}

theorem sound_new : Sound new where
  held := Registry.Held.empty
  dones := rfl
  handling := by simp [new]
  proper := by simp [new, Registry.empty]
  quiet := rfl
  pending := by simp [new, Registry.empty]
  made := by simp [new]
  fresh := by simp [new]
  idle _ := rfl
  last := by simp [new]

/-- What a step on a connection does to the process. -/
theorem step_connection {c : Nat} {act : Act Data}
    (hstep : s.step parse_url (.connection c act) = some t) :
    ∃ conn done outcome turn, s.conns[c]? = some conn ∧ s.dones[c]? = some done ∧
      Turn.act parse_url s.handler c ⟨conn, done, s.inflight⟩ act = some (outcome, turn) ∧
      t = { s with
        drain_event := (s.handler.make_event act).drain_event
        inflight := turn.inflight
        conns := s.conns.set c turn.conn
        dones := s.dones.set c turn.done
        raised := match outcome with
          | .ok _ => s.raised
          | .error e => s.raised ++ [e] } := by
  simp only [step, Option.bind_eq_bind, Option.bind_eq_some_iff, Option.some.injEq] at hstep
  obtain ⟨conn, hconn, done, hdone, ⟨outcome, turn⟩, hact, rfl⟩ := hstep
  exact ⟨conn, done, outcome, turn, hconn, hdone, hact, rfl⟩

/-- The connections step as those of a server do. -/
theorem Sound.step_conns (hsound : s.Sound) {c : Nat} {act : Act Data}
    (hstep : s.step parse_url (.connection c act) = some t) :
    ∃ conn next, s.conns[c]? = some conn ∧ conn.act parse_url s.handler act = some next ∧
      t.conns = s.conns.set c next := by
  obtain ⟨conn, done, outcome, turn, hconn, hdone, hact, rfl⟩ := step_connection hstep
  obtain ⟨-, hnext, -⟩ := Turn.act_effect hact (hsound.handling c conn done hconn hdone)
    fun f hmem => hsound.held.lt_length hmem
  exact ⟨conn, turn.conn, hconn, hnext, rfl⟩

/-- What the workers do to the registry keeps the waits of `_drain` behind it. -/
theorem Sound.waits_kept {next : Registry} (hsound : s.Sound) (hkept : s.inflight.Kept next)
    {f : Nat} (hwaited : f ∈ s.waits.flatten) (hmem : f ∈ next.registered) :
    f ∈ s.inflight.registered := by
  obtain hbefore | hnew := hkept.registered f hmem
  · exact hbefore
  · exact absurd (hsound.made f hwaited) (by omega)

/-- The loop of `_drain` goes on behind the futures it has waited for. -/
theorem Sound.drain_loop (hsound : s.Sound) (hactive : s.drain ≠ .expired)
    (hpast : s.now < s.deadline → ∀ f ∈ s.waits.flatten, f ∉ s.inflight.registered) :
    s.drain_loop.Sound := by
  obtain ⟨held, dones, handling, proper, quiet, pending, made, fresh, -, -⟩ := hsound
  unfold Process.drain_loop
  split_ifs with hempty hover
  · exact ⟨held, dones, handling, proper, quiet, fun _ => pending hactive, made, fresh,
      by simp, by simp⟩
  · have hcancelled := s.inflight.cancelled_cancel_all s.inflight.registered
    refine ⟨held.cancel hcancelled, dones, handling, ?_, quiet, by simp, ?_, fresh, by simp,
      by simp⟩
    · simp only [hcancelled.results]
      exact proper
    · simp only [hcancelled.made]
      exact made
  · have hnow := hpast (Nat.lt_of_not_le hover)
    refine ⟨held, dones, handling, proper, quiet, fun _ => pending hactive, ?_, ⟨?_, ?_⟩, by simp,
      ?_⟩
    · simp only [List.flatten_append, List.flatten_singleton, List.forall_mem_append]
      exact ⟨made, fun f hmem => held.lt_length hmem⟩
    · simp only [List.flatten_append, List.flatten_singleton]
      rw [List.nodup_append]
      refine ⟨fresh.1, s.inflight.distinct, ?_⟩
      rintro f hwaited _ hmem rfl
      exact hnow f hwaited hmem
    · simp only [List.mem_append, List.mem_singleton, not_or]
      exact ⟨fresh.2, Ne.symm hempty⟩
    · intro pending hwaiting
      cases hwaiting
      exact ⟨s.waits, rfl, hnow⟩

/-- What ends a wait of `_drain` before the deadline has released all it waited for. -/
theorem Sound.wait_over (hsound : s.Sound) {pending : List Nat}
    (hwaiting : s.drain = .waiting pending) (hover : s.wait_over pending = true)
    (hbefore : s.now < s.deadline) :
    ∀ f ∈ pending, f ∉ s.inflight.registered := by
  intro f hmem hregistered
  simp only [Process.wait_over, Bool.or_eq_true, List.all_eq_true, decide_eq_true_eq] at hover
  have hdone := hover.resolve_right (Nat.not_le.mpr hbefore) f hmem
  rw [hsound.pending (by simp [hwaiting]) f hregistered] at hdone
  cases hdone

theorem wake_cases (hstep : s.wake = some t) :
    ∃ pending, s.drain = .waiting pending ∧ s.wait_over pending = true ∧ t = s.drain_loop := by
  unfold wake at hstep
  split at hstep
  · next pending hwaiting =>
    simp only [Option.ite_none_right_eq_some, Option.some.injEq] at hstep
    exact ⟨pending, hwaiting, hstep.1, hstep.2.symm⟩
  · cases hstep

theorem Sound.step (hsound : s.Sound) {move : Move Data} (hstep : s.step parse_url move = some t) :
    t.Sound := by
  cases move with
  | connection_made peer sockname =>
    simp only [Process.step, Option.some.injEq] at hstep
    subst hstep
    refine ⟨hsound.held.joined, by simp [hsound.dones], ?_, hsound.proper, hsound.quiet,
      hsound.pending, hsound.made, hsound.fresh, hsound.idle, hsound.last⟩
    intro c conn done hconn hdone
    have hlength := hsound.dones
    by_cases hbound : c < s.conns.length
    · rw [List.getElem?_append_left hbound] at hconn
      rw [List.getElem?_append_left (by omega)] at hdone
      exact hsound.handling c conn done hconn hdone
    · obtain hbefore | rfl := getElem?_joined hconn
      · exact absurd (List.getElem?_eq_some_iff.mp hbefore).1 hbound
      · obtain hbefore | rfl := getElem?_joined hdone
        · exact absurd (List.getElem?_eq_some_iff.mp hbefore).1 (by omega)
        · rfl
  | connection c act =>
    obtain ⟨conn, done, outcome, turn, hconn, hdone, hact, rfl⟩ := step_connection hstep
    have hworker := hsound.handling c conn done hconn hdone
    obtain ⟨rfl, -, heffect⟩ := Turn.act_effect hact hworker fun f hmem =>
      hsound.held.lt_length hmem
    have hkept := heffect.registry_kept
    refine ⟨heffect.held hsound.held hdone, by simp [hsound.dones], ?_, ?_, hsound.quiet,
      fun hactive => hkept.pending (hsound.pending hactive), fun f hmem => ?_, hsound.fresh,
      hsound.idle, ?_⟩
    · intro d other later hother hlater
      obtain ⟨rfl, rfl⟩ | ⟨hne, hbefore⟩ := getElem?_stepped hother
      · obtain ⟨-, rfl⟩ | ⟨hne, -⟩ := getElem?_stepped hlater
        · exact heffect.handling hworker
        · exact absurd rfl hne
      · obtain ⟨rfl, -⟩ | ⟨-, hearlier⟩ := getElem?_stepped hlater
        · exact absurd rfl hne
        · exact hsound.handling d other later hbefore hearlier
    · obtain ⟨calls, hcalls, hproper⟩ := hkept.results
      intro call hcall
      rw [hcalls] at hcall
      exact (List.mem_append.mp hcall).elim (hsound.proper call) (hproper call)
    · exact Nat.lt_of_lt_of_le (hsound.made f hmem) hkept.made
    · intro pending hwaiting
      obtain ⟨earlier, hwaits, hpast⟩ := hsound.last pending hwaiting
      refine ⟨earlier, hwaits, fun f hmem hregistered => hpast f hmem ?_⟩
      exact hsound.waits_kept hkept (by simp [hwaits, hmem]) hregistered
  | cancel c =>
    simp only [Process.step, Option.bind_eq_bind, Option.bind_eq_some_iff, Option.some.injEq]
      at hstep
    obtain ⟨conn, hconn, rfl⟩ := hstep
    refine ⟨hsound.held, by simp [hsound.dones], ?_, hsound.proper, hsound.quiet,
      hsound.pending, hsound.made, hsound.fresh, hsound.idle, hsound.last⟩
    intro d other done hother hdone
    obtain ⟨rfl, rfl⟩ | ⟨-, hbefore⟩ := getElem?_stepped hother
    · exact hsound.handling d conn done hconn hdone
    · exact hsound.handling d other done hbefore hdone
  | tick time =>
    simp only [Process.step, Option.some.injEq] at hstep
    subst hstep
    exact ⟨hsound.held, hsound.dones, hsound.handling, hsound.proper, hsound.quiet,
      hsound.pending, hsound.made, hsound.fresh, hsound.idle, hsound.last⟩
  | stop timeout =>
    simp only [Process.step, Option.ite_none_right_eq_some, Option.some.injEq] at hstep
    obtain ⟨hidle, rfl⟩ := hstep
    have hnone := hsound.idle hidle
    refine Sound.drain_loop ⟨hsound.held, hsound.dones, hsound.handling, hsound.proper,
      hsound.quiet, hsound.pending, hsound.made, hsound.fresh, hsound.idle, hsound.last⟩ ?_ ?_
    · simp [hidle]
    · simp [hnone]
  | wake =>
    obtain ⟨pending, hwaiting, hover, rfl⟩ := wake_cases hstep
    refine hsound.drain_loop (by simp [hwaiting]) fun hbefore f hwaited => ?_
    obtain ⟨earlier, hwaits, hpast⟩ := hsound.last pending hwaiting
    simp only [hwaits, List.flatten_append, List.flatten_singleton, List.mem_append] at hwaited
    exact hwaited.elim (hpast f) (hsound.wait_over hwaiting hover hbefore f)

theorem Sound.exact (hsound : s.Sound) : s.Exact := by
  refine ⟨fun f hmem => ?_, fun c => ?_, hsound.proper, hsound.quiet⟩
  · obtain ⟨c, hholder⟩ := hsound.held.holder f hmem
    simp [(hsound.held.registered c f hholder).2]
  rw [hsound.held.count]
  cases hconn : s.conns[c]? with
  | none =>
    have hbound := List.getElem?_eq_none_iff.mp hconn
    rw [← hsound.dones] at hbound
    simp [List.getElem?_eq_none hbound]
  | some conn =>
    have hbound := (List.getElem?_eq_some_iff.mp hconn).1
    rw [← hsound.dones] at hbound
    have hworker := hsound.handling c conn s.dones[c] hconn (List.getElem?_eq_getElem hbound)
    simp [List.getElem?_eq_getElem hbound, hworker]

theorem Sound.advances (hsound : s.Sound) : s.Advances := by
  refine ⟨hsound.fresh, fun pending hwaiting hready => ?_, fun pending t hwaiting hstep => ?_⟩
  · have hover : s.wait_over pending = true := by
      simp only [Process.wait_over, Bool.or_eq_true, List.all_eq_true, decide_eq_true_eq]
      exact hready.symm.imp_left fun hreleased f hmem => hsound.held.is_done (hreleased f hmem)
    simp [wake, hwaiting, hover]
  · obtain ⟨_, hsame, hover, rfl⟩ := wake_cases hstep
    obtain rfl : pending = _ := DrainLoop.waiting.inj (hwaiting.symm.trans hsame)
    unfold Process.drain_loop
    split_ifs with hempty hlate
    · exact Or.inl ⟨rfl, hempty⟩
    · have hcancelled := s.inflight.cancelled_cancel_all s.inflight.registered
      refine Or.inr (Or.inl ⟨rfl, hlate, fun f hmem => ?_⟩)
      rw [hcancelled.registered] at hmem
      simp [Registry.is_done, hcancelled.state, hmem,
        (Registry.is_done_eq_false_iff _ _).mp (hsound.pending (by simp [hwaiting]) f hmem)]
    · have hbefore := Nat.lt_of_not_le hlate
      exact Or.inr (Or.inr ⟨rfl, hbefore, hsound.wait_over hwaiting hover hbefore, hempty,
        hsound.pending (by simp [hwaiting])⟩)

/-- In every state that any interleaving reaches, `_inflight` has exactly the futures of
the requests in hand, each is let go before it is resolved, and `_drain` gets on. -/
theorem inflight_exact {steps : List (Process × Move Data)}
    (hrun : (process Data parse_url).Run steps s) : s.Exact ∧ s.Advances := by
  have hsound : s.Sound := hrun.invariant (I := Sound) (by rintro s rfl; exact sound_new)
    fun hsound hstep => hsound.step hstep
  exact ⟨hsound.exact, hsound.advances⟩

/-- A drain begins while a view runs, its time passes, and the view answers after its
future was cancelled. -/
def late_answer : List (Move Unit) :=
  [.connection_made none none, .connection 0 .worker,
   .connection 0 (.data_received (ascii "now") (get_feed none)), .connection 0 .worker,
   .stop 5, .tick 5, .wake,
   .connection 0 (.dispatched (ascii "now") (json_calls fun _ => some []))]

theorem inflight_exact_late_answer : ∃ steps s,
    (process Unit fun url => .ok ⟨some url, none⟩).trace new late_answer = some (steps, s) ∧
      s.drain = .expired ∧ s.inflight.futures = [⟨0, .cancelled⟩] ∧ s.Exact ∧ s.Advances := by
  obtain ⟨⟨steps, s⟩, htrace⟩ := Option.isSome_iff_exists.mp (show
    ((process Unit fun url => .ok ⟨some url, none⟩).trace new late_answer).isSome = true from rfl)
  refine ⟨steps, s, htrace, ?_, ?_, inflight_exact (Machine.run_of_trace late_answer rfl htrace)⟩
  · cases htrace
    rfl
  · cases htrace
    rfl

end Process

end massless.protocol
