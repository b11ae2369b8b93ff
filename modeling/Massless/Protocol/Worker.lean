import Massless.Protocol.Connection

open python
open massless.response

namespace massless.protocol

/-- `MasslessHandler`, as the connections share it. `_drain_event` is absent or an
event that is set or not, and a future of `_inflight` is known by its connection and
its request. -/
structure Handler where
  draining : Bool
  drain_event : Option Bool
  inflight : List (Nat × Nat)
  deriving DecidableEq

/-- `_drain_waker.cancel()`, unless it is done. -/
def Waker.cancel : Waker → Waker
  | .created => .cancelled
  | .waiting => .cancelled
  | waker => waker

namespace Connection

/-- `_process_loop` ends: its `finally` cancels the waker. -/
def leave (self : Connection) (exit : Exit) : Connection :=
  { self with worker := .exited exit, waker := self.waker.cancel }

/-- What `queue.get()` returned. -/
def take_item (self : Connection) : Item → Connection
  | .sentinel => self.close_transport.leave .sentinel
  | .request r => { self with worker := .handling r, dispatched := self.dispatched ++ [r] }

/-- The top of the loop, up to where the worker waits next. A queue that is not
empty gives its item at once. -/
def loop_top (draining : Bool) (self : Connection) : Connection :=
  match self.queue with
  | [] => if draining then self.close_transport.leave .idle else { self with worker := .getting }
  | item :: rest => { self with queue := rest }.take_item item

/-- A step of the worker task while it is not handling a request. A task cancelled
before its first step never runs, and makes no waker. -/
def run_worker (draining : Bool) (self : Connection) : Option Connection :=
  match self.worker with
  | .created =>
    if self.cancelling then some { self with worker := .exited .cancelled }
    else some ({ self with waker := .created }.loop_top draining)
  | .getting =>
    if self.cancelling then some (self.leave .cancelled)
    else match self.queue with
      | [] => none
      | item :: rest => some ({ self with queue := rest }.take_item item)
  | _ => none

/-- The answer to a failure outside Django's own exception handling. -/
def internal_server_error (date method : Bytes) : Bytes :=
  build_http_response date 500 (ascii "text/plain; charset=utf-8") (ascii "Internal Server Error")
    false method

/-- The bytes to write after `dispatch`, and whether the connection stays open. Only
a cancellation gets past the `except Exception`. -/
def answer (date : Bytes) (r : Request) : Except Exc (Bytes × Bool) → Option (Bytes × Bool)
  | .ok answered => some answered
  | .error e =>
    if e = CancelledError then none else some (internal_server_error date r.core.method, false)

theorem answer_eq_none_iff (date : Bytes) (r : Request) (outcome : Except Exc (Bytes × Bool)) :
    answer date r outcome = none ↔ outcome = .error CancelledError := by
  cases outcome with
  | ok answered => simp [answer]
  | error e => simp [answer]

/-- The response is written to an open transport, which is closed behind it if it
does not stay open. -/
def respond (draining : Bool) (self : Connection) (r : Request) (raw : Bytes) (keep_alive : Bool) :
    Connection :=
  if self.is_open then
    let self := self.push (.response r.index raw)
    if keep_alive then self.loop_top draining else self.close_transport.leave .closed
  else self.loop_top draining

/-- A step of the worker task when `dispatch` is over. -/
def finish_dispatch (draining : Bool) (date : Bytes)
    (outcome : Request → Except Exc (Bytes × Bool)) (self : Connection) : Option Connection :=
  match self.worker with
  | .handling r =>
    match answer date r (outcome r) with
    | some (raw, keep_alive) => some (self.respond draining r raw keep_alive)
    | none => some (self.leave .cancelled)
  | _ => none

/-- `queue.put_nowait(_DRAIN_SENTINEL)` -/
def put_sentinel (self : Connection) : Connection :=
  { self with queue := self.queue ++ [.sentinel], waker := .put, sentinels := self.sentinels + 1 }

/-- A step of the task of `_wake_on_drain`. -/
def run_waker (event_set : Bool) (self : Connection) : Option Connection :=
  match self.waker with
  | .created => some (if event_set then self.put_sentinel else { self with waker := .waiting })
  | .waiting => if event_set then some self.put_sentinel else none
  | _ => none

/-- `connection_lost`: outside a drain the worker is cancelled, which ends its wait
for the queue. A cancellation that meets `dispatch` shows in how that ends. -/
def connection_lost (draining : Bool) (self : Connection) : Connection :=
  { self with
    attached := false
    cancelling := self.cancelling ||
      (!draining && (self.worker = .created || self.worker = .getting)) }

/-- Whether the event loop has the worker task on its ready queue. -/
def worker_ready (self : Connection) : Bool :=
  match self.worker with
  | .created => true
  | .getting => self.cancelling || !self.queue.isEmpty
  | _ => false

variable {draining : Bool} {self next : Connection}

/-- What is done to the transport without an answer: nothing, or a close. -/
def Silent (tail : List Op) : Prop := tail = [] ∨ tail = [.close]

/-- Closing the transport changes nothing else. -/
theorem close_transport_eq (self : Connection) : ∃ tail : List Op,
    self.close_transport = { self with ops := self.ops ++ tail } ∧
      (tail = [] ∨ (tail = [.close] ∧ self.is_open = true)) := by
  unfold close_transport
  cases hopen : self.is_open with
  | false => exact ⟨[], by simp, Or.inl rfl⟩
  | true => exact ⟨[.close], by simp [push], Or.inr ⟨rfl, rfl⟩⟩

/-- What a step of the worker or of its waker leaves alone: the connection differs in where
these are, in what is left on the queue and was dispatched from it, and has these ops more. -/
def Works (tail : List Op) (conn next : Connection) : Prop :=
  ∃ queue worker waker sentinels later, next = { conn with
    queue, worker, waker, sentinels
    ops := conn.ops ++ tail
    dispatched := conn.dispatched ++ later }

theorem Works.ops {tail : List Op} (hworks : Works tail self next) :
    next.ops = self.ops ++ tail := by
  obtain ⟨queue, worker, waker, sentinels, later, rfl⟩ := hworks
  rfl

theorem Works.before_drain {tail : List Op} (hworks : Works tail self next) :
    next.before_drain = self.before_drain := by
  obtain ⟨queue, worker, waker, sentinels, later, rfl⟩ := hworks
  rfl

theorem Works.attached {tail : List Op} (hworks : Works tail self next) :
    next.attached = self.attached := by
  obtain ⟨queue, worker, waker, sentinels, later, rfl⟩ := hworks
  rfl

/-- Only the tasks and the queue differ. -/
theorem works_tasks (queue : List Item) (worker : Worker) (waker : Waker) (sentinels : Nat) :
    Works [] self { self with queue, worker, waker, sentinels } :=
  ⟨queue, worker, waker, sentinels, [], by simp⟩

theorem works_close_leave (self : Connection) (exit : Exit) :
    ∃ tail, Silent tail ∧ Works tail self (self.close_transport.leave exit) := by
  obtain ⟨tail, heq, hsilent⟩ := close_transport_eq self
  refine ⟨tail, hsilent.imp_right And.left, self.queue, .exited exit, self.waker.cancel,
    self.sentinels, [], ?_⟩
  rw [heq, leave, List.append_nil]

theorem works_take_item (self : Connection) (item : Item) :
    ∃ tail, Silent tail ∧ Works tail self (self.take_item item) := by
  cases item with
  | sentinel => exact works_close_leave self .sentinel
  | request r =>
    refine ⟨[], Or.inl rfl, self.queue, .handling r, self.waker, self.sentinels, [r], ?_⟩
    rw [take_item, List.append_nil]

/-- The worker answers nothing between two requests. -/
theorem works_loop_top (draining : Bool) (self : Connection) :
    ∃ tail, Silent tail ∧ Works tail self (self.loop_top draining) := by
  unfold loop_top
  split
  · split
    · exact works_close_leave self .idle
    · exact ⟨[], Or.inl rfl, works_tasks self.queue .getting self.waker self.sentinels⟩
  · next item rest _ => exact works_take_item { self with queue := rest } item

/-- What a step of the worker can be: it ends cancelled, starts its loop, or takes
what has come on the queue. -/
theorem run_worker_cases (hnext : self.run_worker draining = some next) :
    (self.cancelling = true ∧ (next = { self with worker := .exited .cancelled } ∨
        next = self.leave .cancelled)) ∨
      (self.cancelling = false ∧ self.worker = .created ∧
        next = { self with waker := .created }.loop_top draining) ∨
      (self.cancelling = false ∧ self.worker = .getting ∧ ∃ item rest,
        self.queue = item :: rest ∧ next = { self with queue := rest }.take_item item) := by
  unfold run_worker at hnext
  split at hnext
  · rename_i hworker
    split at hnext <;> obtain rfl := Option.some.inj hnext
    · rename_i hcancelling
      exact Or.inl ⟨hcancelling, Or.inl rfl⟩
    · rename_i hkept
      exact Or.inr (Or.inl ⟨Bool.eq_false_iff.mpr hkept, hworker, rfl⟩)
  · rename_i hworker
    split at hnext
    · rename_i hcancelling
      obtain rfl := Option.some.inj hnext
      exact Or.inl ⟨hcancelling, Or.inr rfl⟩
    · rename_i hkept
      split at hnext
      · cases hnext
      · rename_i item rest hqueue
        obtain rfl := Option.some.inj hnext
        exact Or.inr (Or.inr ⟨Bool.eq_false_iff.mpr hkept, hworker, item, rest, hqueue, rfl⟩)
  · cases hnext

theorem works_run_worker (hnext : self.run_worker draining = some next) :
    ∃ tail, Silent tail ∧ Works tail self next := by
  obtain ⟨-, rfl | rfl⟩ | ⟨-, -, rfl⟩ | ⟨-, -, item, rest, -, rfl⟩ := run_worker_cases hnext
  · exact ⟨[], Or.inl rfl, works_tasks self.queue (.exited .cancelled) self.waker self.sentinels⟩
  · exact ⟨[], Or.inl rfl,
      works_tasks self.queue (.exited .cancelled) self.waker.cancel self.sentinels⟩
  · exact works_loop_top draining { self with waker := .created }
  · exact works_take_item { self with queue := rest } item

/-- What the end of a `dispatch` can lead to: the worker ends cancelled, or goes on
with or without a response on the transport, or leaves behind one that closes it. -/
theorem finish_dispatch_cases {date : Bytes} {outcome : Request → Except Exc (Bytes × Bool)}
    (hnext : self.finish_dispatch draining date outcome = some next) :
    ∃ r, self.worker = .handling r ∧
      ((answer date r (outcome r) = none ∧ next = self.leave .cancelled) ∨
        (self.is_open = true ∧ ∃ raw,
          next = (self.push (.response r.index raw)).loop_top draining ∨
            next = (self.push (.response r.index raw)).close_transport.leave .closed) ∨
        (self.is_open = false ∧ next = self.loop_top draining)) := by
  unfold finish_dispatch at hnext
  split at hnext
  · rename_i r hworker
    refine ⟨r, hworker, ?_⟩
    cases hanswer : answer date r (outcome r) with
    | none =>
      simp only [hanswer, Option.some.injEq] at hnext
      exact Or.inl ⟨rfl, hnext.symm⟩
    | some answered =>
      right
      simp only [hanswer, Option.some.injEq] at hnext
      subst hnext
      unfold respond
      split
      · rename_i hopen
        refine Or.inl ⟨hopen, answered.1, ?_⟩
        split
        · exact Or.inl rfl
        · exact Or.inr rfl
      · rename_i hclosed
        exact Or.inr ⟨Bool.eq_false_iff.mpr hclosed, rfl⟩
  · cases hnext

/-- Behind a `dispatch` the worker writes the response on an open transport, and
nothing else that answers a request. -/
theorem works_finish_dispatch {date : Bytes} {outcome : Request → Except Exc (Bytes × Bool)}
    (hnext : self.finish_dispatch draining date outcome = some next) :
    ∃ tail, Silent tail ∧ (Works tail self next ∨ (self.is_open = true ∧
      ∃ r raw, self.worker = .handling r ∧ Works (.response r.index raw :: tail) self next)) := by
  have hresponse : ∀ (r : Request) (raw : Bytes) {tail : List Op},
      Works tail (self.push (.response r.index raw)) next →
      Works (.response r.index raw :: tail) self next := by
    rintro r raw tail ⟨queue, worker, waker, sentinels, later, rfl⟩
    exact ⟨queue, worker, waker, sentinels, later, by simp [push]⟩
  obtain ⟨r, hworker, ⟨-, rfl⟩ | ⟨hopen, raw, rfl | rfl⟩ | ⟨-, rfl⟩⟩ := finish_dispatch_cases hnext
  · exact ⟨[], Or.inl rfl, Or.inl
      (works_tasks self.queue (.exited .cancelled) self.waker.cancel self.sentinels)⟩
  · obtain ⟨tail, hsilent, hworks⟩ := works_loop_top draining (self.push (.response r.index raw))
    exact ⟨tail, hsilent, Or.inr ⟨hopen, r, raw, hworker, hresponse r raw hworks⟩⟩
  · obtain ⟨tail, hsilent, hworks⟩ := works_close_leave (self.push (.response r.index raw)) .closed
    exact ⟨tail, hsilent, Or.inr ⟨hopen, r, raw, hworker, hresponse r raw hworks⟩⟩
  · obtain ⟨tail, hsilent, hworks⟩ := works_loop_top draining self
    exact ⟨tail, hsilent, Or.inl hworks⟩

/-- What a step of the waker can be: it puts the sentinel once the event is set, and
waits for that until then. -/
theorem run_waker_cases {event_set : Bool} (hnext : self.run_waker event_set = some next) :
    (event_set = true ∧ (self.waker = .created ∨ self.waker = .waiting) ∧
        next = self.put_sentinel) ∨
      (self.waker = .created ∧ next = { self with waker := .waiting }) := by
  unfold run_waker at hnext
  split at hnext
  · rename_i hwaker
    split at hnext <;> obtain rfl := Option.some.inj hnext
    · rename_i hset
      exact Or.inl ⟨hset, Or.inl hwaker, rfl⟩
    · exact Or.inr ⟨hwaker, rfl⟩
  · rename_i hwaker
    split at hnext
    · rename_i hset
      obtain rfl := Option.some.inj hnext
      exact Or.inl ⟨hset, Or.inr hwaker, rfl⟩
    · cases hnext
  · cases hnext

theorem works_run_waker {event_set : Bool} (hnext : self.run_waker event_set = some next) :
    Works [] self next := by
  obtain ⟨-, -, rfl⟩ | ⟨-, rfl⟩ := run_waker_cases hnext
  · exact works_tasks (self.queue ++ [.sentinel]) self.worker .put (self.sentinels + 1)
  · exact works_tasks self.queue self.worker .waiting self.sentinels

end Connection

/-- What can happen on one connection: the loop reads a segment, closes the transport
or reports it lost, a task runs, or `dispatch` is over. -/
inductive Act (Data : Type) where
  | data_received (date : Bytes) (feed : Feed)
  | transport_closed
  | connection_lost
  | worker
  | waker
  | dispatched (date : Bytes) (calls : Calls Data)

variable {Data : Type}

/-- One step on a connection, where it is possible. A closing transport is not read
any more. -/
def Connection.act (parse_url : ParseUrl) (handler : Handler) (self : Connection) :
    Act Data → Option Connection
  | .data_received date feed =>
    if self.is_open then some (self.read_ready parse_url date feed) else none
  | .transport_closed => if self.is_open then some (self.push .abort) else none
  | .connection_lost => if self.attached then some (self.connection_lost handler.draining) else none
  | .worker => self.run_worker handler.draining
  | .waker => self.run_waker (handler.drain_event = some true)
  | .dispatched date calls => self.finish_dispatch handler.draining date fun r =>
    (dispatch calls date r.keep_alive r.core.method ⟨[], []⟩).1

namespace Connection

variable {parse_url : ParseUrl} {handler : Handler} {self next : Connection}

theorem act_data_received {date : Bytes} {feed : Feed}
    (hnext : self.act parse_url handler (.data_received date feed : Act Data) = some next) :
    self.is_open = true ∧ next = self.read_ready parse_url date feed := by
  simp only [Connection.act, Option.ite_none_right_eq_some, Option.some.injEq] at hnext
  exact ⟨hnext.1, hnext.2.symm⟩

theorem act_transport_closed
    (hnext : self.act parse_url handler (.transport_closed : Act Data) = some next) :
    self.is_open = true ∧ next = self.push .abort := by
  simp only [Connection.act, Option.ite_none_right_eq_some, Option.some.injEq] at hnext
  exact ⟨hnext.1, hnext.2.symm⟩

theorem act_connection_lost
    (hnext : self.act parse_url handler (.connection_lost : Act Data) = some next) :
    self.attached = true ∧ next = self.connection_lost handler.draining := by
  simp only [Connection.act, Option.ite_none_right_eq_some, Option.some.injEq] at hnext
  exact ⟨hnext.1, hnext.2.symm⟩

end Connection

end massless.protocol
